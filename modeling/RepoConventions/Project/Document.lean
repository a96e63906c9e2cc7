import RepoConventions.Project.ElementPath

/-!
# Project files

What a project file says about the project: whether it is in the SDK style, holds tests, and which kind of package it
produces.
-/

namespace RepoConventions.Project

open Xml (Element)

structure Document where
  root : Element

namespace Document

def ofText? (text : String) : Option Document := (Element.ofText? text).map .mk

def boolean? (d : Document) (path : String) : Option Bool := (select? d.root path).bind Element.boolean?

/-- A project in the SDK style has no default namespace. -/
def isSdkProject (d : Document) : Bool := (d.root.attribute? "xmlns").isNone

def hasPackageReference (d : Document) (package : String) : Bool :=
  (select? d.root ("Project/ItemGroup/PackageReference[@Include='" ++ package ++ "']")).isSome

def isTestProject (d : Document) : Bool := d.hasPackageReference "Microsoft.NET.Test.Sdk"

def isPackable? (d : Document) : Option Bool := d.boolean? "Project/PropertyGroup/IsPackable"

/-- A tool is no library. Otherwise the project decides, then the repository, then the packaging reference. -/
def producesLibraryPackage (d : Document) (repoPackable : Option Bool) : Bool :=
  if d.boolean? "Project/PropertyGroup/PackAsTool" = some true then false
  else match d.isPackable? <|> repoPackable with
    | some packable => packable
    | none => d.hasPackageReference "Particular.Packaging"

def producesSourcePackage (d : Document) : Bool :=
  d.boolean? "Project/PropertyGroup/IncludeBuildOutput" = some false &&
    d.boolean? "Project/PropertyGroup/IncludeSourceFilesInPackage" = some true

end Document

end RepoConventions.Project
