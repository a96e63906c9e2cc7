import RepoConventions.Text.Blank
import RepoConventions.Text.Cut
import RepoConventions.Xml.Element

/-!
# Element paths

A path names elements from the root down, such as `Project/ItemGroup/PackageReference[@Include='X']`. A step has a
tag name and may ask for the value of an attribute. Steps match elements without a namespace only.
-/

namespace RepoConventions.Project

open Xml (Element)

structure Step where
  name : String
  filter : Option (String × String)
  deriving DecidableEq, Repr

def isQuote (c : Char) : Bool := c = '"' || c = '\''

/-- Brackets at the end and quotation marks around the value are dropped; a filter without `=` is part of the name. -/
def Step.ofChars (cs : List Char) : Step :=
  let filter := do
    let (name, rest) ← Text.cutAt? ['[', '@'] cs
    let (key, value) ← Text.cutAt? ['='] (rest.reverse.dropWhile (· = ']')).reverse
    return (name, key, Text.trimBoth isQuote value)
  match filter with
  | some (name, key, value) => ⟨.ofList name, some (.ofList key, .ofList value)⟩
  | none => ⟨.ofList cs, none⟩

def Step.matches (s : Step) (e : Element) : Bool :=
  e.namespaceUri.isNone && e.name == s.name &&
    match s.filter with
    | some (key, value) => e.attribute? key == some value
    | none => true

/-- The steps of a path; slashes at its start do not count. -/
def stepsOfPath (path : String) : List Step :=
  (Text.splitOn '/' (path.toList.dropWhile (· = '/'))).map Step.ofChars

/-- The elements that match the steps below those of a list. -/
def descend (steps : List Step) (elements : List Element) : List Element :=
  steps.foldl (fun current s => (current.flatMap (·.children)).filter s.matches) elements

/-- All elements at a path, in document order. The first step is for the root. -/
def selectAll (root : Element) (path : String) : List Element :=
  match stepsOfPath path with
  | first :: rest => if first.matches root then descend rest [root] else []
  | [] => []

def select? (root : Element) (path : String) : Option Element := (selectAll root path).head?

end RepoConventions.Project
