import RepoConventions.Files.Discovery
import RepoConventions.Regex.Exclusion
import RepoConventions.Rules.Record
import RepoConventions.Rules.Report
import RepoConventions.Rules.WarningReport

/-!
# Running a rule

A rule finds files by a glob, narrows them by filters, checks each of those that are left, and sums up their marks in the
order in which they were found.
-/

namespace RepoConventions.Rules

open Files (FileTree)

structure Runner where
  name : String
  context : Context
  files : List FileRecord

/-- A check of one file, which may read and write the tree and gives a value of its own. -/
abbrev Check (α : Type) := FileRecord → FileTree → α × FileRecord × FileTree

namespace Runner

/-- Finds the files below the root that a glob selects. -/
def discover (t : FileTree) (ctx : Context) (glob name : String) (failIfNone : Bool) : Except RuleError Runner := do
  let paths ← t.find ctx.root glob
  if failIfNone && paths.isEmpty then .error (.noFilesFound glob)
  else .ok ⟨name, ctx, paths.map (FileRecord.new ctx name)⟩

def size (r : Runner) : Nat := r.files.length

def isEmpty (r : Runner) : Bool := r.files.isEmpty

/-! Filters -/

/-- Keeps the files as asked for. What is asked of a record leaves nothing read in it; filters that read a document are
`projectsWhere`. -/
def filesWhere (r : Runner) (p : FileRecord → Bool) : Runner := { r with files := r.files.filter p }

/-- Drops the files whose full paths, as they are shown, have a part that matches. -/
def ignoreRegex (r : Runner) (pattern : String) : Except RuleError Runner := do
  let regex ← Regex.exclusion pattern
  return r.filesWhere fun f => !regex.occursIn (Files.OsText.shown f.fullPath)

def ignoreWildcard (r : Runner) (wildcard : String) : Except RuleError Runner :=
  r.ignoreRegex (Regex.wildcardPattern wildcard)

/-- The record of a file after its project was read, if the project is as asked for. -/
def keepProject? (t : FileTree) (p : Project.Document → Bool) (f : FileRecord) : Option FileRecord :=
  match f.project t with
  | (.ok d, f) => if p d then some f else none
  | (.error _, _) => none

/-- Keeps the files that are projects as asked for. -/
def projectsWhere (r : Runner) (t : FileTree) (p : Project.Document → Bool) : Runner :=
  { r with files := r.files.filterMap (keepProject? t p) }

def sdkProjects (r : Runner) (t : FileTree) : Runner := r.projectsWhere t (·.isSdkProject)

def testProjects (r : Runner) (t : FileTree) : Runner := r.projectsWhere t (·.isTestProject)

def libraryProjects (r : Runner) (t : FileTree) : Runner :=
  r.projectsWhere t (·.producesLibraryPackage r.context.repoPackable)

def sourceProjects (r : Runner) (t : FileTree) (producesSource : Bool) : Runner :=
  r.projectsWhere t (·.producesSourcePackage == producesSource)

/-! Checks -/

/-- Checks files one after the other. -/
def checkAll {α : Type} (check : Check α) : List FileRecord → FileTree → List (α × FileRecord) × FileTree
  | [], t => ([], t)
  | f :: rest, t =>
    let (a, f, t) := check f t
    let (done, t) := checkAll check rest t
    ((a, f) :: done, t)

def failureLines (files : List FileRecord) : List String :=
  files.flatMap fun f => f.marks.failed.lines f.relativePath

def warningLines (files : List FileRecord) : List String :=
  files.flatMap fun f => f.marks.warned.lines f.relativePath

def report (name : String) (files : List FileRecord) : RuleReport :=
  ⟨name, files.length, failureLines files, warningLines files⟩

/-- A finished run: what the checks gave, the report, and the report of warnings and the tree after it. -/
structure Run (α : Type) where
  checked : List (α × FileRecord)
  report : RuleReport
  warnings : WarningReport
  tree : FileTree

/-- Checks every file and sums up. That warnings cannot be written does not matter. -/
def run {α : Type} (r : Runner) (check : Check α) (w : WarningReport) (t : FileTree) : Run α :=
  let (checked, t) := checkAll check r.files t
  let report := report r.name (checked.map (·.2))
  let (_, w, t) := w.add t r.name report.warnings
  ⟨checked, report, w, t⟩

end Runner

end RepoConventions.Rules
