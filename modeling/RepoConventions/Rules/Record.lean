import RepoConventions.Rules.Context
import RepoConventions.Rules.Marks
import RepoConventions.Workflow.Load

/-!
# Records of files

A file that a rule checks, with its marks. The documents that it holds are read when they are first asked for, and what
was read then stays, failures included.
-/

namespace RepoConventions.Rules

open Files (FileTree FileError)

structure FileRecord where
  fullPath : String
  relativePath : String
  rule : String
  context : Context
  marks : Marks
  projectRead : Option (Except Project.Error Project.Document)
  workflowRead : Option (Except Workflow.Error Workflow.Document)

namespace FileRecord

def new (ctx : Context) (rule fullPath : String) : FileRecord :=
  ⟨fullPath, Files.Path.relativeTo ctx.root fullPath, rule, ctx, .clear, none, none⟩

def fileName (r : FileRecord) : String := ((Files.Path.fileName? r.fullPath).map Files.OsText.shown).getD ""

def directory (r : FileRecord) : String := (Files.Path.parent? r.fullPath).getD ""

/-- Whether the ignore rules excuse a violation in this file. -/
def isExcused (r : FileRecord) (v : Violation) : Bool :=
  r.context.ignores.excludes r.rule v.code r.relativePath

/-- Notes a violation unless it is excused. -/
def note (r : FileRecord) (v : Violation) : FileRecord :=
  if r.isExcused v then r else { r with marks := r.marks.add v }

def noteAll (r : FileRecord) (vs : List Violation) : FileRecord := vs.foldl note r

def project (r : FileRecord) (t : FileTree) : Except Project.Error Project.Document × FileRecord :=
  let read := r.projectRead.getD (Project.Document.load t r.fullPath)
  (read, { r with projectRead := some read })

def workflow (r : FileRecord) (t : FileTree) : Except Workflow.Error Workflow.Document × FileRecord :=
  let read := r.workflowRead.getD (Workflow.Document.load t r.fullPath)
  (read, { r with workflowRead := some read })

/-- The text of the file as it is now. -/
def readText (r : FileRecord) (t : FileTree) : Except FileError String := t.readText r.fullPath

end FileRecord

end RepoConventions.Rules
