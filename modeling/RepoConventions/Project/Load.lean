import RepoConventions.Files.Access
import RepoConventions.Project.Document

/-!
# Project files in a tree
-/

namespace RepoConventions.Project

inductive Error
  | io (path : String) (cause : Files.FileError)
  | xml (path : String)
  deriving DecidableEq, Repr

def Error.message : Error → String
  | io path _ => "failed to read " ++ path ++ ": "
  | xml path => "failed to parse " ++ path ++ ": "

namespace Document

/-- Reads the text of the project file that stands at a path. -/
def ofText (path text : String) : Except Error Document :=
  match ofText? text with
  | some d => .ok d
  | none => .error (.xml path)

/-- The document of a file. -/
def load (t : Files.FileTree) (path : String) : Except Error Document :=
  match t.readText path with
  | .ok text => ofText (Files.OsText.shown path) text
  | .error e => .error (.io (Files.OsText.shown path) e)

end Document

end RepoConventions.Project
