import RepoConventions.Files.Access
import RepoConventions.Workflow.Document

/-!
# Workflow files
-/

namespace RepoConventions.Workflow

/-- The document of a file. -/
def Document.load (t : Files.FileTree) (path : String) : Except Error Document :=
  match t.readText path with
  | .ok text => ofText text
  | .error e => .error (.io (Files.OsText.shown path) e)

end RepoConventions.Workflow
