/-!
# Why a file operation fails
-/

namespace RepoConventions.Files

inductive FileError
  | notFound
  | notDirectory
  | isDirectory
  | linkLoop
  | nameTooLong
  | invalidPath
  | notText
  deriving DecidableEq, Repr

end RepoConventions.Files
