import RepoConventions.Files.Access
import RepoConventions.Files.Glob

/-!
# Discovery of files

The regular files below a root. Entries named `.git` and what is below them are left out, links are not followed, and
directories that cannot be listed are passed over. A root may be a link or a regular file itself. The result is in
ascending order of the names on the way to a file.
-/

namespace RepoConventions.Files

def versionControlName : String := ".git"

/-- A root that is written like this is taken for the standard input, in which nothing is found. -/
def standardInput : String := "-"

def isStandardInput (root : String) : Bool := Path.components root = Path.components standardInput

def pathBelow (root : String) (names : List String) : String := names.foldl Path.join root

/-- Whether the directory at a path can be listed: the path must not be too long. -/
def canList (path : String) : Bool := OsText.size path < pathLimit

mutual
/-- The names on the ways to the files at and below a node, to which names lead from the root. -/
def filesBelow (root : String) (names : List String) : FileNode → List (List String)
  | .file _ => [names]
  | .link _ => []
  | .directory entries => if canList (pathBelow root names) then filesAmong root names entries else []

def filesAmong (root : String) (names : List String) : List (String × FileNode) → List (List String)
  | [] => []
  | (name, node) :: rest =>
    (if name = versionControlName then [] else filesBelow root (names ++ [name]) node) ++ filesAmong root names rest
end

/-- The order of lists by their first difference, in which names are compared by their octets; a list stands before its
continuations. -/
def precedes : List String → List String → Bool
  | [], _ => true
  | _ :: _, [] => false
  | a :: as, b :: bs =>
    OsText.octets a < OsText.octets b || (OsText.octets a = OsText.octets b && precedes as bs)

namespace FileTree

/-- The files below a root by the names that lead there; a root that is a file has none on the way. -/
def files (t : FileTree) (root : String) : List (List String) :=
  match t.resolve root with
  | .found _ node => if isStandardInput root then [] else (filesBelow root [] node).mergeSort precedes
  | .absent .. | .link .. | .failed _ => []

end FileTree

def Glob.selects (g : Glob) (root : String) (names : List String) : Bool :=
  if g.isForPaths then g.accepts ("/".intercalate names)
  else (Path.fileName? (pathBelow root names)).any g.accepts

/-- The paths of all files below a root that a glob selects. -/
def FileTree.find (t : FileTree) (root glob : String) : Except RuleError (List String) := do
  let g ← Glob.ofText glob
  return ((t.files root).filter (g.selects root)).map (pathBelow root)

end RepoConventions.Files
