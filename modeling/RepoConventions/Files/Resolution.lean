import RepoConventions.Files.Error
import RepoConventions.Files.Path
import RepoConventions.Files.Tree

/-!
# Resolution of paths

Where in a tree a path leads. Links are followed, also at the end of a path, up to `linkLimit` of them.
-/

namespace RepoConventions.Files

/-- One step of a path; a slash at the end of a path is the step `here`. -/
inductive Step
  | here
  | up
  | name (s : String)
  deriving DecidableEq, Repr

def Step.ofSegment? (segment : List Char) : Option Step :=
  match segment with
  | [] => none
  | ['.'] => some .here
  | ['.', '.'] => some .up
  | cs => some (.name (.ofList cs))

def endsWithSlash (path : String) : Bool := path.toList.getLast? = some '/'

def namedSteps (path : String) : List Step := (Path.segments path).filterMap Step.ofSegment?

def stepsOf (path : String) : List Step := namedSteps path ++ if endsWithSlash path then [.here] else []

/-- Where a path leads: to a node, to a name that a directory does not have but may have, or to a link that is still to
follow. -/
inductive Outcome
  | found (location : List String) (node : FileNode)
  | absent (directory : List String) (name : String)
  | link (directory : List String) (target : String) (rest : List Step)
  | failed (e : FileError)

def nameLimit : Nat := 255

def pathLimit : Nat := 4096

def linkLimit : Nat := 40

/-- Takes steps from a location up to the first link. -/
def walk (top : FileNode) (location : List String) : List Step → Outcome
  | [] =>
    match top.node? location with
    | some node => .found location node
    | none => .failed .notFound
  | step :: rest =>
    match top.node? location, step with
    | some (.directory _), .here => walk top location rest
    | some (.directory _), .up => walk top location.dropLast rest
    | some (.directory entries), .name s =>
      if OsText.size s > nameLimit then .failed .nameTooLong
      else match entries.lookup s with
        | some (.link target) => .link location target rest
        | some _ => walk top (location ++ [s]) rest
        | none =>
          if !isEntryName s then .failed .invalidPath
          else if rest.isEmpty then .absent location s
          else .failed .notFound
    | some (.file _), _ | some (.link _), _ => .failed .notDirectory
    | none, _ => .failed .notFound

/-- Follows links, at most a number of them. -/
def follow (top : FileNode) : Nat → List String → List Step → Outcome
  | links, location, steps =>
    match walk top location steps with
    | .link directory target rest =>
      match links with
      | 0 => .failed .linkLoop
      | links + 1 =>
        if target.isEmpty then .failed .notFound
        else follow top links (if Path.isAbsolute target then [] else directory) (stepsOf target ++ rest)
    | o => o

namespace FileTree

def startOf (t : FileTree) (path : String) : List String := if Path.isAbsolute path then [] else t.workingDirectory

def resolveSteps (t : FileTree) (path : String) (steps : List Step) : Outcome :=
  if (OsText.octets path).contains 0 then .failed .invalidPath
  else if path.isEmpty then .failed .notFound
  else if OsText.size path ≥ pathLimit then .failed .nameTooLong
  else follow t.top linkLimit (t.startOf path) steps

def resolve (t : FileTree) (path : String) : Outcome := t.resolveSteps path (stepsOf path)

end FileTree

end RepoConventions.Files
