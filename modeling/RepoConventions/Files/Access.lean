import RepoConventions.Files.Resolution

/-!
# Reading and writing files
-/

namespace RepoConventions.Files

/-- A file that is open for writing: where it is and at which octet the next write begins. -/
structure Handle where
  location : List String
  offset : Nat
  deriving DecidableEq, Repr

/-- Content with other octets from an offset on; a gap before them is filled with zeros. -/
def overwrite (content : ByteArray) (offset : Nat) (new : ByteArray) : ByteArray :=
  let gap : ByteArray := ⟨Array.replicate (offset - content.size) 0⟩
  content.extract 0 offset ++ gap ++ new ++ content.extract (offset + new.size) content.size

namespace FileTree

def read (t : FileTree) (path : String) : Except FileError ByteArray :=
  match t.resolve path with
  | .found _ (.file content) => .ok content
  | .found _ (.directory _) => .error .isDirectory
  | .found _ (.link _) | .link .. => .error .linkLoop
  | .absent .. => .error .notFound
  | .failed e => .error e

def readText (t : FileTree) (path : String) : Except FileError String := do
  match String.fromUTF8? (← t.read path) with
  | some text => .ok text
  | none => .error .notText

def doesExist (t : FileTree) (path : String) : Bool :=
  match t.resolve path with
  | .found .. => true
  | .absent .. | .link .. | .failed _ => false

/-- Where a file at a path is, or would be created. -/
def fileLocation (t : FileTree) (path : String) : Except FileError (List String) :=
  let steps := namedSteps path
  match endsWithSlash path, steps.getLast? with
  | true, some (.name _) =>
    match t.resolveSteps path (steps.dropLast ++ [.here]) with
    | .failed e => .error e
    | .found .. | .absent .. | .link .. => .error .isDirectory
  | _, _ =>
    match t.resolve path with
    | .found location (.file _) => .ok location
    | .found _ (.directory _) => .error .isDirectory
    | .found _ (.link _) | .link .. => .error .linkLoop
    | .absent directory name => .ok (directory ++ [name])
    | .failed e => .error e

/-- Creates a file, or empties it. -/
def create (t : FileTree) (path : String) : Except FileError (Handle × FileTree) := do
  let location ← t.fileLocation path
  return (⟨location, 0⟩, t.putFile location .empty)

/-- Sets the content of a file, which may be new but for its directory. A file to which nothing can be written is
emptied all the same. -/
def replace (t : FileTree) (path : String) (content : ByteArray) : Except FileError Unit × FileTree :=
  match t.fileLocation path with
  | .error e => (.error e, t)
  | .ok location =>
    match if content.isEmpty then none else t.writeFault location with
    | none => (.ok (), t.putFile location content)
    | some e => (.error e, t.putFile location .empty)

def write (t : FileTree) (path : String) (content : ByteArray) : Except FileError FileTree :=
  match t.replace path content with
  | (.ok (), t) => .ok t
  | (.error e, _) => .error e

def writeText (t : FileTree) (path text : String) : Except FileError FileTree := t.write path text.toUTF8

/-- Writes octets at an open file. -/
def append (t : FileTree) (h : Handle) (new : ByteArray) : Except FileError (Handle × FileTree) :=
  match t.writeFault h.location with
  | some e => .error e
  | none =>
    let content := match t.top.node? h.location with
      | some (.file content) => content
      | _ => .empty
    .ok (⟨h.location, h.offset + new.size⟩, t.putFile h.location (overwrite content h.offset new))

/-- Makes the missing directories of a path. -/
def makeDirectories (t : FileTree) (path : String) : FileTree :=
  let steps := namedSteps path
  (List.range (steps.length + 1)).foldl (fun t n =>
    match t.resolveSteps path (steps.take n) with
    | .absent directory name => t.putDirectory (directory ++ [name])
    | .found .. | .link .. | .failed _ => t) t

end FileTree

end RepoConventions.Files
