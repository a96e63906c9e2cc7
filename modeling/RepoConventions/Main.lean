import RepoConventions.CommandLine.Program

/-!
# The command line

Takes the files that a run needs from the disk, runs, and gives back what the run tells.
-/

namespace RepoConventions.CommandLine

open Files (FileTree)

def variableNames : List String :=
  ["GITHUB_WORKSPACE", "CI", "GITHUB_STEP_SUMMARY", "GITHUB_OUTPUT", "CONFORM_PRIVATE_REPO", ignoreFileVariable]

/-- The files and directories that a command may read. -/
def neededPaths (i : Invocation) (workingPath : String) (lookup : String → Option String) : List String :=
  let c := i.config workingPath lookup
  let paths := match i.command with
    | .check _ => [c.root, c.ignoreFilePath, Files.Path.join c.root Rules.sharedProperties]
    | .workflow file => [file, Files.Path.join c.root file]
    | .ignore => [c.ignoreFilePath]
    | .rules => []
  paths.map (Files.Path.join workingPath)

def takeFile (t : FileTree) (path : String) : IO FileTree := do
  try
    let content ← IO.FS.readBinFile path
    let t := t.makeDirectories ((Files.Path.parent? path).getD "/")
    return (t.write path content).toOption.getD t
  catch _ => return t

/-- The entries of a directory, and none of one that cannot be listed. -/
def entriesOf (path : String) : IO (Array IO.FS.DirEntry) := do
  try
    (← IO.FS.realPath path).readDir
  catch _ => return #[]

/-- What kind of file an entry is, if that can be told. -/
def typeOf? (entry : IO.FS.DirEntry) : IO (Option IO.FS.FileType) := do
  try
    return some (← entry.path.symlinkMetadata).type
  catch _ => return none

/-- Takes a directory with what is below it. Links and what belongs to version control are left out, and so is what
cannot be read. -/
partial def takeDirectory (t : FileTree) (path : String) : IO FileTree := do
  let mut t := t.makeDirectories path
  for entry in ← entriesOf path do
    let below := Files.Path.join path entry.fileName
    match ← typeOf? entry with
    | some .dir => if entry.fileName ≠ Files.versionControlName then t ← takeDirectory t below
    | some .file => t ← takeFile t below
    | some _ | none => pure ()
  return t

def isDirectory (path : String) : IO Bool := do
  try
    (← IO.FS.realPath path).isDir
  catch _ => return false

def takePath (t : FileTree) (path : String) : IO FileTree := do
  if ← isDirectory path then takeDirectory t path else takeFile t path

/-- Writes the files that differ from what they were. -/
def giveBack (before after : FileTree) : IO Unit := do
  for location in Files.filesBelow "/" [] after.top do
    let path := "/" ++ "/".intercalate location
    match after.read path, before.read path with
    | .ok content, .ok old => if content.data ≠ old.data then IO.FS.writeBinFile path content
    | .ok content, .error _ => IO.FS.writeBinFile path content
    | .error _, _ => pure ()

def workingTree (workingPath : String) : FileTree :=
  let t := FileTree.empty.makeDirectories workingPath
  match t.resolve workingPath with
  | .found location _ => { t with workingDirectory := location }
  | .absent .. | .link .. | .failed _ => t

end RepoConventions.CommandLine

open RepoConventions.CommandLine in
def main (arguments : List String) : IO UInt32 := do
  let workingPath := (← IO.currentDir).toString
  let environment ← variableNames.filterMapM fun name => return (← IO.getEnv name).map (name, ·)
  let lookup name := environment.lookup name
  let paths := match Invocation.ofArguments (lookup ignoreFileVariable) arguments with
    | .ok i => neededPaths i workingPath lookup
    | .error _ => []
  let before ← paths.foldlM takePath (workingTree workingPath)
  let answer := run before lookup arguments
  giveBack before answer.tree
  IO.print answer.output
  IO.eprint answer.errors
  return answer.code.toUInt32
