import RepoConventions.CommandLine.Fault
import RepoConventions.CommandLine.Options

/-!
# Reading of arguments

Arguments are read from the left. Each option but the choice of a rule stands at most once on either side of the name
of the command, and only rules may have an empty value.
-/

namespace RepoConventions.CommandLine

/-- What was read at one level. -/
structure Reading where
  root : Option String
  config : Option String
  json : Bool
  verbose : Bool
  rules : List String
  words : List String
  deriving DecidableEq, Repr

namespace Reading

def empty : Reading := ⟨none, none, false, false, [], []⟩

def addFlag (r : Reading) (f : Flag) : Except Stop Reading :=
  match f with
  | .help => .error .help
  | .version => .error .version
  | .json => if r.json then .error (.fault (.repeated "--json")) else .ok { r with json := true }
  | .verbose => if r.verbose then .error (.fault (.repeated "--verbose")) else .ok { r with verbose := true }

/-- A value that is not empty, where there was none. -/
def newValue (name : String) (old : Option String) (value : String) : Except Stop (Option String) :=
  if old.isSome then .error (.fault (.repeated name))
  else if value.isEmpty then .error (.fault (.emptyValue name))
  else .ok (some value)

def addSetting (r : Reading) (s : Setting) (value : String) : Except Stop Reading :=
  match s with
  | .root => do return { r with root := ← newValue "--root" r.root value }
  | .config => do return { r with config := ← newValue "--config" r.config value }
  | .rule => .ok { r with rules := r.rules ++ [value] }

def addLetter (l : Level) (r : Reading) (c : Char) : Except Stop Reading :=
  match Flag.ofLetter? l c with
  | some f => r.addFlag f
  | none => .error (.fault (.unexpected (.ofList ['-', c])))

def addWord (l : Level) (r : Reading) (word : String) : Except Stop Reading :=
  if r.words.length < l.wordLimit then
    if word.isEmpty then .error (.fault (.emptyValue "file")) else .ok { r with words := r.words ++ [word] }
  else .error (.fault (.unexpected word))

/-- Reads arguments on top of what was read before. At the level of the program a word ends the reading, and it is the
first of the arguments that are left. -/
def ofArguments (l : Level) (r : Reading) : List String → Except Stop (Reading × List String)
  | [] => .ok (r, [])
  | a :: rest =>
    match Argument.ofText a with
    | .endOfOptions => do return (← rest.foldlM (addWord l) r, [])
    | .word w =>
      if l = .program then .ok (r, a :: rest)
      else do ofArguments l (← r.addWord l w) rest
    | .short letters => do ofArguments l (← letters.foldlM (addLetter l) r) rest
    | .long name value =>
      match Switch.ofName? l name, value, rest with
      | none, _, _ => .error (.fault (.unexpected a))
      | some (.flag f), none, rest => do ofArguments l (← r.addFlag f) rest
      | some (.flag _), some _, _ => .error (.fault (.unexpectedValue name))
      | some (.setting s), some value, rest => do ofArguments l (← r.addSetting s value) rest
      | some (.setting s), none, next :: rest =>
        match Argument.ofText next with
        | .word value => do ofArguments l (← r.addSetting s value) rest
        | .short _ | .long .. | .endOfOptions => .error (.fault (.missingValue a))
      | some (.setting _), none, [] => .error (.fault (.missingValue a))

end Reading

end RepoConventions.CommandLine
