import RepoConventions.CommandLine.Argument

/-!
# Commands and options

The commands of the program, and which options may stand before the name of a command and after it.
-/

namespace RepoConventions.CommandLine

inductive CommandName
  | check
  | workflow
  | ignore
  | rules
  deriving DecidableEq, Repr

def CommandName.ofText? (text : String) : Option CommandName :=
  match text with
  | "check" => some .check
  | "workflow" => some .workflow
  | "ignore" => some .ignore
  | "rules" => some .rules
  | _ => none

/-- Where an argument stands: before the name of a command or after it. -/
inductive Level
  | program
  | command (name : CommandName)
  deriving DecidableEq, Repr

/-- How many words belong to a command. -/
def Level.wordLimit : Level → Nat
  | command .workflow => 1
  | program | command .check | command .ignore | command .rules => 0

/-- An option without a value. -/
inductive Flag
  | json
  | verbose
  | help
  | version
  deriving DecidableEq, Repr

/-- An option with a value. -/
inductive Setting
  | root
  | config
  | rule
  deriving DecidableEq, Repr

inductive Switch
  | flag (f : Flag)
  | setting (s : Setting)
  deriving DecidableEq, Repr

/-- The option of a long name. The version is an option of the program alone, and rules are chosen for a check alone. -/
def Switch.ofName? (l : Level) (name : String) : Option Switch :=
  match name with
  | "json" => some (.flag .json)
  | "verbose" => some (.flag .verbose)
  | "help" => some (.flag .help)
  | "version" => if l = .program then some (.flag .version) else none
  | "root" => some (.setting .root)
  | "config" => some (.setting .config)
  | "rule" => if l = .command .check then some (.setting .rule) else none
  | _ => none

def Flag.ofLetter? (l : Level) (c : Char) : Option Flag :=
  match c with
  | 'v' => some .verbose
  | 'h' => some .help
  | 'V' => if l = .program then some .version else none
  | _ => none

end RepoConventions.CommandLine
