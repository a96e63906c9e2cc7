import RepoConventions.CommandLine.Reading
import RepoConventions.Config

/-!
# Invocations

What the program is asked to do, and the configuration for it. Where an option stands on both sides of the command's
name, the inner one counts.
-/

namespace RepoConventions.CommandLine

inductive Command
  | check (rules : List String)
  | workflow (file : String)
  | ignore
  | rules
  deriving DecidableEq, Repr

structure Invocation where
  command : Command
  root : Option String
  ignoreFile : Option String
  json : Bool
  verbose : Bool
  deriving DecidableEq, Repr

/-- The variable that names the suppression file when no option does. -/
def ignoreFileVariable : String := "CONFORM_CONFIG"

/-- An empty variable is at fault on each level that would use it. -/
def checkVariable (fromVariable : Option String) (r : Reading) : Except Stop Unit :=
  if r.config.isNone && fromVariable = some "" then .error (.fault (.emptyValue ignoreFileVariable)) else .ok ()

def Command.ofReading (name : CommandName) (r : Reading) : Except Stop Command :=
  match name with
  | .check => .ok (.check r.rules)
  | .workflow =>
    match r.words.head? with
    | some file => .ok (.workflow file)
    | none => .error (.fault .missingFile)
  | .ignore => .ok .ignore
  | .rules => .ok .rules

/-- Help can be asked for about one command, also about help. -/
def helpAbout (words : List String) : Stop :=
  match words with
  | [] | ["help"] => .help
  | [word] => if (CommandName.ofText? word).isSome then .help else .fault (.unknownCommand word)
  | word :: _ :: _ => .fault (.unknownCommand word)

namespace Invocation

def ofReadings (fromVariable : Option String) (outer inner : Reading) (name : CommandName) :
    Except Stop Invocation := do
  let command ← Command.ofReading name inner
  checkVariable fromVariable inner
  checkVariable fromVariable outer
  return {
    command
    root := inner.root <|> outer.root
    ignoreFile := inner.config <|> outer.config <|> fromVariable
    json := inner.json || outer.json
    verbose := inner.verbose || outer.verbose }

def ofArguments (fromVariable : Option String) (arguments : List String) : Except Stop Invocation := do
  let (outer, rest) ← Reading.ofArguments .program .empty arguments
  match rest with
  | [] => .error (.fault .missingCommand)
  | word :: rest =>
    match CommandName.ofText? word with
    | some name =>
      let (inner, _) ← Reading.ofArguments (.command name) .empty rest
      ofReadings fromVariable outer inner name
    | none => .error (if word = "help" then helpAbout rest else .fault (.unknownCommand word))

/-- The configuration of the environment, with the options in place of what it says. -/
def config (i : Invocation) (workingPath : String) (lookup : String → Option String) : Config :=
  let c := Config.ofVariables workingPath lookup
  let c := match i.root with
    | some path => c.withRoot (Files.Path.absolute workingPath path)
    | none => c
  match i.ignoreFile with
  | some path => c.withIgnoreFile path
  | none => c

end Invocation

end RepoConventions.CommandLine
