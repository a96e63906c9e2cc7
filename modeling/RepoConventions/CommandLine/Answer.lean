import RepoConventions.CommandLine.Invocation
import RepoConventions.Rules.Summary
import RepoConventions.Workflow.Load
import RepoConventions.Workflow.Written

/-!
# Answers of the program

A run of the program ends with a code, what it prints, what it reports as errors, and the files as they are then. The
code is two when a command cannot do its work.
-/

namespace RepoConventions.CommandLine

open Files (FileTree)

structure Answer where
  code : Nat
  output : String
  errors : String
  tree : FileTree

def linesText (lines : List String) : String := .join (lines.map (· ++ "\n"))

/-- A message in the name of a command. -/
def message (command text : String) : String := "conform " ++ command ++ ": " ++ text

namespace Answer

def printed (t : FileTree) (lines : List String) : Answer := ⟨0, linesText lines, "", t⟩

def failed (t : FileTree) (line : String) : Answer := ⟨2, "", linesText [line], t⟩

end Answer

/-! Checks -/

/-- Tells the outcomes and saves the warnings, which can fail once more. -/
def checkAnswer (json : Bool) (outcomes : List (Rules.BuiltinRule × Rules.Outcome)) (s : Rules.Session) : Answer :=
  let code := Rules.exitCode (outcomes.map (·.2))
  let output := if json then [(Rules.summaryJson outcomes).pretty] else Rules.summaryLines outcomes
  let errors := if json then [] else (Rules.summaryErrors outcomes).map (message "check")
  match s.warnings.save s.tree with
  | (.ok _, _, t) => ⟨code, linesText output, linesText errors, t⟩
  | (.error e, _, t) => ⟨2, linesText output, linesText (errors ++ [message "check" e.message]), t⟩

def check (t : FileTree) (c : Config) (ids : List String) (json : Bool) : Answer :=
  match Rules.select ids with
  | .error id => .failed t (message "check" ("unknown rule '" ++ id ++ "'. Run `conform rules` to list them."))
  | .ok rules =>
    match Rules.Context.load t c with
    | .error e => .failed t (message "check" e.message)
    | .ok ctx =>
      let (outcomes, s) := Rules.runAll ctx rules ⟨.new c, t⟩
      checkAnswer json outcomes s

/-! Workflows -/

/-- A relative path that leads nowhere from the working directory is one below the root. -/
def workflowPath (t : FileTree) (c : Config) (file : String) : String :=
  if Files.Path.isAbsolute file || t.doesExist file then file else Files.Path.join c.root file

def showWorkflow (t : FileTree) (c : Config) (file : String) : Answer :=
  match Workflow.Document.load t (workflowPath t c file) with
  | .error e => .failed t (message "workflow" e.message)
  | .ok d =>
    match d.json with
    | .error e => .failed t (message "workflow" ("failed to serialize output: " ++ e.message))
    | .ok j => .printed t [j.pretty]

/-! Ignore rules -/

def ignoreRuleJson (r : Ignore.Rule) : Json :=
  .object (("path", .string r.path) :: match r.code with
    | some code => [("code", .string code)]
    | none => [])

def ignoreRulesJson (s : Ignore.RuleSet) : Json :=
  .array (s.grouped.map fun (check, rules) =>
    .object [("check", .string check), ("rules", .array (rules.map ignoreRuleJson))])

def ignoreRuleLine (r : Ignore.Rule) : String :=
  "  " ++ r.path ++ match r.code with
    | some code => " [" ++ code ++ "]"
    | none => ""

def ignoreRulesLines (s : Ignore.RuleSet) : List String :=
  s.grouped.flatMap fun (check, rules) => check :: rules.map ignoreRuleLine

def listIgnoreRules (t : FileTree) (c : Config) (json : Bool) : Answer :=
  match Rules.loadIgnores t c with
  | .error e => .failed t (message "ignore" e.message)
  | .ok s =>
    if json then .printed t [(ignoreRulesJson s).pretty]
    else if s.isEmpty then .printed t ["No ignore rules in " ++ Files.OsText.shown c.ignoreFilePath]
    else .printed t (ignoreRulesLines s)

/-! Built-in rules -/

def ruleJson (r : Rules.BuiltinRule) : Json :=
  .object [("id", .string r.id), ("description", .string r.description)]

/-- The names of rules are padded to this width. -/
def idWidth : Nat := 24

def padded (id : String) : String := .ofList (id.toList ++ List.replicate (idWidth - id.length) ' ')

def ruleLine (r : Rules.BuiltinRule) : String := padded r.id ++ " " ++ r.description

def listRules (t : FileTree) (json : Bool) : Answer :=
  if json then .printed t [(Json.array (Rules.builtinRules.map ruleJson)).pretty]
  else .printed t (Rules.builtinRules.map ruleLine)

end RepoConventions.CommandLine
