import RepoConventions.CommandLine.Answer

/-!
# The program

A run as a function of the files, the variables and the arguments.
-/

namespace RepoConventions.CommandLine

open Files (FileTree)

def versionText : String := "conform 0.1.0"

def usage : List String :=
  ["Repository convention checks", "",
   "Usage: conform [OPTIONS] <COMMAND>", "",
   "Commands:",
   "  check     Run built-in rules against the repository",
   "  workflow  Parse a workflow file and print it as JSON",
   "  ignore    List loaded ignore rules grouped by check",
   "  rules     List built-in rules", "",
   "Options:",
   "      --root <ROOT>      Repository root",
   "      --config <CONFIG>  Ignore-rule file, relative to the root unless absolute",
   "      --rule <ID>        Check only this rule (repeatable)",
   "      --json             Output as structured JSON",
   "  -v, --verbose          Log at debug level",
   "  -h, --help             Print help",
   "  -V, --version          Print version"]

def Invocation.answer (i : Invocation) (t : FileTree) (lookup : String → Option String) : Answer :=
  let c := i.config t.workingPath lookup
  match i.command with
  | .check ids => check t c ids i.json
  | .workflow file => showWorkflow t c file
  | .ignore => listIgnoreRules t c i.json
  | .rules => listRules t i.json

def run (t : FileTree) (lookup : String → Option String) (arguments : List String) : Answer :=
  match Invocation.ofArguments (lookup ignoreFileVariable) arguments with
  | .ok i => i.answer t lookup
  | .error .help => .printed t usage
  | .error .version => .printed t [versionText]
  | .error (.fault f) => .failed t ("error: " ++ f.message)

end RepoConventions.CommandLine
