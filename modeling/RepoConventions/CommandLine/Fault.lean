/-!
# Faults of usage

What is wrong with a list of arguments, and why reading it may end early.
-/

namespace RepoConventions.CommandLine

inductive UsageFault
  | unexpected (argument : String)
  | unexpectedValue (option : String)
  | missingValue (option : String)
  | emptyValue (name : String)
  | repeated (option : String)
  | missingCommand
  | unknownCommand (name : String)
  | missingFile
  deriving DecidableEq, Repr

def UsageFault.message : UsageFault → String
  | unexpected argument => "unexpected argument '" ++ argument ++ "'"
  | unexpectedValue option => "'" ++ option ++ "' takes no value"
  | missingValue option => "'" ++ option ++ "' needs a value"
  | emptyValue name => "the value of '" ++ name ++ "' is empty"
  | repeated option => "'" ++ option ++ "' is given more than once"
  | missingCommand => "the command is missing"
  | unknownCommand name => "unknown command '" ++ name ++ "'"
  | missingFile => "the workflow file is missing"

/-- Asking for help or the version ends the reading as a fault does. -/
inductive Stop
  | help
  | version
  | fault (f : UsageFault)
  deriving DecidableEq, Repr

end RepoConventions.CommandLine
