import RepoConventions.Files.Error
import RepoConventions.Yaml.Error

/-!
# What is wrong with a workflow
-/

namespace RepoConventions.Workflow

/-- What a field holds instead of what it should; kinds are the words of `Yaml.Value.kindName`. -/
inductive Fault
  | notMapping (kind : String)
  | notScalar (kind : String)
  | notList (kind : String)
  | jobKey (kind : String)
  | jobBody
  | steps
  | step
  | eventInList (kind : String)
  | eventName (kind : String)
  | inList (kind : String)
  | noCron
  deriving DecidableEq, Repr

def Fault.message : Fault → String
  | notMapping kind => "expected a mapping, found a " ++ kind
  | notScalar kind => "expected a scalar, found a " ++ kind
  | notList kind => "expected a list, found a " ++ kind
  | jobKey kind => "job key is a " ++ kind
  | jobBody => "job body must be a mapping"
  | steps => "steps must be a list"
  | step => "step must be a mapping"
  | eventInList kind => "event list contains a " ++ kind
  | eventName kind => "event name is a " ++ kind
  | inList kind => "list contains a " ++ kind
  | noCron => "schedule entry has no cron expression"

inductive Error
  | io (path : String) (cause : Files.FileError)
  | yaml (cause : Yaml.Error)
  | unrecognizedTriggers (kind : String)
  | invalidField (field : String) (fault : Fault)
  deriving DecidableEq, Repr

def Error.message : Error → String
  | io path _ => "failed to read " ++ path ++ ": "
  | yaml _ => "invalid YAML: "
  | unrecognizedTriggers kind => "Unable to parse workflow triggers: 'on' is a " ++ kind
  | invalidField field fault => "invalid workflow field '" ++ field ++ "': " ++ fault.message

end RepoConventions.Workflow
