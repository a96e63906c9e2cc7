import RepoConventions.Workflow.Job
import RepoConventions.Workflow.Trigger
import RepoConventions.Yaml.Reading

/-!
# Workflow documents

A workflow has a name, triggers, permissions, environment, defaults and jobs. Read from a text it keeps scalars
as they are written; read from a typed value it has numbers and booleans in canonical form.
-/

namespace RepoConventions.Workflow

open Yaml (Value)

structure Document where
  name : Option String
  runName : Option String
  triggers : List Trigger
  permissions : Settings
  env : Settings
  defaults : Defaults
  jobs : List Job

/-- The key of a single permission level, which stands for every scope. -/
def allPermissions : String := "*"

def permissions (node : Option Value) : Except Error Settings :=
  match node with
  | some (.string level) => .ok (Text.Map.empty.insert allPermissions level)
  | node => settings node "permissions"

/-- The `on` node; its key may have been written as a boolean. -/
def onNode? (root : Value) : Option Value :=
  root.field? "on" <|>
    (root.entries?.bind fun entries => (entries.find? fun e => Value.same (.bool true) e.1).map (·.2)) <|>
    root.field? "true" <|> root.field? "True" <|> root.field? "TRUE"

def jobOfEntry (entry : Value × Value) : Except Error Job :=
  match entry.1.scalarText? with
  | some id => Job.ofValue id entry.2
  | none => .error (.invalidField "jobs" (.jobKey entry.1.kindName))

def jobs (node : Option Value) : Except Error (List Job) :=
  match node with
  | none | some .null => .ok []
  | some (.mapping entries) => entries.mapM jobOfEntry
  | some v => .error (.invalidField "jobs" (.notMapping v.kindName))

namespace Document

def ofValue (root : Value) : Except Error Document :=
  if root.isMapping then do
    let jobs ← Workflow.jobs (root.field? "jobs")
    let triggers ← Workflow.triggers (onNode? root)
    let permissions ← Workflow.permissions (root.field? "permissions")
    let env ← settings (root.field? "env") "env"
    let defaults ← Workflow.defaults (root.field? "defaults") "defaults"
    return { name := text? root "name", runName := text? root "run-name", triggers, permissions, env, defaults, jobs }
  else .error (.invalidField "<document>" (.notMapping root.kindName))

def ofText (text : String) : Except Error Document :=
  match Yaml.valueAsWritten text with
  | .ok root => ofValue root
  | .error e => .error (.yaml e)

/-- The document of a text read typed. -/
def ofTypedText (text : String) : Except Error Document :=
  match Yaml.typedValue text with
  | .ok root => ofValue root
  | .error e => .error (.yaml e)

def trigger? (d : Document) (eventId : String) : Option Trigger := d.triggers.find? (·.eventId = eventId)

def job? (d : Document) (id : String) : Option Job := d.jobs.find? (·.id = id)

end Document

end RepoConventions.Workflow
