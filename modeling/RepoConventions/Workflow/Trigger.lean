import RepoConventions.Workflow.Fields

/-!
# Triggers

The events that start a workflow. A scalar names one event, a list several, and a mapping gives each event its
configuration, of which the filters are kept.
-/

namespace RepoConventions.Workflow

open Yaml (Value)

structure Trigger where
  eventId : String
  filters : Text.Map (List String)
  deriving DecidableEq, Repr

namespace Trigger

/-- A trigger without filters. -/
def named (eventId : String) : Trigger := ⟨eventId, .empty⟩

def describe (t : Trigger) : String :=
  if t.filters.isEmpty then "Trigger on: " ++ t.eventId
  else "Trigger on: " ++ t.eventId ++ ", filter on " ++ ",".intercalate t.filters.keys

end Trigger

def scheduleEvent : String := "schedule"

def dispatchEvent : String := "workflow_dispatch"

def cronFilter : String := "cron"

/-- The event an untagged scalar names. -/
def eventName? (v : Value) : Option String :=
  match v with
  | .string _ | .bool _ | .number _ => v.scalarText?
  | _ => none

/-- The cron expressions of a schedule; items that are no mappings have none. -/
def cronExpressions (config : Value) : Except Error (List String) :=
  match config with
  | .list items =>
    (items.filter Value.isMapping).mapM fun item =>
      match text? item cronFilter with
      | some text => .ok text
      | none => .error (.invalidField "on.schedule" .noCron)
  | v => .error (.invalidField "on.schedule" (.notList v.kindName))

/-- The values of a filter, if the entry is one: nested configuration is none. -/
def filterValues? (field : String) (v : Value) : Except Error (Option (List String)) :=
  match v with
  | .list items => do
    return some (← items.mapM fun item =>
      match item.scalarText? with
      | some text => .ok text
      | none => .error (.invalidField field (.inList item.kindName)))
  | .null | .mapping _ | .tagged .. => .ok none
  | v => .ok (v.scalarText?.map fun text => [text])

def addFilter (eventId : String) (m : Text.Map (List String)) (entry : Value × Value) :
    Except Error (Text.Map (List String)) :=
  match entry.1.scalarText? with
  | none => .ok m
  | some name => do
    match ← filterValues? ("on." ++ eventId ++ "." ++ name) entry.2 with
    | some values => return m.insert name values
    | none => return m

/-- The filters in the configuration of an event. -/
def eventFilters (eventId : String) (config : Value) : Except Error (Text.Map (List String)) :=
  match config with
  | .null => .ok .empty
  | config =>
    if eventId = scheduleEvent then do return Text.Map.empty.insert cronFilter (← cronExpressions config)
    else if eventId = dispatchEvent then .ok .empty
    else match config with
      | .mapping entries => entries.foldlM (addFilter eventId) .empty
      | _ => .ok .empty

def triggerInList (v : Value) : Except Error Trigger :=
  match eventName? v with
  | some name => .ok (.named name)
  | none => .error (.invalidField "on" (.eventInList v.kindName))

def triggerOfEntry (entry : Value × Value) : Except Error Trigger :=
  match eventName? entry.1 with
  | some name => do return ⟨name, ← eventFilters name entry.2⟩
  | none => .error (.invalidField "on" (.eventName entry.1.kindName))

/-- The triggers of a workflow's `on` node. -/
def triggers (on : Option Value) : Except Error (List Trigger) :=
  match on with
  | none | some .null => .ok []
  | some (.list events) => events.mapM triggerInList
  | some (.mapping events) => events.mapM triggerOfEntry
  | some v =>
    match eventName? v with
    | some name => .ok [.named name]
    | none => .error (.unrecognizedTriggers v.kindName)

end RepoConventions.Workflow
