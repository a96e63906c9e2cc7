import RepoConventions.Json.Basic
import RepoConventions.Workflow.Document

/-!
# Workflows as JSON

A document is written whole. Only a strategy can stand in the way: its mapping keys become texts, which null,
collections, tagged values and numbers that are not finite cannot.
-/

namespace RepoConventions.Workflow

open Yaml (Value Number)

inductive WriteError
  | keyNotText
  | keyNotFinite
  deriving DecidableEq, Repr

def WriteError.message : WriteError → String
  | keyNotText => "key must be a string"
  | keyNotFinite => "float key must be finite (got NaN or +/-inf)"

/-- The text of a finite number, and `none` for the others. -/
def numberText? : Number → Option String
  | .int n => some (Number.text (.int n))
  | .float x => x.finiteText? ⟨true⟩

def keyText : Value → Except WriteError String
  | .string s => .ok s
  | .bool b => .ok (Value.boolText b)
  | .number n =>
    match numberText? n with
    | some t => .ok t
    | none => .error .keyNotFinite
  | .null | .list _ | .mapping _ | .tagged .. => .error .keyNotText

mutual
/-- A value as JSON. A tagged value is an object with its tag, and a number that is not finite is null. -/
def valueJson : Value → Except WriteError Json
  | .null => .ok .null
  | .bool b => .ok (.bool b)
  | .number n => .ok (Json.ofOption .number (numberText? n))
  | .string s => .ok (.string s)
  | .list items => do return .array (← itemsJson items)
  | .mapping entries => do return .object (← entriesJson entries)
  | .tagged tag v => do return .object [("!" ++ tag, ← valueJson v)]

def itemsJson : List Value → Except WriteError (List Json)
  | [] => .ok []
  | v :: rest => do
    let j ← valueJson v
    return j :: (← itemsJson rest)

def entriesJson : List (Value × Value) → Except WriteError (List (String × Json))
  | [] => .ok []
  | (k, v) :: rest => do
    let name ← keyText k
    let j ← valueJson v
    return (name, j) :: (← entriesJson rest)
end

def mapJson {α : Type} (f : α → Json) (m : Text.Map α) : Json := .object (m.map f).entries

def settingsJson (s : Settings) : Json := mapJson .string s

def Trigger.json (t : Trigger) : Json :=
  .object [("event_id", .string t.eventId), ("filters", mapJson Json.texts t.filters)]

def Step.json (s : Step) : Json :=
  .object [("id", .text? s.id), ("name", .text? s.name), ("if", .text? s.condition), ("shell", .text? s.shell),
    ("env", settingsJson s.env), ("run", .text? s.run), ("uses", .text? s.uses), ("with", settingsJson s.inputs)]

def Job.json (j : Job) : Except WriteError Json := do
  let strategy ← match j.strategy with
    | some v => valueJson v
    | none => .ok .null
  return .object [("id", .string j.id), ("uses", .text? j.uses), ("name", .text? j.name),
    ("runs_on", .text? j.runsOn), ("defaults", mapJson settingsJson j.defaults), ("strategy", strategy),
    ("steps", .array (j.steps.map Step.json))]

def Document.json (d : Document) : Except WriteError Json := do
  let jobs ← d.jobs.mapM Job.json
  return .object [("name", .text? d.name), ("run_name", .text? d.runName),
    ("on", .array (d.triggers.map Trigger.json)), ("permissions", settingsJson d.permissions),
    ("env", settingsJson d.env), ("defaults", mapJson settingsJson d.defaults), ("jobs", .array jobs)]

end RepoConventions.Workflow
