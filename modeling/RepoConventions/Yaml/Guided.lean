import RepoConventions.Yaml.Event
import RepoConventions.Yaml.Tree
import RepoConventions.Yaml.Value

/-!
# Reading events by a shape

A second reading of a document takes its typed value as a shape. Where the shape has a scalar, it takes the text of the
scalar; nulls and tagged values are passed over and stay as they are. It follows aliases under the same limits as
the first reading.
-/

namespace RepoConventions.Yaml

namespace Guided

/-- What follows the next node; an alias in it is one event. `opened` collections are still to be closed. -/
def skip (opened : Nat) : List Event → Except Error (List Event)
  | [] => .error .missingNode
  | .alias _ :: rest | .scalar .. :: rest => if opened = 0 then .ok rest else skip opened rest
  | .sequenceStart _ :: rest | .mappingStart _ :: rest => skip (opened + 1) rest
  | .sequenceEnd :: rest | .mappingEnd :: rest =>
    match opened with
    | 0 => .error .missingNode
    | 1 => .ok rest
    | opened + 1 => skip opened rest

/-- Whether a collection has no further item. -/
def atEnd : List Event → Bool
  | [] | .sequenceEnd :: _ | .mappingEnd :: _ => true
  | _ => false

/-- What follows the end of a collection; no item may be left. -/
def close (ending : Event) : List Event → Except Error (List Event)
  | e :: rest => if e = ending then .ok rest else .error .wrongLength
  | [] => .error .wrongLength

variable (limit : Nat) (places : List (Nat × List Event))

/-- The event that a node begins with and what follows it there. After an alias the reading goes on elsewhere. -/
def enter (es : List Event) : Node.Following (Event × List Event × Option (List Event)) := do
  match es with
  | .alias a :: after =>
    Node.follow limit
    match places.lookup a with
    | some (e :: inner) => return (e, inner, some after)
    | _ => throw .unknownAnchor
  | e :: inner => return (e, inner, none)
  | [] => throw .missingNode

/-- The text of a scalar. -/
def scalarText (es : List Event) : Node.Following (Value × List Event) := do
  let (start, inner, back) ← enter limit places es
  match start with
  | .scalar _ text => return (.string text, back.getD inner)
  | _ => throw .wrongKind

mutual
/-- Reads one node by its shape, at most `depth` collections deep, and returns what follows it. -/
def node (depth : Nat) : Value → List Event → Node.Following (Value × List Event)
  | .bool _, es | .number _, es | .string _, es => scalarText limit places es
  | .list items, es => do
    let (start, inner, back) ← enter limit places es
    match start, depth with
    | .sequenceStart _, depth + 1 =>
      let (items, es) ← nodes depth items inner
      let after ← close .sequenceEnd es
      return (.list items, back.getD after)
    | .sequenceStart _, 0 => throw .tooDeep
    | _, _ => throw .wrongKind
  | .mapping entries, es => do
    let (start, inner, back) ← enter limit places es
    match start, depth with
    | .mappingStart _, depth + 1 =>
      let (entries, es) ← entriesAfter depth [] entries inner
      let after ← close .mappingEnd es
      return (.mapping entries, back.getD after)
    | .mappingStart _, 0 => throw .tooDeep
    | _, _ => throw .wrongKind
  | .null, es => do return (.null, ← skip 0 es)
  | .tagged tag v, es => do return (.tagged tag v, ← skip 0 es)

def nodes (depth : Nat) : List Value → List Event → Node.Following (List Value × List Event)
  | [], es => return ([], es)
  | v :: rest, es => do
    if atEnd es then throw .wrongLength
    let (w, es) ← node depth v es
    let (ws, es) ← nodes depth rest es
    return (w :: ws, es)

/-- Reads entries after those already read; an equal key keeps its place and takes the new value. -/
def entriesAfter (depth : Nat) (done : List (Value × Value)) :
    List (Value × Value) → List Event → Node.Following (List (Value × Value) × List Event)
  | [], es => return (done, es)
  | (k, v) :: rest, es => do
    if atEnd es then throw .wrongLength
    let (key, es) ← node depth k es
    let (value, es) ← node depth v es
    entriesAfter depth (Value.insertEntry done key value) rest es
end

/-- Reads the events of a document by its shape. -/
def document (shape : Value) (events : List Event) : Except Error Value := do
  let ((v, _), _) ←
    (node (Node.aliasLimit events.length) (anchorPlaces events).reverse Node.depthLimit shape events).run 0
  return v

end Guided

end RepoConventions.Yaml
