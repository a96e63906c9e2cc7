import RepoConventions.Yaml.Node

/-!
# Events

The nodes of a document as one stream. Aliases stand in it as they are written, and an anchor marks the place from
which the node that it names is read again.
-/

namespace RepoConventions.Yaml

inductive Event
  | alias (target : Nat)
  | scalar (anchor : Option Nat) (text : String)
  | sequenceStart (anchor : Option Nat)
  | sequenceEnd
  | mappingStart (anchor : Option Nat)
  | mappingEnd
  deriving DecidableEq, Repr

def Event.anchor? : Event → Option Nat
  | .scalar anchor _ | .sequenceStart anchor | .mappingStart anchor => anchor
  | .alias _ | .sequenceEnd | .mappingEnd => none

namespace Node

mutual
/-- The events of a node, without its tags. -/
def events : Node Nat → List Event
  | .scalar anchor _ text _ => [.scalar anchor text]
  | .sequence anchor _ items => .sequenceStart anchor :: (eventsItems items ++ [.sequenceEnd])
  | .mapping anchor _ entries => .mappingStart anchor :: (eventsEntries entries ++ [.mappingEnd])
  | .alias target => [.alias target]

def eventsItems : List (Node Nat) → List Event
  | [] => []
  | n :: rest => n.events ++ eventsItems rest

def eventsEntries : List (Node Nat × Node Nat) → List Event
  | [] => []
  | (k, v) :: rest => k.events ++ v.events ++ eventsEntries rest
end

end Node

/-- The anchored places of a stream in order, each as what is read from there. -/
def anchorPlaces : List Event → List (Nat × List Event)
  | [] => []
  | e :: rest => (e.anchor?.map fun a => (a, e :: rest)).toList ++ anchorPlaces rest

end RepoConventions.Yaml
