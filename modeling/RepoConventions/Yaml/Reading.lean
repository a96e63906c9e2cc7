import RepoConventions.Yaml.Guided
import RepoConventions.Yaml.Resolution

/-!
# Two readings of a text

The typed reading gives every scalar its value. The reading as written goes by the shape of the typed value and keeps
the text of every scalar that is neither null nor tagged, so that `3.10` stays `3.10`; entries whose keys become equal
by that are merged.
-/

namespace RepoConventions.Yaml

namespace Tree

def withTag (tag : Option Tag) (v : Value) : Value :=
  match tag with
  | some (.custom name) => .tagged name v
  | _ => v

mutual
/-- The typed reading; no mapping may have two equal keys. -/
def typed : Tree → Except Error Value
  | .scalar tag text plain => Resolution.scalar tag plain text
  | .sequence tag items => do return withTag tag (.list (← typedItems items))
  | .mapping tag entries => do return withTag tag (.mapping (← typedEntries [] entries))

def typedItems : List Tree → Except Error (List Value)
  | [] => return []
  | t :: rest => do
    let v ← typed t
    return v :: (← typedItems rest)

/-- Reads entries after those already read. -/
def typedEntries (done : List (Value × Value)) : List (Tree × Tree) → Except Error (List (Value × Value))
  | [] => return done
  | (k, t) :: rest => do
    let key ← typed k
    if done.any fun e => e.1.same key then throw .duplicateKey
    let value ← typed t
    typedEntries (done ++ [(key, value)]) rest
end

end Tree

/-- The typed value of a text; nothing is null. -/
def typedValue (text : String) : Except Error Value := do
  match ← tree? text with
  | some t => t.typed
  | none => return .null

/-- The value of a text with scalars as written. A text whose root is no untagged mapping is read typed. -/
def valueAsWritten (text : String) : Except Error Value := do
  match ← numberedNode? text with
  | some n =>
    match ← (← Tree.ofNode n).typed with
    | .mapping entries => Guided.document (.mapping entries) n.events
    | v => return v
  | none => return .null

end RepoConventions.Yaml
