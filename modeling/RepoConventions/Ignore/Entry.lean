import RepoConventions.RuleError
import RepoConventions.Text.Ascii
import RepoConventions.Yaml.Reading

/-!
# Ignore entries

The suppression file holds a list of entries, at its root or under the key `ignore`. Field names match in either
case, and unknown fields do not matter.
-/

namespace RepoConventions.Ignore

open Yaml (Value)

structure Entry where
  test : String
  path : String
  code : Option String
  deriving DecidableEq, Repr

/-- The value of the first key of that name. -/
def entryField? (node : Value) (name : String) : Option Value := do
  let entries ← node.entries?
  let entry ← entries.find? fun e => match e.1 with
    | .string key => Text.eqIgnoreCase key name
    | _ => false
  return entry.2

/-- The text of an untagged scalar other than null. -/
def plainText? : Value → Option String
  | .string s => some s
  | .number n => some n.text
  | .bool b => some (Value.boolText b)
  | .null | .list _ | .mapping _ | .tagged .. => none

def textField? (item : Value) (name : String) : Option String := (entryField? item name).bind plainText?

def entryOfValue (path : String) (index : Nat) (item : Value) : Except RuleError Entry :=
  match textField? item "test", textField? item "path" with
  | none, _ => .error (.missingField path index "test")
  | some _, none => .error (.missingField path index "path")
  | some test, some file => .ok ⟨test, file, textField? item "code"⟩

/-- Reads the items from a position in the list on. -/
def entriesOfList (path : String) : Nat → List Value → Except RuleError (List Entry)
  | _, [] => .ok []
  | index, item :: rest => do
    let entry ← entryOfValue path index item
    return entry :: (← entriesOfList path (index + 1) rest)

/-- The entries of a suppression file; an empty one, or one without the key, has none. -/
def entriesOfValue (path : String) (root : Value) : Except RuleError (List Entry) :=
  match root with
  | .null => .ok []
  | .mapping _ =>
    match entryField? root "ignore" with
    | none | some .null => .ok []
    | some (.list items) => entriesOfList path 0 items
    | some other => .error (.invalidConfig path (.notList other.kindName))
  | .list items => entriesOfList path 0 items
  | other => .error (.invalidConfig path (.notEntries other.kindName))

/-- Reads the text of the suppression file that stands at a path. -/
def entriesOfText (path text : String) : Except RuleError (List Entry) :=
  match Yaml.typedValue text with
  | .ok root => entriesOfValue path root
  | .error e => .error (.configParse path e)

end RepoConventions.Ignore
