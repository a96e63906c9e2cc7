import RepoConventions.Decimal.Shortest

/-!
# JSON values

An object keeps its members in order, and a number keeps the text it is written with.
-/

namespace RepoConventions

inductive Json
  | null
  | bool (b : Bool)
  | number (text : String)
  | string (s : String)
  | array (items : List Json)
  | object (members : List (String × Json))

namespace Json

def nat (n : Nat) : Json := .number (.ofList (Decimal.digitsText n))

def ofOption {α : Type} (f : α → Json) : Option α → Json
  | some a => f a
  | none => .null

/-- A text that may be absent. -/
def text? (s : Option String) : Json := ofOption .string s

def texts (l : List String) : Json := .array (l.map .string)

/-- The first member of that name. -/
def member? (j : Json) (name : String) : Option Json :=
  match j with
  | .object members => members.lookup name
  | _ => none

def string? : Json → Option String
  | .string s => some s
  | _ => none

def bool? : Json → Option Bool
  | .bool b => some b
  | _ => none

def array? : Json → Option (List Json)
  | .array items => some items
  | _ => none

end Json

end RepoConventions
