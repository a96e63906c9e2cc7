import RepoConventions.Yaml.Token

/-!
# Nodes

The node graph of a document. Anchors are named by any type: by text as they are written, by numbers once it is
settled which node an alias stands for.
-/

namespace RepoConventions.Yaml

/-- What a tag asks for: a tag of the application, a scalar of the core schema, or text. -/
inductive Tag
  | custom (name : String)
  | null
  | bool
  | int
  | float
  | other
  deriving DecidableEq, Repr

namespace Tag

private def core (word : String) : List UInt8 := ("tag:yaml.org,2002:" ++ word).toList.flatMap String.utf8EncodeChar

/-- An exclamation mark at the beginning of a longer name is not part of it. -/
def bareName (cs : List Char) : List Char :=
  match cs with
  | '!' :: c :: rest => c :: rest
  | cs => cs

/-- Reads the octets of a resolved tag. An unreadable application tag asks for nothing. -/
def ofOctets? (octets : List UInt8) : Option Tag :=
  if octets.head? = some 33 then
    (String.fromUTF8? ⟨octets.toArray⟩).map fun s => .custom (.ofList (bareName (bareName s.toList)))
  else if octets = core "null" then some .null
  else if octets = core "bool" then some .bool
  else if octets = core "int" then some .int
  else if octets = core "float" then some .float
  else some .other

end Tag

inductive Node (ι : Type)
  | scalar (anchor : Option ι) (tag : Option Tag) (text : String) (plain : Bool)
  | sequence (anchor : Option ι) (tag : Option Tag) (items : List (Node ι))
  | mapping (anchor : Option ι) (tag : Option Tag) (entries : List (Node ι × Node ι))
  | alias (target : ι)

namespace Node

/-- A node that is not written. -/
def absent {ι : Type} : Node ι := .scalar none none "" true

mutual
/-- How many marks a node is serialised as: one for a scalar or alias, two around a collection. -/
def markCount {ι : Type} : Node ι → Nat
  | .scalar .. | .alias _ => 1
  | .sequence _ _ items => 2 + markCountItems items
  | .mapping _ _ entries => 2 + markCountEntries entries

def markCountItems {ι : Type} : List (Node ι) → Nat
  | [] => 0
  | n :: rest => n.markCount + markCountItems rest

def markCountEntries {ι : Type} : List (Node ι × Node ι) → Nat
  | [] => 0
  | (k, v) :: rest => k.markCount + v.markCount + markCountEntries rest
end

end Node

end RepoConventions.Yaml
