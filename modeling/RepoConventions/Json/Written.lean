import RepoConventions.Json.Basic

/-!
# Written JSON

One line without spaces, or one item a line indented by two spaces. A string escapes the quotation mark, the
backslash and the control characters below U+0020.
-/

namespace RepoConventions.Json

def hexDigit (n : Nat) : Char := Char.ofNat (if n < 10 then 48 + n else 87 + n)

def escaped (c : Char) : List Char :=
  if c = '"' then ['\\', '"']
  else if c = '\\' then ['\\', '\\']
  else if c = '\n' then ['\\', 'n']
  else if c = '\r' then ['\\', 'r']
  else if c = '\t' then ['\\', 't']
  else if c.toNat = 8 then ['\\', 'b']
  else if c.toNat = 12 then ['\\', 'f']
  else if c.toNat < 32 then ['\\', 'u', '0', '0', hexDigit (c.toNat / 16), hexDigit (c.toNat % 16)]
  else [c]

def quoted (s : String) : List Char := '"' :: s.toList.flatMap escaped ++ ['"']

/-- Puts `mark` between the pieces. -/
def joined (mark : List Char) : List (List Char) → List Char
  | [] => []
  | [p] => p
  | p :: ps => p ++ mark ++ joined mark ps

/-- Line break and indentation of a nesting level, and nothing in the one-line form. -/
structure Layout where
  lines : Bool

def Layout.break (l : Layout) (level : Nat) : List Char :=
  if l.lines then '\n' :: List.replicate (2 * level) ' ' else []

def Layout.colon (l : Layout) : List Char := if l.lines then [':', ' '] else [':']

/-- Items between brackets; empty brackets stay together. -/
def Layout.between (l : Layout) (level : Nat) (left right : Char) (items : List (List Char)) : List Char :=
  match items with
  | [] => [left, right]
  | _ => left :: l.break (level + 1) ++ joined (',' :: l.break (level + 1)) items ++ l.break level ++ [right]

mutual
/-- The text of a value that begins at a nesting level. -/
def written (l : Layout) (level : Nat) : Json → List Char
  | .null => ['n', 'u', 'l', 'l']
  | .bool true => ['t', 'r', 'u', 'e']
  | .bool false => ['f', 'a', 'l', 's', 'e']
  | .number t => t.toList
  | .string s => quoted s
  | .array items => l.between level '[' ']' (writtenItems l (level + 1) items)
  | .object members => l.between level '{' '}' (writtenMembers l (level + 1) members)

def writtenItems (l : Layout) (level : Nat) : List Json → List (List Char)
  | [] => []
  | j :: rest => written l level j :: writtenItems l level rest

def writtenMembers (l : Layout) (level : Nat) : List (String × Json) → List (List Char)
  | [] => []
  | (name, j) :: rest => (quoted name ++ l.colon ++ written l level j) :: writtenMembers l level rest
end

def pretty (j : Json) : String := .ofList (written ⟨true⟩ 0 j)

def compact (j : Json) : String := .ofList (written ⟨false⟩ 0 j)

end RepoConventions.Json
