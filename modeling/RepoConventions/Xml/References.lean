import RepoConventions.Text.Ascii
import RepoConventions.Xml.Characters

/-!
# References and line ends

The characters that texts and attribute values stand for. Only the five predefined entities are known.
-/

namespace RepoConventions.Xml

/-- The character with a number; where there is none, the replacement character. -/
def charOfNat (n : Nat) : Char := if n.isValidChar then Char.ofNat n else Char.ofNat 0xFFFD

def charOfEntity? (name : String) : Option Char :=
  match name with
  | "quot" => some '"'
  | "amp" => some '&'
  | "apos" => some '\''
  | "lt" => some '<'
  | "gt" => some '>'
  | _ => none

def charOfDigits? (base : Nat) (digits : List Char) : Option Char := do
  let n ← Text.natOfDigits? base digits
  if n < 0x100000000 && isAllowed (charOfNat n) then some (charOfNat n) else none

/-- The character of a reference without its `&` and `;`. -/
def charOfReference? : List Char → Option Char
  | '#' :: 'x' :: digits => charOfDigits? 16 digits
  | '#' :: digits => charOfDigits? 10 digits
  | name => charOfEntity? (.ofList name)

/-- A character as it stands, or one that a reference stands for. -/
inductive TextUnit
  | plain (c : Char)
  | referred (c : Char)
  deriving DecidableEq, Repr

/-- Reads the references of a text; `pending` holds what follows an open `&`, in reverse. -/
def unitsFrom? : Option (List Char) → List Char → Option (List TextUnit)
  | none, [] => some []
  | some _, [] => none
  | none, c :: rest => if c = '&' then unitsFrom? (some []) rest else (unitsFrom? none rest).map (.plain c :: ·)
  | some pending, c :: rest =>
    if c = ';' then do return .referred (← charOfReference? pending.reverse) :: (← unitsFrom? none rest)
    else unitsFrom? (some (c :: pending)) rest

def units? (cs : List Char) : Option (List TextUnit) := unitsFrom? none cs

/-- An attribute value: every plain white space is a space, and a carriage return before a line feed is none. -/
def attributeValue : List TextUnit → List Char
  | [] => []
  | .referred c :: rest => c :: attributeValue rest
  | .plain c :: rest =>
    if c = '\r' && rest.head? = some (.plain '\n') then attributeValue rest
    else (if isSpace c then ' ' else c) :: attributeValue rest

def attributeValue? (raw : List Char) : Option String := do return .ofList (attributeValue (← units? raw))

/-- Appends a plain character to a text in reverse: a carriage return ends a line, alone or with a line feed. -/
def endLine (done : List Char) (c : Char) (isLast : Bool) : List Char :=
  match done with
  | '\r' :: done =>
    if isLast && c = '\r' then '\n' :: '\n' :: done
    else if c = '\n' then '\n' :: done
    else c :: '\n' :: done
  | _ => (if isLast && c = '\r' then '\n' else c) :: done

def textFrom (done : List Char) : List TextUnit → List Char
  | [] => done.reverse
  | .referred c :: rest => textFrom (c :: done) rest
  | .plain c :: rest => textFrom (endLine done c rest.isEmpty) rest

def textValue? (raw : List Char) : Option String := do return .ofList (textFrom [] (← units? raw))

/-- The text of a CDATA section, which has no references. -/
def cdataValue (raw : List Char) : String := .ofList (textFrom [] (raw.map .plain))

end RepoConventions.Xml
