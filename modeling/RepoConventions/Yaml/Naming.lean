import RepoConventions.Text.Ascii
import RepoConventions.Yaml.Cursor
import RepoConventions.Yaml.Error
import RepoConventions.Yaml.Token

/-!
# Anchors, tags and directives

The tokens that name things: `&anchor` and `*alias`, `!handle!suffix` and `!<verbatim>`, and the lines `%YAML`
and `%TAG` before a document.
-/

namespace RepoConventions.Yaml

/-- What may follow the name of an anchor without a gap. -/
private def endsAnchor (cs : List Char) : Bool :=
  match cs with
  | [] => true
  | c :: _ => isGap c || ['?', ':', ',', ']', '}', '%', '@', '`'].contains c

/-- The name after `&` or `*`. -/
def anchorName (c : Cursor) : Except Error (String × Cursor) :=
  let c := c.drop 1
  let next := c.dropWhile isWordChar
  let name := c.rest.takeWhile isWordChar
  if name.isEmpty || !endsAnchor next.rest then .error .badAnchor else .ok (.ofList name, next)

/-- `!`, `!word` or `!word!`; in a directive the middle one is refused. -/
private def tagHandle (directive : Bool) (c : Cursor) : Except Error (List Char × Cursor) :=
  match c.rest with
  | '!' :: rest =>
    let word := rest.takeWhile isWordChar
    let c := (c.drop 1).drop word.length
    match c.rest with
    | '!' :: _ => .ok ('!' :: word ++ ['!'], c.drop 1)
    | _ => if directive && !word.isEmpty then .error .badDirective else .ok ('!' :: word, c)
  | _ => .error .badTag

private def isUriChar (verbatim : Bool) (c : Char) : Bool :=
  isWordChar c || [';', '/', '?', ':', '@', '&', '=', '+', '$', '.', '%', '!', '~', '*', '\'', '(', ')'].contains c ||
    (verbatim && (c = ',' || c = '[' || c = ']'))

/-- How many octets a sequence has that begins with this one. -/
private def octetCount? (n : Nat) : Option Nat :=
  if n < 0x80 then some 1
  else if 0xC0 ≤ n && n < 0xE0 then some 2
  else if 0xE0 ≤ n && n < 0xF0 then some 3
  else if 0xF0 ≤ n && n < 0xF8 then some 4
  else none

/-- The octet after a percent sign. -/
private def escapedOctet? : List Char → Option Nat
  | '%' :: a :: b :: _ => Text.natOfDigits? 16 [a, b]
  | _ => none

/-- Further octets of an escaped sequence. -/
private def trailingOctets : Nat → Cursor → Except Error (List UInt8 × Cursor)
  | 0, c => .ok ([], c)
  | n + 1, c =>
    match escapedOctet? c.rest with
    | some o =>
      if 0x80 ≤ o && o < 0xC0 then do
        let (more, c) ← trailingOctets n (c.drop 3)
        return (o.toUInt8 :: more, c)
      else .error .badTag
    | none => .error .badTag

private def escapedSequence (c : Cursor) : Except Error (List UInt8 × Cursor) :=
  match escapedOctet? c.rest with
  | none => .error .badTag
  | some o =>
    match octetCount? o with
    | none => .error .badTag
    | some n => do
      let (more, c) ← trailingOctets (n - 1) (c.drop 3)
      return (o.toUInt8 :: more, c)

/-- The characters of a URI in octets. Each step takes a character, so the fuel is what is left. -/
private def uriFrom (verbatim : Bool) : Nat → List UInt8 → Cursor → Except Error (List UInt8 × Cursor)
  | 0, done, c => .ok (done, c)
  | fuel + 1, done, c =>
    match c.rest with
    | '%' :: _ => do
      let (octets, c) ← escapedSequence c
      uriFrom verbatim fuel (done ++ octets) c
    | d :: _ =>
      if isUriChar verbatim d then uriFrom verbatim fuel (done ++ String.utf8EncodeChar d) (c.drop 1)
      else .ok (done, c)
    | [] => .ok (done, c)

/-- A URI that `head` begins; the two together are not empty. -/
private def uri (verbatim : Bool) (head : List Char) (c : Cursor) : Except Error (List UInt8 × Cursor) := do
  let (octets, next) ← uriFrom verbatim (c.rest.length + 1) [] c
  if octets.isEmpty && head.isEmpty then throw .badTag
  return (head.flatMap String.utf8EncodeChar ++ octets, next)

/-- A zero octet ends a name. -/
private def untilZero (octets : List UInt8) : List UInt8 := octets.takeWhile (· ≠ 0)

/-- The tag at the cursor. -/
def tagName (inFlow : Bool) (c : Cursor) : Except Error (TagName × Cursor) := do
  let (name, c) ← match c.rest with
    | _ :: '<' :: _ => do
      let (suffix, c) ← uri true [] (c.drop 2)
      if c.rest.head? ≠ some '>' then throw .badTag
      pure (⟨[], untilZero suffix⟩, c.drop 1)
    | _ => do
      let (handle, c) ← tagHandle false c
      if handle.length > 1 && handle.getLast? = some '!' then
        let (suffix, c) ← uri false [] c
        pure ((⟨handle, untilZero suffix⟩ : TagName), c)
      else
        let (octets, next) ← uriFrom false (c.rest.length + 1) [] c
        let suffix := untilZero ((handle.drop 1).flatMap String.utf8EncodeChar ++ octets)
        pure (if suffix.isEmpty then ⟨[], [33]⟩ else ⟨['!'], suffix⟩, next)
  if gapHere c.rest || (inFlow && c.rest.head? = some ',') then return (name, c) else throw .badTag

/-- A number of a version, of at most nine digits. -/
private def versionNumber (c : Cursor) : Except Error (Nat × Cursor) :=
  let digits := c.rest.takeWhile Text.isDigit
  match Text.natOfDigits? 10 digits with
  | some n => if digits.length > 9 then .error .badDirective else .ok (n, c.drop digits.length)
  | none => .error .badDirective

private def versionValue (c : Cursor) : Except Error (Token × Cursor) := do
  let (major, c) ← versionNumber (c.dropWhile isSpaceOrTab)
  if c.rest.head? ≠ some '.' then throw .badDirective
  let (minor, c) ← versionNumber (c.drop 1)
  return (.version major minor, c)

private def handleValue (c : Cursor) : Except Error (Token × Cursor) := do
  let (handle, c) ← tagHandle true (c.dropWhile isSpaceOrTab)
  if !(c.rest.head?.map isSpaceOrTab).getD false then throw .badDirective
  let (expansion, c) ← uri true [] (c.dropWhile isSpaceOrTab)
  if !gapHere c.rest then throw .badDirective
  return (.tagHandle handle (untilZero expansion), c)

/-- The directive at the cursor, with the rest of its line. -/
def directive (c : Cursor) : Except Error (Token × Cursor) := do
  let c := c.drop 1
  let name := c.rest.takeWhile isWordChar
  let c := c.drop name.length
  if name.isEmpty || !gapHere c.rest then throw .badDirective
  let (token, c) ←
    if name = ['Y', 'A', 'M', 'L'] then versionValue c
    else if name = ['T', 'A', 'G'] then handleValue c
    else throw .badDirective
  let c := c.dropBlanksAndComment
  if !(c.rest.head?.map isBreak).getD true then throw .badDirective
  return (token, c.dropBreak)

end RepoConventions.Yaml
