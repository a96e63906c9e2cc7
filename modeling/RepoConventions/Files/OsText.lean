/-!
# Octets of names

A name of a file, and so a path, is octets that need not be text. Here it is written as a text all the same: an octet
that is no part of a character is written as a zero and the character of its number. No name holds a zero octet, so that
nothing else is written with zeros. Where a name is shown, the replacement character stands for such octets.
-/

namespace RepoConventions.Files.OsText

/-- What is written before an octet that is no part of a character. -/
def mark : Char := Char.ofNat 0

/-- A character for such an octet, which is none of ASCII. -/
def isStray (c : Char) : Bool := 0x80 ≤ c.toNat && c.toNat ≤ 0xFF

/-- The octets that are written as characters. -/
def octetsOf : List Char → List UInt8
  | c :: d :: rest =>
    if c = mark && isStray d then UInt8.ofNat d.toNat :: octetsOf rest
    else String.utf8EncodeChar c ++ octetsOf (d :: rest)
  | [c] => String.utf8EncodeChar c
  | [] => []

def octets (s : String) : List UInt8 := octetsOf s.toList

def size (s : String) : Nat := (octets s).length

/-! Pieces -/

/-- A character among octets, or octets that begin like one and break off. -/
inductive Piece
  | char (c : Char)
  | broken (octets : List UInt8)
  deriving DecidableEq, Repr

def Piece.octets : Piece → List UInt8
  | char c => String.utf8EncodeChar c
  | broken os => os

/-- How many octets a character has after its first. -/
def followers (first : UInt8) : Nat :=
  if first < 0xC2 then 0
  else if first < 0xE0 then 1
  else if first < 0xF0 then 2
  else if first < 0xF5 then 3
  else 0

def isFollower (octet : UInt8) : Bool := 0x80 ≤ octet && octet ≤ 0xBF

/-- Whether a character can begin with two octets, where its first allows of a second. -/
def beginWith (first second : UInt8) : Bool :=
  isFollower second &&
    if first = 0xE0 then 0xA0 ≤ second
    else if first = 0xED then second < 0xA0
    else if first = 0xF0 then 0x90 ≤ second
    else if first = 0xF4 then second < 0x90
    else true

/-- How many octets begin like a character that breaks off after them. -/
def brokenSize : List UInt8 → Nat
  | first :: second :: rest =>
    if followers first < 2 || !beginWith first second then 1
    else match rest with
      | third :: _ => if followers first = 3 && isFollower third then 3 else 2
      | [] => 2
  | [_] | [] => 1

def firstPiece (os : List UInt8) : Piece :=
  match (os.take 4).toByteArray.utf8DecodeChar? 0 with
  | some c => .char c
  | none => .broken (os.take (brokenSize os))

/-- The pieces of octets of which the first are passed over. -/
def piecesFrom : Nat → List UInt8 → List Piece
  | _, [] => []
  | passed + 1, _ :: rest => piecesFrom passed rest
  | 0, o :: rest =>
    let p := firstPiece (o :: rest)
    p :: piecesFrom (p.octets.length - 1) rest

def pieces (os : List UInt8) : List Piece := piecesFrom 0 os

/-! Spellings -/

def Piece.spelled : Piece → List Char
  | char c => [c]
  | broken os => os.flatMap fun o => [mark, Char.ofNat o.toNat]

/-- The text that octets are written as. -/
def ofOctets (os : List UInt8) : String := .ofList ((pieces os).flatMap Piece.spelled)

/-- Whether a text is the one for its octets, and none of them is zero. -/
def isSpelling (s : String) : Bool :=
  if s.toList.contains mark then !(octets s).contains 0 && ofOctets (octets s) = s else true

/-! What is shown -/

def replacement : Char := Char.ofNat 0xFFFD

def Piece.shown : Piece → Char
  | char c => c
  | broken _ => replacement

/-- A text in which the replacement character stands for what is no character. -/
def shown (s : String) : String := .ofList ((pieces (octets s)).map Piece.shown)

end RepoConventions.Files.OsText
