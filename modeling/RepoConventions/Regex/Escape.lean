import RepoConventions.Regex.Flags
import RepoConventions.Regex.Property

/-!
# Escapes

What a backslash begins. Digits are refused, since there are no references to groups, and so is every letter without a
meaning.
-/

namespace RepoConventions.Regex

/-- A character, a class of characters, or an assertion. A character may be written as a byte of two digits. -/
inductive Primitive
  | literal (c : Char) (isByte : Bool)
  | set (s : CharSet)
  | look (l : Look)

def isMeta (c : Char) : Bool :=
  ['\\', '.', '+', '*', '?', '(', ')', '|', '[', ']', '{', '}', '^', '$', '#', '&', '-', '~'].contains c

/-- A text as a pattern that matches it alone. -/
def escaped (text : List Char) : List Char := text.flatMap fun c => if isMeta c then ['\\', c] else [c]

def isAlphanumeric (c : Char) : Bool := asciiWord.has c.toNat && c ≠ '_'

/-- Punctuation stands for itself after a backslash, but for the angle brackets. -/
def isEscapable (c : Char) : Bool := c.toNat < 128 && !isAlphanumeric c && c ≠ '<' && c ≠ '>'

def controlEscape? (c : Char) : Option Char :=
  match c with
  | 'a' => some (Char.ofNat 7)
  | 'f' => some (Char.ofNat 12)
  | 't' => some '\t'
  | 'n' => some '\n'
  | 'r' => some '\r'
  | 'v' => some (Char.ofNat 11)
  | _ => none

def lookEscape? (unicode : Bool) (c : Char) : Option Look :=
  match c with
  | 'A' => some .textStart
  | 'z' => some .textEnd
  | 'B' => some (.wordBoundary unicode true)
  | '<' => some (.wordStart unicode false)
  | '>' => some (.wordEnd unicode false)
  | _ => none

/-- The sets of digits, blanks and word characters; without Unicode they cannot be negated. -/
def classEscape? (unicode : Bool) (c : Char) : Option (Option CharSet) :=
  let pick (all ascii : Text.CodePoints) : CharSet := .named (if unicode then all else ascii) false false
  let negated (all : Text.CodePoints) : Option CharSet := if unicode then some (.named all false true) else none
  match c with
  | 'd' => some (some (pick digitSet asciiDigits))
  | 's' => some (some (pick blankSet asciiBlanks))
  | 'w' => some (some (pick wordSet asciiWord))
  | 'D' => some (negated digitSet)
  | 'S' => some (negated blankSet)
  | 'W' => some (negated wordSet)
  | _ => none

def charOfHex? (digits : List Char) : Option Char := do
  let n ← Text.natOfDigits? 16 digits
  if n.isValidChar then some (Char.ofNat n) else none

/-- A number of hexadecimal digits, and what is left. -/
def hexDigits? (verbose : Bool) : Nat → List Char → Option (List Char × List Char)
  | 0, cs => some ([], cs)
  | n + 1, c :: rest =>
    if (Text.digitValue? c).isSome then do
      let (more, rest) ← hexDigits? verbose n (skip verbose rest)
      some (c :: more, rest)
    else none
  | _ + 1, [] => none

/-- What stands before a closing brace. -/
def braced? (verbose : Bool) (cs : List Char) : Option (List Char × List Char) :=
  match word verbose (· ≠ '}') (skip verbose cs) with
  | (content, _ :: rest) => some (content, rest)
  | (_, []) => none

def hexEscape? (verbose : Bool) (digits : Nat) (cs : List Char) : Option (Primitive × List Char) :=
  match skip verbose cs with
  | '{' :: rest => do
    let (content, rest) ← braced? verbose rest
    return (.literal (← charOfHex? content) false, skip verbose rest)
  | cs => do
    let (content, rest) ← hexDigits? verbose digits cs
    return (.literal (← charOfHex? content) (digits = 2), rest)

def propertyEscape? (f : Flags) (negated : Bool) (cs : List Char) : Option (Primitive × List Char) := do
  let (content, rest) ← match skip f.verbose cs with
    | '{' :: rest => braced? f.verbose rest
    | '\\' :: _ => none
    | c :: rest => some ([c], skip f.verbose rest)
    | [] => none
  if f.unicode then return (.set (.named (← property? content) true negated), rest) else none

/-- A word boundary, which may have a kind in braces; braces with anything else are left. -/
def boundaryEscape? (f : Flags) (cs : List Char) : Option (Primitive × List Char) :=
  let plain : Primitive := .look (.wordBoundary f.unicode false)
  match cs with
  | '{' :: rest =>
    let isKindChar (c : Char) : Bool := (asciiWord.has c.toNat && c ≠ '_' && !Text.isDigit c) || c = '-'
    match skip f.verbose rest with
    | [] => none
    | c :: more =>
      if isKindChar c then
        match word f.verbose isKindChar (c :: more) with
        | (kind, '}' :: rest) =>
          match String.ofList kind with
          | "start" => some (.look (.wordStart f.unicode false), rest)
          | "end" => some (.look (.wordEnd f.unicode false), rest)
          | "start-half" => some (.look (.wordStart f.unicode true), rest)
          | "end-half" => some (.look (.wordEnd f.unicode true), rest)
          | _ => none
        | _ => none
      else some (plain, cs)
  | _ => some (plain, cs)

/-- Reads what follows a backslash. -/
def escape? (f : Flags) (cs : List Char) : Option (Primitive × List Char) :=
  match cs with
  | [] => none
  | c :: rest =>
    match c with
    | 'x' => hexEscape? f.verbose 2 rest
    | 'u' => hexEscape? f.verbose 4 rest
    | 'U' => hexEscape? f.verbose 8 rest
    | 'p' => propertyEscape? f false rest
    | 'P' => propertyEscape? f true rest
    | 'b' => boundaryEscape? f rest
    | _ =>
      match classEscape? f.unicode c, controlEscape? c, lookEscape? f.unicode c with
      | some s, _, _ => s.map fun s => (.set s, rest)
      | none, some d, _ => some (.literal d false, rest)
      | none, none, some l => some (.look l, rest)
      | none, none, none => if isEscapable c then some (.literal c false, rest) else none

end RepoConventions.Regex
