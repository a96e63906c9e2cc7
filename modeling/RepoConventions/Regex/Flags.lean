import RepoConventions.Regex.Basic
import RepoConventions.Text.Blank

/-!
# Flags of an expression

Which flags are set at a place decides how what stands there is read.
-/

namespace RepoConventions.Regex

structure Flags where
  ignoreCase : Bool
  multiLine : Bool
  dotAll : Bool
  crlf : Bool
  unicode : Bool
  verbose : Bool
  deriving DecidableEq, Repr

namespace Flags

def folding (f : Flags) : Folding := if f.ignoreCase then (if f.unicode then .simple else .ascii) else .exact

def dot (f : Flags) : Dot := if f.dotAll then .anything else if f.crlf then .notLineEnd else .notLineFeed

def set? (f : Flags) (flag : Char) (on : Bool) : Option Flags :=
  match flag with
  | 'i' => some { f with ignoreCase := on }
  | 'm' => some { f with multiLine := on }
  | 's' => some { f with dotAll := on }
  | 'R' => some { f with crlf := on }
  | 'u' => some { f with unicode := on }
  | 'x' => some { f with verbose := on }
  | 'U' => some f
  | _ => none

end Flags

/-- Flags being read. A flag and a minus sign may each stand once, and a minus sign not last. -/
structure FlagScan where
  flags : Flags
  on : Bool
  seen : List Char
  dangling : Bool

/-- The flags up to a colon or a parenthesis: whether there are none, whether a colon follows, and what is left. -/
def flags? (scan : FlagScan) : List Char → Option (Flags × Bool × Bool × List Char)
  | [] => none
  | c :: rest =>
    if c = ':' || c = ')' then
      if scan.dangling then none else some (scan.flags, scan.seen.isEmpty, c = ':', rest)
    else if scan.seen.contains c then none
    else if c = '-' then flags? ⟨scan.flags, false, c :: scan.seen, true⟩ rest
    else match scan.flags.set? c scan.on with
      | some f => flags? ⟨f, scan.on, c :: scan.seen, false⟩ rest
      | none => none

/-- Skips white space and comments in a verbose expression. -/
def skipFrom (inComment : Bool) : List Char → List Char
  | [] => []
  | c :: rest =>
    if inComment then skipFrom (c ≠ '\n') rest
    else if Text.isBlank c then skipFrom false rest
    else if c = '#' then skipFrom true rest
    else c :: rest

def skip (verbose : Bool) (cs : List Char) : List Char := if verbose then skipFrom false cs else cs

/-- The longest run of characters of a kind, each with what is skipped after it. -/
def wordFrom (verbose : Bool) (p : Char → Bool) : Nat → List Char → List Char × List Char
  | fuel + 1, c :: rest =>
    if p c then
      let (word, rest) := wordFrom verbose p fuel (skip verbose rest)
      (c :: word, rest)
    else ([], c :: rest)
  | _, cs => ([], cs)

def word (verbose : Bool) (p : Char → Bool) (cs : List Char) : List Char × List Char :=
  wordFrom verbose p cs.length cs

end RepoConventions.Regex
