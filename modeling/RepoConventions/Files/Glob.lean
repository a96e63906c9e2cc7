import RepoConventions.Files.OsText
import RepoConventions.Regex.Basic
import RepoConventions.RuleError

/-!
# File globs

Patterns for file names and relative paths. `*`, `?` and brackets stay within one path segment or octet, `**` between
slashes stands for any directories, and braces list alternatives. Matching is by octets.
-/

namespace RepoConventions.Files

inductive GlobToken
  | literal (c : Char)
  | any
  | star
  | leadingDirs
  | trailingDirs
  | innerDirs
  | set (negated : Bool) (ranges : List (Char × Char))
  | choice (branches : List (List GlobToken))

namespace Glob

/-- A glob being read: the current branch in reverse, and for each open brace the finished branches in reverse and the
branch around it. -/
structure Progress where
  current : List GlobToken
  braces : List (List (List GlobToken) × List GlobToken)

namespace Progress

def push (p : Progress) (t : GlobToken) : Progress := { p with current := t :: p.current }

/-- Puts directories in place of the slash before them; directories at either end absorb others. -/
def pushDirs (p : Progress) (t : GlobToken) : Progress :=
  match p.current with
  | .leadingDirs :: _ | .trailingDirs :: _ => p
  | _ :: rest => { p with current := t :: rest }
  | [] => p.push t

def openBrace (p : Progress) : Progress := ⟨[], ([], p.current) :: p.braces⟩

def comma (p : Progress) : Progress :=
  match p.braces with
  | (done, outer) :: rest => ⟨[], (p.current.reverse :: done, outer) :: rest⟩
  | [] => p.push (.literal ',')

def closeBrace? (p : Progress) : Option Progress :=
  match p.braces with
  | (done, outer) :: rest => some ⟨.choice (p.current.reverse :: done).reverse :: outer, rest⟩
  | [] => none

end Progress

/-- A bracket being read: its ranges in reverse, the last of them open when a hyphen followed. -/
structure Bracket where
  negated : Bool
  ranges : List (Char × Char)
  isFirst : Bool
  isOpen : Bool

/-- Adds a character; a range may not run backwards. -/
def Bracket.add? (b : Bracket) (c : Char) : Option Bracket :=
  match b.isOpen, b.ranges with
  | true, (lo, _) :: rest => if lo ≤ c then some ⟨b.negated, (lo, c) :: rest, false, false⟩ else none
  | _, ranges => some ⟨b.negated, (c, c) :: ranges, false, false⟩

def Bracket.token (b : Bracket) : GlobToken :=
  .set b.negated (if b.isOpen then ('-', '-') :: b.ranges else b.ranges).reverse

mutual
/-- Reads tokens; `prev` is the character before. -/
def tokens? (p : Progress) (prev : Option Char) : List Char → Option (List GlobToken)
  | [] => if p.braces.isEmpty then some p.current.reverse else none
  | '*' :: '*' :: rest =>
    let twoStars := (p.push .star).push .star
    if p.current.isEmpty then
      match rest with
      | [] => tokens? (p.push .leadingDirs) (some '*') []
      | '/' :: rest => tokens? (p.push .leadingDirs) (some '/') rest
      | c :: rest => tokens? twoStars (some '*') (c :: rest)
    else if prev = some '/' || (!p.braces.isEmpty && (prev = some ',' || prev = some '{')) then
      match rest with
      | [] => tokens? (p.pushDirs .trailingDirs) (some '*') []
      | '/' :: rest => tokens? (p.pushDirs .innerDirs) (some '/') rest
      | c :: rest =>
        if !p.braces.isEmpty && (c = ',' || c = '}') then tokens? (p.pushDirs .trailingDirs) (some '*') (c :: rest)
        else tokens? twoStars (some '*') (c :: rest)
    else tokens? twoStars (some '*') rest
  | '\\' :: c :: rest => tokens? (p.push (.literal c)) (some c) rest
  | '[' :: '!' :: rest | '[' :: '^' :: rest => bracket? p ⟨true, [], true, false⟩ rest
  | c :: rest =>
    match c with
    | '?' => tokens? (p.push .any) (some c) rest
    | '*' => tokens? (p.push .star) (some c) rest
    | '[' => bracket? p ⟨false, [], true, false⟩ rest
    | '{' => tokens? p.openBrace (some c) rest
    | ',' => tokens? p.comma (some c) rest
    | '}' => do tokens? (← p.closeBrace?) (some c) rest
    | '\\' => none
    | _ => tokens? (p.push (.literal c)) (some c) rest

/-- Reads a bracket up to its end; a closing bracket or a hyphen that comes first stands for itself. -/
def bracket? (p : Progress) (b : Bracket) : List Char → Option (List GlobToken)
  | [] => none
  | c :: rest =>
    if c = ']' && !b.isFirst then tokens? (p.push b.token) (some c) rest
    else if c = '-' && !b.isFirst && !b.isOpen then bracket? p { b with isOpen := true } rest
    else do bracket? p (← b.add? c) rest
end

/-! Matching -/

/-- The octets of a character, each as the character of that number. -/
def octets (c : Char) : List Char := (String.utf8EncodeChar c).map fun o => Char.ofNat o.toNat

def pathOctets (path : String) : List Char := (OsText.octets path).map fun o => Char.ofNat o.toNat

def exactly (c : Char) : Regex := .literal .exact c

def slash : Regex := exactly '/'

/-- One octet other than a slash. -/
def segmentOctet : Regex := .set .exact (.bracketed true (.range 47 47))

def anything : Regex := .repeated (.dot .anything) 0 none

/-- A range of characters as sets of octets: the range joins the last octet of the one to the first of the other. -/
def rangeSets (r : Char × Char) : List Regex.CharSet :=
  let single (o : Char) : Regex.CharSet := .range o.toNat o.toNat
  if r.1 = r.2 then (octets r.1).map single
  else match (octets r.1).reverse, octets r.2 with
    | last :: before, first :: after => before.map single ++ .range last.toNat first.toNat :: after.map single
    | _, _ => []

mutual
/-- The expressions of tokens in sequence. An alternative of nothing does not count. -/
def sequence : List GlobToken → List Regex
  | [] => []
  | t :: rest => expression t ++ sequence rest

def expression : GlobToken → List Regex
  | .literal c => (octets c).map exactly
  | .any => [segmentOctet]
  | .star => [.repeated segmentOctet 0 none]
  | .leadingDirs => [.alt (.repeated slash 0 (some 1)) (.seq anything slash)]
  | .trailingDirs => [slash, anything]
  | .innerDirs => [.alt slash (.seq slash (.seq anything slash))]
  | .set negated ranges => [.set .exact (.bracketed negated (.ofItems (ranges.flatMap rangeSets)))]
  | .choice branches =>
    match alternatives branches with
    | [] => []
    | rs => [.ofBranches rs]

def alternatives : List (List GlobToken) → List Regex
  | [] => []
  | b :: rest =>
    match sequence b with
    | [] => alternatives rest
    | rs => .ofSequence rs :: alternatives rest
end

end Glob

/-- A glob that could be read. -/
structure Glob where
  text : String
  regex : Regex

namespace Glob

def ofText? (text : String) : Option Glob := do
  match ← tokens? ⟨[], []⟩ none text.toList with
  | [.leadingDirs] => some ⟨text, anything⟩
  | ts => some ⟨text, .ofSequence (sequence ts)⟩

def ofText (text : String) : Except RuleError Glob :=
  match ofText? text with
  | some g => .ok g
  | none => .error (.invalidFileGlob text)

def accepts (g : Glob) (path : String) : Bool := g.regex.matchesAll (pathOctets path)

/-- A glob with a slash is for relative paths, any other for file names. -/
def isForPaths (g : Glob) : Bool := g.text.toList.contains '/'

end Glob

end RepoConventions.Files
