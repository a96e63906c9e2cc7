import RepoConventions.Regex.SetReader

/-!
# Reading expressions

Groups, choices, repetition and flags. There is no looking around and no reference to a group, and an expression nests
no deeper than `nestingLimit`.
-/

namespace RepoConventions.Regex

/-- A part of a sequence; a change of flags cannot be repeated. -/
structure Item where
  regex : Regex
  repeatable : Bool

/-- A group being read: its finished branches and the parts of the last one, both in reverse. -/
structure Progress where
  flags : Flags
  names : List String
  inGroup : Bool
  branches : List Regex
  items : List Item

namespace Progress

def push (p : Progress) (r : Regex) : Progress := { p with items := ⟨r, true⟩ :: p.items }

def branch (p : Progress) : Regex := ofSequence (p.items.reverse.map (·.regex))

def nextBranch (p : Progress) : Progress := { p with branches := p.branch :: p.branches, items := [] }

def finish (p : Progress) : Regex := ofBranches (p.branch :: p.branches).reverse

/-- Repeats the last part. -/
def repeat? (p : Progress) (least : Nat) (most : Option Nat) : Option Progress :=
  match p.items with
  | ⟨r, true⟩ :: items => some { p with items := ⟨.repeated r least most, true⟩ :: items }
  | _ => none

end Progress

def isNameStart (c : Char) : Bool := c = '_' || Text.alphabeticSet.has c.toNat

def numberSet : Text.CodePoints := categoriesOf 'N'

def isNameChar (c : Char) : Bool :=
  isNameStart c || numberSet.has c.toNat || c = '.' || c = '[' || c = ']'

/-- The name of a group, up to an angle bracket; no two groups have one name. -/
def groupName? (names : List String) (cs : List Char) : Option (String × List Char) := do
  let (name, rest) ← Text.cutAt? ['>'] cs
  match name with
  | [] => none
  | c :: more =>
    if isNameStart c && more.all isNameChar && !names.contains (.ofList name) then some (.ofList name, rest) else none

/-- What a parenthesis opens. -/
inductive Opening
  | flags (f : Flags) (rest : List Char)
  | group (f : Flags) (names : List String) (rest : List Char)

def opening? (f : Flags) (names : List String) (cs : List Char) : Option Opening :=
  match skip f.verbose cs with
  | '?' :: '=' :: _ | '?' :: '!' :: _ | '?' :: '<' :: '=' :: _ | '?' :: '<' :: '!' :: _ => none
  | '?' :: 'P' :: '<' :: rest | '?' :: '<' :: rest => do
    let (name, rest) ← groupName? names rest
    return .group f (name :: names) rest
  | '?' :: rest => do
    let (g, isEmpty, isGroup, rest) ← flags? ⟨f, true, [], false⟩ rest
    if isGroup then some (.group g names rest)
    else if isEmpty then none
    else some (.flags g rest)
  | rest => some (.group f names rest)

/-- A count below 2³² with white space around it. -/
def count? (verbose : Bool) (cs : List Char) : Option (Nat × List Char) := do
  let (digits, rest) := word verbose Text.isDigit (cs.dropWhile Text.isBlank)
  let n ← Text.natOfDigits? 10 digits
  if n < 0x100000000 then some (n, rest.dropWhile Text.isBlank) else none

/-- The bounds after an opening brace. -/
def bounds? (verbose : Bool) (cs : List Char) : Option (Nat × Option Nat × List Char) := do
  let (least, rest) ← count? verbose (skip verbose cs)
  match rest with
  | '}' :: rest => some (least, some least, rest)
  | ',' :: rest =>
    match skip verbose rest with
    | '}' :: rest => some (least, none, rest)
    | rest =>
      let (most, rest) ← count? verbose rest
      match rest with
      | '}' :: rest => if least ≤ most then some (least, some most, rest) else none
      | _ => none
  | _ => none

/-- Drops the mark of a repetition that prefers few. -/
def dropLazy (cs : List Char) : List Char :=
  match cs with
  | '?' :: rest => rest
  | _ => cs

def ofPrimitive? (f : Flags) : Primitive → Option Regex
  | .literal c isByte => if isByte && !f.unicode && c.toNat ≥ 128 then none else some (.literal f.folding c)
  | .set s => some (.set f.folding s)
  | .look l => some (.look l)

/-- The rest of a group and what is left. Each step takes a character, so the fuel is what is left. -/
def rest? : Nat → Progress → List Char → Option (Regex × List String × List Char)
  | 0, _, _ => none
  | fuel + 1, p, cs =>
    let f := p.flags
    match skip f.verbose cs with
    | [] => if p.inGroup then none else some (p.finish, p.names, [])
    | c :: rest =>
      match c with
      | ')' => if p.inGroup then some (p.finish, p.names, rest) else none
      | '|' => rest? fuel p.nextBranch rest
      | '(' => do
        match ← opening? f p.names rest with
        | .flags g rest => rest? fuel { p with flags := g, items := ⟨.empty, false⟩ :: p.items } rest
        | .group g names rest =>
          let (r, names, rest) ← rest? fuel ⟨g, names, true, [], []⟩ rest
          rest? fuel ({ p with names }.push (.group r)) rest
      | '[' => do
        let (s, rest) ← set? f rest
        rest? fuel (p.push (.set f.folding s)) rest
      | '?' => do rest? fuel (← p.repeat? 0 (some 1)) (dropLazy rest)
      | '*' => do rest? fuel (← p.repeat? 0 none) (dropLazy rest)
      | '+' => do rest? fuel (← p.repeat? 1 none) (dropLazy rest)
      | '{' => do
        let (least, most, rest) ← bounds? f.verbose rest
        rest? fuel (← p.repeat? least most) (dropLazy (skip f.verbose rest))
      | '\\' => do
        let (primitive, rest) ← escape? f rest
        rest? fuel (p.push (← ofPrimitive? f primitive)) rest
      | '.' => if f.unicode then rest? fuel (p.push (.dot f.dot)) rest else none
      | '^' => rest? fuel (p.push (.look (if f.multiLine then .lineStart f.crlf else .textStart))) rest
      | '$' => rest? fuel (p.push (.look (if f.multiLine then .lineEnd f.crlf else .textEnd))) rest
      | _ => rest? fuel (p.push (.literal f.folding c)) rest

def nestingLimit : Nat := 250

/-- Reads an expression under flags. -/
def ofText? (f : Flags) (pattern : String) : Option Regex := do
  let cs := pattern.toList
  let (r, _, _) ← rest? (cs.length + 1) ⟨f, [], false, [], []⟩ cs
  if r.nesting .nothing ≤ nestingLimit then some r else none

end RepoConventions.Regex
