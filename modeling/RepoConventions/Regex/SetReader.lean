import RepoConventions.Regex.Escape

/-!
# Reading character sets

Brackets hold characters, ranges, classes, other brackets and the operators `&&`, `--` and `~~`, which apply from left to
right.
-/

namespace RepoConventions.Regex

/-- A bracket being read: what stands before the last operator, and the items after it in reverse. -/
structure SetProgress where
  left : Option (SetOp × CharSet)
  items : List CharSet

namespace SetProgress

def push (p : SetProgress) (s : CharSet) : SetProgress := ⟨p.left, s :: p.items⟩

def finish (p : SetProgress) : CharSet :=
  match p.left with
  | some (op, s) => .combined op s (.ofItems p.items.reverse)
  | none => .ofItems p.items.reverse

def operator (p : SetProgress) (op : SetOp) : SetProgress := ⟨some (op, p.finish), []⟩

end SetProgress

/-- The code point of a character in a bracket; without Unicode only ASCII has one. -/
def setLiteral? (f : Flags) : Primitive → Option Nat
  | .literal c _ => if f.unicode || c.toNat < 128 then some c.toNat else none
  | .set _ | .look _ => none

def setPrimitive? (f : Flags) (cs : List Char) : Option (Primitive × List Char) :=
  match cs with
  | '\\' :: rest => escape? f rest
  | c :: rest => some (.literal c false, rest)
  | [] => none

/-- A class, a character, or a range of two characters; a hyphen before the end or another hyphen is no range. -/
def setItem? (f : Flags) (cs : List Char) : Option (CharSet × List Char) := do
  let (first, rest) ← setPrimitive? f cs
  let single : Option CharSet := match first with
    | .set s => some s
    | _ => (setLiteral? f first).map fun n => .range n n
  match skip f.verbose rest with
  | [] => none
  | '-' :: after =>
    match skip f.verbose after with
    | [] => none
    | next =>
      if next.head? = some ']' || next.head? = some '-' then return (← single, '-' :: after)
      else
        let (last, rest) ← setPrimitive? f next
        let lo ← setLiteral? f first
        let hi ← setLiteral? f last
        if lo ≤ hi then some (.range lo hi, rest) else none
  | rest => return (← single, rest)

/-- A class of ASCII characters by name, such as `:alpha:]`, and whether it is negated. -/
def asciiClassItem? (cs : List Char) : Option (Text.CodePoints × Bool × List Char) := do
  match cs with
  | ':' :: rest =>
    let (negated, rest) := match rest with
      | '^' :: rest => (true, rest)
      | rest => (false, rest)
    let (name, rest) ← Text.cutAt? [':'] rest
    match rest with
    | ']' :: rest => return (← asciiClass? (.ofList name), negated, rest)
    | _ => none
  | _ => none

/-- The start of a bracket: negation, then hyphens or one closing bracket that stand for themselves. -/
def setOpening? (f : Flags) (cs : List Char) : Option (Bool × List CharSet × List Char) := do
  let (negated, cs) := match skip f.verbose cs with
    | '^' :: rest => (true, skip f.verbose rest)
    | cs => (false, cs)
  let (hyphens, cs) := word f.verbose (· = '-') cs
  let items : List CharSet := hyphens.map fun c => .range c.toNat c.toNat
  let (items, cs) := match items, cs with
    | [], ']' :: rest => ([CharSet.range 93 93], skip f.verbose rest)
    | _, _ => (items, cs)
  if cs.isEmpty || (negated && !f.unicode) then none else some (negated, items, cs)

/-- The rest of a bracket. Each step takes a character, so the fuel is what is left. -/
def setRest? (f : Flags) : Nat → SetProgress → List Char → Option (CharSet × List Char)
  | 0, _, _ => none
  | fuel + 1, p, cs =>
    match skip f.verbose cs with
    | [] => none
    | '[' :: rest =>
      match asciiClassItem? rest with
      | some (points, negated, rest) =>
        if negated && !f.unicode then none else setRest? f fuel (p.push (.named points true negated)) rest
      | none => do
        let (negated, items, rest) ← setOpening? f rest
        let (s, rest) ← setRest? f fuel ⟨none, items⟩ rest
        setRest? f fuel (p.push (.bracketed negated s)) rest
    | ']' :: rest => some (p.finish, rest)
    | '&' :: '&' :: rest => setRest? f fuel (p.operator .intersection) rest
    | '-' :: '-' :: rest => setRest? f fuel (p.operator .difference) rest
    | '~' :: '~' :: rest => setRest? f fuel (p.operator .symmetricDifference) rest
    | cs => do
      let (s, rest) ← setItem? f cs
      setRest? f fuel (p.push s) rest

/-- The set after an opening bracket. -/
def set? (f : Flags) (cs : List Char) : Option (CharSet × List Char) := do
  let (negated, items, rest) ← setOpening? f cs
  let (s, rest) ← setRest? f (rest.length + 1) ⟨none, items⟩ rest
  return (.bracketed negated s, rest)

end RepoConventions.Regex
