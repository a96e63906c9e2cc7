import RepoConventions.Regex.CharSet
import RepoConventions.Text.Script

/-!
# Names of properties

What `\p` takes: a binary property, a general category or a script. Case, spaces, hyphens, underscores and an `is` in
front of a name do not matter.
-/

namespace RepoConventions.Regex

open Text (CodePoints)

def looseName (name : List Char) : String :=
  let kept (cs : List Char) : List Char :=
    (cs.filter fun c => c ≠ ' ' && c ≠ '_' && c ≠ '-' && c.toNat < 128).map Text.lowerAscii
  match name with
  | a :: b :: rest =>
    if Text.lowerAscii a = 'i' && Text.lowerAscii b = 's' then
      let short := kept rest
      .ofList (if short = ['c'] then ['i', 's', 'c'] else short)
    else .ofList (kept name)
  | _ => .ofList (kept name)

def looseLookup? (table : List (List String × CodePoints)) (loose : String) : Option CodePoints :=
  (table.find? fun e => e.1.any fun name => looseName name.toList = loose).map (·.2)

/-- Groups of general categories, by the initial of their short names. -/
def categoryGroups : List (List String × Char) :=
  [(["C", "Other"], 'C'), (["L", "Letter"], 'L'), (["M", "Mark", "Combining_Mark"], 'M'), (["N", "Number"], 'N'),
    (["P", "Punctuation", "punct"], 'P'), (["S", "Symbol"], 'S'), (["Z", "Separator"], 'Z')]

def category? (loose : String) : Option CodePoints :=
  match loose with
  | "any" => some ⟨[(0, 0x10FFFF)]⟩
  | "ascii" => some ⟨[(0, 127)]⟩
  | "assigned" =>
    some ⟨(Text.categories.filter fun c => !c.1.contains "Cn").flatMap (·.2.ranges)⟩
  | "lc" | "casedletter" => some ((categorySet "Lu").union ((categorySet "Ll").union (categorySet "Lt")))
  | "cs" | "surrogate" => none
  | _ =>
    match categoryGroups.find? fun g => g.1.any fun name => looseName name.toList = loose with
    | some (_, initial) => some (categoriesOf initial)
    | none => looseLookup? Text.categories loose

def script? (loose : String) : Option CodePoints := looseLookup? Text.scripts loose

/-- Names that are general categories first. -/
def isCategoryFirst (loose : String) : Bool := loose = "cf" || loose = "sc" || loose = "lc"

def namedProperty? (name : List Char) : Option CodePoints :=
  let loose := looseName name
  (if isCategoryFirst loose then none else looseLookup? Text.binaryProperties loose) <|>
    category? loose <|> script? loose

def valuedProperty? (name value : List Char) : Option CodePoints :=
  match looseName name with
  | "gc" | "generalcategory" => category? (looseName value)
  | "sc" | "script" | "scx" | "scriptextensions" => script? (looseName value)
  | _ => none

/-- The set for the text between the braces of `\p`. -/
def property? (content : List Char) : Option CodePoints :=
  match Text.cutAt? ['!', '='] content <|> Text.cutAt? [':'] content <|> Text.cutAt? ['='] content with
  | some (name, value) => valuedProperty? name value
  | none => namedProperty? content

end RepoConventions.Regex
