import RepoConventions.Text.Ascii
import RepoConventions.Text.CaseRuns
import RepoConventions.Text.Property

/-!
# Lower case

The full lower-case form of a text: `İ` becomes two characters, and a capital sigma that ends a word becomes
the final sigma.
-/

namespace RepoConventions.Text

def lowerChar (c : Char) : List Char :=
  if c.toNat < 128 then [lowerAscii c]
  else if c.toNat = 0x130 then ['i', '\u0307']
  else [Char.ofNat (mapCase lowerRuns c.toNat)]

/-- Whether a letter with case comes next, once case-ignorable characters are passed over. -/
def casedFollows (cs : List Char) : Bool :=
  match cs.dropWhile fun c => caseIgnorableSet.has c.toNat with
  | c :: _ => casedSet.has c.toNat
  | [] => false

/-- Lower case of `after`, whose preceding text is `before` in reverse. -/
def lowercaseFrom (before : List Char) : List Char → List Char
  | [] => []
  | c :: after =>
    let image :=
      if c = 'Σ' then [if casedFollows before && !casedFollows after then 'ς' else 'σ'] else lowerChar c
    image ++ lowercaseFrom (c :: before) after

def lowercase (s : String) : String := .ofList (lowercaseFrom [] s.toList)

end RepoConventions.Text
