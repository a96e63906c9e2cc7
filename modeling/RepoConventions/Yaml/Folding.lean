import RepoConventions.Yaml.Cursor
import RepoConventions.Yaml.Error

/-!
# Line folding

Plain and quoted scalars may run over several lines. One line break between words becomes a space, and of
several the first is dropped; blanks around a break are dropped, blanks between words stay.
-/

namespace RepoConventions.Yaml

/-- Text read so far (in reverse), and the gap after it. -/
structure Folding where
  text : List Char
  blanks : List Char
  afterBreak : Bool
  firstBreak : List Char
  laterBreaks : List Char

namespace Folding

def empty : Folding := ⟨[], [], false, [], []⟩

def inGap (f : Folding) : Bool := f.afterBreak || !f.blanks.isEmpty

def addBlank (f : Folding) (c : Char) : Folding :=
  if f.afterBreak then f else { f with blanks := c :: f.blanks }

def addBreak (f : Folding) (b : List Char) : Folding :=
  if f.afterBreak then { f with laterBreaks := f.laterBreaks ++ b }
  else { f with blanks := [], afterBreak := true, firstBreak := b }

/-- What the gap is read as. -/
def gap (f : Folding) : List Char :=
  if f.afterBreak then
    if f.firstBreak = ['\n'] then (if f.laterBreaks.isEmpty then [' '] else f.laterBreaks)
    else f.firstBreak ++ f.laterBreaks
  else f.blanks.reverse

/-- Ends the gap. -/
def settle (f : Folding) : Folding := ⟨f.gap.reverse ++ f.text, [], false, [], []⟩

def addChar (f : Folding) (c : Char) : Folding :=
  let f := f.settle
  { f with text := c :: f.text }

/-- An escaped line break: the gap after it keeps further breaks only. -/
def escapeBreak (f : Folding) : Folding := { f.settle with afterBreak := true }

def result (f : Folding) : String := .ofList f.text.reverse

end Folding

end RepoConventions.Yaml
