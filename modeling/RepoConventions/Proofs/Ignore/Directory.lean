import Mathlib.Data.List.Forall2
import RepoConventions.Proofs.Ignore.Pattern
import RepoConventions.Proofs.Ignore.RuleSet

/-!
# Rules for directories

A directory without stars, a slash and two stars are a pattern for what is below the directory. The stars match within a
line, so a rule with this pattern passes over the files whose paths have a line feed below the directory.
-/

namespace RepoConventions.Ignore

open Regex (InPieces)

/-- The pattern for everything below a directory. -/
def belowDirectory (directory : String) : String := directory ++ "/**"

theorem toList_belowDirectory (directory : String) :
    (belowDirectory directory).toList = directory.toList ++ ['/', '*', '*'] := by
  rw [belowDirectory, String.toList_append]
  rfl

theorem patternFault?_belowDirectory {directory : String} (hvalid : patternFault? directory = none)
    (hplain : '*' ∉ directory.toList) : patternFault? (belowDirectory directory) = none := by
  obtain ⟨⟨c, hc, hblank⟩, -⟩ := (patternFault?_eq_none_iff directory).mp hvalid
  rw [patternFault?_eq_none_iff, toList_belowDirectory]
  refine ⟨⟨c, List.mem_append_left _ hc, hblank⟩, fun hstars => ?_⟩
  have hcount := hstars.sublist.count_le '*'
  rw [List.count_append, List.count_eq_zero_of_not_mem hplain] at hcount
  exact absurd hcount (by decide)

/-! Paths below a directory -/

/-- A path below a directory, whose name may differ in case, by a name of one line. -/
def LiesInLineBelow (directory path : String) : Prop :=
  ∃ start rest, path.toList = start ++ '/' :: rest ∧
    List.Forall₂ (fun c d => Text.sameFold c d = true) directory.toList start ∧ '\n' ∉ rest

theorem tokens_plain_append {cs : List Char} (h : '*' ∉ cs) (rest : List Char) :
    tokens (cs ++ rest) = cs.map Token.char ++ tokens rest := by
  induction cs with
  | nil => rfl
  | cons c cs ih =>
    have hc : c ≠ '*' := fun heq => h (heq ▸ List.mem_cons_self)
    have hcs : '*' ∉ cs := fun hmem => h (List.mem_cons_of_mem c hmem)
    have hstep : tokens (c :: (cs ++ rest)) = .char c :: tokens (cs ++ rest) := by
      rw [tokens]
      · exact fun _ heq => absurd heq hc
      · exact hc
    rw [List.cons_append, hstep, ih hcs]
    rfl

theorem tokens_belowDirectory {directory : String} (hplain : '*' ∉ directory.toList) :
    tokens (belowDirectory directory).toList = directory.toList.map Token.char ++ [.char '/', .anyText] := by
  rw [toList_belowDirectory, tokens_plain_append hplain]
  rfl

theorem inPieces_chars_iff {cs s : List Char} : InPieces Token.TakesInLine (cs.map .char) s ↔
    List.Forall₂ (fun c d => Text.sameFold c d = true) cs s := by
  induction cs generalizing s with
  | nil => rw [List.map_nil, Regex.inPieces_nil_iff, List.forall₂_nil_left_iff]
  | cons c cs ih =>
    rw [List.map_cons, Regex.inPieces_cons_iff, List.forall₂_cons_left_iff]
    constructor
    · intro h
      obtain ⟨piece, rest, rfl, ⟨d, rfl, hd⟩, hrest⟩ := h
      exact ⟨d, rest, hd, ih.mp hrest, rfl⟩
    · intro h
      obtain ⟨d, rest, hd, hrest, rfl⟩ := h
      exact ⟨[d], rest, rfl, ⟨d, rfl, hd⟩, ih.mpr hrest⟩

theorem inPieces_slash_anyText_iff {s : List Char} : InPieces Token.TakesInLine [.char '/', .anyText] s ↔
    ∃ rest, s = '/' :: rest ∧ '\n' ∉ rest := by
  simp only [Regex.inPieces_cons_iff, Regex.inPieces_nil_iff, Token.TakesInLine, Text.sameFold_slash_iff]
  constructor
  · intro h
    obtain ⟨_, _, rfl, ⟨_, rfl, rfl⟩, rest, _, rfl, hrest, rfl⟩ := h
    exact ⟨rest, by simp, hrest⟩
  · intro h
    obtain ⟨rest, rfl, hrest⟩ := h
    exact ⟨['/'], rest, rfl, ⟨'/', rfl, rfl⟩, rest, [], by simp, hrest, rfl⟩

/-- A directory without stars is matched by itself in any case, and the two stars by any text within a line. -/
theorem patternMatches_belowDirectory_iff {directory : String} (hplain : '*' ∉ directory.toList) (path : String) :
    patternMatches (belowDirectory directory) path = true ↔ LiesInLineBelow directory path := by
  rw [patternMatches_iff, tokens_belowDirectory hplain, Regex.inPieces_append_iff]
  simp only [inPieces_chars_iff, inPieces_slash_anyText_iff, LiesInLineBelow]
  constructor
  · intro h
    obtain ⟨start, _, hpath, hstart, rest, rfl, hrest⟩ := h
    exact ⟨start, rest, hpath, hstart, hrest⟩
  · intro h
    obtain ⟨start, rest, hpath, hstart, hrest⟩ := h
    exact ⟨start, _, hpath, hstart, rest, rfl, hrest⟩

/-- Below the directory as it is written, only a line feed keeps a path from matching. -/
theorem liesInLineBelow_iff (directory rest : String) :
    LiesInLineBelow directory (directory ++ "/" ++ rest) ↔ '\n' ∉ rest.toList := by
  have hpath : (directory ++ "/" ++ rest).toList = directory.toList ++ '/' :: rest.toList := by
    rw [String.toList_append, String.toList_append, List.append_assoc]
    rfl
  rw [LiesInLineBelow, hpath]
  constructor
  · intro h
    obtain ⟨start, last, heq, hstart, hlast⟩ := h
    obtain ⟨-, hcons⟩ := List.append_inj heq hstart.length_eq
    rwa [(List.cons.inj hcons).2]
  · intro h
    exact ⟨_, _, rfl, List.forall₂_same.mpr fun c _ => Text.sameFold_self c, h⟩

/-! Rules -/

namespace Rule

theorem appliesTo_belowDirectory_iff {r : Rule} {directory : String} (hpath : r.path = belowDirectory directory)
    (hcode : r.code = none) (hplain : '*' ∉ directory.toList) (code : Option String) (path : String) :
    r.appliesTo code path = true ↔ LiesInLineBelow directory path := by
  have hcovers : r.coversCode code = true := by
    rw [coversCode, hcode]
    rfl
  have hall : belowDirectory directory ≠ matchAll := by
    intro heq
    have hlength := congrArg (fun s : String => s.toList.length) heq
    simp only [toList_belowDirectory, List.length_append, matchAll] at hlength
    exact absurd hlength (by simp)
  rw [appliesTo, hcovers, Bool.true_and, coversPath, hpath, beq_false_of_ne hall, Bool.false_or]
  exact patternMatches_belowDirectory_iff hplain path

/-- The rule for everything below a directory can be made of every valid directory without stars. Whatever the code of a
violation, it excuses exactly the files whose paths lie below the directory, but for case, and have no line feed there. -/
theorem ofEntry_belowDirectory (test directory : String) (hvalid : patternFault? directory = none)
    (hplain : '*' ∉ directory.toList) : ∃ r, ofEntry ⟨test, belowDirectory directory, none⟩ = .ok r ∧
      (∀ code path, r.appliesTo code path = true ↔ LiesInLineBelow directory path) ∧
      ∀ code rest, r.appliesTo code (directory ++ "/" ++ rest) = true ↔ '\n' ∉ rest.toList := by
  let e : Entry := ⟨test, belowDirectory directory, none⟩
  have hpath : e.PathIsValid :=
    (patternFault?_eq_none_iff _).mp (patternFault?_belowDirectory hvalid hplain)
  refine ⟨_, ofEntry_of_valid hpath, ?_, ?_⟩
  · intro code path
    exact appliesTo_belowDirectory_iff rfl rfl hplain code path
  · intro code rest
    rw [appliesTo_belowDirectory_iff rfl rfl hplain, liesInLineBelow_iff]

/-- A file further down is excused, also where its name has a star. -/
theorem ofEntry_belowDirectory_nested : patternFault? "src" = none ∧ '*' ∉ "src".toList ∧
    ∃ r, ofEntry ⟨"Naming", belowDirectory "src", none⟩ = .ok r ∧ r.appliesTo (some "N1") "src/a/b*.rs" = true := by
  obtain ⟨r, hr, -, hbelow⟩ := ofEntry_belowDirectory "Naming" "src" (by decide) (by decide)
  exact ⟨by decide, by decide, r, hr, (hbelow (some "N1") "a/b*.rs").mpr (by decide)⟩

/-- The name of a file may have a line feed, and then the rule for its directory does not excuse it. -/
theorem belowDirectory_misses_line : patternFault? "d" = none ∧ '*' ∉ "d".toList ∧
    ∃ r, ofEntry ⟨"Naming", belowDirectory "d", none⟩ = .ok r ∧ ∀ code, r.appliesTo code "d/a\nb" = false := by
  have hpath : (⟨"Naming", belowDirectory "d", none⟩ : Entry).PathIsValid :=
    (patternFault?_eq_none_iff _).mp (by decide)
  refine ⟨by decide, by decide, _, ofEntry_of_valid hpath, fun code => ?_⟩
  have hline : ¬ LiesInLineBelow "d" ("d" ++ "/" ++ "a\nb") := fun h =>
    (liesInLineBelow_iff "d" "a\nb").mp h (by decide)
  rw [Bool.eq_false_iff]
  exact fun h => hline ((appliesTo_belowDirectory_iff rfl rfl (by decide) code "d/a\nb").mp h)

end Rule

end RepoConventions.Ignore
