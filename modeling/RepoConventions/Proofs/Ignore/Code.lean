import RepoConventions.Ignore.Rule
import RepoConventions.Proofs.Ignore.Entry
import RepoConventions.Proofs.Yaml.Origin

/-!
# The codes of entries

A rule is confined to a code when its entry has one, and an entry has one when the first field of that name is an
untagged scalar other than null. A list, a mapping or a tagged value in its place confines nothing.
-/

namespace RepoConventions.Ignore

open Yaml (Value)

theorem exists_plainText_iff {v : Value} : (∃ text, PlainText v text) ↔ v.HasText := by
  constructor
  · rintro ⟨text, htext⟩
    cases htext <;> trivial
  · intro hv
    rcases hv.cases with ⟨b, rfl⟩ | ⟨n, rfl⟩ | ⟨s, rfl⟩
    · exact ⟨_, .bool b⟩
    · exact ⟨_, .number n⟩
    · exact ⟨_, .string s⟩

theorem HoldsFirst.unique {node v w : Value} {name : String} (hv : HoldsFirst node name v)
    (hw : HoldsFirst node name w) : v = w :=
  Option.some.inj ((entryField?_eq_some_iff.mpr hv).symm.trans (entryField?_eq_some_iff.mpr hw))

theorem HoldsFirst.holdsText_iff {node v : Value} {name text : String} (h : HoldsFirst node name v) :
    HoldsText node name text ↔ PlainText v text := by
  constructor
  · rintro ⟨w, hw, htext⟩
    rwa [h.unique hw]
  · exact fun htext => ⟨v, h, htext⟩

theorem StandsFor.code_eq_some_iff {item v : Value} {e : Entry} (h : StandsFor item e) (hv : HoldsFirst item "code" v)
    {code : String} : e.code = some code ↔ PlainText v code :=
  (h.code code).trans hv.holdsText_iff

theorem StandsFor.code_eq_none {item v : Value} {e : Entry} (h : StandsFor item e) (hv : HoldsFirst item "code" v)
    (hnone : ¬ v.HasText) : e.code = none := by
  rw [Option.eq_none_iff_forall_ne_some]
  intro code hcode
  exact hnone (exists_plainText_iff.mp ⟨code, (h.code_eq_some_iff hv).mp hcode⟩)

/-! Rules -/

namespace Rule

variable {e : Entry} {r : Rule}

theorem data_of_ofEntry (h : ofEntry e = .ok r) : r.test = e.test ∧ r.path = e.path ∧ r.code = e.code := by
  unfold ofEntry at h
  split at h <;> cases h
  exact ⟨rfl, rfl, rfl⟩

theorem appliesTo_of_code (h : ofEntry e = .ok r) {code : String} (hcode : e.code = some code) (c : Option String)
    (file : String) : r.appliesTo c file = true ↔ c = some code ∧ r.coversPath file = true := by
  have hcovers : r.coversCode c = true ↔ c = some code := by
    rw [coversCode, (data_of_ofEntry h).2.2, hcode, Option.isNone_some, Bool.false_or, beq_iff_eq]
    exact eq_comm
  rw [appliesTo, Bool.and_eq_true, hcovers]

theorem appliesTo_of_no_code (h : ofEntry e = .ok r) (hcode : e.code = none) (c : Option String) (file : String) :
    r.appliesTo c file = r.coversPath file := by
  rw [appliesTo, coversCode, (data_of_ofEntry h).2.2, hcode]
  rfl

end Rule

theorem exists_items_of_entriesOfText {path text : String} {entries : List Entry}
    (h : entriesOfText path text = .ok entries) :
    ∃ root items, Yaml.typedValue text = .ok root ∧ HoldsItems root items ∧ List.Forall₂ StandsFor items entries := by
  unfold entriesOfText at h
  split at h
  · next root hroot =>
    rcases holdsItems_or_rootFault root with ⟨items, hitems⟩ | ⟨fault, hfault⟩
    · rw [entriesOfValue_of_holdsItems hitems, entriesOfList_eq_ok_iff] at h
      exact ⟨root, items, hroot, hitems, h⟩
    · rw [entriesOfValue_of_rootFault hfault] at h
      cases h
  · cases h

/-- What the code of an item makes of its rule, in every text that is read. A code that has a text confines the rule to
violations of that code. Any other one leaves the entry without a code, and its rule excuses every violation in the
files that match. -/
theorem entriesOfText_codes {path text : String} {entries : List Entry} (h : entriesOfText path text = .ok entries) :
    ∃ root items, Yaml.typedValue text = .ok root ∧ HoldsItems root items ∧
      List.Forall₂ (fun item e => ∀ v, HoldsFirst item "code" v →
        (v.HasText → ∃ code, PlainText v code ∧ e.code = some code ∧ ∀ r, Rule.ofEntry e = .ok r → ∀ c file,
          r.appliesTo c file = true ↔ c = some code ∧ r.coversPath file = true) ∧
        (¬ v.HasText → e.code = none ∧ ∀ r, Rule.ofEntry e = .ok r → ∀ c file,
          r.appliesTo c file = r.coversPath file)) items entries := by
  obtain ⟨root, items, hroot, hitems, hentries⟩ := exists_items_of_entriesOfText h
  refine ⟨root, items, hroot, hitems, hentries.imp ?_⟩
  intro item e he v hv
  constructor
  · intro htext
    obtain ⟨code, hcode⟩ := exists_plainText_iff.mpr htext
    have hsome : e.code = some code := (he.code_eq_some_iff hv).mpr hcode
    exact ⟨code, hcode, hsome, fun r hr => Rule.appliesTo_of_code hr hsome⟩
  · intro hnone
    have hcode : e.code = none := he.code_eq_none hv hnone
    exact ⟨hcode, fun r hr => Rule.appliesTo_of_no_code hr hcode⟩

/-- One exception, with its code in a list and then by itself. -/
private def listedText : String :=
  "- test: A\n  path: '*'\n  code: [A1]\n- test: A\n  path: '*'\n  code: A1\n"

private def codedItem (code : Value) : Value :=
  .mapping [(.string "test", .string "A"), (.string "path", .string "*"), (.string "code", code)]

private theorem holdsFirst_codedItem (code : Value) : HoldsFirst (codedItem code) "code" code := by
  refine ⟨[(.string "test", .string "A"), (.string "path", .string "*")], .string "code", [], rfl, by decide, ?_⟩
  intro e he
  rcases List.mem_cons.mp he with rfl | he
  · decide
  · rcases List.mem_singleton.mp he with rfl
    decide

private theorem typedValue_listedText :
    Yaml.typedValue listedText = .ok (.list [codedItem (.list [.string "A1"]), codedItem (.string "A1")]) := by
  have htree : (Yaml.tree? listedText).toOption = some (some (.sequence none [
      .mapping none [(.scalar none "test" true, .scalar none "A" true),
        (.scalar none "path" true, .scalar none "*" false),
        (.scalar none "code" true, .sequence none [.scalar none "A1" true])],
      .mapping none [(.scalar none "test" true, .scalar none "A" true),
        (.scalar none "path" true, .scalar none "*" false),
        (.scalar none "code" true, .scalar none "A1" true)]])) := by
    decide +kernel
  rw [Yaml.typedValue, Yaml.eq_ok_of_toOption htree]
  rfl

private theorem entriesOfText_listedText :
    entriesOfText "conform.yml" listedText = .ok [⟨"A", "*", none⟩, ⟨"A", "*", some "A1"⟩] := by
  rw [entriesOfText, typedValue_listedText]
  rfl

/-- Of the two rules the second one is confined to the code. -/
theorem entriesOfText_codes_listed :
    entriesOfText "conform.yml" listedText = .ok [⟨"A", "*", none⟩, ⟨"A", "*", some "A1"⟩] ∧
      (∀ r, Rule.ofEntry ⟨"A", "*", none⟩ = .ok r → ∀ c file, r.appliesTo c file = r.coversPath file) ∧
      ∀ r, Rule.ofEntry ⟨"A", "*", some "A1"⟩ = .ok r → ∀ c file,
        r.appliesTo c file = true ↔ c = some "A1" ∧ r.coversPath file = true := by
  obtain ⟨root, items, hroot, hitems, hentries⟩ := entriesOfText_codes entriesOfText_listedText
  rw [typedValue_listedText] at hroot
  cases hroot
  cases hitems
  obtain ⟨hfirst, hrest⟩ := List.forall₂_cons.mp hentries
  obtain ⟨hsecond, -⟩ := List.forall₂_cons.mp hrest
  obtain ⟨-, hwide⟩ := (hfirst _ (holdsFirst_codedItem _)).2 (fun h => h.elim)
  obtain ⟨code, -, hcode, hnarrow⟩ := (hsecond _ (holdsFirst_codedItem _)).1 trivial
  cases hcode
  exact ⟨entriesOfText_listedText, hwide, hnarrow⟩

/-- A code in a list is dropped: its rule excuses violations without a code and those of other codes. -/
theorem entriesOfText_drops_code :
    Yaml.typedValue listedText = .ok (.list [codedItem (.list [.string "A1"]), codedItem (.string "A1")]) ∧
      HoldsFirst (codedItem (.list [.string "A1"])) "code" (.list [.string "A1"]) ∧
      entriesOfText "conform.yml" listedText = .ok [⟨"A", "*", none⟩, ⟨"A", "*", some "A1"⟩] ∧
      ∃ r, Rule.ofEntry ⟨"A", "*", none⟩ = .ok r ∧ r.appliesTo none "f" = true ∧ r.appliesTo (some "B2") "f" = true :=
  ⟨typedValue_listedText, holdsFirst_codedItem _, entriesOfText_listedText,
    ⟨"A", "*", none, patternFault?_matchAll⟩, rfl, rfl, rfl⟩

end RepoConventions.Ignore
