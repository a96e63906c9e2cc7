import RepoConventions.Proofs.Ignore.Code
import RepoConventions.Proofs.Ignore.RuleSet
import RepoConventions.Proofs.Yaml.Stable
import RepoConventions.Rules.Record

/-!
# Entries and the plain scalars they are written with

A field that is written as a plain scalar is the canonical text of that scalar. It is the scalar as written only where
that is stable, and only then does the rule excuse the code that stands in the file.
-/

namespace RepoConventions.Ignore

open Rules (FileRecord Violation)
open Yaml (Tree Value)
open Yaml.Tree (typed readsTo EntriesRead)
open Yaml.Resolution (plain IsStable)

/-! Nodes -/

def fieldNode? (n : Tree) (name : String) : Option Tree :=
  match n with
  | .mapping _ ts => (ts.find? fun e => readsTo typed (isKey name) e.1).map (·.2)
  | .scalar .. | .sequence .. => none

def itemNodes : Tree → List Tree
  | .sequence _ items => items
  | .scalar .. | .mapping .. => []

/-- The nodes of the items of a text: those of the root, or those under the key. -/
def entryNodes : Option Tree → List Tree
  | none => []
  | some (.mapping tag ts) => ((fieldNode? (.mapping tag ts) "ignore").map itemNodes).getD []
  | some t => itemNodes t

/-- The field is written as that untagged plain scalar, which is not null. -/
def WrittenPlain (n : Tree) (name s : String) : Prop :=
  fieldNode? n name = some (.scalar none s true) ∧ plain s ≠ .ok .null

def CanonicalText (s text : String) : Prop := ∃ v, plain s = .ok v ∧ PlainText v text

/-- What the plain scalars of an item make of its entry. -/
structure EntryOfNode (n : Tree) (e : Entry) : Prop where
  test : ∀ s, WrittenPlain n "test" s → CanonicalText s e.test ∧ (e.test = s ↔ IsStable s)
  path : ∀ s, WrittenPlain n "path" s → CanonicalText s e.path ∧ (e.path = s ↔ IsStable s)
  code : ∀ s, WrittenPlain n "code" s →
    (∃ code, e.code = some code ∧ CanonicalText s code) ∧ (e.code = some s ↔ IsStable s)
  excuses : ∀ s, WrittenPlain n "code" s → ∀ r, Rule.ofEntry e = .ok r → ∀ f : FileRecord,
    f.context.ignores = .ofRules [r] → Text.lowercase f.rule = Text.lowercase e.test →
    r.coversPath f.relativePath = true → ∀ reason,
      (f.isExcused (.failCode s reason) = true ↔ IsStable s) ∧ (f.isExcused (.warnCode s reason) = true ↔ IsStable s)

/-! What the nodes are read as -/

variable {n : Tree} {item : Value}

theorem fieldNode?_read (h : typed n = .ok item) (name : String) :
    Option.Rel (fun m v => typed m = .ok v) (fieldNode? n name) (entryField? item name) := by
  rw [entryField?_eq_find?]
  cases Tree.typed_of_typed h with
  | scalar hscalar =>
    rw [(Yaml.Resolution.scalar_no_collection hscalar).1]
    exact .none
  | sequence _ =>
    rw [Tree.entries?_withTag]
    exact .none
  | mapping hentries =>
    rw [Tree.entries?_withTag]
    exact Tree.find?_readsTo hentries (isKey name)

theorem exists_fieldNode {name : String} {v : Value} (h : typed n = .ok item) (hv : HoldsFirst item name v) :
    ∃ m, fieldNode? n name = some m ∧ typed m = .ok v := by
  have hrel := fieldNode?_read h name
  rw [entryField?_eq_some_iff.mpr hv] at hrel
  generalize fieldNode? n name = m? at hrel
  cases hrel with
  | some hm => exact ⟨_, rfl, hm⟩

theorem fieldNode?_eq_none {name : String} (h : typed n = .ok item) (hnone : ∀ v, ¬ HoldsFirst item name v) :
    fieldNode? n name = none := by
  have hrel := fieldNode?_read h name
  rw [entryField?_eq_none_iff.mpr hnone] at hrel
  generalize fieldNode? n name = m? at hrel
  cases hrel
  rfl

theorem exists_holdsFirst {m : Tree} {name : String} (h : typed n = .ok item) (hm : fieldNode? n name = some m) :
    ∃ v, HoldsFirst item name v ∧ typed m = .ok v := by
  have hrel := fieldNode?_read h name
  rw [hm] at hrel
  generalize hfield : entryField? item name = v? at hrel
  cases hrel with
  | some hv => exact ⟨_, entryField?_eq_some_iff.mp hfield, hv⟩

theorem entryNodes_read {root : Value} {items : List Value} (h : typed n = .ok root) (hitems : HoldsItems root items) :
    List.Forall₂ (fun m v => typed m = .ok v) (entryNodes (some n)) items := by
  cases hitems with
  | null =>
    obtain ⟨tag, text, plain, rfl⟩ := Tree.typed_eq_null h
    exact .nil
  | list items =>
    obtain ⟨tag, ts, rfl, hread⟩ := Tree.typed_eq_list h
    exact hread
  | absent hnone =>
    obtain ⟨tag, ts, rfl, -⟩ := Tree.typed_eq_mapping h
    rw [entryNodes, fieldNode?_eq_none h hnone]
    exact .nil
  | keyNull hnull =>
    obtain ⟨tag, ts, rfl, -⟩ := Tree.typed_eq_mapping h
    obtain ⟨m, hm, hread⟩ := exists_fieldNode h hnull
    obtain ⟨tag', text, plain, rfl⟩ := Tree.typed_eq_null hread
    rw [entryNodes, hm]
    exact .nil
  | keyList hlist =>
    obtain ⟨tag, ts, rfl, -⟩ := Tree.typed_eq_mapping h
    obtain ⟨m, hm, hread⟩ := exists_fieldNode h hlist
    obtain ⟨tag', ms, rfl, hitems⟩ := Tree.typed_eq_list hread
    rw [entryNodes, hm]
    exact hitems

/-! What becomes of a plain scalar -/

theorem PlainText.scalarText? {v : Value} {text : String} (h : PlainText v text) : v.scalarText? = some text := by
  cases h <;> rfl

theorem CanonicalText.eq_iff_isStable {s text : String} (h : CanonicalText s text) : text = s ↔ IsStable s := by
  obtain ⟨v, hv, htext⟩ := h
  rw [← Yaml.Resolution.scalarText_eq_iff_isStable hv, htext.scalarText?, Option.some.injEq]

theorem WrittenPlain.holdsText_iff {name s text : String} (h : WrittenPlain n name s) (hread : typed n = .ok item) :
    HoldsText item name text ↔ CanonicalText s text := by
  obtain ⟨v, hfirst, hv⟩ := exists_holdsFirst hread h.1
  have hplain : plain s = .ok v := hv
  rw [hfirst.holdsText_iff]
  constructor
  · exact fun htext => ⟨v, hplain, htext⟩
  · rintro ⟨w, hw, htext⟩
    cases hplain.symm.trans hw
    exact htext

theorem WrittenPlain.exists_canonicalText {name s : String} (h : WrittenPlain n name s) (hread : typed n = .ok item) :
    ∃ text, CanonicalText s text := by
  obtain ⟨v, -, hv⟩ := exists_holdsFirst hread h.1
  have hplain : plain s = .ok v := hv
  rcases Yaml.Resolution.plain_cases hplain with rfl | htext
  · exact absurd hplain h.2
  · obtain ⟨text, htext⟩ := exists_plainText_iff.mpr htext
    exact ⟨text, v, hplain, htext⟩

/-! Rules -/

theorem RuleSet.excludes_ofRules_singleton {r : Rule} {check path : String} {code : Option String} :
    (RuleSet.ofRules [r]).excludes check code path = true ↔
      Text.lowercase r.test = Text.lowercase check ∧ r.appliesTo code path = true := by
  rw [ofRules, excludes_foldl_add, excludes_empty]
  simp

/-- A rule that is confined to a code excuses that code and no other one in the files of its check that match. -/
theorem isExcused_iff_of_code {e : Entry} {r : Rule} (hr : Rule.ofEntry e = .ok r) {code : String}
    (hcode : e.code = some code) {f : FileRecord} (hignores : f.context.ignores = .ofRules [r])
    (hcheck : Text.lowercase f.rule = Text.lowercase e.test) (hpath : r.coversPath f.relativePath = true)
    (v : Violation) : f.isExcused v = true ↔ v.code = some code := by
  rw [FileRecord.isExcused, hignores, RuleSet.excludes_ofRules_singleton, Rule.appliesTo_of_code hr hcode,
    (Rule.data_of_ofEntry hr).1, hcheck]
  simp [hpath]

theorem entryOfNode_of_standsFor {e : Entry} (hread : typed n = .ok item) (h : StandsFor item e) : EntryOfNode n e := by
  have hcode {s : String} (hs : WrittenPlain n "code" s) : ∃ code, e.code = some code ∧ CanonicalText s code := by
    obtain ⟨text, htext⟩ := hs.exists_canonicalText hread
    exact ⟨text, (h.code text).mpr ((hs.holdsText_iff hread).mpr htext), htext⟩
  constructor
  case test =>
    intro s hs
    have htext := (hs.holdsText_iff hread).mp h.test
    exact ⟨htext, htext.eq_iff_isStable⟩
  case path =>
    intro s hs
    have htext := (hs.holdsText_iff hread).mp h.path
    exact ⟨htext, htext.eq_iff_isStable⟩
  case code =>
    intro s hs
    obtain ⟨code, hsome, htext⟩ := hcode hs
    refine ⟨⟨code, hsome, htext⟩, ?_⟩
    rw [hsome, Option.some.injEq, htext.eq_iff_isStable]
  case excuses =>
    intro s hs r hr f hignores hcheck hpath reason
    obtain ⟨code, hsome, htext⟩ := hcode hs
    have hexcused (v : Violation) (hv : v.code = some s) : f.isExcused v = true ↔ IsStable s := by
      rw [isExcused_iff_of_code hr hsome hignores hcheck hpath, hv, Option.some.injEq, eq_comm, htext.eq_iff_isStable]
    exact ⟨hexcused _ rfl, hexcused _ rfl⟩

/-- What the plain scalars of a text make of its entries. Each field that is written as one is its canonical text, and
the scalar as it stands in the text just when that is stable: a word, `true` or `false`, an integer in decimal digits
without a plus, or a float that is written as it is shown. Under the same condition, and no other, the rule of the entry
excuses failures and warnings with the code that stands in the text. -/
theorem entriesOfText_plainScalars {path text : String} {entries : List Entry}
    (h : entriesOfText path text = .ok entries) :
    ∃ t?, Yaml.tree? text = .ok t? ∧ List.Forall₂ EntryOfNode (entryNodes t?) entries := by
  obtain ⟨root, items, hroot, hitems, hentries⟩ := exists_items_of_entriesOfText h
  rcases Yaml.typedValue_cases hroot with ⟨rfl, ht⟩ | ⟨t, ht, hread⟩
  · cases hitems
    cases hentries
    exact ⟨none, ht, .nil⟩
  · have hnodes := entryNodes_read hread hitems
    refine ⟨some t, ht, (Yaml.forall₂_comp hnodes hentries).imp ?_⟩
    rintro n e ⟨item, hn, he⟩
    exact entryOfNode_of_standsFor hn he

private def numberedText : String :=
  "- test: A\n  path: '*'\n  code: 1.10\n- test: A\n  path: '*'\n  code: 10\n"

private def numberedNode (code : String) : Tree :=
  .mapping none [(.scalar none "test" true, .scalar none "A" true), (.scalar none "path" true, .scalar none "*" false),
    (.scalar none "code" true, .scalar none code true)]

private def numberedEntries : List Entry := [⟨"A", "*", some "1.1"⟩, ⟨"A", "*", some "10"⟩]

private theorem tree?_numberedText :
    Yaml.tree? numberedText = .ok (some (.sequence none [numberedNode "1.10", numberedNode "10"])) :=
  Yaml.eq_ok_of_toOption (by decide +kernel)

private theorem entriesOfText_numberedText : entriesOfText "conform.yml" numberedText = .ok numberedEntries :=
  Yaml.eq_ok_of_toOption (by decide +kernel)

private theorem writtenPlain_numberedNode {code : String} (h : plain code ≠ .ok .null) :
    WrittenPlain (numberedNode code) "code" code :=
  ⟨rfl, h⟩

/-- Of the two codes the second one stays as it is written. -/
theorem entriesOfText_plainScalars_numbered :
    entriesOfText "conform.yml" numberedText = .ok [⟨"A", "*", some "1.1"⟩, ⟨"A", "*", some "10"⟩] ∧
      ¬ IsStable "1.10" ∧ IsStable "10" := by
  obtain ⟨t?, ht, hentries⟩ := entriesOfText_plainScalars entriesOfText_numberedText
  rw [tree?_numberedText] at ht
  cases ht
  obtain ⟨hfirst, hrest⟩ := List.forall₂_cons.mp hentries
  obtain ⟨hsecond, -⟩ := List.forall₂_cons.mp hrest
  have hchanged := (hfirst.code "1.10" (writtenPlain_numberedNode nofun)).2
  have hkept := (hsecond.code "10" (writtenPlain_numberedNode nofun)).2
  exact ⟨entriesOfText_numberedText, fun hstable => absurd (hchanged.mpr hstable) (by decide), hkept.mp rfl⟩

private def confinedRecord (r : Rule) : FileRecord := .new ⟨.ofRoot "/r", .ofRules [r], none⟩ "A" "/r/f"

/-- A code that is written `1.10` becomes `1.1`, and its rule excuses no violation with the code that is written. -/
theorem entriesOfText_changes_code :
    Yaml.tree? numberedText = .ok (some (.sequence none [numberedNode "1.10", numberedNode "10"])) ∧
      WrittenPlain (numberedNode "1.10") "code" "1.10" ∧
      entriesOfText "conform.yml" numberedText = .ok [⟨"A", "*", some "1.1"⟩, ⟨"A", "*", some "10"⟩] ∧
      ∃ r, Rule.ofEntry ⟨"A", "*", some "1.1"⟩ = .ok r ∧ r.coversPath (confinedRecord r).relativePath = true ∧
        (confinedRecord r).isExcused (.failCode "1.10" "x") = false ∧
        (confinedRecord r).isExcused (.warnCode "1.10" "x") = false :=
  ⟨tree?_numberedText, writtenPlain_numberedNode nofun, entriesOfText_numberedText,
    ⟨"A", "*", some "1.1", patternFault?_matchAll⟩, rfl, rfl, by decide +kernel, by decide +kernel⟩

end RepoConventions.Ignore
