import RepoConventions.Ignore.Entry
import RepoConventions.Proofs.Yaml.Guided
import RepoConventions.Proofs.Yaml.Results

/-!
# The entries of a suppression file

Which values hold a list of entries, which entry an item stands for, and what is reported where an item stands for none.
Names of fields are told apart by the first key that matches, tags around a mapping do not matter, and a text must be an
untagged scalar.
-/

namespace RepoConventions.Ignore

open Yaml (Value bind_eq_ok_iff bind_cons_eq_ok_iff pure_eq_ok_iff)

/-! What a value says -/

/-- A key that is a string, and that name but for the case of ASCII letters. -/
def isKey (name : String) : Value → Bool
  | .string key => Text.eqIgnoreCase key name
  | .null | .bool _ | .number _ | .list _ | .mapping _ | .tagged .. => false

/-- The value of the first key of that name in a mapping, which may be tagged. -/
def HoldsFirst (node : Value) (name : String) (v : Value) : Prop :=
  ∃ before k after, node.entries? = some (before ++ (k, v) :: after) ∧ isKey name k = true ∧
    ∀ e ∈ before, isKey name e.1 = false

/-- The text of an untagged string, number or boolean. -/
inductive PlainText : Value → String → Prop
  | string (s : String) : PlainText (.string s) s
  | number (n : Yaml.Number) : PlainText (.number n) n.text
  | bool (b : Bool) : PlainText (.bool b) (Value.boolText b)

def HoldsText (item : Value) (name text : String) : Prop := ∃ v, HoldsFirst item name v ∧ PlainText v text

/-- The entry that an item stands for. -/
structure StandsFor (item : Value) (e : Entry) : Prop where
  test : HoldsText item "test" e.test
  path : HoldsText item "path" e.path
  code : ∀ code, e.code = some code ↔ HoldsText item "code" code

/-- The first of the required fields that has no text in an item. -/
inductive FirstMissing (item : Value) : String → Prop
  | test (h : ∀ text, ¬ HoldsText item "test" text) : FirstMissing item "test"
  | path {test : String} (htest : HoldsText item "test" test) (h : ∀ text, ¬ HoldsText item "path" text) :
    FirstMissing item "path"

/-- The items that a root holds: its own, or those under the key. -/
inductive HoldsItems : Value → List Value → Prop
  | null : HoldsItems .null []
  | list (items : List Value) : HoldsItems (.list items) items
  | absent {es : List (Value × Value)} (h : ∀ v, ¬ HoldsFirst (.mapping es) "ignore" v) : HoldsItems (.mapping es) []
  | keyNull {es : List (Value × Value)} (h : HoldsFirst (.mapping es) "ignore" .null) : HoldsItems (.mapping es) []
  | keyList {es : List (Value × Value)} {items : List Value} (h : HoldsFirst (.mapping es) "ignore" (.list items)) :
    HoldsItems (.mapping es) items

/-- What is wrong with a root that holds no items. -/
inductive RootFault : Value → EntryListFault → Prop
  | key {es : List (Value × Value)} {v : Value} (h : HoldsFirst (.mapping es) "ignore" v) (hnull : v ≠ .null)
    (hlist : ∀ items, v ≠ .list items) : RootFault (.mapping es) (.notList v.kindName)
  | root {v : Value} (hnull : v ≠ .null) (hmapping : ∀ es, v ≠ .mapping es) (hlist : ∀ items, v ≠ .list items) :
    RootFault v (.notEntries v.kindName)

def SameFields (a b : Value) : Prop :=
  ∀ name ∈ ["test", "path", "code"], ∀ v, HoldsFirst a name v ↔ HoldsFirst b name v

/-! Fields -/

theorem entryField?_eq_find? (node : Value) (name : String) :
    entryField? node name = node.entries?.bind fun es => (es.find? fun e => isKey name e.1).map (·.2) := by
  rw [entryField?]
  cases node.entries? with
  | none => rfl
  | some es =>
    simp only [Option.bind_eq_bind, Option.bind_some]
    induction es with
    | nil => rfl
    | cons e rest ih =>
      obtain ⟨k, v⟩ := e
      rw [List.find?_cons, List.find?_cons]
      cases k with
      | string key =>
        simp only [isKey]
        cases Text.eqIgnoreCase key name with
        | true => rfl
        | false => exact ih
      | _ => exact ih

theorem entryField?_eq_some_iff {node v : Value} {name : String} :
    entryField? node name = some v ↔ HoldsFirst node name v := by
  rw [entryField?_eq_find?]
  cases hentries : node.entries? with
  | none => simp [HoldsFirst, hentries]
  | some es =>
    simp only [Option.bind_some, Option.map_eq_some_iff, List.find?_eq_some_iff_append, HoldsFirst, hentries,
      Option.some.injEq]
    constructor
    · rintro ⟨⟨k, v⟩, ⟨hk, before, after, rfl, hbefore⟩, rfl⟩
      exact ⟨before, k, after, rfl, hk, fun e he => by simpa using hbefore e he⟩
    · rintro ⟨before, k, after, rfl, hk, hbefore⟩
      exact ⟨(k, v), ⟨hk, before, after, rfl, fun e he => by simpa using hbefore e he⟩, rfl⟩

theorem entryField?_eq_none_iff {node : Value} {name : String} :
    entryField? node name = none ↔ ∀ v, ¬ HoldsFirst node name v := by
  rw [Option.eq_none_iff_forall_ne_some]
  exact forall_congr' fun v => not_congr entryField?_eq_some_iff

theorem plainText?_eq_some_iff {v : Value} {text : String} : plainText? v = some text ↔ PlainText v text := by
  constructor
  · intro h
    cases v with
    | string s => cases h; exact .string _
    | number n => cases h; exact .number _
    | bool b => cases h; exact .bool _
    | null => cases h
    | list items => cases h
    | mapping es => cases h
    | tagged tag v => cases h
  · intro h
    cases h <;> rfl

theorem textField?_eq_some_iff {item : Value} {name text : String} :
    textField? item name = some text ↔ HoldsText item name text := by
  simp only [textField?, Option.bind_eq_some_iff, entryField?_eq_some_iff, plainText?_eq_some_iff, HoldsText]

theorem textField?_eq_none_iff {item : Value} {name : String} :
    textField? item name = none ↔ ∀ text, ¬ HoldsText item name text := by
  rw [Option.eq_none_iff_forall_ne_some]
  exact forall_congr' fun text => not_congr textField?_eq_some_iff

/-! Items -/

theorem entryOfValue_eq_ok_iff {path : String} {index : Nat} {item : Value} {e : Entry} :
    entryOfValue path index item = .ok e ↔ StandsFor item e := by
  constructor
  · intro h
    unfold entryOfValue at h
    split at h
    · cases h
    · cases h
    · next htest hpath =>
      cases h
      exact ⟨textField?_eq_some_iff.mp htest, textField?_eq_some_iff.mp hpath, fun code => textField?_eq_some_iff⟩
  · intro h
    have htest := textField?_eq_some_iff.mpr h.test
    have hpath := textField?_eq_some_iff.mpr h.path
    have hcode : textField? item "code" = e.code := Option.ext fun code => textField?_eq_some_iff.trans (h.code code).symm
    rw [entryOfValue, htest, hpath, hcode]

theorem entryOfValue_of_firstMissing {item : Value} {field : String} (h : FirstMissing item field) (path : String)
    (index : Nat) : entryOfValue path index item = .error (.missingField path index field) := by
  cases h with
  | test hnone => rw [entryOfValue, textField?_eq_none_iff.mpr hnone]
  | path htest hnone => rw [entryOfValue, textField?_eq_some_iff.mpr htest, textField?_eq_none_iff.mpr hnone]

theorem exists_standsFor_iff {item : Value} :
    (∃ e, StandsFor item e) ↔ (∃ test, HoldsText item "test" test) ∧ ∃ file, HoldsText item "path" file := by
  constructor
  · rintro ⟨e, he⟩
    exact ⟨⟨_, he.test⟩, ⟨_, he.path⟩⟩
  · rintro ⟨⟨test, htest⟩, file, hfile⟩
    exact ⟨⟨test, file, textField? item "code"⟩, htest, hfile, fun code => textField?_eq_some_iff⟩

theorem standsFor_or_firstMissing (item : Value) : (∃ e, StandsFor item e) ∨ ∃ field, FirstMissing item field := by
  rw [exists_standsFor_iff]
  by_cases htest : ∃ test, HoldsText item "test" test
  · by_cases hpath : ∃ file, HoldsText item "path" file
    · exact .inl ⟨htest, hpath⟩
    · obtain ⟨test, htest⟩ := htest
      exact .inr ⟨_, .path htest (not_exists.mp hpath)⟩
  · exact .inr ⟨_, .test (not_exists.mp htest)⟩

theorem exists_standsFor_all_iff {items : List Value} :
    (∃ entries, List.Forall₂ StandsFor items entries) ↔
      ∀ item ∈ items, (∃ test, HoldsText item "test" test) ∧ ∃ file, HoldsText item "path" file := by
  induction items with
  | nil => simp
  | cons item rest ih =>
    rw [List.forall_mem_cons, ← exists_standsFor_iff, ← ih]
    simp only [List.forall₂_cons_left_iff]
    constructor
    · rintro ⟨_, e, entries, he, hentries, -⟩
      exact ⟨⟨e, he⟩, entries, hentries⟩
    · rintro ⟨⟨e, he⟩, entries, hentries⟩
      exact ⟨_, e, entries, he, hentries, rfl⟩

theorem entriesOfList_eq_ok_iff {path : String} {index : Nat} {items : List Value} {entries : List Entry} :
    entriesOfList path index items = .ok entries ↔ List.Forall₂ StandsFor items entries := by
  induction items generalizing index entries with
  | nil => simp [entriesOfList, eq_comm]
  | cons item rest ih =>
    rw [entriesOfList, bind_cons_eq_ok_iff, List.forall₂_cons_left_iff]
    simp only [entryOfValue_eq_ok_iff, ih]

/-- The first item that lacks a field is reported, whatever follows it. -/
theorem entriesOfList_of_firstMissing {before : List Value} {entries : List Entry} {item : Value} {field : String}
    (hbefore : List.Forall₂ StandsFor before entries) (h : FirstMissing item field) (path : String) (index : Nat)
    (after : List Value) :
    entriesOfList path index (before ++ item :: after) = .error (.missingField path (index + before.length) field) := by
  induction hbefore generalizing index with
  | nil =>
    rw [List.nil_append, entriesOfList, entryOfValue_of_firstMissing h]
    rfl
  | @cons first e rest es hfirst _ ih =>
    rw [List.cons_append, entriesOfList, entryOfValue_eq_ok_iff.mpr hfirst, ih, List.length_cons]
    simp only [bind, Except.bind]
    rw [Nat.add_right_comm, Nat.add_assoc]

theorem exists_firstMissing {items : List Value} (h : ¬ ∃ entries, List.Forall₂ StandsFor items entries) :
    ∃ before item after entries field, items = before ++ item :: after ∧ List.Forall₂ StandsFor before entries ∧
      FirstMissing item field := by
  induction items with
  | nil => exact absurd ⟨[], .nil⟩ h
  | cons item rest ih =>
    rcases standsFor_or_firstMissing item with ⟨e, he⟩ | ⟨field, hfield⟩
    · have hrest : ¬ ∃ entries, List.Forall₂ StandsFor rest entries := by
        rintro ⟨entries, hentries⟩
        exact h ⟨e :: entries, .cons he hentries⟩
      obtain ⟨before, x, after, entries, field, rfl, hbefore, hx⟩ := ih hrest
      exact ⟨item :: before, x, after, e :: entries, field, rfl, .cons he hbefore, hx⟩
    · exact ⟨[], item, rest, [], field, rfl, .nil, hfield⟩

theorem entriesOfList_congr {items items' : List Value} (h : List.Forall₂ SameFields items items') (path : String)
    (index : Nat) : entriesOfList path index items = entriesOfList path index items' := by
  have hfield {a b : Value} (hab : SameFields a b) {name : String} (hname : name ∈ ["test", "path", "code"]) :
      textField? a name = textField? b name := by
    have hsame : entryField? a name = entryField? b name :=
      Option.ext fun v => entryField?_eq_some_iff.trans ((hab name hname v).trans entryField?_eq_some_iff.symm)
    rw [textField?, textField?, hsame]
  induction h generalizing index with
  | nil => rfl
  | @cons a b _ _ hab _ ih =>
    rw [entriesOfList, entriesOfList, entryOfValue, entryOfValue, hfield hab (by simp), hfield hab (by simp),
      hfield hab (by simp), ih]

/-! Roots -/

theorem entriesOfValue_of_holdsItems {root : Value} {items : List Value} (h : HoldsItems root items) (path : String) :
    entriesOfValue path root = entriesOfList path 0 items := by
  cases h with
  | null => rfl
  | list items => rfl
  | absent hnone => rw [entriesOfValue, entryField?_eq_none_iff.mpr hnone]; rfl
  | keyNull hnull => rw [entriesOfValue, entryField?_eq_some_iff.mpr hnull]; rfl
  | keyList hlist => rw [entriesOfValue, entryField?_eq_some_iff.mpr hlist]

theorem entriesOfValue_of_rootFault {root : Value} {fault : EntryListFault} (h : RootFault root fault) (path : String) :
    entriesOfValue path root = .error (.invalidConfig path fault) := by
  cases h with
  | @key es v h hnull hlist =>
    rw [entriesOfValue, entryField?_eq_some_iff.mpr h]
    cases v with
    | null => exact absurd rfl hnull
    | list items => exact absurd rfl (hlist items)
    | _ => rfl
  | root hnull hmapping hlist =>
    cases root with
    | null => exact absurd rfl hnull
    | mapping es => exact absurd rfl (hmapping es)
    | list items => exact absurd rfl (hlist items)
    | _ => rfl

theorem holdsItems_or_rootFault (root : Value) : (∃ items, HoldsItems root items) ∨ ∃ fault, RootFault root fault := by
  cases root with
  | null => exact .inl ⟨_, .null⟩
  | list items => exact .inl ⟨_, .list items⟩
  | mapping es =>
    cases hfield : entryField? (.mapping es) "ignore" with
    | none => exact .inl ⟨_, .absent (entryField?_eq_none_iff.mp hfield)⟩
    | some v =>
      have hholds := entryField?_eq_some_iff.mp hfield
      cases v with
      | null => exact .inl ⟨_, .keyNull hholds⟩
      | list items => exact .inl ⟨_, .keyList hholds⟩
      | _ => exact .inr ⟨_, .key hholds nofun nofun⟩
  | _ => exact .inr ⟨_, .root nofun nofun nofun⟩

/-- The typed value of a text decides what its entries are. Where it holds items, there is one entry for each of them in
order, or the first item that lacks a required field is reported with the first one it lacks. Nothing but the first values
of the three fields matters. Where it holds no items, the kind of what stands in their place is reported. -/
theorem entriesOfText_shapes (path : String) {text : String} {root : Value} (h : Yaml.typedValue text = .ok root) :
    (∀ items, HoldsItems root items →
      (∀ entries, entriesOfText path text = .ok entries ↔ List.Forall₂ StandsFor items entries) ∧
      ((∃ entries, entriesOfText path text = .ok entries) ↔
        ∀ item ∈ items, (∃ test, HoldsText item "test" test) ∧ ∃ file, HoldsText item "path" file) ∧
      ((¬ ∃ entries, entriesOfText path text = .ok entries) → ∃ before item after entries field,
        items = before ++ item :: after ∧ List.Forall₂ StandsFor before entries ∧ FirstMissing item field ∧
        entriesOfText path text = .error (.missingField path before.length field)) ∧
      ∀ text' root' items', Yaml.typedValue text' = .ok root' → HoldsItems root' items' →
        List.Forall₂ SameFields items items' → entriesOfText path text' = entriesOfText path text) ∧
    ((∀ items, ¬ HoldsItems root items) →
      ∃ fault, RootFault root fault ∧ entriesOfText path text = .error (.invalidConfig path fault)) := by
  have hread {text : String} {root : Value} (h : Yaml.typedValue text = .ok root) :
      entriesOfText path text = entriesOfValue path root := by
    rw [entriesOfText, h]
  constructor
  · intro items hitems
    have hlist : entriesOfText path text = entriesOfList path 0 items := by
      rw [hread h, entriesOfValue_of_holdsItems hitems]
    have hok (entries : List Entry) : entriesOfText path text = .ok entries ↔ List.Forall₂ StandsFor items entries := by
      rw [hlist, entriesOfList_eq_ok_iff]
    refine ⟨hok, ?_, ?_, ?_⟩
    · simp only [hok]
      exact exists_standsFor_all_iff
    · intro hnone
      simp only [hok] at hnone
      obtain ⟨before, item, after, entries, field, rfl, hbefore, hitem⟩ := exists_firstMissing hnone
      refine ⟨before, item, after, entries, field, rfl, hbefore, hitem, ?_⟩
      rw [hlist, entriesOfList_of_firstMissing hbefore hitem, Nat.zero_add]
    · intro text' root' items' h' hitems' hsame
      rw [hlist, hread h', entriesOfValue_of_holdsItems hitems', entriesOfList_congr hsame]
  · intro hnone
    rcases holdsItems_or_rootFault root with ⟨items, hitems⟩ | ⟨fault, hfault⟩
    · exact absurd hitems (hnone items)
    · exact ⟨fault, hfault, by rw [hread h, entriesOfValue_of_rootFault hfault]⟩

/-- A configuration whose first item is a tagged mapping and whose second one has no path. -/
private def lackingText : String :=
  "Ignore:\n- !x\n  Test: 1\n  PATH: '*'\n  code: [A]\n- test: b\n  note: c\n"

private def lackingItems : List Value :=
  [.tagged "x" (.mapping [(.string "Test", .number (.int 1)), (.string "PATH", .string "*"),
    (.string "code", .list [.string "A"])]),
  .mapping [(.string "test", .string "b"), (.string "note", .string "c")]]

private theorem typedValue_lackingText :
    Yaml.typedValue lackingText = .ok (.mapping [(.string "Ignore", .list lackingItems)]) := by
  have htree : (Yaml.tree? lackingText).toOption = some (some (.mapping none [(.scalar none "Ignore" true,
      .sequence none [
        .mapping (some (.custom "x")) [(.scalar none "Test" true, .scalar none "1" true),
          (.scalar none "PATH" true, .scalar none "*" false),
          (.scalar none "code" true, .sequence none [.scalar none "A" true])],
        .mapping none [(.scalar none "test" true, .scalar none "b" true),
          (.scalar none "note" true, .scalar none "c" true)]])])) := by
    decide +kernel
  exact Yaml.typedValue_eq_mapping_iff.mpr ⟨_, Yaml.eq_ok_of_toOption htree, rfl⟩

/-- The second item is reported for its path; that the first one has a code that is no text does not matter. -/
theorem entriesOfText_shapes_lacking :
    Yaml.typedValue lackingText = .ok (.mapping [(.string "Ignore", .list lackingItems)]) ∧
      HoldsItems (.mapping [(.string "Ignore", .list lackingItems)]) lackingItems ∧
      entriesOfText "conform.yml" lackingText = .error (.missingField "conform.yml" 1 "path") ∧
      ¬ ∀ item ∈ lackingItems, (∃ test, HoldsText item "test" test) ∧ ∃ file, HoldsText item "path" file := by
  have hitems : HoldsItems (.mapping [(.string "Ignore", .list lackingItems)]) lackingItems :=
    .keyList ⟨[], .string "Ignore", [], rfl, by decide, by simp⟩
  have herror : entriesOfText "conform.yml" lackingText = .error (.missingField "conform.yml" 1 "path") := by
    rw [entriesOfText, typedValue_lackingText]
    rfl
  obtain ⟨-, hsucceeds, -⟩ := (entriesOfText_shapes "conform.yml" typedValue_lackingText).1 _ hitems
  refine ⟨typedValue_lackingText, hitems, herror, fun hall => ?_⟩
  obtain ⟨entries, hentries⟩ := hsucceeds.mpr hall
  rw [herror] at hentries
  cases hentries

end RepoConventions.Ignore
