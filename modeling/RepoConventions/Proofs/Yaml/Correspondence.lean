import RepoConventions.Proofs.Yaml.Guided
import RepoConventions.Proofs.Yaml.Results

/-!
# What stays when a text is read as written

Where no mapping has two keys that are written alike, the reading as written goes node by node with the typed one.
-/

namespace RepoConventions.Yaml

namespace Tree

/-! Keys that are written alike -/

/-- Two keys have the same source text when their readings as written are equal. -/
def SameText (k l : Tree) : Prop := ∃ a b, asWritten k = .ok a ∧ asWritten l = .ok b ∧ a.same b = true

mutual
/-- No mapping has two keys with the same source text; what has a tag of the application stays as it is and may. -/
def KeysApart : Tree → Prop
  | .scalar .. => True
  | .sequence tag items => IsCustom tag ∨ ItemsApart items
  | .mapping tag entries =>
    IsCustom tag ∨ (entries.Pairwise fun e f => ¬ SameText e.1 f.1) ∧ EntriesApart entries

def ItemsApart : List Tree → Prop
  | [] => True
  | t :: rest => KeysApart t ∧ ItemsApart rest

def EntriesApart : List (Tree × Tree) → Prop
  | [] => True
  | (k, t) :: rest => KeysApart k ∧ KeysApart t ∧ EntriesApart rest
end

theorem sameText_scalar_iff {tag tag' : Option Tag} {text text' : String} {plain plain' : Bool} {a b : Value}
    (ha : typed (.scalar tag text plain) = .ok a) (hb : typed (.scalar tag' text' plain') = .ok b)
    (hatext : a.HasText) (hbtext : b.HasText) :
    SameText (.scalar tag text plain) (.scalar tag' text' plain') ↔ text = text' := by
  simp only [SameText, asWritten_scalar ha hatext, asWritten_scalar hb hbtext]
  constructor
  · intro h
    obtain ⟨a, b, ha, hb, hsame⟩ := h
    cases ha
    cases hb
    simpa [Value.same] using hsame
  · intro heq
    subst heq
    exact ⟨_, _, rfl, rfl, by simp [Value.same]⟩

mutual
/-- A reading as written goes node by node with the typed reading of a tree. -/
inductive Corresponds : Tree → Value → Value → Prop
  | null {tag : Option Tag} {text : String} {plain : Bool} : Corresponds (.scalar tag text plain) .null .null
  | text {tag : Option Tag} {text : String} {plain : Bool} {v : Value} (htext : v.HasText) :
    Corresponds (.scalar tag text plain) v (.string text)
  | tagged {t : Tree} {name : String} {u : Value} : Corresponds t (.tagged name u) (.tagged name u)
  | list {tag : Option Tag} {ts : List Tree} {vs ws : List Value} (hitems : ItemsCorrespond ts vs ws) :
    Corresponds (.sequence tag ts) (.list vs) (.list ws)
  | mapping {tag : Option Tag} {ts : List (Tree × Tree)} {es fs : List (Value × Value)}
    (hentries : EntriesCorrespond ts es fs) : Corresponds (.mapping tag ts) (.mapping es) (.mapping fs)

inductive ItemsCorrespond : List Tree → List Value → List Value → Prop
  | nil : ItemsCorrespond [] [] []
  | cons {t : Tree} {ts : List Tree} {v w : Value} {vs ws : List Value} (hitem : Corresponds t v w)
    (hrest : ItemsCorrespond ts vs ws) : ItemsCorrespond (t :: ts) (v :: vs) (w :: ws)

inductive EntriesCorrespond : List (Tree × Tree) → List (Value × Value) → List (Value × Value) → Prop
  | nil : EntriesCorrespond [] [] []
  | cons {k t : Tree} {ts : List (Tree × Tree)} {a b v w : Value} {es fs : List (Value × Value)}
    (hkey : Corresponds k a b) (hvalue : Corresponds t v w) (hrest : EntriesCorrespond ts es fs) :
    EntriesCorrespond ((k, t) :: ts) ((a, v) :: es) ((b, w) :: fs)
end

/-! Entries that are read one by one -/

/-- The keys of a list of entries are apart from each other and from the keys that are already written. -/
def Apart (written : List (Value × Value)) (ts : List (Tree × Tree)) : Prop :=
  (∀ e ∈ written, ∀ f ∈ ts, ∀ key, asWritten f.1 = .ok key → e.1.same key = false) ∧
    ts.Pairwise fun e f => ¬ SameText e.1 f.1

theorem apart_nil_iff {ts : List (Tree × Tree)} : Apart [] ts ↔ ts.Pairwise fun e f => ¬ SameText e.1 f.1 := by
  constructor
  · exact fun h => h.2
  · exact fun h => ⟨fun e he => absurd he List.not_mem_nil, h⟩

theorem apart_cons_iff {written : List (Value × Value)} {k t : Tree} {key : Value} {rest : List (Tree × Tree)}
    (hkey : asWritten k = .ok key) (value : Value) :
    Apart written ((k, t) :: rest) ↔
      (∀ e ∈ written, e.1.same key = false) ∧ Apart (written ++ [(key, value)]) rest := by
  constructor
  · intro h
    obtain ⟨hnew, hkeys⟩ := h
    obtain ⟨hfirst, hothers⟩ := List.pairwise_cons.mp hkeys
    refine ⟨fun e he => hnew e he (k, t) List.mem_cons_self key hkey, ?_, hothers⟩
    intro e he f hf other hother
    cases List.mem_append.mp he with
    | inl hmem => exact hnew e hmem f (List.mem_cons_of_mem _ hf) other hother
    | inr hmem =>
      obtain rfl := List.mem_singleton.mp hmem
      rw [Bool.eq_false_iff]
      exact fun hsame => hfirst f hf ⟨key, other, hkey, hother, hsame⟩
  · intro h
    obtain ⟨hnew, hrest, hothers⟩ := h
    constructor
    · intro e he f hf other hother
      cases List.mem_cons.mp hf with
      | inl heq =>
        subst heq
        rw [hkey] at hother
        cases hother
        exact hnew e he
      | inr hmem => exact hrest e (List.mem_append_left _ he) f hmem other hother
    · refine List.pairwise_cons.mpr ⟨?_, hothers⟩
      intro f hf hsame
      obtain ⟨a, b, ha, hb, hab⟩ := hsame
      rw [hkey] at ha
      cases ha
      have hne := hrest (key, value) (List.mem_append_right _ List.mem_cons_self) f hf b hb
      exact Bool.false_ne_true (hne.symm.trans hab)

theorem entriesRead_of_apart {ts : List (Tree × Tree)} {written fs : List (Value × Value)}
    (h : asWrittenEntries written ts = .ok fs) (hapart : Apart written ts) :
    ∃ new, fs = written ++ new ∧ EntriesRead asWritten ts new := by
  induction ts generalizing written with
  | nil =>
    rw [asWrittenEntries, pure_eq_ok_iff] at h
    exact ⟨[], by rw [h, List.append_nil], .nil⟩
  | cons e rest ih =>
    obtain ⟨k, t⟩ := e
    obtain ⟨key, value, hkey, hvalue, hrest⟩ := asWrittenEntries_cons_iff.mp h
    obtain ⟨hnew, hothers⟩ := (apart_cons_iff hkey value).mp hapart
    rw [Value.insertEntry_of_new hnew] at hrest
    obtain ⟨new, rfl, hread⟩ := ih hrest hothers
    exact ⟨(key, value) :: new, by rw [List.append_assoc]; rfl, .cons ⟨hkey, hvalue⟩ hread⟩

theorem length_asWrittenEntries_le {ts : List (Tree × Tree)} {written fs : List (Value × Value)}
    (h : asWrittenEntries written ts = .ok fs) : fs.length ≤ written.length + ts.length := by
  induction ts generalizing written with
  | nil =>
    rw [asWrittenEntries, pure_eq_ok_iff] at h
    rw [h]
    exact Nat.le_add_right _ _
  | cons e rest ih =>
    obtain ⟨key, value, -, -, hrest⟩ := asWrittenEntries_cons_iff.mp h
    have hlater := ih hrest
    have hinsert := Value.length_insertEntry_le written key value
    rw [List.length_cons]
    omega

/-- As many entries as there are keys are written only where the keys are apart. -/
theorem apart_of_length {ts : List (Tree × Tree)} {written fs : List (Value × Value)}
    (h : asWrittenEntries written ts = .ok fs) (hlength : fs.length = written.length + ts.length) :
    Apart written ts := by
  induction ts generalizing written with
  | nil => exact ⟨fun e _ f hf => absurd hf List.not_mem_nil, .nil⟩
  | cons e rest ih =>
    obtain ⟨k, t⟩ := e
    obtain ⟨key, value, hkey, -, hrest⟩ := asWrittenEntries_cons_iff.mp h
    have hlater := length_asWrittenEntries_le hrest
    have hinsert := Value.length_insertEntry_le written key value
    rw [List.length_cons] at hlength
    -- both bounds are reached, so this entry was put at the end
    have hadded : (Value.insertEntry written key value).length = written.length + 1 := by omega
    have hnew := Value.new_of_length_insertEntry hadded
    rw [Value.insertEntry_of_new hnew] at hrest
    refine (apart_cons_iff hkey value).mpr ⟨hnew, ih hrest ?_⟩
    rw [List.length_append, List.length_singleton]
    omega

/-! The two readings side by side -/

theorem EntriesCorrespond.length_eq {ts : List (Tree × Tree)} {es fs : List (Value × Value)}
    (h : EntriesCorrespond ts es fs) : fs.length = ts.length := by
  cases h with
  | nil => rfl
  | cons _ _ hrest => rw [List.length_cons, List.length_cons, hrest.length_eq]

theorem corresponds_list_iff {tag : Option Tag} {ts : List Tree} {vs ws : List Value} :
    Corresponds (.sequence tag ts) (.list vs) (.list ws) ↔ ItemsCorrespond ts vs ws := by
  constructor
  · intro h
    cases h with
    | list hitems => exact hitems
  · exact .list

theorem corresponds_mapping_iff {tag : Option Tag} {ts : List (Tree × Tree)} {es fs : List (Value × Value)} :
    Corresponds (.mapping tag ts) (.mapping es) (.mapping fs) ↔ EntriesCorrespond ts es fs := by
  constructor
  · intro h
    cases h with
    | mapping hentries => exact hentries
  · exact .mapping

theorem itemsCorrespond_cons_iff {t : Tree} {ts : List Tree} {v w : Value} {vs ws : List Value} :
    ItemsCorrespond (t :: ts) (v :: vs) (w :: ws) ↔ Corresponds t v w ∧ ItemsCorrespond ts vs ws := by
  constructor
  · intro h
    cases h with
    | cons hitem hrest => exact ⟨hitem, hrest⟩
  · exact fun h => .cons h.1 h.2

theorem entriesCorrespond_cons_iff {k t : Tree} {ts : List (Tree × Tree)} {a b v w : Value}
    {es fs : List (Value × Value)} :
    EntriesCorrespond ((k, t) :: ts) ((a, v) :: es) ((b, w) :: fs) ↔
      Corresponds k a b ∧ Corresponds t v w ∧ EntriesCorrespond ts es fs := by
  constructor
  · intro h
    cases h with
    | cons hkey hvalue hrest => exact ⟨hkey, hvalue, hrest⟩
  · exact fun h => .cons h.1 h.2.1 h.2.2

mutual
/-- The reading as written goes along with the typed one exactly where the keys of each mapping are apart. -/
theorem corresponds_iff_keysApart {t : Tree} {v w : Value} (hv : typed t = .ok v) (hw : asWritten t = .ok w) :
    Corresponds t v w ↔ KeysApart t := by
  cases t with
  | scalar tag text plain =>
    rw [KeysApart, iff_true]
    rcases Resolution.scalar_cases hv with rfl | ⟨name, u, rfl⟩ | htext
    · rw [asWritten_null hv] at hw
      cases hw
      exact .null
    · rw [asWritten_of_tagged hv] at hw
      cases hw
      exact .tagged
    · rw [asWritten_scalar hv htext] at hw
      cases hw
      exact .text htext
  | sequence tag ts =>
    rw [KeysApart]
    by_cases htag : IsCustom tag
    · obtain ⟨vs, -, rfl⟩ := typed_sequence_iff.mp hv
      obtain ⟨name, rfl⟩ := htag
      rw [asWritten_of_tagged hv] at hw
      cases hw
      exact iff_of_true .tagged (.inl ⟨name, rfl⟩)
    · obtain ⟨vs, hvs, rfl⟩ := typed_sequence_iff.mp hv
      obtain ⟨ws, hws, rfl⟩ := (asWritten_sequence_iff htag).mp hw
      rw [withTag_of_not_isCustom htag, corresponds_list_iff, or_iff_right htag]
      exact itemsCorrespond_iff_apart hvs hws
  | mapping tag ts =>
    rw [KeysApart]
    by_cases htag : IsCustom tag
    · obtain ⟨es, -, rfl⟩ := typed_mapping_iff.mp hv
      obtain ⟨name, rfl⟩ := htag
      rw [asWritten_of_tagged hv] at hw
      cases hw
      exact iff_of_true .tagged (.inl ⟨name, rfl⟩)
    · obtain ⟨es, hes, rfl⟩ := typed_mapping_iff.mp hv
      obtain ⟨fs, hfs, rfl⟩ := (asWritten_mapping_iff htag).mp hw
      obtain ⟨es, rfl, htyped⟩ := entriesRead_typed hes
      rw [withTag_of_not_isCustom htag, corresponds_mapping_iff, or_iff_right htag]
      constructor
      · intro h
        have hapart : Apart [] ts := apart_of_length hfs (by rw [h.length_eq, List.length_nil, Nat.zero_add])
        obtain ⟨fs, rfl, hwritten⟩ := entriesRead_of_apart hfs hapart
        exact ⟨apart_nil_iff.mp hapart, (entriesCorrespond_iff_apart htyped hwritten).mp h⟩
      · intro h
        obtain ⟨fs, rfl, hwritten⟩ := entriesRead_of_apart hfs (apart_nil_iff.mpr h.1)
        exact (entriesCorrespond_iff_apart htyped hwritten).mpr h.2

theorem itemsCorrespond_iff_apart {ts : List Tree} {vs ws : List Value} (hvs : typedItems ts = .ok vs)
    (hws : asWrittenItems ts = .ok ws) : ItemsCorrespond ts vs ws ↔ ItemsApart ts := by
  cases ts with
  | nil =>
    rw [typedItems, pure_eq_ok_iff] at hvs
    rw [asWrittenItems, pure_eq_ok_iff] at hws
    subst hvs hws
    exact iff_of_true .nil trivial
  | cons t rest =>
    obtain ⟨v, vs', hv, hvs', rfl⟩ := typedItems_cons_iff.mp hvs
    obtain ⟨w, ws', hw, hws', rfl⟩ := asWrittenItems_cons_iff.mp hws
    rw [itemsCorrespond_cons_iff, ItemsApart]
    exact and_congr (corresponds_iff_keysApart hv hw) (itemsCorrespond_iff_apart hvs' hws')

theorem entriesCorrespond_iff_apart {ts : List (Tree × Tree)} {es fs : List (Value × Value)}
    (htyped : EntriesRead typed ts es) (hwritten : EntriesRead asWritten ts fs) :
    EntriesCorrespond ts es fs ↔ EntriesApart ts := by
  cases ts with
  | nil =>
    cases htyped
    cases hwritten
    exact iff_of_true .nil trivial
  | cons e rest =>
    obtain ⟨k, t⟩ := e
    cases htyped with
    | cons hv hes =>
      cases hwritten with
      | cons hw hfs =>
        rw [entriesCorrespond_cons_iff, EntriesApart]
        exact and_congr (corresponds_iff_keysApart hv.1 hw.1)
          (and_congr (corresponds_iff_keysApart hv.2 hw.2) (entriesCorrespond_iff_apart hes hfs))
end

end Tree

/-- A text whose typed value is an untagged mapping can be read as written. That reading goes node by node with the
typed one if and only if no mapping of the text has two keys with the same source text. -/
theorem valueAsWritten_corresponds {text : String} {es : List (Value × Value)}
    (h : typedValue text = .ok (.mapping es)) :
    ∃ t w, tree? text = .ok (some t) ∧ valueAsWritten text = .ok w ∧
      (t.Corresponds (.mapping es) w ↔ t.KeysApart) := by
  obtain ⟨t, ht, hv⟩ := typedValue_eq_mapping_iff.mp h
  obtain ⟨w, hw⟩ := Tree.exists_asWritten hv
  refine ⟨t, w, ht, ?_, Tree.corresponds_iff_keysApart hv hw⟩
  rw [valueAsWritten_of_tree ht hv, hw]

/-- A sign is kept in a key that is a number, and a null has no text. -/
theorem valueAsWritten_corresponds_signed :
    typedValue "+1: ~" = .ok (.mapping [(.number (.int 1), .null)]) ∧
      ∃ t w, tree? "+1: ~" = .ok (some t) ∧ valueAsWritten "+1: ~" = .ok w ∧ t.KeysApart ∧
        t.Corresponds (.mapping [(.number (.int 1), .null)]) w := by
  have ht : tree? "+1: ~" = .ok (some (.mapping none [(.scalar none "+1" true, .scalar none "~" true)])) :=
    eq_ok_of_toOption (by decide +kernel)
  have hv : (Tree.mapping none [(.scalar none "+1" true, .scalar none "~" true)]).typed =
      .ok (.mapping [(.number (.int 1), .null)]) := by rfl
  have h := typedValue_eq_mapping_iff.mpr ⟨_, ht, hv⟩
  obtain ⟨t, w, ht', hw, hcorresponds⟩ := valueAsWritten_corresponds h
  cases ht.symm.trans ht'
  have hapart : (Tree.mapping none [(.scalar none "+1" true, .scalar none "~" true)]).KeysApart := by
    simp [Tree.KeysApart, Tree.EntriesApart]
  exact ⟨h, _, w, ht, hw, hapart, hcorresponds.mpr hapart⟩

end RepoConventions.Yaml
