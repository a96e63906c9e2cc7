import Mathlib.Data.List.Forall2
import RepoConventions.Yaml.Reading

/-!
# The reading of a tree as written

`Tree.asWritten` says for a tree without aliases what reading it as written gives.
-/

namespace RepoConventions.Yaml

/-- A value that is read from the text of a scalar. -/
def Value.HasText : Value → Prop
  | bool _ | number _ | string _ => True
  | _ => False

namespace Resolution

theorem integerValue?_hasText {n : Int} {v : Value} (h : integerValue? n = some (.ok v)) : v.HasText := by
  unfold integerValue? at h
  split at h
  · cases h
    trivial
  · split at h <;> cases h

theorem integer_bind_hasText {s : String} {v : Value} (h : (integer? s.toList).bind integerValue? = some (.ok v)) :
    v.HasText := by
  obtain ⟨n, -, hn⟩ := Option.bind_eq_some_iff.mp h
  exact integerValue?_hasText hn

theorem plain_cases {s : String} {v : Value} (h : plain s = .ok v) : v = .null ∨ v.HasText := by
  unfold plain at h
  split at h
  · cases h
    exact .inl rfl
  · split at h
    · cases h
      exact .inr trivial
    · split at h
      · next r hr =>
        subst h
        exact .inr (integer_bind_hasText hr)
      · split at h <;> cases h <;> exact .inr trivial

theorem untagged_cases {isPlain : Bool} {s : String} {v : Value} (h : untagged isPlain s = .ok v) :
    v = .null ∨ v.HasText := by
  cases isPlain with
  | true => exact plain_cases h
  | false =>
    cases h
    exact .inr trivial

theorem scalar_cases {tag : Option Tag} {isPlain : Bool} {s : String} {v : Value} (h : scalar tag isPlain s = .ok v) :
    v = .null ∨ (∃ name u, v = .tagged name u) ∨ v.HasText := by
  cases tag with
  | none => exact (untagged_cases h).imp_right .inr
  | some tag =>
    cases tag with
    | custom name =>
      simp only [scalar, Except.map] at h
      split at h <;> cases h
      exact .inr (.inl ⟨name, _, rfl⟩)
    | null =>
      simp only [scalar] at h
      split at h <;> cases h
      exact .inl rfl
    | bool =>
      simp only [scalar] at h
      cases hb : bool? s <;> rw [hb] at h <;> cases h
      exact .inr (.inr trivial)
    | int =>
      simp only [scalar] at h
      cases hn : (integer? s.toList).bind integerValue? with
      | none =>
        rw [hn] at h
        cases h
      | some r =>
        rw [hn, Option.getD_some] at h
        subst h
        exact .inr (.inr (integer_bind_hasText hn))
    | float =>
      simp only [scalar] at h
      cases hx : float? s <;> rw [hx] at h <;> cases h
      exact .inr (.inr trivial)
    | other =>
      cases h
      exact .inr (.inr trivial)

end Resolution

theorem Value.insertEntry_of_new {entries : List (Value × Value)} {key : Value}
    (h : ∀ e ∈ entries, e.1.same key = false) (value : Value) :
    insertEntry entries key value = entries ++ [(key, value)] := by
  induction entries with
  | nil => rfl
  | cons e rest ih =>
    obtain ⟨k, v⟩ := e
    have hk : k.same key = false := h (k, v) List.mem_cons_self
    rw [insertEntry, hk, ih fun e he => h e (List.mem_cons_of_mem _ he)]
    rfl

theorem Value.length_insertEntry_le (entries : List (Value × Value)) (key value : Value) :
    (insertEntry entries key value).length ≤ entries.length + 1 := by
  induction entries with
  | nil => exact Nat.le_refl 1
  | cons e rest ih =>
    rw [insertEntry]
    split
    · exact Nat.le_succ _
    · exact Nat.succ_le_succ ih

/-- Entries grow only by a key that is new. -/
theorem Value.new_of_length_insertEntry {entries : List (Value × Value)} {key value : Value}
    (h : (insertEntry entries key value).length = entries.length + 1) : ∀ e ∈ entries, e.1.same key = false := by
  induction entries with
  | nil => exact fun e he => by cases he
  | cons e rest ih =>
    rw [insertEntry] at h
    split at h
    · exact absurd h (Nat.ne_of_lt (Nat.lt_succ_self _))
    · next hk =>
      intro f hf
      cases List.mem_cons.mp hf with
      | inl heq =>
        subst heq
        exact Bool.eq_false_iff.mpr hk
      | inr hmem => exact ih (Nat.succ.inj h) f hmem

namespace Tree

mutual
/-- The reading as written: what is neither null nor tagged is its text. -/
def asWritten : Tree → Except Error Value
  | .scalar tag text plain => do
    match ← Resolution.scalar tag plain text with
    | .null => return .null
    | .tagged name v => return .tagged name v
    | _ => return .string text
  | .sequence (some (.custom name)) items => typed (.sequence (some (.custom name)) items)
  | .mapping (some (.custom name)) entries => typed (.mapping (some (.custom name)) entries)
  | .sequence _ items => do return .list (← asWrittenItems items)
  | .mapping _ entries => do return .mapping (← asWrittenEntries [] entries)

def asWrittenItems : List Tree → Except Error (List Value)
  | [] => return []
  | t :: rest => do
    let v ← asWritten t
    return v :: (← asWrittenItems rest)

def asWrittenEntries (done : List (Value × Value)) : List (Tree × Tree) → Except Error (List (Value × Value))
  | [] => return done
  | (k, t) :: rest => do
    let key ← asWritten k
    let value ← asWritten t
    asWrittenEntries (Value.insertEntry done key value) rest
end

/-! What the readings of a list do with its first element -/

theorem typedItems_cons_iff {t : Tree} {rest : List Tree} {vs : List Value} :
    typedItems (t :: rest) = .ok vs ↔ ∃ v vs', typed t = .ok v ∧ typedItems rest = .ok vs' ∧ vs = v :: vs' := by
  rw [typedItems]
  exact bind_cons_eq_ok_iff

theorem asWrittenItems_cons_iff {t : Tree} {rest : List Tree} {ws : List Value} :
    asWrittenItems (t :: rest) = .ok ws ↔
      ∃ w ws', asWritten t = .ok w ∧ asWrittenItems rest = .ok ws' ∧ ws = w :: ws' := by
  rw [asWrittenItems]
  exact bind_cons_eq_ok_iff

theorem typedEntries_cons_iff {done : List (Value × Value)} {k t : Tree} {rest : List (Tree × Tree)}
    {es : List (Value × Value)} :
    typedEntries done ((k, t) :: rest) = .ok es ↔
      ∃ key value, typed k = .ok key ∧ (∀ e ∈ done, e.1.same key = false) ∧ typed t = .ok value ∧
        typedEntries (done ++ [(key, value)]) rest = .ok es := by
  simp only [typedEntries, bind_eq_ok_iff]
  constructor
  · intro h
    obtain ⟨key, hkey, h⟩ := h
    split at h
    · cases h
    · next hnew =>
      obtain ⟨value, hvalue, hrest⟩ := bind_eq_ok_iff.mp h
      exact ⟨key, value, hkey, by simpa using hnew, hvalue, hrest⟩
  · intro hparts
    obtain ⟨key, value, hkey, hnew, hvalue, hrest⟩ := hparts
    refine ⟨key, hkey, ?_⟩
    rw [if_neg (by simpa using hnew)]
    exact bind_eq_ok_iff.mpr ⟨value, hvalue, hrest⟩

theorem asWrittenEntries_cons_iff {done : List (Value × Value)} {k t : Tree} {rest : List (Tree × Tree)}
    {fs : List (Value × Value)} :
    asWrittenEntries done ((k, t) :: rest) = .ok fs ↔
      ∃ key value, asWritten k = .ok key ∧ asWritten t = .ok value ∧
        asWrittenEntries (Value.insertEntry done key value) rest = .ok fs := by
  simp only [asWrittenEntries, bind_eq_ok_iff]
  constructor
  · intro h
    obtain ⟨key, hkey, value, hvalue, hrest⟩ := h
    exact ⟨key, value, hkey, hvalue, hrest⟩
  · intro h
    obtain ⟨key, value, hkey, hvalue, hrest⟩ := h
    exact ⟨key, hkey, value, hvalue, hrest⟩

/-- The keys and values of a list of entries have these readings, in the same order. -/
def EntriesRead (read : Tree → Except Error Value) (ts : List (Tree × Tree)) (es : List (Value × Value)) : Prop :=
  List.Forall₂ (fun e f => read e.1 = .ok f.1 ∧ read e.2 = .ok f.2) ts es

/-- Entries are read after those already read, which stay. -/
theorem entriesRead_typed {ts : List (Tree × Tree)} {done es : List (Value × Value)}
    (h : typedEntries done ts = .ok es) : ∃ new, es = done ++ new ∧ EntriesRead typed ts new := by
  induction ts generalizing done with
  | nil =>
    rw [typedEntries, pure_eq_ok_iff] at h
    exact ⟨[], by rw [h, List.append_nil], .nil⟩
  | cons e rest ih =>
    obtain ⟨k, t⟩ := e
    obtain ⟨key, value, hkey, -, hvalue, hrest⟩ := typedEntries_cons_iff.mp h
    obtain ⟨new, rfl, hnew⟩ := ih hrest
    exact ⟨(key, value) :: new, by rw [List.append_assoc]; rfl, .cons ⟨hkey, hvalue⟩ hnew⟩

/-- Whether a collection has a tag of the application, which keeps it as it is. -/
def IsCustom (tag : Option Tag) : Prop := ∃ name, tag = some (.custom name)

theorem withTag_of_not_isCustom {tag : Option Tag} (h : ¬ IsCustom tag) (v : Value) : withTag tag v = v := by
  unfold withTag
  split
  · exact absurd ⟨_, rfl⟩ h
  · rfl

theorem typed_sequence_iff {tag : Option Tag} {ts : List Tree} {v : Value} :
    typed (.sequence tag ts) = .ok v ↔ ∃ vs, typedItems ts = .ok vs ∧ v = withTag tag (.list vs) := by
  simp only [typed, bind_eq_ok_iff, pure_eq_ok_iff]

theorem typed_mapping_iff {tag : Option Tag} {ts : List (Tree × Tree)} {v : Value} :
    typed (.mapping tag ts) = .ok v ↔ ∃ es, typedEntries [] ts = .ok es ∧ v = withTag tag (.mapping es) := by
  simp only [typed, bind_eq_ok_iff, pure_eq_ok_iff]

theorem asWritten_sequence_iff {tag : Option Tag} {ts : List Tree} {w : Value} (h : ¬ IsCustom tag) :
    asWritten (.sequence tag ts) = .ok w ↔ ∃ ws, asWrittenItems ts = .ok ws ∧ w = .list ws := by
  rw [asWritten]
  · simp only [bind_eq_ok_iff, pure_eq_ok_iff]
  · exact fun name htag => h ⟨name, htag⟩

theorem asWritten_mapping_iff {tag : Option Tag} {ts : List (Tree × Tree)} {w : Value} (h : ¬ IsCustom tag) :
    asWritten (.mapping tag ts) = .ok w ↔ ∃ fs, asWrittenEntries [] ts = .ok fs ∧ w = .mapping fs := by
  rw [asWritten]
  · simp only [bind_eq_ok_iff, pure_eq_ok_iff]
  · exact fun name htag => h ⟨name, htag⟩

theorem asWritten_of_tagged {t : Tree} {name : String} {u : Value} (h : typed t = .ok (.tagged name u)) :
    asWritten t = .ok (.tagged name u) := by
  cases t with
  | scalar tag text plain =>
    rw [typed] at h
    rw [asWritten, h]
    rfl
  | sequence tag ts =>
    by_cases htag : IsCustom tag
    · obtain ⟨name, rfl⟩ := htag
      exact h
    · obtain ⟨vs, -, hv⟩ := typed_sequence_iff.mp h
      rw [withTag_of_not_isCustom htag] at hv
      cases hv
  | mapping tag ts =>
    by_cases htag : IsCustom tag
    · obtain ⟨name, rfl⟩ := htag
      exact h
    · obtain ⟨es, -, hv⟩ := typed_mapping_iff.mp h
      rw [withTag_of_not_isCustom htag] at hv
      cases hv

theorem asWritten_scalar {tag : Option Tag} {text : String} {plain : Bool} {v : Value}
    (h : typed (.scalar tag text plain) = .ok v) (hv : v.HasText) :
    asWritten (.scalar tag text plain) = .ok (.string text) := by
  rw [typed] at h
  rw [asWritten, h]
  cases v <;> first | rfl | cases hv

theorem asWritten_null {tag : Option Tag} {text : String} {plain : Bool}
    (h : typed (.scalar tag text plain) = .ok .null) : asWritten (.scalar tag text plain) = .ok .null := by
  rw [typed] at h
  rw [asWritten, h]
  rfl

mutual
theorem exists_asWritten {t : Tree} {v : Value} (h : typed t = .ok v) : ∃ w, asWritten t = .ok w := by
  cases t with
  | scalar tag text plain =>
    rcases Resolution.scalar_cases h with rfl | ⟨name, u, rfl⟩ | hv
    · exact ⟨_, asWritten_null h⟩
    · exact ⟨_, asWritten_of_tagged h⟩
    · exact ⟨_, asWritten_scalar h hv⟩
  | sequence tag ts =>
    by_cases htag : IsCustom tag
    · obtain ⟨name, rfl⟩ := htag
      exact ⟨v, h⟩
    · obtain ⟨vs, hvs, -⟩ := typed_sequence_iff.mp h
      obtain ⟨ws, hws⟩ := exists_asWrittenItems hvs
      exact ⟨_, (asWritten_sequence_iff htag).mpr ⟨ws, hws, rfl⟩⟩
  | mapping tag ts =>
    by_cases htag : IsCustom tag
    · obtain ⟨name, rfl⟩ := htag
      exact ⟨v, h⟩
    · obtain ⟨es, hes, -⟩ := typed_mapping_iff.mp h
      obtain ⟨fs, hfs⟩ := exists_asWrittenEntries [] hes
      exact ⟨_, (asWritten_mapping_iff htag).mpr ⟨fs, hfs, rfl⟩⟩

theorem exists_asWrittenItems {ts : List Tree} {vs : List Value} (h : typedItems ts = .ok vs) :
    ∃ ws, asWrittenItems ts = .ok ws := by
  cases ts with
  | nil => exact ⟨[], rfl⟩
  | cons t rest =>
    obtain ⟨v, vs', hv, hvs', -⟩ := typedItems_cons_iff.mp h
    obtain ⟨w, hw⟩ := exists_asWritten hv
    obtain ⟨ws, hws⟩ := exists_asWrittenItems hvs'
    exact ⟨_, asWrittenItems_cons_iff.mpr ⟨w, ws, hw, hws, rfl⟩⟩

theorem exists_asWrittenEntries {ts : List (Tree × Tree)} {done es : List (Value × Value)}
    (written : List (Value × Value)) (h : typedEntries done ts = .ok es) : ∃ fs, asWrittenEntries written ts = .ok fs := by
  cases ts with
  | nil => exact ⟨written, rfl⟩
  | cons e rest =>
    obtain ⟨k, t⟩ := e
    obtain ⟨key, value, hkey, -, hvalue, hrest⟩ := typedEntries_cons_iff.mp h
    obtain ⟨key', hkey'⟩ := exists_asWritten hkey
    obtain ⟨value', hvalue'⟩ := exists_asWritten hvalue
    obtain ⟨fs, hfs⟩ := exists_asWrittenEntries (Value.insertEntry written key' value') hrest
    exact ⟨fs, asWrittenEntries_cons_iff.mpr ⟨key', value', hkey', hvalue', hfs⟩⟩
end

end Tree

end RepoConventions.Yaml
