import Mathlib.Data.List.Forall2
import Mathlib.Data.List.Induction
import Mathlib.Data.List.Pairwise
import RepoConventions.Proofs.Yaml.AsWritten

/-!
# Looking up the entries of a mapping

Both readings put the entries of a mapping one after another into a list. What is found there under a key is the
reading of the last entry with that key.
-/

namespace RepoConventions.Yaml

namespace Value

/-- A key that no other value is equal to. -/
def IsExact (key : Value) : Prop := (∀ v, same key v = true ↔ v = key) ∧ ∀ v, same v key = true ↔ v = key

theorem isExact_string (s : String) : IsExact (.string s) := by
  constructor <;> intro v <;> cases v <;> simp [same, eq_comm]

theorem isExact_bool (b : Bool) : IsExact (.bool b) := by
  constructor <;> intro v <;> cases v <;> simp [same, eq_comm]

def lookup? (entries : List (Value × Value)) (key : Value) : Option Value :=
  (entries.find? fun e => same key e.1).map (·.2)

theorem lookup?_cons (e : Value × Value) (rest : List (Value × Value)) (key : Value) :
    lookup? (e :: rest) key = if same key e.1 then some e.2 else lookup? rest key := by
  rw [lookup?, List.find?_cons]
  cases same key e.1 <;> rfl

theorem mem_of_lookup? {entries : List (Value × Value)} {key v : Value} (hkey : IsExact key)
    (h : lookup? entries key = some v) : (key, v) ∈ entries := by
  obtain ⟨e, he, rfl⟩ := Option.map_eq_some_iff.mp h
  have hsame := List.find?_some he
  rw [← (hkey.1 e.1).mp hsame]
  exact List.mem_of_find?_eq_some he

theorem lookup?_insertEntry {key : Value} (hkey : IsExact key) (entries : List (Value × Value)) (k v : Value) :
    lookup? (insertEntry entries k v) key = if same key k then some v else lookup? entries key := by
  induction entries with
  | nil => rw [insertEntry, lookup?_cons]
  | cons e rest ih =>
    obtain ⟨k', v'⟩ := e
    rw [insertEntry]
    by_cases hsame : same k' k = true
    · rw [if_pos hsame, lookup?_cons, lookup?_cons]
      -- the entry that takes the value has the key looked for exactly if the new one has it
      have hiff : same key k' = true ↔ same key k = true := by
        constructor
        · intro h
          rw [(hkey.1 k').mp h] at hsame
          exact hsame
        · intro h
          rw [(hkey.1 k).mp h] at hsame
          exact (hkey.1 k').mpr ((hkey.2 k').mp hsame)
      by_cases h : same key k = true
      · rw [if_pos (hiff.mpr h), if_pos h]
      · rw [if_neg (fun h' => h (hiff.mp h')), if_neg h, if_neg (fun h' => h (hiff.mp h'))]
    · rw [if_neg hsame, lookup?_cons, lookup?_cons, ih]
      by_cases hk' : same key k' = true
      · rw [if_pos hk', if_pos hk']
        by_cases hk : same key k = true
        · rw [(hkey.1 k').mp hk', (hkey.1 k).mp hk] at hsame
          exact absurd ((hkey.1 key).mpr rfl) hsame
        · rw [if_neg hk]
      · rw [if_neg hk', if_neg hk']

/-- Puts entries one after another to those already there. -/
def put (entries new : List (Value × Value)) : List (Value × Value) :=
  new.foldl (fun es e => insertEntry es e.1 e.2) entries

theorem put_cons (entries : List (Value × Value)) (e : Value × Value) (rest : List (Value × Value)) :
    put entries (e :: rest) = put (insertEntry entries e.1 e.2) rest := rfl

theorem lookup?_put {key : Value} (hkey : IsExact key) (new : List (Value × Value)) :
    lookup? (put [] new) key = lookup? new.reverse key := by
  induction new using List.reverseRecOn with
  | nil => rfl
  | append_singleton new e ih =>
    rw [put, List.foldl_append, List.foldl_cons, List.foldl_nil, lookup?_insertEntry hkey, List.reverse_append,
      List.reverse_singleton, List.singleton_append, lookup?_cons, ← ih, put]

theorem mem_insertEntry {entries : List (Value × Value)} {k v : Value} {e : Value × Value}
    (h : e ∈ insertEntry entries k v) : e ∈ entries ∨ e.2 = v ∧ (e.1 = k ∨ same e.1 k = true) := by
  induction entries with
  | nil =>
    obtain rfl := List.mem_singleton.mp h
    exact .inr ⟨rfl, .inl rfl⟩
  | cons f rest ih =>
    rw [insertEntry] at h
    split at h
    · next hsame =>
      cases List.mem_cons.mp h with
      | inl heq =>
        subst heq
        exact .inr ⟨rfl, .inr hsame⟩
      | inr hmem => exact .inl (List.mem_cons_of_mem _ hmem)
    · cases List.mem_cons.mp h with
      | inl heq =>
        subst heq
        exact .inl List.mem_cons_self
      | inr hmem => exact (ih hmem).imp_left (List.mem_cons_of_mem _)

theorem mem_put {entries new : List (Value × Value)} {e : Value × Value} (h : e ∈ put entries new) :
    e ∈ entries ∨ ∃ f ∈ new, e.2 = f.2 ∧ (e.1 = f.1 ∨ same e.1 f.1 = true) := by
  induction new generalizing entries with
  | nil => exact .inl h
  | cons f rest ih =>
    rcases ih h with hmem | ⟨g, hg, heq⟩
    · rcases mem_insertEntry hmem with hmem | heq
      · exact .inl hmem
      · exact .inr ⟨f, List.mem_cons_self, heq⟩
    · exact .inr ⟨g, List.mem_cons_of_mem _ hg, heq⟩

theorem put_of_new {entries new : List (Value × Value)} (hnew : ∀ e ∈ entries, ∀ f ∈ new, e.1.same f.1 = false)
    (hapart : new.Pairwise fun e f => e.1.same f.1 = false) : put entries new = entries ++ new := by
  induction new generalizing entries with
  | nil => exact (List.append_nil entries).symm
  | cons f rest ih =>
    obtain ⟨hfirst, hrest⟩ := List.pairwise_cons.mp hapart
    rw [put_cons, insertEntry_of_new (fun e he => hnew e he f List.mem_cons_self), ih _ hrest, List.append_assoc]
    · rfl
    · intro e he g hg
      cases List.mem_append.mp he with
      | inl hmem => exact hnew e hmem g (List.mem_cons_of_mem _ hg)
      | inr hmem =>
        obtain rfl := List.mem_singleton.mp hmem
        exact hfirst g hg

theorem put_nil {es : List (Value × Value)} (hapart : es.Pairwise fun e f => e.1.same f.1 = false) : put [] es = es :=
  put_of_new (fun _ he => absurd he List.not_mem_nil) hapart

theorem length_put_le (entries new : List (Value × Value)) : (put entries new).length ≤ entries.length + new.length := by
  induction new generalizing entries with
  | nil => exact Nat.le_refl _
  | cons e rest ih =>
    have hrest := ih (insertEntry entries e.1 e.2)
    have hfirst := length_insertEntry_le entries e.1 e.2
    rw [put_cons, List.length_cons]
    omega

theorem new_of_length_put {entries new : List (Value × Value)}
    (h : (put entries new).length = entries.length + new.length) :
    (∀ e ∈ entries, ∀ f ∈ new, e.1.same f.1 = false) ∧ new.Pairwise fun e f => e.1.same f.1 = false := by
  induction new generalizing entries with
  | nil => exact ⟨fun e _ f hf => absurd hf List.not_mem_nil, .nil⟩
  | cons f rest ih =>
    rw [put_cons, List.length_cons] at h
    have hrest := length_put_le (insertEntry entries f.1 f.2) rest
    have hfirst := length_insertEntry_le entries f.1 f.2
    -- both bounds are reached, so this entry was put at the end
    have hadded : (insertEntry entries f.1 f.2).length = entries.length + 1 := by omega
    have hnew := new_of_length_insertEntry hadded
    rw [insertEntry_of_new hnew] at h
    obtain ⟨hothers, hapart⟩ := ih (by rw [h, List.length_append, List.length_singleton]; omega)
    constructor
    · intro e he g hg
      cases List.mem_cons.mp hg with
      | inl heq =>
        subst heq
        exact hnew e he
      | inr hmem => exact hothers e (List.mem_append_left _ he) g hmem
    · exact .cons (hothers f (List.mem_append_right _ List.mem_cons_self)) hapart

theorem keys_insertEntry (entries : List (Value × Value)) (key value : Value) :
    (insertEntry entries key value).map (·.1) =
      if entries.any fun e => e.1.same key then entries.map (·.1) else entries.map (·.1) ++ [key] := by
  induction entries with
  | nil => rfl
  | cons e rest ih =>
    cases hsame : e.1.same key with
    | true => simp [insertEntry, hsame]
    | false =>
      simp only [insertEntry, hsame, Bool.false_eq_true, if_false, List.map_cons, List.any_cons, Bool.false_or, ih]
      split <;> rfl

theorem keysApart_insertEntry {entries : List (Value × Value)}
    (h : (entries.map (·.1)).Pairwise fun a b => a.same b = false) (key value : Value) :
    ((insertEntry entries key value).map (·.1)).Pairwise fun a b => a.same b = false := by
  rw [keys_insertEntry]
  split
  · exact h
  · next hnew =>
    refine List.pairwise_append.mpr ⟨h, List.pairwise_singleton _ _, ?_⟩
    intro a ha b hb
    obtain ⟨e, he, rfl⟩ := List.mem_map.mp ha
    rw [List.mem_singleton.mp hb]
    simp only [List.any_eq_true, not_exists, not_and, Bool.not_eq_true] at hnew
    exact hnew e he

/-- Entries that are put one after another have different keys. -/
theorem keysApart_put {entries : List (Value × Value)} (h : (entries.map (·.1)).Pairwise fun a b => a.same b = false)
    (new : List (Value × Value)) : ((put entries new).map (·.1)).Pairwise fun a b => a.same b = false := by
  induction new generalizing entries with
  | nil => exact h
  | cons e rest ih => exact ih (keysApart_insertEntry h e.1 e.2)

end Value

namespace Tree

/-- How what lies below a node with that tag is read in the reading as written. -/
def readBelow (tag : Option Tag) : Tree → Except Error Value :=
  match tag with
  | some (.custom _) => typed
  | _ => asWritten

theorem readBelow_of_not_isCustom {tag : Option Tag} (h : ¬ IsCustom tag) : readBelow tag = asWritten := by
  unfold readBelow
  split
  · exact absurd ⟨_, rfl⟩ h
  · rfl

theorem put_typedEntries {ts : List (Tree × Tree)} {done es : List (Value × Value)}
    (h : typedEntries done ts = .ok es) :
    ∃ rs, EntriesRead typed ts rs ∧ rs.Pairwise (fun e f => e.1.same f.1 = false) ∧
      (∀ e ∈ done, ∀ f ∈ rs, e.1.same f.1 = false) ∧ es = done ++ rs := by
  induction ts generalizing done with
  | nil =>
    rw [typedEntries, pure_eq_ok_iff] at h
    exact ⟨[], .nil, .nil, fun e _ f hf => absurd hf List.not_mem_nil, by rw [h, List.append_nil]⟩
  | cons e rest ih =>
    obtain ⟨k, t⟩ := e
    obtain ⟨key, value, hkey, hnew, hvalue, hrest⟩ := typedEntries_cons_iff.mp h
    obtain ⟨rs, hread, hapart, hothers, rfl⟩ := ih hrest
    refine ⟨(key, value) :: rs, .cons ⟨hkey, hvalue⟩ hread, .cons ?_ hapart, ?_, by rw [List.append_assoc]; rfl⟩
    · exact fun f hf => hothers _ (List.mem_append_right _ List.mem_cons_self) f hf
    · intro e he f hf
      cases List.mem_cons.mp hf with
      | inl heq =>
        subst heq
        exact hnew e he
      | inr hmem => exact hothers e (List.mem_append_left _ he) f hmem

theorem put_asWrittenEntries {ts : List (Tree × Tree)} {done fs : List (Value × Value)}
    (h : asWrittenEntries done ts = .ok fs) : ∃ rs, EntriesRead asWritten ts rs ∧ fs = Value.put done rs := by
  induction ts generalizing done with
  | nil =>
    rw [asWrittenEntries, pure_eq_ok_iff] at h
    exact ⟨[], .nil, h⟩
  | cons e rest ih =>
    obtain ⟨k, t⟩ := e
    obtain ⟨key, value, hkey, hvalue, hrest⟩ := asWrittenEntries_cons_iff.mp h
    obtain ⟨rs, hread, rfl⟩ := ih hrest
    exact ⟨(key, value) :: rs, .cons ⟨hkey, hvalue⟩ hread, rfl⟩

/-- No key is read equal to an earlier one. -/
def KeysReadApart (read : Tree → Except Error Value) (ts : List (Tree × Tree)) : Prop :=
  ts.Pairwise fun e f => ∀ a b, read e.1 = .ok a → read f.1 = .ok b → a.same b = false

theorem keysReadApart_iff {read : Tree → Except Error Value} {ts : List (Tree × Tree)} {rs : List (Value × Value)}
    (h : EntriesRead read ts rs) : KeysReadApart read ts ↔ rs.Pairwise fun e f => e.1.same f.1 = false := by
  have hfirst {k : Tree} {key : Value} (hkey : read k = .ok key) {ts : List (Tree × Tree)} {rs : List (Value × Value)}
      (h : EntriesRead read ts rs) :
      (∀ f ∈ ts, ∀ a b, read k = .ok a → read f.1 = .ok b → a.same b = false) ↔ ∀ f ∈ rs, key.same f.1 = false := by
    induction h with
    | nil => simp
    | cons hentry _ ih =>
      rw [List.forall_mem_cons, List.forall_mem_cons, ih]
      simp [hkey, hentry.1]
  induction h with
  | nil => exact iff_of_true .nil .nil
  | cons hentry hrest ih =>
    rw [KeysReadApart, List.pairwise_cons, List.pairwise_cons, hfirst hentry.1 hrest]
    exact and_congr_right fun _ => ih

theorem typed_mapping_put {tag : Option Tag} {ts : List (Tree × Tree)} {v : Value}
    (h : typed (.mapping tag ts) = .ok v) :
    ∃ rs, EntriesRead typed ts rs ∧ v = withTag tag (.mapping (Value.put [] rs)) := by
  obtain ⟨es, hes, rfl⟩ := typed_mapping_iff.mp h
  obtain ⟨rs, hread, hapart, -, hrs⟩ := put_typedEntries hes
  refine ⟨rs, hread, ?_⟩
  rw [Value.put_nil hapart, hrs, List.nil_append]

theorem asWritten_mapping_put {tag : Option Tag} {ts : List (Tree × Tree)} {w : Value}
    (h : asWritten (.mapping tag ts) = .ok w) :
    ∃ rs, EntriesRead (readBelow tag) ts rs ∧ w = withTag tag (.mapping (Value.put [] rs)) := by
  by_cases htag : IsCustom tag
  · obtain ⟨name, rfl⟩ := htag
    exact typed_mapping_put h
  · obtain ⟨fs, hfs, rfl⟩ := (asWritten_mapping_iff htag).mp h
    obtain ⟨rs, hread, rfl⟩ := put_asWrittenEntries hfs
    refine ⟨rs, ?_, (withTag_of_not_isCustom htag _).symm⟩
    rw [readBelow_of_not_isCustom htag]
    exact hread

theorem readBelow_mapping_cases {tag tag' : Option Tag} {ts : List (Tree × Tree)} {v : Value}
    (h : readBelow tag (.mapping tag' ts) = .ok v) :
    (∃ name u, v = .tagged name u) ∨ ∃ rs, EntriesRead (readBelow tag) ts rs ∧ v = .mapping (Value.put [] rs) := by
  by_cases htag' : IsCustom tag'
  · obtain ⟨name, rfl⟩ := htag'
    have htyped : typed (.mapping (some (.custom name)) ts) = .ok v := by
      by_cases htag : IsCustom tag
      · obtain ⟨_, rfl⟩ := htag
        exact h
      · rw [readBelow_of_not_isCustom htag] at h
        exact h
    obtain ⟨rs, -, rfl⟩ := typed_mapping_put htyped
    exact .inl ⟨name, _, rfl⟩
  · by_cases htag : IsCustom tag
    · obtain ⟨_, rfl⟩ := htag
      obtain ⟨rs, hread, rfl⟩ := typed_mapping_put h
      exact .inr ⟨rs, hread, withTag_of_not_isCustom htag' _⟩
    · rw [readBelow_of_not_isCustom htag] at h ⊢
      obtain ⟨rs, hread, rfl⟩ := asWritten_mapping_put h
      rw [readBelow_of_not_isCustom htag'] at hread
      exact .inr ⟨rs, hread, withTag_of_not_isCustom htag' _⟩

def readsAs (read : Tree → Except Error Value) (key : Value) (t : Tree) : Bool :=
  match read t with
  | .ok v => key.same v
  | .error _ => false

def lookup? (read : Tree → Except Error Value) (ts : List (Tree × Tree)) (key : Value) : Option Tree :=
  (ts.reverse.find? fun e => readsAs read key e.1).map (·.2)

def readsTo (read : Tree → Except Error Value) (p : Value → Bool) (t : Tree) : Bool :=
  match read t with
  | .ok v => p v
  | .error _ => false

/-- The first entry with a key of some kind is found at the same place among the nodes and among the values. -/
theorem find?_readsTo {read : Tree → Except Error Value} {ts : List (Tree × Tree)} {rs : List (Value × Value)}
    (hread : EntriesRead read ts rs) (p : Value → Bool) :
    Option.Rel (fun t v => read t = .ok v) ((ts.find? fun e => readsTo read p e.1).map (·.2))
      ((rs.find? fun e => p e.1).map (·.2)) := by
  induction hread with
  | nil => exact .none
  | @cons e f _ _ hentry _ ih =>
    rw [List.find?_cons, List.find?_cons, readsTo, hentry.1]
    cases hkey : p f.1 with
    | true =>
      simp only [hkey, Option.map_some]
      exact .some hentry.2
    | false =>
      simp only [hkey]
      exact ih

/-- Node and value stand under a key together. -/
theorem lookup?_read {read : Tree → Except Error Value} {ts : List (Tree × Tree)} {rs : List (Value × Value)}
    (hread : EntriesRead read ts rs) {key : Value} (hkey : key.IsExact) :
    Option.Rel (fun t v => read t = .ok v) (lookup? read ts key) (Value.lookup? (Value.put [] rs) key) := by
  rw [Value.lookup?_put hkey, lookup?]
  exact find?_readsTo (List.forall₂_reverse_iff.mpr hread) key.same

theorem exists_mem_of_lookup? {read : Tree → Except Error Value} {ts : List (Tree × Tree)} {key : Value}
    (hkey : key.IsExact) {t : Tree} (h : lookup? read ts key = some t) : ∃ k, (k, t) ∈ ts ∧ read k = .ok key := by
  obtain ⟨e, he, rfl⟩ := Option.map_eq_some_iff.mp h
  refine ⟨e.1, List.mem_reverse.mp (List.mem_of_find?_eq_some he), ?_⟩
  have hreads := List.find?_some he
  rw [readsAs] at hreads
  split at hreads
  · next v hv => rw [hv, (hkey.1 v).mp hreads]
  · cases hreads

theorem entry_unique {read : Tree → Except Error Value} {ts : List (Tree × Tree)} {key : Value}
    (hapart : KeysReadApart read ts) (hkey : key.IsExact) {e f : Tree × Tree} (he : e ∈ ts) (hf : f ∈ ts)
    (hekey : read e.1 = .ok key) (hfkey : read f.1 = .ok key) : e = f := by
  have hpairwise : ts.Pairwise fun e f => ¬ (read e.1 = .ok key ∧ read f.1 = .ok key) := by
    refine List.Pairwise.imp (fun {e f} h hboth => ?_) hapart
    have hsame : key.same key = true := (hkey.1 key).mpr rfl
    rw [h key key hboth.1 hboth.2] at hsame
    cases hsame
  have hsymm : Std.Symm fun e f : Tree × Tree => ¬ (read e.1 = .ok key ∧ read f.1 = .ok key) :=
    ⟨fun _ _ h hboth => h hboth.symm⟩
  by_contra hne
  exact hpairwise.forall he hf hne ⟨hekey, hfkey⟩

theorem lookup?_eq_some_iff {read : Tree → Except Error Value} {ts : List (Tree × Tree)} {key : Value}
    (hapart : KeysReadApart read ts) (hkey : key.IsExact) {t : Tree} :
    lookup? read ts key = some t ↔ ∃ k, (k, t) ∈ ts ∧ read k = .ok key := by
  constructor
  · exact exists_mem_of_lookup? hkey
  · rintro ⟨k, hk, hread⟩
    cases hfound : lookup? read ts key with
    | none =>
      have hnone := List.find?_eq_none.mp (Option.map_eq_none_iff.mp hfound) (k, t) (List.mem_reverse.mpr hk)
      rw [readsAs, hread] at hnone
      exact absurd ((hkey.1 key).mpr rfl) hnone
    | some t' =>
      obtain ⟨k', hk', hread'⟩ := exists_mem_of_lookup? hkey hfound
      cases entry_unique hapart hkey hk hk' hread hread'
      rfl

theorem lookup?_eq_none_iff {read : Tree → Except Error Value} {ts : List (Tree × Tree)} {key : Value}
    (hapart : KeysReadApart read ts) (hkey : key.IsExact) :
    lookup? read ts key = none ↔ ∀ e ∈ ts, read e.1 ≠ .ok key := by
  rw [Option.eq_none_iff_forall_ne_some]
  constructor
  · exact fun h e he hread => h e.2 ((lookup?_eq_some_iff hapart hkey).mpr ⟨e.1, he, hread⟩)
  · intro h t ht
    obtain ⟨k, hk, hread⟩ := (lookup?_eq_some_iff hapart hkey).mp ht
    exact h (k, t) hk hread

end Tree

end RepoConventions.Yaml
