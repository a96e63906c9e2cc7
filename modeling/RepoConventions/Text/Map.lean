/-!
# Maps from texts

The entries stand in ascending order of their keys, each key once.
-/

namespace RepoConventions.Text

structure Map (α : Type) where
  entries : List (String × α)
  deriving DecidableEq, Repr

namespace Map

variable {α β : Type}

def empty : Map α := ⟨[]⟩

def isEmpty (m : Map α) : Bool := m.entries.isEmpty

def keys (m : Map α) : List String := m.entries.map (·.1)

def get? (m : Map α) (key : String) : Option α := (m.entries.find? (·.1 = key)).map (·.2)

private def insertInto (key : String) (value : α) : List (String × α) → List (String × α)
  | [] => [(key, value)]
  | (k, v) :: rest =>
    if key < k then (key, value) :: (k, v) :: rest
    else if key = k then (key, value) :: rest
    else (k, v) :: insertInto key value rest

/-- Sets the value of a key, new or not. -/
def insert (m : Map α) (key : String) (value : α) : Map α := ⟨insertInto key value m.entries⟩

theorem get?_insert (m : Map α) (key k : String) (value : α) :
    (m.insert key value).get? k = if k = key then some value else m.get? k := by
  simp only [insert, get?]
  induction m.entries with
  | nil => by_cases h : key = k <;> simp [insertInto, h, eq_comm]
  | cons e rest ih =>
    by_cases hlt : key < e.1 <;> by_cases heq : key = e.1 <;> by_cases h : key = k <;>
      grind [insertInto]

/-- One more key, if it is new. -/
theorem length_keys_insert {m : Map α} {key : String} (h : m.get? key = none) (value : α) :
    (m.insert key value).keys.length = m.keys.length + 1 := by
  obtain ⟨entries⟩ := m
  simp only [get?, insert, keys, List.length_map, Option.map_eq_none_iff] at h ⊢
  induction entries with
  | nil => rfl
  | cons e rest ih =>
    have hne : key ≠ e.1 := by
      intro heq
      simp [heq] at h
    have hrest : rest.find? (·.1 = key) = none := by simpa [Ne.symm hne] using h
    rw [insertInto]
    split
    · rfl
    · simp [ih hrest]

theorem isEmpty_eq (m : Map α) : m.isEmpty = decide (m.keys.length = 0) := by
  obtain ⟨entries⟩ := m
  cases entries with
  | nil => rfl
  | cons e rest => simp [isEmpty, keys]

private theorem mem_insertInto {key : String} {value : α} {entries : List (String × α)} {e : String × α}
    (h : e ∈ insertInto key value entries) : e = (key, value) ∨ e ∈ entries := by
  induction entries with
  | nil => exact .inl (List.mem_singleton.mp h)
  | cons f rest ih =>
    rw [insertInto] at h
    split at h
    · exact List.mem_cons.mp h
    · split at h
      · exact (List.mem_cons.mp h).imp_right (List.mem_cons_of_mem _)
      · rcases List.mem_cons.mp h with rfl | hmem
        · exact .inr List.mem_cons_self
        · exact (ih hmem).imp_right (List.mem_cons_of_mem _)

theorem mem_entries_insert {m : Map α} {key : String} {value : α} {e : String × α}
    (h : e ∈ (m.insert key value).entries) : e = (key, value) ∨ e ∈ m.entries := mem_insertInto h

/-- Every key stands before all greater ones, and once. -/
def IsSorted (m : Map α) : Prop := m.entries.Pairwise fun e f => e.1 < f.1

theorem isSorted_empty : IsSorted (empty : Map α) := List.Pairwise.nil

theorem IsSorted.insert {m : Map α} (h : m.IsSorted) (key : String) (value : α) : (m.insert key value).IsSorted := by
  obtain ⟨entries⟩ := m
  change (insertInto key value entries).Pairwise fun e f => e.1 < f.1
  induction entries with
  | nil => exact List.pairwise_singleton _ _
  | cons e rest ih =>
    obtain ⟨first, old⟩ := e
    obtain ⟨hfirst, hrest⟩ := List.pairwise_cons.mp h
    rw [insertInto]
    split
    · next hlt =>
      refine List.pairwise_cons.mpr ⟨fun f hf => ?_, h⟩
      rcases List.mem_cons.mp hf with rfl | hmem
      · exact hlt
      · exact String.lt_trans hlt (hfirst f hmem)
    · next hge =>
      split
      · next heq =>
        subst heq
        exact List.pairwise_cons.mpr ⟨hfirst, hrest⟩
      · next hne =>
        refine List.pairwise_cons.mpr ⟨fun f hf => ?_, ih hrest⟩
        rcases mem_insertInto hf with rfl | hmem
        · exact String.not_le.mp fun hle => hne (String.le_antisymm hle (String.not_lt.mp hge))
        · exact hfirst f hmem

def map (f : α → β) (m : Map α) : Map β := ⟨m.entries.map fun (k, v) => (k, f v)⟩

end Map

end RepoConventions.Text
