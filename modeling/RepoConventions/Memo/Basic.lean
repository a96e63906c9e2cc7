import RepoConventions.Text.Map

/-!
# Memos

A value for each key, computed once. A key has a cell from its first call on, and the cell is empty until an
initializer succeeds.
-/

namespace RepoConventions

structure Memo (α : Type) where
  cells : Text.Map (Option α)

namespace Memo

variable {α : Type}

def empty : Memo α := ⟨.empty⟩

def get? (m : Memo α) (key : String) : Option α := (m.cells.get? key).join

/-- Gives a key its cell. -/
def touch (m : Memo α) (key : String) : Memo α :=
  if (m.cells.get? key).isSome then m else ⟨m.cells.insert key none⟩

def resolve (m : Memo α) (key : String) (value : α) : Memo α := ⟨m.cells.insert key (some value)⟩

theorem get?_touch (m : Memo α) (key k : String) : (m.touch key).get? k = m.get? k := by
  unfold touch
  split
  · rfl
  · rename_i h
    by_cases hk : k = key
    · simp_all [get?, Text.Map.get?_insert]
    · simp [get?, Text.Map.get?_insert, hk]

theorem get?_resolve (m : Memo α) (key k : String) (value : α) :
    (m.resolve key value).get? k = if k = key then some value else m.get? k := by
  by_cases hk : k = key <;> simp [get?, resolve, Text.Map.get?_insert, hk]

def size (m : Memo α) : Nat := m.cells.keys.length

def isEmpty (m : Memo α) : Bool := m.cells.isEmpty

end Memo

end RepoConventions
