import RepoConventions.Proofs.Yaml.Results
import RepoConventions.Workflow.Written

/-!
# Keys of strategies

All of a document but its strategies can be written. A strategy can be written just if every key in it has a text, at any
depth and also below tags; its scalars, null among them, are written as they are.
-/

namespace RepoConventions

open Yaml (Value exists_bind_iff exists_map_iff exists_mapM_iff)

namespace Yaml.Value

mutual
/-- The keys of all mappings in a value: in its items, in its entries and below its tags. -/
def keys : Value → List Value
  | .null | .bool _ | .number _ | .string _ => []
  | .list items => keysOfItems items
  | .mapping entries => keysOfEntries entries
  | .tagged _ v => keys v

def keysOfItems : List Value → List Value
  | [] => []
  | v :: rest => keys v ++ keysOfItems rest

def keysOfEntries : List (Value × Value) → List Value
  | [] => []
  | (k, v) :: rest => k :: keys k ++ keys v ++ keysOfEntries rest
end

/-- Null, a list, a mapping or a tagged value. -/
inductive IsNoKey : Value → Prop
  | null : IsNoKey .null
  | list (items : List Value) : IsNoKey (.list items)
  | mapping (entries : List (Value × Value)) : IsNoKey (.mapping entries)
  | tagged (tag : String) (v : Value) : IsNoKey (.tagged tag v)

instance : DecidablePred IsNoKey
  | .null => .isTrue .null
  | .list items => .isTrue (.list items)
  | .mapping entries => .isTrue (.mapping entries)
  | .tagged tag v => .isTrue (.tagged tag v)
  | .bool _ | .number _ | .string _ => .isFalse nofun

inductive IsNotFinite : Value → Prop
  | nan : IsNotFinite (.number (.float .nan))
  | infinite (negative : Bool) : IsNotFinite (.number (.float (.infinite negative)))

instance : DecidablePred IsNotFinite
  | .number (.float .nan) => .isTrue .nan
  | .number (.float (.infinite negative)) => .isTrue (.infinite negative)
  | .number (.float (.finite ..)) | .number (.int _) | .null | .bool _ | .string _ | .list _ | .mapping _
  | .tagged .. => .isFalse nofun

end Yaml.Value

namespace Workflow

/-- A key has a text, unless it is null, a collection, a tagged value or a number that is not finite. -/
theorem exists_keyText_iff {k : Value} : (∃ name, keyText k = .ok name) ↔ ¬ k.IsNoKey ∧ ¬ k.IsNotFinite := by
  constructor
  · rintro ⟨name, h⟩
    refine ⟨fun hkey => ?_, fun hfinite => ?_⟩
    · cases hkey <;> cases h
    · cases hfinite <;> cases h
  · rintro ⟨hkey, hfinite⟩
    cases k with
    | null => exact absurd .null hkey
    | list items => exact absurd (.list items) hkey
    | mapping entries => exact absurd (.mapping entries) hkey
    | tagged tag v => exact absurd (.tagged tag v) hkey
    | bool b => exact ⟨_, rfl⟩
    | string s => exact ⟨_, rfl⟩
    | number n =>
      cases n with
      | int n => exact ⟨_, rfl⟩
      | float x =>
        cases x with
        | nan => exact absurd .nan hfinite
        | infinite negative => exact absurd (.infinite negative) hfinite
        | finite negative m e => exact ⟨_, rfl⟩

theorem keys_eq_nil_of_keyText {k : Value} {name : String} (h : keyText k = .ok name) : k.keys = [] := by
  cases k with
  | bool b => rfl
  | number n => rfl
  | string s => rfl
  | null => cases h
  | list items => cases h
  | mapping entries => cases h
  | tagged tag v => cases h

def HaveTexts (keys : List Value) : Prop := ∀ k ∈ keys, ∃ name, keyText k = .ok name

theorem haveTexts_nil : HaveTexts [] := fun _ h => absurd h List.not_mem_nil

theorem haveTexts_append {l r : List Value} : HaveTexts (l ++ r) ↔ HaveTexts l ∧ HaveTexts r := List.forall_mem_append

mutual
/-- A value can be written just if its keys have texts. -/
theorem exists_valueJson_iff : ∀ v : Value, (∃ j, valueJson v = .ok j) ↔ HaveTexts v.keys
  | .null => iff_of_true ⟨_, rfl⟩ haveTexts_nil
  | .bool _ => iff_of_true ⟨_, rfl⟩ haveTexts_nil
  | .number _ => iff_of_true ⟨_, rfl⟩ haveTexts_nil
  | .string _ => iff_of_true ⟨_, rfl⟩ haveTexts_nil
  | .list items => exists_map_iff.trans (exists_itemsJson_iff items)
  | .mapping entries => exists_map_iff.trans (exists_entriesJson_iff entries)
  | .tagged _ v => exists_map_iff.trans (exists_valueJson_iff v)

theorem exists_itemsJson_iff : ∀ items : List Value,
    (∃ js, itemsJson items = .ok js) ↔ HaveTexts (Value.keysOfItems items)
  | [] => iff_of_true ⟨_, rfl⟩ haveTexts_nil
  | v :: rest => by
    rw [Value.keysOfItems, haveTexts_append, ← exists_valueJson_iff v, ← exists_itemsJson_iff rest]
    exact exists_bind_iff fun _ => exists_map_iff

theorem exists_entriesJson_iff : ∀ entries : List (Value × Value),
    (∃ members, entriesJson entries = .ok members) ↔ HaveTexts (Value.keysOfEntries entries)
  | [] => iff_of_true ⟨_, rfl⟩ haveTexts_nil
  | (k, v) :: rest => by
    have hwritten : (∃ members, entriesJson ((k, v) :: rest) = .ok members) ↔ (∃ name, keyText k = .ok name) ∧
        HaveTexts v.keys ∧ HaveTexts (Value.keysOfEntries rest) := by
      rw [← exists_valueJson_iff v, ← exists_entriesJson_iff rest]
      exact exists_bind_iff fun _ => exists_bind_iff fun _ => exists_map_iff
    rw [hwritten, Value.keysOfEntries, haveTexts_append, haveTexts_append, and_assoc]
    -- The keys in a key play no part: a key with a text has none.
    refine ⟨fun ⟨⟨name, hname⟩, hrest⟩ => ⟨?_, hrest⟩, fun ⟨hkey, hrest⟩ => ⟨hkey k List.mem_cons_self, hrest⟩⟩
    rw [keys_eq_nil_of_keyText hname]
    exact List.forall_mem_singleton.mpr ⟨name, hname⟩
end

/-! Documents -/

def Document.strategyKeys (d : Document) : List Value := d.jobs.flatMap fun j => j.strategy.toList.flatMap Value.keys

theorem Document.mem_strategyKeys_iff {d : Document} {k : Value} :
    k ∈ d.strategyKeys ↔ ∃ j ∈ d.jobs, ∃ v, j.strategy = some v ∧ k ∈ v.keys := by
  simp only [strategyKeys, List.mem_flatMap, Option.mem_toList]

theorem Job.exists_json_iff (j : Job) :
    (∃ written, j.json = .ok written) ↔ ∀ v, j.strategy = some v → HaveTexts v.keys := by
  rw [Job.json]
  cases j.strategy with
  | none => exact iff_of_true ⟨_, rfl⟩ fun _ h => nomatch h
  | some v =>
    simp only [Option.some.injEq, forall_eq']
    exact exists_map_iff.trans (exists_valueJson_iff v)

theorem Document.exists_json_iff (d : Document) : (∃ written, d.json = .ok written) ↔ HaveTexts d.strategyKeys := by
  have hjobs : (∃ written, d.json = .ok written) ↔ ∀ j ∈ d.jobs, ∃ written, j.json = .ok written :=
    exists_map_iff.trans exists_mapM_iff
  simp only [hjobs, Job.exists_json_iff, HaveTexts, mem_strategyKeys_iff]
  exact ⟨fun h k ⟨j, hj, v, hv, hk⟩ => h j hj v hv k hk, fun h j hj v hv k hk => h k ⟨j, hj, v, hv, hk⟩⟩

end Workflow

end RepoConventions
