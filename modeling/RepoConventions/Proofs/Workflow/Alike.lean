import RepoConventions.Proofs.Workflow.Decoding
import RepoConventions.Proofs.Yaml.Canonical

/-!
# Decoding twins

What is decoded from two related things in step: either both are refused, or both give a result and the results are
related. A map is filled from twin entries in step too; its keys as written are all different, while canonical ones may
coincide.
-/

namespace RepoConventions.Workflow

open Yaml (Value SameScalar Twin TwinEntry)

/-- Two results that are both errors, or both there and related. -/
inductive Alike {ε α β : Type} (R : α → β → Prop) : Except ε α → Except ε β → Prop
  | error {e e' : ε} : Alike R (.error e) (.error e')
  | ok {a : α} {b : β} (h : R a b) : Alike R (.ok a) (.ok b)

namespace Alike

variable {ε α β γ δ : Type} {R : α → β → Prop} {S : γ → δ → Prop}

theorem bind {x : Except ε α} {y : Except ε β} {f : α → Except ε γ} {g : β → Except ε δ} (h : Alike R x y)
    (hfg : ∀ a b, R a b → Alike S (f a) (g b)) : Alike S (x >>= f) (y >>= g) := by
  cases h with
  | error => exact .error
  | ok h => exact hfg _ _ h

theorem mapM {f : α → Except ε γ} {g : β → Except ε δ} {l : List α} {m : List β} (h : List.Forall₂ R l m)
    (hfg : ∀ a b, R a b → Alike S (f a) (g b)) : Alike (List.Forall₂ S) (l.mapM f) (m.mapM g) := by
  induction h with
  | nil =>
    rw [List.mapM_nil, List.mapM_nil]
    exact .ok .nil
  | cons hab _ ih =>
    rw [List.mapM_cons, List.mapM_cons]
    exact (hfg _ _ hab).bind fun c d hcd => ih.bind fun cs ds hcds => .ok (.cons hcd hcds)

end Alike

section Lists

variable {α β : Type} {R : α → β → Prop} {l : List α} {m : List β}

theorem forall₂_zipIdx (h : List.Forall₂ R l m) (i : Nat) :
    List.Forall₂ (fun p q => R p.1 q.1) (l.zipIdx i) (m.zipIdx i) := by
  induction h generalizing i with
  | nil => exact .nil
  | cons hab _ ih => exact .cons hab (ih (i + 1))

end Lists

section Options

variable {α β γ δ : Type} {R : α → β → Prop} {x : Option α} {y : Option β}

theorem rel_bind {S : γ → δ → Prop} {f : α → Option γ} {g : β → Option δ} (h : Option.Rel R x y)
    (hfg : ∀ a b, R a b → Option.Rel S (f a) (g b)) : Option.Rel S (x.bind f) (y.bind g) := by
  cases h with
  | none => exact .none
  | some h => exact hfg _ _ h

theorem rel_filter {p : α → Bool} {q : β → Bool} (h : Option.Rel R x y) (hpq : ∀ a b, R a b → p a = q b) :
    Option.Rel R (x.filter p) (y.filter q) := by
  cases h with
  | none => exact .none
  | @some a b h =>
    rw [Option.filter_some, Option.filter_some, hpq a b h]
    split
    · exact .some h
    · exact .none

end Options

/-! Maps -/

/-- A map with these entries; of entries with one key the last counts. -/
def mapOf {α : Type} (l : List (String × α)) : Text.Map α := l.foldl (fun m e => m.insert e.1 e.2) .empty

theorem mapOf_append {α : Type} (l : List (String × α)) (key : String) (value : α) :
    mapOf (l ++ [(key, value)]) = (mapOf l).insert key value := by
  rw [mapOf, List.foldl_append]
  rfl

/-- Two maps that are filled in step. -/
def MapsAgree {α β : Type} (R : α → β → Prop) (m : Text.Map α) (n : Text.Map β) : Prop :=
  ∃ l l', List.Forall₂ (fun e f => SameScalar e.1 f.1 ∧ R e.2 f.2) l l' ∧ (l'.map (·.1)).Nodup ∧
    m = mapOf l ∧ n = mapOf l'

theorem mapsAgree_empty {α β : Type} (R : α → β → Prop) : MapsAgree R Text.Map.empty Text.Map.empty :=
  ⟨[], [], .nil, .nil, rfl, rfl⟩

theorem mapsAgree_single {α β : Type} {R : α → β → Prop} (key : String) {a : α} {b : β} (h : R a b) :
    MapsAgree R (Text.Map.empty.insert key a) (Text.Map.empty.insert key b) :=
  ⟨[(key, a)], [(key, b)], .cons ⟨.inl rfl, h⟩ .nil, by simp, rfl, rfl⟩

/-- What an entry does to two maps in step. -/
def AddedInStep {α β : Type} (R : α → β → Prop) (f : Value × Value) (m m' : Text.Map α) (n n' : Text.Map β) : Prop :=
  (m' = m ∧ n' = n) ∨ ∃ key a key' b, f.1 = .string key' ∧ SameScalar key key' ∧ R a b ∧ m' = m.insert key a ∧
    n' = n.insert key' b

/-- By induction on the entries: keys that are still to come are not among those in the map. -/
theorem foldlM_alike {α β : Type} {R : α → β → Prop} {add : Text.Map α → Value × Value → Except Error (Text.Map α)}
    {add' : Text.Map β → Value × Value → Except Error (Text.Map β)} {es fs : List (Value × Value)}
    (h : List.Forall₂ TwinEntry es fs) (hapart : fs.Pairwise fun e f => e.1.same f.1 = false)
    (hstep : ∀ e f m n, TwinEntry e f → Alike (fun m' n' => AddedInStep R f m m' n n') (add m e) (add' n f)) :
    Alike (MapsAgree R) (es.foldlM add .empty) (fs.foldlM add' .empty) := by
  suffices hall : ∀ l l', List.Forall₂ (fun e f => SameScalar e.1 f.1 ∧ R e.2 f.2) l l' → (l'.map (·.1)).Nodup →
      (∀ e ∈ l', ∀ f ∈ fs, f.1 ≠ .string e.1) →
      Alike (MapsAgree R) (es.foldlM add (mapOf l)) (fs.foldlM add' (mapOf l')) from
    hall [] [] .nil .nil fun e he => absurd he List.not_mem_nil
  induction h with
  | nil =>
    intro l l' hl hnodup _
    rw [List.foldlM_nil, List.foldlM_nil]
    exact .ok ⟨l, l', hl, hnodup, rfl, rfl⟩
  | @cons e f es fs hentry _ ih =>
    intro l l' hl hnodup hnew
    obtain ⟨hfirst, hrest⟩ := List.pairwise_cons.mp hapart
    rw [List.foldlM_cons, List.foldlM_cons]
    refine (hstep e f (mapOf l) (mapOf l') hentry).bind ?_
    rintro m n (⟨rfl, rfl⟩ | ⟨key, a, key', b, hkey, hsame, hR, rfl, rfl⟩)
    · exact ih hrest l l' hl hnodup fun g hg f hf => hnew g hg f (List.mem_cons_of_mem _ hf)
    · rw [← mapOf_append, ← mapOf_append]
      refine ih hrest _ _ (List.rel_append hl (.cons ⟨hsame, hR⟩ .nil)) ?_ ?_
      · rw [List.map_append, List.nodup_append]
        refine ⟨hnodup, by simp, ?_⟩
        rintro k hk k' hk' rfl
        obtain ⟨g, hg, rfl⟩ := List.mem_map.mp hk
        obtain rfl := List.mem_singleton.mp hk'
        exact hnew g hg f List.mem_cons_self hkey
      · intro g hg f' hf'
        rcases List.mem_append.mp hg with hg | hg
        · exact hnew g hg f' (List.mem_cons_of_mem _ hf')
        · obtain rfl := List.mem_singleton.mp hg
          intro heq
          have hsame := hfirst f' hf'
          rw [hkey, heq] at hsame
          simp [Value.same] at hsame

end RepoConventions.Workflow
