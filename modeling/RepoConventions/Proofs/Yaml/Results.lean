import Mathlib.Data.List.Forall2
import RepoConventions.Yaml.Error

/-!
# Results and lists

When a computation over a list has a result, and how lists go along with each other.
-/

namespace RepoConventions.Yaml

variable {ε α β γ : Type}

theorem eq_ok_of_toOption {x : Except ε α} {a : α} (h : x.toOption = some a) : x = .ok a := by
  cases x with
  | error e => cases h
  | ok b => rw [Option.some.inj h]

theorem exists_ok_of_map {x : Except ε α} {f : α → β} {b : β} (h : x.toOption.map f = some b) :
    ∃ a, x = .ok a ∧ f a = b := by
  cases x with
  | error e => cases h
  | ok a => exact ⟨a, rfl, Option.some.inj h⟩

/-- Where the second part of a computation has a result just if `P`, whatever comes of the first. -/
theorem exists_bind_iff {x : Except ε α} {f : α → Except ε β} {P : Prop} (hf : ∀ a, (∃ b, f a = .ok b) ↔ P) :
    (∃ b, x >>= f = .ok b) ↔ (∃ a, x = .ok a) ∧ P := by
  simp only [bind_eq_ok_iff]
  constructor
  · rintro ⟨b, a, hx, hb⟩
    exact ⟨⟨a, hx⟩, (hf a).mp ⟨b, hb⟩⟩
  · rintro ⟨⟨a, hx⟩, hP⟩
    obtain ⟨b, hb⟩ := (hf a).mpr hP
    exact ⟨b, a, hx, hb⟩

theorem exists_map_iff {x : Except ε α} {f : α → β} : (∃ b, (do return f (← x)) = Except.ok b) ↔ ∃ a, x = .ok a :=
  (exists_bind_iff fun a => iff_true_intro ⟨f a, rfl⟩).trans (and_iff_left trivial)

theorem forall₂_comp {R : α → β → Prop} {S : β → γ → Prop} {l : List α} {m : List β} {r : List γ}
    (hlm : List.Forall₂ R l m) (hmr : List.Forall₂ S m r) :
    List.Forall₂ (fun a c => ∃ b, R a b ∧ S b c) l r := by
  induction hlm generalizing r with
  | nil =>
    cases hmr
    exact .nil
  | cons hab _ ih =>
    cases hmr with
    | cons hbc hrest => exact .cons ⟨_, hab, hbc⟩ (ih hrest)

theorem exists_mem_of_forall₂ {R : α → β → Prop} {l : List α} {r : List β} (h : List.Forall₂ R l r) {b : β}
    (hb : b ∈ r) : ∃ a ∈ l, R a b := by
  induction h with
  | nil => cases hb
  | cons hab _ ih =>
    rcases List.mem_cons.mp hb with rfl | hmem
    · exact ⟨_, List.mem_cons_self, hab⟩
    · obtain ⟨a, ha, hR⟩ := ih hmem
      exact ⟨a, List.mem_cons_of_mem _ ha, hR⟩

theorem exists_getElem?_of_forall₂ {R : α → β → Prop} {before after : List α} {a : α} {r : List β}
    (h : List.Forall₂ R (before ++ a :: after) r) : ∃ b, r[before.length]? = some b ∧ R a b := by
  induction before generalizing r with
  | nil =>
    cases h with
    | cons hab _ => exact ⟨_, rfl, hab⟩
  | cons c rest ih =>
    cases h with
    | cons _ hrest => exact ih hrest

theorem mapM_eq_ok_iff {f : α → Except ε β} {l : List α} {bs : List β} :
    l.mapM f = .ok bs ↔ List.Forall₂ (fun a b => f a = .ok b) l bs := by
  induction l generalizing bs with
  | nil => rw [List.mapM_nil, pure_eq_ok_iff, List.forall₂_nil_left_iff]
  | cons a rest ih =>
    rw [List.mapM_cons, bind_cons_eq_ok_iff, List.forall₂_cons_left_iff]
    simp only [ih]

theorem exists_mapM_iff {f : α → Except ε β} {l : List α} :
    (∃ bs, l.mapM f = .ok bs) ↔ ∀ a ∈ l, ∃ b, f a = .ok b := by
  induction l with
  | nil => exact iff_of_true ⟨[], rfl⟩ fun a h => absurd h List.not_mem_nil
  | cons a rest ih =>
    rw [List.mapM_cons, List.forall_mem_cons, ← ih]
    exact exists_bind_iff fun _ => exists_map_iff

theorem exists_first_not {P : α → Prop} {l : List α} (h : ¬ ∀ a ∈ l, P a) :
    ∃ before a after, l = before ++ a :: after ∧ (∀ b ∈ before, P b) ∧ ¬ P a := by
  induction l with
  | nil => exact absurd (fun a ha => absurd ha List.not_mem_nil) h
  | cons a rest ih =>
    by_cases ha : P a
    · have hrest : ¬ ∀ b ∈ rest, P b := fun hall => h (List.forall_mem_cons.mpr ⟨ha, hall⟩)
      obtain ⟨before, b, after, rfl, hbefore, hb⟩ := ih hrest
      exact ⟨a :: before, b, after, rfl, List.forall_mem_cons.mpr ⟨ha, hbefore⟩, hb⟩
    · exact ⟨[], a, rest, rfl, fun b hb => absurd hb List.not_mem_nil, ha⟩

/-- The first error on the way through a list is the result, whatever follows it. -/
theorem mapM_of_first_error {f : α → Except ε β} {before : List α} {a : α} {e : ε}
    (hbefore : ∀ b ∈ before, ∃ c, f b = .ok c) (ha : f a = .error e) (after : List α) :
    (before ++ a :: after).mapM f = .error e := by
  induction before with
  | nil =>
    rw [List.nil_append, List.mapM_cons, ha]
    rfl
  | cons b rest ih =>
    obtain ⟨⟨c, hc⟩, hrest⟩ := List.forall_mem_cons.mp hbefore
    rw [List.cons_append, List.mapM_cons, hc, ih hrest]
    rfl

theorem foldlM_invariant {f : β → α → Except ε β} {P : β → Prop} {l : List α} {b b' : β}
    (h : l.foldlM f b = .ok b') (hb : P b) (hstep : ∀ a ∈ l, ∀ b b', P b → f b a = .ok b' → P b') : P b' := by
  induction l generalizing b with
  | nil =>
    rw [List.foldlM_nil, pure_eq_ok_iff] at h
    rw [h]
    exact hb
  | cons a rest ih =>
    rw [List.foldlM_cons, bind_eq_ok_iff] at h
    obtain ⟨c, hc, h⟩ := h
    exact ih h (hstep a List.mem_cons_self b c hb hc) fun a ha => hstep a (List.mem_cons_of_mem _ ha)

end RepoConventions.Yaml
