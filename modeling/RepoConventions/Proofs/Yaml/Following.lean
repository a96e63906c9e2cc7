import RepoConventions.Yaml.Tree

/-!
# Runs that follow aliases

What a run that succeeds has done, and that it never counts back.
-/

namespace RepoConventions.Yaml

namespace Node

variable {α β : Type} {c c' : Nat}

theorem run_bind_iff {x : Following α} {f : α → Following β} {b : β} :
    (x >>= f).run c = .ok (b, c') ↔ ∃ a c₁, x.run c = .ok (a, c₁) ∧ (f a).run c₁ = .ok (b, c') := by
  rw [StateT.run_bind, bind_eq_ok_iff]
  constructor
  · intro h
    obtain ⟨⟨a, c₁⟩, hx, hf⟩ := h
    exact ⟨a, c₁, hx, hf⟩
  · intro h
    obtain ⟨a, c₁, hx, hf⟩ := h
    exact ⟨(a, c₁), hx, hf⟩

theorem run_pure_iff {a b : α} : (pure a : Following α).run c = .ok (b, c') ↔ b = a ∧ c' = c := by
  rw [StateT.run_pure, pure_eq_ok_iff, Prod.mk.injEq]

theorem run_lift_iff {x : Except Error α} {b : α} :
    (liftM x : Following α).run c = .ok (b, c') ↔ x = .ok b ∧ c' = c := by
  cases x with
  | error e =>
    constructor
    · intro h
      cases h
    · intro h
      obtain ⟨h, -⟩ := h
      cases h
  | ok a =>
    have hrun : (liftM (Except.ok a : Except Error α) : Following α).run c = .ok (a, c) := rfl
    rw [hrun]
    simp [eq_comm]

theorem run_throw_ne {e : Error} {b : α} : (throw e : Following α).run c ≠ .ok (b, c') := by
  intro h
  cases h

theorem run_follow_iff {limit : Nat} {u : Unit} :
    (follow limit).run c = .ok (u, c') ↔ c + 1 ≤ limit ∧ c' = c + 1 := by
  have hfollow : (follow limit).run c = if c + 1 > limit then .error .tooManyAliases else .ok ((), c + 1) := by
    by_cases hlimit : c + 1 > limit
    · rw [if_pos hlimit]
      unfold follow
      simp only [StateT.run_bind, StateT.run_get, if_pos hlimit, pure_bind]
      rfl
    · rw [if_neg hlimit]
      unfold follow
      simp only [StateT.run_bind, StateT.run_get, if_neg hlimit, pure_bind]
      rfl
  rw [hfollow]
  by_cases hlimit : c + 1 > limit
  · rw [if_pos hlimit]
    constructor
    · intro h
      cases h
    · intro h
      omega
  · rw [if_neg hlimit]
    constructor
    · intro h
      cases h
      exact ⟨Nat.le_of_not_lt hlimit, rfl⟩
    · intro h
      rw [h.2]

theorem run_mapM_nil_iff {f : α → Following β} {bs : List β} :
    (List.mapM f []).run c = .ok (bs, c') ↔ bs = [] ∧ c' = c := by
  rw [List.mapM_nil, run_pure_iff]

theorem run_mapM_cons_iff {f : α → Following β} {a : α} {l : List α} {bs : List β} :
    (List.mapM f (a :: l)).run c = .ok (bs, c') ↔
      ∃ b c₁ bs', (f a).run c = .ok (b, c₁) ∧ (List.mapM f l).run c₁ = .ok (bs', c') ∧ bs = b :: bs' := by
  simp only [List.mapM_cons, run_bind_iff, run_pure_iff]
  constructor
  · intro h
    obtain ⟨b, c₁, hb, bs', c₂, hbs, rfl, rfl⟩ := h
    exact ⟨b, c₁, bs', hb, hbs, rfl⟩
  · intro h
    obtain ⟨b, c₁, bs', hb, hbs, rfl⟩ := h
    exact ⟨b, c₁, hb, bs', _, hbs, rfl, rfl⟩

/-! The first reading -/

variable {limit : Nat} {anchors : List (Nat × Node Nat)}

theorem run_target_alias_iff {a : Nat} {m : Node Nat} :
    (target limit anchors (.alias a)).run c = .ok (m, c') ↔ c + 1 ≤ limit ∧ c' = c + 1 ∧ anchors.lookup a = some m := by
  simp only [target, run_bind_iff, run_follow_iff]
  constructor
  · intro h
    obtain ⟨u, c₁, ⟨hlimit, rfl⟩, h⟩ := h
    split at h
    · next n hn =>
      obtain ⟨rfl, rfl⟩ := run_pure_iff.mp h
      exact ⟨hlimit, rfl, hn⟩
    · exact absurd h run_throw_ne
  · intro hparts
    obtain ⟨hlimit, rfl, hm⟩ := hparts
    refine ⟨(), c + 1, ⟨hlimit, rfl⟩, ?_⟩
    rw [hm]
    rfl

theorem le_of_target {n m : Node Nat} (h : (n.target limit anchors).run c = .ok (m, c')) : c ≤ c' := by
  cases n with
  | «alias» a =>
    obtain ⟨-, rfl, -⟩ := run_target_alias_iff.mp h
    exact Nat.le_succ c
  | _ =>
    obtain ⟨-, rfl⟩ := run_pure_iff.mp h
    exact Nat.le_refl _

def expandEntry (limit : Nat) (anchors : List (Nat × Node Nat)) (depth : Nat) (e : Node Nat × Node Nat) :
    Following (Tree × Tree) := do
  let k ← expand limit anchors depth e.1
  return (k, ← expand limit anchors depth e.2)

/-- What a node that is expanded stands for, and how its parts are expanded. -/
theorem expand_cases {depth : Nat} {n : Node Nat} {t : Tree} (h : (n.expand limit anchors depth).run c = .ok (t, c')) :
    ∃ m c₁, (n.target limit anchors).run c = .ok (m, c₁) ∧
      ((∃ anchor tag text plain, m = .scalar anchor tag text plain ∧ t = .scalar tag text plain ∧ c' = c₁) ∨
        (∃ anchor tag items d ts, m = .sequence anchor tag items ∧ depth = d + 1 ∧ t = .sequence tag ts ∧
          (items.mapM (expand limit anchors d)).run c₁ = .ok (ts, c')) ∨
        ∃ anchor tag entries d ts, m = .mapping anchor tag entries ∧ depth = d + 1 ∧ t = .mapping tag ts ∧
          (entries.mapM (expandEntry limit anchors d)).run c₁ = .ok (ts, c')) := by
  cases depth with
  | zero =>
    rw [expand] at h
    obtain ⟨m, c₁, hm, h⟩ := run_bind_iff.mp h
    refine ⟨m, c₁, hm, ?_⟩
    cases m with
    | scalar anchor tag text plain =>
      obtain ⟨rfl, rfl⟩ := run_pure_iff.mp h
      exact .inl ⟨anchor, tag, text, plain, rfl, rfl, rfl⟩
    | _ => exact absurd h run_throw_ne
  | succ depth =>
    rw [expand] at h
    obtain ⟨m, c₁, hm, h⟩ := run_bind_iff.mp h
    refine ⟨m, c₁, hm, ?_⟩
    cases m with
    | scalar anchor tag text plain =>
      obtain ⟨rfl, rfl⟩ := run_pure_iff.mp h
      exact .inl ⟨anchor, tag, text, plain, rfl, rfl, rfl⟩
    | sequence anchor tag items =>
      obtain ⟨ts, c₂, hts, h⟩ := run_bind_iff.mp h
      obtain ⟨rfl, rfl⟩ := run_pure_iff.mp h
      exact .inr (.inl ⟨anchor, tag, items, depth, ts, rfl, rfl, rfl, hts⟩)
    | mapping anchor tag entries =>
      obtain ⟨ts, c₂, hts, h⟩ := run_bind_iff.mp h
      obtain ⟨rfl, rfl⟩ := run_pure_iff.mp h
      exact .inr (.inr ⟨anchor, tag, entries, depth, ts, rfl, rfl, rfl, hts⟩)
    | «alias» a => exact absurd h run_throw_ne

theorem le_of_mapM {f : α → Following β} {l : List α} (hf : ∀ a b c c', (f a).run c = .ok (b, c') → c ≤ c')
    {bs : List β} (h : (l.mapM f).run c = .ok (bs, c')) : c ≤ c' := by
  induction l generalizing c bs with
  | nil =>
    obtain ⟨-, rfl⟩ := run_mapM_nil_iff.mp h
    exact Nat.le_refl _
  | cons a l ih =>
    obtain ⟨b, c₁, bs', hb, hbs, -⟩ := run_mapM_cons_iff.mp h
    exact Nat.le_trans (hf a b c c₁ hb) (ih hbs)

theorem le_of_expandEntry {depth : Nat}
    (hexpand : ∀ n t c c', (expand limit anchors depth n).run c = .ok (t, c') → c ≤ c') {e : Node Nat × Node Nat}
    {b : Tree × Tree} (h : (expandEntry limit anchors depth e).run c = .ok (b, c')) : c ≤ c' := by
  obtain ⟨k, c₁, hk, h⟩ := run_bind_iff.mp h
  obtain ⟨v, c₂, hv, h⟩ := run_bind_iff.mp h
  obtain ⟨-, rfl⟩ := run_pure_iff.mp h
  exact Nat.le_trans (hexpand _ _ _ _ hk) (hexpand _ _ _ _ hv)

theorem le_of_expand {depth : Nat} {n : Node Nat} {t : Tree} (h : (n.expand limit anchors depth).run c = .ok (t, c')) :
    c ≤ c' := by
  induction depth generalizing n t c c' with
  | zero =>
    obtain ⟨m, c₁, hm, hcases⟩ := expand_cases h
    have hle := le_of_target hm
    rcases hcases with ⟨_, _, _, _, -, -, rfl⟩ | ⟨_, _, _, d, _, -, hd, -⟩ | ⟨_, _, _, d, _, -, hd, -⟩
    · exact hle
    · cases hd
    · cases hd
  | succ depth ih =>
    obtain ⟨m, c₁, hm, hcases⟩ := expand_cases h
    have hle := le_of_target hm
    rcases hcases with ⟨_, _, _, _, -, -, rfl⟩ | ⟨_, _, _, d, _, -, hd, -, hts⟩ | ⟨_, _, _, d, _, -, hd, -, hts⟩
    · exact hle
    · cases hd
      exact Nat.le_trans hle (le_of_mapM (fun _ _ _ _ => ih) hts)
    · cases hd
      exact Nat.le_trans hle (le_of_mapM (fun _ _ _ _ => le_of_expandEntry fun _ _ _ _ => ih) hts)

end Node

end RepoConventions.Yaml
