import Mathlib.Data.List.Basic
import RepoConventions.Proofs.Memo.Turns

/-!
# How the calls on a key stand

After any polls, the calls on a key are those that have failed, in the order in which they were made, and behind them
either those still in line, of which the first may be running, or a first success with everyone whom it serves.
-/

namespace RepoConventions.Memo

variable {σ ε α : Type}

def Failed (own : Nat → Except ε α → Prop) (phase : Nat → Option (Phase ε α)) (failed : List Nat) : Prop :=
  ∀ i ∈ failed, ∃ e, own i (.error e) ∧ phase i = some (.done (.error e))

/-- How the calls on a key stand: from the value that the key had at first and the calls in the order in which they were
made, which of them have begun their initializers, which are in line, and the value that the key has. -/
inductive Standing (own : Nat → Except ε α → Prop) (phase : Nat → Option (Phase ε α)) :
    Option α → List Nat → List Nat → List Nat → Option α → Prop
  | kept {v : α} {calls : List Nat} (hcalls : ∀ i ∈ calls, phase i = some (.done (.ok v))) :
    Standing own phase (some v) calls [] [] (some v)
  | idle {failed : List Nat} (hfailed : Failed own phase failed) : Standing own phase none failed failed [] none
  | next {failed rest : List Nat} {i : Nat} (hfailed : Failed own phase failed) (hfirst : phase i = some .waiting)
    (hrest : ∀ j ∈ rest, phase j = some .waiting) :
    Standing own phase none (failed ++ i :: rest) failed (i :: rest) none
  | running {failed rest : List Nat} {i left : Nat} (hfailed : Failed own phase failed)
    (hfirst : phase i = some (.running left)) (hrest : ∀ j ∈ rest, phase j = some .waiting) :
    Standing own phase none (failed ++ i :: rest) (failed ++ [i]) (i :: rest) none
  | resolved {failed rest : List Nat} {i : Nat} {v : α} (hfailed : Failed own phase failed) (hown : own i (.ok v))
    (hfirst : phase i = some (.done (.ok v)))
    (hrest : ∀ j ∈ rest, phase j = some .waiting ∨ phase j = some (.done (.ok v))) :
    Standing own phase none (failed ++ i :: rest) (failed ++ [i]) [] (some v)

section

variable {own : Nat → Except ε α → Prop} {phase phase' : Nat → Option (Phase ε α)} {first value : Option α}
  {calls begun line : List Nat} {i : Nat}

theorem Failed.congr {failed : List Nat} (h : Failed own phase failed) (hphase : ∀ j ∈ failed, phase' j = phase j) :
    Failed own phase' failed := by
  intro j hj
  obtain ⟨e, hown, hfailed⟩ := h j hj
  exact ⟨e, hown, (hphase j hj).trans hfailed⟩

theorem Failed.ne {failed : List Nat} (h : Failed own phase failed) {p : Phase ε α} (hi : phase i = some p)
    (hp : p.result? = none) : ∀ j ∈ failed, j ≠ i := by
  rintro j hj rfl
  obtain ⟨e, -, hfailed⟩ := h j hj
  rw [hi] at hfailed
  cases hfailed
  cases hp

/-- Behind failed calls, and before others that do not run, stands the one that does. -/
theorem Failed.first_of_running {failed rest : List Nat} (h : Failed own phase failed) {j left : Nat}
    (hrest : ∀ j ∈ rest, phase j ≠ some (.running left)) (hmem : i ∈ failed ++ j :: rest)
    (hi : phase i = some (.running left)) : i = j := by
  rcases List.mem_append.mp hmem with hmem | hmem
  · exact absurd rfl (h.ne hi rfl i hmem)
  · rcases List.mem_cons.mp hmem with heq | hmem
    · exact heq
    · exact absurd hi (hrest i hmem)

theorem Failed.append {failed : List Nat} (h : Failed own phase failed) {e : ε} (hown : own i (.error e))
    (hi : phase i = some (.done (.error e))) : Failed own phase (failed ++ [i]) := by
  intro j hj
  rcases List.mem_append.mp hj with hj | hj
  · exact h j hj
  · cases List.mem_singleton.mp hj
    exact ⟨e, hown, hi⟩

namespace Standing

theorem congr (h : Standing own phase first calls begun line value) (hphase : ∀ j ∈ calls, phase' j = phase j) :
    Standing own phase' first calls begun line value := by
  cases h with
  | kept hcalls => exact .kept fun j hj => (hphase j hj).trans (hcalls j hj)
  | idle hfailed => exact .idle (hfailed.congr hphase)
  | next hfailed hfirst hrest =>
    refine .next (hfailed.congr fun j hj => hphase j (by simp [hj])) ((hphase _ (by simp)).trans hfirst) fun j hj => ?_
    exact (hphase j (by simp [hj])).trans (hrest j hj)
  | running hfailed hfirst hrest =>
    refine .running (hfailed.congr fun j hj => hphase j (by simp [hj])) ((hphase _ (by simp)).trans hfirst)
      fun j hj => ?_
    exact (hphase j (by simp [hj])).trans (hrest j hj)
  | resolved hfailed hown hfirst hrest =>
    refine .resolved (hfailed.congr fun j hj => hphase j (by simp [hj])) hown ((hphase _ (by simp)).trans hfirst)
      fun j hj => ?_
    rw [hphase j (by simp [hj])]
    exact hrest j hj

/-! What a turn of one call does to the calls on its key -/

theorem queue (h : Standing own phase first calls begun line none)
    (hphase : ∀ j, phase' j = if j = i then some .waiting else phase j) (hnew : i ∉ calls) :
    Standing own phase' first (calls ++ [i]) begun (line ++ [i]) none := by
  have hothers : ∀ j ∈ calls, phase' j = phase j := fun j hj => by
    rw [hphase, if_neg (ne_of_mem_of_not_mem hj hnew)]
  have hi : phase' i = some .waiting := by rw [hphase, if_pos rfl]
  cases h.congr hothers with
  | idle hfailed => exact .next hfailed hi fun j hj => absurd hj List.not_mem_nil
  | next hfailed hfirst hrest =>
    rw [List.append_assoc]
    refine .next hfailed hfirst fun j hj => ?_
    rcases List.mem_append.mp hj with hj | hj
    · exact hrest j hj
    · cases List.mem_singleton.mp hj
      exact hi
  | running hfailed hfirst hrest =>
    rw [List.append_assoc]
    refine .running hfailed hfirst fun j hj => ?_
    rcases List.mem_append.mp hj with hj | hj
    · exact hrest j hj
    · cases List.mem_singleton.mp hj
      exact hi

theorem serve_new {v : α} (h : Standing own phase first calls begun line (some v))
    (hphase : ∀ j, phase' j = if j = i then some (.done (.ok v)) else phase j) (hnew : i ∉ calls) :
    Standing own phase' first (calls ++ [i]) begun line (some v) := by
  have hothers : ∀ j ∈ calls, phase' j = phase j := fun j hj => by
    rw [hphase, if_neg (ne_of_mem_of_not_mem hj hnew)]
  have hi : phase' i = some (.done (.ok v)) := by rw [hphase, if_pos rfl]
  cases h.congr hothers with
  | kept hcalls =>
    refine .kept fun j hj => ?_
    rcases List.mem_append.mp hj with hj | hj
    · exact hcalls j hj
    · cases List.mem_singleton.mp hj
      exact hi
  | resolved hfailed hown hfirst hrest =>
    rw [List.append_assoc]
    refine .resolved hfailed hown hfirst fun j hj => ?_
    rcases List.mem_append.mp hj with hj | hj
    · exact hrest j hj
    · cases List.mem_singleton.mp hj
      exact .inr hi

theorem serve_waiting {v : α} (h : Standing own phase first calls begun line (some v))
    (hwaiting : phase i = some .waiting) (hphase : ∀ j, phase' j = if j = i then some (.done (.ok v)) else phase j) :
    Standing own phase' first calls begun line (some v) := by
  have hi : phase' i = some (.done (.ok v)) := by rw [hphase, if_pos rfl]
  cases h with
  | kept hcalls =>
    refine .kept fun j hj => ?_
    rw [hphase]
    split
    · rfl
    · exact hcalls j hj
  | resolved hfailed hown hfirst hrest =>
    refine .resolved (hfailed.congr fun j hj => ?_) hown ?_ fun j hj => ?_
    · rw [hphase, if_neg (hfailed.ne hwaiting rfl j hj)]
    · rw [hphase]
      split
      · rfl
      · exact hfirst
    · rw [hphase]
      split
      · exact .inr rfl
      · exact hrest j hj

/-- The first in line goes on: it gives way, or fails and leaves the line, or succeeds for all in line. -/
theorem goOn {failed rest : List Nat} {outcome : Except ε α} {left : Nat} {p : Phase ε α}
    (hfailed : Failed own phase failed) (hrest : ∀ j ∈ rest, phase j = some .waiting)
    {p₀ : Phase ε α} (hfirst : phase i = some p₀) (hp₀ : p₀.result? = none) (hnodup : (i :: rest).Nodup)
    (hadvanced : Batch.Advanced outcome left (i :: rest) p line value)
    (hown : p.result?.isSome → own i outcome) (hphase : ∀ j, phase' j = if j = i then some p else phase j) :
    Standing own phase' none (failed ++ i :: rest) (failed ++ [i]) line value := by
  have hi : phase' i = some p := by rw [hphase, if_pos rfl]
  have hfailed' : Failed own phase' failed :=
    hfailed.congr fun j hj => by rw [hphase, if_neg (hfailed.ne hfirst hp₀ j hj)]
  have hrest' : ∀ j ∈ rest, phase' j = some .waiting := fun j hj => by
    rw [hphase, if_neg (ne_of_mem_of_not_mem hj (List.nodup_cons.mp hnodup).1)]
    exact hrest j hj
  cases hadvanced with
  | givesWay => exact .running hfailed' hi hrest'
  | fails _ houtcome =>
    rw [houtcome] at hown
    have hall := hfailed'.append (hown rfl) hi
    rw [List.append_cons failed i rest]
    cases rest with
    | nil =>
      rw [List.append_nil]
      exact .idle hall
    | cons j rest => exact .next hall (hrest' j (by simp)) fun k hk => hrest' k (by simp [hk])
  | succeeds _ houtcome =>
    rw [houtcome] at hown
    exact .resolved hfailed' (hown rfl) hi fun j hj => .inl (hrest' j hj)

theorem take {outcome : Except ε α} {left : Nat} {p : Phase ε α} {line' : List Nat}
    (h : Standing own phase first calls begun line none) (hnodup : calls.Nodup) (hfirst : line.head? = some i)
    (hwaiting : phase i = some .waiting) (hadvanced : Batch.Advanced outcome left line p line' value)
    (hown : p.result?.isSome → own i outcome) (hphase : ∀ j, phase' j = if j = i then some p else phase j) :
    Standing own phase' first calls (begun ++ [i]) line' value := by
  cases h with
  | idle => cases hfirst
  | next hfailed _ hrest =>
    cases hfirst
    exact goOn hfailed hrest hwaiting rfl (List.nodup_append.mp hnodup).2.1 hadvanced hown hphase
  | running _ hrunning =>
    cases hfirst
    cases hwaiting.symm.trans hrunning

theorem advance {outcome : Except ε α} {left n : Nat} {p : Phase ε α} {line' : List Nat}
    (h : Standing own phase first calls begun line none) (hnodup : calls.Nodup) (hmem : i ∈ calls)
    (hrunning : phase i = some (.running n)) (hadvanced : Batch.Advanced outcome left line p line' value)
    (hown : p.result?.isSome → own i outcome) (hphase : ∀ j, phase' j = if j = i then some p else phase j) :
    Standing own phase' first calls begun line' value := by
  cases h with
  | idle hfailed => exact absurd rfl (hfailed.ne hrunning rfl i hmem)
  | next hfailed hfirst hrest =>
    obtain rfl := hfailed.first_of_running (fun j hj => by simp [hrest j hj]) hmem hrunning
    cases hrunning.symm.trans hfirst
  | running hfailed _ hrest =>
    obtain rfl := hfailed.first_of_running (fun j hj => by simp [hrest j hj]) hmem hrunning
    exact goOn hfailed hrest hrunning rfl (List.nodup_append.mp hnodup).2.1 hadvanced hown hphase

theorem first_of_running {left : Nat} (h : Standing own phase first calls begun line value) (hmem : i ∈ calls)
    (hrunning : phase i = some (.running left)) : line.head? = some i ∧ value = none := by
  cases h with
  | kept hcalls => cases hrunning.symm.trans (hcalls i hmem)
  | idle hfailed => exact absurd rfl (hfailed.ne hrunning rfl i hmem)
  | next hfailed _ hrest =>
    obtain rfl := hfailed.first_of_running (fun j hj => by simp [hrest j hj]) hmem hrunning
    exact ⟨rfl, rfl⟩
  | running hfailed _ hrest =>
    obtain rfl := hfailed.first_of_running (fun j hj => by simp [hrest j hj]) hmem hrunning
    exact ⟨rfl, rfl⟩
  | resolved hfailed _ hfirst hrest =>
    have hnot : ∀ j ∈ _, phase j ≠ some (.running left) := fun j hj => by
      rcases hrest j hj with hwaiting | hdone
      · simp [hwaiting]
      · simp [hdone]
    obtain rfl := hfailed.first_of_running hnot hmem hrunning
    cases hrunning.symm.trans hfirst

/-- Where no initializer can fail, at most one begins on a key, and one has begun by the time that the key has a value
which it had not at first. -/
theorem length_begun (h : Standing own phase first calls begun line value) (hown : ∀ i e, ¬ own i (.error e)) :
    begun.length ≤ 1 ∧ (first = none → value ≠ none → begun.length = 1) := by
  have hnil {failed : List Nat} (hfailed : Failed own phase failed) : failed = [] := by
    refine List.eq_nil_iff_forall_not_mem.mpr fun i hi => ?_
    obtain ⟨e, he, -⟩ := hfailed i hi
    exact hown i e he
  cases h with
  | kept => simp
  | idle hfailed | next hfailed => simp [hnil hfailed]
  | running hfailed | resolved hfailed => simp [hnil hfailed]

end Standing

end

end RepoConventions.Memo
