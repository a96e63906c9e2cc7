import RepoConventions.Proofs.Memo.Progress

/-!
# How calls on a memo settle

The results of concurrent calls depend on the order in which they were made and on the outcomes of their initializers,
and on nothing else of the schedule: the calls on a key fail one after another until the first success, which serves
all others and resolves the key for good.
-/

namespace RepoConventions.Memo

variable {σ ε α : Type}

/-- How finished calls on a key have settled: from the value that the key had at first and the calls in the order in
which they were made, whose initializers ran, in that order, and the value that the key has. A call returns its own
error, or the one value. -/
inductive Settled (own : Nat → Except ε α → Prop) (result : Nat → Option (Except ε α)) :
    Option α → List Nat → List Nat → Option α → Prop
  | kept {v : α} {calls : List Nat} (hcalls : ∀ i ∈ calls, result i = some (.ok v)) :
    Settled own result (some v) calls [] (some v)
  | unresolved {failed : List Nat} (hfailed : ∀ i ∈ failed, ∃ e, own i (.error e) ∧ result i = some (.error e)) :
    Settled own result none failed failed none
  | resolved {failed rest : List Nat} {i : Nat} {v : α}
    (hfailed : ∀ i ∈ failed, ∃ e, own i (.error e) ∧ result i = some (.error e)) (hown : own i (.ok v))
    (hserved : ∀ j ∈ i :: rest, result j = some (.ok v)) :
    Settled own result none (failed ++ i :: rest) (failed ++ [i]) (some v)

namespace Standing

variable {own : Nat → Except ε α → Prop} {phase : Nat → Option (Phase ε α)} {first value : Option α}
  {calls begun line : List Nat}

theorem result_of_failed {failed : List Nat} (h : Failed own phase failed) :
    ∀ i ∈ failed, ∃ e, own i (.error e) ∧ (phase i).bind Phase.result? = some (.error e) := by
  intro i hi
  obtain ⟨e, hown, hphase⟩ := h i hi
  exact ⟨e, hown, by rw [hphase]; rfl⟩

/-- When all calls on a key are finished, nobody is in line. -/
theorem settled (h : Standing own phase first calls begun line value)
    (hdone : ∀ i ∈ calls, (phase i).bind Phase.result? ≠ none) :
    Settled own (fun i => (phase i).bind Phase.result?) first calls begun value := by
  cases h with
  | kept hcalls => exact .kept fun i hi => by rw [hcalls i hi]; rfl
  | idle hfailed => exact .unresolved (result_of_failed hfailed)
  | @next failed rest i _ hfirst => exact absurd (by rw [hfirst]; rfl) (hdone i (by simp))
  | @running failed rest i left _ hfirst => exact absurd (by rw [hfirst]; rfl) (hdone i (by simp))
  | resolved hfailed hown hfirst hrest =>
    refine .resolved (result_of_failed hfailed) hown fun j hj => ?_
    rcases List.mem_cons.mp hj with rfl | hj
    · rw [hfirst]
      rfl
    · rcases hrest j hj with hwaiting | hserved
      · exact absurd (by rw [hwaiting]; rfl) (hdone j (by simp [hj]))
      · rw [hserved]
        rfl

theorem eq_of_running (h : Standing own phase first calls begun line value) {i j left left' : Nat} (hi : i ∈ calls)
    (hj : j ∈ calls) (hirun : phase i = some (.running left)) (hjrun : phase j = some (.running left')) : i = j := by
  have hfirst := (h.first_of_running hi hirun).1
  rw [(h.first_of_running hj hjrun).1] at hfirst
  cases hfirst
  rfl

/-- A key gets a value by exactly one success. -/
theorem length_successes (h : Standing own phase first calls begun line value) :
    first.toList.length + (begun.filter fun i => ((phase i).bind Phase.result?).any Except.isOk).length =
      value.toList.length := by
  have hnone {failed : List Nat} (hfailed : Failed own phase failed) :
      failed.filter (fun i => ((phase i).bind Phase.result?).any Except.isOk) = [] := by
    refine List.filter_eq_nil_iff.mpr fun i hi => ?_
    obtain ⟨e, -, hphase⟩ := hfailed i hi
    rw [hphase]
    exact Bool.false_ne_true
  cases h with
  | kept => rfl
  | idle hfailed | next hfailed => simp [hnone hfailed]
  | running hfailed hfirst =>
    rw [List.filter_append, hnone hfailed]
    simp [hfirst, Phase.result?]
  | resolved hfailed _ hfirst =>
    rw [List.filter_append, hnone hfailed]
    simp [hfirst, Phase.result?, Except.isOk, Except.toBool]

end Standing

namespace Batch

/-- In the course of a schedule, a poll finishes call `i` and finds its initializer to have that outcome. -/
def Outcome (start : Batch σ ε α) (schedule : List Nat) (i : Nat) (outcome : Except ε α) : Prop :=
  ∃ before after, schedule = before ++ i :: after ∧ (start.pollAll before).Finishes i outcome

def successes (b : Batch σ ε α) (k : String) : List Nat :=
  b.started.filter fun i => onKey (b.tasks.map (·.1)) k i && (b.result? i).any Except.isOk

def moments (b : Batch σ ε α) : List Nat → List (Memo α)
  | [] => [b.memo]
  | i :: rest => b.memo :: (b.poll i).moments rest

theorem orderly_outcome (s : σ) (m : Memo α) (calls : List (Call σ ε α)) (schedule : List Nat) :
    Orderly ((ofCalls s m calls).Outcome schedule) m calls schedule ((ofCalls s m calls).pollAll schedule) :=
  orderly_pollAll fun before _ after _ hsplit hfinishes => ⟨before, after, hsplit, hfinishes⟩

theorem length_successes (s : σ) (m : Memo α) (calls : List (Call σ ε α)) (schedule : List Nat) (k : String) :
    let b := (ofCalls s m calls).pollAll schedule
    (m.get? k).toList.length + (b.successes k).length = (b.memo.get? k).toList.length := by
  have h := orderly_outcome s m calls schedule
  have hlength := (h.standing k).length_successes
  simp only [List.filter_filter] at hlength
  simp only [successes, h.known, Bool.and_comm (onKey calls k _)]
  exact hlength

namespace Orderly

variable {m : Memo α} {calls : List (Call σ ε α)} {seen : List Nat} {b : Batch σ ε α}

theorem extends_moments (h : Orderly (fun _ _ => True) m calls seen b) (l : List Nat) :
    ∀ m' ∈ b.moments l, Extends b.memo m' := by
  induction l generalizing seen b with
  | nil =>
    intro m' hm'
    rw [List.mem_singleton.mp hm']
    exact .refl _
  | cons i l ih =>
    intro m' hm'
    rcases List.mem_cons.mp hm' with rfl | hm'
    · exact .refl _
    · exact (h.extends_pollAll [i]).trans (ih (h.poll fun _ _ => trivial) m' hm')

theorem moments_extends (h : Orderly (fun _ _ => True) m calls seen b) (l : List Nat) :
    ∀ m' ∈ b.moments l, Extends m' (b.pollAll l).memo := by
  induction l generalizing seen b with
  | nil =>
    intro m' hm'
    rw [List.mem_singleton.mp hm']
    exact .refl _
  | cons i l ih =>
    intro m' hm'
    rcases List.mem_cons.mp hm' with rfl | hm'
    · exact h.extends_pollAll (i :: l)
    · exact ih (h.poll fun _ _ => trivial) m' hm'

theorem pairwise_moments (h : Orderly (fun _ _ => True) m calls seen b) (l : List Nat) :
    (b.moments l).Pairwise Extends := by
  induction l generalizing seen b with
  | nil => exact List.pairwise_singleton _ _
  | cons i l ih =>
    have hpolled := h.poll (i := i) fun _ _ => trivial
    refine List.pairwise_cons.mpr ⟨fun m' hm' => ?_, ih hpolled⟩
    exact (h.extends_pollAll [i]).trans (hpolled.extends_moments l m' hm')

end Orderly

end Batch

/-! Batches one after another -/

/-- Batches one after another: the calls of each, and the order in which they are polled. -/
abbrev Plan (σ ε α : Type) := List (List (Call σ ε α) × List Nat)

namespace Plan

def batches (s : σ) (m : Memo α) : Plan σ ε α → List (Batch σ ε α)
  | [] => []
  | (calls, schedule) :: rest =>
    let b := (Batch.ofCalls s m calls).pollAll schedule
    b :: batches b.state b.memo rest

def moments (s : σ) (m : Memo α) : Plan σ ε α → List (Memo α)
  | [] => [m]
  | (calls, schedule) :: rest =>
    let b := (Batch.ofCalls s m calls).pollAll schedule
    (Batch.ofCalls s m calls).moments schedule ++ moments b.state b.memo rest

theorem successes_le_one (s : σ) (m : Memo α) (plan : Plan σ ε α) (k : String) :
    (m.get? k).toList.length + ((plan.batches s m).map fun b => (b.successes k).length).sum ≤ 1 := by
  induction plan generalizing s m with
  | nil => cases m.get? k <;> simp [batches]
  | cons batch rest ih =>
    obtain ⟨calls, schedule⟩ := batch
    rw [batches, List.map_cons, List.sum_cons, ← Nat.add_assoc, Batch.length_successes]
    exact ih _ _

theorem extends_moments (s : σ) (m : Memo α) (plan : Plan σ ε α) : ∀ m' ∈ plan.moments s m, Extends m m' := by
  induction plan generalizing s m with
  | nil =>
    intro m' hm'
    rw [List.mem_singleton.mp hm']
    exact .refl _
  | cons batch rest ih =>
    obtain ⟨calls, schedule⟩ := batch
    have h := Batch.orderly_ofCalls (fun _ _ => True) s m calls
    intro m' hm'
    rcases List.mem_append.mp hm' with hm' | hm'
    · exact h.extends_moments schedule m' hm'
    · exact (h.extends_pollAll schedule).trans (ih _ _ m' hm')

theorem pairwise_moments (s : σ) (m : Memo α) (plan : Plan σ ε α) : (plan.moments s m).Pairwise Extends := by
  induction plan generalizing s m with
  | nil => exact List.pairwise_singleton _ _
  | cons batch rest ih =>
    obtain ⟨calls, schedule⟩ := batch
    have h := Batch.orderly_ofCalls (fun _ _ => True) s m calls
    refine List.pairwise_append.mpr ⟨h.pairwise_moments schedule, ih _ _, fun m₁ hm₁ m₂ hm₂ => ?_⟩
    exact (h.moments_extends schedule m₁ hm₁).trans (extends_moments _ _ rest m₂ hm₂)

end Plan

/-- After any schedule of polls of a batch, on any memo: finished calls on a key have settled in the order in which they
were made, at most one initializer runs on the key, and while calls are unfinished one of them can go on, so that a run
finishes them all. Over batches one after another a key has at most one success, and a value that it has it keeps. -/
theorem pollAll_settles (s : σ) (m : Memo α) (calls : List (Call σ ε α)) (schedule : List Nat) (k : String) :
    let start := Batch.ofCalls s m calls
    let b := start.pollAll schedule
    let made := startOrder calls k schedule
    ((∀ i ∈ made, b.result? i ≠ none) →
      Settled (start.Outcome schedule) b.result? (m.get? k) made (b.started.filter (onKey calls k))
        (b.memo.get? k)) ∧
    (∀ i ∈ made, ∀ j ∈ made, ∀ left left', b.phase? i = some (.running left) → b.phase? j = some (.running left') →
      i = j) ∧
    (¬ b.Finished → ∃ j, b.CanProceed j) ∧
    start.run.Finished ∧
    ∀ plan : Plan σ ε α, ((plan.batches s m).map fun b => (b.successes k).length).sum ≤ 1 ∧
      (plan.moments s m).Pairwise fun m₁ m₂ => ∀ v, m₁.get? k = some v → m₂.get? k = some v := by
  have h := Batch.orderly_outcome s m calls schedule
  refine ⟨(h.standing k).settled, fun i hi j hj left left' => (h.standing k).eq_of_running hi hj, fun hunfinished => ?_,
    Batch.finished_run s m calls, fun plan => ⟨?_, ?_⟩⟩
  · obtain ⟨j, hgoes⟩ := h.exists_goesOn hunfinished
    exact ⟨j, hgoes.phase⟩
  · exact Nat.le_trans (Nat.le_add_left _ _) (Plan.successes_le_one s m plan k)
  · exact (Plan.pairwise_moments s m plan).imp fun hextends v => hextends k v

private def sampleCalls : List (Call Unit String Nat) :=
  [.ofOutcome "a" (.error "offline") 1, .ofOutcome "a" (.ok 7) 0, .ofOutcome "a" (.ok 9) 0]

private def sampleStart : Batch Unit String Nat := .ofCalls () .empty sampleCalls

/-- The third call is polled before the second one has succeeded, and is served later. -/
private def sampleSchedule : List Nat := [0, 1, 2, 0, 2, 1, 2]

theorem pollAll_settles_takeover :
    let b := sampleStart.pollAll sampleSchedule
    (b.result? 0 = some (.error "offline") ∧ b.result? 1 = some (.ok 7) ∧ b.result? 2 = some (.ok 7)) ∧
      Settled (sampleStart.Outcome sampleSchedule) b.result? none [0, 1, 2] [0, 1] (some 7) := by
  have hmade : startOrder sampleCalls "a" sampleSchedule = [0, 1, 2] := by decide
  have hbegun : (sampleStart.pollAll sampleSchedule).started.filter (onKey sampleCalls "a") = [0, 1] := by decide
  have hvalue : (sampleStart.pollAll sampleSchedule).memo.get? "a" = some 7 := by decide
  have hfirst : (sampleStart.pollAll sampleSchedule).result? 0 = some (.error "offline") := by decide
  have hsecond : (sampleStart.pollAll sampleSchedule).result? 1 = some (.ok 7) := by decide
  have hthird : (sampleStart.pollAll sampleSchedule).result? 2 = some (.ok 7) := by decide
  have hsettles := (pollAll_settles () .empty sampleCalls sampleSchedule "a").1
  rw [hmade, ← sampleStart, hbegun, hvalue] at hsettles
  refine ⟨⟨hfirst, hsecond, hthird⟩, hsettles fun i hi => ?_⟩
  simp only [List.mem_cons, List.not_mem_nil, or_false] at hi
  rcases hi with rfl | rfl | rfl
  · simp [hfirst]
  · simp [hsecond]
  · simp [hthird]

end RepoConventions.Memo
