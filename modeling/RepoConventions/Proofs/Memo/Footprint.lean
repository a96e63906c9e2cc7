import RepoConventions.Proofs.Memo.Settlement

/-!
# What calls leave in a memo

A key has a cell from its first call on, whatever comes of the call. So a call that fails changes no value, but where
it is the first on its key the memo has one more cell after it.
-/

namespace RepoConventions.Memo

variable {σ ε α : Type}

/-- The key has a cell. -/
def Knows (m : Memo α) (key : String) : Prop := (m.cells.get? key).isSome = true

section

variable {m : Memo α} {key : String}

theorem knows_touch (m : Memo α) (key k : String) : (m.touch key).Knows k ↔ m.Knows k ∨ k = key := by
  by_cases h : (m.cells.get? key).isSome = true
  · rw [touch, if_pos h, iff_self_or]
    rintro rfl
    exact h
  · rw [touch, if_neg h, Knows, Knows, Text.Map.get?_insert]
    by_cases hk : k = key <;> simp [hk]

theorem knows_resolve (m : Memo α) (key k : String) (v : α) : (m.resolve key v).Knows k ↔ m.Knows k ∨ k = key := by
  rw [resolve, Knows, Knows, Text.Map.get?_insert]
  by_cases hk : k = key <;> simp [hk]

theorem touch_of_knows (h : m.Knows key) : m.touch key = m := if_pos h

theorem size_touch (h : ¬ m.Knows key) : (m.touch key).size = m.size + 1 := by
  have hnone : m.cells.get? key = none := by simpa [Knows] using h
  have htouch : m.touch key = ⟨m.cells.insert key none⟩ := if_neg h
  rw [htouch]
  exact Text.Map.length_keys_insert hnone none

theorem isEmpty_eq (m : Memo α) : m.isEmpty = decide (m.size = 0) := m.cells.isEmpty_eq

end

namespace Batch

variable {b : Batch σ ε α} {i : Nat} {call : Call σ ε α} {m : Memo α} {calls : List (Call σ ε α)}

/-- An initializer that goes on leaves no key without its cell and gives none a new one, if its own key has one. -/
theorem knows_advance (h : b.memo.Knows call.key) (left : Nat) (k : String) :
    (b.advance i call left).memo.Knows k ↔ b.memo.Knows k := by
  cases left with
  | succ left => exact Iff.rfl
  | zero =>
    rcases hcompute : call.compute b.state with ⟨outcome, state⟩
    cases outcome with
    | error e =>
      simp only [advance, finish, hcompute, setLine]
      exact Iff.rfl
    | ok v =>
      simp only [advance, finish, hcompute, setLine]
      rw [setPhase, knows_resolve, or_iff_left_iff_imp]
      rintro rfl
      exact h

theorem knows_poll {phase : Phase ε α} (htask : b.tasks[i]? = some (call, phase))
    (hknown : phase ≠ .fresh → b.memo.Knows call.key) (k : String) :
    (b.poll i).memo.Knows k ↔ b.memo.Knows k ∨ k = call.key := by
  have hsame (h : phase ≠ .fresh) : (b.memo.Knows k ↔ b.memo.Knows k ∨ k = call.key) := by
    rw [iff_self_or]
    rintro rfl
    exact hknown h
  cases phase with
  | done result =>
    rw [poll_of_done htask]
    exact hsame (by simp)
  | running left =>
    simp only [poll, htask]
    exact (knows_advance (hknown (by simp)) left k).trans (hsame (by simp))
  | waiting =>
    simp only [poll, htask]
    split
    · exact hsame (by simp)
    · split
      · exact (knows_advance (b := { b with started := b.started ++ [i] }) (hknown (by simp)) call.yields k).trans
          (hsame (by simp))
      · exact hsame (by simp)
  | fresh =>
    have htouched : (b.memo.touch call.key).Knows call.key := (knows_touch _ _ _).mpr (.inr rfl)
    rw [← knows_touch]
    simp only [poll, htask]
    split
    · exact Iff.rfl
    · exact knows_advance (b := { ({ b with memo := b.memo.touch call.key }.setLine call.key [i]) with
          started := b.started ++ [i] }) htouched call.yields k
    · exact Iff.rfl

/-- After any polls the keys with a cell are those that had one and those on which a call was polled. -/
theorem knows_pollAll (s : σ) (m : Memo α) (calls : List (Call σ ε α)) (schedule : List Nat) (k : String) :
    ((ofCalls s m calls).pollAll schedule).memo.Knows k ↔ m.Knows k ∨ ∃ i ∈ schedule, onKey calls k i := by
  induction schedule using List.reverseRecOn generalizing k with
  | nil => simp [pollAll, ofCalls]
  | append_singleton before i ih =>
    have horderly := (orderly_ofCalls (fun _ _ => True) s m calls).pollAll before
    rw [List.nil_append] at horderly
    rw [pollAll_append]
    generalize (ofCalls s m calls).pollAll before = b at ih horderly
    show (b.poll i).memo.Knows k ↔ _
    have hmade : (∃ j ∈ before ++ [i], onKey calls k j) ↔ (∃ j ∈ before, onKey calls k j) ∨ onKey calls k i := by
      simp [or_and_right, exists_or]
    cases htask : b.tasks[i]? with
    | none =>
      have hoff : onKey calls k i = false := by
        rw [onKey, ← horderly.known, List.getElem?_map, htask]
        rfl
      rw [poll_of_none htask, ih, hmade, hoff]
      simp
    | some task =>
      obtain ⟨call, phase⟩ := task
      have hon := Memo.onKey_of_task (k := k) (horderly.call_of_task htask)
      have hknown : phase ≠ .fresh → b.memo.Knows call.key := by
        intro hphase
        exact (ih call.key).mpr (.inr ⟨i, horderly.mem_seen htask hphase, horderly.onKey_of_task htask⟩)
      rw [knows_poll htask hknown, ih, hmade, hon, decide_eq_true_iff, or_assoc, @eq_comm _ k]

/-! A call alone whose initializer fails -/

/-- A batch of one call, which is still to be polled, or whose initializer runs, or has failed. -/
inductive FailsAlone (s : σ) (m : Memo α) (call : Call σ ε α) (e : ε) (b : Batch σ ε α) : Prop
  | fresh (hb : b = ofCalls s m [call])
  | running (left : Nat) (htasks : b.tasks = [(call, .running left)]) (hstate : b.state = s)
    (hmemo : b.memo = m.touch call.key)
  | failed (htasks : b.tasks = [(call, .done (.error e))]) (hmemo : b.memo = m.touch call.key)

namespace FailsAlone

variable {s : σ} {e : ε}

theorem advance (hfails : (call.compute s).1 = .error e) {phase : Phase ε α} (htasks : b.tasks = [(call, phase)])
    (hstate : b.state = s) (hmemo : b.memo = m.touch call.key) (left : Nat) :
    FailsAlone s m call e (b.advance 0 call left) := by
  cases left with
  | succ left => exact .running left (by simp [Batch.advance, setPhase, htasks]) hstate hmemo
  | zero =>
    rcases hcompute : call.compute s with ⟨outcome, state⟩
    obtain rfl : outcome = .error e := by rw [← hfails, hcompute]
    apply failed
    · simp [Batch.advance, finish, hstate, hcompute, setLine, setPhase, htasks]
    · simp [Batch.advance, finish, hstate, hcompute, setLine, setPhase, hmemo]

theorem exists_tasks (h : FailsAlone s m call e b) : ∃ phase, b.tasks = [(call, phase)] := by
  cases h with
  | fresh hb => exact ⟨.fresh, by rw [hb]; rfl⟩
  | running left htasks => exact ⟨.running left, htasks⟩
  | failed htasks => exact ⟨.done (.error e), htasks⟩

theorem poll (hfails : (call.compute s).1 = .error e) (hnone : m.get? call.key = none)
    (h : FailsAlone s m call e b) (i : Nat) : FailsAlone s m call e (b.poll i) := by
  by_cases hi : i = 0
  · subst hi
    cases h with
    | fresh hb =>
      have hget : (m.touch call.key).get? call.key = none := (get?_touch m call.key call.key).trans hnone
      have hpoll : b.poll 0 =
          (({ b with memo := b.memo.touch call.key } : Batch σ ε α).setLine call.key [0]).start 0 call := by
        subst hb
        simp [Batch.poll, ofCalls, hget, line, Text.Map.empty, Text.Map.get?]
      rw [hpoll]
      exact advance hfails (by rw [hb]; rfl) (by rw [hb]; rfl) (by rw [hb]; rfl) call.yields
    | running left htasks hstate hmemo =>
      have htask : b.tasks[0]? = some (call, .running left) := by rw [htasks]; rfl
      have hpoll : b.poll 0 = b.advance 0 call left := by simp only [Batch.poll, htask]
      rw [hpoll]
      exact advance hfails htasks hstate hmemo left
    | failed htasks hmemo =>
      have htask : b.tasks[0]? = some (call, .done (.error e)) := by rw [htasks]; rfl
      rw [poll_of_done htask]
      exact .failed htasks hmemo
  · obtain ⟨phase, htasks⟩ := h.exists_tasks
    have hother : b.tasks[i]? = none := by
      rw [htasks, List.getElem?_eq_none_iff, List.length_singleton]
      omega
    rw [poll_of_none hother]
    exact h

theorem pollAll (hfails : (call.compute s).1 = .error e) (hnone : m.get? call.key = none) (schedule : List Nat) :
    FailsAlone s m call e ((ofCalls s m [call]).pollAll schedule) := by
  induction schedule using List.reverseRecOn with
  | nil => exact .fresh rfl
  | append_singleton before i ih =>
    rw [pollAll_append]
    exact ih.poll hfails hnone i

theorem finished (h : FailsAlone s m call e b) (hdone : b.Finished) :
    b.result? 0 = some (.error e) ∧ b.memo = m.touch call.key := by
  have hresult {phase : Phase ε α} (htasks : b.tasks = [(call, phase)]) : phase.result?.isSome = true := by
    apply hdone (call, phase)
    rw [htasks]
    exact List.mem_cons_self
  cases h with
  | fresh hb => cases hresult (show b.tasks = [(call, .fresh)] by rw [hb]; rfl)
  | running left htasks => cases hresult htasks
  | failed htasks hmemo =>
    constructor
    · simp [result?, phase?, htasks, Phase.result?]
    · exact hmemo

end FailsAlone

end Batch

namespace Plan

open Batch

def left (s : σ) (m : Memo α) : Plan σ ε α → σ × Memo α
  | [] => (s, m)
  | (calls, schedule) :: rest =>
    let b := (ofCalls s m calls).pollAll schedule
    left b.state b.memo rest

def CallsOn (plan : Plan σ ε α) (key : String) : Prop := ∃ batch ∈ plan, ∃ i ∈ batch.2, onKey batch.1 key i

theorem knows_left (s : σ) (m : Memo α) (plan : Plan σ ε α) (key : String) :
    (plan.left s m).2.Knows key ↔ m.Knows key ∨ plan.CallsOn key := by
  induction plan generalizing s m with
  | nil => simp [left, CallsOn]
  | cons batch rest ih =>
    obtain ⟨calls, schedule⟩ := batch
    rw [left, ih, knows_pollAll, or_assoc]
    simp [CallsOn]

/-- A call alone that fails changes no value. If its key was called on before, the memo is of the same size after it,
whatever became of the earlier calls; otherwise the memo has one more cell and is not empty. -/
theorem memo_after_failure (s : σ) (plan : Plan σ ε α) (call : Call σ ε α) (schedule : List Nat) (e : ε)
    (hnone : (plan.left s .empty).2.get? call.key = none)
    (hfails : (call.compute (plan.left s .empty).1).1 = .error e)
    (hdone : ((ofCalls (plan.left s .empty).1 (plan.left s .empty).2 [call]).pollAll schedule).Finished) :
    let m := (plan.left s .empty).2
    let b := (ofCalls (plan.left s .empty).1 m [call]).pollAll schedule
    b.result? 0 = some (.error e) ∧ (∀ key, b.memo.get? key = m.get? key) ∧
      (plan.CallsOn call.key → b.memo.size = m.size ∧ b.memo.isEmpty = m.isEmpty) ∧
      (¬ plan.CallsOn call.key → b.memo.size = m.size + 1 ∧ b.memo.isEmpty = false) := by
  obtain ⟨hresult, hmemo⟩ := (FailsAlone.pollAll hfails hnone schedule).finished hdone
  have hknows : (plan.left s .empty).2.Knows call.key ↔ plan.CallsOn call.key := by
    rw [knows_left, or_iff_right]
    simp [Knows, Memo.empty, Text.Map.empty, Text.Map.get?]
  dsimp only
  rw [hmemo]
  refine ⟨hresult, get?_touch _ call.key, fun hcalled => ?_, fun hnew => ?_⟩
  · rw [touch_of_knows (hknows.mpr hcalled)]
    exact ⟨rfl, rfl⟩
  · have hsize : ((plan.left s .empty).2.touch call.key).size = (plan.left s .empty).2.size + 1 :=
      size_touch fun hknown => hnew (hknows.mp hknown)
    refine ⟨hsize, ?_⟩
    rw [isEmpty_eq, hsize]
    simp

private def offline (key : String) : Call Unit String Nat := .ofOutcome key (.error "offline") 1

/-- The memo after two failures, the one on the key of the first failure or on another key. -/
private def failedAgain (key : String) : Memo Nat :=
  ((ofCalls () (left () .empty [([offline "a"], [0, 0])]).2 [offline key]).pollAll [0, 0]).memo

theorem memo_after_failure_again : (failedAgain "a").get? "a" = none ∧ (failedAgain "a").size = 1 ∧
    (failedAgain "b").get? "b" = none ∧ (failedAgain "b").size = 2 ∧ (failedAgain "b").isEmpty = false := by
  let plan : Plan Unit String Nat := [([offline "a"], [0, 0])]
  have hcalled : plan.CallsOn "a" := ⟨_, List.mem_cons_self, 0, List.mem_cons_self, rfl⟩
  have hnew : ¬ plan.CallsOn "b" := by
    rintro ⟨batch, hbatch, i, hi, hon⟩
    obtain rfl : batch = ([offline "a"], [0, 0]) := by simpa [plan] using hbatch
    obtain rfl : i = 0 := by simpa using hi
    exact absurd hon (by decide)
  obtain ⟨-, hsame, hsize, -⟩ := memo_after_failure () plan (offline "a") [0, 0] "offline" (by decide) rfl (by decide)
  obtain ⟨-, hsame', -, hsize'⟩ := memo_after_failure () plan (offline "b") [0, 0] "offline" (by decide) rfl (by decide)
  exact ⟨hsame "a", (hsize hcalled).1, hsame' "b", (hsize' hnew).1, (hsize' hnew).2⟩

/-- A failed call leaves a trace in an empty memo, which is not empty after it. -/
theorem failure_leaves_cell :
    let b := (ofCalls () .empty [offline "a"]).pollAll [0, 0]
    b.results = [some (.error "offline")] ∧ (empty : Memo Nat).size = 0 ∧ b.memo.size = 1 ∧
      (empty : Memo Nat).isEmpty = true ∧ b.memo.isEmpty = false := by
  decide

end Plan

end RepoConventions.Memo
