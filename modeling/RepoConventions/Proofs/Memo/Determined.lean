import RepoConventions.Proofs.Memo.Settlement

/-!
# Initializers that only look

Where every initializer leaves the shared state as it is and succeeds, a finished batch has for each key that was called
on the value of one of its calls, whatever the schedule.
-/

namespace RepoConventions.Memo

variable {σ ε α : Type}

namespace Batch

variable {b : Batch σ ε α} {i : Nat} {call : Call σ ε α}

theorem advance_state (h : (call.compute b.state).2 = b.state) (left : Nat) :
    (b.advance i call left).state = b.state := by
  cases left with
  | succ left => rfl
  | zero =>
    rcases hcompute : call.compute b.state with ⟨outcome, state⟩
    rw [hcompute] at h
    cases outcome <;> simp only [advance, finish, hcompute, setLine] <;> exact h

theorem poll_state (h : ∀ task ∈ b.tasks, (task.1.compute b.state).2 = b.state) (i : Nat) :
    (b.poll i).state = b.state := by
  cases htask : b.tasks[i]? with
  | none => rw [poll_of_none htask]
  | some task =>
    obtain ⟨call, phase⟩ := task
    have hcall : (call.compute b.state).2 = b.state := h _ (List.mem_of_getElem? htask)
    cases phase with
    | done result => rw [poll_of_done htask]
    | running left =>
      simp only [poll, htask]
      exact advance_state hcall left
    | waiting =>
      simp only [poll, htask]
      split
      · rfl
      · split
        · exact advance_state (b := { b with started := b.started ++ [i] }) hcall call.yields
        · rfl
    | fresh =>
      simp only [poll, htask]
      split
      · rfl
      · exact advance_state (b := { ({ b with memo := b.memo.touch call.key }.setLine call.key [i]) with
          started := b.started ++ [i] }) hcall call.yields
      · rfl

theorem exists_schedule_rounds (b : Batch σ ε α) (n : Nat) : ∃ schedule, b.rounds n = b.pollAll schedule := by
  induction n generalizing b with
  | zero => exact ⟨[], rfl⟩
  | succ n ih =>
    obtain ⟨schedule, hschedule⟩ := ih b.round
    exact ⟨List.range b.tasks.length ++ schedule, by rw [pollAll_append, rounds, hschedule, round]⟩

end Batch

open Batch

/-- In that state every call leaves the state as it is and succeeds with a value that goes with its key. -/
def Determined (s : σ) (goesWith : String → α → Prop) (calls : List (Call σ ε α)) : Prop :=
  ∀ call ∈ calls, ∃ v, goesWith call.key v ∧ call.compute s = (.ok v, s)

namespace Determined

variable {s : σ} {goesWith : String → α → Prop} {calls : List (Call σ ε α)}

theorem state_pollAll (h : Determined s goesWith calls) (m : Memo α) (schedule : List Nat) :
    ((ofCalls s m calls).pollAll schedule).state = s := by
  induction schedule using List.reverseRecOn with
  | nil => rfl
  | append_singleton before i ih =>
    have hknown := ((orderly_ofCalls (fun _ _ => True) s m calls).pollAll before).known
    rw [pollAll_append]
    refine (poll_state (fun task htask => ?_) i).trans ih
    have hcall : task.1 ∈ calls := hknown ▸ List.mem_map_of_mem htask
    obtain ⟨v, -, hcompute⟩ := h task.1 hcall
    rw [ih, hcompute]

theorem orderly (h : Determined s goesWith calls) (m : Memo α) (schedule : List Nat) :
    Orderly (fun i outcome => ∃ call v, calls[i]? = some call ∧ goesWith call.key v ∧ outcome = .ok v) m calls schedule
      ((ofCalls s m calls).pollAll schedule) := by
  refine orderly_pollAll fun before i _ outcome _ hfinishes => ?_
  obtain ⟨-, -, call, phase, htask, rfl⟩ := hfinishes
  have hcall := ((orderly_ofCalls (fun _ _ => True) s m calls).pollAll before).call_of_task htask
  obtain ⟨v, hgoes, hcompute⟩ := h call (List.mem_of_getElem? hcall)
  exact ⟨call, v, hcall, hgoes, by rw [h.state_pollAll, hcompute]⟩

theorem get?_pollAll (h : Determined s goesWith calls) {m : Memo α} {schedule : List Nat}
    (hfinished : ((ofCalls s m calls).pollAll schedule).Finished) {call : Call σ ε α} (hcall : call ∈ calls)
    (hnone : m.get? call.key = none) :
    ∃ v, goesWith call.key v ∧ ((ofCalls s m calls).pollAll schedule).memo.get? call.key = some v := by
  have horderly := h.orderly m schedule
  generalize (ofCalls s m calls).pollAll schedule = b at hfinished horderly
  have htask {i : Nat} {c : Call σ ε α} (hi : calls[i]? = some c) :
      ∃ phase, b.tasks[i]? = some (c, phase) ∧ phase.result?.isSome := by
    rw [← horderly.known, List.getElem?_map] at hi
    obtain ⟨⟨c, phase⟩, htask, rfl⟩ := Option.map_eq_some_iff.mp hi
    exact ⟨phase, htask, hfinished _ (List.mem_of_getElem? htask)⟩
  obtain ⟨i, hi⟩ := List.mem_iff_getElem?.mp hcall
  obtain ⟨phase, htaski, hdone⟩ := htask hi
  have hmade : i ∈ startOrder calls call.key schedule := horderly.mem_startOrder htaski (by rintro rfl; cases hdone)
  have hkey {j : Nat} (hj : j ∈ startOrder calls call.key schedule) : ∃ c, calls[j]? = some c ∧ c.key = call.key := by
    have honKey := (mem_startOrder_iff.mp hj).2
    rw [onKey, Option.any_eq_true] at honKey
    simpa using honKey
  have hsettled := (horderly.standing call.key).settled fun j hj => by
    obtain ⟨c, hc, -⟩ := hkey hj
    obtain ⟨phase, htask, hresult⟩ := htask hc
    rw [phase?_of_task htask]
    exact Option.isSome_iff_ne_none.mp hresult
  rw [hnone] at hsettled
  generalize b.memo.get? call.key = found at hsettled
  generalize b.started.filter (onKey calls call.key) = begun at hsettled
  generalize startOrder calls call.key schedule = made at hsettled hmade hkey
  cases hsettled with
  | unresolved hfailed =>
    obtain ⟨e, ⟨c, v, -, -, he⟩, -⟩ := hfailed i hmade
    cases he
  | @resolved failed rest j v hfailed hown hserved =>
    obtain ⟨c, v, hc, hgoes, hv⟩ := hown
    obtain ⟨c', hc', hkey⟩ := hkey (j := j) (by simp)
    cases hc.symm.trans hc'
    cases hv
    exact ⟨v, hkey ▸ hgoes, rfl⟩

/-- The initializers that begin on a key: never more than one, and one for finished calls on a key without a value. -/
theorem length_begun (h : Determined s goesWith calls) (m : Memo α) (schedule : List Nat) (k : String) :
    let b := (ofCalls s m calls).pollAll schedule
    (b.started.filter (onKey calls k)).length ≤ 1 ∧
      (b.Finished → m.get? k = none → (∃ call ∈ calls, call.key = k) →
        (b.started.filter (onKey calls k)).length = 1) := by
  intro b
  have hown : ∀ (i : Nat) (e : ε), ¬ ∃ (call : Call σ ε α) (v : α),
      calls[i]? = some call ∧ goesWith call.key v ∧ Except.error e = .ok v := by
    rintro i e ⟨call, v, -, -, he⟩
    cases he
  obtain ⟨hle, hone⟩ := ((h.orderly m schedule).standing k).length_begun hown
  refine ⟨hle, ?_⟩
  rintro hfinished hnone ⟨call, hcall, rfl⟩
  obtain ⟨v, -, hv⟩ := h.get?_pollAll hfinished hcall hnone
  exact hone hnone (by simp [hv])

end Determined

end RepoConventions.Memo
