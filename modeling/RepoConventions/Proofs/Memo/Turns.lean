import RepoConventions.Memo.Batch

/-!
# What one poll does

A poll touches one call and its key. It answers the call, puts it in line, or lets its initializer go on; where it does
none of these it does nothing.
-/

namespace RepoConventions.Memo

namespace Batch

variable {σ ε α : Type}

def phase? (b : Batch σ ε α) (i : Nat) : Option (Phase ε α) := b.tasks[i]?.map (·.2)

def result? (b : Batch σ ε α) (i : Nat) : Option (Except ε α) := (b.phase? i).bind Phase.result?

theorem phase?_of_task {b : Batch σ ε α} {i : Nat} {call : Call σ ε α} {phase : Phase ε α}
    (h : b.tasks[i]? = some (call, phase)) : b.phase? i = some phase := by
  rw [phase?, h]
  rfl

/-- One batch is another after a turn of call `i`, which is then in that phase, with these in line on its key, these
initializers begun and this value of the key. Nothing else of other calls and keys has changed. -/
structure Turned (b : Batch σ ε α) (i : Nat) (call : Call σ ε α) (phase : Phase ε α) (line begun : List Nat)
    (value : Option α) (b' : Batch σ ε α) : Prop where
  tasks : b'.tasks = b.tasks.set i (call, phase)
  line : ∀ k, b'.line k = if k = call.key then line else b.line k
  started : b'.started = b.started ++ begun
  value : ∀ k, b'.memo.get? k = if k = call.key then value else b.memo.get? k

/-- How an initializer with that outcome goes on that gives way so often: phase of its call, line and value after it. -/
inductive Advanced (outcome : Except ε α) (left : Nat) (line : List Nat) :
    Phase ε α → List Nat → Option α → Prop
  | givesWay {n : Nat} (hleft : left = n + 1) : Advanced outcome left line (.running n) line none
  | fails {e : ε} (hleft : left = 0) (houtcome : outcome = .error e) :
    Advanced outcome left line (.done (.error e)) line.tail none
  | succeeds {v : α} (hleft : left = 0) (houtcome : outcome = .ok v) :
    Advanced outcome left line (.done (.ok v)) [] (some v)

variable {b : Batch σ ε α} {i : Nat} {call : Call σ ε α}

/-- What a function has for a key may be looked at apart from the rest. -/
theorem eq_ite_of_eq {β : Type} {f : String → β} {key : String} {x : β} (h : f key = x) (k : String) :
    f k = if k = key then x else f k := by
  split
  · next hk => rw [hk, h]
  · rfl

theorem line_setLine (b : Batch σ ε α) (key : String) (l : List Nat) (k : String) :
    (b.setLine key l).line k = if k = key then l else b.line k := by
  by_cases hk : k = key <;> simp [line, setLine, Text.Map.get?_insert, hk]

theorem finish_turned (hvalue : b.memo.get? call.key = none) :
    ∃ phase line value, Advanced (call.compute b.state).1 0 (b.line call.key) phase line value ∧
      Turned b i call phase line [] value (b.finish i call) := by
  rcases hcompute : call.compute b.state with ⟨outcome, state⟩
  cases outcome with
  | error e =>
    refine ⟨_, _, _, .fails rfl rfl, ?_⟩
    have hfinish : b.finish i call =
        ({ b.setPhase i call (.done (.error e)) with state }).setLine call.key (b.line call.key).tail := by
      rw [finish, hcompute]
      rfl
    rw [hfinish]
    exact ⟨rfl, fun k => line_setLine _ _ _ k, (List.append_nil _).symm, eq_ite_of_eq hvalue⟩
  | ok v =>
    refine ⟨_, _, _, .succeeds rfl rfl, ?_⟩
    have hfinish : b.finish i call =
        { ({ b.setPhase i call (.done (.ok v)) with state }).setLine call.key [] with
          memo := b.memo.resolve call.key v } := by
      rw [finish, hcompute]
      rfl
    rw [hfinish]
    exact ⟨rfl, fun k => line_setLine _ _ _ k, (List.append_nil _).symm, fun k => get?_resolve _ _ k v⟩

theorem advance_turned (hvalue : b.memo.get? call.key = none) (left : Nat) :
    ∃ phase line value, Advanced (call.compute b.state).1 left (b.line call.key) phase line value ∧
      Turned b i call phase line [] value (b.advance i call left) := by
  cases left with
  | zero => exact finish_turned hvalue
  | succ n =>
    exact ⟨_, _, _, .givesWay rfl, rfl, eq_ite_of_eq rfl, (List.append_nil _).symm, eq_ite_of_eq hvalue⟩

theorem start_turned (hvalue : b.memo.get? call.key = none) :
    ∃ phase line value, Advanced (call.compute b.state).1 call.yields (b.line call.key) phase line value ∧
      Turned b i call phase line [i] value (b.start i call) := by
  have hstarted : { b with started := b.started ++ [i] }.memo.get? call.key = none := hvalue
  have hadvance : ∃ phase line value, Advanced (call.compute b.state).1 call.yields (b.line call.key) phase line value ∧
      Turned { b with started := b.started ++ [i] } i call phase line [] value (b.start i call) :=
    advance_turned hstarted call.yields
  obtain ⟨phase, line, value, hadvanced, hturned⟩ := hadvance
  refine ⟨phase, line, value, hadvanced, hturned.tasks, hturned.line, ?_, hturned.value⟩
  exact hturned.started.trans (List.append_nil _)

/-! The kinds of polls -/

theorem poll_of_none (h : b.tasks[i]? = none) : b.poll i = b := by rw [poll, h]

theorem poll_of_done {result : Except ε α} (h : b.tasks[i]? = some (call, .done result)) : b.poll i = b := by
  rw [poll, h]

theorem poll_answered {phase : Phase ε α} {v : α} (h : b.tasks[i]? = some (call, phase))
    (hphase : phase = .fresh ∨ phase = .waiting) (hvalue : b.memo.get? call.key = some v) :
    Turned b i call (.done (.ok v)) (b.line call.key) [] (some v) (b.poll i) := by
  have hline := eq_ite_of_eq (rfl : b.line call.key = b.line call.key)
  have hget := eq_ite_of_eq hvalue
  rcases hphase with rfl | rfl
  · have hpoll : b.poll i = { b with memo := b.memo.touch call.key }.setPhase i call (.done (.ok v)) := by
      simp only [poll, h, get?_touch, hvalue]
    rw [hpoll]
    exact ⟨rfl, hline, (List.append_nil _).symm, fun k => (get?_touch b.memo call.key k).trans (hget k)⟩
  · have hpoll : b.poll i = b.setPhase i call (.done (.ok v)) := by simp only [poll, h, hvalue]
    rw [hpoll]
    exact ⟨rfl, hline, (List.append_nil _).symm, hget⟩

theorem poll_queued (h : b.tasks[i]? = some (call, .fresh)) (hvalue : b.memo.get? call.key = none)
    (hline : b.line call.key ≠ []) :
    Turned b i call .waiting (b.line call.key ++ [i]) [] none (b.poll i) := by
  have hpoll : b.poll i = ({ b with memo := b.memo.touch call.key }.setLine call.key (b.line call.key ++ [i])).setPhase
      i call .waiting := by
    have htouch : ({ b with memo := b.memo.touch call.key } : Batch σ ε α).line call.key = b.line call.key := rfl
    simp only [poll, h, get?_touch, hvalue, htouch]
  rw [hpoll]
  refine ⟨rfl, fun k => ?_, (List.append_nil _).symm, fun k => ?_⟩
  · exact line_setLine { b with memo := b.memo.touch call.key } call.key (b.line call.key ++ [i]) k
  · exact (get?_touch b.memo call.key k).trans (eq_ite_of_eq hvalue k)

theorem poll_opened (h : b.tasks[i]? = some (call, .fresh)) (hvalue : b.memo.get? call.key = none)
    (hline : b.line call.key = []) :
    ∃ phase line value, Advanced (call.compute b.state).1 call.yields [i] phase line value ∧
      Turned b i call phase line [i] value (b.poll i) := by
  have htouch : ({ b with memo := b.memo.touch call.key } : Batch σ ε α).line call.key = b.line call.key := rfl
  have hpoll : b.poll i = ({ b with memo := b.memo.touch call.key }.setLine call.key [i]).start i call := by
    simp only [poll, h, get?_touch, hvalue, htouch, hline]
  have hvalue' : ({ b with memo := b.memo.touch call.key }.setLine call.key [i]).memo.get? call.key = none :=
    (get?_touch b.memo call.key call.key).trans hvalue
  obtain ⟨phase, line, value, hadvanced, hturned⟩ := start_turned (i := i) hvalue'
  rw [line_setLine, if_pos rfl] at hadvanced
  rw [hpoll]
  refine ⟨phase, line, value, hadvanced, hturned.tasks, fun k => ?_, hturned.started, fun k => ?_⟩
  · rw [hturned.line, line_setLine]
    split <;> rfl
  · rw [hturned.value]
    split
    · rfl
    · exact get?_touch b.memo call.key k

theorem poll_taken (h : b.tasks[i]? = some (call, .waiting)) (hvalue : b.memo.get? call.key = none)
    (hfirst : (b.line call.key).head? = some i) :
    ∃ phase line value, Advanced (call.compute b.state).1 call.yields (b.line call.key) phase line value ∧
      Turned b i call phase line [i] value (b.poll i) := by
  have hpoll : b.poll i = b.start i call := by simp only [poll, h, hvalue, hfirst, if_pos]
  rw [hpoll]
  exact start_turned hvalue

theorem poll_of_not_first (h : b.tasks[i]? = some (call, .waiting)) (hvalue : b.memo.get? call.key = none)
    (hfirst : (b.line call.key).head? ≠ some i) : b.poll i = b := by
  simp only [poll, h, hvalue, if_neg hfirst]

theorem poll_advanced {left : Nat} (h : b.tasks[i]? = some (call, .running left))
    (hvalue : b.memo.get? call.key = none) :
    ∃ phase line value, Advanced (call.compute b.state).1 left (b.line call.key) phase line value ∧
      Turned b i call phase line [] value (b.poll i) := by
  have hpoll : b.poll i = b.advance i call left := by simp only [poll, h]
  rw [hpoll]
  exact advance_turned hvalue left

theorem Turned.phase? {phase : Phase ε α} {line begun : List Nat} {value : Option α} {b' : Batch σ ε α}
    (h : Turned b i call phase line begun value b') (hi : i < b.tasks.length) (j : Nat) :
    b'.phase? j = if j = i then some phase else b.phase? j := by
  unfold Batch.phase?
  rw [h.tasks, List.getElem?_set]
  by_cases hj : j = i
  · subst hj
    simp [hi]
  · simp [hj, Ne.symm hj]

end Batch

end RepoConventions.Memo
