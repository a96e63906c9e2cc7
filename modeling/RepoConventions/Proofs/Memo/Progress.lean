import Mathlib.Algebra.GroupWithZero.Nat
import RepoConventions.Proofs.Memo.Order

/-!
# Every batch comes to an end

A poll either does nothing or lets one call go on, and while a call is unfinished there is one that can go on. So the
rounds of a run finish all calls.
-/

namespace RepoConventions.Memo

variable {σ ε α : Type}

/-- How many turns a call can still have whose initializer gives way so often. -/
def Phase.turnsLeft (yields : Nat) : Phase ε α → Nat
  | fresh => yields + 2
  | waiting => yields + 1
  | running left => left + 1
  | done _ => 0

def Extends (m m' : Memo α) : Prop := ∀ k v, m.get? k = some v → m'.get? k = some v

theorem Extends.refl (m : Memo α) : Extends m m := fun _ _ h => h

theorem Extends.trans {m m' m'' : Memo α} (h : Extends m m') (h' : Extends m' m'') : Extends m m'' :=
  fun k v hv => h' k v (h k v hv)

namespace Batch

def turnsLeft (b : Batch σ ε α) : Nat := (b.tasks.map fun t => t.2.turnsLeft t.1.yields).sum

/-- A poll of call `j` lets it go on. -/
def CanProceed (b : Batch σ ε α) (j : Nat) : Prop := (b.poll j).phase? j ≠ b.phase? j

def Finished (b : Batch σ ε α) : Prop := ∀ t ∈ b.tasks, t.2.result?.isSome

instance (b : Batch σ ε α) : Decidable b.Finished := inferInstanceAs (Decidable (∀ t ∈ b.tasks, t.2.result?.isSome))

variable {own : Nat → Except ε α → Prop} {m : Memo α} {calls : List (Call σ ε α)} {seen : List Nat}
  {b b' : Batch σ ε α} {i : Nat} {call : Call σ ε α}

theorem Advanced.turnsLeft_lt {outcome : Except ε α} {left yields : Nat} {line line' : List Nat} {phase : Phase ε α}
    {value : Option α} (h : Advanced outcome left line phase line' value) : phase.turnsLeft yields < left + 1 := by
  cases h with
  | givesWay hleft =>
    rw [Phase.turnsLeft, hleft]
    exact Nat.lt_succ_self _
  | fails | succeeds => exact Nat.succ_pos left

theorem sum_set_lt {l : List Nat} {i n n' : Nat} (h : l[i]? = some n) (hn : n' < n) : (l.set i n').sum < l.sum := by
  induction l generalizing i with
  | nil => cases h
  | cons x l ih =>
    cases i with
    | zero =>
      cases h
      simpa using hn
    | succ i => simpa using ih h

theorem Turned.turnsLeft_lt {phase₀ phase : Phase ε α} {line begun : List Nat} {value : Option α}
    (h : Turned b i call phase line begun value b') (htask : b.tasks[i]? = some (call, phase₀))
    (hlt : phase.turnsLeft call.yields < phase₀.turnsLeft call.yields) : b'.turnsLeft < b.turnsLeft := by
  rw [turnsLeft, turnsLeft, h.tasks, List.map_set]
  exact sum_set_lt (by rw [List.getElem?_map, htask]; rfl) hlt

/-- A turn that lets a call go on: fewer turns are left, the call has changed, and values of keys stay. -/
structure GoesOn (b : Batch σ ε α) (i : Nat) (b' : Batch σ ε α) : Prop where
  turnsLeft : b'.turnsLeft < b.turnsLeft
  phase : b'.phase? i ≠ b.phase? i
  memo : Extends b.memo b'.memo

theorem Turned.goesOn {phase₀ phase : Phase ε α} {line begun : List Nat} {value : Option α}
    (h : Turned b i call phase line begun value b') (htask : b.tasks[i]? = some (call, phase₀))
    (hlt : phase.turnsLeft call.yields < phase₀.turnsLeft call.yields)
    (hvalue : ∀ v, b.memo.get? call.key = some v → value = some v) : GoesOn b i b' where
  turnsLeft := h.turnsLeft_lt htask hlt
  phase heq := by
    rw [h.phase? (List.getElem?_eq_some_iff.mp htask).1, if_pos rfl, phase?_of_task htask] at heq
    cases heq
    exact Nat.lt_irrefl _ hlt
  memo k v hv := by
    rw [h.value]
    split
    · next hk =>
      subst hk
      exact hvalue v hv
    · exact hv

theorem poll_goesOn_of_fresh (htask : b.tasks[i]? = some (call, .fresh)) : GoesOn b i (b.poll i) := by
  cases hvalue : b.memo.get? call.key with
  | some v =>
    refine (poll_answered htask (.inl rfl) hvalue).goesOn htask (Nat.succ_pos _) fun w hw => ?_
    exact hvalue.symm.trans hw
  | none =>
    have hnone {value : Option α} : ∀ v, b.memo.get? call.key = some v → value = some v := by simp [hvalue]
    by_cases hline : b.line call.key = []
    · obtain ⟨p, line, value, hadvanced, hturned⟩ := poll_opened htask hvalue hline
      exact hturned.goesOn htask (Nat.lt_succ_of_lt hadvanced.turnsLeft_lt) hnone
    · exact (poll_queued htask hvalue hline).goesOn htask (Nat.lt_succ_self _) hnone

theorem poll_goesOn_of_waiting (htask : b.tasks[i]? = some (call, .waiting))
    (hturn : b.memo.get? call.key ≠ none ∨ (b.line call.key).head? = some i) : GoesOn b i (b.poll i) := by
  cases hvalue : b.memo.get? call.key with
  | some v =>
    refine (poll_answered htask (.inr rfl) hvalue).goesOn htask (Nat.succ_pos _) fun w hw => ?_
    exact hvalue.symm.trans hw
  | none =>
    obtain ⟨p, line, value, hadvanced, hturned⟩ := poll_taken htask hvalue (hturn.resolve_left fun h => h hvalue)
    exact hturned.goesOn htask hadvanced.turnsLeft_lt (by simp [hvalue])

namespace Orderly

theorem poll_goesOn_of_running (h : Orderly own m calls seen b) {left : Nat}
    (htask : b.tasks[i]? = some (call, .running left)) : GoesOn b i (b.poll i) := by
  have hvalue := h.get?_of_running htask
  obtain ⟨p, line, value, hadvanced, hturned⟩ := poll_advanced htask hvalue
  exact hturned.goesOn htask hadvanced.turnsLeft_lt (by simp [hvalue])

theorem poll_eq_or_goesOn (h : Orderly own m calls seen b) (i : Nat) : b.poll i = b ∨ GoesOn b i (b.poll i) := by
  cases htask : b.tasks[i]? with
  | none => exact .inl (poll_of_none htask)
  | some task =>
    obtain ⟨call, phase⟩ := task
    cases phase with
    | done result => exact .inl (poll_of_done htask)
    | fresh => exact .inr (poll_goesOn_of_fresh htask)
    | running left => exact .inr (h.poll_goesOn_of_running htask)
    | waiting =>
      by_cases hturn : b.memo.get? call.key ≠ none ∨ (b.line call.key).head? = some i
      · exact .inr (poll_goesOn_of_waiting htask hturn)
      · obtain ⟨hvalue, hfirst⟩ := not_or.mp hturn
        exact .inl (poll_of_not_first htask (not_not.mp hvalue) hfirst)

theorem exists_goesOn_of_waiting (h : Orderly own m calls seen b) (htask : b.tasks[i]? = some (call, .waiting)) :
    ∃ j, GoesOn b j (b.poll j) := by
  have hmem := h.mem_startOrder htask (by simp)
  have hwaiting := phase?_of_task htask
  have hstanding := h.standing call.key
  have hkey {j : Nat} (hj : j ∈ startOrder calls call.key seen) {phase : Phase ε α} (hphase : b.phase? j = some phase) :
      ∃ c, b.tasks[j]? = some (c, phase) ∧ c.key = call.key := by
    obtain ⟨⟨c, p⟩, htask, rfl⟩ := Option.map_eq_some_iff.mp hphase
    have hon := (mem_startOrder_iff.mp hj).2
    rw [Memo.onKey_of_task (h.call_of_task htask)] at hon
    exact ⟨c, htask, of_decide_eq_true hon⟩
  generalize horder : startOrder calls call.key seen = order at hstanding hmem hkey
  generalize hbegun : b.started.filter (onKey calls call.key) = begun at hstanding
  generalize hline : b.line call.key = line at hstanding
  generalize hvalue : b.memo.get? call.key = value at hstanding
  generalize m.get? call.key = first at hstanding
  cases hstanding with
  | kept => exact ⟨i, poll_goesOn_of_waiting htask (.inl (by simp [hvalue]))⟩
  | resolved => exact ⟨i, poll_goesOn_of_waiting htask (.inl (by simp [hvalue]))⟩
  | idle hfailed => exact absurd rfl (hfailed.ne hwaiting rfl i hmem)
  | @next failed rest j hfailed hfirst hrest =>
    obtain ⟨c, hc, hckey⟩ := hkey (by simp) hfirst
    exact ⟨j, poll_goesOn_of_waiting hc (.inr (by rw [hckey, hline]; rfl))⟩
  | @running failed rest j left hfailed hfirst hrest =>
    obtain ⟨c, hc, -⟩ := hkey (by simp) hfirst
    exact ⟨j, h.poll_goesOn_of_running hc⟩

/-- While a call is unfinished, some call can go on. -/
theorem exists_goesOn (h : Orderly own m calls seen b) (hunfinished : ¬ b.Finished) : ∃ j, GoesOn b j (b.poll j) := by
  simp only [Finished, not_forall] at hunfinished
  obtain ⟨⟨call, phase⟩, hmem, hphase⟩ := hunfinished
  obtain ⟨i, hi⟩ := List.mem_iff_getElem?.mp hmem
  cases phase with
  | done result => exact absurd rfl hphase
  | fresh => exact ⟨i, poll_goesOn_of_fresh hi⟩
  | running left => exact ⟨i, h.poll_goesOn_of_running hi⟩
  | waiting => exact h.exists_goesOn_of_waiting hi

theorem pollAll (h : Orderly (fun _ _ => True) m calls seen b) (l : List Nat) :
    Orderly (fun _ _ => True) m calls (seen ++ l) (b.pollAll l) := by
  induction l generalizing seen b with
  | nil =>
    rw [List.append_nil]
    exact h
  | cons i l ih =>
    rw [List.append_cons]
    exact ih (h.poll fun _ _ => trivial)

theorem extends_pollAll (h : Orderly (fun _ _ => True) m calls seen b) (l : List Nat) :
    Extends b.memo (b.pollAll l).memo := by
  induction l generalizing seen b with
  | nil => exact .refl _
  | cons i l ih =>
    have hlater := ih (h.poll (i := i) fun _ _ => trivial)
    rcases h.poll_eq_or_goesOn i with heq | hgoes
    · rw [heq] at hlater
      rw [Batch.pollAll, List.foldl_cons, heq]
      exact hlater
    · exact hgoes.memo.trans hlater

theorem turnsLeft_pollAll_le (h : Orderly (fun _ _ => True) m calls seen b) (l : List Nat) :
    (b.pollAll l).turnsLeft ≤ b.turnsLeft := by
  induction l generalizing seen b with
  | nil => exact Nat.le_refl _
  | cons i l ih =>
    refine Nat.le_trans (ih (h.poll (i := i) fun _ _ => trivial)) ?_
    rcases h.poll_eq_or_goesOn i with heq | hgoes
    · exact Nat.le_of_eq (congrArg turnsLeft heq)
    · exact Nat.le_of_lt hgoes.turnsLeft

/-- Polls among which is one of a call that can go on leave fewer turns. -/
theorem turnsLeft_pollAll_lt (h : Orderly (fun _ _ => True) m calls seen b) {l : List Nat} {j : Nat} (hj : j ∈ l)
    (hgoes : GoesOn b j (b.poll j)) : (b.pollAll l).turnsLeft < b.turnsLeft := by
  induction l generalizing seen with
  | nil => cases hj
  | cons i l ih =>
    have hpolled := h.poll (i := i) fun _ _ => trivial
    rcases h.poll_eq_or_goesOn i with heq | hi
    · rw [Batch.pollAll, List.foldl_cons, heq]
      rcases List.mem_cons.mp hj with rfl | hj
      · exact absurd rfl (heq ▸ hgoes.phase)
      · exact ih (heq ▸ hpolled) hj
    · exact Nat.lt_of_le_of_lt (hpolled.turnsLeft_pollAll_le l) hi.turnsLeft

end Orderly

theorem turnsLeft_of_finished (h : b.Finished) : b.turnsLeft = 0 := by
  rw [turnsLeft, List.sum_eq_zero_iff_forall_eq_nat]
  intro n hn
  obtain ⟨⟨call, phase⟩, hmem, rfl⟩ := List.mem_map.mp hn
  have hphase := h _ hmem
  cases phase with
  | done result => rfl
  | fresh | waiting | running left => cases hphase

theorem mem_range_of_goesOn (h : GoesOn b i (b.poll i)) : i ∈ List.range b.tasks.length := by
  rw [List.mem_range]
  by_contra hi
  exact h.phase (by rw [poll_of_none (List.getElem?_eq_none (Nat.le_of_not_lt hi))])

/-- As many rounds as there are turns left finish all calls. -/
theorem Orderly.finished_rounds (h : Orderly (fun _ _ => True) m calls seen b) {n : Nat} (hn : b.turnsLeft ≤ n) :
    (b.rounds n).Finished := by
  induction n generalizing seen b with
  | zero =>
    by_contra hunfinished
    obtain ⟨j, hgoes⟩ := h.exists_goesOn hunfinished
    exact Nat.not_lt_zero _ (Nat.lt_of_lt_of_le hgoes.turnsLeft hn)
  | succ n ih =>
    refine ih (h.pollAll (List.range b.tasks.length)) ?_
    by_cases hfinished : b.Finished
    · have hle := h.turnsLeft_pollAll_le (List.range b.tasks.length)
      rw [turnsLeft_of_finished hfinished] at hle
      exact Nat.le_trans hle (Nat.zero_le n)
    · obtain ⟨j, hgoes⟩ := h.exists_goesOn hfinished
      have hlt := h.turnsLeft_pollAll_lt (mem_range_of_goesOn hgoes) hgoes
      exact Nat.le_of_lt_succ (Nat.lt_of_lt_of_le hlt hn)

theorem turnsLeft_ofCalls (s : σ) (m : Memo α) (calls : List (Call σ ε α)) :
    (ofCalls s m calls).turnsLeft = (ofCalls s m calls).roundsNeeded := by
  rw [turnsLeft, roundsNeeded, ofCalls]
  induction calls with
  | nil => rfl
  | cons call calls ih => exact congrArg (call.yields + 2 + ·) ih

theorem finished_run (s : σ) (m : Memo α) (calls : List (Call σ ε α)) : (ofCalls s m calls).run.Finished :=
  (orderly_ofCalls _ s m calls).finished_rounds (Nat.le_of_eq (turnsLeft_ofCalls s m calls))

end Batch

end RepoConventions.Memo
