import Mathlib.Data.List.Induction
import RepoConventions.Proofs.Memo.Standing

/-!
# Batches are orderly

However the calls of a batch are polled, on each key they stand in the order in which they were made. One poll keeps
that, and so does every schedule of polls.
-/

namespace RepoConventions.Memo

theorem eraseDups_append_singleton {β : Type} [DecidableEq β] (l : List β) (b : β) :
    (l ++ [b]).eraseDups = if b ∈ l then l.eraseDups else l.eraseDups ++ [b] := by
  have hone : [b].eraseDups = [b] := by simp [List.eraseDups_cons]
  by_cases h : b ∈ l <;> simp [List.eraseDups_append, List.removeAll, h, hone]

variable {σ ε α : Type}

def onKey (calls : List (Call σ ε α)) (k : String) (i : Nat) : Bool := calls[i]?.any (·.key = k)

/-- The calls on a key in the order in which they were first polled. -/
def startOrder (calls : List (Call σ ε α)) (k : String) (schedule : List Nat) : List Nat :=
  (schedule.filter (onKey calls k)).eraseDups

section

variable {calls : List (Call σ ε α)} {k : String} {i : Nat}

theorem onKey_of_task {call : Call σ ε α} (h : calls[i]? = some call) : onKey calls k i = decide (call.key = k) := by
  rw [onKey, h]
  rfl

theorem mem_startOrder_iff {seen : List Nat} : i ∈ startOrder calls k seen ↔ i ∈ seen ∧ onKey calls k i := by
  rw [startOrder, List.mem_eraseDups, List.mem_filter]

theorem startOrder_append_new {seen : List Nat} (hkey : onKey calls k i) (hnew : i ∉ seen) :
    startOrder calls k (seen ++ [i]) = startOrder calls k seen ++ [i] := by
  simp [startOrder, hkey, eraseDups_append_singleton, hnew]

theorem startOrder_append_old {seen : List Nat} (h : onKey calls k i → i ∈ seen) :
    startOrder calls k (seen ++ [i]) = startOrder calls k seen := by
  by_cases hkey : onKey calls k i
  · simp [startOrder, hkey, eraseDups_append_singleton, h hkey]
  · simp [startOrder, hkey]

theorem nodup_startOrder (calls : List (Call σ ε α)) (k : String) (seen : List Nat) :
    (startOrder calls k seen).Nodup := by
  induction seen using List.reverseRecOn with
  | nil => exact List.nodup_nil
  | append_singleton seen i ih =>
    by_cases h : onKey calls k i ∧ i ∉ seen
    · rw [startOrder_append_new h.1 h.2]
      refine List.nodup_append.mpr ⟨ih, List.pairwise_singleton _ i, fun j hj l hl => ?_⟩
      rw [List.mem_singleton.mp hl]
      exact ne_of_mem_of_not_mem (mem_startOrder_iff.mp hj).1 h.2
    · rw [startOrder_append_old fun hkey => by_contra fun hnew => h ⟨hkey, hnew⟩]
      exact ih

end

namespace Batch

/-- After the polls in `seen`, the calls on every key stand in the order in which they were made. -/
structure Orderly (own : Nat → Except ε α → Prop) (m : Memo α) (calls : List (Call σ ε α)) (seen : List Nat)
    (b : Batch σ ε α) : Prop where
  known : b.tasks.map (·.1) = calls
  fresh : ∀ i call phase, b.tasks[i]? = some (call, phase) → (phase = .fresh ↔ i ∉ seen)
  standing : ∀ k, Standing own b.phase? (m.get? k) (startOrder calls k seen) (b.started.filter (onKey calls k))
    (b.line k) (b.memo.get? k)

/-- The poll of call `i` finishes it, and in the state that the poll finds its initializer has that outcome. -/
def Finishes (b : Batch σ ε α) (i : Nat) (outcome : Except ε α) : Prop :=
  b.result? i = none ∧ (b.poll i).result? i ≠ none ∧
    ∃ call phase, b.tasks[i]? = some (call, phase) ∧ outcome = (call.compute b.state).1

variable {own : Nat → Except ε α → Prop} {m : Memo α} {calls : List (Call σ ε α)} {seen : List Nat}
  {b b' : Batch σ ε α} {i : Nat} {call : Call σ ε α}

theorem orderly_ofCalls (own : Nat → Except ε α → Prop) (s : σ) (m : Memo α) (calls : List (Call σ ε α)) :
    Orderly own m calls [] (ofCalls s m calls) where
  known := by simp [ofCalls, Function.comp_def]
  fresh i call phase h := by
    simp only [ofCalls, List.getElem?_map, Option.map_eq_some_iff] at h
    obtain ⟨c, -, heq⟩ := h
    cases heq
    simp
  standing k := by
    change Standing own _ (m.get? k) [] [] [] (m.get? k)
    cases m.get? k with
    | none => exact .idle fun i hi => absurd hi List.not_mem_nil
    | some v => exact .kept fun i hi => absurd hi List.not_mem_nil

namespace Orderly

theorem call_of_task (h : Orderly own m calls seen b) {phase : Phase ε α} (htask : b.tasks[i]? = some (call, phase)) :
    calls[i]? = some call := by
  rw [← h.known, List.getElem?_map, htask]
  rfl

theorem idle (h : Orderly own m calls seen b) (hi : b.tasks[i]? = none ∨ i ∈ seen) :
    Orderly own m calls (seen ++ [i]) b where
  known := h.known
  fresh j c phase htask := by
    rw [h.fresh j c phase htask, List.mem_append, List.mem_singleton, not_or, iff_self_and]
    rintro hnew rfl
    rcases hi with hi | hi
    · rw [hi] at htask
      cases htask
    · exact hnew hi
  standing k := by
    rw [startOrder_append_old fun hkey => ?_]
    · exact h.standing k
    · rcases hi with hi | hi
      · rw [onKey, ← h.known, List.getElem?_map, hi] at hkey
        cases hkey
      · exact hi

/-- After a turn of a call, the calls on its key are to stand as they should; those on others are as before. -/
theorem turn (h : Orderly own m calls seen b) {phase₀ phase : Phase ε α} (htask : b.tasks[i]? = some (call, phase₀))
    {line begun : List Nat} {value : Option α} (hturned : Turned b i call phase line begun value b')
    (hphase : phase ≠ .fresh) (hbegun : ∀ j ∈ begun, j = i)
    (hkey : Standing own b'.phase? (m.get? call.key) (startOrder calls call.key (seen ++ [i]))
      (b.started.filter (onKey calls call.key) ++ begun) line value) :
    Orderly own m calls (seen ++ [i]) b' := by
  have hi : i < b.tasks.length := (List.getElem?_eq_some_iff.mp htask).1
  obtain ⟨hi', hcall⟩ := List.getElem?_eq_some_iff.mp (h.call_of_task htask)
  have hon (k : String) : onKey calls k i = decide (call.key = k) := Memo.onKey_of_task (h.call_of_task htask)
  refine ⟨?_, fun j c p hj => ?_, fun k => ?_⟩
  · rw [hturned.tasks, List.map_set, h.known, ← hcall]
    exact List.set_getElem_self hi'
  · rw [hturned.tasks, List.getElem?_set] at hj
    by_cases hij : i = j
    · subst hij
      rw [if_pos rfl, if_pos hi] at hj
      cases hj
      simp [hphase]
    · rw [if_neg hij] at hj
      rw [h.fresh j c p hj, List.mem_append, List.mem_singleton, not_or, iff_self_and]
      exact fun _ hji => hij hji.symm
  · rw [hturned.line, hturned.value, hturned.started, List.filter_append]
    by_cases hk : k = call.key
    · subst hk
      have hall : begun.filter (onKey calls call.key) = begun :=
        List.filter_eq_self.mpr fun j hj => by rw [hbegun j hj, hon, decide_eq_true rfl]
      rw [if_pos rfl, if_pos rfl, hall]
      exact hkey
    · have hoff : onKey calls k i = false := by
        rw [hon]
        exact decide_eq_false (Ne.symm hk)
      have hnone : begun.filter (onKey calls k) = [] :=
        List.filter_eq_nil_iff.mpr fun j hj => by simp [hbegun j hj, hoff]
      rw [if_neg hk, if_neg hk, hnone, List.append_nil, startOrder_append_old fun hkey => by simp [hoff] at hkey]
      refine (h.standing k).congr fun j hj => ?_
      rw [hturned.phase? hi, if_neg]
      rintro rfl
      simpa [hoff] using (mem_startOrder_iff.mp hj).2

theorem mem_seen (h : Orderly own m calls seen b) {phase : Phase ε α} (htask : b.tasks[i]? = some (call, phase))
    (hphase : phase ≠ .fresh) : i ∈ seen :=
  by_contra fun hnew => hphase ((h.fresh i call phase htask).mpr hnew)

theorem onKey_of_task (h : Orderly own m calls seen b) {phase : Phase ε α} (htask : b.tasks[i]? = some (call, phase)) :
    onKey calls call.key i := by
  rw [Memo.onKey_of_task (h.call_of_task htask), decide_eq_true rfl]

theorem own_of_turned (hown : ∀ outcome, b.Finishes i outcome → own i outcome) {phase p : Phase ε α}
    (htask : b.tasks[i]? = some (call, phase)) (hphase : phase.result? = none) {line begun : List Nat}
    {value : Option α} (hturned : Turned b i call p line begun value (b.poll i)) (hp : p.result?.isSome) :
    own i (call.compute b.state).1 := by
  refine hown _ ⟨?_, ?_, call, phase, htask, rfl⟩
  · rw [result?, phase?_of_task htask]
    exact hphase
  · rw [result?, hturned.phase? (List.getElem?_eq_some_iff.mp htask).1, if_pos rfl]
    exact Option.isSome_iff_ne_none.mp hp

theorem poll_fresh (h : Orderly own m calls seen b) (hown : ∀ outcome, b.Finishes i outcome → own i outcome)
    (htask : b.tasks[i]? = some (call, .fresh)) : Orderly own m calls (seen ++ [i]) (b.poll i) := by
  have hi : i < b.tasks.length := (List.getElem?_eq_some_iff.mp htask).1
  have hnew : i ∉ seen := (h.fresh i call _ htask).mp rfl
  have hnew' : i ∉ startOrder calls call.key seen := fun hmem => hnew (mem_startOrder_iff.mp hmem).1
  have horder := startOrder_append_new (h.onKey_of_task htask) hnew
  have hstanding := h.standing call.key
  cases hvalue : b.memo.get? call.key with
  | some v =>
    have hturned := poll_answered htask (.inl rfl) hvalue
    refine h.turn htask hturned (by simp) (by simp) ?_
    rw [hvalue] at hstanding
    rw [horder, List.append_nil]
    exact hstanding.serve_new (hturned.phase? hi) hnew'
  | none =>
    rw [hvalue] at hstanding
    by_cases hline : b.line call.key = []
    · -- with nobody in line, the call is put there and begins at once
      obtain ⟨p, line, value, hadvanced, hturned⟩ := poll_opened htask hvalue hline
      refine h.turn htask hturned (by cases hadvanced <;> simp) (by simp) ?_
      rw [hline] at hstanding
      have hphase : ∀ j, (fun j => if j = i then some .waiting else b.phase? j) j =
          if j = i then some .waiting else b.phase? j := fun j => rfl
      have hwaits := hstanding.queue hphase hnew'
      rw [← horder] at hwaits
      refine hwaits.take (nodup_startOrder calls call.key _) rfl (if_pos rfl) hadvanced
        (own_of_turned hown htask rfl hturned) fun j => ?_
      rw [hturned.phase? hi]
      split <;> rfl
    · have hturned := poll_queued htask hvalue hline
      refine h.turn htask hturned (by simp) (by simp) ?_
      rw [horder, List.append_nil]
      exact hstanding.queue (hturned.phase? hi) hnew'

theorem poll_waiting (h : Orderly own m calls seen b) (hown : ∀ outcome, b.Finishes i outcome → own i outcome)
    (htask : b.tasks[i]? = some (call, .waiting)) : Orderly own m calls (seen ++ [i]) (b.poll i) := by
  have hi : i < b.tasks.length := (List.getElem?_eq_some_iff.mp htask).1
  have hold : i ∈ seen := h.mem_seen htask (by simp)
  have horder : startOrder calls call.key (seen ++ [i]) = startOrder calls call.key seen :=
    startOrder_append_old fun _ => hold
  have hstanding := h.standing call.key
  cases hvalue : b.memo.get? call.key with
  | some v =>
    have hturned := poll_answered htask (.inr rfl) hvalue
    refine h.turn htask hturned (by simp) (by simp) ?_
    rw [hvalue] at hstanding
    rw [horder, List.append_nil]
    exact hstanding.serve_waiting (phase?_of_task htask) (hturned.phase? hi)
  | none =>
    rw [hvalue] at hstanding
    by_cases hfirst : (b.line call.key).head? = some i
    · obtain ⟨p, line, value, hadvanced, hturned⟩ := poll_taken htask hvalue hfirst
      refine h.turn htask hturned (by cases hadvanced <;> simp) (by simp) ?_
      rw [horder]
      exact hstanding.take (nodup_startOrder calls call.key seen) hfirst (phase?_of_task htask) hadvanced
        (own_of_turned hown htask rfl hturned) (hturned.phase? hi)
    · rw [poll_of_not_first htask hvalue hfirst]
      exact h.idle (.inr hold)

theorem mem_startOrder (h : Orderly own m calls seen b) {phase : Phase ε α} (htask : b.tasks[i]? = some (call, phase))
    (hphase : phase ≠ .fresh) : i ∈ startOrder calls call.key seen :=
  mem_startOrder_iff.mpr ⟨h.mem_seen htask hphase, h.onKey_of_task htask⟩

theorem get?_of_running (h : Orderly own m calls seen b) {left : Nat}
    (htask : b.tasks[i]? = some (call, .running left)) : b.memo.get? call.key = none :=
  ((h.standing call.key).first_of_running (h.mem_startOrder htask (by simp)) (phase?_of_task htask)).2

theorem poll_running (h : Orderly own m calls seen b) (hown : ∀ outcome, b.Finishes i outcome → own i outcome)
    {left : Nat} (htask : b.tasks[i]? = some (call, .running left)) :
    Orderly own m calls (seen ++ [i]) (b.poll i) := by
  have hi : i < b.tasks.length := (List.getElem?_eq_some_iff.mp htask).1
  have horder : startOrder calls call.key (seen ++ [i]) = startOrder calls call.key seen :=
    startOrder_append_old fun _ => h.mem_seen htask (by simp)
  have hstanding := h.standing call.key
  have hvalue := h.get?_of_running htask
  obtain ⟨p, line, value, hadvanced, hturned⟩ := poll_advanced htask hvalue
  refine h.turn htask hturned (by cases hadvanced <;> simp) (by simp) ?_
  rw [hvalue] at hstanding
  rw [horder, List.append_nil]
  exact hstanding.advance (nodup_startOrder calls call.key seen) (h.mem_startOrder htask (by simp))
    (phase?_of_task htask) hadvanced (own_of_turned hown htask rfl hturned) (hturned.phase? hi)

/-- One poll keeps a batch orderly, if the outcome with which it may finish its call is an own one. -/
theorem poll (h : Orderly own m calls seen b) (hown : ∀ outcome, b.Finishes i outcome → own i outcome) :
    Orderly own m calls (seen ++ [i]) (b.poll i) := by
  cases htask : b.tasks[i]? with
  | none =>
    rw [poll_of_none htask]
    exact h.idle (.inl htask)
  | some task =>
    obtain ⟨call, phase⟩ := task
    cases phase with
    | done result =>
      rw [poll_of_done htask]
      exact h.idle (.inr (h.mem_seen htask (by simp)))
    | fresh => exact h.poll_fresh hown htask
    | waiting => exact h.poll_waiting hown htask
    | running left => exact h.poll_running hown htask

end Orderly

theorem pollAll_append (b : Batch σ ε α) (l k : List Nat) : b.pollAll (l ++ k) = (b.pollAll l).pollAll k :=
  List.foldl_append

/-- Every schedule keeps a batch orderly, if every outcome with which one of its polls finishes a call is an own one. -/
theorem orderly_pollAll {s : σ} {schedule : List Nat}
    (hown : ∀ before i after outcome, schedule = before ++ i :: after →
      ((ofCalls s m calls).pollAll before).Finishes i outcome → own i outcome) :
    Orderly own m calls schedule ((ofCalls s m calls).pollAll schedule) := by
  suffices h : ∀ before after, schedule = before ++ after →
      Orderly own m calls before ((ofCalls s m calls).pollAll before) from h schedule [] (List.append_nil _).symm
  intro before
  induction before using List.reverseRecOn with
  | nil => exact fun _ _ => orderly_ofCalls own s m calls
  | append_singleton before i ih =>
    intro after hsplit
    rw [List.append_assoc] at hsplit
    rw [pollAll_append]
    exact (ih (i :: after) hsplit).poll fun outcome => hown before i after outcome hsplit

end Batch

end RepoConventions.Memo
