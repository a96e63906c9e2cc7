import RepoConventions.Proofs.Memo.Determined
import RepoConventions.Rules.Selection

/-!
# Which rules run

The rules that a check asks for run once each, and their outcomes stand in the order in which they are first asked for.
Rules that leave the session as it is do not see each other.
-/

namespace RepoConventions.Rules

/-! Names -/

/-- The rules asked for by names, all of them without a name. Names of no rule are passed over. -/
def asked (ids : List String) : List BuiltinRule :=
  if ids = [] then builtinRules else ids.filterMap BuiltinRule.find?

def IsUnknown (id : String) : Prop := ∀ r ∈ builtinRules, Text.eqIgnoreCase r.id id = false

theorem find?_eq_none_iff {id : String} : BuiltinRule.find? id = none ↔ IsUnknown id := by
  simp [BuiltinRule.find?, IsUnknown]

theorem mem_builtinRules_of_find? {id : String} {r : BuiltinRule} (h : BuiltinRule.find? id = some r) :
    r ∈ builtinRules :=
  List.mem_of_find?_eq_some h

theorem mem_builtinRules_of_asked {ids : List String} {r : BuiltinRule} (h : r ∈ asked ids) : r ∈ builtinRules := by
  unfold asked at h
  split at h
  · exact h
  · obtain ⟨id, -, hid⟩ := List.mem_filterMap.mp h
    exact mem_builtinRules_of_find? hid

theorem eq_of_id_eq {r q : BuiltinRule} (hr : r ∈ builtinRules) (hq : q ∈ builtinRules) (h : r.id = q.id) : r = q := by
  simp only [builtinRules, List.mem_cons, List.not_mem_nil, or_false] at hr hq
  have hne : workflowDefaultShell.id ≠ globalSuppressions.id := by decide
  rcases hr with rfl | rfl <;> rcases hq with rfl | rfl
  · rfl
  · exact absurd h hne
  · exact absurd h.symm hne
  · rfl

theorem select_of_known {ids : List String} (h : ∀ id ∈ ids, ¬ IsUnknown id) : select ids = .ok (asked ids) := by
  unfold select asked
  cases ids with
  | nil => rfl
  | cons id rest =>
    rw [if_neg (by simp), if_neg (by simp)]
    generalize id :: rest = ids at h
    induction ids with
    | nil => rfl
    | cons id rest ih =>
      obtain ⟨hid, hrest⟩ := List.forall_mem_cons.mp h
      obtain ⟨r, hr⟩ := Option.ne_none_iff_exists'.mp (find?_eq_none_iff.not.mpr hid)
      rw [List.mapM_cons, ih hrest, List.filterMap_cons, hr]
      rfl

theorem select_of_unknown {ids : List String} (h : ∃ id ∈ ids, IsUnknown id) : ∃ id, select ids = .error id := by
  obtain ⟨unknown, hmem, hunknown⟩ := h
  have hne : ids.isEmpty = false := by
    cases ids with
    | nil => cases hmem
    | cons id rest => rfl
  rw [select, hne, if_neg Bool.false_ne_true]
  clear hne
  induction ids with
  | nil => cases hmem
  | cons id rest ih =>
    rw [List.mapM_cons]
    cases hid : BuiltinRule.find? id with
    | none => exact ⟨id, rfl⟩
    | some r =>
      rcases List.mem_cons.mp hmem with rfl | hmem
      · cases (find?_eq_none_iff.mpr hunknown).symm.trans hid
      · obtain ⟨e, he⟩ := ih hmem
        exact ⟨e, by rw [he]; rfl⟩

/-! First names -/

theorem firstNamed_append (rules : List BuiltinRule) (r : BuiltinRule) :
    firstNamed (rules ++ [r]) =
      if (firstNamed rules).any (·.id = r.id) then firstNamed rules else firstNamed rules ++ [r] := by
  rw [firstNamed, List.foldl_append]
  rfl

theorem mem_of_firstNamed {rules : List BuiltinRule} {r : BuiltinRule} (h : r ∈ firstNamed rules) : r ∈ rules := by
  induction rules using List.reverseRecOn with
  | nil => cases h
  | append_singleton rules q ih =>
    rw [firstNamed_append] at h
    split at h
    · exact List.mem_append_left _ (ih h)
    · rcases List.mem_append.mp h with h | h
      · exact List.mem_append_left _ (ih h)
      · exact List.mem_append_right _ h

theorem map_id_firstNamed (rules : List BuiltinRule) :
    (firstNamed rules).map (·.id) = (rules.map (·.id)).eraseDups := by
  induction rules using List.reverseRecOn with
  | nil => rfl
  | append_singleton rules r ih =>
    have hany : (firstNamed rules).any (·.id = r.id) = true ↔ r.id ∈ rules.map (·.id) := by
      rw [← List.mem_eraseDups, ← ih, List.any_eq_true, List.mem_map]
      simp only [decide_eq_true_eq]
    rw [firstNamed_append, List.map_append, List.map_singleton, Memo.eraseDups_append_singleton]
    by_cases h : r.id ∈ rules.map (·.id)
    · rw [if_pos (hany.mpr h), if_pos h, ih]
    · rw [if_neg (hany.not.mpr h), if_neg h, List.map_append, ih]
      rfl

theorem mem_firstNamed_iff {rules : List BuiltinRule} (hrules : ∀ r ∈ rules, r ∈ builtinRules) {r : BuiltinRule} :
    r ∈ firstNamed rules ↔ r ∈ rules := by
  refine ⟨mem_of_firstNamed, fun hr => ?_⟩
  have hid : r.id ∈ (firstNamed rules).map (·.id) := by
    rw [map_id_firstNamed, List.mem_eraseDups]
    exact List.mem_map_of_mem hr
  obtain ⟨q, hq, heq⟩ := List.mem_map.mp hid
  rwa [← eq_of_id_eq (hrules q (mem_of_firstNamed hq)) (hrules r hr) heq]

/-! Running -/

/-- The calls of rules that may give way any number of times while they run. -/
def ruleCalls (ctx : Context) (rules : List BuiltinRule) (waits : Nat → Nat) : List (Memo.Call Session Empty Outcome) :=
  rules.mapIdx fun i r => { r.call ctx with yields := waits i }

/-- The rules at work after some turns. -/
def atWork (ctx : Context) (rules : List BuiltinRule) (s : Session) (waits : Nat → Nat) (schedule : List Nat) :
    Memo.Batch Session Empty Outcome :=
  (Memo.Batch.ofCalls s .empty (ruleCalls ctx rules waits)).pollAll schedule

theorem ruleCalls_one (ctx : Context) (rules : List BuiltinRule) :
    ruleCalls ctx rules (fun _ => 1) = rules.map (BuiltinRule.call ctx) :=
  List.ext_getElem (by simp [ruleCalls]) fun i _ _ => by
    simp only [ruleCalls, List.getElem_mapIdx, List.getElem_map]
    rfl

section

variable {ctx : Context} {rules : List BuiltinRule} {s : Session}

theorem exists_mem_ruleCalls (ctx : Context) {r : BuiltinRule} (h : r ∈ rules) (waits : Nat → Nat) :
    ∃ call ∈ ruleCalls ctx rules waits, call.key = r.id := by
  obtain ⟨i, hi, rfl⟩ := List.mem_iff_getElem.mp h
  exact ⟨_, List.mem_mapIdx.mpr ⟨i, hi, rfl⟩, rfl⟩

theorem exists_rule_of_mem_ruleCalls {waits : Nat → Nat} {call : Memo.Call Session Empty Outcome}
    (h : call ∈ ruleCalls ctx rules waits) :
    ∃ r ∈ rules, r.id = call.key ∧ call.compute = (r.call ctx).compute := by
  obtain ⟨i, hi, rfl⟩ := List.mem_mapIdx.mp h
  exact ⟨rules[i], List.getElem_mem hi, rfl, rfl⟩

/-- Rules that leave the session as it is have in any session the outcomes that they have in this one. -/
theorem determined_ruleCalls (hsession : ∀ r ∈ rules, (r.run ctx s).2 = s) (waits : Nat → Nat) :
    Memo.Determined s (fun id o => ∃ r ∈ rules, r.id = id ∧ o = (r.run ctx s).1) (ruleCalls ctx rules waits) := by
  intro call hcall
  obtain ⟨r, hr, hkey, hcompute⟩ := exists_rule_of_mem_ruleCalls hcall
  exact ⟨_, ⟨r, hr, hkey, rfl⟩, by rw [hcompute]; exact Prod.ext rfl (hsession r hr)⟩

theorem outcomesOf_atWork (hrules : ∀ r ∈ rules, r ∈ builtinRules) (hsession : ∀ r ∈ rules, (r.run ctx s).2 = s)
    {waits : Nat → Nat} {schedule : List Nat} (hfinished : (atWork ctx rules s waits schedule).Finished) :
    outcomesOf rules (atWork ctx rules s waits schedule).memo = (firstNamed rules).map fun r => (r, (r.run ctx s).1) := by
  rw [outcomesOf, ← List.filterMap_eq_map]
  refine List.filterMap_congr fun r hr => ?_
  obtain ⟨call, hcall, hkey⟩ := exists_mem_ruleCalls ctx (mem_of_firstNamed hr) waits
  obtain ⟨o, ⟨q, hq, hid, rfl⟩, ho⟩ := (determined_ruleCalls hsession waits).get?_pollAll hfinished hcall rfl
  obtain rfl := eq_of_id_eq (hrules q hq) (hrules r (mem_of_firstNamed hr)) (hid.trans hkey)
  rw [← hkey, atWork, ho]
  rfl

theorem exists_atWork (ctx : Context) (rules : List BuiltinRule) (s : Session) : ∃ schedule,
    (callBatch ctx rules s).run = atWork ctx rules s (fun _ => 1) schedule ∧
    (atWork ctx rules s (fun _ => 1) schedule).Finished := by
  obtain ⟨schedule, hschedule⟩ := (callBatch ctx rules s).exists_schedule_rounds (callBatch ctx rules s).roundsNeeded
  have hrun : (callBatch ctx rules s).run = atWork ctx rules s (fun _ => 1) schedule := by
    rw [Memo.Batch.run, hschedule, atWork, ruleCalls_one, callBatch]
  exact ⟨schedule, hrun, hrun ▸ Memo.Batch.finished_run s .empty (rules.map (BuiltinRule.call ctx))⟩

/-- Rules that leave the session as it is have the outcomes that they have on their own. -/
theorem runAll_eq (hrules : ∀ r ∈ rules, r ∈ builtinRules) (hsession : ∀ r ∈ rules, (r.run ctx s).2 = s) :
    runAll ctx rules s = ((firstNamed rules).map fun r => (r, (r.run ctx s).1), s) := by
  obtain ⟨schedule, hrun, hfinished⟩ := exists_atWork ctx rules s
  rw [runAll, hrun]
  exact Prod.ext (outcomesOf_atWork hrules hsession hfinished)
    ((determined_ruleCalls hsession fun _ => 1).state_pollAll .empty schedule)

end

end RepoConventions.Rules
