import RepoConventions.Proofs.Rules.Stages

/-!
# Rules that do not depend on each other

Each of the rules that are asked for is evaluated once, however the calls on the memo take turns, and has the outcome
that it has when it is asked for alone. So a rule that is asked for as well adds its own outcome and changes no other.
-/

namespace RepoConventions.Rules

open Files (FileTree)

/-! Names -/

theorem find?_eq_some_iff {id : String} {r : BuiltinRule} :
    BuiltinRule.find? id = some r ↔ r ∈ builtinRules ∧ Text.eqIgnoreCase r.id id = true := by
  have happart : ¬ (Text.eqIgnoreCase workflowDefaultShell.id id = true ∧
      Text.eqIgnoreCase globalSuppressions.id id = true) := by
    simp only [Text.eqIgnoreCase, beq_iff_eq]
    rintro ⟨hshell, hsuppressions⟩
    exact absurd (hshell.trans hsuppressions.symm) (by decide)
  constructor
  · intro h
    have hfind : builtinRules.find? (fun q => Text.eqIgnoreCase q.id id) = some r := h
    exact ⟨mem_builtinRules_of_find? h, by simpa using List.find?_some hfind⟩
  · rintro ⟨hr, hid⟩
    simp only [builtinRules, List.mem_cons, List.not_mem_nil, or_false] at hr
    rcases hr with rfl | rfl
    · simp [BuiltinRule.find?, builtinRules, hid]
    · have hnot : Text.eqIgnoreCase workflowDefaultShell.id id = false :=
        Bool.eq_false_iff.mpr fun hshell => happart ⟨hshell, hid⟩
      simp [BuiltinRule.find?, builtinRules, hid, hnot]

theorem forall₂_asked {ids : List String} (hids : ∀ id ∈ ids, ¬ IsUnknown id) (hne : ids ≠ []) :
    List.Forall₂ (fun id r => r ∈ builtinRules ∧ Text.eqIgnoreCase r.id id = true) ids (asked ids) := by
  rw [asked, if_neg hne]
  clear hne
  induction ids with
  | nil => exact .nil
  | cons id rest ih =>
    obtain ⟨hid, hrest⟩ := List.forall_mem_cons.mp hids
    obtain ⟨r, hr⟩ := Option.ne_none_iff_exists'.mp (find?_eq_none_iff.not.mpr hid)
    rw [List.filterMap_cons, hr]
    exact .cons (find?_eq_some_iff.mp hr) (ih hrest)

theorem firstNamed_isPrefix_append (rules more : List BuiltinRule) : firstNamed rules <+: firstNamed (rules ++ more) := by
  induction more using List.reverseRecOn with
  | nil => rw [List.append_nil]
  | append_singleton more r ih =>
    rw [← List.append_assoc, firstNamed_append]
    split
    · exact ih
    · exact ih.trans (List.prefix_append _ _)

/-! Evaluations -/

def evaluations (b : Memo.Batch Session Empty Outcome) (id : String) : Nat :=
  (b.started.filter (Memo.onKey (b.tasks.map (·.1)) id)).length

/-- The rules at work after some turns: the session is as it was at first, no rule is evaluated twice, some call can go
on while there is one to finish, and in the end each rule that was asked for is evaluated, once, and no other. -/
structure EvaluatesOnce (rules : List BuiltinRule) (s : Session) (b : Memo.Batch Session Empty Outcome) : Prop where
  session : b.state = s
  atMostOnce : ∀ id, evaluations b id ≤ 1
  goesOn : ¬ b.Finished → ∃ i, b.CanProceed i
  ended : b.Finished → ∀ id, evaluations b id = if id ∈ rules.map (·.id) then 1 else 0

/-- A check of the rules with these names can have these outcomes: the rules are selected, some turns finish all calls,
and the outcomes are what the memo then holds. -/
def CanHaveOutcomes (ctx : Context) (s : Session) (ids : List String) (outcomes : List (BuiltinRule × Outcome)) :
    Prop :=
  ∃ rules waits schedule, select ids = .ok rules ∧ (atWork ctx rules s waits schedule).Finished ∧
    outcomes = outcomesOf rules (atWork ctx rules s waits schedule).memo

section

variable {ctx : Context} {s : Session} {rules : List BuiltinRule}

theorem run_session (hrules : ∀ r ∈ rules, r ∈ builtinRules) (ctx : Context) (s : Session) :
    ∀ r ∈ rules, (r.run ctx s).2 = s :=
  fun r hr => (BuiltinRule.run_tells (hrules r hr) ctx s).1

theorem evaluations_atWork (hrules : ∀ r ∈ rules, r ∈ builtinRules) (waits : Nat → Nat) (schedule : List Nat) :
    EvaluatesOnce rules s (atWork ctx rules s waits schedule) := by
  have hdetermined := determined_ruleCalls (run_session hrules ctx s) waits
  have horderly := hdetermined.orderly .empty schedule
  rw [← atWork] at horderly
  have hcount (id : String) : evaluations (atWork ctx rules s waits schedule) id =
      ((atWork ctx rules s waits schedule).started.filter (Memo.onKey (ruleCalls ctx rules waits) id)).length := by
    rw [evaluations, horderly.known]
  refine ⟨hdetermined.state_pollAll .empty schedule, fun id => ?_, fun hunfinished => ?_, fun hfinished id => ?_⟩
  · rw [hcount]
    exact (hdetermined.length_begun .empty schedule id).1
  · obtain ⟨i, hgoes⟩ := horderly.exists_goesOn hunfinished
    exact ⟨i, hgoes.phase⟩
  · rw [hcount]
    split
    · next hmem =>
      obtain ⟨r, hr, rfl⟩ := List.mem_map.mp hmem
      exact (hdetermined.length_begun .empty schedule r.id).2 hfinished rfl (exists_mem_ruleCalls ctx hr waits)
    · next hnot =>
      -- no call has that name as its key
      rw [List.length_eq_zero_iff, List.filter_eq_nil_iff]
      intro i _ hkey
      rw [Memo.onKey, Option.any_eq_true] at hkey
      obtain ⟨call, hcall, hid⟩ := hkey
      obtain ⟨r, hr, hrid, -⟩ := exists_rule_of_mem_ruleCalls (List.mem_of_getElem? hcall)
      exact hnot (List.mem_map.mpr ⟨r, hr, hrid.trans (of_decide_eq_true hid)⟩)

/-- The outcomes of a selection are those that its rules have alone. -/
theorem canHaveOutcomes_iff {ids : List String} (hids : ∀ id ∈ ids, ¬ IsUnknown id)
    {outcomes : List (BuiltinRule × Outcome)} :
    CanHaveOutcomes ctx s ids outcomes ↔
      outcomes = (firstNamed (asked ids)).map fun r => (r, (r.run ctx s).1) := by
  have hselect := select_of_known hids
  have hrules : ∀ r ∈ asked ids, r ∈ builtinRules := fun r => mem_builtinRules_of_asked
  have hsession := run_session hrules ctx s
  constructor
  · rintro ⟨rules, waits, schedule, hrules', hfinished, rfl⟩
    obtain rfl : asked ids = rules := Except.ok.inj (hselect.symm.trans hrules')
    exact outcomesOf_atWork hrules hsession hfinished
  · rintro rfl
    obtain ⟨schedule, -, hfinished⟩ := exists_atWork ctx (asked ids) s
    exact ⟨_, _, schedule, hselect, hfinished, (outcomesOf_atWork hrules hsession hfinished).symm⟩

end

/-- The rules that are asked for by known names, in any repository: each is evaluated once, whatever turns the calls take
and in whatever order the rules take their steps, and the outcomes stand in the order of the first names. Each outcome is
the only one that the rule can have when it is asked for alone, under any spelling of its name, and further names leave
the outcomes as they are and only add others behind them. -/
theorem selected_evaluated_once (ctx : Context) (s : Session) {ids : List String}
    (hids : ∀ id ∈ ids, ¬ IsUnknown id) : ∃ rules, select ids = .ok rules ∧
      (ids = [] → rules = builtinRules) ∧
      (ids ≠ [] → List.Forall₂ (fun id r => r ∈ builtinRules ∧ Text.eqIgnoreCase r.id id = true) ids rules) ∧
      (∀ waits schedule, EvaluatesOnce rules s (atWork ctx rules s waits schedule)) ∧
      (∀ turns, (Crew.afterTurns ctx rules s turns).EndsAsAlone ctx rules s turns) ∧
      CanHaveOutcomes ctx s ids (runAll ctx rules s).1 ∧
      ∀ outcomes, CanHaveOutcomes ctx s ids outcomes →
        outcomes.map (·.1.id) = (rules.map (·.id)).eraseDups ∧
        (∀ r outcome, (r, outcome) ∈ outcomes → ∀ id, Text.eqIgnoreCase r.id id = true →
          ∀ alone, CanHaveOutcomes ctx s [id] alone ↔ alone = [(r, outcome)]) ∧
        ∀ more, ids ≠ [] → (∀ id ∈ more, ¬ IsUnknown id) →
          ∀ extended, CanHaveOutcomes ctx s (ids ++ more) extended → outcomes <+: extended := by
  have hrules : ∀ r ∈ asked ids, r ∈ builtinRules := fun r => mem_builtinRules_of_asked
  refine ⟨asked ids, select_of_known hids, fun h => if_pos h, forall₂_asked hids, evaluations_atWork hrules,
    Crew.endsAsAlone_afterTurns hrules ctx s, ?_, fun outcomes houtcomes => ?_⟩
  · rw [canHaveOutcomes_iff hids, runAll_eq hrules (run_session hrules ctx s)]
  · obtain rfl := (canHaveOutcomes_iff hids).mp houtcomes
    refine ⟨?_, fun r outcome hmem id hid alone => ?_, fun more hne hmore extended hextended => ?_⟩
    · rw [List.map_map, ← map_id_firstNamed]
      rfl
    · obtain ⟨q, hq, heq⟩ := List.mem_map.mp hmem
      obtain ⟨rfl, rfl⟩ := Prod.mk.inj heq
      have hfind : BuiltinRule.find? id = some q := find?_eq_some_iff.mpr ⟨hrules q (mem_of_firstNamed hq), hid⟩
      have hknown : ∀ other ∈ [id], ¬ IsUnknown other := by
        intro other hother hunknown
        rw [List.mem_singleton.mp hother, ← find?_eq_none_iff, hfind] at hunknown
        cases hunknown
      have hasked : asked [id] = [q] := by simp [asked, hfind]
      rw [canHaveOutcomes_iff hknown, hasked]
      rfl
    · have hall : ∀ id ∈ ids ++ more, ¬ IsUnknown id := by
        intro id hid
        exact (List.mem_append.mp hid).elim (hids id) (hmore id)
      have hasked : asked (ids ++ more) = asked ids ++ more.filterMap BuiltinRule.find? := by
        simp [asked, hne]
      rw [(canHaveOutcomes_iff hall).mp hextended, hasked]
      exact (firstNamed_isPrefix_append _ _).map _

private def samplePair : List String := ["Workflow-Default-Shell", "global-suppressions", "workflow-default-shell"]

private def sampleTurns : List Nat := [2, 0, 1, 0, 2, 1, 0]

private def sampleRepository : Session :=
  ⟨.new (.ofRoot "/r"), (FileTree.empty.putFile ["r", ".github", "workflows", "a.yml"] .empty).putFile
    ["r", "GlobalSuppressions.cs"] .empty⟩

private def sampleIgnores : Context := ⟨.ofRoot "/r", .ofRules [], none⟩

/-- Two of three names are of one rule, whose second call comes first and does not wait. -/
theorem selected_evaluated_once_pair : (∀ id ∈ samplePair, ¬ IsUnknown id) ∧
    ∃ rules, select samplePair = .ok rules ∧
      let b := atWork sampleIgnores rules sampleRepository (fun _ => 1) sampleTurns
      b.Finished ∧ evaluations b "workflow-default-shell" = 1 ∧ evaluations b "global-suppressions" = 1 ∧
      ∀ outcomes, CanHaveOutcomes sampleIgnores sampleRepository samplePair outcomes →
        outcomes.map (·.1.id) = ["workflow-default-shell", "global-suppressions"] ∧
        ∀ r outcome, (r, outcome) ∈ outcomes → CanHaveOutcomes sampleIgnores sampleRepository [r.id] [(r, outcome)] := by
  have hknown : ∀ id ∈ samplePair, ¬ IsUnknown id := by
    simp only [← find?_eq_none_iff]
    decide
  refine ⟨hknown, ?_⟩
  obtain ⟨rules, hselect, -, -, hwork, -, -, houtcomes⟩ :=
    selected_evaluated_once sampleIgnores sampleRepository hknown
  obtain rfl : [workflowDefaultShell, globalSuppressions, workflowDefaultShell] = rules :=
    Except.ok.inj ((show select samplePair = _ from by rfl).symm.trans hselect)
  have hfinished : (atWork sampleIgnores [workflowDefaultShell, globalSuppressions, workflowDefaultShell]
      sampleRepository (fun _ => 1) sampleTurns).Finished := by
    decide +kernel
  have hended := (hwork (fun _ => 1) sampleTurns).ended hfinished
  refine ⟨_, hselect, hfinished, hended _, hended _, fun outcomes h => ?_⟩
  obtain ⟨hnames, halone, -⟩ := houtcomes outcomes h
  exact ⟨hnames.trans (by decide), fun r outcome hmem =>
    (halone r outcome hmem r.id (Text.eqIgnoreCase_self r.id) _).mpr rfl⟩

end RepoConventions.Rules
