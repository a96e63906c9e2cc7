import RepoConventions.Proofs.Rules.Procedures

/-!
# Checks in any interleaving

Files of a rule are checked at the same time: in turn, and in any order, each file takes the next step of its procedure,
and when no file has a step left the rule sums up, once. As steps of different files commute, a run ends as if one file
were checked after the other.
-/

namespace RepoConventions.Rules

open Files (FileTree)

/-- A file under check: its record, and the steps that are left. -/
structure Task where
  record : FileRecord
  rest : Procedure

namespace Task

def isDone (k : Task) : Bool :=
  match k.rest with
  | .done => true
  | .step .. => false

def step (k : Task) (t : FileTree) : Task × FileTree :=
  match k.rest with
  | .done => (k, t)
  | .step a next =>
    let (reply, f, t) := a.perform k.record t
    (⟨f, next reply⟩, t)

def finish : List Task → FileTree → List FileRecord × FileTree
  | [], t => ([], t)
  | k :: rest, t =>
    let (f, t) := k.rest.run k.record t
    let (done, t) := finish rest t
    (f :: done, t)

end Task

/-- A run of a rule under way. `added` lists what the report of warnings was given, `report?` is there at the end. -/
structure Round where
  name : String
  tasks : List Task
  tree : FileTree
  warnings : WarningReport
  added : List (String × List String)
  report? : Option RuleReport

/-- Either the file at a position takes a step or the rule sums up. -/
inductive Turn
  | step (i : Nat)
  | conclude

namespace Round

def start (r : Runner) (procedures : FileRecord → Procedure) (w : WarningReport) (t : FileTree) : Round :=
  ⟨r.name, r.files.map fun f => ⟨f, procedures f⟩, t, w, [], none⟩

def stepAt (s : Round) (i : Nat) : Round :=
  match s.tasks[i]? with
  | some k => { s with tasks := s.tasks.set i (k.step s.tree).1, tree := (k.step s.tree).2 }
  | none => s

/-- Sums up, unless a file has a step left or that was done before. -/
def conclude (s : Round) : Round :=
  if s.report?.isNone && s.tasks.all Task.isDone then
    let report := Runner.report s.name (s.tasks.map Task.record)
    let (_, w, t) := s.warnings.add s.tree s.name report.warnings
    { s with tree := t, warnings := w, added := s.added ++ [(s.name, report.warnings)], report? := some report }
  else s

def turn (s : Round) : Turn → Round
  | .step i => s.stepAt i
  | .conclude => s.conclude

def after (s : Round) (turns : List Turn) : Round := turns.foldl turn s

end Round

/-! One file after the other -/

theorem Task.finish_start (procedures : FileRecord → Procedure) (files : List FileRecord) (t : FileTree) :
    finish (files.map fun f => ⟨f, procedures f⟩) t =
      ((Runner.checkAll (Check.ofProcedures procedures) files t).1.map (·.2),
        (Runner.checkAll (Check.ofProcedures procedures) files t).2) := by
  induction files generalizing t with
  | nil => rfl
  | cons f rest ih => simp only [List.map_cons, finish, Runner.checkAll, Check.ofProcedures, ih]

theorem Task.finish_done {tasks : List Task} (h : ∀ k ∈ tasks, k.isDone = true) (t : FileTree) :
    finish tasks t = (tasks.map record, t) := by
  induction tasks with
  | nil => rfl
  | cons k rest ih =>
    have hk : k.rest = .done := by
      have hdone := h k (by simp)
      cases hr : k.rest with
      | done => rfl
      | step a next => simp [isDone, hr] at hdone
    simp [finish, hk, Procedure.run, ih fun l hl => h l (by simp [hl])]

/-- A step can be taken before the tasks that stand before it are finished. -/
theorem Task.finish_step {before after : List Task} {k : Task} {t : FileTree}
    (h : ∀ l ∈ before, AreApart t k.record.fullPath l.record.fullPath) :
    finish (before ++ (k.step t).1 :: after) (k.step t).2 = finish (before ++ k :: after) t := by
  obtain ⟨f, rest⟩ := k
  cases rest with
  | done => rfl
  | step a next =>
    induction before generalizing t with
    | nil => rfl
    | cons l before ih =>
      have hl : AreApart t f.fullPath l.record.fullPath := h l (by simp)
      obtain ⟨hrun, hreply, hrecord⟩ := l.rest.run_perform_comm a hl
      have hlayout := l.rest.run_sameLayout hl.right
      have ih := ih (t := (l.rest.run l.record t).2) fun m hm =>
        (h m (List.mem_cons_of_mem l hm)).of_sameLayout hlayout.symm
      simp only [step, hreply, hrecord] at ih
      simp only [step, finish, List.cons_append, hrun, ih]

theorem Task.step_fullPath (k : Task) (t : FileTree) : (k.step t).1.record.fullPath = k.record.fullPath := by
  obtain ⟨f, rest⟩ := k
  cases rest with
  | done => rfl
  | step a next => exact (a.perform_sameFile f t).fullPath

theorem Task.step_sameLayout {k : Task} {t : FileTree} (h : t.LeadsToNoGap k.record.fullPath) :
    (k.step t).2.SameLayout t := by
  obtain ⟨f, rest⟩ := k
  cases rest with
  | done => exact .refl t
  | step a next => exact a.perform_sameLayout h

/-! Rounds -/

namespace Round

def paths (s : Round) : List String := s.tasks.map fun k => k.record.fullPath

/-- A round of a rule that did not sum up yet, and what it comes to when its tasks are finished one after the other. -/
structure LeadsTo (rule : String) (w : WarningReport) (records : List FileRecord) (u : FileTree) (s : Round) :
    Prop where
  name : s.name = rule
  separate : AreSeparate s.tree s.paths
  finish : Task.finish s.tasks s.tree = (records, u)
  warnings : s.warnings = w
  added : s.added = []
  report : s.report? = none

structure Ended (rule : String) (w : WarningReport) (records : List FileRecord) (u : FileTree) (s : Round) : Prop where
  isDone : ∀ k ∈ s.tasks, k.isDone = true
  held : s.tasks.map Task.record = records
  report : s.report? = some (Runner.report rule records)
  added : s.added = [(rule, (Runner.report rule records).warnings)]
  state : (s.warnings, s.tree) = (w.add u rule (Runner.report rule records).warnings).2

variable {rule : String} {w : WarningReport} {records : List FileRecord} {u : FileTree} {s : Round}

theorem LeadsTo.stepAt (h : LeadsTo rule w records u s) (i : Nat) : LeadsTo rule w records u (s.stepAt i) := by
  unfold Round.stepAt
  cases hk : s.tasks[i]? with
  | none => exact h
  | some k =>
    obtain ⟨hi, rfl⟩ := List.getElem?_eq_some_iff.mp hk
    have hsplit : s.tasks = s.tasks.take i ++ s.tasks[i] :: s.tasks.drop (i + 1) := by
      rw [← List.drop_eq_getElem_cons hi, List.take_append_drop]
    have hset : s.tasks.set i (s.tasks[i].step s.tree).1 =
        s.tasks.take i ++ (s.tasks[i].step s.tree).1 :: s.tasks.drop (i + 1) := by
      rw [List.set_eq_take_append_cons_drop, if_pos hi]
    have hbefore : ∀ l ∈ s.tasks.take i, AreApart s.tree s.tasks[i].record.fullPath l.record.fullPath := by
      intro l hl
      have hpairs := h.separate.apart
      rw [paths, hsplit, List.map_append, List.pairwise_append] at hpairs
      exact (hpairs.2.2 _ (List.mem_map_of_mem hl) _ (List.mem_map.mpr ⟨_, List.mem_cons_self, rfl⟩)).symm
    have hlayout : (s.tasks[i].step s.tree).2.SameLayout s.tree :=
      Task.step_sameLayout (h.separate.gaps _ (List.mem_map_of_mem (List.getElem_mem hi)))
    have hpaths : (s.tasks.set i (s.tasks[i].step s.tree).1).map (fun k => k.record.fullPath) = s.paths := by
      rw [hset, paths, List.map_append, List.map_cons, Task.step_fullPath]
      conv_rhs => rw [hsplit, List.map_append, List.map_cons]
    exact {
      name := h.name
      separate := by
        change AreSeparate _ (List.map _ _)
        rw [hpaths]
        exact h.separate.of_sameLayout hlayout.symm
      finish := by
        change Task.finish (s.tasks.set i _) _ = _
        rw [hset, Task.finish_step hbefore, ← hsplit]
        exact h.finish
      warnings := h.warnings
      added := h.added
      report := h.report }

theorem LeadsTo.conclude (h : LeadsTo rule w records u s) :
    LeadsTo rule w records u s.conclude ∨ Ended rule w records u s.conclude := by
  unfold Round.conclude
  split
  · next hall =>
    have hdone : ∀ k ∈ s.tasks, k.isDone = true := by
      have h := (Bool.and_eq_true _ _ ▸ hall).2
      exact List.all_eq_true.mp h
    obtain ⟨rfl, rfl⟩ : s.tasks.map Task.record = records ∧ s.tree = u := by
      have hfinish := h.finish
      rw [Task.finish_done hdone] at hfinish
      exact Prod.mk.inj hfinish
    obtain rfl := h.name
    exact .inr {
      isDone := hdone
      held := rfl
      report := rfl
      added := by simp [h.added]
      state := by rw [← h.warnings] }
  · exact .inl h

theorem Ended.turn (h : Ended rule w records u s) (x : Turn) : s.turn x = s := by
  cases x with
  | conclude => simp [Round.turn, Round.conclude, h.report]
  | step i =>
    simp only [Round.turn, Round.stepAt]
    cases hk : s.tasks[i]? with
    | none => rfl
    | some k =>
      obtain ⟨hi, rfl⟩ := List.getElem?_eq_some_iff.mp hk
      have hdone := h.isDone _ (List.getElem_mem hi)
      have hstep : s.tasks[i].step s.tree = (s.tasks[i], s.tree) := by
        unfold Task.step
        unfold Task.isDone at hdone
        split <;> simp_all
      simp [hstep]

theorem leadsTo_turn (h : LeadsTo rule w records u s ∨ Ended rule w records u s) (x : Turn) :
    LeadsTo rule w records u (s.turn x) ∨ Ended rule w records u (s.turn x) := by
  obtain h | h := h
  · cases x with
    | step i => exact .inl (h.stepAt i)
    | conclude => exact h.conclude
  · rw [h.turn x]
    exact .inr h

theorem leadsTo_after (h : LeadsTo rule w records u s ∨ Ended rule w records u s) (turns : List Turn) :
    LeadsTo rule w records u (s.after turns) ∨ Ended rule w records u (s.after turns) := by
  induction turns generalizing s with
  | nil => exact h
  | cons x rest ih => exact ih (leadsTo_turn h x)

theorem leadsTo_start {r : Runner} {t : FileTree} (h : AreSeparate t (r.files.map FileRecord.fullPath))
    (procedures : FileRecord → Procedure) (w : WarningReport) :
    LeadsTo r.name w ((r.run (Check.ofProcedures procedures) w t).checked.map (·.2))
      (Runner.checkAll (Check.ofProcedures procedures) r.files t).2 (start r procedures w t) where
  name := rfl
  separate := by simpa [start, paths, Function.comp_def] using h
  finish := Task.finish_start procedures r.files t
  warnings := rfl
  added := rfl
  report := rfl

/-! Every round can be brought to its end -/

/-- Steps of one file bring it to the end of its procedure. -/
theorem exists_steps_done (before after : List Task) (k : Task) (hb : s.tasks = before ++ k :: after) :
    ∃ n l, l.isDone = true ∧
      (s.after (List.replicate n (.step before.length))).tasks = before ++ l :: after := by
  obtain ⟨f, rest⟩ := k
  induction rest generalizing s f with
  | done => exact ⟨0, ⟨f, .done⟩, rfl, hb⟩
  | step a next ih =>
    have htasks : (s.turn (.step before.length)).tasks =
        before ++ ⟨(a.perform f s.tree).2.1, next (a.perform f s.tree).1⟩ :: after := by
      simp [Round.turn, Round.stepAt, Task.step, hb]
    obtain ⟨n, l, hl, hn⟩ := ih _ _ htasks
    exact ⟨n + 1, l, hl, by rw [List.replicate_succ]; exact hn⟩

theorem exists_turns_done (before after : List Task) (hb : s.tasks = before ++ after)
    (hdone : ∀ k ∈ before, k.isDone = true) : ∃ turns, ∀ k ∈ (s.after turns).tasks, k.isDone = true := by
  induction after generalizing s before with
  | nil => exact ⟨[], by simpa [Round.after, hb] using hdone⟩
  | cons k rest ih =>
    obtain ⟨n, l, hl, hn⟩ := exists_steps_done before rest k hb
    obtain ⟨turns, hturns⟩ := ih (before ++ [l]) (by simpa using hn) (by
      intro m hm
      obtain hm | hm := List.mem_append.mp hm
      · exact hdone m hm
      · exact List.mem_singleton.mp hm ▸ hl)
    exact ⟨List.replicate n (.step before.length) ++ turns, by simpa [Round.after] using hturns⟩

theorem exists_turns_ended (h : LeadsTo rule w records u s) : ∃ turns, Ended rule w records u (s.after turns) := by
  obtain ⟨turns, hdone⟩ := exists_turns_done [] s.tasks rfl (by simp)
  obtain hafter | hafter := leadsTo_after (.inl h) turns
  · refine ⟨turns ++ [.conclude], ?_⟩
    have hlast : s.after (turns ++ [.conclude]) = (s.after turns).conclude := by simp [Round.after, Round.turn]
    rw [hlast]
    obtain hleads | hended := hafter.conclude
    · have hreport := hleads.report
      have hall : (s.after turns).tasks.all Task.isDone = true := List.all_eq_true.mpr hdone
      simp [Round.conclude, hafter.report, hall] at hreport
    · exact hended
  · exact ⟨turns, hafter⟩

end Round

/-- Whatever procedures the files of a runner have and however their steps take turns, a run can be brought to its end,
and at its end the report, the tree, the records and the one addition to the report of warnings are those of a run that
checks one file after the other. The contents of files may have changed since the runner was built. -/
theorem Runner.run_interleaved {t u : FileTree} {ctx : Context} {glob name : String} {failIfNone : Bool}
    {filters : List Filter} {r : Runner} (hr : Runner.build t ctx glob name failIfNone filters = .ok r)
    (hu : t.SameLayout u) (procedures : FileRecord → Procedure) (w : WarningReport) (turns : List Turn) :
    let round := (Round.start r procedures w u).after turns
    let run := r.run (Check.ofProcedures procedures) w u
    (∃ more, (round.after more).report? = some run.report) ∧
    ∀ report, round.report? = some report →
      report = run.report ∧ round.tree = run.tree ∧ round.warnings = run.warnings ∧
        round.tasks.map Task.record = run.checked.map (·.2) ∧ round.added = [(r.name, run.report.warnings)] := by
  intro round run
  have hstart := Round.leadsTo_start ((AreSeparate.of_build hr).of_sameLayout hu) procedures w
  have hround := Round.leadsTo_after (.inl hstart) turns
  constructor
  · obtain hleads | hended := hround
    · obtain ⟨more, hmore⟩ := Round.exists_turns_ended hleads
      exact ⟨more, hmore.report⟩
    · exact ⟨[], hended.report⟩
  · intro report hreport
    obtain hleads | hended := hround
    · have hnone : round.report? = none := hleads.report
      rw [hreport] at hnone
      cases hnone
    · have hsome : round.report? = some run.report := hended.report
      obtain rfl : report = run.report := Option.some.inj (hreport.symm.trans hsome)
      obtain ⟨hwarnings, htree⟩ := Prod.mk.inj hended.state
      exact ⟨rfl, htree, hwarnings, hended.held, hended.added⟩

private def pairTree : FileTree := (FileTree.empty.putFile ["r", "A"] .empty).putFile ["r", "B"] .empty

private def pairContext : Context := ⟨.ofRoot "/r", .ofRules [], none⟩

private def failWithText : Procedure :=
  .step (.writeText "new") fun _ => .step .readText fun reply =>
    match reply with
    | .text (.ok text) => .step (.call (.fail text)) fun _ => .done
    | _ => .done

/-- The second file writes before the first, and reads before the first has written. -/
theorem Runner.run_interleaved_pair :
    ∃ r, Runner.build pairTree pairContext "*" "texts" true [] = .ok r ∧ pairTree.SameLayout pairTree ∧
      ∃ more, (((Round.start r (fun _ => failWithText) (.new pairContext.config) pairTree).after
        [.step 1, .step 1, .step 0, .step 1]).after more).report? =
          some ⟨"texts", 2, ["A - new", "B - new"], []⟩ := by
  have hlisted : pairTree.files "/r" = [["A"], ["B"]] :=
    FileTree.files_of_listed rfl rfl (by decide +kernel) (by decide +kernel)
  have hfind : pairTree.find "/r" "*" = .ok ["/r/A", "/r/B"] := by
    rw [FileTree.find_of_files hlisted]
    rfl
  have hbuild : Runner.build pairTree pairContext "*" "texts" true [] =
      .ok ⟨"texts", pairContext, ["/r/A", "/r/B"].map (FileRecord.new pairContext "texts")⟩ := by
    rw [Runner.build_eq, surviving, show pairContext.root = "/r" from rfl, hfind]
    rfl
  obtain ⟨⟨more, hmore⟩, -⟩ := Runner.run_interleaved hbuild (.refl pairTree) (fun _ => failWithText)
    (.new pairContext.config) [.step 1, .step 1, .step 0, .step 1]
  refine ⟨_, hbuild, .refl pairTree, more, hmore.trans ?_⟩
  decide

end RepoConventions.Rules
