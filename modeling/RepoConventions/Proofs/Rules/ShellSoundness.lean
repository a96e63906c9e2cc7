import RepoConventions.Proofs.Rules.WorkflowFiles
import RepoConventions.Proofs.Workflow.Decoding

/-!
# What the rule about shells ensures

A job that is not reported has an accepted shell on one of the two levels. That is the shell of its run steps, except
where the job has another one of its own in a workflow whose shell is accepted.
-/

namespace RepoConventions.Rules

open Files (FileTree pathBelow shownPath)
open Workflow (Document Job)

/-- The default shell for the run steps of a job: its own, else that of the workflow. -/
def effectiveShell? (d : Document) (j : Job) : Option String := j.defaults.shell? <|> d.defaults.shell?

/-- The run steps of the job have an accepted shell. -/
def HasAcceptedShell (d : Document) (j : Job) : Prop := ∃ shell ∈ acceptedShells, effectiveShell? d j = some shell

/-- The workflow has an accepted shell, but the job has another one of its own. -/
structure OverridesShell (d : Document) (j : Job) : Prop where
  document : ∃ shell ∈ acceptedShells, d.defaults.shell? = some shell
  job : ∃ shell, j.defaults.shell? = some shell ∧ shell ∉ acceptedShells

theorem acceptsShell_iff {shell : Option String} :
    acceptsShell shell = true ↔ ∃ s ∈ acceptedShells, shell = some s := by
  cases shell <;> simp [acceptsShell]

/-- A job that has an accepted shell on one level has it for its run steps or overrides it. -/
theorem accepts_either_iff {d : Document} {j : Job} :
    acceptsShell d.defaults.shell? = true ∨ acceptsShell j.defaults.shell? = true ↔
      HasAcceptedShell d j ∨ OverridesShell d j := by
  simp only [acceptsShell_iff]
  constructor
  · intro h
    cases hj : j.defaults.shell? with
    | none =>
      obtain ⟨shell, hshell, hd⟩ : ∃ shell ∈ acceptedShells, d.defaults.shell? = some shell := by simpa [hj] using h
      exact .inl ⟨shell, hshell, by rw [effectiveShell?, hj, hd]; rfl⟩
    | some own =>
      by_cases hown : own ∈ acceptedShells
      · exact .inl ⟨own, hown, by rw [effectiveShell?, hj]; rfl⟩
      · exact .inr ⟨by simpa [hj, hown] using h, own, hj, hown⟩
  · rintro (⟨shell, hshell, heffective⟩ | hover)
    · cases hj : j.defaults.shell? with
      | none => exact .inl ⟨shell, hshell, by simpa [effectiveShell?, hj] using heffective⟩
      | some own => exact .inr ⟨shell, hshell, by simpa [effectiveShell?, hj] using heffective⟩
    · exact .inl hover.document

theorem mem_jobsWithoutShell_iff {d : Document} {j : Job} : j ∈ jobsWithoutShell d ↔
    j ∈ d.jobs ∧ j.hasRunSteps = true ∧ ¬ (HasAcceptedShell d j ∨ OverridesShell d j) := by
  rw [← accepts_either_iff, jobsWithoutShell]
  cases hd : acceptsShell d.defaults.shell? with
  | true => simp
  | false =>
    rw [if_neg Bool.false_ne_true, List.mem_filter]
    simp [and_comm]

/-- The rule looks at a document: it is that of a checked file which no ignore rule excuses. -/
structure LooksAt (ctx : Context) (t : FileTree) (names : List String) (d : Document) : Prop where
  file : t.HasFileAt ctx.root names
  yml : LeadsToYml names
  place : InWorkflows names ∨ BesideWorkflows names
  read : Document.load t (pathBelow ctx.root names) = .ok d
  unexcused : ctx.ignores.excludes workflowDefaultShell.id none (shownPath names) = false

namespace LooksAt

variable {ctx : Context} {s : Session} {names : List String} {d : Document}

theorem exists_checked (h : LooksAt ctx s.tree names d) : ∃ checked, names ∈ checked ∧
    (∀ others ∈ checked, s.tree.HasFileAt ctx.root others) ∧
    workflowDefaultShell.run ctx s = (.ok (shellReport ctx s.tree checked), s) := by
  obtain ⟨found, hfound, -, -, hrun⟩ := workflowDefaultShell_report ctx s
  obtain ⟨hroot, hnames⟩ := FileTree.isEntryName_of_mem_files (FileTree.mem_files_iff.mpr h.file)
  have hne : names ≠ [] := by
    rintro rfl
    obtain ⟨name, hname, -⟩ := h.yml
    cases hname
  have hmem : names ∈ found :=
    (hfound names).mpr ⟨h.file, (isWorkflowName_pathBelow_iff hroot hnames hne).mpr h.yml⟩
  have hbegins : beginsLikeWorkflows names = true :=
    (beginsLikeWorkflows_iff_of_leadsToYml h.yml hnames).mpr h.place
  rw [if_neg (List.ne_nil_of_mem hmem)] at hrun
  refine ⟨_, List.mem_filter.mpr ⟨hmem, hbegins⟩, fun others hothers => ?_, hrun⟩
  exact ((hfound others).mp (List.mem_of_mem_filter hothers)).1

theorem shellLines_eq (h : LooksAt ctx s.tree names d) : shellLines ctx s.tree names =
    (jobsWithoutShell d).map fun j => shownPath names ++ " - " ++ missingShell j := by
  rw [shellLines, h.unexcused, if_neg Bool.false_ne_true, h.read, shellReasons, List.map_map]
  rfl

end LooksAt

/-- In a document of which no job is reported every job with run steps has an accepted shell for them, but for those that
override the shell of the workflow. So it is with every job that a run does not report. -/
theorem workflowDefaultShell_sound (d : Document) :
    (jobsWithoutShell d = [] ↔
      ∀ j ∈ d.jobs, j.hasRunSteps = true → HasAcceptedShell d j ∨ OverridesShell d j) ∧
    ∀ ctx s names, LooksAt ctx s.tree names d → ∃ report, workflowDefaultShell.run ctx s = (.ok report, s) ∧
      ∀ j ∈ d.jobs, shownPath names ++ " - " ++ missingShell j ∉ report.failures →
        j.hasRunSteps = true → HasAcceptedShell d j ∨ OverridesShell d j := by
  constructor
  · simp only [List.eq_nil_iff_forall_not_mem, mem_jobsWithoutShell_iff, not_and, not_not]
  · intro ctx s names h
    obtain ⟨checked, hchecked, -, hrun⟩ := h.exists_checked
    refine ⟨_, hrun, fun j hj hline hsteps => ?_⟩
    by_contra hopen
    have hreported : j ∈ jobsWithoutShell d := mem_jobsWithoutShell_iff.mpr ⟨hj, hsteps, hopen⟩
    have hown : shownPath names ++ " - " ++ missingShell j ∈ shellLines ctx s.tree names := by
      rw [h.shellLines_eq]
      exact List.mem_map_of_mem hreported
    exact hline (List.mem_flatMap.mpr ⟨names, hchecked, hown⟩)

/-- A workflow with an accepted shell that one of its two jobs overrides. -/
private def overridingText : String :=
  "defaults:\n run:\n  shell: bash\njobs:\n a:\n  defaults:\n   run:\n    shell: cmd\n  steps:\n  - run: x\n" ++
    " b:\n  steps:\n  - run: x\n"

private def overridingSession : Session :=
  ⟨.new (.ofRoot "/r"), FileTree.empty.putFile ["r", ".github", "workflows", "ci.yml"] overridingText.toUTF8⟩

private def overridingContext : Context := ⟨.ofRoot "/r", .ofRules [], none⟩

private def overridingWay : List String := [".github", "workflows", "ci.yml"]

private theorem exists_overriding : ∃ d report, LooksAt overridingContext overridingSession.tree overridingWay d ∧
    workflowDefaultShell.run overridingContext overridingSession = (.ok report, overridingSession) ∧
    report.failures = [] ∧
    (∃ j ∈ d.jobs, j.defaults.shell? = some "cmd" ∧ j.hasRunSteps = true) ∧
    ∃ j ∈ d.jobs, j.defaults.shell? = none ∧ j.hasRunSteps = true := by
  have hmap : (Document.load overridingSession.tree (pathBelow overridingContext.root overridingWay)).toOption.map
      (fun d => (acceptsShell d.defaults.shell?, d.jobs.map fun j => (j.defaults.shell?, j.hasRunSteps))) =
      some (true, [(some "cmd", true), (none, true)]) := by
    decide +kernel
  have hfiles : overridingSession.tree.files overridingContext.root = [overridingWay] := by decide +kernel
  obtain ⟨d, hd, hfields⟩ := Yaml.exists_ok_of_map hmap
  obtain ⟨haccepts, hjobs⟩ := Prod.mk.inj hfields
  have hlooks : LooksAt overridingContext overridingSession.tree overridingWay d :=
    ⟨FileTree.mem_files_iff.mp (by simp [hfiles]), ⟨"ci.yml", rfl, by decide⟩, .inl ⟨"ci.yml", [], rfl⟩, hd,
      by decide +kernel⟩
  obtain ⟨checked, -, hchecked, hrun⟩ := hlooks.exists_checked
  refine ⟨d, _, hlooks, hrun, List.flatMap_eq_nil_iff.mpr fun names hnames => ?_, ?_, ?_⟩
  · have hway : names = overridingWay := by
      simpa [hfiles] using FileTree.mem_files_iff.mpr (hchecked names hnames)
    rw [hway, hlooks.shellLines_eq, jobsWithoutShell, if_pos haccepts, List.map_nil]
  · obtain ⟨j, hj, hfields⟩ := List.mem_map.mp (hjobs ▸ List.mem_cons_self)
    exact ⟨j, hj, Prod.mk.inj hfields⟩
  · obtain ⟨j, hj, hfields⟩ := List.mem_map.mp (hjobs ▸ List.mem_cons_of_mem _ (List.mem_singleton_self _))
    exact ⟨j, hj, Prod.mk.inj hfields⟩

/-- The job that sets no shell has that of the workflow. -/
theorem workflowDefaultShell_sound_overriding :
    ∃ d report, LooksAt overridingContext overridingSession.tree overridingWay d ∧
      workflowDefaultShell.run overridingContext overridingSession = (.ok report, overridingSession) ∧
      ∃ j ∈ d.jobs, shownPath overridingWay ++ " - " ++ missingShell j ∉ report.failures ∧ j.hasRunSteps = true ∧
        j.defaults.shell? = none ∧ HasAcceptedShell d j := by
  obtain ⟨d, report, hlooks, hrun, hfailures, -, j, hj, hshell, hsteps⟩ := exists_overriding
  have hline : shownPath overridingWay ++ " - " ++ missingShell j ∉ report.failures := by simp [hfailures]
  obtain ⟨other, hother, hsound⟩ := (workflowDefaultShell_sound d).2 _ _ _ hlooks
  obtain rfl : report = other := by simpa [hrun] using hother
  refine ⟨d, report, hlooks, hrun, j, hj, hline, hsteps, hshell, ?_⟩
  rcases hsound j hj hline hsteps with haccepted | hover
  · exact haccepted
  · obtain ⟨own, hown, -⟩ := hover.job
    cases hshell.symm.trans hown

/-- The job that sets another one is not reported either. -/
theorem workflowDefaultShell_passes_overriding :
    ¬ ∀ ctx s names d report, LooksAt ctx s.tree names d → workflowDefaultShell.run ctx s = (.ok report, s) →
      (∀ j ∈ d.jobs, shownPath names ++ " - " ++ missingShell j ∉ report.failures) →
      ∀ j ∈ d.jobs, j.hasRunSteps = true → HasAcceptedShell d j := by
  intro hall
  obtain ⟨d, report, hlooks, hrun, hfailures, ⟨j, hj, hshell, hsteps⟩, -⟩ := exists_overriding
  obtain ⟨shell, haccepted, heffective⟩ := hall _ _ _ d report hlooks hrun (by simp [hfailures]) j hj hsteps
  obtain rfl : "cmd" = shell := by simpa [effectiveShell?, hshell] using heffective
  exact absurd haccepted (by decide)

end RepoConventions.Rules
