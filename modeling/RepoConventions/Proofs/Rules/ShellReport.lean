import RepoConventions.Proofs.Rules.Discovery

/-!
# The report of the rule about shells

The whole outcome of the rule, from the files: those whose shown paths begin like the directory of workflows are
checked, in the order of their paths, and each has its own lines, unless it is excused.
-/

namespace RepoConventions.Rules

open Files (FileTree pathBelow shownPath)

def missingShell (j : Workflow.Job) : String :=
  "Job '" ++ j.id ++ "' does not have a default shell defined at the workflow or job level."

def shellReasons : Except Workflow.Error Workflow.Document → List String
  | .ok d => (jobsWithoutShell d).map missingShell
  | .error e => ["Unable to parse workflow: " ++ e.message]

theorem shellCalls_eq (read : Except Workflow.Error Workflow.Document) :
    shellCalls read = (shellReasons read).map .fail := by
  cases read with
  | error e => rfl
  | ok d =>
    rw [shellCalls, shellViolations, shellReasons, List.filterMap_map, List.map_map, ← List.filterMap_eq_map]
    rfl

def shellLines (ctx : Context) (t : FileTree) (names : List String) : List String :=
  if ctx.ignores.excludes workflowDefaultShell.id none (shownPath names) then []
  else (shellReasons (Workflow.Document.load t (pathBelow ctx.root names))).map fun reason =>
    shownPath names ++ " - " ++ reason

def shellReport (ctx : Context) (t : FileTree) (checked : List (List String)) : RuleReport where
  rule := workflowDefaultShell.id
  filesChecked := checked.length
  failures := checked.flatMap (shellLines ctx t)
  warnings := []

/-- The rule checks a file that a way leads to when its shown path begins like the directory of workflows. -/
def beginsLikeWorkflows (names : List String) : Bool := workflowsPath.toList.isPrefixOf (shownPath names).toList

theorem callLines_unexcused_fail (ctx : Context) (rule path : String) (reasons : List String) :
    callLines path (ctx.unexcused rule path .fail (reasons.map .fail)) =
      if ctx.ignores.excludes rule none path then [] else reasons.map fun reason => path ++ " - " ++ reason := by
  have hreasons : (reasons.map Call.fail).filterMap Call.reason? = reasons := by
    simp [List.filterMap_map, Function.comp_def, Call.reason?]
  cases he : ctx.ignores.excludes rule none path with
  | true =>
    rw [if_pos rfl, callLines_eq_nil_iff, Context.unexcused, List.filter_eq_nil_iff]
    intro c hc
    obtain ⟨reason, -, rfl⟩ := List.mem_map.mp hc
    simp [Call.code?, he]
  | false =>
    have hall : ctx.unexcused rule path .fail (reasons.map .fail) = reasons.map .fail := by
      rw [Context.unexcused, List.filter_eq_self]
      intro c hc
      obtain ⟨reason, -, rfl⟩ := List.mem_map.mp hc
      simp [Call.severity, Call.code?, he]
    rw [hall, if_neg Bool.false_ne_true, callLines, hreasons]
    cases reasons <;> simp

section Checked

variable {ctx : Context} {found : List (List String)}
  (hfound : ∀ names ∈ found, ctx.root ≠ "" ∧ ∀ s ∈ names, Files.isEntryName s = true)

include hfound

theorem workflowRunner_files : (workflowRunner ctx (found.map (pathBelow ctx.root))).files =
    (found.filter beginsLikeWorkflows).map fun names =>
      FileRecord.new ctx workflowDefaultShell.id (pathBelow ctx.root names) := by
  have hfilter : found.filter (fun names =>
      workflowsPath.toList.isPrefixOf (Files.Path.relativeTo ctx.root (pathBelow ctx.root names)).toList) =
      found.filter beginsLikeWorkflows := by
    refine List.filter_congr fun names hnames => ?_
    rw [Files.Path.relativeTo_pathBelow (hfound names hnames).1 (hfound names hnames).2, beginsLikeWorkflows]
  simp only [workflowRunner, List.map_map, List.filter_map, Function.comp_def, FileRecord.new, hfilter]

theorem linesOf_workflows (t : FileTree) : linesOf ctx workflowDefaultShell.id .fail
    ((found.map fun names => FileRecord.new ctx workflowDefaultShell.id (pathBelow ctx.root names)).map fun f =>
      (f, shellCalls (f.workflow t).1)) = found.flatMap (shellLines ctx t) := by
  rw [linesOf, List.map_map, List.flatMap_map]
  refine List.flatMap_congr fun names hnames => ?_
  change callLines (Files.Path.relativeTo ctx.root (pathBelow ctx.root names)) (ctx.unexcused _
    (Files.Path.relativeTo ctx.root (pathBelow ctx.root names)) .fail
    (shellCalls (Workflow.Document.load t (pathBelow ctx.root names)))) = _
  rw [Files.Path.relativeTo_pathBelow (hfound names hnames).1 (hfound names hnames).2, shellCalls_eq,
    callLines_unexcused_fail]
  rfl

theorem reportOf_workflowRunner (s : Session) :
    reportOf (.ok (workflowRunner ctx (found.map (pathBelow ctx.root)))) shellCheck s =
      (.ok (shellReport ctx s.tree (found.filter beginsLikeWorkflows)), s) := by
  have hunchecked : ∀ f ∈ (workflowRunner ctx (found.map (pathBelow ctx.root))).files,
      Unchecked ctx workflowDefaultShell.id f := fun f hf => unchecked_of_mem (List.mem_of_mem_filter hf)
  have hchecked : ∀ names ∈ found.filter beginsLikeWorkflows, ctx.root ≠ "" ∧
      ∀ s ∈ names, Files.isEntryName s = true := fun names hnames => hfound names (List.mem_of_mem_filter hnames)
  have hwarnings := shellCheck_onlyFails.warnings_eq_nil ctx workflowDefaultShell.id (t := s.tree)
    (workflowRunner ctx (found.map (pathBelow ctx.root))).files
  rw [shellCheck_onlyFails.visits_eq] at hwarnings
  refine (shellCheck_onlyFails.reportOf_eq_expectedReport hunchecked s).trans ?_
  refine congrArg (fun report => (Except.ok report, s)) ?_
  rw [workflowRunner_files hfound] at hwarnings ⊢
  rw [shellReport, ← linesOf_workflows hchecked s.tree, ← hwarnings]
  simp only [expectedReport, List.length_map]
  rfl

end Checked

theorem exists_glob_selecting : ∃ g, Files.Glob.ofText "*.yml" = .ok g ∧
    ∀ root names, g.selects root names = true ↔ IsWorkflowName (pathBelow root names) := by
  obtain ⟨g, hg, hnames, haccepts⟩ := exists_glob_workflows
  refine ⟨g, hg, fun root names => ?_⟩
  rw [Files.Glob.selects, hnames, if_neg Bool.false_ne_true, Option.any_eq_true, haccepts]

theorem workflowDefaultShell_run_found {g : Files.Glob} (hg : Files.Glob.ofText "*.yml" = .ok g) (ctx : Context)
    (s : Session) :
    let found := (s.tree.files ctx.root).filter (g.selects ctx.root)
    workflowDefaultShell.run ctx s = if found = [] then (.error (.noFilesFound "*.yml"), s)
      else (.ok (shellReport ctx s.tree (found.filter beginsLikeWorkflows)), s) := by
  simp only [workflowDefaultShell_run_eq (s.tree.find_eq_of_ofText ctx.root hg), List.map_eq_nil_iff]
  rw [reportOf_workflowRunner (fun names hnames =>
    FileTree.isEntryName_of_mem_files (List.mem_of_mem_filter hnames)) s]

/-- The outcome of the rule: an error when no file has the name of a workflow, else the report about those that are to
be checked. The session stays. -/
theorem workflowDefaultShell_report (ctx : Context) (s : Session) : ∃ found : List (List String),
    (∀ names, names ∈ found ↔
      s.tree.HasFileAt ctx.root names ∧ IsWorkflowName (pathBelow ctx.root names)) ∧
    found.Nodup ∧ (found.map (pathBelow ctx.root)).Pairwise Files.Path.Precedes ∧
    workflowDefaultShell.run ctx s =
      if found = [] then (.error (.noFilesFound "*.yml"), s)
      else (.ok (shellReport ctx s.tree (found.filter beginsLikeWorkflows)), s) := by
  obtain ⟨g, hg, hselects⟩ := exists_glob_selecting
  refine ⟨(s.tree.files ctx.root).filter (g.selects ctx.root), fun names => ?_, (s.tree.nodup_files ctx.root).filter _,
    s.tree.pairwise_paths ctx.root _, workflowDefaultShell_run_found hg ctx s⟩
  rw [List.mem_filter, hselects, Files.FileTree.mem_files_iff]

end RepoConventions.Rules
