import RepoConventions.Proofs.Files.Glob
import RepoConventions.Proofs.Rules.Report
import RepoConventions.Rules.Builtin

/-!
# What the built-in rules find

A built-in rule leaves the session as it is. It passes just if the violations in the files that it is about are excused,
and only the rule about shells cannot run where there are no files for it.
-/

namespace RepoConventions.Rules

open Files (FileTree)

/-! Checks that only fail -/

/-- A check that makes these calls, all of them for failures, and leaves the tree as it is. -/
structure Check.OnlyFails {α : Type} (check : Check α) (calls : FileRecord → FileTree → List Call) : Prop where
  performs : check.Performs calls
  tree : ∀ f t, (check f t).2.2 = t
  severity : ∀ f t, ∀ c ∈ calls f t, c.severity = .fail

namespace Check.OnlyFails

variable {α : Type} {check : Check α} {calls : FileRecord → FileTree → List Call} {t : FileTree}

theorem checkAll_tree (h : check.OnlyFails calls) (files : List FileRecord) :
    (Runner.checkAll check files t).2 = t := by
  induction files with
  | nil => rfl
  | cons f rest ih =>
    change (Runner.checkAll check rest (check f t).2.2).2 = t
    rw [h.tree, ih]

theorem visits_eq (h : check.OnlyFails calls) (files : List FileRecord) :
    visits check calls files t = files.map fun f => (f, calls f t) := by
  induction files with
  | nil => rfl
  | cons f rest ih => rw [visits, h.tree, ih, List.map_cons]

theorem warnings_eq_nil (h : check.OnlyFails calls) (ctx : Context) (rule : String) (files : List FileRecord) :
    (expectedReport ctx rule (visits check calls files t)).warnings = [] := by
  change linesOf ctx rule .warn _ = []
  rw [linesOf, List.flatMap_eq_nil_iff, h.visits_eq]
  intro v hv
  obtain ⟨f, -, rfl⟩ := List.mem_map.mp hv
  refine (callLines_eq_nil_iff _ _).mpr (List.filter_eq_nil_iff.mpr fun c hc => ?_)
  simp [h.severity f t c hc]

/-- A run leaves the session as it is, and reports the calls on every file. -/
theorem reportOf_eq_expectedReport (h : check.OnlyFails calls) {r : Runner}
    (hfiles : ∀ f ∈ r.files, Unchecked r.context r.name f) (s : Session) :
    reportOf (.ok r) check s =
      (.ok (expectedReport r.context r.name (r.files.map fun f => (f, calls f s.tree))), s) := by
  have hreport := run_report h.performs hfiles s.warnings s.tree
  have hadd : s.warnings.add (Runner.checkAll check r.files s.tree).2 r.name
      (r.run check s.warnings s.tree).report.warnings = (.ok (), s.warnings, s.tree) := by
    rw [hreport, h.warnings_eq_nil, h.checkAll_tree]
    simp [WarningReport.add]
  have hsession : Session.mk (r.run check s.warnings s.tree).warnings (r.run check s.warnings s.tree).tree = s :=
    congrArg (fun added => Session.mk added.2.1 added.2.2) hadd
  rw [← h.visits_eq, ← hreport]
  exact Prod.ext rfl hsession

theorem reportOf_eq (h : check.OnlyFails calls) {r : Runner}
    (hfiles : ∀ f ∈ r.files, Unchecked r.context r.name f) (s : Session) :
    ∃ report, reportOf (.ok r) check s = (.ok report, s) ∧
      (report.passed = true ↔ ∀ f ∈ r.files, ∀ c ∈ calls f s.tree,
        r.context.ignores.excludes r.name c.code? (Files.Path.relativeTo r.context.root f.fullPath) = true) := by
  refine ⟨_, h.reportOf_eq_expectedReport hfiles s, ?_⟩
  rw [expectedReport_passed_iff]
  constructor
  · intro hall f hf c hc
    exact hall _ (List.mem_map_of_mem hf) c hc (h.severity f s.tree c hc)
  · intro hall v hv c hc _
    obtain ⟨f, hf, rfl⟩ := List.mem_map.mp hv
    exact hall f hf c hc

end Check.OnlyFails

/-! Finding files -/

theorem Runner.discover_eq {t : FileTree} {ctx : Context} {glob : String} {paths : List String}
    (h : t.find ctx.root glob = .ok paths) (name : String) (failIfNone : Bool) :
    discover t ctx glob name failIfNone = if failIfNone && paths.isEmpty then .error (.noFilesFound glob)
      else .ok ⟨name, ctx, paths.map (FileRecord.new ctx name)⟩ := by
  rw [discover, h]
  rfl

/-! Default shells -/

def IsWorkflowName (path : String) : Prop :=
  ∃ name, Files.Path.fileName? path = some name ∧ ".yml".toList <:+ name.toList

/-- The path of a file that has to be a workflow: relative to the root it begins with the directory of workflows. -/
def IsWorkflowPath (root path : String) : Prop :=
  IsWorkflowName path ∧ workflowsPath.toList <+: (Files.Path.relativeTo root path).toList

/-- What is read is no workflow, or one with a job that has run steps and for which no accepted shell is set. -/
inductive LeavesShellOpen : Except Workflow.Error Workflow.Document → Prop
  | unreadable (e : Workflow.Error) : LeavesShellOpen (.error e)
  | job {d : Workflow.Document} {j : Workflow.Job} (hj : j ∈ d.jobs) (hrun : j.hasRunSteps = true)
    (hjob : acceptsShell j.defaults.shell? = false) (hdocument : acceptsShell d.defaults.shell? = false) :
    LeavesShellOpen (.ok d)

def shellCalls (read : Except Workflow.Error Workflow.Document) : List Call :=
  (shellViolations read).filterMap fun v => v.reason.map .fail

theorem map_violation_shellCalls (read : Except Workflow.Error Workflow.Document) :
    (shellCalls read).map Call.violation = shellViolations read := by
  have hall : ∀ v ∈ shellViolations read, (v.reason.map fun reason => (Call.fail reason).violation) = some v := by
    cases read with
    | error e => simp [shellViolations, Violation.fail, Call.violation]
    | ok d =>
      intro v hv
      obtain ⟨j, -, rfl⟩ := List.mem_map.mp hv
      rfl
  rw [shellCalls, List.map_filterMap]
  simp only [Option.map_map]
  exact (List.filterMap_congr hall).trans List.filterMap_some

theorem shellCalls_eq_nil_iff {read : Except Workflow.Error Workflow.Document} :
    shellCalls read = [] ↔ ¬ LeavesShellOpen read := by
  rw [← List.map_eq_nil_iff, map_violation_shellCalls]
  cases read with
  | error e => simp [shellViolations, LeavesShellOpen.unreadable e]
  | ok d =>
    rw [shellViolations, List.map_eq_nil_iff, jobsWithoutShell]
    cases hdocument : acceptsShell d.defaults.shell? with
    | true =>
      refine ⟨fun _ h => ?_, fun _ => rfl⟩
      cases h with
      | job _ _ _ hnot => cases hdocument.symm.trans hnot
    | false =>
      rw [if_neg Bool.false_ne_true, List.filter_eq_nil_iff]
      constructor
      · intro hall h
        cases h with
        | job hj hrun hjob _ => exact hall _ hj (by simp [hrun, hjob])
      · intro h j hj hopen
        rw [Bool.and_eq_true, Bool.not_eq_true'] at hopen
        exact h (.job hj hopen.2 hopen.1 hdocument)

theorem forall_shellCalls_iff (read : Except Workflow.Error Workflow.Document) (p : Option String → Prop) :
    (∀ c ∈ shellCalls read, p c.code?) ↔ (LeavesShellOpen read → p none) := by
  have hcode : ∀ c ∈ shellCalls read, c.code? = none := by
    intro c hc
    obtain ⟨v, -, hv⟩ := List.mem_filterMap.mp hc
    obtain ⟨reason, -, rfl⟩ := Option.map_eq_some_iff.mp hv
    rfl
  constructor
  · intro hall hopen
    obtain ⟨c, hc⟩ := List.exists_mem_of_ne_nil _ (shellCalls_eq_nil_iff.not.mpr (not_not.mpr hopen))
    exact hcode c hc ▸ hall c hc
  · intro h c hc
    rw [hcode c hc]
    refine h (not_not.mp fun hnot => ?_)
    rw [shellCalls_eq_nil_iff.mpr hnot] at hc
    cases hc

theorem shellCheck_onlyFails : shellCheck.OnlyFails fun f t => shellCalls (f.workflow t).1 where
  performs f t := by
    refine .workflow ?_
    have hacts := Acts.noteAll (f.workflow t).2 t (shellCalls (f.workflow t).1)
    rwa [map_violation_shellCalls] at hacts
  tree f t := rfl
  severity f t c hc := by
    obtain ⟨v, -, hv⟩ := List.mem_filterMap.mp hc
    obtain ⟨reason, -, rfl⟩ := Option.map_eq_some_iff.mp hv
    rfl

theorem failCheck_onlyFails : failCheck.OnlyFails fun _ _ => [.markFailed] where
  performs f t := .call (.done _ _)
  tree f t := rfl
  severity f t c hc := by
    rw [List.mem_singleton.mp hc]
    rfl

/-! Rules -/

inductive Offends (t : FileTree) (root : String) (r : BuiltinRule) (path : String) : Prop
  | shell (hr : r = workflowDefaultShell) (hfile : t.HasFile root path) (hpath : IsWorkflowPath root path)
    (hopen : LeavesShellOpen (Workflow.Document.load t path))
  | suppressions (hr : r = globalSuppressions) (hfile : t.HasFile root path)
    (hname : Files.Path.fileName? path = some "GlobalSuppressions.cs")

/-- There is no file with the name of a workflow, which the rule about shells asks for. -/
structure LacksFiles (t : FileTree) (root : String) (r : BuiltinRule) : Prop where
  rule : r = workflowDefaultShell
  lacks : ∀ path, t.HasFile root path → ¬ IsWorkflowName path

/-- What a rule may have to say of a session that it leaves as it is. -/
inductive Tells (ctx : Context) (s : Session) (r : BuiltinRule) : Except RuleError RuleReport → Prop
  | error {e : RuleError} (hlacks : LacksFiles s.tree ctx.root r) : Tells ctx s r (.error e)
  | report {report : RuleReport} (hlacks : ¬ LacksFiles s.tree ctx.root r)
    (hpassed : report.passed = true ↔ ∀ path, Offends s.tree ctx.root r path →
      ctx.ignores.excludes r.id none (Files.Path.relativeTo ctx.root path) = true) : Tells ctx s r (.ok report)

theorem unchecked_of_mem {ctx : Context} {name : String} {paths : List String} {f : FileRecord}
    (hf : f ∈ paths.map (FileRecord.new ctx name)) : Unchecked ctx name f := by
  obtain ⟨path, -, rfl⟩ := List.mem_map.mp hf
  exact .new ctx name path

theorem globalSuppressions_run (ctx : Context) (s : Session) :
    (globalSuppressions.run ctx s).2 = s ∧ Tells ctx s globalSuppressions (globalSuppressions.run ctx s).1 := by
  have hplain : ∀ c ∈ "GlobalSuppressions.cs".toList, Files.Glob.IsPlain c := List.forall_iff_forall_mem.mp (by decide)
  obtain ⟨g, hg, hnames, haccepts⟩ := Files.Glob.ofText_plain hplain
  obtain ⟨paths, hpaths, hmem⟩ := s.tree.mem_find_iff ctx.root hg hnames
  have hrunner := Runner.discover_eq hpaths globalSuppressions.id false
  rw [Bool.false_and, if_neg Bool.false_ne_true] at hrunner
  obtain ⟨report, hreport, hpassed⟩ := failCheck_onlyFails.reportOf_eq (s := s)
    (r := ⟨globalSuppressions.id, ctx, paths.map (FileRecord.new ctx globalSuppressions.id)⟩) fun f => unchecked_of_mem
  have hrun : globalSuppressions.run ctx s = (.ok report, s) := by
    rw [← hreport, ← hrunner]
    rfl
  rw [hrun]
  refine ⟨rfl, .report ?_ ?_⟩
  · rintro ⟨hrule, -⟩
    exact absurd (congrArg BuiltinRule.id hrule) (by decide)
  · rw [hpassed]
    constructor
    · rintro hall path (⟨hr, -, -, -⟩ | ⟨-, hfile, hname⟩)
      · exact absurd (congrArg BuiltinRule.id hr) (by decide)
      · have hfound := (hmem path).mpr ⟨hfile, _, hname, (haccepts _).mpr rfl⟩
        exact hall _ (List.mem_map_of_mem hfound) .markFailed (List.mem_singleton_self _)
    · intro hall f hf c hc
      obtain ⟨path, hpath, rfl⟩ := List.mem_map.mp hf
      obtain ⟨hfile, name, hname, hg⟩ := (hmem path).mp hpath
      rw [List.mem_singleton.mp hc]
      exact hall path (.suppressions rfl hfile ((haccepts name).mp hg ▸ hname))

theorem mem_filter_workflows_iff {ctx : Context} {name : String} {paths : List String} {f : FileRecord} :
    f ∈ (paths.map (FileRecord.new ctx name)).filter (fun f => workflowsPath.toList.isPrefixOf f.relativePath.toList) ↔
      ∃ path ∈ paths, workflowsPath.toList <+: (Files.Path.relativeTo ctx.root path).toList ∧
        f = FileRecord.new ctx name path := by
  rw [List.mem_filter, List.isPrefixOf_iff_prefix]
  constructor
  · rintro ⟨hf, hprefix⟩
    obtain ⟨path, hpath, rfl⟩ := List.mem_map.mp hf
    exact ⟨path, hpath, hprefix, rfl⟩
  · rintro ⟨path, hpath, hprefix, rfl⟩
    exact ⟨List.mem_map_of_mem hpath, hprefix⟩

theorem exists_glob_workflows : ∃ g, Files.Glob.ofText "*.yml" = .ok g ∧ g.isForPaths = false ∧
    ∀ path, (∃ name, Files.Path.fileName? path = some name ∧ g.accepts name = true) ↔ IsWorkflowName path := by
  have hplain : ∀ c ∈ ".yml".toList, Files.Glob.IsPlain c := List.forall_iff_forall_mem.mp (by decide)
  have htext : "*.yml".toList = '*' :: ".yml".toList := rfl
  obtain ⟨g, hg, hnames, haccepts⟩ := Files.Glob.ofText_star_plain htext hplain
  refine ⟨g, hg, hnames, fun path => exists_congr fun name => and_congr_right fun hname => ?_⟩
  exact haccepts name (Files.slash_not_mem_of_fileName? hname)

theorem exists_find_workflows (t : FileTree) (root : String) :
    ∃ paths, t.find root "*.yml" = .ok paths ∧ ∀ path, path ∈ paths ↔ t.HasFile root path ∧ IsWorkflowName path := by
  obtain ⟨g, hg, hnames, haccepts⟩ := exists_glob_workflows
  obtain ⟨paths, hpaths, hmem⟩ := t.mem_find_iff root hg hnames
  exact ⟨paths, hpaths, fun path => (hmem path).trans (and_congr_right fun _ => haccepts path)⟩

def workflowRunner (ctx : Context) (paths : List String) : Runner where
  name := workflowDefaultShell.id
  context := ctx
  files := (paths.map (FileRecord.new ctx workflowDefaultShell.id)).filter fun f =>
    workflowsPath.toList.isPrefixOf f.relativePath.toList

theorem workflowDefaultShell_run_eq {ctx : Context} {s : Session} {paths : List String}
    (h : s.tree.find ctx.root "*.yml" = .ok paths) : workflowDefaultShell.run ctx s =
      if paths = [] then (.error (.noFilesFound "*.yml"), s)
      else reportOf (.ok (workflowRunner ctx paths)) shellCheck s := by
  have hdiscover := Runner.discover_eq h workflowDefaultShell.id true
  change reportOf (shellRunner s.tree ctx workflowDefaultShell.id) shellCheck s = _
  rw [shellRunner, hdiscover]
  cases paths with
  | nil => rfl
  | cons first rest => rfl

theorem workflowDefaultShell_run (ctx : Context) (s : Session) :
    (workflowDefaultShell.run ctx s).2 = s ∧ Tells ctx s workflowDefaultShell (workflowDefaultShell.run ctx s).1 := by
  obtain ⟨paths, hpaths, hmem⟩ := exists_find_workflows s.tree ctx.root
  rw [workflowDefaultShell_run_eq hpaths]
  by_cases hnone : paths = []
  · rw [if_pos hnone]
    refine ⟨rfl, .error ⟨rfl, fun path hfile hname => ?_⟩⟩
    have hfound := (hmem path).mpr ⟨hfile, hname⟩
    rw [hnone] at hfound
    cases hfound
  · rw [if_neg hnone]
    obtain ⟨first, hfirst⟩ := List.exists_mem_of_ne_nil paths hnone
    obtain ⟨report, hreport, hpassed⟩ := shellCheck_onlyFails.reportOf_eq (s := s) (r := workflowRunner ctx paths)
      fun f hf => unchecked_of_mem (List.mem_of_mem_filter hf)
    rw [hreport]
    refine ⟨rfl, .report ?_ ?_⟩
    · rintro ⟨-, hlacks⟩
      obtain ⟨hfile, hname⟩ := (hmem first).mp hfirst
      exact hlacks first hfile hname
    · rw [hpassed]
      have hcalls (path : String) := forall_shellCalls_iff (Workflow.Document.load s.tree path) fun code =>
        ctx.ignores.excludes workflowDefaultShell.id code (Files.Path.relativeTo ctx.root path) = true
      constructor
      · rintro hall path (⟨-, hfile, ⟨hname, hprefix⟩, hopen⟩ | ⟨hr, -, -⟩)
        · have hfound := (hmem path).mpr ⟨hfile, hname⟩
          exact (hcalls path).mp (hall _ (mem_filter_workflows_iff.mpr ⟨path, hfound, hprefix, rfl⟩)) hopen
        · exact absurd (congrArg BuiltinRule.id hr) (by decide)
      · intro hall f hf
        obtain ⟨path, hpath, hprefix, rfl⟩ := mem_filter_workflows_iff.mp hf
        obtain ⟨hfile, hname⟩ := (hmem path).mp hpath
        exact (hcalls path).mpr fun hopen => hall path (.shell rfl hfile ⟨hname, hprefix⟩ hopen)

/-- Every built-in rule leaves the session as it is, and tells whether its files are there and violate it. -/
theorem BuiltinRule.run_tells {r : BuiltinRule} (hr : r ∈ builtinRules) (ctx : Context) (s : Session) :
    (r.run ctx s).2 = s ∧ Tells ctx s r (r.run ctx s).1 := by
  simp only [builtinRules, List.mem_cons, List.not_mem_nil, or_false] at hr
  rcases hr with rfl | rfl
  · exact workflowDefaultShell_run ctx s
  · exact globalSuppressions_run ctx s

end RepoConventions.Rules
