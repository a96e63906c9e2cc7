import RepoConventions.Proofs.Ignore.RuleSet
import RepoConventions.Proofs.Rules.ShellSoundness
import RepoConventions.Proofs.Workflow.DefaultShells

/-!
# The failure lines of the rule about shells

The lines of a run file by file, from the ignore rules, the files and the values in them: an excused file has no line, a
file that holds no workflow has one, and a workflow has one for each of its jobs that lacks a shell.
-/

namespace RepoConventions.Rules

open Files (FileTree pathBelow shownPath)
open Workflow (Document DocumentOf HasRunText IsWorkflow Job JobOf nodeEntries shellSetBy?)
open Yaml (Value)

/-! Jobs -/

/-- A workflow or a job sets one of the two accepted shells. -/
def SetsAcceptedShell (node : Value) : Prop := shellSetBy? node = some "pwsh" ∨ shellSetBy? node = some "bash"

instance (node : Value) : Decidable (SetsAcceptedShell node) :=
  inferInstanceAs (Decidable (_ ∨ _))

/-- The entry of a job with a step that has a text to run, for which neither level sets an accepted shell. -/
def JobLacksShell (root : Value) (entry : Value × Value) : Prop :=
  HasRunText entry.2 ∧ ¬ SetsAcceptedShell root ∧ ¬ SetsAcceptedShell entry.2

instance (root : Value) (entry : Value × Value) : Decidable (JobLacksShell root entry) :=
  inferInstanceAs (Decidable (_ ∧ _ ∧ _))

def namesLackingShell (root : Value) : List String :=
  ((nodeEntries (root.field? "jobs")).filter (JobLacksShell root ·)).filterMap (·.1.scalarText?)

theorem acceptsShell_eq_true_iff {shell : Option String} :
    acceptsShell shell = true ↔ shell = some "pwsh" ∨ shell = some "bash" := by
  simp [acceptsShell_iff, acceptedShells]

theorem map_id_jobsWithoutShell {root : Value} {d : Document} (h : DocumentOf root d) :
    (jobsWithoutShell d).map (·.id) = namesLackingShell root := by
  have hroot : acceptsShell d.defaults.shell? = true ↔ SetsAcceptedShell root := by
    rw [acceptsShell_eq_true_iff, h.defaults.shell?_eq, SetsAcceptedShell]
  have hjobs := h.jobs
  rw [jobsWithoutShell, namesLackingShell]
  generalize nodeEntries (root.field? "jobs") = entries at hjobs
  generalize d.jobs = jobs at hjobs
  split
  · next haccepts =>
    have hnone : entries.filter (JobLacksShell root ·) = [] :=
      List.filter_eq_nil_iff.mpr fun e _ hlacks => (of_decide_eq_true hlacks).2.1 (hroot.mp haccepts)
    rw [hnone]
    rfl
  · next hnot =>
    induction hjobs with
    | nil => rfl
    | @cons e j entries jobs hjob _ ih =>
      have hlacks : (!acceptsShell j.defaults.shell? && j.hasRunSteps) = true ↔ JobLacksShell root e := by
        rw [Bool.and_eq_true, Bool.not_eq_true', Bool.eq_false_iff, ne_eq, acceptsShell_eq_true_iff,
          hjob.defaults.shell?_eq, hjob.hasRunSteps_iff, ← SetsAcceptedShell, JobLacksShell, ← hroot]
        tauto
      by_cases hreported : JobLacksShell root e
      · rw [List.filter_cons, if_pos (hlacks.mpr hreported), List.filter_cons, if_pos (decide_eq_true hreported),
          List.map_cons, List.filterMap_cons, hjob.id, ih]
      · rw [List.filter_cons, if_neg (hlacks.not.mpr hreported), List.filter_cons,
          if_neg (by simpa using hreported), ih]

/-! Files -/

/-- The file at a path can be read and holds a YAML value. -/
def HoldsValue (t : FileTree) (path : String) (v : Value) : Prop :=
  ∃ text, t.readText path = .ok text ∧ Yaml.valueAsWritten text = .ok v

/-- Some of the rules is for the check, has no code and matches the shown path. -/
def ExcusedBy (rules : List Ignore.Rule) (names : List String) : Prop :=
  ∃ r ∈ rules, Text.lowercase r.test = Text.lowercase workflowDefaultShell.id ∧ r.code = none ∧
    (r.path = Ignore.matchAll ∨ Ignore.patternMatches r.path (shownPath names) = true)

def lineAbout (names : List String) (reason : String) : String := shownPath names ++ " - " ++ reason

inductive LinesAbout (rules : List Ignore.Rule) (t : FileTree) (root : String) (names : List String) :
    List String → Prop
  | excused (h : ExcusedBy rules names) : LinesAbout rules t root names []
  | noWorkflow {e : Workflow.Error} (h : ¬ ExcusedBy rules names)
    (hnot : ¬ ∃ v, HoldsValue t (pathBelow root names) v ∧ IsWorkflow v)
    (herror : Document.load t (pathBelow root names) = .error e) :
    LinesAbout rules t root names [lineAbout names ("Unable to parse workflow: " ++ e.message)]
  | workflow {v : Value} (h : ¬ ExcusedBy rules names) (hholds : HoldsValue t (pathBelow root names) v)
    (hworkflow : IsWorkflow v) :
    LinesAbout rules t root names ((namesLackingShell v).map fun id => lineAbout names
      ("Job '" ++ id ++ "' does not have a default shell defined at the workflow or job level."))

theorem excludes_ofRules_iff {rules : List Ignore.Rule} {names : List String} :
    (Ignore.RuleSet.ofRules rules).excludes workflowDefaultShell.id none (shownPath names) = true ↔
      ExcusedBy rules names := by
  rw [Ignore.RuleSet.ofRules, Ignore.RuleSet.excludes_foldl_add, Ignore.RuleSet.excludes_empty, ExcusedBy]
  simp only [Bool.false_eq_true, false_or, Ignore.Rule.appliesTo, Ignore.Rule.coversCode, Ignore.Rule.coversPath,
    Bool.and_eq_true, Bool.or_eq_true, beq_iff_eq, Option.isNone_iff_eq_none, or_self]

theorem load_cases (t : FileTree) (path : String) :
    (∃ v d, HoldsValue t path v ∧ IsWorkflow v ∧ DocumentOf v d ∧ Document.load t path = .ok d) ∨
      (¬ ∃ v, HoldsValue t path v ∧ IsWorkflow v) ∧ ∃ e, Document.load t path = .error e := by
  cases hread : t.readText path with
  | error e =>
    refine .inr ⟨?_, _, by rw [Document.load, hread]⟩
    rintro ⟨v, ⟨text, htext, -⟩, -⟩
    cases hread.symm.trans htext
  | ok text =>
    have hload : Document.load t path = Document.ofText text := by rw [Document.load, hread]
    cases hvalue : Yaml.valueAsWritten text with
    | error e =>
      refine .inr ⟨?_, _, by rw [hload, Document.ofText, hvalue]⟩
      rintro ⟨v, ⟨text', htext, hv⟩, -⟩
      cases hread.symm.trans htext
      cases hvalue.symm.trans hv
    | ok v =>
      have hofText : Document.ofText text = Document.ofValue v := by rw [Document.ofText, hvalue]
      cases hd : Document.ofValue v with
      | ok d =>
        obtain ⟨hworkflow, hdocument⟩ := (Document.ofValue_decodes v).sound hd
        exact .inl ⟨v, d, ⟨text, hread, hvalue⟩, hworkflow, hdocument, by rw [hload, hofText, hd]⟩
      | error e =>
        refine .inr ⟨?_, e, by rw [hload, hofText, hd]⟩
        rintro ⟨w, ⟨text', htext, hw⟩, hworkflow⟩
        cases hread.symm.trans htext
        cases hvalue.symm.trans hw
        obtain ⟨d, hok⟩ := (Document.ofValue_decodes v).exists_ok hworkflow
        cases hd.symm.trans hok

theorem linesAbout_shellLines (rules : List Ignore.Rule) (config : Config) (packable : Option Bool) (t : FileTree)
    (names : List String) :
    LinesAbout rules t config.root names (shellLines ⟨config, .ofRules rules, packable⟩ t names) := by
  rw [shellLines]
  split
  · next h => exact .excused (excludes_ofRules_iff.mp h)
  · next h =>
    have hnot : ¬ ExcusedBy rules names := excludes_ofRules_iff.not.mp h
    change LinesAbout rules t config.root names
      ((shellReasons (Document.load t (pathBelow config.root names))).map (lineAbout names))
    rcases load_cases t (pathBelow config.root names) with ⟨v, d, hholds, hworkflow, hdocument, hload⟩ | ⟨hno, e, he⟩
    · have hlines := LinesAbout.workflow hnot hholds hworkflow
      rw [← map_id_jobsWithoutShell hdocument, List.map_map] at hlines
      rw [hload, shellReasons, List.map_map]
      exact hlines
    · rw [he]
      exact .noWorkflow hnot hno he

/-- Rules with codes play no part. -/
theorem workflowDefaultShell_run_withoutCodes (rules others : List Ignore.Rule)
    (h : others.filter (·.code.isNone) = rules.filter (·.code.isNone)) (config : Config) (packable : Option Bool)
    (s : Session) : workflowDefaultShell.run ⟨config, .ofRules others, packable⟩ s =
      workflowDefaultShell.run ⟨config, .ofRules rules, packable⟩ s := by
  obtain ⟨g, hg, -⟩ := exists_glob_selecting
  have hexcused (names : List String) : ExcusedBy others names ↔ ExcusedBy rules names := by
    have hmem (l : List Ignore.Rule) : ExcusedBy l names ↔ ∃ r ∈ l.filter (·.code.isNone),
        Text.lowercase r.test = Text.lowercase workflowDefaultShell.id ∧
          (r.path = Ignore.matchAll ∨ Ignore.patternMatches r.path (shownPath names) = true) := by
      simp only [ExcusedBy, List.mem_filter, Option.isNone_iff_eq_none]
      exact exists_congr fun r => by tauto
    rw [hmem, hmem, h]
  have hlines : shellLines ⟨config, .ofRules others, packable⟩ s.tree =
      shellLines ⟨config, .ofRules rules, packable⟩ s.tree := by
    funext names
    have hexcludes : (Ignore.RuleSet.ofRules others).excludes workflowDefaultShell.id none (shownPath names) =
        (Ignore.RuleSet.ofRules rules).excludes workflowDefaultShell.id none (shownPath names) := by
      rw [Bool.eq_iff_iff, excludes_ofRules_iff, excludes_ofRules_iff, hexcused]
    rw [shellLines, shellLines, hexcludes]
    rfl
  rw [workflowDefaultShell_run_found hg, workflowDefaultShell_run_found hg, shellReport, shellReport, hlines]
  rfl

/-- The failure lines of the rule, for any files, configuration and ignore rules: file by file, in the order of their
paths, the lines about the files that it checks. It cannot run just if no file has the name of a workflow, and ignore
rules with a code change nothing. -/
theorem workflowDefaultShell_lines (config : Config) (rules : List Ignore.Rule) (packable : Option Bool)
    (s : Session) :
    let ctx : Context := ⟨config, .ofRules rules, packable⟩
    ((∀ path, s.tree.HasFile ctx.root path → ¬ IsWorkflowName path) →
      workflowDefaultShell.run ctx s = (.error (.noFilesFound "*.yml"), s)) ∧
    ((∃ path, s.tree.HasFile ctx.root path ∧ IsWorkflowName path) →
      ∃ (checked lines : List (List String)) (report : RuleReport),
        workflowDefaultShell.run ctx s = (.ok report, s) ∧
        (∀ names, names ∈ checked ↔
          s.tree.HasFileAt ctx.root names ∧ LeadsToYml names ∧ (InWorkflows names ∨ BesideWorkflows names)) ∧
        (checked.map (pathBelow ctx.root)).Pairwise Files.Path.Precedes ∧
        List.Forall₂ (LinesAbout rules s.tree ctx.root) checked lines ∧
        report.failures = lines.flatten) ∧
    ∀ others : List Ignore.Rule, others.filter (·.code.isNone) = rules.filter (·.code.isNone) →
      workflowDefaultShell.run { ctx with ignores := .ofRules others } s = workflowDefaultShell.run ctx s := by
  obtain ⟨found, hfound, -, hascending, hrun⟩ :=
    workflowDefaultShell_report ⟨config, .ofRules rules, packable⟩ s
  refine ⟨fun hnone => ?_, ?_, fun others h => workflowDefaultShell_run_withoutCodes rules others h config packable s⟩
  · rw [hrun, if_pos ((eq_nil_iff_of_found hfound).mpr hnone)]
  · rintro ⟨path, hpath, hname⟩
    have hsome : found ≠ [] := fun hnil => (eq_nil_iff_of_found hfound).mp hnil path hpath hname
    rw [if_neg hsome] at hrun
    refine ⟨_, (found.filter beginsLikeWorkflows).map (shellLines ⟨config, .ofRules rules, packable⟩ s.tree), _, hrun,
      fun names => mem_checked_iff hfound, ?_, ?_, List.flatMap_def⟩
    · exact hascending.sublist (List.filter_sublist.map _)
    · rw [List.forall₂_map_right_iff, List.forall₂_same]
      exact fun names _ => linesAbout_shellLines rules config packable s.tree names

private def mixedText : String :=
  "jobs:\n a: {defaults: {run: {shell: bash}}, steps: [run: x]}\n 3.10: {defaults: {run: {shell: Bash}}, steps: [run: 1]}\n"

private def threeFiles (a b c : ByteArray) : FileTree :=
  ((FileTree.empty.putFile ["r", ".github", "workflows", "a.yml"] a).putFile
    ["r", ".github", "workflows", "b.yml"] b).putFile ["r", ".github", "workflows", "c.yml"] c

private def threePaths : List String :=
  ["/r/.github/workflows/a.yml", "/r/.github/workflows/b.yml", "/r/.github/workflows/c.yml"]

private theorem files_threeFiles (a b c : ByteArray) : (threeFiles a b c).files "/r" =
    [[".github", "workflows", "a.yml"], [".github", "workflows", "b.yml"], [".github", "workflows", "c.yml"]] :=
  FileTree.files_of_listed rfl rfl rfl (by decide +kernel)

private theorem find_threeFiles (a b c : ByteArray) : (threeFiles a b c).find "/r" "*.yml" = .ok threePaths := by
  obtain ⟨g, hg, hselects⟩ := exists_glob_selecting
  have hall : ∀ names ∈ (threeFiles a b c).files "/r", g.selects "/r" names = true := by
    simp only [files_threeFiles, List.forall_mem_cons, hselects]
    exact ⟨⟨"a.yml", by decide +kernel, by decide +kernel⟩, ⟨"b.yml", by decide +kernel, by decide +kernel⟩,
      ⟨"c.yml", by decide +kernel, by decide +kernel⟩, by simp⟩
  rw [FileTree.find_eq_of_ofText _ _ hg, List.filter_eq_self.mpr hall, files_threeFiles]
  rfl

private def mixedSession : Session :=
  ⟨.new (.ofRoot "/r"), threeFiles .empty "on: [".toUTF8 mixedText.toUTF8⟩

/-- The first rule excuses one file, and the second would excuse all if it had no code. -/
private def mixedRules : List Ignore.Rule :=
  [⟨"Workflow-Default-Shell", "**/A.yml", none, rfl⟩,
    ⟨"workflow-default-shell", Ignore.matchAll, some "S1", Ignore.patternFault?_matchAll⟩]

private theorem exists_mixed : ∃ path, mixedSession.tree.HasFile "/r" path ∧ IsWorkflowName path := by
  obtain ⟨paths, hpaths, hmem⟩ := exists_find_workflows mixedSession.tree "/r"
  obtain rfl : threePaths = paths := Except.ok.inj ((find_threeFiles _ _ _).symm.trans hpaths)
  exact ⟨_, (hmem _).mp List.mem_cons_self⟩

/-- Of three files one is excused and one holds no workflow; the third has two jobs, one of which has no accepted shell. -/
theorem workflowDefaultShell_lines_mixed : ∃ (checked lines : List (List String)) (report : RuleReport),
    workflowDefaultShell.run ⟨.ofRoot "/r", .ofRules mixedRules, none⟩ mixedSession = (.ok report, mixedSession) ∧
    List.Forall₂ (LinesAbout mixedRules mixedSession.tree "/r") checked lines ∧
    lines.flatten = [".github/workflows/b.yml - Unable to parse workflow: invalid YAML: ",
      ".github/workflows/c.yml - Job '3.10' does not have a default shell defined at the workflow or job level."] := by
  obtain ⟨checked, lines, report, hrun, -, -, hlines, hfailures⟩ :=
    (workflowDefaultShell_lines (.ofRoot "/r") mixedRules none mixedSession).2.1 exists_mixed
  refine ⟨checked, lines, report, hrun, hlines, ?_⟩
  have hreport : (reportOf (.ok (workflowRunner ⟨.ofRoot "/r", .ofRules mixedRules, none⟩ threePaths)) shellCheck
      mixedSession).1.toOption.map RuleReport.failures =
      some [".github/workflows/b.yml - Unable to parse workflow: invalid YAML: ",
          ".github/workflows/c.yml - Job '3.10' does not have a default shell defined at the workflow or job level."] := by
    decide +kernel
  rw [workflowDefaultShell_run_eq (find_threeFiles _ _ _), if_neg (by simp [threePaths])] at hrun
  rw [hrun] at hreport
  exact hfailures.symm.trans (Option.some.inj hreport)

end RepoConventions.Rules
