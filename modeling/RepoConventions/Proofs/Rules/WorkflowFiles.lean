import RepoConventions.Proofs.Rules.ShellReport

/-!
# Which files are checked for default shells

The rule about shells compares shown paths with the path of the directory of workflows as texts. So beside the files
in that directory it checks those at or below a neighbour whose name goes on after that of the directory, and those at or
below an entry of the root whose name spells the path with a backslash.
-/

namespace RepoConventions.Rules

open Files (FileTree IsShownAsIs pathBelow shownPath)

/-! The directory of workflows -/

/-- The way leads to something in the directory of workflows or below it. -/
def InWorkflows (names : List String) : Prop := ∃ name below, names = ".github" :: "workflows" :: name :: below

/-- The way does not lead there, but is shown as if it began like the path of the directory. -/
inductive BesideWorkflows : List String → Prop
  | neighbour {name : String} (below : List String) (hbegins : "workflows".toList <+: name.toList)
    (hne : name ≠ "workflows") : BesideWorkflows (".github" :: name :: below)
  | backslash {name : String} (below : List String) (hbegins : ".github\\workflows".toList <+: name.toList) :
    BesideWorkflows (name :: below)

def LeadsToYml (names : List String) : Prop := ∃ name, names.getLast? = some name ∧ ".yml".toList <:+ name.toList

theorem BesideWorkflows.not_inWorkflows {names : List String} (h : BesideWorkflows names) : ¬ InWorkflows names := by
  rintro ⟨name, below, rfl⟩
  cases h with
  | neighbour _ _ hne => exact hne rfl
  | backslash _ hbegins => exact absurd hbegins (by decide)

theorem append_cons_prefix_iff {before after l : List Char} {c : Char} :
    before ++ c :: after <+: l ↔ ∃ rest, l = before ++ c :: rest ∧ after <+: rest := by
  constructor
  · rintro ⟨more, rfl⟩
    exact ⟨after ++ more, by simp, List.prefix_append _ _⟩
  · rintro ⟨rest, rfl, hafter⟩
    rw [List.prefix_append_right_inj, List.cons_prefix_cons]
    exact ⟨rfl, hafter⟩

theorem beginsLikeWorkflows_iff {names : List String} (hnames : ∀ s ∈ names, Files.isEntryName s = true) :
    beginsLikeWorkflows names = true ↔
      (∃ name below, names = ".github" :: name :: below ∧ "workflows".toList <+: name.toList) ∨
      ∃ name below, names = name :: below ∧ ".github\\workflows".toList <+: name.toList := by
  have hgithub : ∀ c ∈ ".github".toList, IsShownAsIs c := List.forall_iff_forall_mem.mp (by decide)
  have hworkflows : ∀ c ∈ "workflows".toList, IsShownAsIs c := List.forall_iff_forall_mem.mp (by decide)
  have hpath : workflowsPath.toList = ".github".toList ++ '/' :: "workflows".toList := rfl
  have hgithubPlain : ∀ c ∈ ".github".toList, c ≠ Files.OsText.mark ∧ c ≠ Files.OsText.replacement :=
    List.forall_iff_forall_mem.mp (by decide)
  have hworkflowsPlain : ∀ c ∈ "workflows".toList, c ≠ Files.OsText.mark ∧ c ≠ Files.OsText.replacement :=
    List.forall_iff_forall_mem.mp (by decide)
  have hpathPlain : ∀ c ∈ ".github\\workflows".toList, c ≠ Files.OsText.mark ∧ c ≠ Files.OsText.replacement :=
    List.forall_iff_forall_mem.mp (by decide)
  rw [beginsLikeWorkflows, List.isPrefixOf_iff_prefix, hpath]
  cases names with
  | nil =>
    have hnothing : (shownPath []).toList = [] := by decide
    simp [hnothing]
  | cons first rest =>
    obtain ⟨hfirst, hrest⟩ := List.forall_mem_cons.mp hnames
    have hspelling := Files.isSpelling_of_isEntryName hfirst
    have hslash : '/' ∉ (Files.OsText.shown first).toList := fun hmem =>
      Files.slash_not_mem_of_isEntryName hfirst (Files.OsText.mem_of_mem_shown hspelling (by decide) hmem)
    rw [Files.shownPath_cons, Files.prefix_slash_shown_iff (Files.head?_shownBelow rest) hgithub hslash]
    refine or_congr ?_ ?_
    · rw [Files.OsText.toList_shown_eq_iff hspelling hgithubPlain]
      cases rest with
      | nil => simp [Files.shownBelow]
      | cons name below =>
        obtain ⟨hname, -⟩ := List.forall_mem_cons.mp hrest
        rw [Files.shownBelow, List.cons_append, List.cons_prefix_cons,
          Files.prefix_shown_iff (Files.head?_shownBelow below) hworkflows,
          Files.OsText.prefix_toList_shown_iff (Files.isSpelling_of_isEntryName hname) hworkflowsPlain,
          String.toList_inj]
        simp
    · have hslashed : ".github".toList ++ '\\' :: "workflows".toList = ".github\\workflows".toList := rfl
      simp only [Files.prefix_shown_iff (Files.head?_shownBelow rest) hworkflows]
      rw [← append_cons_prefix_iff, hslashed, Files.OsText.prefix_toList_shown_iff hspelling hpathPlain]
      constructor
      · exact fun h => ⟨first, rest, rfl, h⟩
      · rintro ⟨name, below, hcons, h⟩
        obtain ⟨rfl, rfl⟩ := List.cons.inj hcons
        exact h

theorem beginsLikeWorkflows_iff_of_leadsToYml {names : List String} (hyml : LeadsToYml names)
    (hnames : ∀ s ∈ names, Files.isEntryName s = true) :
    beginsLikeWorkflows names = true ↔ InWorkflows names ∨ BesideWorkflows names := by
  rw [beginsLikeWorkflows_iff hnames]
  constructor
  · rintro (⟨name, below, rfl, hbegins⟩ | ⟨name, below, rfl, hbegins⟩)
    · by_cases hname : name = "workflows"
      · subst hname
        cases below with
        | nil =>
          -- the directory itself has no such name
          obtain ⟨last, hlast, hends⟩ := hyml
          obtain rfl : "workflows" = last := by simpa using hlast
          exact absurd hends (by decide)
        | cons name below => exact .inl ⟨name, below, rfl⟩
      · exact .inr (.neighbour below hbegins hname)
    · exact .inr (.backslash below hbegins)
  · rintro (⟨name, below, rfl⟩ | ⟨below, hbegins, -⟩ | ⟨below, hbegins⟩)
    · exact .inl ⟨"workflows", name :: below, rfl, List.prefix_rfl⟩
    · exact .inl ⟨_, below, rfl, hbegins⟩
    · exact .inr ⟨_, below, rfl, hbegins⟩

theorem isWorkflowName_pathBelow_iff {root : String} (hroot : root ≠ "") {names : List String}
    (hnames : ∀ s ∈ names, Files.isEntryName s = true) (hne : names ≠ []) :
    IsWorkflowName (pathBelow root names) ↔ LeadsToYml names := by
  rw [IsWorkflowName, Files.Path.fileName?_pathBelow hroot hnames hne, LeadsToYml]

theorem beginsLikeWorkflows_nil : beginsLikeWorkflows [] = false := by decide

section Found

variable {t : FileTree} {root : String} {found : List (List String)}
  (hfound : ∀ names, names ∈ found ↔ t.HasFileAt root names ∧ IsWorkflowName (pathBelow root names))

include hfound

theorem eq_nil_iff_of_found : found = [] ↔ ∀ path, t.HasFile root path → ¬ IsWorkflowName path := by
  rw [List.eq_nil_iff_forall_not_mem]
  constructor
  · rintro hnone path ⟨names, hat, rfl⟩ hname
    exact hnone names ((hfound names).mpr ⟨hat, hname⟩)
  · intro hnone names hmem
    obtain ⟨hat, hname⟩ := (hfound names).mp hmem
    exact hnone _ ⟨names, hat, rfl⟩ hname

/-- Of all files with the name of a workflow those in the directory and beside it are checked. -/
theorem mem_checked_iff {names : List String} : names ∈ found.filter beginsLikeWorkflows ↔
    t.HasFileAt root names ∧ LeadsToYml names ∧ (InWorkflows names ∨ BesideWorkflows names) := by
  rw [List.mem_filter, hfound, and_assoc]
  refine and_congr_right fun hat => ?_
  obtain ⟨hroot, hnames⟩ := FileTree.isEntryName_of_mem_files (FileTree.mem_files_iff.mpr hat)
  by_cases hne : names = []
  · subst hne
    simp [beginsLikeWorkflows_nil, LeadsToYml]
  · rw [isWorkflowName_pathBelow_iff hroot hnames hne]
    exact and_congr_right fun hyml => beginsLikeWorkflows_iff_of_leadsToYml hyml hnames

end Found

/-- With a file of a workflow anywhere, the files that are checked are those in the directory of workflows and those
beside it, each once. The report counts them, and each of its lines is about one of them. So just those in the directory
are checked if and only if there are none beside it. -/
theorem workflowDefaultShell_checked (ctx : Context) (s : Session)
    (hfile : ∃ path, s.tree.HasFile ctx.root path ∧ IsWorkflowName path) :
    ∃ (checked : List (List String)) (report : RuleReport),
      workflowDefaultShell.run ctx s = (.ok report, s) ∧
      checked.Nodup ∧
      (∀ names, names ∈ checked ↔
        s.tree.HasFileAt ctx.root names ∧ LeadsToYml names ∧ (InWorkflows names ∨ BesideWorkflows names)) ∧
      report.filesChecked = checked.length ∧
      (∀ line ∈ report.failures, ∃ names ∈ checked, ∃ reason, line = shownPath names ++ " - " ++ reason) ∧
      ((∀ names ∈ checked, InWorkflows names) ↔
        ∀ names, s.tree.HasFileAt ctx.root names → LeadsToYml names → ¬ BesideWorkflows names) := by
  obtain ⟨found, hfound, hnodup, -, hrun⟩ := workflowDefaultShell_report ctx s
  have hnone : found ≠ [] := by
    obtain ⟨path, hpath, hname⟩ := hfile
    exact fun hnil => (eq_nil_iff_of_found hfound).mp hnil path hpath hname
  have hmem (names : List String) : names ∈ found.filter beginsLikeWorkflows ↔ _ := mem_checked_iff hfound
  rw [if_neg hnone] at hrun
  refine ⟨_, _, hrun, hnodup.filter _, hmem, rfl, ?_, ?_⟩
  · intro line hline
    obtain ⟨names, hnames, hline⟩ := List.mem_flatMap.mp hline
    rw [shellLines] at hline
    split at hline
    · cases hline
    · obtain ⟨reason, -, rfl⟩ := List.mem_map.mp hline
      exact ⟨names, hnames, reason, rfl⟩
  · constructor
    · intro hall names hat hyml hbeside
      exact hbeside.not_inWorkflows (hall names ((hmem names).mpr ⟨hat, hyml, .inr hbeside⟩))
    · intro hall names hchecked
      obtain ⟨hat, hyml, hin | hbeside⟩ := (hmem names).mp hchecked
      · exact hin
      · exact absurd hbeside (hall names hat hyml)

/-- A repository whose only workflow lies in a neighbour of the directory. -/
private def besideTree : FileTree := FileTree.empty.putFile ["r", ".github", "workflows-old", "a.yml"] .empty

private def besideContext : Context := ⟨.ofRoot "/r", .ofRules [], none⟩

private def besideSession : Session := ⟨.new (.ofRoot "/r"), besideTree⟩

private theorem hasFileAt_beside_iff (names : List String) :
    besideTree.HasFileAt "/r" names ↔ names = [".github", "workflows-old", "a.yml"] := by
  have hfiles : besideTree.files "/r" = [[".github", "workflows-old", "a.yml"]] := by decide +kernel
  rw [← FileTree.mem_files_iff, hfiles, List.mem_singleton]

private theorem exists_beside : ∃ path, besideSession.tree.HasFile besideContext.root path ∧ IsWorkflowName path := by
  exact ⟨_, ⟨_, (hasFileAt_beside_iff _).mpr rfl, rfl⟩, "a.yml", by decide +kernel, by decide⟩

private theorem filesChecked_beside :
    ∀ report, workflowDefaultShell.run besideContext besideSession = (.ok report, besideSession) →
      report.filesChecked = 1 := by
  intro report hrun
  have hcount : (workflowDefaultShell.run besideContext besideSession).1.toOption.map RuleReport.filesChecked =
      some 1 := by
    decide +kernel
  rw [hrun] at hcount
  exact Option.some.inj hcount

/-- The one file that is checked there lies in the neighbour. -/
theorem workflowDefaultShell_checked_beside :
    (∃ path, besideTree.HasFile "/r" path ∧ IsWorkflowName path) ∧
    ∃ report, workflowDefaultShell.run besideContext besideSession = (.ok report, besideSession) ∧
      report.filesChecked = 1 ∧
      ∀ line ∈ report.failures, ∃ reason, line = ".github/workflows-old/a.yml" ++ " - " ++ reason := by
  refine ⟨exists_beside, ?_⟩
  obtain ⟨checked, report, hrun, -, hmem, -, hlines, -⟩ :=
    workflowDefaultShell_checked besideContext besideSession exists_beside
  refine ⟨report, hrun, filesChecked_beside report hrun, fun line hline => ?_⟩
  obtain ⟨names, hnames, reason, rfl⟩ := hlines line hline
  have hname : names = [".github", "workflows-old", "a.yml"] :=
    (hasFileAt_beside_iff names).mp ((hmem names).mp hnames).1
  have hshown : shownPath [".github", "workflows-old", "a.yml"] = ".github/workflows-old/a.yml" := by decide +kernel
  exact ⟨reason, by rw [hname, hshown]⟩

/-- So it is not so that just the files in the directory of workflows are checked. -/
theorem workflowDefaultShell_checks_neighbour :
    ¬ ∀ (ctx : Context) (s : Session), (∃ path, s.tree.HasFile ctx.root path ∧ IsWorkflowName path) →
      ∃ (checked : List (List String)) (report : RuleReport),
        workflowDefaultShell.run ctx s = (.ok report, s) ∧
        (∀ names, names ∈ checked ↔ s.tree.HasFileAt ctx.root names ∧ LeadsToYml names ∧ InWorkflows names) ∧
        report.filesChecked = checked.length := by
  intro hall
  obtain ⟨checked, report, hrun, hmem, hcount⟩ := hall besideContext besideSession exists_beside
  rw [filesChecked_beside report hrun] at hcount
  obtain ⟨names, hnames⟩ := List.exists_mem_of_length_pos (by omega : 0 < checked.length)
  obtain ⟨hat, -, name, below, hin⟩ := (hmem names).mp hnames
  have hway := (hasFileAt_beside_iff names).mp hat
  simp [hin] at hway

end RepoConventions.Rules
