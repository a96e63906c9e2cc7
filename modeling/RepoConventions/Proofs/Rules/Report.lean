import RepoConventions.Proofs.Files.Discovery
import RepoConventions.Proofs.Rules.Calls
import RepoConventions.Proofs.Rules.Narrowing

/-!
# Reports and calls

The report of a run is determined by the surviving files and the calls on each of them: every call that no ignore rule
excuses is in it, in its place, and nothing else is.
-/

namespace RepoConventions.Rules

open Files (FileTree)

/-- The records that a check is given, each with the calls that it makes on it. -/
def visits {α : Type} (check : Check α) (calls : FileRecord → FileTree → List Call) :
    List FileRecord → FileTree → List (FileRecord × List Call)
  | [], _ => []
  | f :: rest, t => (f, calls f t) :: visits check calls rest (check f t).2.2

def linesOf (ctx : Context) (rule : String) (s : Severity) (seen : List (FileRecord × List Call)) : List String :=
  seen.flatMap fun v =>
    let path := Files.Path.relativeTo ctx.root v.1.fullPath
    callLines path (ctx.unexcused rule path s v.2)

/-- The report that the calls on the surviving files ask for. -/
def expectedReport (ctx : Context) (rule : String) (seen : List (FileRecord × List Call)) : RuleReport where
  rule := rule
  filesChecked := seen.length
  failures := linesOf ctx rule .fail seen
  warnings := linesOf ctx rule .warn seen

/-! Kept files -/

theorem Filter.keep_sameFile {t : FileTree} {packable : Option Bool} {filter : Filter} {keep : Keep}
    {f g : FileRecord} (hk : filter.keep t packable = .ok keep) (h : keep f = some g) :
    SameFile f g ∧ g.marks = f.marks := by
  rw [filter.eq_of_keep hk h]
  split
  · exact ⟨SameFile.project f t, rfl⟩
  · exact ⟨SameFile.refl f, rfl⟩

theorem Keep.all_sameFile {t : FileTree} {packable : Option Bool} {filters : List Filter} {keeps : List Keep}
    {f g : FileRecord} (hk : filters.mapM (Filter.keep t packable) = .ok keeps) (h : Keep.all keeps f = some g) :
    SameFile f g ∧ g.marks = f.marks := by
  induction filters generalizing keeps f with
  | nil =>
    cases hk
    cases h
    exact ⟨SameFile.refl _, rfl⟩
  | cons filter rest ih =>
    cases hone : filter.keep t packable with
    | error e => simp [hone, bind, Except.bind] at hk
    | ok keep =>
      cases hrest : rest.mapM (Filter.keep t packable) with
      | error e => simp [hone, hrest, bind, Except.bind] at hk
      | ok others =>
        have hkeeps : keeps = keep :: others := by
          simpa [hone, hrest, bind, Except.bind, pure, Except.pure] using hk.symm
        subst hkeeps
        obtain ⟨between, hbetween, hg⟩ := Option.bind_eq_some_iff.mp h
        obtain ⟨hfirst, hmarks⟩ := filter.keep_sameFile hone hbetween
        obtain ⟨hothers, hmarks'⟩ := ih hrest hg
        exact ⟨hfirst.trans hothers, hmarks'.trans hmarks⟩

/-- The surviving files are made from found paths, each as all filters leave it. -/
theorem surviving_eq_ok {t : FileTree} {ctx : Context} {glob name : String} {failIfNone : Bool}
    {filters : List Filter} {files : List FileRecord}
    (h : surviving t ctx glob name failIfNone filters = .ok files) :
    ∃ paths keeps, t.find ctx.root glob = .ok paths ∧
      filters.mapM (Filter.keep t ctx.repoPackable) = .ok keeps ∧
      files = (paths.map (FileRecord.new ctx name)).filterMap (Keep.all keeps) := by
  cases hpaths : t.find ctx.root glob with
  | error e => simp [surviving, hpaths, bind, Except.bind] at h
  | ok paths =>
    cases hnone : failIfNone && paths.isEmpty with
    | true => simp [surviving, hpaths, hnone, bind, Except.bind] at h
    | false =>
      cases hkeeps : filters.mapM (Filter.keep t ctx.repoPackable) with
      | error e => simp [surviving, survivors, hpaths, hnone, hkeeps, bind, Except.bind] at h
      | ok keeps =>
        have hfiles : (paths.map (FileRecord.new ctx name)).filterMap (Keep.all keeps) = files := by
          simpa [surviving, survivors, hpaths, hnone, hkeeps, bind, Except.bind, pure, Except.pure] using h
        exact ⟨paths, keeps, rfl, rfl, hfiles.symm⟩

/-- A record as it is before its check: of its rule and context, and without marks. -/
structure Unchecked (ctx : Context) (rule : String) (f : FileRecord) : Prop where
  relativePath : f.relativePath = Files.Path.relativeTo ctx.root f.fullPath
  rule : f.rule = rule
  context : f.context = ctx
  marks : f.marks = .clear

namespace Unchecked

variable {ctx : Context} {rule : String} {f g : FileRecord}

theorem new (ctx : Context) (rule path : String) : Unchecked ctx rule (.new ctx rule path) :=
  ⟨rfl, rfl, rfl, rfl⟩

theorem of_sameFile (hf : Unchecked ctx rule f) (h : SameFile f g) (hm : g.marks = f.marks) :
    Unchecked ctx rule g where
  relativePath := by rw [h.relativePath, hf.relativePath, h.fullPath]
  rule := h.rule.trans hf.rule
  context := h.context.trans hf.context
  marks := hm.trans hf.marks

end Unchecked

theorem unchecked_of_surviving {t : FileTree} {ctx : Context} {glob name : String} {failIfNone : Bool}
    {filters : List Filter} {files : List FileRecord}
    (h : surviving t ctx glob name failIfNone filters = .ok files) : ∀ f ∈ files, Unchecked ctx name f := by
  intro f hf
  obtain ⟨paths, keeps, -, hkeeps, rfl⟩ := surviving_eq_ok h
  obtain ⟨g, hg, hkept⟩ := List.mem_filterMap.mp hf
  obtain ⟨path, -, rfl⟩ := List.mem_map.mp hg
  obtain ⟨hsame, hmarks⟩ := Keep.all_sameFile hkeeps hkept
  exact (Unchecked.new ctx name path).of_sameFile hsame hmarks

/-! Lines -/

theorem callLines_eq_nil_iff (path : String) (calls : List Call) : callLines path calls = [] ↔ calls = [] := by
  cases calls with
  | nil => simp [callLines]
  | cons c rest =>
    cases hr : (c :: rest).filterMap Call.reason? <;> simp [callLines, hr]

def markLines (s : Severity) (files : List FileRecord) : List String :=
  files.flatMap fun f => (f.marks.mark s).lines f.relativePath

theorem Acts.lines {ctx : Context} {rule : String} {f g : FileRecord} {t u : FileTree} {calls : List Call}
    (h : Acts f t calls g u) (hf : Unchecked ctx rule f) (s : Severity) :
    (g.marks.mark s).lines g.relativePath =
      callLines (Files.Path.relativeTo ctx.root f.fullPath)
        (ctx.unexcused rule (Files.Path.relativeTo ctx.root f.fullPath) s calls) := by
  have hclear : f.marks.mark s = Mark.clear := by
    rw [hf.marks]
    cases s <;> rfl
  rw [h.marks_mark s, hclear, Mark.lines_addCalls, h.sameFile.relativePath, hf.context, hf.rule, hf.relativePath]

theorem checkAll_lines {α : Type} {check : Check α} {calls : FileRecord → FileTree → List Call}
    (hcalls : check.Performs calls) {ctx : Context} {rule : String} {files : List FileRecord} {t : FileTree}
    (hfiles : ∀ f ∈ files, Unchecked ctx rule f) (s : Severity) :
    markLines s ((Runner.checkAll check files t).1.map (·.2)) = linesOf ctx rule s (visits check calls files t) := by
  induction files generalizing t with
  | nil => rfl
  | cons f rest ih =>
    have hhead := (hcalls f t).lines (hfiles f (by simp)) s
    have htail := ih (t := (check f t).2.2) (fun g hg => hfiles g (List.mem_cons_of_mem f hg))
    have hcheck : (Runner.checkAll check (f :: rest) t).1.map (·.2) =
        (check f t).2.1 :: (Runner.checkAll check rest (check f t).2.2).1.map (·.2) := rfl
    rw [hcheck, markLines, List.flatMap_cons, hhead]
    change _ ++ markLines s _ = _
    rw [htail]
    rfl

theorem checkAll_length {α : Type} (check : Check α) (files : List FileRecord) (t : FileTree) :
    (Runner.checkAll check files t).1.length = files.length := by
  induction files generalizing t with
  | nil => rfl
  | cons f rest ih => exact congrArg Nat.succ (ih (check f t).2.2)

theorem visits_length {α : Type} (check : Check α) (calls : FileRecord → FileTree → List Call)
    (files : List FileRecord) (t : FileTree) : (visits check calls files t).length = files.length := by
  induction files generalizing t with
  | nil => rfl
  | cons f rest ih => exact congrArg Nat.succ (ih (check f t).2.2)

theorem run_report {α : Type} {check : Check α} {calls : FileRecord → FileTree → List Call}
    (hcalls : check.Performs calls) {r : Runner} (hfiles : ∀ f ∈ r.files, Unchecked r.context r.name f)
    (w : WarningReport) (t : FileTree) :
    (r.run check w t).report = expectedReport r.context r.name (visits check calls r.files t) := by
  have hfail := checkAll_lines hcalls hfiles (t := t) .fail
  have hwarn := checkAll_lines hcalls hfiles (t := t) .warn
  have hlen : ((Runner.checkAll check r.files t).1.map (·.2)).length = (visits check calls r.files t).length := by
    rw [List.length_map, checkAll_length, visits_length]
  change Runner.report r.name ((Runner.checkAll check r.files t).1.map (·.2)) = _
  rw [Runner.report, expectedReport, hlen, ← hfail, ← hwarn]
  rfl

theorem expectedReport_passed_iff (ctx : Context) (rule : String) (seen : List (FileRecord × List Call)) :
    (expectedReport ctx rule seen).passed = true ↔
      ∀ v ∈ seen, ∀ c ∈ v.2, c.severity = .fail →
        ctx.ignores.excludes rule c.code? (Files.Path.relativeTo ctx.root v.1.fullPath) = true := by
  rw [RuleReport.passed, List.isEmpty_iff]
  change linesOf ctx rule .fail seen = [] ↔ _
  rw [linesOf, List.flatMap_eq_nil_iff]
  simp [callLines_eq_nil_iff, Context.unexcused, List.filter_eq_nil_iff]

theorem failureMessage?_eq_none_iff (r : RuleReport) : r.failureMessage? = none ↔ r.passed = true := by
  cases h : r.passed <;> simp [RuleReport.failureMessage?, h]

theorem result_eq_error_iff (r : RuleReport) (e : RuleFailure) :
    r.result = .error e ↔ r.passed = false ∧ e = r.failure := by
  cases h : r.passed <;> simp [RuleReport.result, h, eq_comm]

/-- A runner can be built exactly when its files can be found, and its report is then the one that the calls on them ask
for. It passes, has no message and is its own result exactly when every failing call is excused. -/
theorem build_run_report {α : Type} (t : FileTree) (ctx : Context) (glob name : String) (failIfNone : Bool)
    (filters : List Filter) (check : Check α) (calls : FileRecord → FileTree → List Call)
    (hcalls : check.Performs calls) (w : WarningReport) (u : FileTree) :
    (∀ e, Runner.build t ctx glob name failIfNone filters = .error e ↔
      surviving t ctx glob name failIfNone filters = .error e) ∧
    ∀ files, surviving t ctx glob name failIfNone filters = .ok files →
      ∃ r, Runner.build t ctx glob name failIfNone filters = .ok r ∧
        let seen := visits check calls files u
        let report := (r.run check w u).report
        report = expectedReport ctx name seen ∧
        (report.passed = true ↔ ∀ v ∈ seen, ∀ c ∈ v.2, c.severity = .fail →
          ctx.ignores.excludes name c.code? (Files.Path.relativeTo ctx.root v.1.fullPath) = true) ∧
        (report.failureMessage? = none ↔ report.passed = true) ∧
        ((∃ e, report.result = .error e) ↔ ¬ report.passed = true) ∧
        ∀ e, report.result = .error e → report.failureMessage? = some e.message := by
  constructor
  · intro e
    rw [Runner.build_eq]
    cases surviving t ctx glob name failIfNone filters <;> simp [Except.map]
  · intro files hfiles
    refine ⟨⟨name, ctx, files⟩, ?_, ?_⟩
    · rw [Runner.build_eq, hfiles]
      rfl
    · have hreport := run_report hcalls (r := ⟨name, ctx, files⟩) (unchecked_of_surviving hfiles) w u
      refine ⟨hreport, ?_, failureMessage?_eq_none_iff _, ?_, ?_⟩
      · rw [hreport]
        exact expectedReport_passed_iff ctx name _
      · simp [result_eq_error_iff]
      · intro e he
        obtain ⟨hpassed, rfl⟩ := (result_eq_error_iff _ e).mp he
        rw [RuleReport.failureMessage?, if_neg (by simp [hpassed])]

private def sampleTree : FileTree := (FileTree.empty.putFile ["r", "A"] .empty).putFile ["r", "B"] .empty

private def sampleContext : Context := ⟨.ofRoot "/r", .ofRules [⟨"Naming", "*", some "N1", rfl⟩], none⟩

private def sampleCalls : List Call :=
  [.markFailed, .failCode "N1" "excused", .warn "long", .failCode "N2" "not excused"]

/-- Four calls on the one file that the glob finds, of which one is excused and one has no reason. -/
theorem build_run_report_sample :
    ∃ r, Runner.build sampleTree sampleContext "A" "naming" true [] = .ok r ∧
      (r.run (Check.ofCalls fun _ _ => sampleCalls) (.new sampleContext.config) sampleTree).report =
        ⟨"naming", 1, ["A - N2: not excused"], ["A - long"]⟩ := by
  have hlisted : sampleTree.files "/r" = [["A"], ["B"]] :=
    FileTree.files_of_listed rfl rfl (by decide +kernel) (by decide +kernel)
  have hfind : sampleTree.find "/r" "A" = .ok ["/r/A"] := by
    rw [FileTree.find_of_files hlisted]
    rfl
  have hfiles : surviving sampleTree sampleContext "A" "naming" true [] =
      .ok [.new sampleContext "naming" "/r/A"] := by
    rw [surviving, show sampleContext.root = "/r" from rfl, hfind]
    rfl
  obtain ⟨r, hr, hreport, -⟩ := (build_run_report sampleTree sampleContext "A" "naming" true []
    (Check.ofCalls fun _ _ => sampleCalls) (fun _ _ => sampleCalls) (Check.ofCalls_performs _)
    (.new sampleContext.config) sampleTree).2 _ hfiles
  refine ⟨r, hr, hreport.trans ?_⟩
  decide

end RepoConventions.Rules
