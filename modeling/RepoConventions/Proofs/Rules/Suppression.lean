import RepoConventions.Proofs.Ignore.RuleSet
import RepoConventions.Proofs.Rules.Report

/-!
# More ignore rules

Further ignore rules never make a run worse. Two runs are compared that make the same calls under a set of ignore rules
and under a larger one: what the larger set leaves unexcused is left by the smaller one too, file by file and in order. A
line is new only if it is the path of a file that failed without a reason, as when all its reasons are now excused.
-/

namespace RepoConventions

namespace Ignore.RuleSet

def IncludedIn (s s' : RuleSet) : Prop := ∀ check, ∀ r ∈ s.rulesFor check, r ∈ s'.rulesFor check

theorem includedIn_foldl_add (s : RuleSet) (rules : List Rule) : s.IncludedIn (rules.foldl add s) := by
  intro check r hr
  rw [rulesFor_foldl_add]
  exact List.mem_append_left _ hr

theorem IncludedIn.excludes {s s' : RuleSet} (h : s.IncludedIn s') {check : String} {code : Option String}
    {path : String} (hexcluded : s.excludes check code path = true) : s'.excludes check code path = true := by
  obtain ⟨r, hr, happlies⟩ := List.any_eq_true.mp hexcluded
  exact List.any_eq_true.mpr ⟨r, h check r hr, happlies⟩

end Ignore.RuleSet

namespace Rules

open Files (FileTree)
open Ignore (RuleSet)

/-! Other ignore rules -/

def Context.withIgnores (ctx : Context) (s : RuleSet) : Context := { ctx with ignores := s }

def FileRecord.withIgnores (f : FileRecord) (s : RuleSet) : FileRecord :=
  { f with context := f.context.withIgnores s }

def Runner.withIgnores (r : Runner) (s : RuleSet) : Runner :=
  ⟨r.name, r.context.withIgnores s, r.files.map (·.withIgnores s)⟩

/-- Whether a filter keeps a file does not depend on the ignore rules. -/
def Filter.Blind : Filter → Prop
  | files p => ∀ f s, p (f.withIgnores s) = p f
  | regex _ | wildcard _ | projects _ | sdk | test | library | source _ => True

theorem Runner.keepProject?_withIgnores (t : FileTree) (p : Project.Document → Bool) (f : FileRecord) (s : RuleSet) :
    keepProject? t p (f.withIgnores s) = (keepProject? t p f).map (·.withIgnores s) := by
  cases hread : f.project t with
  | mk read g =>
    have hother : (f.withIgnores s).project t = (read, g.withIgnores s) := by
      obtain ⟨rfl, rfl⟩ := Prod.mk.inj hread
      rfl
    rw [keepProject?, hother, keepProject?, hread]
    cases read with
    | error e => rfl
    | ok d => cases h : p d <;> simp [h]

theorem Filter.keep_withIgnores {t : FileTree} {packable : Option Bool} {filter : Filter} {keep : Keep}
    (hblind : filter.Blind) (hk : filter.keep t packable = .ok keep) (f : FileRecord) (s : RuleSet) :
    keep (f.withIgnores s) = (keep f).map (·.withIgnores s) := by
  have hregex (pattern : String) (hk : (Regex.exclusion pattern).map Keep.unmatched = .ok keep) :
      keep (f.withIgnores s) = (keep f).map (·.withIgnores s) := by
    cases he : Regex.exclusion pattern with
    | error e => simp [he, Except.map] at hk
    | ok e =>
      rw [he] at hk
      cases hk
      have hpath : (f.withIgnores s).fullPath = f.fullPath := rfl
      cases h : e.occursIn (Files.OsText.shown f.fullPath) <;> simp [Keep.unmatched, hpath, h]
  cases filter with
  | files p =>
    cases hk
    cases h : p f <;> simp [hblind f s, h]
  | regex pattern => exact hregex pattern hk
  | wildcard w => exact hregex (Regex.wildcardPattern w) hk
  | projects p => cases hk; exact Runner.keepProject?_withIgnores t _ f s
  | sdk => cases hk; exact Runner.keepProject?_withIgnores t _ f s
  | test => cases hk; exact Runner.keepProject?_withIgnores t _ f s
  | library => cases hk; exact Runner.keepProject?_withIgnores t _ f s
  | source b => cases hk; exact Runner.keepProject?_withIgnores t _ f s

theorem Keep.all_withIgnores {t : FileTree} {packable : Option Bool} {filters : List Filter} {keeps : List Keep}
    (hblind : ∀ filter ∈ filters, filter.Blind) (hk : filters.mapM (Filter.keep t packable) = .ok keeps)
    (f : FileRecord) (s : RuleSet) : Keep.all keeps (f.withIgnores s) = (Keep.all keeps f).map (·.withIgnores s) := by
  induction filters generalizing keeps f with
  | nil =>
    cases hk
    rfl
  | cons filter rest ih =>
    rw [List.mapM_cons] at hk
    obtain ⟨keep, others, hone, hrest, rfl⟩ := Yaml.bind_cons_eq_ok_iff.mp hk
    have hfirst := Filter.keep_withIgnores (hblind filter List.mem_cons_self) hone f s
    rw [Keep.all, hfirst, Keep.all]
    cases keep f with
    | none => rfl
    | some g => exact ih (fun other hother => hblind other (List.mem_cons_of_mem filter hother)) hrest g

/-- Under other ignore rules the same files survive. -/
theorem surviving_withIgnores {filters : List Filter} (hblind : ∀ filter ∈ filters, filter.Blind) (t : FileTree)
    (ctx : Context) (glob name : String) (failIfNone : Bool) (s : RuleSet) :
    surviving t (ctx.withIgnores s) glob name failIfNone filters =
      (surviving t ctx glob name failIfNone filters).map fun files => files.map (·.withIgnores s) := by
  have hroot : (ctx.withIgnores s).root = ctx.root := rfl
  have hpackable : (ctx.withIgnores s).repoPackable = ctx.repoPackable := rfl
  rw [surviving, surviving, hroot, hpackable]
  cases t.find ctx.root glob with
  | error e => rfl
  | ok paths =>
    cases hnone : failIfNone && paths.isEmpty with
    | true => simp [bind, Except.bind, Except.map, hnone]
    | false =>
      cases hk : filters.mapM (Filter.keep t ctx.repoPackable) with
      | error e => simp [bind, Except.bind, Except.map, hnone, survivors, hk]
      | ok keeps =>
        have hkept : (paths.map (FileRecord.new (ctx.withIgnores s) name)).filterMap (Keep.all keeps) =
            ((paths.map (FileRecord.new ctx name)).filterMap (Keep.all keeps)).map (·.withIgnores s) := by
          rw [List.filterMap_map, List.filterMap_map, List.map_filterMap]
          refine List.filterMap_congr fun path _ => ?_
          exact Keep.all_withIgnores hblind hk (FileRecord.new ctx name path) s
        simp [bind, Except.bind, pure, Except.pure, Except.map, hnone, survivors, hk, hkept]

theorem Runner.build_withIgnores {filters : List Filter} (hblind : ∀ filter ∈ filters, filter.Blind) (t : FileTree)
    (ctx : Context) (glob name : String) (failIfNone : Bool) (s : RuleSet) :
    build t (ctx.withIgnores s) glob name failIfNone filters =
      (build t ctx glob name failIfNone filters).map (·.withIgnores s) := by
  rw [build_eq, build_eq, surviving_withIgnores hblind]
  cases surviving t ctx glob name failIfNone filters <;> rfl

/-! One file -/

/-- One record is marked no more than another record of the same file. -/
structure Milder (g' g : FileRecord) : Prop where
  fullPath : g'.fullPath = g.fullPath
  relativePath : g'.relativePath = g.relativePath
  isSet : ∀ s, (g'.marks.mark s).isSet = true → (g.marks.mark s).isSet = true
  reasons : ∀ s, (g'.marks.mark s).reasons.Sublist (g.marks.mark s).reasons

theorem Context.unexcused_sublist {ctx : Context} {s' : RuleSet} (h : ctx.ignores.IncludedIn s') (rule path : String)
    (s : Severity) (calls : List Call) :
    ((ctx.withIgnores s').unexcused rule path s calls).Sublist (ctx.unexcused rule path s calls) := by
  refine List.monotone_filter_right calls fun c hc => ?_
  obtain ⟨hseverity, hnot⟩ := Bool.and_eq_true_iff.mp hc
  refine Bool.and_eq_true_iff.mpr ⟨hseverity, ?_⟩
  cases hexcluded : ctx.ignores.excludes rule c.code? path with
  | false => rfl
  | true =>
    have hmore : (ctx.withIgnores s').ignores.excludes rule c.code? path = true := h.excludes hexcluded
    simp [hmore] at hnot

theorem Mark.isSet_addCalls {m : Mark} {calls' calls : List Call} (h : calls'.Sublist calls)
    (hset : (m.addCalls calls').isSet = true) : (m.addCalls calls).isSet = true := by
  cases calls with
  | nil =>
    rw [List.sublist_nil.mp h] at hset
    exact hset
  | cons c rest => simp [addCalls]

theorem Mark.reasons_addCalls {m : Mark} {calls' calls : List Call} (h : calls'.Sublist calls) :
    (m.addCalls calls').reasons.Sublist (m.addCalls calls).reasons :=
  (h.filterMap Call.reason?).append_left m.reasons

theorem Acts.milder {f g g' : FileRecord} {t t' u u' : FileTree} {s' : RuleSet} {calls : List Call}
    (hmore : f.context.ignores.IncludedIn s') (h : Acts f t calls g u) (h' : Acts (f.withIgnores s') t' calls g' u') :
    Milder g' g := by
  have hsame := h.sameFile
  have hsame' := h'.sameFile
  have hsub (s : Severity) := Context.unexcused_sublist hmore f.rule f.relativePath s calls
  exact {
    fullPath := hsame'.fullPath.trans hsame.fullPath.symm
    relativePath := hsame'.relativePath.trans hsame.relativePath.symm
    isSet := by
      intro s hset
      rw [h'.marks_mark s] at hset
      rw [h.marks_mark s]
      exact Mark.isSet_addCalls (hsub s) hset
    reasons := by
      intro s
      rw [h'.marks_mark s, h.marks_mark s]
      exact Mark.reasons_addCalls (hsub s) }

/-! All files -/

def callsOf {α : Type} (check : Check α) (calls : FileRecord → FileTree → List Call) (files : List FileRecord)
    (t : FileTree) : List (List Call) :=
  (visits check calls files t).map (·.2)

/-- Every record of a run under more ignore rules is milder, if the calls are the same. -/
theorem checkAll_milder {α : Type} {check : Check α} {calls : FileRecord → FileTree → List Call}
    (hcalls : check.Performs calls) {ctx : Context} {s' : RuleSet} (hmore : ctx.ignores.IncludedIn s')
    {files : List FileRecord} {t t' : FileTree} (hfiles : ∀ f ∈ files, f.context = ctx)
    (hsame : callsOf check calls (files.map (·.withIgnores s')) t' = callsOf check calls files t) :
    List.Forall₂ Milder ((Runner.checkAll check (files.map (·.withIgnores s')) t').1.map (·.2))
      ((Runner.checkAll check files t).1.map (·.2)) := by
  induction files generalizing t t' with
  | nil => exact .nil
  | cons f rest ih =>
    obtain ⟨hhead, htail⟩ := List.cons.inj hsame
    have hfirst := hcalls f t
    have hfirst' := hcalls (f.withIgnores s') t'
    have hf : f.context.ignores.IncludedIn s' := by
      rw [hfiles f List.mem_cons_self]
      exact hmore
    simp only at hhead
    rw [hhead] at hfirst'
    exact .cons (Acts.milder hf hfirst hfirst') (ih (fun g hg => hfiles g (List.mem_cons_of_mem f hg)) htail)

/-! Lines -/

theorem Milder.lines {g' g : FileRecord} (h : Milder g' g) (s : Severity) {line : String}
    (hline : line ∈ (g'.marks.mark s).lines g'.relativePath) :
    line ∈ (g.marks.mark s).lines g.relativePath ∨
      (g'.marks.mark s).isSet = true ∧ (g'.marks.mark s).reasons = [] ∧ line = g'.relativePath := by
  cases hset : (g'.marks.mark s).isSet with
  | false => simp [Mark.lines, hset] at hline
  | true =>
    cases hreasons : (g'.marks.mark s).reasons with
    | nil =>
      simp only [Mark.lines, hset, hreasons, if_true, List.isEmpty_nil, List.mem_singleton] at hline
      exact .inr ⟨rfl, rfl, hline⟩
    | cons first others =>
      have hsub := h.reasons s
      simp only [Mark.lines, hset, hreasons, if_true, List.isEmpty_cons, Bool.false_eq_true, if_false] at hline
      obtain ⟨reason, hreason, rfl⟩ := List.mem_map.mp hline
      rw [hreasons] at hsub
      have hmem := hsub.subset hreason
      refine .inl ?_
      rw [Mark.lines, if_pos (h.isSet s hset), if_neg (by simp [List.ne_nil_of_mem hmem]), ← h.relativePath]
      exact List.mem_map.mpr ⟨reason, hmem, rfl⟩

theorem markLines_milder {gs' gs : List FileRecord} (h : List.Forall₂ Milder gs' gs) (s : Severity) {line : String}
    (hline : line ∈ markLines s gs') :
    line ∈ markLines s gs ∨ ∃ g' ∈ gs', (g'.marks.mark s).isSet = true ∧ (g'.marks.mark s).reasons = [] ∧
      line = g'.relativePath := by
  induction h with
  | nil => cases hline
  | @cons g' g gs' gs hfirst _ ih =>
    simp only [markLines, List.flatMap_cons, List.mem_append] at hline ih ⊢
    rcases hline with hline | hline
    · rcases hfirst.lines s hline with hold | hbare
      · exact .inl (.inl hold)
      · exact .inr ⟨g', List.mem_cons_self, hbare⟩
    · rcases ih hline with hold | ⟨k, hk, hbare⟩
      · exact .inl (.inr hold)
      · exact .inr ⟨k, List.mem_cons_of_mem g' hk, hbare⟩

theorem Mark.lines_eq_nil_iff (m : Mark) (path : String) : m.lines path = [] ↔ m.isSet = false := by
  cases hset : m.isSet with
  | false => simp [lines, hset]
  | true => cases hreasons : m.reasons <;> simp [lines, hset, hreasons]

theorem markLines_eq_nil {gs' gs : List FileRecord} (h : List.Forall₂ Milder gs' gs) {s : Severity}
    (hnil : markLines s gs = []) : markLines s gs' = [] := by
  induction h with
  | nil => rfl
  | @cons g' g gs' gs hfirst _ ih =>
    simp only [markLines, List.flatMap_cons, List.append_eq_nil_iff, Mark.lines_eq_nil_iff] at hnil ih ⊢
    obtain ⟨hclear, hrest⟩ := hnil
    refine ⟨?_, ih hrest⟩
    cases hset : (g'.marks.mark s).isSet with
    | false => rfl
    | true => exact absurd (hfirst.isSet s hset) (by simp [hclear])

namespace RuleReport

def lines (r : RuleReport) : Severity → List String
  | .fail => r.failures
  | .warn => r.warnings

end RuleReport

theorem Runner.report_lines (name : String) (files : List FileRecord) (s : Severity) :
    (report name files).lines s = markLines s files := by
  cases s <;> rfl

/-! Checks that do not look at ignore rules -/

/-- Neither the calls on a file nor what the check makes of the tree depend on the ignore rules. -/
structure Check.Steady {α : Type} (check : Check α) (calls : FileRecord → FileTree → List Call) : Prop where
  calls : ∀ f t s, calls (f.withIgnores s) t = calls f t
  tree : ∀ f t s, (check (f.withIgnores s) t).2.2 = (check f t).2.2

theorem Check.Steady.callsOf_withIgnores {α : Type} {check : Check α} {calls : FileRecord → FileTree → List Call}
    (h : check.Steady calls) (files : List FileRecord) (t : FileTree) (s : RuleSet) :
    callsOf check calls (files.map (·.withIgnores s)) t = callsOf check calls files t := by
  induction files generalizing t with
  | nil => rfl
  | cons f rest ih =>
    have hrest := ih (check f t).2.2
    rw [callsOf, callsOf] at hrest ⊢
    rw [List.map_cons, visits, visits, List.map_cons, List.map_cons, h.calls, h.tree, hrest]

/-! Runs -/

/-- A runner whose filters do not look at ignore rules is built of the same files under more of them. If the calls on each
file are the same in both runs, then every file is marked no more, with no more reasons and in the same order. A run that
passed passes again, and each line is a line of the other run or the path of a file that is marked without a reason. -/
theorem Runner.build_run_withIgnores {α : Type} (t : FileTree) (ctx : Context) (glob name : String) (failIfNone : Bool)
    (filters : List Filter) (check : Check α) (calls : FileRecord → FileTree → List Call)
    (hcalls : check.Performs calls) (s' : RuleSet) (hmore : ctx.ignores.IncludedIn s') (w w' : WarningReport)
    (u u' : FileTree) :
    ((∀ filter ∈ filters, filter.Blind) → build t (ctx.withIgnores s') glob name failIfNone filters =
      (build t ctx glob name failIfNone filters).map (·.withIgnores s')) ∧
    ∀ r, build t ctx glob name failIfNone filters = .ok r →
      callsOf check calls (r.withIgnores s').files u' = callsOf check calls r.files u →
      let before := r.run check w u
      let after := (r.withIgnores s').run check w' u'
      List.Forall₂ Milder (after.checked.map (·.2)) (before.checked.map (·.2)) ∧
      (before.report.passed = true → after.report.passed = true) ∧
      ∀ s, ∀ line ∈ after.report.lines s, line ∈ before.report.lines s ∨
        ∃ f ∈ after.checked.map (·.2), (f.marks.mark s).isSet = true ∧ (f.marks.mark s).reasons = [] ∧
          line = f.relativePath := by
  refine ⟨fun hblind => build_withIgnores hblind t ctx glob name failIfNone s', fun r hr hsame => ?_⟩
  rw [build_eq] at hr
  cases hfiles : surviving t ctx glob name failIfNone filters with
  | error e => simp [hfiles, Except.map] at hr
  | ok files =>
    obtain rfl : ⟨name, ctx, files⟩ = r := by simpa [hfiles, Except.map] using hr
    have hcontext : ∀ f ∈ files, f.context = ctx := fun f hf => (unchecked_of_surviving hfiles f hf).context
    have hmilder := checkAll_milder hcalls hmore hcontext hsame
    refine ⟨hmilder, ?_, ?_⟩
    · intro hpassed
      exact List.isEmpty_iff.mpr (markLines_eq_nil (s := .fail) hmilder (List.isEmpty_iff.mp hpassed))
    · intro s line hline
      have hbefore := report_lines name ((checkAll check files u).1.map (·.2)) s
      have hafter := report_lines name ((checkAll check (files.map (·.withIgnores s')) u').1.map (·.2)) s
      change line ∈ (report name _).lines s ∨ _
      change line ∈ (report name _).lines s at hline
      rw [hbefore]
      exact markLines_milder hmilder s (hafter ▸ hline)

private def plainTree : FileTree := FileTree.empty.putFile ["r", "A"] .empty

private def plainContext : Context := ⟨.ofRoot "/r", .empty, none⟩

private def markedCalls : List Call := [.markFailed, .failCode "N1" "too long"]

private def codeExcused : RuleSet := .ofRules [⟨"Naming", Ignore.matchAll, some "N1", Ignore.patternFault?_matchAll⟩]

private theorem markedCalls_steady : (Check.ofCalls fun _ _ => markedCalls).Steady fun _ _ => markedCalls where
  calls _ _ _ := rfl
  tree _ _ _ := rfl

/-- A file that fails for a reason and without one: where the reason is excused, its path becomes a line. -/
theorem Runner.build_run_withIgnores_barePath : plainContext.ignores.IncludedIn codeExcused ∧
    ∃ r, build plainTree plainContext "A" "naming" true [] = .ok r ∧
      build plainTree (plainContext.withIgnores codeExcused) "A" "naming" true [] = .ok (r.withIgnores codeExcused) ∧
      let before := r.run (Check.ofCalls fun _ _ => markedCalls) (.new plainContext.config) plainTree
      let after := (r.withIgnores codeExcused).run (Check.ofCalls fun _ _ => markedCalls) (.new plainContext.config)
        plainTree
      before.report.failures = ["A - N1: too long"] ∧ after.report.failures = ["A"] ∧
      List.Forall₂ Milder (after.checked.map (·.2)) (before.checked.map (·.2)) := by
  have hmore : plainContext.ignores.IncludedIn codeExcused := Ignore.RuleSet.includedIn_foldl_add .empty _
  have hlisted : plainTree.files "/r" = [["A"]] :=
    FileTree.files_of_listed rfl rfl (by decide +kernel) (by decide +kernel)
  have hfind : plainTree.find "/r" "A" = .ok ["/r/A"] := by
    rw [FileTree.find_of_files hlisted]
    rfl
  have hfiles : surviving plainTree plainContext "A" "naming" true [] = .ok [.new plainContext "naming" "/r/A"] := by
    rw [surviving, show plainContext.root = "/r" from rfl, hfind]
    rfl
  have hr : build plainTree plainContext "A" "naming" true [] =
      .ok ⟨"naming", plainContext, [.new plainContext "naming" "/r/A"]⟩ := by
    rw [build_eq, hfiles]
    rfl
  obtain ⟨hbuild, hrun⟩ := build_run_withIgnores plainTree plainContext "A" "naming" true []
    (Check.ofCalls fun _ _ => markedCalls) (fun _ _ => markedCalls) (Check.ofCalls_performs _) codeExcused hmore
    (.new plainContext.config) (.new plainContext.config) plainTree plainTree
  obtain ⟨hmilder, -⟩ := hrun _ hr (markedCalls_steady.callsOf_withIgnores _ _ _)
  refine ⟨hmore, _, hr, by rw [hbuild (by simp), hr]; rfl, ?_, ?_, hmilder⟩
  · decide
  · decide

end Rules

end RepoConventions
