import RepoConventions.Proofs.Files.Discovery
import RepoConventions.Proofs.Regex.Wildcard
import RepoConventions.Proofs.Rules.Narrowing

/-!
# What filters leave

A filter may read the document of a file, which the record then holds, but changes nothing else. So long as the tree stays
as it is, it decides about a file by what the tree holds, and filters in any order leave the files that all of them
accept.
-/

namespace RepoConventions.Rules

open Files (FileTree)

variable {t : FileTree}

namespace FileRecord

/-- A record as it is before any of its documents is read. -/
def unread (f : FileRecord) : FileRecord := { f with projectRead := none, workflowRead := none }

/-- The documents that a record gives are those that the tree holds. -/
structure IsFresh (t : FileTree) (f : FileRecord) : Prop where
  project : (f.project t).1 = Project.Document.load t f.fullPath
  workflow : (f.workflow t).1 = Workflow.Document.load t f.fullPath

theorem IsFresh.new (t : FileTree) (ctx : Context) (rule path : String) : (FileRecord.new ctx rule path).IsFresh t :=
  ⟨rfl, rfl⟩

theorem IsFresh.afterProject {f : FileRecord} (h : f.IsFresh t) : (f.project t).2.IsFresh t := ⟨h.project, h.workflow⟩

def parses (t : FileTree) (f : FileRecord) : Bool := (Project.Document.load t f.fullPath).isOk

def isProject (t : FileTree) (p : Project.Document → Bool) (f : FileRecord) : Bool :=
  (Project.Document.load t f.fullPath).toOption.any p

theorem isProject_eq (t : FileTree) (p : Project.Document → Bool) (f : FileRecord) :
    f.isProject t p = (f.parses t && f.isProject t p) := by
  rw [isProject, parses]
  cases Project.Document.load t f.fullPath <;> rfl

theorem parses_of_isProject {p : Project.Document → Bool} (f : FileRecord) (h : f.isProject t p = true) :
    f.parses t = true := by
  rw [isProject_eq] at h
  exact (Bool.and_eq_true_iff.mp h).1

/-- What was read before makes no difference to a predicate: it sees the documents of a record only by reading them. -/
def Steady (t : FileTree) (p : FileRecord → Bool) : Prop := ∀ f, f.IsFresh t → p f = p f.unread

theorem steady_of_reads (p : FileRecord → Except Project.Error Project.Document →
    Except Workflow.Error Workflow.Document → Bool) :
    Steady t fun f => p f.unread (f.project t).1 (f.workflow t).1 := by
  intro f hfresh
  simp only [hfresh.project, hfresh.workflow]
  rfl

end FileRecord

/-- Every wildcard can be applied, and drops the files in whose full paths, as they are shown, it occurs and no
others. -/
theorem Runner.ignoreWildcard_files (r : Runner) (wildcard : String) : r.ignoreWildcard wildcard =
    .ok { r with files := r.files.filter fun f => ¬ Regex.WildcardOccurs wildcard (Files.OsText.shown f.fullPath) } := by
  rw [ignoreWildcard, ignoreRegex, Regex.exclusion_wildcardPattern]
  simp only [bind, Except.bind, filesWhere, Regex.not_occursIn_wildcardExpression]
  rfl

namespace Filter

/-- A filter whose pattern can be read, or whose predicate sees documents only by reading them. -/
def IsValid (t : FileTree) : Filter → Prop
  | files p => FileRecord.Steady t p
  | regex pattern => (Regex.exclusion pattern).isOk
  | wildcard _ | projects _ | sdk | test | library | source _ => True

/-- Whether a filter accepts a file, given what the tree holds and the packaging default of the repository. -/
def accepts (t : FileTree) (repoPackable : Option Bool) (f : FileRecord) : Filter → Bool
  | files p => p f.unread
  | regex pattern => (Regex.exclusion pattern).toOption.any fun e => !e.occursIn (Files.OsText.shown f.fullPath)
  | wildcard w => ¬ Regex.WildcardOccurs w (Files.OsText.shown f.fullPath)
  | projects p => f.isProject t p
  | sdk => f.isProject t (·.isSdkProject)
  | test => f.isProject t (·.isTestProject)
  | library => f.isProject t (·.producesLibraryPackage repoPackable)
  | source producesSource => f.isProject t (·.producesSourcePackage == producesSource)

variable {repoPackable : Option Bool}

theorem accepts_unread (filter : Filter) (f : FileRecord) :
    filter.accepts t repoPackable f.unread = filter.accepts t repoPackable f := by
  cases filter <;> rfl

theorem accepts_congr {f g : FileRecord} (h : g.unread = f.unread) (filter : Filter) :
    filter.accepts t repoPackable g = filter.accepts t repoPackable f := by
  rw [← filter.accepts_unread g, h, filter.accepts_unread]

theorem parses_of_accepts {filter : Filter} (hreads : filter.readsProjects = true) {f : FileRecord}
    (haccept : filter.accepts t repoPackable f = true) : f.parses t = true := by
  cases filter with
  | files | regex | wildcard => cases hreads
  | projects | sdk | test | library | source => exact f.parses_of_isProject haccept

end Filter

/-! One file -/

/-- On what the tree holds, a filter keeps the files that are accepted, and does no more to them than read. -/
structure Keep.Follows (t : FileTree) (keep : Keep) (accepts : FileRecord → Bool) : Prop where
  kept {f : FileRecord} (hfresh : f.IsFresh t) (haccept : accepts f = true) :
    ∃ g, keep f = some g ∧ g.IsFresh t ∧ g.unread = f.unread
  dropped {f : FileRecord} (hfresh : f.IsFresh t) (hreject : accepts f = false) : keep f = none

namespace Keep.Follows

theorem ofTest {p accepts : FileRecord → Bool} (h : ∀ f, f.IsFresh t → p f = accepts f) :
    Follows t (fun f => if p f then some f else none) accepts where
  kept {f} hfresh haccept := ⟨f, by simp only [h f hfresh, haccept, if_true], hfresh, rfl⟩
  dropped {f} hfresh hreject := by simp [h f hfresh, hreject]

theorem keepProject (t : FileTree) (p : Project.Document → Bool) :
    Follows t (Runner.keepProject? t p) (FileRecord.isProject t p) := by
  have heq {f : FileRecord} (hfresh : f.IsFresh t) :
      Runner.keepProject? t p f = if f.isProject t p then some (f.project t).2 else none := by
    have hread : f.project t = (Project.Document.load t f.fullPath, (f.project t).2) := Prod.ext hfresh.project rfl
    rw [Runner.keepProject?, hread, FileRecord.isProject]
    cases Project.Document.load t f.fullPath <;> rfl
  constructor
  case kept =>
    intro f hfresh haccept
    exact ⟨(f.project t).2, by rw [heq hfresh, if_pos haccept], hfresh.afterProject, rfl⟩
  case dropped =>
    intro f hfresh hreject
    rw [heq hfresh, hreject]
    rfl

theorem bind {first second : Keep} {p q : FileRecord → Bool} (hfirst : Follows t first p) (hsecond : Follows t second q)
    (hq : ∀ f g, g.unread = f.unread → q g = q f) : Follows t (fun f => (first f).bind second) fun f => p f && q f := by
  constructor
  case kept =>
    intro f hfresh haccept
    obtain ⟨hp, hqf⟩ := Bool.and_eq_true_iff.mp haccept
    obtain ⟨g, hg, hgfresh, hgf⟩ := hfirst.kept hfresh hp
    rw [← hq f g hgf] at hqf
    obtain ⟨h, hh, hhfresh, hhg⟩ := hsecond.kept hgfresh hqf
    refine ⟨h, ?_, hhfresh, hhg.trans hgf⟩
    rw [hg, Option.bind_some, hh]
  case dropped =>
    intro f hfresh hreject
    cases hp : p f with
    | false => rw [hfirst.dropped hfresh hp, Option.bind_none]
    | true =>
      obtain ⟨g, hg, hgfresh, hgf⟩ := hfirst.kept hfresh hp
      rw [hp, Bool.true_and, ← hq f g hgf] at hreject
      rw [hg, Option.bind_some, hsecond.dropped hgfresh hreject]

end Keep.Follows

theorem Filter.keep_follows (repoPackable : Option Bool) {filter : Filter} (h : filter.IsValid t) :
    ∃ keep, filter.keep t repoPackable = .ok keep ∧ keep.Follows t fun f => filter.accepts t repoPackable f := by
  cases filter with
  | files p => exact ⟨_, rfl, .ofTest h⟩
  | regex pattern =>
    cases hread : Regex.exclusion pattern with
    | ok e =>
      refine ⟨_, by rw [keep, hread]; rfl, .ofTest fun f _ => ?_⟩
      simp only [accepts, hread]
      rfl
    | error e =>
      rw [IsValid, hread] at h
      cases h
  | wildcard w =>
    refine ⟨_, by rw [keep, Regex.exclusion_wildcardPattern]; rfl, .ofTest fun f _ => ?_⟩
    rw [accepts, Regex.not_occursIn_wildcardExpression]
  | projects p => exact ⟨_, rfl, .keepProject t p⟩
  | sdk => exact ⟨_, rfl, .keepProject t _⟩
  | test => exact ⟨_, rfl, .keepProject t _⟩
  | library => exact ⟨_, rfl, .keepProject t _⟩
  | source b => exact ⟨_, rfl, .keepProject t _⟩

/-- What is left after valid filters is what all of them accept. -/
theorem Filter.mapM_keep_follows (repoPackable : Option Bool) {filters : List Filter}
    (h : ∀ filter ∈ filters, filter.IsValid t) :
    ∃ keeps, filters.mapM (Filter.keep t repoPackable) = .ok keeps ∧
      Keep.Follows t (Keep.all keeps) fun f => filters.all (·.accepts t repoPackable f) := by
  induction filters with
  | nil => exact ⟨[], rfl, fun hfresh _ => ⟨_, rfl, hfresh, rfl⟩, fun _ hreject => absurd hreject (by simp)⟩
  | cons filter rest ih =>
    obtain ⟨keep, hkeep, hfollows⟩ := Filter.keep_follows repoPackable (h filter List.mem_cons_self)
    obtain ⟨keeps, hkeeps, hrest⟩ := ih fun other hmem => h other (List.mem_cons_of_mem filter hmem)
    refine ⟨keep :: keeps, by rw [List.mapM_cons, hkeep, hkeeps]; rfl, ?_⟩
    refine hfollows.bind hrest fun f g hgf => ?_
    simp only [Filter.accepts_congr hgf]

/-! All files -/

theorem Keep.Follows.filterMap {keep : Keep} {accepts : FileRecord → Bool} (hfollows : keep.Follows t accepts)
    {files : List FileRecord} (hfresh : ∀ f ∈ files, f.IsFresh t) :
    (∀ g ∈ files.filterMap keep, g.IsFresh t) ∧
      (files.filterMap keep).map FileRecord.unread = (files.filter accepts).map FileRecord.unread := by
  induction files with
  | nil => exact ⟨fun g hg => absurd hg List.not_mem_nil, rfl⟩
  | cons f rest ih =>
    obtain ⟨hrest, hmap⟩ := ih fun g hg => hfresh g (List.mem_cons_of_mem f hg)
    cases haccept : accepts f with
    | true =>
      obtain ⟨g, hg, hgfresh, hgf⟩ := hfollows.kept (hfresh f List.mem_cons_self) haccept
      rw [List.filterMap_cons_some hg, List.filter_cons_of_pos haccept, List.map_cons, List.map_cons, hmap, hgf]
      exact ⟨List.forall_mem_cons.mpr ⟨hgfresh, hrest⟩, rfl⟩
    | false =>
      have hnone := hfollows.dropped (hfresh f List.mem_cons_self) haccept
      rw [List.filterMap_cons_none hnone, List.filter_cons_of_neg (Bool.eq_false_iff.mp haccept)]
      exact ⟨hrest, hmap⟩

namespace Runner

variable {r kept : Runner} {filters : List Filter}

theorem discover_isFresh {ctx : Context} {glob name : String} {failIfNone : Bool}
    (h : discover t ctx glob name failIfNone = .ok r) : ∀ f ∈ r.files, f.IsFresh t := by
  rw [discover] at h
  cases hfind : t.find ctx.root glob with
  | error e =>
    rw [hfind] at h
    cases h
  | ok paths =>
    simp only [hfind, bind, Except.bind] at h
    split at h
    · cases h
    · cases h
      intro f hf
      obtain ⟨path, -, rfl⟩ := List.mem_map.mp hf
      exact .new t ctx name path

/-- A runner after filters: it is the same but for its files, which are those that all filters accept, in their order. -/
structure NarrowsTo (t : FileTree) (r : Runner) (filters : List Filter) (kept : Runner) : Prop where
  name : kept.name = r.name
  context : kept.context = r.context
  fresh : ∀ g ∈ kept.files, g.IsFresh t
  files : kept.files.map FileRecord.unread =
    (r.files.filter fun f => filters.all (·.accepts t r.context.repoPackable f)).map FileRecord.unread

theorem narrowAll_narrowsTo (hfresh : ∀ f ∈ r.files, f.IsFresh t) (hvalid : ∀ filter ∈ filters, filter.IsValid t) :
    ∃ kept, r.narrowAll t filters = .ok kept ∧ NarrowsTo t r filters kept := by
  obtain ⟨keeps, hkeeps, hfollows⟩ := Filter.mapM_keep_follows r.context.repoPackable hvalid
  obtain ⟨hkept, hfiles⟩ := hfollows.filterMap hfresh
  refine ⟨{ r with files := r.files.filterMap (Keep.all keeps) }, ?_, rfl, rfl, hkept, hfiles⟩
  rw [narrowAll_eq, survivors, hkeeps]
  rfl

/-- Only which filters there are matters for the files. -/
theorem NarrowsTo.files_eq {others : List Filter} {also : Runner} (h : NarrowsTo t r filters kept)
    (halso : NarrowsTo t r others also) (hsame : ∀ filter, filter ∈ others ↔ filter ∈ filters) :
    also.files.map FileRecord.unread = kept.files.map FileRecord.unread := by
  have hall (f : FileRecord) : others.all (·.accepts t r.context.repoPackable f) =
      filters.all (·.accepts t r.context.repoPackable f) := by
    apply Bool.eq_iff_iff.mpr
    rw [List.all_eq_true, List.all_eq_true]
    simp only [hsame]
  rw [halso.files, h.files]
  simp only [hall]

theorem NarrowsTo.parses (h : NarrowsTo t r filters kept) {filter : Filter} (hmem : filter ∈ filters)
    (hreads : filter.readsProjects = true) {g : FileRecord} (hg : g ∈ kept.files) : g.parses t = true := by
  have hunread : g.unread ∈ kept.files.map FileRecord.unread := List.mem_map_of_mem hg
  rw [h.files] at hunread
  obtain ⟨f, hf, hfg⟩ := List.mem_map.mp hunread
  have haccept := List.all_eq_true.mp (List.mem_filter.mp hf).2 filter hmem
  rw [Filter.accepts_congr hfg] at haccept
  exact Filter.parses_of_accepts hreads haccept

theorem sourceProjects_files (hfresh : ∀ f ∈ r.files, f.IsFresh t) (producesSource : Bool) :
    (r.sourceProjects t producesSource).files.map FileRecord.unread =
      (r.files.filter (FileRecord.isProject t (·.producesSourcePackage == producesSource))).map FileRecord.unread :=
  ((Keep.Follows.keepProject t _).filterMap hfresh).2

/-- Valid filters leave the files that all of them accept, in their order, however often and in whichever order they are
applied. A filter that looks into projects leaves projects only, and those with and those without source packages are
together all of them. -/
theorem narrowAll_any_order (hfresh : ∀ f ∈ r.files, f.IsFresh t) (hvalid : ∀ filter ∈ filters, filter.IsValid t) :
    ∃ kept, r.narrowAll t filters = .ok kept ∧ NarrowsTo t r filters kept ∧
      (∀ others : List Filter, (∀ filter, filter ∈ others ↔ filter ∈ filters) → ∃ also,
        r.narrowAll t others = .ok also ∧ also.name = kept.name ∧ also.context = kept.context ∧
        also.files.map FileRecord.unread = kept.files.map FileRecord.unread) ∧
      (∀ filter ∈ filters, filter.readsProjects = true → ∀ g ∈ kept.files, g.parses t = true) ∧
      let producing (f : FileRecord) : Bool := f.isProject t (·.producesSourcePackage)
      (r.sourceProjects t true).files.map FileRecord.unread =
        (r.files.filter fun f => f.parses t && producing f).map FileRecord.unread ∧
      (r.sourceProjects t false).files.map FileRecord.unread =
        (r.files.filter fun f => f.parses t && !producing f).map FileRecord.unread := by
  obtain ⟨kept, hkept, hnarrow⟩ := narrowAll_narrowsTo hfresh hvalid
  refine ⟨kept, hkept, hnarrow, ?_, fun filter hmem hreads g hg => hnarrow.parses hmem hreads hg, ?_, ?_⟩
  · intro others hsame
    obtain ⟨also, halso, hothers⟩ := narrowAll_narrowsTo hfresh fun filter hmem => hvalid filter ((hsame filter).mp hmem)
    exact ⟨also, halso, hothers.name.trans hnarrow.name.symm, hothers.context.trans hnarrow.context.symm,
      hnarrow.files_eq hothers hsame⟩
  · rw [sourceProjects_files hfresh]
    simp only [← FileRecord.isProject_eq, beq_true]
  · have hsplit (f : FileRecord) : f.isProject t (·.producesSourcePackage == false) =
        (f.parses t && !f.isProject t (·.producesSourcePackage)) := by
      rw [FileRecord.isProject, FileRecord.isProject, FileRecord.parses]
      cases Project.Document.load t f.fullPath with
      | ok d => simp [Except.toOption, Except.isOk, Except.toBool]
      | error e => rfl
    rw [sourceProjects_files hfresh]
    simp only [← hsplit]

/-- A repository of two projects, of which one is in the SDK style, and a file that is none. -/
private def mixedTree : FileTree :=
  ((FileTree.empty.putFile ["r", "A"] "<Project/>".toUTF8).putFile ["r", "B"] "<Project xmlns='old'/>".toUTF8).putFile
    ["r", "C"] "no project".toUTF8

private def mixedContext : Context := ⟨.ofRoot "/r", .empty, none⟩

private def mixedFilters : List Filter :=
  [.wildcard "?\\d", .sdk, .files fun f => (f.project mixedTree).1.isOk, .regex "e$", .sdk]

private theorem mixedFilters_isValid : ∀ filter ∈ mixedFilters, filter.IsValid mixedTree := by
  have hreads : FileRecord.Steady mixedTree fun f => (f.project mixedTree).1.isOk :=
    FileRecord.steady_of_reads fun _ read _ => read.isOk
  have hpattern : (Regex.exclusion "e$").isOk = true := by decide
  simp [mixedFilters, Filter.IsValid, hreads, hpattern]

/-- The project in the other style and the file that is no project are left out. -/
theorem narrowAll_any_order_mixed :
    ∃ r kept, discover mixedTree mixedContext "*" "naming" true = .ok r ∧
      r.files.map (·.fullPath) = ["/r/A", "/r/B", "/r/C"] ∧
      r.narrowAll mixedTree mixedFilters = .ok kept ∧ kept.files.map (·.fullPath) = ["/r/A"] := by
  have hlisted : mixedTree.files "/r" = [["A"], ["B"], ["C"]] :=
    FileTree.files_of_listed rfl rfl (by decide +kernel) (by decide +kernel)
  have hfind : mixedTree.find "/r" "*" = .ok ["/r/A", "/r/B", "/r/C"] := by
    rw [FileTree.find_of_files hlisted]
    rfl
  let found : List FileRecord := ["/r/A", "/r/B", "/r/C"].map (.new mixedContext "naming")
  have hr : discover mixedTree mixedContext "*" "naming" true = .ok ⟨"naming", mixedContext, found⟩ := by
    rw [discover, show mixedContext.root = "/r" from rfl, hfind]
    rfl
  have hleft : (found.filter fun f => mixedFilters.all (·.accepts mixedTree none f)).map (·.unread.fullPath) =
      ["/r/A"] := by
    decide +kernel
  obtain ⟨kept, hkept, hnarrow, -⟩ := narrowAll_any_order (discover_isFresh hr) mixedFilters_isValid
  refine ⟨_, kept, hr, rfl, hkept, ?_⟩
  have hpaths := congrArg (List.map (·.fullPath)) hnarrow.files
  rw [List.map_map, List.map_map] at hpaths
  exact hpaths.trans hleft

end Runner

end RepoConventions.Rules
