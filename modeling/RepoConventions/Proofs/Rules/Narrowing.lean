import RepoConventions.Rules.Runner

/-!
# Which files a runner keeps

A runner is made by a glob and narrowed by filters. Its files are those that the glob finds and every filter keeps, in the
order of discovery; a filter whose pattern cannot be read is an error.
-/

namespace RepoConventions.Rules

open Files (FileTree)

inductive Filter
  | files (p : FileRecord → Bool)
  | regex (pattern : String)
  | wildcard (wildcard : String)
  | projects (p : Project.Document → Bool)
  | sdk
  | test
  | library
  | source (producesSource : Bool)

namespace Runner

def narrow (t : FileTree) (r : Runner) : Filter → Except RuleError Runner
  | .files p => .ok (r.filesWhere p)
  | .regex pattern => r.ignoreRegex pattern
  | .wildcard wildcard => r.ignoreWildcard wildcard
  | .projects p => .ok (r.projectsWhere t p)
  | .sdk => .ok (r.sdkProjects t)
  | .test => .ok (r.testProjects t)
  | .library => .ok (r.libraryProjects t)
  | .source producesSource => .ok (r.sourceProjects t producesSource)

def narrowAll (t : FileTree) (r : Runner) (filters : List Filter) : Except RuleError Runner :=
  filters.foldlM (narrow t) r

def build (t : FileTree) (ctx : Context) (glob name : String) (failIfNone : Bool) (filters : List Filter) :
    Except RuleError Runner := do
  narrowAll t (← discover t ctx glob name failIfNone) filters

end Runner

/-- What is left of a record, if a filter keeps it. -/
abbrev Keep := FileRecord → Option FileRecord

/-- Keeps the files whose full paths, as they are shown, have no part that an expression matches. -/
def Keep.unmatched (e : Regex) : Keep := fun f => if !e.occursIn (Files.OsText.shown f.fullPath) then some f else none

def Keep.all : List Keep → Keep
  | [], f => some f
  | keep :: rest, f => (keep f).bind (Keep.all rest)

namespace Filter

def keep (t : FileTree) (repoPackable : Option Bool) : Filter → Except RuleError Keep
  | files p => .ok fun f => if p f then some f else none
  | regex pattern => (Regex.exclusion pattern).map Keep.unmatched
  | wildcard w => (Regex.exclusion (Regex.wildcardPattern w)).map Keep.unmatched
  | projects p => .ok (Runner.keepProject? t p)
  | sdk => .ok (Runner.keepProject? t (·.isSdkProject))
  | test => .ok (Runner.keepProject? t (·.isTestProject))
  | library => .ok (Runner.keepProject? t (·.producesLibraryPackage repoPackable))
  | source producesSource => .ok (Runner.keepProject? t (·.producesSourcePackage == producesSource))

/-- Whether a filter looks into project files. -/
def readsProjects : Filter → Bool
  | files _ | regex _ | wildcard _ => false
  | projects _ | sdk | test | library | source _ => true

theorem eq_of_keep {t : FileTree} {packable : Option Bool} {filter : Filter} {keep : Keep} {f g : FileRecord}
    (hk : filter.keep t packable = .ok keep) (h : keep f = some g) :
    g = if filter.readsProjects then (f.project t).2 else f := by
  have hite (k : FileRecord) (p : Bool) (h : (if p then some k else none) = some g) : g = k := by
    cases p with
    | false => cases h
    | true => exact (Option.some.inj h).symm
  have hproject (p : Project.Document → Bool) (h : Runner.keepProject? t p f = some g) : g = (f.project t).2 := by
    unfold Runner.keepProject? at h
    split at h
    · next d f' heq => rw [hite f' (p d) h, heq]
    · cases h
  have hregex (pattern : String) (hk : (Regex.exclusion pattern).map Keep.unmatched = .ok keep) : g = f := by
    cases he : Regex.exclusion pattern with
    | error e => rw [he] at hk; cases hk
    | ok e =>
      rw [he] at hk
      cases hk
      exact hite f (!e.occursIn (Files.OsText.shown f.fullPath)) h
  cases filter with
  | files p => cases hk; exact hite f (p f) h
  | regex pattern => exact hregex pattern hk
  | wildcard w => exact hregex (Regex.wildcardPattern w) hk
  | projects p => cases hk; exact hproject _ h
  | sdk => cases hk; exact hproject _ h
  | test => cases hk; exact hproject _ h
  | library => cases hk; exact hproject _ h
  | source b => cases hk; exact hproject _ h

end Filter

def survivors (t : FileTree) (repoPackable : Option Bool) (filters : List Filter) (files : List FileRecord) :
    Except RuleError (List FileRecord) := do
  let keeps ← filters.mapM (Filter.keep t repoPackable)
  return files.filterMap (Keep.all keeps)

/-- The files that a glob finds and all filters keep, in the order of discovery. -/
def surviving (t : FileTree) (ctx : Context) (glob name : String) (failIfNone : Bool) (filters : List Filter) :
    Except RuleError (List FileRecord) := do
  let paths ← t.find ctx.root glob
  if failIfNone && paths.isEmpty then .error (.noFilesFound glob)
  else survivors t ctx.repoPackable filters (paths.map (FileRecord.new ctx name))

namespace Runner

theorem narrow_eq (t : FileTree) (r : Runner) (filter : Filter) :
    r.narrow t filter = (filter.keep t r.context.repoPackable).map fun keep =>
      { r with files := r.files.filterMap keep } := by
  have hfilter (p : FileRecord → Bool) :
      r.filesWhere p = { r with files := r.files.filterMap fun f => if p f then some f else none } := by
    rw [filesWhere, ← List.filterMap_eq_filter]
    rfl
  have hregex (pattern : String) : r.ignoreRegex pattern =
      ((Regex.exclusion pattern).map Keep.unmatched).map fun keep => { r with files := r.files.filterMap keep } := by
    cases h : Regex.exclusion pattern with
    | error e => simp [ignoreRegex, h, bind, Except.bind, Except.map]
    | ok e => simp only [ignoreRegex, h, bind, Except.bind, pure, Except.pure, hfilter]; rfl
  cases filter with
  | files p => rw [narrow, hfilter]; rfl
  | regex pattern => exact hregex pattern
  | wildcard w => exact hregex _
  | projects p => rfl
  | sdk => rfl
  | test => rfl
  | library => rfl
  | source b => rfl

theorem narrowAll_eq (t : FileTree) (r : Runner) (filters : List Filter) :
    r.narrowAll t filters =
      (survivors t r.context.repoPackable filters r.files).map fun files => { r with files } := by
  induction filters generalizing r with
  | nil =>
    have hall : r.files.filterMap (Keep.all []) = r.files := List.filterMap_some
    simp only [narrowAll, survivors, List.foldlM_nil, List.mapM_nil, pure_bind, hall]
    rfl
  | cons filter rest ih =>
    rw [narrowAll, List.foldlM_cons, narrow_eq]
    cases hk : filter.keep t r.context.repoPackable with
    | error e => simp [survivors, hk, bind, Except.bind, Except.map]
    | ok keep =>
      change narrowAll t { r with files := r.files.filterMap keep } rest = _
      rw [ih]
      simp only [survivors, List.mapM_cons, hk]
      cases hks : rest.mapM (Filter.keep t r.context.repoPackable) with
      | error e => rfl
      | ok keeps =>
        have hfuse : (r.files.filterMap keep).filterMap (Keep.all keeps) =
            r.files.filterMap (Keep.all (keep :: keeps)) := List.filterMap_filterMap
        simp only [bind, Except.bind, pure, Except.pure, Except.map, hfuse]

/-- A runner holds exactly the surviving files, and what keeps it from being built is what keeps them from being found. -/
theorem build_eq (t : FileTree) (ctx : Context) (glob name : String) (failIfNone : Bool) (filters : List Filter) :
    build t ctx glob name failIfNone filters =
      (surviving t ctx glob name failIfNone filters).map fun files => ⟨name, ctx, files⟩ := by
  rw [build, discover, surviving]
  cases t.find ctx.root glob with
  | error e => rfl
  | ok paths =>
    cases hnone : failIfNone && paths.isEmpty with
    | true => simp [bind, Except.bind, Except.map, hnone]
    | false => simp [bind, Except.bind, hnone, narrowAll_eq]

end Runner

end RepoConventions.Rules
