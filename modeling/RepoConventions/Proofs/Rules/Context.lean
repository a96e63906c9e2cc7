import RepoConventions.Proofs.Ignore.RuleSet
import RepoConventions.Rules.Context

/-!
# What a context is loaded from

A context can be loaded unless the suppression file is broken, and its ignore rules then excuse what the entries of the
file excuse.
-/

namespace RepoConventions.Rules

open Files (FileTree)

/-- The suppression file cannot be read, for another reason than that nothing is found at its path, or its text is no
list of entries, or the path of an entry is no pattern. -/
inductive SuppressionsBroken (t : FileTree) (c : Config) : Prop
  | unreadable {e : Files.FileError} (h : t.readText c.ignoreFilePath = .error e) (hfound : e ≠ .notFound)
  | unparsed {text : String} {e : RuleError} (h : t.readText c.ignoreFilePath = .ok text)
    (hparse : Ignore.entriesOfText c.ignoreFilePath text = .error e)
  | pattern {text : String} {entries : List Ignore.Entry} {e : Ignore.Entry}
    (h : t.readText c.ignoreFilePath = .ok text) (hparse : Ignore.entriesOfText c.ignoreFilePath text = .ok entries)
    (he : e ∈ entries) (hpattern : ¬ e.PathIsValid)

/-- Some entry of the suppression file excuses violations without a code of a rule in the file at a relative path. -/
def Suppressed (t : FileTree) (c : Config) (rule path : String) : Prop :=
  ∃ text entries e, t.readText c.ignoreFilePath = .ok text ∧
    Ignore.entriesOfText c.ignoreFilePath text = .ok entries ∧ e ∈ entries ∧ e.Excuses rule none path

theorem Context.load_of_broken {t : FileTree} {c : Config} (h : SuppressionsBroken t c) :
    ∃ e, Context.load t c = .error e := by
  suffices hignores : ∃ e, loadIgnores t c = .error e by
    obtain ⟨e, he⟩ := hignores
    exact ⟨e, by rw [Context.load, he]; rfl⟩
  cases h with
  | @unreadable e h hfound =>
    refine ⟨.io c.ignoreFilePath e, ?_⟩
    have hentries : loadIgnoreEntries t c = .error (.io c.ignoreFilePath e) := by
      unfold loadIgnoreEntries
      rw [h]
      cases e <;> first | rfl | exact absurd rfl hfound
    rw [loadIgnores, hentries]
    rfl
  | @unparsed text e h hparse =>
    refine ⟨e, ?_⟩
    rw [loadIgnores, loadIgnoreEntries, h]
    simp only [hparse]
    rfl
  | @pattern text entries e h hparse he hpattern =>
    obtain ⟨before, x, after, rfl, hbefore, hx⟩ := Ignore.RuleSet.exists_first_fault fun hall => hpattern (hall e he)
    refine ⟨.invalidGlob x.path x.pathFault, ?_⟩
    rw [loadIgnores, loadIgnoreEntries, h]
    simp only [hparse]
    exact Ignore.RuleSet.ofEntries_of_first_fault hbefore hx

theorem Context.load_of_not_broken {t : FileTree} {c : Config} (h : ¬ SuppressionsBroken t c) :
    ∃ ctx, Context.load t c = .ok ctx ∧ ctx.root = c.root ∧
      ∀ rule path, ctx.ignores.excludes rule none path = true ↔ Suppressed t c rule path := by
  suffices hignores : ∃ s, loadIgnores t c = .ok s ∧
      ∀ rule path, s.excludes rule none path = true ↔ Suppressed t c rule path by
    obtain ⟨s, hs, hsuppressed⟩ := hignores
    exact ⟨⟨c, s, loadRepoPackable t c.root⟩, by rw [Context.load, hs]; rfl, rfl, hsuppressed⟩
  cases hread : t.readText c.ignoreFilePath with
  | error e =>
    have he : e = .notFound := Classical.byContradiction fun hne => h (.unreadable hread hne)
    subst he
    refine ⟨.empty, by rw [loadIgnores, loadIgnoreEntries, hread]; rfl, fun rule path => ?_⟩
    rw [Ignore.RuleSet.excludes_empty]
    simp [Suppressed, hread]
  | ok text =>
    cases hparse : Ignore.entriesOfText c.ignoreFilePath text with
    | error e => exact absurd (.unparsed hread hparse) h
    | ok entries =>
      have hvalid : ∀ e ∈ entries, e.PathIsValid := fun e he =>
        Classical.byContradiction fun hpattern => h (.pattern hread hparse he hpattern)
      obtain ⟨s, hs, hexcludes⟩ := Ignore.RuleSet.ofEntries_of_valid hvalid
      refine ⟨s, ?_, fun rule path => ?_⟩
      · rw [loadIgnores, loadIgnoreEntries, hread]
        simp only [hparse]
        exact hs
      · rw [hexcludes]
        simp [Suppressed, hread, hparse]

end RepoConventions.Rules
