import RepoConventions.Ignore.RuleSet
import RepoConventions.Proofs.Yaml.Results

/-!
# Sets of ignore rules and their entries

Looking a check up among the groups gives the same answer as going through the whole list of entries. Hence neither the
order nor the repetition of entries matters, nor do entries for other checks, and more rules excuse more.
-/

namespace RepoConventions.Ignore

namespace Entry

def PathIsValid (e : Entry) : Prop :=
  (∃ c ∈ e.path.toList, ¬ Text.isBlank c) ∧ ¬ ['*', '*', '*'] <:+: e.path.toList

def pathFault (e : Entry) : PatternFault := if e.path.toList.all Text.isBlank then .blank else .threeStars

/-- The entry alone excuses a violation: its check is the same but for case, it has no code or that code, and its path
matches. -/
def Excuses (e : Entry) (check : String) (code : Option String) (path : String) : Prop :=
  Text.lowercase e.test = Text.lowercase check ∧ (e.code = none ∨ e.code = code) ∧
    (e.path = matchAll ∨ patternMatches e.path path = true)

theorem patternFault?_of_not_valid {e : Entry} (h : ¬ e.PathIsValid) : patternFault? e.path = some e.pathFault := by
  have hsome : patternFault? e.path ≠ none := fun hnone => h ((patternFault?_eq_none_iff e.path).mp hnone)
  unfold patternFault? at hsome ⊢
  unfold pathFault
  split
  · rfl
  · next hblank =>
    rw [if_neg hblank] at hsome
    split
    · rfl
    · next hstars => exact absurd (if_neg hstars) hsome

end Entry

/-! One entry -/

theorem Rule.ofEntry_of_valid {e : Entry} (h : e.PathIsValid) :
    Rule.ofEntry e = .ok ⟨e.test, e.path, e.code, (patternFault?_eq_none_iff e.path).mpr h⟩ := by
  have hnone := (patternFault?_eq_none_iff e.path).mpr h
  unfold Rule.ofEntry
  split
  · rfl
  · next fault hfault => rw [hnone] at hfault; cases hfault

theorem Rule.ofEntry_of_not_valid {e : Entry} (h : ¬ e.PathIsValid) :
    Rule.ofEntry e = .error (.invalidGlob e.path e.pathFault) := by
  have hsome := e.patternFault?_of_not_valid h
  unfold Rule.ofEntry
  split
  · next hnone => rw [hsome] at hnone; cases hnone
  · next fault hfault =>
    rw [hsome] at hfault
    cases hfault
    rfl

theorem Rule.excuses_iff {r : Rule} {e : Entry} (h : Rule.ofEntry e = .ok r) (check : String) (code : Option String)
    (path : String) :
    (Text.lowercase r.test = Text.lowercase check ∧ r.appliesTo code path = true) ↔ e.Excuses check code path := by
  by_cases hv : e.PathIsValid
  · rw [Rule.ofEntry_of_valid hv] at h
    cases h
    have hcode : (e.code.isNone || e.code == code) = true ↔ e.code = none ∨ e.code = code := by
      rw [Bool.or_eq_true, Option.isNone_iff_eq_none, beq_iff_eq]
    simp only [Rule.appliesTo, Rule.coversCode, Rule.coversPath, Entry.Excuses, Bool.and_eq_true, hcode,
      Bool.or_eq_true, beq_iff_eq]
  · rw [Rule.ofEntry_of_not_valid hv] at h
    cases h

/-! Adding rules -/

namespace RuleSet

/-- Every rule that was ever added is found under its check, in the order of addition. -/
theorem rulesFor_foldl_add (s : RuleSet) (rules : List Rule) (check : String) :
    (rules.foldl add s).rulesFor check =
      s.rulesFor check ++ rules.filter fun r => Text.lowercase check = Text.lowercase r.test := by
  induction rules generalizing s with
  | nil => simp
  | cons r rest ih =>
    rw [List.foldl_cons, ih, rulesFor_add]
    by_cases h : Text.lowercase check = Text.lowercase r.test <;> simp [h]

theorem excludes_foldl_add (s : RuleSet) (rules : List Rule) (check : String) (code : Option String) (path : String) :
    (rules.foldl add s).excludes check code path = true ↔
      s.excludes check code path = true ∨
        ∃ r ∈ rules, Text.lowercase r.test = Text.lowercase check ∧ r.appliesTo code path = true := by
  rw [excludes, rulesFor_foldl_add, List.any_append, Bool.or_eq_true]
  apply or_congr Iff.rfl
  simp only [List.any_eq_true, List.mem_filter, decide_eq_true_eq]
  constructor
  · intro h
    obtain ⟨r, ⟨hr, hcheck⟩, happlies⟩ := h
    exact ⟨r, hr, hcheck.symm, happlies⟩
  · intro h
    obtain ⟨r, hr, hcheck, happlies⟩ := h
    exact ⟨r, ⟨hr, hcheck.symm⟩, happlies⟩

theorem excludes_empty (check : String) (code : Option String) (path : String) :
    empty.excludes check code path = false := rfl

/-! Entries -/

theorem mapM_ofEntry_of_valid {entries : List Entry} (h : ∀ e ∈ entries, e.PathIsValid) :
    ∃ rules, entries.mapM Rule.ofEntry = .ok rules ∧
      ∀ check code path, (∃ r ∈ rules, Text.lowercase r.test = Text.lowercase check ∧ r.appliesTo code path = true) ↔
        ∃ e ∈ entries, e.Excuses check code path := by
  induction entries with
  | nil => exact ⟨[], rfl, by simp⟩
  | cons e rest ih =>
    have he := Rule.ofEntry_of_valid (h e (by simp))
    obtain ⟨rules, hrules, hiff⟩ := ih fun x hx => h x (List.mem_cons_of_mem e hx)
    refine ⟨_ :: rules, by rw [List.mapM_cons, he, hrules]; rfl, ?_⟩
    intro check code path
    have hhead := Rule.excuses_iff he check code path
    have htail := hiff check code path
    simp only [List.mem_cons, exists_eq_or_imp]
    exact or_congr hhead htail

theorem ofEntries_of_valid {entries : List Entry} (h : ∀ e ∈ entries, e.PathIsValid) :
    ∃ s, ofEntries entries = .ok s ∧
      ∀ check code path, s.excludes check code path = true ↔ ∃ e ∈ entries, e.Excuses check code path := by
  obtain ⟨rules, hrules, hiff⟩ := mapM_ofEntry_of_valid h
  refine ⟨ofRules rules, by rw [ofEntries, hrules]; rfl, ?_⟩
  intro check code path
  rw [ofRules, excludes_foldl_add, excludes_empty, ← hiff]
  simp

/-- The first entry that is at fault is reported, whatever follows it. -/
theorem ofEntries_of_first_fault {before after : List Entry} {e : Entry} (hbefore : ∀ x ∈ before, x.PathIsValid)
    (he : ¬ e.PathIsValid) : ofEntries (before ++ e :: after) = .error (.invalidGlob e.path e.pathFault) := by
  have hrules (x : Entry) (hx : x ∈ before) : ∃ r, Rule.ofEntry x = .ok r := ⟨_, Rule.ofEntry_of_valid (hbefore x hx)⟩
  rw [ofEntries, Yaml.mapM_of_first_error hrules (Rule.ofEntry_of_not_valid he)]
  rfl

theorem exists_first_fault {entries : List Entry} (h : ¬ ∀ e ∈ entries, e.PathIsValid) :
    ∃ before e after, entries = before ++ e :: after ∧ (∀ x ∈ before, x.PathIsValid) ∧ ¬ e.PathIsValid :=
  Yaml.exists_first_not h

/-- A set can be made exactly of entries with valid paths, and it then excuses what some entry of the list excuses. So it
depends only on which entries are in the list, for a check only on those of that check, and rules that are added later
take no excuse away. -/
theorem ofEntries_excludes (entries : List Entry) :
    ((∃ s, ofEntries entries = .ok s) ↔ ∀ e ∈ entries, e.PathIsValid) ∧
    ((¬ ∀ e ∈ entries, e.PathIsValid) → ∃ before e after, entries = before ++ e :: after ∧
      (∀ x ∈ before, x.PathIsValid) ∧ ¬ e.PathIsValid ∧
      ofEntries entries = .error (.invalidGlob e.path e.pathFault)) ∧
    ∀ s, ofEntries entries = .ok s →
      (∀ check code path, s.excludes check code path = true ↔ ∃ e ∈ entries, e.Excuses check code path) ∧
      (∀ others : List Entry, (∀ e, e ∈ others ↔ e ∈ entries) → ∃ s', ofEntries others = .ok s' ∧
        ∀ check code path, s'.excludes check code path = s.excludes check code path) ∧
      (∀ check, ∃ s', ofEntries (entries.filter fun e => Text.lowercase e.test = Text.lowercase check) = .ok s' ∧
        ∀ code path, s'.excludes check code path = s.excludes check code path) ∧
      ∀ (rules : List Rule) check code path, s.excludes check code path = true →
        (rules.foldl add s).excludes check code path = true := by
  have hfault (h : ¬ ∀ e ∈ entries, e.PathIsValid) : ∃ before e after, entries = before ++ e :: after ∧
      (∀ x ∈ before, x.PathIsValid) ∧ ¬ e.PathIsValid ∧
      ofEntries entries = .error (.invalidGlob e.path e.pathFault) := by
    obtain ⟨before, e, after, rfl, hbefore, he⟩ := exists_first_fault h
    exact ⟨before, e, after, rfl, hbefore, he, ofEntries_of_first_fault hbefore he⟩
  have hok : (∃ s, ofEntries entries = .ok s) ↔ ∀ e ∈ entries, e.PathIsValid := by
    constructor
    · intro hparts
      obtain ⟨s, hs⟩ := hparts
      apply Classical.byContradiction
      intro h
      obtain ⟨before, e, after, -, -, -, herror⟩ := hfault h
      rw [hs] at herror
      cases herror
    · intro h
      obtain ⟨s, hs, -⟩ := ofEntries_of_valid h
      exact ⟨s, hs⟩
  refine ⟨hok, hfault, ?_⟩
  intro s hs
  have hvalid := hok.mp ⟨s, hs⟩
  have hscan : ∀ check code path, s.excludes check code path = true ↔ ∃ e ∈ entries, e.Excuses check code path := by
    obtain ⟨s', hs', hiff⟩ := ofEntries_of_valid hvalid
    rw [hs] at hs'
    cases hs'
    exact hiff
  refine ⟨hscan, ?_, ?_, ?_⟩
  · intro others hmem
    have hothers : ∀ e ∈ others, e.PathIsValid := fun e he => hvalid e ((hmem e).mp he)
    obtain ⟨s', hs', hiff⟩ := ofEntries_of_valid hothers
    refine ⟨s', hs', ?_⟩
    intro check code path
    rw [Bool.eq_iff_iff, hiff, hscan]
    simp only [hmem]
  · intro check
    have hown : ∀ e ∈ entries.filter fun e => Text.lowercase e.test = Text.lowercase check, e.PathIsValid :=
      fun e he => hvalid e (List.mem_filter.mp he).1
    obtain ⟨s', hs', hiff⟩ := ofEntries_of_valid hown
    refine ⟨s', hs', ?_⟩
    intro code path
    rw [Bool.eq_iff_iff, hiff, hscan]
    constructor
    · intro hparts
      obtain ⟨e, he, hexcuses⟩ := hparts
      exact ⟨e, (List.mem_filter.mp he).1, hexcuses⟩
    · intro hparts
      obtain ⟨e, he, hexcuses⟩ := hparts
      exact ⟨e, List.mem_filter.mpr ⟨he, decide_eq_true hexcuses.1⟩, hexcuses⟩
  · intro rules check code path h
    exact (excludes_foldl_add s rules check code path).mpr (.inl h)

end RuleSet

end RepoConventions.Ignore
