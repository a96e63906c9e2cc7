import RepoConventions.CommandLine.Answer
import RepoConventions.Proofs.Rules.Builtin
import RepoConventions.Proofs.Rules.Context
import RepoConventions.Proofs.Rules.Selection

/-!
# The code of a check

A check ends with two when it is refused or a rule cannot run, else with one when some rule that was asked for finds a
violation that is not suppressed, else with zero. A summary says the same.
-/

namespace RepoConventions.CommandLine

open Files (FileTree)
open Rules (BuiltinRule Context Session RuleReport Tells asked firstNamed)

/-! Codes -/

theorem exitCode_eq_two_iff {outcomes : List Rules.Outcome} :
    Rules.exitCode outcomes = 2 ↔ ∃ o ∈ outcomes, ∃ e, o = .error e := by
  have herror (o : Rules.Outcome) : (!o.isOk) = true ↔ ∃ e, o = .error e := by
    cases o <;> simp [Except.isOk, Except.toBool]
  have hany : (outcomes.any fun o => !o.isOk) = true ↔ ∃ o ∈ outcomes, ∃ e, o = .error e := by
    simp only [List.any_eq_true, herror]
  rw [← hany]
  unfold Rules.exitCode
  split
  · next h => simp [h]
  · next h => split <;> simp [h]

theorem exitCode_eq_zero_iff {outcomes : List Rules.Outcome} :
    Rules.exitCode outcomes = 0 ↔ ∀ o ∈ outcomes, Rules.Outcome.passed o = true := by
  have hpassed : (∀ o ∈ outcomes, Rules.Outcome.passed o = true) ↔
      (outcomes.any fun o => !Rules.Outcome.passed o) = false := by
    simp
  have hisOk : ∀ o ∈ outcomes, (!o.isOk) = true → (!Rules.Outcome.passed o) = true := by
    rintro (e | report) _ h
    · rfl
    · cases h
  rw [hpassed]
  unfold Rules.exitCode
  split
  · next h =>
    obtain ⟨o, ho, herror⟩ := List.any_eq_true.mp h
    simp only [Nat.reduceEqDiff, false_iff, Bool.not_eq_false]
    exact List.any_eq_true.mpr ⟨o, ho, hisOk o ho herror⟩
  · next h => split <;> simp_all

theorem exitCode_cases (outcomes : List Rules.Outcome) :
    Rules.exitCode outcomes = 0 ∨ Rules.exitCode outcomes = 1 ∨ Rules.exitCode outcomes = 2 := by
  unfold Rules.exitCode
  split
  · exact .inr (.inr rfl)
  · split
    · exact .inr (.inl rfl)
    · exact .inl rfl

/-! Refused checks -/

/-- A check does not begin: some name is of no rule, or the suppression file is broken. -/
inductive IsRefused (t : FileTree) (c : Config) (ids : List String) : Prop
  | unknown {id : String} (h : id ∈ ids) (hunknown : Rules.IsUnknown id)
  | suppressions (h : Rules.SuppressionsBroken t c)

/-- A check cannot be done: it is refused, or a rule that was asked for lacks files. -/
inductive CannotCheck (t : FileTree) (c : Config) (ids : List String) : Prop
  | refused (h : IsRefused t c ids)
  | files {r : BuiltinRule} (h : r ∈ asked ids) (hlacks : Rules.LacksFiles t c.root r)

def HasViolation (t : FileTree) (c : Config) (ids : List String) : Prop :=
  ∃ r ∈ asked ids, ∃ path, Rules.Offends t c.root r path ∧
    ¬ Rules.Suppressed t c r.id (Files.Path.relativeTo c.root path)

theorem check_of_refused {t : FileTree} {c : Config} {ids : List String} (h : IsRefused t c ids) (json : Bool) :
    (check t c ids json).code = 2 ∧ (check t c ids json).output = "" ∧ (check t c ids json).tree = t := by
  by_cases hunknown : ∃ id ∈ ids, Rules.IsUnknown id
  · obtain ⟨id, hid⟩ := Rules.select_of_unknown hunknown
    rw [check, hid]
    exact ⟨rfl, rfl, rfl⟩
  · have hknown : ∀ id ∈ ids, ¬ Rules.IsUnknown id := fun id hid hunknown' => hunknown ⟨id, hid, hunknown'⟩
    cases h with
    | unknown hid h => exact absurd h (hknown _ hid)
    | suppressions h =>
      obtain ⟨e, he⟩ := Rules.Context.load_of_broken h
      rw [check, Rules.select_of_known hknown]
      simp only [he]
      exact ⟨rfl, rfl, rfl⟩

/-! Checks that begin -/

def outcomesAlone (ctx : Context) (s : Session) (ids : List String) : List (BuiltinRule × Rules.Outcome) :=
  (firstNamed (asked ids)).map fun r => (r, (r.run ctx s).1)

/-- What a check answers that is not refused. -/
structure Answers (t : FileTree) (c : Config) (ids : List String) (ctx : Context) : Prop where
  root : ctx.root = c.root
  excludes : ∀ rule path, ctx.ignores.excludes rule none path = true ↔ Rules.Suppressed t c rule path
  answer : ∀ json, check t c ids json = checkAnswer json (outcomesAlone ctx ⟨.new c, t⟩ ids) ⟨.new c, t⟩

theorem exists_answers {t : FileTree} {c : Config} {ids : List String} (h : ¬ IsRefused t c ids) :
    ∃ ctx, Answers t c ids ctx := by
  have hknown : ∀ id ∈ ids, ¬ Rules.IsUnknown id := fun id hid hunknown => h (.unknown hid hunknown)
  obtain ⟨ctx, hctx, hroot, hexcludes⟩ := Rules.Context.load_of_not_broken fun hbroken => h (.suppressions hbroken)
  refine ⟨ctx, hroot, hexcludes, fun json => ?_⟩
  have hrun : Rules.runAll ctx (asked ids) ⟨.new c, t⟩ = (outcomesAlone ctx ⟨.new c, t⟩ ids, ⟨.new c, t⟩) :=
    Rules.runAll_eq (fun r => Rules.mem_builtinRules_of_asked) fun r hr =>
      (Rules.BuiltinRule.run_tells (Rules.mem_builtinRules_of_asked hr) ctx _).1
  rw [check, Rules.select_of_known hknown]
  simp only [hctx, hrun]

theorem checkAnswer_new (json : Bool) (outcomes : List (BuiltinRule × Rules.Outcome)) (c : Config) (t : FileTree) :
    (checkAnswer json outcomes ⟨.new c, t⟩).code = Rules.exitCode (outcomes.map (·.2)) ∧
      (checkAnswer true outcomes ⟨.new c, t⟩).output = linesText [(Rules.summaryJson outcomes).pretty] ∧
      (checkAnswer json outcomes ⟨.new c, t⟩).tree = t :=
  ⟨rfl, rfl, rfl⟩

namespace Answers

variable {t : FileTree} {c : Config} {ids : List String} {ctx : Context}

theorem code (h : Answers t c ids ctx) (json : Bool) :
    (check t c ids json).code = Rules.exitCode ((outcomesAlone ctx ⟨.new c, t⟩ ids).map (·.2)) := by
  rw [h.answer]
  exact (checkAnswer_new json _ c t).1

theorem mem_outcomes_iff {o : Rules.Outcome} : o ∈ (outcomesAlone ctx ⟨.new c, t⟩ ids).map (·.2) ↔
    ∃ r ∈ asked ids, o = (r.run ctx ⟨.new c, t⟩).1 := by
  have hmem (r : BuiltinRule) : r ∈ firstNamed (asked ids) ↔ r ∈ asked ids :=
    Rules.mem_firstNamed_iff fun r => Rules.mem_builtinRules_of_asked
  simp [outcomesAlone, hmem, eq_comm]

theorem tells {r : BuiltinRule} (hr : r ∈ asked ids) :
    Tells ctx ⟨.new c, t⟩ r (r.run ctx ⟨.new c, t⟩).1 :=
  (Rules.BuiltinRule.run_tells (Rules.mem_builtinRules_of_asked hr) ctx ⟨.new c, t⟩).2

theorem code_eq_two_iff (h : Answers t c ids ctx) (json : Bool) :
    (check t c ids json).code = 2 ↔ ∃ r ∈ asked ids, Rules.LacksFiles t c.root r := by
  have herror {r : BuiltinRule} (hr : r ∈ asked ids) :
      (∃ e, (r.run ctx ⟨.new c, t⟩).1 = .error e) ↔ Rules.LacksFiles t c.root r := by
    have htells : Tells ctx ⟨.new c, t⟩ r _ := tells hr
    rw [← h.root]
    generalize (r.run ctx ⟨.new c, t⟩).1 = o at htells
    cases htells with
    | error hlacks => simp [hlacks]
    | report hlacks _ => simp [hlacks]
  rw [h.code, exitCode_eq_two_iff]
  constructor
  · rintro ⟨o, ho, he⟩
    obtain ⟨r, hr, rfl⟩ := mem_outcomes_iff.mp ho
    exact ⟨r, hr, (herror hr).mp he⟩
  · rintro ⟨r, hr, hlacks⟩
    exact ⟨_, mem_outcomes_iff.mpr ⟨r, hr, rfl⟩, (herror hr).mpr hlacks⟩

theorem code_eq_zero_iff (h : Answers t c ids ctx) (json : Bool) :
    (check t c ids json).code = 0 ↔
      (¬ ∃ r ∈ asked ids, Rules.LacksFiles t c.root r) ∧ ¬ HasViolation t c ids := by
  have hpassed {r : BuiltinRule} (hr : r ∈ asked ids) : Rules.Outcome.passed (r.run ctx ⟨.new c, t⟩).1 = true ↔
      ¬ Rules.LacksFiles t c.root r ∧ ∀ path, Rules.Offends t c.root r path →
        Rules.Suppressed t c r.id (Files.Path.relativeTo c.root path) := by
    have htells : Tells ctx ⟨.new c, t⟩ r _ := tells hr
    simp only [← h.root, ← h.excludes]
    generalize (r.run ctx ⟨.new c, t⟩).1 = o at htells
    cases htells with
    | error hlacks => simp [Rules.Outcome.passed, hlacks]
    | report hlacks hpassed => simp [Rules.Outcome.passed, hlacks, hpassed]
  rw [h.code, exitCode_eq_zero_iff]
  constructor
  · intro hall
    have hrule {r : BuiltinRule} (hr : r ∈ asked ids) := (hpassed hr).mp (hall _ (mem_outcomes_iff.mpr ⟨r, hr, rfl⟩))
    refine ⟨?_, ?_⟩
    · rintro ⟨r, hr, hlacks⟩
      exact (hrule hr).1 hlacks
    · rintro ⟨r, hr, path, hoffends, hnot⟩
      exact hnot ((hrule hr).2 path hoffends)
  · rintro ⟨hfiles, hviolation⟩ o ho
    obtain ⟨r, hr, rfl⟩ := mem_outcomes_iff.mp ho
    refine (hpassed hr).mpr ⟨fun hlacks => hfiles ⟨r, hr, hlacks⟩, fun path hoffends => ?_⟩
    exact not_not.mp fun hnot => hviolation ⟨r, hr, path, hoffends, hnot⟩

end Answers

/-! Summaries -/

/-- A text is a summary that says whether all passed, with an entry for each of these rules. -/
def IsSummary (output : String) (passed : Bool) (rules : List String) : Prop :=
  ∃ entries : List Json,
    output = linesText [(Json.object [("passed", .bool passed), ("rules", .array entries)]).pretty] ∧
    List.Forall₂ (fun entry id => ∃ members, entry = .object (("rule", .string id) :: members)) entries rules

theorem outcomeJson_rule (r : BuiltinRule) (o : Rules.Outcome) :
    ∃ members, Rules.outcomeJson r o = .object (("rule", .string r.id) :: members) := by
  cases o <;> exact ⟨_, rfl⟩

theorem Answers.isSummary {t : FileTree} {c : Config} {ids : List String} {ctx : Context} (h : Answers t c ids ctx) :
    IsSummary (check t c ids true).output (decide ((check t c ids true).code = 0))
      ((asked ids).map (·.id)).eraseDups := by
  have hpassed : decide ((check t c ids true).code = 0) =
      (outcomesAlone ctx ⟨.new c, t⟩ ids).all fun e => Rules.Outcome.passed e.2 := by
    rw [h.code, Bool.eq_iff_iff, decide_eq_true_iff, exitCode_eq_zero_iff, List.all_eq_true, List.forall_mem_map]
  refine ⟨(outcomesAlone ctx ⟨.new c, t⟩ ids).map fun e => Rules.outcomeJson e.1 e.2, ?_, ?_⟩
  · rw [hpassed, h.answer, (checkAnswer_new false _ c t).2.1]
    rfl
  · rw [← Rules.map_id_firstNamed, outcomesAlone, List.map_map, List.forall₂_map_left_iff, List.forall₂_map_right_iff,
      List.forall₂_same]
    exact fun r _ => outcomeJson_rule r _

/-- The code of a check, for any files, configuration and names of rules, with and without a summary. A summary is
printed unless the check is refused; it has an entry for each rule that was asked for, in the order of the first
names. -/
theorem check_code (t : FileTree) (c : Config) (ids : List String) (json : Bool) :
    ((check t c ids json).code = 2 ↔ CannotCheck t c ids) ∧
    ((check t c ids json).code = 1 ↔ ¬ CannotCheck t c ids ∧ HasViolation t c ids) ∧
    ((check t c ids json).code = 0 ↔ ¬ CannotCheck t c ids ∧ ¬ HasViolation t c ids) ∧
    (check t c ids true).code = (check t c ids false).code ∧
    (IsRefused t c ids → (check t c ids json).output = "") ∧
    (¬ IsRefused t c ids → IsSummary (check t c ids true).output (decide ((check t c ids true).code = 0))
      ((asked ids).map (·.id)).eraseDups) := by
  by_cases hrefused : IsRefused t c ids
  · have hcannot : CannotCheck t c ids := .refused hrefused
    obtain ⟨hcode, houtput, -⟩ := check_of_refused hrefused json
    have hsame := (check_of_refused hrefused true).1.trans (check_of_refused hrefused false).1.symm
    simp [hcode, hcannot, hsame, houtput, hrefused]
  · obtain ⟨ctx, h⟩ := exists_answers hrefused
    have hcannot : CannotCheck t c ids ↔ ∃ r ∈ asked ids, Rules.LacksFiles t c.root r := by
      constructor
      · rintro (hrefused' | ⟨hr, hlacks⟩)
        · exact absurd hrefused' hrefused
        · exact ⟨_, hr, hlacks⟩
      · rintro ⟨r, hr, hlacks⟩
        exact .files hr hlacks
    have htwo := h.code_eq_two_iff json
    have hzero := h.code_eq_zero_iff json
    rw [← hcannot] at htwo hzero
    have hone : (check t c ids json).code = 1 ↔ ¬ (check t c ids json).code = 2 ∧ ¬ (check t c ids json).code = 0 := by
      rw [h.code]
      rcases exitCode_cases ((outcomesAlone ctx ⟨.new c, t⟩ ids).map (·.2)) with hc | hc | hc <;> simp [hc]
    refine ⟨htwo, ?_, hzero, (h.code true).trans (h.code false).symm, fun h => absurd h hrefused, fun _ => h.isSummary⟩
    rw [hone, htwo, hzero]
    tauto

private def sampleFiles : FileTree := FileTree.empty.putFile ["r", ".github", "workflows", "a.yml"] .empty

/-- Of three names two are of one rule, which finds a violation. -/
theorem check_code_repeated :
    let ids := ["Workflow-Default-Shell", "global-suppressions", "workflow-default-shell"]
    let answer := check sampleFiles (.ofRoot "/r") ids true
    answer.code = 1 ∧ HasViolation sampleFiles (.ofRoot "/r") ids ∧
      IsSummary answer.output false ["workflow-default-shell", "global-suppressions"] := by
  intro ids answer
  have hcode : (check sampleFiles (.ofRoot "/r") ids true).code = 1 := by decide +kernel
  obtain ⟨-, hone, -, -, -, hsummary⟩ := check_code sampleFiles (.ofRoot "/r") ids true
  obtain ⟨hcannot, hviolation⟩ := hone.mp hcode
  have hprinted := hsummary fun hrefused => hcannot (.refused hrefused)
  have hnames : ((asked ids).map (·.id)).eraseDups = ["workflow-default-shell", "global-suppressions"] := by
    decide +kernel
  rw [hcode, hnames] at hprinted
  exact ⟨hcode, hviolation, hprinted⟩

private def sampleBelowFile : FileTree := FileTree.empty.putFile ["README.md"] .empty

/-- A suppression file that is not there can still keep a check from being done, where its path leads below a file. -/
theorem check_code_below_file :
    ¬ ∀ t c ids json, (check t c ids json).code = 2 ↔
      (∃ id ∈ ids, Rules.IsUnknown id) ∨
      (t.doesExist c.ignoreFilePath = true ∧ Rules.SuppressionsBroken t c) ∨
      ∃ r ∈ asked ids, Rules.LacksFiles t c.root r := by
  intro hall
  have hcode : (check sampleBelowFile ((Config.ofRoot "/").withIgnoreFile "/README.md/conform.yml")
      ["global-suppressions"] false).code = 2 := by decide +kernel
  rcases (hall _ _ _ _).mp hcode with ⟨id, hid, hunknown⟩ | ⟨hexists, -⟩ | ⟨r, hr, hlacks⟩
  · rw [List.mem_singleton.mp hid] at hunknown
    have hfalse := hunknown Rules.globalSuppressions (by simp [Rules.builtinRules])
    revert hfalse
    decide
  · revert hexists
    decide +kernel
  · have hasked : asked ["global-suppressions"] = [Rules.globalSuppressions] := by rfl
    rw [hasked, List.mem_singleton, hlacks.rule] at hr
    exact absurd (congrArg BuiltinRule.id hr) (by decide)

end RepoConventions.CommandLine
