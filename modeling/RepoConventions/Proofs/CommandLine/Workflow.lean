import RepoConventions.CommandLine.Program
import RepoConventions.Proofs.Workflow.Keys
import RepoConventions.Proofs.Workflow.Printed

/-!
# Printing a workflow

The workflow that a path leads to is printed whole as one JSON value, which is read back from what is printed, unless it
cannot be read, is not accepted, or has a strategy with a key that has no text. Then nothing is printed.
-/

namespace RepoConventions.CommandLine

open Files (FileTree)
open Workflow (Document exists_keyText_iff)

/-- What is printed is one JSON value and a line end: it is laid out as that value and read back as it. -/
structure Answer.PrintsJson (a : Answer) (j : Json) : Prop where
  code : a.code = 0
  output : a.output = linesText [j.pretty]
  readBack : Json.ofText? a.output = some j

/-- The answer of a command that cannot do its work. -/
def Answer.Refuses (a : Answer) : Prop := a.code = 2 ∧ a.output = ""

/-- There is an accepted workflow at a path, and null, collections and tagged values are no keys in its strategies. -/
def IsPrintable (t : FileTree) (path : String) : Prop :=
  ∃ d, Document.load t path = .ok d ∧ ∀ k ∈ d.strategyKeys, ¬ k.IsNoKey

/-- No number in the place of a key in the strategies at a path is infinite or not a number. -/
def HasFiniteKeys (t : FileTree) (path : String) : Prop :=
  ∀ d, Document.load t path = .ok d → ∀ k ∈ d.strategyKeys, ¬ k.IsNotFinite

theorem run_of_workflow {lookup : String → Option String} {arguments : List String} {i : Invocation} {file : String}
    (harguments : Invocation.ofArguments (lookup ignoreFileVariable) arguments = .ok i)
    (hcommand : i.command = .workflow file) (t : FileTree) :
    run t lookup arguments = showWorkflow t (i.config t.workingPath lookup) file := by
  rw [run, harguments]
  simp only [Invocation.answer, hcommand]

theorem printsJson_printed (t : FileTree) {j : Json} (h : j.HasNumbers) :
    (Answer.printed t [j.pretty]).PrintsJson j := by
  have houtput : linesText [j.pretty] = j.pretty ++ "\n" := by simp [linesText]
  have hblank : Json.AreBlank "\n".toList := by simp [Json.AreBlank, Json.isSpace]
  refine ⟨rfl, rfl, ?_⟩
  rw [Answer.printed, houtput]
  exact Json.ofText?_pretty h hblank

/-- A workflow is shown when all its keys have texts, and else refused. -/
theorem showWorkflow_cases (t : FileTree) (c : Config) (file : String) :
    (∃ d j, Document.load t (workflowPath t c file) = .ok d ∧ Workflow.HaveTexts d.strategyKeys ∧ d.json = .ok j ∧
      (showWorkflow t c file).PrintsJson j) ∨
    ((showWorkflow t c file).Refuses ∧
      ¬ ∃ d, Document.load t (workflowPath t c file) = .ok d ∧ Workflow.HaveTexts d.strategyKeys) := by
  unfold showWorkflow
  cases Document.load t (workflowPath t c file) with
  | error e => exact .inr ⟨⟨rfl, rfl⟩, fun ⟨_, h, _⟩ => nomatch h⟩
  | ok d =>
    simp only [Except.ok.injEq, exists_eq_left', exists_and_left, ← Document.exists_json_iff]
    cases hjson : d.json with
    | error e => exact .inr ⟨⟨rfl, rfl⟩, fun ⟨_, h⟩ => nomatch h⟩
    | ok j => exact .inl ⟨⟨j, rfl⟩, j, rfl, printsJson_printed t (Document.hasNumbers_json hjson)⟩

/-- Where no float in the place of a key is infinite or not a number, the command prints one JSON value just if the
workflow is accepted and no strategy in it has a null, a collection or a tagged value as a key, at any depth, and the value
is that of the workflow. In every other case it is refused, and prints nothing. -/
theorem run_workflow {lookup : String → Option String} {arguments : List String} {i : Invocation} {file : String}
    (harguments : Invocation.ofArguments (lookup ignoreFileVariable) arguments = .ok i)
    (hcommand : i.command = .workflow file) {t : FileTree} {path : String}
    (hpath : workflowPath t (i.config t.workingPath lookup) file = path) (hfinite : HasFiniteKeys t path) :
    ((∃ j, (run t lookup arguments).PrintsJson j) ↔ IsPrintable t path) ∧
    (IsPrintable t path → ∃ d j, Document.load t path = .ok d ∧ d.json = .ok j ∧ (run t lookup arguments).PrintsJson j) ∧
    (¬ IsPrintable t path → (run t lookup arguments).Refuses) := by
  have hprintable : (∃ d, Document.load t path = .ok d ∧ Workflow.HaveTexts d.strategyKeys) ↔ IsPrintable t path := by
    refine exists_congr fun d => and_congr_right fun hload => ?_
    refine forall₂_congr fun k hk => ?_
    rw [exists_keyText_iff, and_iff_left (hfinite d hload k hk)]
  have hcases := showWorkflow_cases t (i.config t.workingPath lookup) file
  rw [hpath, hprintable, ← run_of_workflow harguments hcommand t] at hcases
  rcases hcases with ⟨d, j, hload, htexts, hjson, hprints⟩ | ⟨hrefuses, hnot⟩
  · have h : IsPrintable t path := hprintable.mp ⟨d, hload, htexts⟩
    exact ⟨iff_of_true ⟨j, hprints⟩ h, fun _ => ⟨d, j, hload, hjson, hprints⟩, fun hnot => absurd h hnot⟩
  · refine ⟨iff_of_false ?_ hnot, fun h => absurd h hnot, fun _ => hrefuses⟩
    rintro ⟨j, hprints⟩
    exact absurd (hprints.code.symm.trans hrefuses.1) (by decide)

/-- Below tags a strategy keeps numbers, also as keys. -/
private def taggedText : String := "on: a\njobs:\n j: {strategy: !m {1: {true: [~]}}}\n"

/-- The same with a null in the place of the inner key. -/
private def nullKeyText : String := "on: a\njobs:\n j: {strategy: !m {1: {~: [~]}}}\n"

private def strategyTree : FileTree :=
  (FileTree.empty.putFile ["a.yml"] taggedText.toUTF8).putFile ["b.yml"] nullKeyText.toUTF8

private def showing (file : String) : Invocation := ⟨.workflow file, none, none, false, false⟩

private theorem strategyTree_keys (path : String) (isNoKey : Bool) (h : (Document.load strategyTree path).toOption.map
    (fun d => (decide (∃ k ∈ d.strategyKeys, k.IsNoKey), decide (∃ k ∈ d.strategyKeys, k.IsNotFinite))) =
      some (isNoKey, false)) : HasFiniteKeys strategyTree path ∧ (IsPrintable strategyTree path ↔ isNoKey = false) := by
  obtain ⟨d, hd, hkeys⟩ := Yaml.exists_ok_of_map h
  obtain ⟨rfl, hfinite⟩ := Prod.mk.inj hkeys
  simp only [HasFiniteKeys, IsPrintable, hd, Except.ok.injEq, exists_eq_left', forall_eq']
  simpa using hfinite

/-- A number and a boolean are keys, null is not. -/
theorem run_workflow_tagged :
    (∃ d j, Document.load strategyTree "/a.yml" = .ok d ∧ d.json = .ok j ∧
      (run strategyTree (fun _ => none) ["workflow", "/a.yml"]).PrintsJson j) ∧
    (run strategyTree (fun _ => none) ["workflow", "/b.yml"]).Refuses := by
  obtain ⟨hafinite, ha⟩ := strategyTree_keys "/a.yml" false (by decide +kernel)
  obtain ⟨hbfinite, hb⟩ := strategyTree_keys "/b.yml" true (by decide +kernel)
  constructor
  · exact (run_workflow (i := showing "/a.yml") rfl rfl rfl hafinite).2.1 (ha.mpr rfl)
  · exact (run_workflow (i := showing "/b.yml") rfl rfl rfl hbfinite).2.2 (hb.not.mpr (by decide))

end RepoConventions.CommandLine
