import RepoConventions.Proofs.Workflow.Language

/-!
# Default shells in the value of a workflow

The default shell of a workflow or a job and the run steps of a job, read off the value without decoding it.
-/

namespace RepoConventions.Workflow

open Yaml (Value)

def lastNamed? (node : Option Value) (key : String) : Option Value :=
  (keyedEntries (nodeEntries node)).reverse.lookup key

def settingText? : Value → Option String
  | .null => some ""
  | v => v.scalarText?

/-- The text of `defaults.run.shell` below a workflow or a job. -/
def shellSetBy? (node : Value) : Option String := do
  let run ← lastNamed? (node.field? "defaults") "run"
  let shell ← lastNamed? (some run) "shell"
  settingText? shell

def HasRunText (body : Value) : Prop := ∃ step ∈ nodeItems (body.field? "steps"), (text? step "run").isSome

instance (body : Value) : Decidable (HasRunText body) :=
  inferInstanceAs (Decidable (∃ step ∈ nodeItems (body.field? "steps"), (text? step "run").isSome))

theorem settingText?_of_isSetting {v : Value} {text : String} (h : IsSetting v text) : settingText? v = some text := by
  rcases h with ⟨rfl, rfl⟩ | h
  · rfl
  · cases v with
    | null => cases h
    | bool _ | number _ | string _ | list _ | mapping _ | tagged _ _ => exact h

theorem DefaultsOf.shell?_eq {node : Value} {d : Defaults} (h : DefaultsOf (node.field? "defaults") d) :
    d.shell? = shellSetBy? node := by
  have hrun := h.get? "run"
  change Option.bind (d.get? "run") _ = Option.bind (lastNamed? (node.field? "defaults") "run") _
  change Option.Rel _ _ (lastNamed? (node.field? "defaults") "run") at hrun
  generalize d.get? "run" = m at hrun
  generalize lastNamed? (node.field? "defaults") "run" = run at hrun
  cases hrun with
  | none => rfl
  | @some settings v hsettings =>
    have hshell := hsettings.get? "shell"
    change settings.get? "shell" = Option.bind (lastNamed? (some v) "shell") settingText?
    change Option.Rel _ _ (lastNamed? (some v) "shell") at hshell
    generalize settings.get? "shell" = text at hshell
    generalize lastNamed? (some v) "shell" = shell at hshell
    cases hshell with
    | none => rfl
    | some hsetting => exact (settingText?_of_isSetting hsetting).symm

theorem JobOf.hasRunSteps_iff {e : Value × Value} {j : Job} (h : JobOf e j) :
    j.hasRunSteps = true ↔ HasRunText e.2 := by
  have hsteps := h.steps
  rw [Job.hasRunSteps, List.any_eq_true, HasRunText]
  generalize j.steps = steps at hsteps
  generalize nodeItems (e.2.field? "steps") = items at hsteps
  induction hsteps with
  | nil => simp
  | @cons item step items steps hstep _ ih =>
    have hrun : step.run = text? item "run" := by
      have htexts := hstep.texts
      simp only [Prod.mk.injEq] at htexts
      exact htexts.2.2.2.2.1
    simp only [List.mem_cons, exists_eq_or_imp, ih, hrun]

end RepoConventions.Workflow
