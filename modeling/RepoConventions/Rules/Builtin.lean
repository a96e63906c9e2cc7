import RepoConventions.Rules.Runner

/-!
# Built-in rules

The rules that every repository can be checked for. The name of a rule is also the name under which ignore rules
excuse its violations.
-/

namespace RepoConventions.Rules

open Files (FileTree)

/-- What a rule may change: the report of warnings and the files. -/
structure Session where
  warnings : WarningReport
  tree : FileTree

structure BuiltinRule where
  id : String
  description : String
  run : Context → Session → Except RuleError RuleReport × Session

/-- Checks the files that a runner holds, or passes its error on. -/
def reportOf {α : Type} (runner : Except RuleError Runner) (check : Check α) (s : Session) :
    Except RuleError RuleReport × Session :=
  match runner with
  | .ok r =>
    let run := r.run check s.warnings s.tree
    (.ok run.report, ⟨run.warnings, run.tree⟩)
  | .error e => (.error e, s)

/-! Default shells of workflows -/

/-- How the relative paths of workflow files begin. -/
def workflowsPath : String := ".github/workflows"

def acceptedShells : List String := ["pwsh", "bash"]

def acceptsShell (shell : Option String) : Bool := shell.any acceptedShells.contains

/-- The jobs with run steps that neither they nor the workflow give an accepted shell. -/
def jobsWithoutShell (d : Workflow.Document) : List Workflow.Job :=
  if acceptsShell d.defaults.shell? then []
  else d.jobs.filter fun j => !acceptsShell j.defaults.shell? && j.hasRunSteps

def shellViolation (j : Workflow.Job) : Violation :=
  .fail ("Job '" ++ j.id ++ "' does not have a default shell defined at the workflow or job level.")

def shellViolations : Except Workflow.Error Workflow.Document → List Violation
  | .ok d => (jobsWithoutShell d).map shellViolation
  | .error e => [.fail ("Unable to parse workflow: " ++ e.message)]

def shellCheck : Check Unit := fun r t =>
  let (read, r) := r.workflow t
  ((), r.noteAll (shellViolations read), t)

def shellRunner (t : FileTree) (ctx : Context) (id : String) : Except RuleError Runner := do
  let r ← Runner.discover t ctx "*.yml" id true
  return r.filesWhere fun f => workflowsPath.toList.isPrefixOf f.relativePath.toList

def workflowDefaultShell : BuiltinRule where
  id := "workflow-default-shell"
  description := "Workflows should set the default shell to 'pwsh' or 'bash' to ensure the same behavior on all " ++
    "platforms, unless there are no run steps"
  run ctx s := reportOf (shellRunner s.tree ctx "workflow-default-shell") shellCheck s

/-! Global suppressions -/

def failCheck : Check Unit := fun r t => ((), r.note .markFailed, t)

def globalSuppressions : BuiltinRule where
  id := "global-suppressions"
  description := "Global suppressions should be expressed in .editorconfig files so they are easily findable"
  run ctx s := reportOf (Runner.discover s.tree ctx "GlobalSuppressions.cs" "global-suppressions" false) failCheck s

def builtinRules : List BuiltinRule := [workflowDefaultShell, globalSuppressions]

/-- The rule of that name; the case of ASCII letters does not count. -/
def BuiltinRule.find? (id : String) : Option BuiltinRule := builtinRules.find? fun r => Text.eqIgnoreCase r.id id

end RepoConventions.Rules
