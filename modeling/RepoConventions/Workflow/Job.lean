import RepoConventions.Text.Cut
import RepoConventions.Workflow.Fields

/-!
# Jobs and their steps
-/

namespace RepoConventions.Workflow

open Yaml (Value)

structure Step where
  id : Option String
  name : Option String
  condition : Option String
  shell : Option String
  env : Settings
  run : Option String
  uses : Option String
  inputs : Settings
  deriving DecidableEq, Repr

namespace Step

def ofValue (node : Value) (path : String) : Except Error Step :=
  if node.isMapping then do
    let env ← settings (node.field? "env") (path ++ ".env")
    let inputs ← settings (node.field? "with") (path ++ ".with")
    return {
      id := text? node "id"
      name := text? node "name"
      condition := text? node "if"
      shell := text? node "shell"
      env
      run := text? node "run"
      uses := text? node "uses"
      inputs }
  else .error (.invalidField path .step)

/-- The action a step uses, without its version. -/
def action? (s : Step) : Option String :=
  s.uses.map fun uses =>
    match Text.cutAt? ['@'] uses.toList with
    | some (name, _) => .ofList name
    | none => uses

end Step

structure Job where
  id : String
  uses : Option String
  name : Option String
  runsOn : Option String
  defaults : Defaults
  /-- The strategy as it is in the document. -/
  strategy : Option Value
  steps : List Step

namespace Job

def stepPath (id : String) (i : Nat) : String :=
  "jobs." ++ id ++ ".steps[" ++ .ofList (Nat.toDigits 10 i) ++ "]"

def steps? (id : String) (body : Value) : Except Error (List Step) :=
  match body.field? "steps" with
  | none | some .null => .ok []
  | some (.list items) => items.zipIdx.mapM fun (item, i) => Step.ofValue item (stepPath id i)
  | some _ => .error (.invalidField ("jobs." ++ id ++ ".steps") .steps)

/-- The runner labels as one text. -/
def runsOn? (node : Option Value) : Option String := do
  match ← node with
  | .list labels => some (", ".intercalate (labels.filterMap Value.scalarText?))
  | v => v.scalarText?

def strategy? (body : Value) : Option Value := (body.field? "strategy").filter fun v => !v.isNull

def ofValue (id : String) (body : Value) : Except Error Job :=
  if body.isMapping then do
    let steps ← steps? id body
    let defaults ← Workflow.defaults (body.field? "defaults") ("jobs." ++ id ++ ".defaults")
    return {
      id
      uses := text? body "uses"
      name := text? body "name"
      runsOn := runsOn? (body.field? "runs-on")
      defaults
      strategy := strategy? body
      steps }
  else .error (.invalidField ("jobs." ++ id) .jobBody)

def hasRunSteps (j : Job) : Bool := j.steps.any (·.run.isSome)

end Job

end RepoConventions.Workflow
