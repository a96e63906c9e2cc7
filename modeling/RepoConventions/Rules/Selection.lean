import RepoConventions.Memo.Batch
import RepoConventions.Rules.Builtin

/-!
# Selected rules

The rules that a check asks for. All of them run at once on one memo, so that a rule named again does not run again,
and the outcomes stand in the order in which the rules are first named.
-/

namespace RepoConventions.Rules

/-- The rules of some names in that order, or all when there are none. An unknown name is the error. -/
def select (ids : List String) : Except String (List BuiltinRule) :=
  if ids.isEmpty then .ok builtinRules
  else ids.mapM fun id => match BuiltinRule.find? id with
    | some r => .ok r
    | none => .error id

abbrev Outcome := Except RuleError RuleReport

/-- A rule runs as the initializer of its name. It cannot fail, as what keeps a rule from running is an outcome too. -/
def BuiltinRule.call (ctx : Context) (r : BuiltinRule) : Memo.Call Session Empty Outcome where
  key := r.id
  compute s := ((.ok (r.run ctx s).1), (r.run ctx s).2)
  yields := 1

def callBatch (ctx : Context) (rules : List BuiltinRule) (s : Session) : Memo.Batch Session Empty Outcome :=
  .ofCalls s .empty (rules.map (BuiltinRule.call ctx))

/-- Leaves out every rule whose name an earlier one has. -/
def firstNamed (rules : List BuiltinRule) : List BuiltinRule :=
  rules.foldl (fun seen r => if seen.any (·.id = r.id) then seen else seen ++ [r]) []

def outcomesOf (rules : List BuiltinRule) (m : Memo Outcome) : List (BuiltinRule × Outcome) :=
  (firstNamed rules).filterMap fun r => (m.get? r.id).map (r, ·)

def runAll (ctx : Context) (rules : List BuiltinRule) (s : Session) : List (BuiltinRule × Outcome) × Session :=
  let b := (callBatch ctx rules s).run
  (outcomesOf rules b.memo, b.state)

end RepoConventions.Rules
