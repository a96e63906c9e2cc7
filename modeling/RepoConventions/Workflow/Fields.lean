import RepoConventions.Text.Map
import RepoConventions.Workflow.Fault
import RepoConventions.Yaml.Value

/-!
# Maps of settings

A map of texts has an entry for every key with a text, null read as the empty text; of keys with one text the
last wins. Defaults are such maps under a scope, as in `run: shell: bash`.
-/

namespace RepoConventions.Workflow

open Yaml (Value)

abbrev Settings := Text.Map String

abbrev Defaults := Text.Map Settings

/-- Adds one entry; a key without a text is passed over. -/
def addSetting (path : String) (m : Settings) (entry : Value × Value) : Except Error Settings :=
  match entry.1.scalarText? with
  | none => .ok m
  | some key =>
    match entry.2 with
    | .null => .ok (m.insert key "")
    | v =>
      match v.scalarText? with
      | some text => .ok (m.insert key text)
      | none => .error (.invalidField (path ++ "." ++ key) (.notScalar v.kindName))

/-- The map of texts at `path`; an absent one is empty. -/
def settings (node : Option Value) (path : String) : Except Error Settings :=
  match node with
  | none | some .null => .ok .empty
  | some (.mapping entries) => entries.foldlM (addSetting path) .empty
  | some v => .error (.invalidField path (.notMapping v.kindName))

def addScope (path : String) (m : Defaults) (entry : Value × Value) : Except Error Defaults :=
  match entry.1.scalarText? with
  | none => .ok m
  | some scope => do return m.insert scope (← settings (some entry.2) (path ++ "." ++ scope))

def defaults (node : Option Value) (path : String) : Except Error Defaults :=
  match node with
  | none | some .null => .ok .empty
  | some (.mapping scopes) => scopes.foldlM (addScope path) .empty
  | some v => .error (.invalidField path (.notMapping v.kindName))

/-- The default shell of run steps. -/
def Defaults.shell? (d : Defaults) : Option String := do (← d.get? "run").get? "shell"

/-- The text of a scalar field. -/
def text? (node : Value) (name : String) : Option String := (node.field? name).bind Value.scalarText?

end RepoConventions.Workflow
