import RepoConventions.Ignore.Rule
import RepoConventions.Text.Lowercase
import RepoConventions.Text.Map

/-!
# Sets of ignore rules

Rules are grouped by the lower-case name of their check and keep their order within a group.
-/

namespace RepoConventions.Ignore

structure RuleSet where
  groups : Text.Map (List Rule)

namespace RuleSet

def empty : RuleSet := ⟨.empty⟩

def rulesFor (s : RuleSet) (check : String) : List Rule := (s.groups.get? (Text.lowercase check)).getD []

def add (s : RuleSet) (r : Rule) : RuleSet :=
  ⟨s.groups.insert (Text.lowercase r.test) (s.rulesFor r.test ++ [r])⟩

theorem rulesFor_add (s : RuleSet) (r : Rule) (check : String) :
    (s.add r).rulesFor check =
      if Text.lowercase check = Text.lowercase r.test then s.rulesFor check ++ [r] else s.rulesFor check := by
  by_cases h : Text.lowercase check = Text.lowercase r.test <;> simp [rulesFor, add, Text.Map.get?_insert, h]

def ofRules (rules : List Rule) : RuleSet := rules.foldl add empty

/-- Fails with the first entry whose pattern is at fault. -/
def ofEntries (entries : List Entry) : Except RuleError RuleSet := do
  return ofRules (← entries.mapM Rule.ofEntry)

/-- Some rule of the check excuses the violation. -/
def excludes (s : RuleSet) (check : String) (code : Option String) (path : String) : Bool :=
  (s.rulesFor check).any fun r => r.appliesTo code path

/-- The groups in ascending order of their names. -/
def grouped (s : RuleSet) : List (String × List Rule) := s.groups.entries

def size (s : RuleSet) : Nat := (s.grouped.flatMap (·.2)).length

def isEmpty (s : RuleSet) : Bool := s.groups.isEmpty

end RuleSet

end RepoConventions.Ignore
