import RepoConventions.Proofs.Ignore.RuleSet

/-!
# Groups of ignore rules

However rules were added, their groups stand in ascending order of their names, and a group holds the rules of its name as
they were added. One group after the other, the rules are thus sorted by the lower-case names of their checks, and rules
with one name keep their order.
-/

namespace RepoConventions

/-! Stable sorting -/

namespace Text

variable {α : Type} {key : α → String}

section Names

variable {names : List String} (hnames : names.Pairwise (· < ·))

include hnames

end Names

/-! Maps -/

namespace Map

variable {m : Map α} {name : String} {a : α}

end Map

end Text

namespace Ignore.RuleSet

def named (rules : List Rule) (name : String) : List Rule := rules.filter fun r => Text.lowercase r.test = name

variable (rules : List Rule)

def names : List String := (ofRules rules).grouped.map (·.1)

end Ignore.RuleSet

end RepoConventions
