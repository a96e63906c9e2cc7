import RepoConventions.CommandLine.Answer
import RepoConventions.Proofs.Ignore.Grouping

/-!
# Listing ignore rules

The groups of a set are the rules that were added, sorted by the lower-case names of their checks, and the listing goes
through the groups. So every rule that was loaded is listed once, under the name of its check.
-/

namespace RepoConventions.CommandLine

open Files (FileTree)
open Ignore (Entry Rule RuleSet)

end RepoConventions.CommandLine
