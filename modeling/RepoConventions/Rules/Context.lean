import RepoConventions.Config
import RepoConventions.Ignore.RuleSet
import RepoConventions.Project.Load

/-!
# What rules read

The configuration, the ignore rules and the packaging default of a repository, which hold for a whole run.
-/

namespace RepoConventions.Rules

open Files (FileTree)

/-- Build properties that all projects share, relative to the root. -/
def sharedProperties : String := "src/Custom.Build.props"

structure Context where
  config : Config
  ignores : Ignore.RuleSet
  repoPackable : Option Bool

/-- The entries of the suppression file; a missing file has none. -/
def loadIgnoreEntries (t : FileTree) (c : Config) : Except RuleError (List Ignore.Entry) :=
  match t.readText c.ignoreFilePath with
  | .ok text => Ignore.entriesOfText c.ignoreFilePath text
  | .error .notFound => .ok []
  | .error e => .error (.io c.ignoreFilePath e)

def loadIgnores (t : FileTree) (c : Config) : Except RuleError Ignore.RuleSet := do
  Ignore.RuleSet.ofEntries (← loadIgnoreEntries t c)

/-- The packaging default of a repository, if its shared properties can be read and set one. -/
def loadRepoPackable (t : FileTree) (root : String) : Option Bool :=
  match Project.Document.load t (Files.Path.join root sharedProperties) with
  | .ok d => d.isPackable?
  | .error _ => none

namespace Context

def load (t : FileTree) (c : Config) : Except RuleError Context := do
  return ⟨c, ← loadIgnores t c, loadRepoPackable t c.root⟩

def root (ctx : Context) : String := ctx.config.root

end Context

end RepoConventions.Rules
