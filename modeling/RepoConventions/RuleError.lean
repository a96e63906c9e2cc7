import RepoConventions.Files.Error
import RepoConventions.Files.OsText
import RepoConventions.Ignore.Pattern
import RepoConventions.Yaml.Error

/-!
# Broken rules and configurations

What keeps a rule from running, as opposed to a file that violates it.
-/

namespace RepoConventions

open Files (OsText.shown)

/-- What a configuration holds where a list of entries should be. -/
inductive EntryListFault
  | notList (kind : String)
  | notEntries (kind : String)
  deriving DecidableEq, Repr

def EntryListFault.message : EntryListFault → String
  | notList kind => "'ignore' must be a list, found a " ++ kind
  | notEntries kind => "expected a mapping or a list of ignore entries, found a " ++ kind

inductive RuleError
  | noFilesFound (glob : String)
  | invalidFileGlob (glob : String)
  | invalidGlob (pattern : String) (fault : Ignore.PatternFault)
  | invalidRegex (pattern : String)
  | configParse (path : String) (cause : Yaml.Error)
  | invalidConfig (path : String) (fault : EntryListFault)
  | missingField (path : String) (index : Nat) (field : String)
  | io (path : String) (cause : Files.FileError)
  deriving DecidableEq, Repr

def RuleError.message : RuleError → String
  | noFilesFound glob => "No files found matching '" ++ glob ++ "'."
  | invalidFileGlob glob => "invalid file glob '" ++ glob ++ "': "
  | invalidGlob pattern fault => "invalid ignore path glob '" ++ pattern ++ "': " ++ fault.message
  | invalidRegex pattern => "invalid exclusion pattern '" ++ pattern ++ "': "
  | configParse path _ => "failed to parse " ++ OsText.shown path ++ ": "
  | invalidConfig path fault => OsText.shown path ++ ": " ++ fault.message
  | missingField path index field =>
    OsText.shown path ++ ": ignore entry " ++ toString index ++ " is missing required field '" ++ field ++ "'"
  | io path _ => "failed to read " ++ OsText.shown path ++ ": "

end RepoConventions
