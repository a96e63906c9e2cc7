import RepoConventions.Text.Cut

/-!
# Arguments

How an argument is written: a word, options in short or long form, or the mark after which all arguments are words.
-/

namespace RepoConventions.CommandLine

inductive Argument
  | word (text : String)
  | short (letters : List Char)
  | long (name : String) (value : Option String)
  | endOfOptions
  deriving DecidableEq, Repr

/-- A single hyphen is a word. -/
def Argument.ofText (text : String) : Argument :=
  match text.toList with
  | ['-', '-'] => .endOfOptions
  | '-' :: '-' :: rest =>
    match Text.cutAt? ['='] rest with
    | some (name, value) => .long (.ofList name) (some (.ofList value))
    | none => .long (.ofList rest) none
  | '-' :: c :: rest => .short (c :: rest)
  | _ => .word text

end RepoConventions.CommandLine
