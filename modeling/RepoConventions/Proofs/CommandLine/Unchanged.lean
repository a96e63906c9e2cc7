import RepoConventions.CommandLine.Program
import RepoConventions.Proofs.CommandLine.Check

/-!
# Runs that change nothing

No built-in rule has a warning, so the report of warnings is never opened, and only an open report is written or flagged
when it is saved. The other commands only read.
-/

namespace RepoConventions.CommandLine

open Files (FileTree)

/-- A check leaves the files as they are, whether it is refused or answered. -/
theorem check_tree (t : FileTree) (c : Config) (ids : List String) (json : Bool) : (check t c ids json).tree = t := by
  by_cases hrefused : IsRefused t c ids
  · exact (check_of_refused hrefused json).2.2
  · obtain ⟨ctx, h⟩ := exists_answers hrefused
    rw [h.answer]
    exact (checkAnswer_new json _ c t).2.2

theorem Answer.printed_tree (t : FileTree) (lines : List String) : (printed t lines).tree = t := rfl

theorem Answer.failed_tree (t : FileTree) (line : String) : (failed t line).tree = t := rfl

theorem showWorkflow_tree (t : FileTree) (c : Config) (file : String) : (showWorkflow t c file).tree = t := by
  unfold showWorkflow
  cases Workflow.Document.load t (workflowPath t c file) with
  | error e => exact Answer.failed_tree t _
  | ok d =>
    cases hjson : d.json with
    | error e => simp only [hjson, Answer.failed_tree]
    | ok j => simp only [hjson, Answer.printed_tree]

theorem listIgnoreRules_tree (t : FileTree) (c : Config) (json : Bool) : (listIgnoreRules t c json).tree = t := by
  unfold listIgnoreRules
  cases Rules.loadIgnores t c with
  | error e => exact Answer.failed_tree t _
  | ok s =>
    cases json with
    | true => exact Answer.printed_tree t _
    | false =>
      cases hempty : s.isEmpty with
      | true => simp only [hempty, if_true, if_false, Bool.false_eq_true, Answer.printed_tree]
      | false => simp only [hempty, if_false, Bool.false_eq_true, Answer.printed_tree]

theorem listRules_tree (t : FileTree) (json : Bool) : (listRules t json).tree = t := by
  cases json <;> rfl

theorem Invocation.answer_tree (i : Invocation) (t : FileTree) (lookup : String → Option String) :
    (i.answer t lookup).tree = t := by
  rw [answer]
  cases i.command with
  | check ids => exact check_tree t _ ids i.json
  | workflow file => exact showWorkflow_tree t _ file
  | ignore => exact listIgnoreRules_tree t _ i.json
  | rules => exact listRules_tree t i.json

/-- Whatever the variables and the arguments, a run of the program leaves all files as they are. -/
theorem run_tree (t : FileTree) (lookup : String → Option String) (arguments : List String) :
    (run t lookup arguments).tree = t := by
  rw [run]
  split
  · next i _ => exact i.answer_tree t lookup
  · rfl
  · rfl
  · rfl

end RepoConventions.CommandLine
