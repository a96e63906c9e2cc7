import RepoConventions.Rules.Runner

/-!
# What calls leave on a record

A check reports on a file by calls. Whatever else it does to the record or to the tree, the marks of the record are those
of the calls that no ignore rule excuses, in the order in which they were made.
-/

namespace RepoConventions.Rules

open Files (FileTree)

inductive Call
  | markFailed
  | fail (reason : String)
  | failCode (code reason : String)
  | warn (reason : String)
  | warnCode (code reason : String)
  deriving DecidableEq, Repr

namespace Call

def violation : Call → Violation
  | markFailed => .markFailed
  | fail reason => .fail reason
  | failCode code reason => .failCode code reason
  | warn reason => .warn reason
  | warnCode code reason => .warnCode code reason

def severity : Call → Severity
  | markFailed | fail _ | failCode .. => .fail
  | warn _ | warnCode .. => .warn

def code? : Call → Option String
  | failCode code _ | warnCode code _ => some code
  | markFailed | fail _ | warn _ => none

def reason? : Call → Option String
  | markFailed => none
  | fail reason | warn reason => some reason
  | failCode code reason | warnCode code reason => some (code ++ ": " ++ reason)

@[simp] theorem violation_severity (c : Call) : c.violation.severity = c.severity := by
  cases c <;> rfl

@[simp] theorem violation_code (c : Call) : c.violation.code = c.code? := by
  cases c <;> rfl

@[simp] theorem violation_text (c : Call) : c.violation.text? = c.reason? := by
  cases c <;> rfl

end Call

/-- The calls of one severity that no ignore rule excuses for a rule in the file at a relative path. -/
def Context.unexcused (ctx : Context) (rule path : String) (s : Severity) (calls : List Call) : List Call :=
  calls.filter fun c => c.severity = s && !ctx.ignores.excludes rule c.code? path

def callLines (path : String) (calls : List Call) : List String :=
  if calls = [] then []
  else match calls.filterMap Call.reason? with
    | [] => [path]
    | reasons => reasons.map fun reason => path ++ " - " ++ reason

/-- What a check may do with a record and the tree, and the calls it makes on the way. -/
inductive Acts : FileRecord → FileTree → List Call → FileRecord → FileTree → Prop
  | done (f : FileRecord) (t : FileTree) : Acts f t [] f t
  | call {f g : FileRecord} {t u : FileTree} {c : Call} {calls : List Call}
      (rest : Acts (f.note c.violation) t calls g u) : Acts f t (c :: calls) g u
  | project {f g : FileRecord} {t u : FileTree} {calls : List Call}
      (rest : Acts (f.project t).2 t calls g u) : Acts f t calls g u
  | workflow {f g : FileRecord} {t u : FileTree} {calls : List Call}
      (rest : Acts (f.workflow t).2 t calls g u) : Acts f t calls g u
  | tree {f g : FileRecord} {t t' u : FileTree} {calls : List Call}
      (rest : Acts f t' calls g u) : Acts f t calls g u

/-- On every file, under every tree, the check makes the calls that are given for it. -/
def Check.Performs {α : Type} (check : Check α) (calls : FileRecord → FileTree → List Call) : Prop :=
  ∀ f t, Acts f t (calls f t) (check f t).2.1 (check f t).2.2

def Check.ofCalls (calls : FileRecord → FileTree → List Call) : Check Unit :=
  fun f t => ((), f.noteAll ((calls f t).map Call.violation), t)

theorem Acts.noteAll (f : FileRecord) (t : FileTree) (calls : List Call) :
    Acts f t calls (f.noteAll (calls.map Call.violation)) t := by
  induction calls generalizing f with
  | nil => exact .done f t
  | cons c rest ih => exact .call (ih (f.note c.violation))

theorem Check.ofCalls_performs (calls : FileRecord → FileTree → List Call) :
    (Check.ofCalls calls).Performs calls :=
  fun f t => .noteAll f t (calls f t)

/-! One file -/

/-- The part of a record that no check changes. -/
structure SameFile (f g : FileRecord) : Prop where
  fullPath : g.fullPath = f.fullPath
  relativePath : g.relativePath = f.relativePath
  rule : g.rule = f.rule
  context : g.context = f.context

namespace SameFile

variable {f g h : FileRecord}

theorem refl (f : FileRecord) : SameFile f f := ⟨rfl, rfl, rfl, rfl⟩

theorem trans (hfg : SameFile f g) (hgh : SameFile g h) : SameFile f h :=
  ⟨hgh.fullPath.trans hfg.fullPath, hgh.relativePath.trans hfg.relativePath,
    hgh.rule.trans hfg.rule, hgh.context.trans hfg.context⟩

theorem note (f : FileRecord) (v : Violation) : SameFile f (f.note v) := by
  unfold FileRecord.note
  split <;> exact ⟨rfl, rfl, rfl, rfl⟩

theorem project (f : FileRecord) (t : FileTree) : SameFile f (f.project t).2 := ⟨rfl, rfl, rfl, rfl⟩

theorem workflow (f : FileRecord) (t : FileTree) : SameFile f (f.workflow t).2 := ⟨rfl, rfl, rfl, rfl⟩

theorem unexcused (hfg : SameFile f g) (s : Severity) (calls : List Call) :
    g.context.unexcused g.rule g.relativePath s calls = f.context.unexcused f.rule f.relativePath s calls := by
  rw [hfg.context, hfg.rule, hfg.relativePath]

end SameFile

namespace Marks

def mark (m : Marks) : Severity → Mark
  | .fail => m.failed
  | .warn => m.warned

theorem add_mark (m : Marks) (v : Violation) (s : Severity) :
    (m.add v).mark s = if v.severity = s then (m.mark s).add v else m.mark s := by
  cases s <;> cases hv : v.severity <;> simp [add, mark, hv]

end Marks

def Mark.addCalls (m : Mark) (calls : List Call) : Mark :=
  ⟨m.isSet || !calls.isEmpty, m.reasons ++ calls.filterMap Call.reason?⟩

theorem Mark.addCalls_nil (m : Mark) : m.addCalls [] = m := by
  simp [Mark.addCalls]

theorem Mark.addCalls_cons (m : Mark) (c : Call) (calls : List Call) :
    m.addCalls (c :: calls) = (m.add c.violation).addCalls calls := by
  cases hr : c.reason? <;> simp [Mark.addCalls, Mark.add, hr]

theorem Mark.lines_addCalls (path : String) (calls : List Call) :
    (Mark.clear.addCalls calls).lines path = callLines path calls := by
  cases calls with
  | nil => rfl
  | cons c rest =>
    cases hr : (c :: rest).filterMap Call.reason? <;>
      simp [Mark.addCalls, Mark.clear, Mark.lines, callLines, hr]

theorem FileRecord.note_mark (f : FileRecord) (c : Call) (s : Severity) :
    (f.note c.violation).marks.mark s =
      (f.marks.mark s).addCalls (f.context.unexcused f.rule f.relativePath s [c]) := by
  by_cases he : f.context.ignores.excludes f.rule c.code? f.relativePath
  · have hnote : f.note c.violation = f := by
      rw [note, isExcused, Call.violation_code, if_pos he]
    have hc : f.context.unexcused f.rule f.relativePath s [c] = [] := by
      simp [Context.unexcused, he]
    rw [hnote, hc, Mark.addCalls_nil]
  · have hnote : f.note c.violation = { f with marks := f.marks.add c.violation } := by
      rw [note, isExcused, Call.violation_code, if_neg he]
    rw [hnote, Marks.add_mark, Call.violation_severity]
    by_cases hs : c.severity = s
    · have hc : f.context.unexcused f.rule f.relativePath s [c] = [c] := by
        simp [Context.unexcused, he, hs]
      rw [if_pos hs, hc, Mark.addCalls_cons, Mark.addCalls_nil]
    · have hc : f.context.unexcused f.rule f.relativePath s [c] = [] := by
        simp [Context.unexcused, hs]
      rw [if_neg hs, hc, Mark.addCalls_nil]

theorem Mark.addCalls_append (m : Mark) (before after : List Call) :
    m.addCalls (before ++ after) = (m.addCalls before).addCalls after := by
  induction before generalizing m with
  | nil => rw [List.nil_append, addCalls_nil]
  | cons c rest ih => rw [List.cons_append, addCalls_cons, ih, addCalls_cons]

namespace Acts

variable {f g : FileRecord} {t u : FileTree} {calls : List Call}

theorem sameFile (h : Acts f t calls g u) : SameFile f g := by
  induction h with
  | done f t => exact SameFile.refl f
  | call _ ih => exact (SameFile.note _ _).trans ih
  | project _ ih => exact (SameFile.project _ _).trans ih
  | workflow _ ih => exact (SameFile.workflow _ _).trans ih
  | tree _ ih => exact ih

/-- A whole check: its unexcused calls are added, and nothing else. -/
theorem marks_mark (h : Acts f t calls g u) (s : Severity) :
    g.marks.mark s = (f.marks.mark s).addCalls (f.context.unexcused f.rule f.relativePath s calls) := by
  induction h with
  | done f t => exact (Mark.addCalls_nil _).symm
  | @call f g t u c calls _ ih =>
    have hsplit : f.context.unexcused f.rule f.relativePath s (c :: calls) =
        f.context.unexcused f.rule f.relativePath s [c] ++ f.context.unexcused f.rule f.relativePath s calls := by
      rw [Context.unexcused, ← List.singleton_append, List.filter_append]
      rfl
    rw [ih, FileRecord.note_mark, (SameFile.note f c.violation).unexcused, hsplit, Mark.addCalls_append]
  | project _ ih => exact ih
  | workflow _ ih => exact ih
  | tree _ ih => exact ih

end Acts

end RepoConventions.Rules
