import RepoConventions.Proofs.Rules.Suppression

/-!
# Outcomes of calls

An excused call leaves no trace: a record ends as it does when the other calls alone are made and nothing is excused.
Failures and warnings do not meet either: the mark of each severity is made by the calls of that severity, however those
of the other stand between them.
-/

namespace RepoConventions.Rules

open Files (FileTree)

variable {ctx : Context} {rule path : String} {g : FileRecord} {t u : FileTree} {calls : List Call}

def Severity.callsAmong (s : Severity) (calls : List Call) : List Call := calls.filter (·.severity = s)

def Context.allowed (ctx : Context) (rule path : String) (calls : List Call) : List Call :=
  calls.filter fun c => !ctx.ignores.excludes rule c.code? path

theorem Context.unexcused_eq (ctx : Context) (rule path : String) (s : Severity) (calls : List Call) :
    ctx.unexcused rule path s calls = ctx.allowed rule path (s.callsAmong calls) := by
  rw [unexcused, allowed, Severity.callsAmong, List.filter_filter]
  exact List.filter_congr fun c _ => Bool.and_comm _ _

theorem Context.unexcused_allowed (ctx : Context) (rule path : String) (s : Severity) (calls : List Call) :
    (ctx.withIgnores .empty).unexcused rule path s (ctx.allowed rule path calls) = ctx.unexcused rule path s calls := by
  have hempty (c : Call) : (ctx.withIgnores .empty).ignores.excludes rule c.code? path = false :=
    Ignore.RuleSet.excludes_empty rule c.code? path
  simp only [unexcused, allowed, hempty, List.filter_filter, Bool.not_false, Bool.and_true]

theorem Marks.eq_of_mark {m n : Marks} (h : ∀ s, m.mark s = n.mark s) : m = n := by
  obtain ⟨failed, warned⟩ := m
  obtain rfl : failed = n.failed := h .fail
  obtain rfl : warned = n.warned := h .warn
  rfl

theorem Mark.isSet_of_reasons_addCalls (calls : List Call) (h : (Mark.clear.addCalls calls).reasons ≠ []) :
    (Mark.clear.addCalls calls).isSet = true := by
  cases calls with
  | nil => exact absurd rfl h
  | cons c rest => rfl

/-- The mark of a severity after any use of a fresh record. -/
theorem Acts.mark_of_new (h : Acts (.new ctx rule path) t calls g u) (s : Severity) :
    g.marks.mark s = Mark.clear.addCalls (ctx.unexcused rule (Files.Path.relativeTo ctx.root path) s calls) := by
  rw [h.marks_mark s]
  cases s <;> rfl

/-- Whatever else is done with a fresh record, its marks are those that the allowed calls alone leave where nothing is
excused. Reasons never stand in a mark that is not set, and the calls of a severity alone decide its mark, so failures
and warnings may come in any order between each other. -/
theorem Acts.outcome (h : Acts (.new ctx rule path) t calls g u) :
    let allowed := ctx.allowed rule (Files.Path.relativeTo ctx.root path) calls
    g.marks = ((FileRecord.new (ctx.withIgnores .empty) rule path).noteAll (allowed.map Call.violation)).marks ∧
      (∀ s, (g.marks.mark s).reasons ≠ [] → (g.marks.mark s).isSet = true) ∧
      ∀ {others : List Call} {k : FileRecord} {t' u' : FileTree}, Acts (.new ctx rule path) t' others k u' →
        (∀ s, s.callsAmong others = s.callsAmong calls → k.marks.mark s = g.marks.mark s) ∧
        ((∀ s : Severity, s.callsAmong others = s.callsAmong calls) → k.marks = g.marks) := by
  refine ⟨Marks.eq_of_mark fun s => ?_, fun s hreasons => ?_, fun {others k t' u'} hk => ?_⟩
  · have hclean := Acts.noteAll (.new (ctx.withIgnores .empty) rule path) t
      (ctx.allowed rule (Files.Path.relativeTo ctx.root path) calls)
    have hroot : (ctx.withIgnores .empty).root = ctx.root := rfl
    rw [hclean.mark_of_new s, h.mark_of_new s, hroot, Context.unexcused_allowed]
  · rw [h.mark_of_new s] at hreasons ⊢
    exact Mark.isSet_of_reasons_addCalls _ hreasons
  · have hmark (s : Severity) (hs : s.callsAmong others = s.callsAmong calls) : k.marks.mark s = g.marks.mark s := by
      rw [hk.mark_of_new s, h.mark_of_new s, Context.unexcused_eq, hs, ← Context.unexcused_eq]
    exact ⟨hmark, fun hall => Marks.eq_of_mark fun s => hmark s (hall s)⟩

private def namingContext : Context :=
  ⟨.ofRoot "/r", .ofRules [⟨"Naming", Ignore.matchAll, some "N1", Ignore.patternFault?_matchAll⟩], none⟩

private def mixedCalls : List Call :=
  [.warn "long", .failCode "N1" "excused", .markFailed, .warnCode "N1" "excused", .failCode "N2" "not excused"]

/-- Two of five calls are excused, and all failures may as well come before the warnings. -/
theorem Acts.outcome_mixed :
    let record := FileRecord.new namingContext "naming" "/r/A"
    let apart := Severity.fail.callsAmong mixedCalls ++ Severity.warn.callsAmong mixedCalls
    let marks : Marks := ⟨⟨true, ["N2: not excused"]⟩, ⟨true, ["long"]⟩⟩
    (record.noteAll (mixedCalls.map Call.violation)).marks = marks ∧
      (record.noteAll (apart.map Call.violation)).marks = marks := by
  intro record apart marks
  obtain ⟨hallowed, -, hothers⟩ := (Acts.noteAll record .empty mixedCalls).outcome
  have hmarks : (record.noteAll (mixedCalls.map Call.violation)).marks = marks := hallowed.trans (by decide)
  have happart (s : Severity) : s.callsAmong apart = s.callsAmong mixedCalls := by
    cases s <;> rfl
  exact ⟨hmarks, ((hothers (Acts.noteAll record .empty apart)).2 happart).trans hmarks⟩

end RepoConventions.Rules
