import RepoConventions.Proofs.Rules.SavedReport

/-!
# A save after one that failed

A save closes the report before it is written out and flagged, and a flag that cannot be written is not kept for later.
So after a save that failed the next one has nothing to tell, unless warnings were added to a new report in between.
-/

namespace RepoConventions.Rules

open Files (FileError FileTree)

/-- A call on a report in the tree as it stands by then: between two calls anything may happen to the files. -/
structure MadeCall where
  tree : FileTree
  call : ReportCall

/-- A call that creates the report file for its warnings. -/
def MadeCall.opens (c : Config) (made : MadeCall) : Bool :=
  match made.call with
  | .add _ warnings => c.writesReports && !warnings.isEmpty && (made.tree.create c.warningsReportPath).isOk
  | .save => false

/-- The report is open, so that its warnings are still to be saved, if it was so before a call or not. -/
def pendingAfter (c : Config) (pending : Bool) (made : MadeCall) : Bool :=
  match made.call with
  | .add .. => pending || made.opens c
  | .save => false

def isPending (c : Config) (calls : List MadeCall) : Bool := calls.foldl (pendingAfter c) false

theorem pendingAfter_add {c : Config} {made : MadeCall} (h : made.call ≠ .save) (pending : Bool) :
    pendingAfter c pending made = (pending || made.opens c) := by
  cases hcall : made.call with
  | add rule warnings => simp [pendingAfter, hcall]
  | save => exact absurd hcall h

/-- Until the next save, warnings are pending once a call has opened the report. -/
theorem foldl_pendingAfter (c : Config) (calls : List MadeCall) (h : ∀ made ∈ calls, made.call ≠ .save)
    (pending : Bool) :
    calls.foldl (pendingAfter c) pending = (pending || calls.any (MadeCall.opens c)) := by
  induction calls generalizing pending with
  | nil => simp
  | cons made rest ih =>
    have hrest : ∀ made ∈ rest, made.call ≠ .save := fun made hmem => h made (List.mem_cons_of_mem _ hmem)
    rw [List.foldl_cons, ih hrest, pendingAfter_add (h made List.mem_cons_self), List.any_cons, Bool.or_assoc]

theorem isPending_append_save (c : Config) (history later : List MadeCall) (t : FileTree)
    (h : ∀ made ∈ later, made.call ≠ .save) :
    isPending c (history ++ ⟨t, .save⟩ :: later) = later.any (MadeCall.opens c) := by
  rw [isPending, List.foldl_append, List.foldl_cons, foldl_pendingAfter c later h]
  rfl

namespace WarningReport

def after (r : WarningReport) (made : MadeCall) : WarningReport :=
  match made.call with
  | .add rule warnings => (r.add made.tree rule warnings).2.1
  | .save => (r.save made.tree).2.1

def afterAll (c : Config) (calls : List MadeCall) : WarningReport := calls.foldl after (.new c)

/-- A report of a configuration, open if warnings are pending. -/
structure Stands (c : Config) (pending : Bool) (r : WarningReport) : Prop where
  report : r = { new c with writer := r.writer }
  isOpen : r.writer.isSome = pending

namespace Stands

variable {c : Config} {pending : Bool} {r : WarningReport}

theorem new (c : Config) : Stands c false (.new c) := ⟨rfl, rfl⟩

theorem withWriter (h : Stands c pending r) (writer : Option ReportWriter) :
    Stands c writer.isSome { r with writer } := ⟨by rw [h.report], rfl⟩

theorem githubOutput (h : Stands c pending r) : r.githubOutput = c.githubOutput := by
  rw [h.report]
  rfl

theorem path (h : Stands c pending r) : r.path = c.warningsReportPath := by
  rw [h.report]
  rfl

theorem save (h : Stands c pending r) (t : FileTree) : Stands c false (r.save t).2.1 := by
  cases hwriter : r.writer with
  | none =>
    rw [save_of_closed hwriter]
    exact ⟨h.report, by rw [hwriter]; rfl⟩
  | some w =>
    obtain ⟨result, u, hsave, -⟩ := save_of_open hwriter t
    rw [hsave]
    exact h.withWriter none

theorem add (h : Stands c pending r) (t : FileTree) (rule : String) (warnings : List String) :
    Stands c (pending || MadeCall.opens c ⟨t, .add rule warnings⟩) (r.add t rule warnings).2.1 := by
  have henabled : r.enabled = c.writesReports := by rw [h.report]; rfl
  have hpath : r.path = c.warningsReportPath := by rw [h.report]; rfl
  cases hidle : !r.enabled || warnings.isEmpty with
  | true =>
    have hopens : MadeCall.opens c ⟨t, .add rule warnings⟩ = false := by
      rw [henabled] at hidle
      cases hc : c.writesReports <;> simp_all [MadeCall.opens]
    have hadd : (r.add t rule warnings).2.1 = r := by simp only [WarningReport.add, hidle, if_true]
    rwa [hadd, hopens, Bool.or_false]
  | false =>
    obtain ⟨hc, hwarnings⟩ : c.writesReports = true ∧ warnings.isEmpty = false := by
      simpa [henabled] using hidle
    have hopens : MadeCall.opens c ⟨t, .add rule warnings⟩ = (t.create r.path).isOk := by
      simp [MadeCall.opens, hc, hwarnings, hpath]
    have hisOpen := h.isOpen
    rw [hopens]
    unfold WarningReport.add opened
    simp only [hidle, Bool.false_eq_true, if_false]
    cases hwriter : r.writer with
    | some w =>
      obtain rfl : true = pending := by simpa [hwriter] using hisOpen
      dsimp only
      cases w.write t (warningBlock rule warnings).toUTF8 with
      | error e => exact h.withWriter (some w)
      | ok written => exact h.withWriter (some written.1)
    | none =>
      obtain rfl : false = pending := by simpa [hwriter] using hisOpen
      cases t.create r.path with
      | error e => exact ⟨h.report, by rw [hwriter]; rfl⟩
      | ok created =>
        obtain ⟨handle, u⟩ := created
        dsimp only
        cases ReportWriter.write ⟨handle, .empty⟩ u (warningBlock rule warnings).toUTF8 with
        | error e => exact h.withWriter (some ⟨handle, .empty⟩)
        | ok written => exact h.withWriter (some written.1)

theorem after (h : Stands c pending r) (made : MadeCall) : Stands c (pendingAfter c pending made) (r.after made) := by
  obtain ⟨t, call⟩ := made
  cases call with
  | add rule warnings => exact h.add t rule warnings
  | save => exact h.save t

theorem foldl (h : Stands c pending r) (calls : List MadeCall) :
    Stands c (calls.foldl (pendingAfter c) pending) (calls.foldl WarningReport.after r) := by
  induction calls generalizing pending r with
  | nil => exact h
  | cons made rest ih => exact ih (h.after made)

end Stands

theorem stands_afterAll (c : Config) (calls : List MadeCall) : Stands c (isPending c calls) (afterAll c calls) :=
  (Stands.new c).foldl calls

end WarningReport

/-- An open report cannot be written out. -/
def WarningReport.FlushFails (r : WarningReport) (t : FileTree) (cause : FileError) : Prop :=
  ∃ w, r.writer = some w ∧ w.flush t = .error cause

/-- A save with the flag in the step output, or without it where the report cannot be written out or the step output
cannot be written. -/
def FlagsIfWritable (r : WarningReport) (output : String) (t : FileTree) (result : Except RuleError Bool)
    (u : FileTree) : Prop :=
  (result = .ok true ∧ u.readText output = .ok warningsFlag) ∨
    (∃ cause, result = .error (.io r.path cause) ∧ r.FlushFails t cause) ∨
    ∃ cause, result = .error (.io output cause) ∧ u.writeText output warningsFlag = .error cause

theorem Saves.flagsIfWritable {r : WarningReport} {w : ReportWriter} (hw : r.writer = some w) {t u : FileTree}
    {result : Except RuleError Bool} (h : Saves r w t result u) {output : String}
    (houtput : r.githubOutput = some output) : FlagsIfWritable r output t result u := by
  cases h with
  | unflushed hflush => exact .inr (.inl ⟨_, rfl, w, hw, hflush⟩)
  | unflagged _ hnone => simp [houtput] at hnone
  | flagged _ hsome hwritten =>
    cases houtput.symm.trans hsome
    exact .inl ⟨rfl, FileTree.readText_writeText hwritten⟩
  | refused _ hsome hrefused =>
    cases houtput.symm.trans hsome
    exact .inr (.inr ⟨_, rfl, FileTree.write_after_replace_error hrefused⟩)

namespace WarningReport

/-- A save fails only of an open report, because it cannot be written out or because the step output cannot be
written. -/
theorem save_eq_error {r : WarningReport} {t : FileTree} {e : RuleError} (h : (r.save t).1 = .error e) :
    r.writer.isSome = true ∧
      ((∃ cause, e = .io r.path cause ∧ r.FlushFails t cause) ∨
        ∃ output cause, r.githubOutput = some output ∧ e = .io output cause ∧
          (r.save t).2.2.writeText output warningsFlag = .error cause) := by
  cases hwriter : r.writer with
  | none => simp [save_of_closed hwriter] at h
  | some w =>
    obtain ⟨result, u, hsave, hsaves⟩ := save_of_open hwriter t
    rw [hsave] at h ⊢
    obtain rfl : result = .error e := h
    refine ⟨rfl, ?_⟩
    cases hsaves with
    | unflushed hflush => exact .inl ⟨_, rfl, w, hwriter, hflush⟩
    | refused _ houtput hrefused =>
      exact .inr ⟨_, _, houtput, rfl, FileTree.write_after_replace_error hrefused⟩

/-- However the calls and the files went, a save can fail only while a report is open, because the report cannot be
written out or because the step output cannot be written. Either way its warnings are given up: a save after it finds
nothing to tell and touches no file, though all can be written by then, unless a call in between has created a new
report for more warnings. Only for these the next save writes the flag. -/
theorem save_after_failure (c : Config) (history later : List MadeCall) (t : FileTree) (e : RuleError)
    (hfails : ((afterAll c history).save t).1 = .error e) (hlater : ∀ made ∈ later, made.call ≠ .save) :
    isPending c history = true ∧
      ((∃ cause, e = .io c.warningsReportPath cause ∧ (afterAll c history).FlushFails t cause) ∨
        ∃ output cause, c.githubOutput = some output ∧ e = .io output cause ∧
          ((afterAll c history).save t).2.2.writeText output warningsFlag = .error cause) ∧
      ∀ v, ∃ result after u, (afterAll c (history ++ ⟨t, .save⟩ :: later)).save v = (result, after, u) ∧
        (later.any (MadeCall.opens c) = false →
          result = .ok false ∧ after = afterAll c (history ++ ⟨t, .save⟩ :: later) ∧ u = v) ∧
        (later.any (MadeCall.opens c) = true → ∀ output, c.githubOutput = some output →
          FlagsIfWritable (afterAll c (history ++ ⟨t, .save⟩ :: later)) output v result u) := by
  have hbefore : Stands c (isPending c history) (afterAll c history) := stands_afterAll c history
  have hthen : Stands c (later.any (MadeCall.opens c)) (afterAll c (history ++ ⟨t, .save⟩ :: later)) := by
    rw [← isPending_append_save c history later t hlater]
    exact stands_afterAll c _
  obtain ⟨hopen, hcause⟩ := save_eq_error hfails
  rw [hbefore.githubOutput, hbefore.path] at hcause
  refine ⟨hbefore.isOpen ▸ hopen, hcause, fun v => ?_⟩
  cases hwriter : (afterAll c (history ++ ⟨t, .save⟩ :: later)).writer with
  | none =>
    have hnone : later.any (MadeCall.opens c) = false := by simpa [hwriter] using hthen.isOpen.symm
    exact ⟨_, _, _, save_of_closed hwriter v, fun _ => ⟨rfl, rfl, rfl⟩, fun hsome => by simp [hnone] at hsome⟩
  | some w =>
    have hsome : later.any (MadeCall.opens c) = true := by simpa [hwriter] using hthen.isOpen.symm
    obtain ⟨result, u, hsave, hsaves⟩ := save_of_open hwriter v
    refine ⟨result, _, u, hsave, fun hnone => by simp [hsome] at hnone, fun _ output houtput => ?_⟩
    exact hsaves.flagsIfWritable hwriter (hthen.githubOutput.trans houtput)

private def lateConfig : Config := (Config.ofRoot "/").withCi (some "summary.md") (some "/out/flags.txt")

/-- Warnings that wait to be saved, in a tree without a directory for the step output. -/
private def waiting : FileTree := ((new lateConfig).add .empty "A" ["w"]).2.2

private def history : List MadeCall := [⟨.empty, .add "A" ["w"]⟩]

private def repaired : FileTree := ((afterAll lateConfig history).save waiting).2.2.makeDirectories "/out"

private theorem save_waiting :
    ((afterAll lateConfig history).save waiting).1 = .error (.io "/out/flags.txt" .notFound) := by
  rfl

/-- Another warning comes after the failure: the second save flags it. -/
theorem save_after_failure_late : ∃ after u,
    (afterAll lateConfig [⟨.empty, .add "A" ["w"]⟩, ⟨waiting, .save⟩, ⟨repaired, .add "B" ["v"]⟩]).save repaired =
      (.ok true, after, u) ∧ u.readText "/out/flags.txt" = .ok "has-warnings=true" := by
  obtain ⟨-, -, hsaves⟩ :=
    save_after_failure lateConfig history [⟨repaired, .add "B" ["v"]⟩] waiting _ save_waiting (by simp)
  obtain ⟨result, after, u, hsave, -, hflags⟩ := hsaves repaired
  have hresult : result = .ok true := (congrArg Prod.fst hsave).symm.trans rfl
  obtain ⟨-, hread⟩ | ⟨cause, herror, -⟩ | ⟨cause, herror, -⟩ := hflags rfl "/out/flags.txt" rfl
  · exact ⟨after, u, hresult ▸ hsave, hread⟩
  · rw [hresult] at herror
    cases herror
  · rw [hresult] at herror
    cases herror

/-- The flag of a warning is lost: a save fails, the step output becomes writable, and the next save neither tells of
the warning nor writes the flag. -/
theorem loses_flag : isPending lateConfig history = true ∧ ∃ cause,
    ((afterAll lateConfig history).save waiting).1 = .error (.io "/out/flags.txt" cause) ∧
      (∃ u, repaired.writeText "/out/flags.txt" warningsFlag = .ok u) ∧
      ((afterAll lateConfig (history ++ [⟨waiting, .save⟩])).save repaired).1 = .ok false ∧
      ((afterAll lateConfig (history ++ [⟨waiting, .save⟩])).save repaired).2.2.readText "/out/flags.txt" =
        .error .notFound :=
  ⟨rfl, .notFound, save_waiting, ⟨_, rfl⟩, rfl, rfl⟩

end WarningReport

end RepoConventions.Rules
