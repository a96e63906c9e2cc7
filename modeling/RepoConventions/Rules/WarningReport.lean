import RepoConventions.Config
import RepoConventions.Files.Access
import RepoConventions.RuleError

/-!
# The report of warnings

Warnings never fail a run. Under CI they go to a file at the root, which is created for the first of them. What is
added waits in a buffer until the buffer is full or the report is saved.
-/

namespace RepoConventions.Rules

open Files (FileError FileTree Handle)

/-- The report file while it is open, and the octets that are still to be written. -/
structure ReportWriter where
  handle : Handle
  buffer : ByteArray

def bufferSize : Nat := 8192

namespace ReportWriter

def flush (w : ReportWriter) (t : FileTree) : Except FileError (ReportWriter × FileTree) :=
  if w.buffer.isEmpty then .ok (w, t)
  else do
    let (handle, t) ← t.append w.handle w.buffer
    return (⟨handle, .empty⟩, t)

/-- Writes out the buffer if more octets do not fit into it. -/
def room (w : ReportWriter) (t : FileTree) (new : ByteArray) : Except FileError (ReportWriter × FileTree) :=
  if w.buffer.size + new.size > bufferSize then w.flush t else .ok (w, t)

/-- Adds octets to the buffer. What does not fit empties the buffer first, and what no buffer holds is written at
once. -/
def write (w : ReportWriter) (t : FileTree) (new : ByteArray) : Except FileError (ReportWriter × FileTree) := do
  let (w, t) ← w.room t new
  if new.size ≥ bufferSize then
    let (handle, t) ← t.append w.handle new
    return (⟨handle, w.buffer⟩, t)
  else return (⟨w.handle, w.buffer ++ new⟩, t)

end ReportWriter

structure WarningReport where
  enabled : Bool
  path : String
  githubOutput : Option String
  writer : Option ReportWriter

/-- The heading and the lines for the warnings of one rule. -/
def warningBlock (rule : String) (warnings : List String) : String :=
  "**🟡 " ++ rule ++ "**\n" ++ .join (warnings.map fun w => "* " ++ w ++ "\n")

/-- What the step output says once warnings are saved. -/
def warningsFlag : String := "has-warnings=true"

namespace WarningReport

def new (c : Config) : WarningReport := ⟨c.writesReports, c.warningsReportPath, c.githubOutput, none⟩

/-- The open report, created if there is none. -/
def opened (r : WarningReport) (t : FileTree) : Except RuleError (ReportWriter × FileTree) :=
  match r.writer with
  | some w => .ok (w, t)
  | none =>
    match t.create r.path with
    | .ok (handle, t) => .ok (⟨handle, .empty⟩, t)
    | .error e => .error (.io r.path e)

/-- Adds the warnings of one rule. Where they cannot be written the report stays open as it was. -/
def add (r : WarningReport) (t : FileTree) (rule : String) (warnings : List String) :
    Except RuleError Unit × WarningReport × FileTree :=
  if !r.enabled || warnings.isEmpty then (.ok (), r, t)
  else match r.opened t with
    | .error e => (.error e, r, t)
    | .ok (w, t) =>
      match w.write t (warningBlock rule warnings).toUTF8 with
      | .ok (w, t) => (.ok (), { r with writer := some w }, t)
      | .error e => (.error (.io r.path e), { r with writer := some w }, t)

/-- Writes out and closes the report and flags it in the step output. Tells whether there was a report, which is closed
also where something cannot be written. -/
def save (r : WarningReport) (t : FileTree) : Except RuleError Bool × WarningReport × FileTree :=
  match r.writer with
  | none => (.ok false, r, t)
  | some w =>
    let r := { r with writer := none }
    match w.flush t with
    | .error e => (.error (.io r.path e), r, t)
    | .ok (_, t) =>
      match r.githubOutput with
      | none => (.ok true, r, t)
      | some output =>
        match t.replace output warningsFlag.toUTF8 with
        | (.ok (), t) => (.ok true, r, t)
        | (.error e, t) => (.error (.io output e), r, t)

end WarningReport

end RepoConventions.Rules
