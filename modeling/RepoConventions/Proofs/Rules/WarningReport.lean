import Mathlib.Data.List.Infix
import RepoConventions.Proofs.Files.Access
import RepoConventions.Rules.Builtin

/-!
# What a report of warnings holds

The text of a report is what its file holds followed by what waits in the buffer. Blocks are added at the end of it
until it is saved, and the first block after that begins a new text. So what can be read after a save is what was added
since the save before the last block, and all blocks only if no save came between two of them.
-/

namespace RepoConventions.Rules

open Files (FileError FileTree Handle)
open Files.FileNode (node?)

/-! Trees that differ in one file -/

/-- Paths keep their places, files elsewhere keep their contents, and as much can be written as before. -/
structure RewrittenAt (place : List String) (t u : FileTree) : Prop where
  places : ∀ path location, u.fileLocation path = .ok location ↔ t.fileLocation path = .ok location
  others : ∀ location content, location ≠ place →
    (node? location u.top = some (.file content) ↔ node? location t.top = some (.file content))
  faults : u.writeFault = t.writeFault

namespace RewrittenAt

variable {place : List String} {t u v : FileTree}

theorem refl (place : List String) (t : FileTree) : RewrittenAt place t t :=
  ⟨fun _ _ => Iff.rfl, fun _ _ _ => Iff.rfl, rfl⟩

theorem trans (htu : RewrittenAt place t u) (huv : RewrittenAt place u v) : RewrittenAt place t v where
  places path location := (huv.places path location).trans (htu.places path location)
  others location content hne := (huv.others location content hne).trans (htu.others location content hne)
  faults := huv.faults.trans htu.faults

theorem putFile (h : t.Takes place) (content : ByteArray) : RewrittenAt place t (t.putFile place content) where
  places path _ := FileTree.fileLocation_putFile h content path
  others _ old hne := FileTree.file_putFile_of_ne h content old hne
  faults := t.putFile_writeFault place content

end RewrittenAt

/-! Trees that differ at the places of paths -/

/-- Paths keep their places, no file is new or changed but at these paths, and as much can be written as before. -/
structure RewrittenIn (paths : List String) (t u : FileTree) : Prop where
  places : ∀ path location, u.fileLocation path = .ok location ↔ t.fileLocation path = .ok location
  others : ∀ location content, (∀ path ∈ paths, t.fileLocation path ≠ .ok location) →
    (node? location u.top = some (.file content) ↔ node? location t.top = some (.file content))
  faults : u.writeFault = t.writeFault

namespace RewrittenIn

variable {paths : List String} {t u v : FileTree}

theorem trans (htu : RewrittenIn paths t u) (huv : RewrittenIn paths u v) : RewrittenIn paths t v where
  places path location := (huv.places path location).trans (htu.places path location)
  others location content hnone := by
    have hnone' : ∀ path ∈ paths, u.fileLocation path ≠ .ok location := by
      intro path hpath hu
      exact hnone path hpath ((htu.places path location).mp hu)
    exact (huv.others location content hnone').trans (htu.others location content hnone)
  faults := huv.faults.trans htu.faults

end RewrittenIn

theorem RewrittenAt.rewrittenIn {place : List String} {t u : FileTree} (h : RewrittenAt place t u)
    {paths : List String} {path : String} (hmem : path ∈ paths) (hplace : t.fileLocation path = .ok place) :
    RewrittenIn paths t u where
  places := h.places
  others location content hnone := by
    apply h.others
    intro heq
    exact hnone path hmem (heq ▸ hplace)
  faults := h.faults

/-! Writers -/

namespace ReportWriter

/-- The file at a place and the buffer make a text, and what is written next goes to the end of the file. -/
def Holds (w : ReportWriter) (t : FileTree) (place : List String) (text : ByteArray) : Prop :=
  ∃ content, node? place t.top = some (.file content) ∧ w.handle = ⟨place, content.size⟩ ∧ content ++ w.buffer = text

variable {w : ReportWriter} {t : FileTree} {place : List String} {text : ByteArray}

theorem Holds.append (h : w.Holds t place text) (hempty : w.buffer = .empty) {new : ByteArray} {handle : Handle}
    {u : FileTree} (hwritten : t.append w.handle new = .ok (handle, u)) :
    Holds ⟨handle, .empty⟩ u place (text ++ new) ∧ RewrittenAt place t u := by
  obtain ⟨before, buffer⟩ := w
  obtain ⟨content, hfile, rfl, htext⟩ := h
  obtain rfl : buffer = .empty := hempty
  obtain rfl : content = text := by rw [← htext, ByteArray.append_empty]
  have htakes : t.Takes place := .of_file hfile
  cases hfault : t.writeFault place with
  | some e =>
    rw [FileTree.append_of_fault hfault] at hwritten
    cases hwritten
  | none =>
    rw [FileTree.append_of_file hfault hfile, Files.overwrite_size] at hwritten
    cases hwritten
    refine ⟨⟨content ++ new, FileTree.node?_putFile_self htakes _, ?_, ByteArray.append_empty⟩, .putFile htakes _⟩
    rw [ByteArray.size_append]

theorem Holds.exists_append (h : w.Holds t place text) (hfault : t.writeFault place = none) (new : ByteArray) :
    ∃ handle u, t.append w.handle new = .ok (handle, u) := by
  obtain ⟨content, hfile, hhandle, -⟩ := h
  rw [hhandle]
  exact ⟨_, _, FileTree.append_of_file hfault hfile new⟩

theorem Holds.flush (h : w.Holds t place text) {w' : ReportWriter} {u : FileTree} (hflushed : w.flush t = .ok (w', u)) :
    w'.Holds u place text ∧ w'.buffer = .empty ∧ RewrittenAt place t u := by
  unfold ReportWriter.flush at hflushed
  split at hflushed
  · next hempty =>
    cases hflushed
    have hbuffer : w.buffer = .empty := by
      rw [← ByteArray.size_eq_zero_iff]
      simpa [ByteArray.isEmpty] using hempty
    exact ⟨h, hbuffer, .refl place t⟩
  · obtain ⟨content, hfile, hhandle, htext⟩ := h
    have hheld : Holds ⟨w.handle, .empty⟩ t place content := ⟨content, hfile, hhandle, ByteArray.append_empty⟩
    cases happend : t.append w.handle w.buffer with
    | error e =>
      rw [happend] at hflushed
      cases hflushed
    | ok written =>
      obtain ⟨handle, v⟩ := written
      rw [happend] at hflushed
      cases hflushed
      obtain ⟨hnew, hrewritten⟩ := hheld.append rfl happend
      rw [htext] at hnew
      exact ⟨hnew, rfl, hrewritten⟩

theorem Holds.exists_flush (h : w.Holds t place text) (hfault : t.writeFault place = none) :
    ∃ w' u, w.flush t = .ok (w', u) := by
  unfold ReportWriter.flush
  split
  · exact ⟨w, t, rfl⟩
  · obtain ⟨handle, u, happend⟩ := h.exists_append hfault w.buffer
    rw [happend]
    exact ⟨_, _, rfl⟩

theorem Holds.room (h : w.Holds t place text) {new : ByteArray} {w' : ReportWriter} {u : FileTree}
    (hroom : w.room t new = .ok (w', u)) :
    w'.Holds u place text ∧ RewrittenAt place t u ∧ (new.size ≥ bufferSize → w'.buffer = .empty) := by
  unfold ReportWriter.room at hroom
  split at hroom
  · obtain ⟨hheld, hempty, hrewritten⟩ := h.flush hroom
    exact ⟨hheld, hrewritten, fun _ => hempty⟩
  · next hfits =>
    cases hroom
    refine ⟨h, .refl place t, fun hlarge => ?_⟩
    rw [← ByteArray.size_eq_zero_iff]
    omega

theorem write_of_room_error {new : ByteArray} {e : FileError} (h : w.room t new = .error e) :
    w.write t new = .error e := by
  rw [ReportWriter.write, h]
  rfl

theorem write_of_room {new : ByteArray} {w' : ReportWriter} {u : FileTree} (h : w.room t new = .ok (w', u)) :
    w.write t new =
      if new.size ≥ bufferSize then (u.append w'.handle new).map fun p => (⟨p.1, w'.buffer⟩, p.2)
      else .ok (⟨w'.handle, w'.buffer ++ new⟩, u) := by
  rw [ReportWriter.write, h]
  simp only [bind, Except.bind]
  split
  · cases u.append w'.handle new <;> rfl
  · rfl

theorem Holds.write (h : w.Holds t place text) {new : ByteArray} {w' : ReportWriter} {u : FileTree}
    (hwritten : w.write t new = .ok (w', u)) : w'.Holds u place (text ++ new) ∧ RewrittenAt place t u := by
  cases hroom : w.room t new with
  | error e =>
    rw [write_of_room_error hroom] at hwritten
    cases hwritten
  | ok made =>
    obtain ⟨roomy, v⟩ := made
    obtain ⟨hheld, hrewritten, hempty⟩ := h.room hroom
    rw [write_of_room hroom] at hwritten
    split at hwritten
    · next hlarge =>
      cases happend : v.append roomy.handle new with
      | error e =>
        rw [happend] at hwritten
        cases hwritten
      | ok appended =>
        obtain ⟨handle, v'⟩ := appended
        rw [happend] at hwritten
        cases hwritten
        obtain ⟨hnew, hrewritten'⟩ := hheld.append (hempty hlarge) happend
        rw [hempty hlarge]
        exact ⟨hnew, hrewritten.trans hrewritten'⟩
    · cases hwritten
      obtain ⟨content, hfile, hhandle, htext⟩ := hheld
      refine ⟨⟨content, hfile, hhandle, ?_⟩, hrewritten⟩
      rw [← ByteArray.append_assoc, htext]

theorem Holds.exists_write (h : w.Holds t place text) (hfault : t.writeFault place = none) (new : ByteArray) :
    ∃ w' u, w.write t new = .ok (w', u) := by
  obtain ⟨roomy, v, hroom⟩ : ∃ w' u, w.room t new = .ok (w', u) := by
    unfold ReportWriter.room
    split
    · exact h.exists_flush hfault
    · exact ⟨w, t, rfl⟩
  obtain ⟨hheld, hrewritten, -⟩ := h.room hroom
  rw [write_of_room hroom]
  split
  · obtain ⟨handle, u, happend⟩ := hheld.exists_append (hrewritten.faults ▸ hfault) new
    rw [happend]
    exact ⟨_, _, rfl⟩
  · exact ⟨_, _, rfl⟩

end ReportWriter

/-! What a save does -/

/-- The result of a save of an open report, and the tree after it. -/
inductive Saves (r : WarningReport) (w : ReportWriter) (t : FileTree) : Except RuleError Bool → FileTree → Prop
  | unflushed {cause : FileError} (hflush : w.flush t = .error cause) : Saves r w t (.error (.io r.path cause)) t
  | unflagged {w' : ReportWriter} {flushed : FileTree} (hflush : w.flush t = .ok (w', flushed))
    (houtput : r.githubOutput = none) : Saves r w t (.ok true) flushed
  | flagged {w' : ReportWriter} {flushed u : FileTree} {output : String} (hflush : w.flush t = .ok (w', flushed))
    (houtput : r.githubOutput = some output) (hwritten : flushed.writeText output warningsFlag = .ok u) :
    Saves r w t (.ok true) u
  | refused {w' : ReportWriter} {flushed u : FileTree} {output : String} {cause : FileError}
    (hflush : w.flush t = .ok (w', flushed)) (houtput : r.githubOutput = some output)
    (hrefused : flushed.replace output warningsFlag.toUTF8 = (.error cause, u)) :
    Saves r w t (.error (.io output cause)) u

namespace WarningReport

variable {r : WarningReport}

theorem save_of_closed (h : r.writer = none) (t : FileTree) : r.save t = (.ok false, r, t) := by
  simp [save, h]

theorem save_of_open {w : ReportWriter} (h : r.writer = some w) (t : FileTree) :
    ∃ result u, r.save t = (result, { r with writer := none }, u) ∧ Saves r w t result u := by
  cases hflush : w.flush t with
  | error cause => exact ⟨_, t, by simp [save, h, hflush], .unflushed hflush⟩
  | ok flushed =>
    obtain ⟨w', flushed⟩ := flushed
    cases houtput : r.githubOutput with
    | none => exact ⟨.ok true, flushed, by simp [save, h, hflush, houtput], .unflagged hflush houtput⟩
    | some output =>
      rcases hreplace : flushed.replace output warningsFlag.toUTF8 with ⟨written, u⟩
      cases written with
      | ok _ =>
        refine ⟨.ok true, u, ?_, .flagged hflush houtput (FileTree.write_of_replace hreplace)⟩
        simp only [save, h, hflush, houtput, hreplace]
      | error cause =>
        refine ⟨.error (.io output cause), u, ?_, .refused hflush houtput hreplace⟩
        simp only [save, h, hflush, houtput, hreplace]

end WarningReport

/-! Calls -/

inductive ReportCall
  | add (rule : String) (warnings : List String)
  | save
  deriving DecidableEq, Repr

namespace ReportCall

def block? : ReportCall → Option String
  | add rule warnings => if warnings.isEmpty then none else some (warningBlock rule warnings)
  | save => none

def perform (s : Session) : ReportCall → Except RuleError Session
  | add rule warnings =>
    match s.warnings.add s.tree rule warnings with
    | (.ok (), w, t) => .ok ⟨w, t⟩
    | (.error e, _, _) => .error e
  | save =>
    match s.warnings.save s.tree with
    | (.ok _, w, t) => .ok ⟨w, t⟩
    | (.error e, _, _) => .error e

def performAll (s : Session) (calls : List ReportCall) : Except RuleError Session := calls.foldlM perform s

theorem perform_add_idle {s : Session} {rule : String} {warnings : List String}
    (h : s.warnings.enabled = false ∨ warnings.isEmpty = true) : perform s (.add rule warnings) = .ok s := by
  have hidle : (!s.warnings.enabled || warnings.isEmpty) = true := by simpa using h
  simp only [perform, WarningReport.add, hidle, if_true]

theorem perform_add_eq_ok {s s' : Session} {rule : String} {warnings : List String}
    (he : s.warnings.enabled = true) (hw : warnings.isEmpty = false) (h : perform s (.add rule warnings) = .ok s') :
    ∃ w u w' u', s.warnings.opened s.tree = .ok (w, u) ∧
      w.write u (warningBlock rule warnings).toUTF8 = .ok (w', u') ∧
      s' = ⟨{ s.warnings with writer := some w' }, u'⟩ := by
  have hreported : (!s.warnings.enabled || warnings.isEmpty) = false := by simp [he, hw]
  simp only [perform, WarningReport.add, hreported, Bool.false_eq_true, if_false] at h
  cases ho : s.warnings.opened s.tree with
  | error e => simp [ho] at h
  | ok opened =>
    obtain ⟨w, u⟩ := opened
    cases hwrite : w.write u (warningBlock rule warnings).toUTF8 with
    | error e =>
      simp only [ho, hwrite] at h
      cases h
    | ok written =>
      simp only [ho, hwrite] at h
      exact ⟨w, u, written.1, written.2, rfl, hwrite, (Except.ok.inj h).symm⟩

/-- The blocks that calls add between one save and the next; there is a last session after the last save. -/
def sessions : List ReportCall → List (List String)
  | [] => [[]]
  | save :: rest => [] :: sessions rest
  | add rule warnings :: rest => (sessions rest).modifyHead ((add rule warnings).block?.toList ++ ·)

def filledSessions (calls : List ReportCall) : List (List String) := (sessions calls).filter (· ≠ [])

theorem sessions_ne_nil (calls : List ReportCall) : sessions calls ≠ [] := by
  induction calls with
  | nil => simp [sessions]
  | cons c rest ih =>
    cases c with
    | add rule warnings => simpa [sessions] using ih
    | save => simp [sessions]

theorem flatten_sessions (calls : List ReportCall) : (sessions calls).flatten = calls.filterMap block? := by
  induction calls with
  | nil => rfl
  | cons c rest ih =>
    cases c with
    | save => rw [sessions, List.flatten_cons, ih, List.filterMap_cons_none rfl, List.nil_append]
    | add rule warnings =>
      cases hs : sessions rest with
      | nil => exact absurd hs (sessions_ne_nil rest)
      | cons first others =>
        rw [hs] at ih
        cases hb : (add rule warnings).block? <;> simp [sessions, hs, hb, ← ih]

end ReportCall

/-- What a reporter has added to the report file since it was last created, and whether it is still open. -/
structure Page where
  blocks : List String
  isOpen : Bool

namespace Page

def clear : Page := ⟨[], false⟩

def after (p : Page) (c : ReportCall) : Page :=
  match c, c.block? with
  | .save, _ => { p with isOpen := false }
  | .add .., some block => ⟨if p.isOpen then p.blocks ++ [block] else [block], true⟩
  | .add .., none => p

theorem after_add_idle (p : Page) (rule : String) {warnings : List String} (h : warnings.isEmpty = true) :
    p.after (.add rule warnings) = p := by
  simp [after, ReportCall.block?, h]

theorem after_add (p : Page) (rule : String) {warnings : List String} (h : warnings.isEmpty = false) :
    p.after (.add rule warnings) =
      ⟨if p.isOpen then p.blocks ++ [warningBlock rule warnings] else [warningBlock rule warnings], true⟩ := by
  simp [after, ReportCall.block?, h]

/-- The sessions from a page on: the first of them goes on with it if it is open. -/
def extend (p : Page) (sessions : List (List String)) : List (List String) :=
  if p.isOpen then sessions.modifyHead (p.blocks ++ ·) else p.blocks :: sessions

theorem blocks_foldl_after (p : Page) (calls : List ReportCall) :
    (calls.foldl after p).blocks = ((p.extend (ReportCall.sessions calls)).filter (· ≠ [])).getLast?.getD [] := by
  induction calls generalizing p with
  | nil =>
    obtain ⟨blocks, isOpen⟩ := p
    cases isOpen <;> cases blocks <;> simp [extend, ReportCall.sessions]
  | cons c rest ih =>
    rw [List.foldl_cons, ih]
    obtain ⟨blocks, isOpen⟩ := p
    cases c with
    | save => cases isOpen <;> simp [after, extend, ReportCall.sessions]
    | add rule warnings =>
      cases hs : ReportCall.sessions rest with
      | nil => exact absurd hs (ReportCall.sessions_ne_nil rest)
      | cons first others =>
        cases hb : (ReportCall.add rule warnings).block? with
        | none => simp [after, hb, extend, ReportCall.sessions, hs]
        | some block =>
          cases isOpen with
          | true => simp [after, hb, extend, ReportCall.sessions, hs]
          | false => cases blocks <;> simp [after, hb, extend, ReportCall.sessions, hs]

end Page

/-! Reports -/

/-- A session after calls on a report: the page is what its file and its buffer hold. -/
structure Reports (r : WarningReport) (t : FileTree) (p : Page) (s : Session) : Prop where
  report : s.warnings = { r with writer := s.warnings.writer }
  places : ∀ path location, s.tree.fileLocation path = .ok location ↔ t.fileLocation path = .ok location
  faults : s.tree.writeFault = t.writeFault
  untouched : p.blocks = [] → s.tree = t
  isOpen : p.isOpen = s.warnings.writer.isSome
  held : ∀ w, s.warnings.writer = some w → p.blocks ≠ [] ∧
    ∃ place, t.fileLocation r.path = .ok place ∧ w.Holds s.tree place (String.join p.blocks).toUTF8
  saved : s.warnings.writer = none → p.blocks ≠ [] →
    ∃ place, t.fileLocation r.path = .ok place ∧
      node? place s.tree.top = some (.file (String.join p.blocks).toUTF8)

/-- Nothing but the report itself is written to its file. -/
def WarningReport.IsApart (r : WarningReport) (t : FileTree) : Prop :=
  ∀ output place, r.githubOutput = some output → t.fileLocation r.path = .ok place →
    t.fileLocation output ≠ .ok place

namespace Reports

variable {r : WarningReport} {t : FileTree} {p : Page} {s s' : Session}

theorem new (r : WarningReport) (t : FileTree) (hw : r.writer = none) : Reports r t .clear ⟨r, t⟩ where
  report := rfl
  places _ _ := Iff.rfl
  faults := rfl
  untouched _ := rfl
  isOpen := by simp [hw, Page.clear]
  held w h := by simp [hw] at h
  saved _ h := absurd rfl h

theorem opened (h : Reports r t p s) {w : ReportWriter} {u : FileTree}
    (ho : s.warnings.opened s.tree = .ok (w, u)) :
    ∃ place, t.fileLocation r.path = .ok place ∧ RewrittenAt place s.tree u ∧
      w.Holds u place (if p.isOpen then (String.join p.blocks).toUTF8 else .empty) := by
  unfold WarningReport.opened at ho
  cases hw : s.warnings.writer with
  | some w' =>
    obtain ⟨-, place, hplace, hheld⟩ := h.held w' hw
    rw [hw] at ho
    cases ho
    refine ⟨place, hplace, .refl place _, ?_⟩
    rwa [if_pos (by rw [h.isOpen, hw]; rfl)]
  | none =>
    have hpath : s.warnings.path = r.path := by rw [h.report]
    rw [hw] at ho
    cases hcreate : s.tree.create s.warnings.path with
    | error e => simp [hcreate] at ho
    | ok created =>
      obtain ⟨handle, u⟩ := created
      obtain ⟨place, hlocation, rfl, rfl⟩ := FileTree.create_eq_ok_iff.mp hcreate
      obtain ⟨rfl, rfl⟩ : ⟨⟨place, 0⟩, .empty⟩ = w ∧ s.tree.putFile place .empty = _ := by simpa [hcreate] using ho
      have htakes : s.tree.Takes place := .of_fileLocation hlocation
      refine ⟨place, (h.places _ _).mp (hpath ▸ hlocation), .putFile htakes _, ?_⟩
      rw [if_neg (by rw [h.isOpen, hw]; simp)]
      exact ⟨.empty, FileTree.node?_putFile_self htakes _, rfl, ByteArray.append_empty⟩

theorem add (h : Reports r t p s) (he : r.enabled = true) {rule : String} {warnings : List String}
    (hs : (ReportCall.add rule warnings).perform s = .ok s') :
    Reports r t (p.after (.add rule warnings)) s' := by
  have henabled : s.warnings.enabled = true := by rw [h.report, he]
  cases hempty : warnings.isEmpty with
  | true =>
    rw [ReportCall.perform_add_idle (.inr hempty)] at hs
    cases hs
    rwa [p.after_add_idle rule hempty]
  | false =>
    obtain ⟨w, u, w', u', hopened, hwrite, rfl⟩ := ReportCall.perform_add_eq_ok henabled hempty hs
    obtain ⟨place, hplace, hrewritten, hheld⟩ := h.opened hopened
    obtain ⟨hnew, hrewritten'⟩ := hheld.write hwrite
    have hpage := p.after_add rule hempty
    have htext : (if p.isOpen then (String.join p.blocks).toUTF8 else .empty) ++ (warningBlock rule warnings).toUTF8 =
        (String.join (p.after (.add rule warnings)).blocks).toUTF8 := by
      rw [hpage]
      cases p.isOpen <;> simp [String.join_append]
    have hblocks : (p.after (.add rule warnings)).blocks ≠ [] := by
      rw [hpage]
      cases p.isOpen <;> simp
    rw [htext] at hnew
    exact {
      report := by rw [h.report]
      places := fun path location =>
        ((hrewritten.trans hrewritten').places path location).trans (h.places path location)
      faults := (hrewritten.trans hrewritten').faults.trans h.faults
      untouched := fun hnil => absurd hnil hblocks
      isOpen := by rw [hpage]; rfl
      held := by
        rintro _ ⟨⟩
        exact ⟨hblocks, place, hplace, hnew⟩
      saved := by
        intro hnone
        cases hnone }

theorem flushed (h : Reports r t p s) {w w' : ReportWriter} (hw : s.warnings.writer = some w) {u : FileTree}
    (hflush : w.flush s.tree = .ok (w', u)) :
    ∃ place, t.fileLocation r.path = .ok place ∧
      node? place u.top = some (.file (String.join p.blocks).toUTF8) ∧ RewrittenAt place s.tree u := by
  obtain ⟨-, place, hplace, hheld⟩ := h.held w hw
  obtain ⟨⟨content, hfile, -, htext⟩, hempty, hrewritten⟩ := hheld.flush hflush
  rw [hempty, ByteArray.append_empty] at htext
  exact ⟨place, hplace, htext ▸ hfile, hrewritten⟩

/-- After a save of an open report that does not fail, the page is in the report file, and no other file has changed
but the step output. -/
theorem written (h : Reports r t p s) (hapart : r.IsApart t) {w : ReportWriter} (hw : s.warnings.writer = some w)
    {result : Bool} {u : FileTree} (hsaves : Saves s.warnings w s.tree (.ok result) u) :
    ∃ place, t.fileLocation r.path = .ok place ∧
      node? place u.top = some (.file (String.join p.blocks).toUTF8) ∧
      RewrittenIn (r.path :: r.githubOutput.toList) s.tree u := by
  cases hsaves with
  | unflagged hflush =>
    obtain ⟨place, hplace, hfile, hrewritten⟩ := h.flushed hw hflush
    exact ⟨place, hplace, hfile, hrewritten.rewrittenIn List.mem_cons_self ((h.places _ _).mpr hplace)⟩
  | @flagged w' flushed u output hflush houtput hwritten =>
    obtain ⟨place, hplace, hfile, hrewritten⟩ := h.flushed hw hflush
    have hreport : RewrittenIn (r.path :: r.githubOutput.toList) s.tree flushed :=
      hrewritten.rewrittenIn List.mem_cons_self ((h.places _ _).mpr hplace)
    have hsome : r.githubOutput = some output := by rw [← houtput, h.report]
    have hmem : output ∈ r.path :: r.githubOutput.toList := by simp [hsome]
    obtain ⟨location, hlocation, -, rfl⟩ := FileTree.write_eq_ok_iff.mp hwritten
    have htakes : flushed.Takes location := .of_fileLocation hlocation
    have hflag : RewrittenIn (r.path :: r.githubOutput.toList) flushed
        (flushed.putFile location warningsFlag.toUTF8) :=
      (RewrittenAt.putFile htakes _).rewrittenIn hmem hlocation
    -- the step output is not the report file
    have hne : place ≠ location := by
      intro heq
      apply hapart output place hsome hplace
      rw [heq]
      exact (h.places _ _).mp ((hrewritten.places _ _).mp hlocation)
    refine ⟨place, hplace, ?_, hreport.trans hflag⟩
    rwa [FileTree.file_putFile_of_ne htakes _ _ hne]

theorem save (h : Reports r t p s) (hapart : r.IsApart t) (hs : ReportCall.save.perform s = .ok s') :
    Reports r t (p.after .save) s' := by
  unfold ReportCall.perform at hs
  cases hw : s.warnings.writer with
  | none =>
    obtain rfl : s = s' := by simpa [WarningReport.save_of_closed hw] using hs
    have hpage : p.after .save = p := by
      obtain ⟨blocks, isOpen⟩ := p
      simpa [Page.after, hw] using h.isOpen
    rwa [hpage]
  | some w =>
    obtain ⟨result, u, hsave, hsaves⟩ := WarningReport.save_of_open hw s.tree
    obtain ⟨flagged, rfl⟩ : ∃ flagged, result = .ok flagged := by
      cases result with
      | ok flagged => exact ⟨flagged, rfl⟩
      | error e => simp [hsave] at hs
    obtain rfl : ⟨{ s.warnings with writer := none }, u⟩ = s' := by simpa [hsave] using hs
    obtain ⟨place, hplace, hfile, hrewritten⟩ := h.written hapart hw hsaves
    exact {
      report := by rw [h.report]
      places := fun path location => (hrewritten.places path location).trans (h.places path location)
      faults := hrewritten.faults.trans h.faults
      untouched := fun hnil => absurd hnil (h.held w hw).1
      isOpen := rfl
      held := by
        intro w hnone
        cases hnone
      saved := fun _ _ => ⟨place, hplace, hfile⟩ }

/-- Every call keeps the page and the report together. -/
theorem perform (h : Reports r t p s) (he : r.enabled = true) (hapart : r.IsApart t) {c : ReportCall}
    (hs : c.perform s = .ok s') : Reports r t (p.after c) s' := by
  cases c with
  | add rule warnings => exact h.add he hs
  | save => exact h.save hapart hs

theorem performAll (h : Reports r t p s) (he : r.enabled = true) (hapart : r.IsApart t) {calls : List ReportCall}
    (hs : ReportCall.performAll s calls = .ok s') : Reports r t (calls.foldl Page.after p) s' := by
  induction calls generalizing s p with
  | nil =>
    cases hs
    exact h
  | cons c rest ih =>
    unfold ReportCall.performAll at hs
    rw [List.foldlM_cons] at hs
    cases hc : c.perform s with
    | error e => simp [hc, bind, Except.bind] at hs
    | ok s'' =>
      rw [hc] at hs
      exact ih (h.perform he hapart hc) hs

theorem readText (h : Reports r t p s) (hclosed : p.isOpen = false) (hblocks : p.blocks ≠ []) :
    s.tree.readText r.path = .ok (String.join p.blocks) := by
  have hwriter : s.warnings.writer = none := by simpa [hclosed] using h.isOpen.symm
  obtain ⟨place, hplace, hfile⟩ := h.saved hwriter hblocks
  exact FileTree.readText_of_fileLocation ((h.places _ _).mpr hplace) hfile

end Reports

theorem warningBlock_ne_empty (rule : String) (warnings : List String) : warningBlock rule warnings ≠ "" := by
  intro h
  have hlength := congrArg String.length h
  simp [warningBlock] at hlength

namespace ReportCall

/-- The page after a save holds the last session with a block. -/
theorem page_save (calls : List ReportCall) :
    (calls ++ [save]).foldl Page.after .clear = ⟨(filledSessions calls).getLast?.getD [], false⟩ := by
  rw [List.foldl_append]
  change (⟨(calls.foldl Page.after .clear).blocks, false⟩ : Page) = _
  rw [Page.blocks_foldl_after]
  simp [Page.extend, Page.clear, filledSessions]

theorem block_ne_empty {calls : List ReportCall} {block : String} (h : block ∈ calls.filterMap block?) :
    block ≠ "" := by
  obtain ⟨c, -, hc⟩ := List.mem_filterMap.mp h
  cases c with
  | save => cases hc
  | add rule warnings =>
    cases hw : warnings.isEmpty with
    | true => simp [block?, hw] at hc
    | false =>
      obtain rfl : warningBlock rule warnings = block := by simpa [block?, hw] using hc
      exact warningBlock_ne_empty rule warnings

theorem flatten_filledSessions (calls : List ReportCall) :
    (filledSessions calls).flatten = calls.filterMap block? := by
  rw [← flatten_sessions, filledSessions]
  induction sessions calls with
  | nil => rfl
  | cons first rest ih => cases first <;> simpa using ih

/-- Blocks are texts, so that what is left out of them is missing in their text. -/
theorem join_getLast_eq_iff {calls : List ReportCall} {last : List String}
    (h : (filledSessions calls).getLast? = some last) :
    String.join last = String.join (calls.filterMap block?) ↔ (filledSessions calls).length = 1 := by
  obtain ⟨before, hbefore⟩ := List.getLast?_eq_some_iff.mp h
  have hblocks : calls.filterMap block? = before.flatten ++ last := by
    rw [← flatten_filledSessions, hbefore, List.flatten_append]
    simp
  rw [hblocks, String.join_append, hbefore]
  constructor
  · intro heq
    cases before with
    | nil => rfl
    | cons first rest =>
      have hfirst : first ≠ [] := by
        have hmem : first ∈ filledSessions calls := by simp [hbefore]
        simpa using (List.mem_filter.mp hmem).2
      obtain ⟨block, hblock⟩ := List.exists_mem_of_ne_nil first hfirst
      have hcall : block ∈ calls.filterMap block? := by simp [hblocks, hblock]
      have hne : block ≠ "" := block_ne_empty hcall
      have hlength := congrArg String.length heq
      rw [String.length_append] at hlength
      have hzero : (String.join (first :: rest).flatten).length = 0 := by omega
      rw [String.length_join] at hzero
      have hmem : block ∈ (first :: rest).flatten := by simp [hblock]
      have hshort : block.length = 0 := List.sum_eq_zero_iff_forall_eq_nat.mp hzero _ (List.mem_map_of_mem hmem)
      exact absurd (String.length_eq_zero_iff.mp hshort) hne
  · intro hlen
    obtain rfl : before = [] := by simpa using hlen
    rfl

end ReportCall

/-- After a save of an enabled report the report file holds the blocks of the last session in which there are any, in
the order in which they were added. These are all blocks just when there is one such session. Without any block nothing
is written. -/
theorem WarningReport.readText_after_save (c : Config) (hc : c.writesReports = true) (t u : FileTree)
    (calls : List ReportCall) (w : WarningReport) (hapart : (WarningReport.new c).IsApart t)
    (h : ReportCall.performAll ⟨.new c, t⟩ (calls ++ [.save]) = .ok ⟨w, u⟩) :
    (ReportCall.filledSessions calls = [] → u = t) ∧
    ∀ last, (ReportCall.filledSessions calls).getLast? = some last →
      u.readText c.warningsReportPath = .ok (String.join last) ∧
      (u.readText c.warningsReportPath = .ok (String.join (calls.filterMap ReportCall.block?)) ↔
        (ReportCall.filledSessions calls).length = 1) := by
  have hreports := (Reports.new (.new c) t rfl).performAll hc hapart h
  rw [ReportCall.page_save] at hreports
  constructor
  · intro hnil
    exact hreports.untouched (by rw [hnil]; rfl)
  · intro last hlast
    have hfilled : last ≠ [] := by
      have hmem := List.mem_of_getLast? hlast
      simpa using (List.mem_filter.mp hmem).2
    rw [hlast] at hreports
    have hread : u.readText c.warningsReportPath = .ok (String.join last) := hreports.readText rfl hfilled
    refine ⟨hread, ?_⟩
    rw [hread, ← ReportCall.join_getLast_eq_iff hlast, Except.ok.injEq]

private def rootConfig : Config := (Config.ofRoot "/").withCi (some "summary.md") none

private def twoSessions : List ReportCall := [.add "A" ["w"], .save, .add "B" ["v"]]

private theorem exists_performAll_twoSessions :
    ∃ s, ReportCall.performAll ⟨.new rootConfig, .empty⟩ (twoSessions ++ [.save]) = .ok s := by
  have hok : (ReportCall.performAll ⟨.new rootConfig, .empty⟩ (twoSessions ++ [.save])).isOk = true := by decide
  cases h : ReportCall.performAll ⟨.new rootConfig, .empty⟩ (twoSessions ++ [.save]) with
  | ok s => exact ⟨s, rfl⟩
  | error e => simp [h, Except.isOk, Except.toBool] at hok

private theorem isApart_rootConfig : (WarningReport.new rootConfig).IsApart .empty := by
  intro output place houtput
  cases houtput

/-- Two sessions with a block each: the first is lost. -/
theorem WarningReport.readText_after_save_twice : ∃ w u,
    ReportCall.performAll ⟨.new rootConfig, .empty⟩ (twoSessions ++ [.save]) = .ok ⟨w, u⟩ ∧
      u.readText rootConfig.warningsReportPath = .ok "**🟡 B**\n* v\n" ∧
      u.readText rootConfig.warningsReportPath ≠ .ok (String.join (twoSessions.filterMap ReportCall.block?)) := by
  obtain ⟨⟨w, u⟩, h⟩ := exists_performAll_twoSessions
  obtain ⟨hread, hall⟩ := (WarningReport.readText_after_save rootConfig rfl .empty u twoSessions w
    isApart_rootConfig h).2 [warningBlock "B" ["v"]] (by decide)
  refine ⟨w, u, h, hread, fun heq => ?_⟩
  have hone : (ReportCall.filledSessions twoSessions).length = 1 := hall.mp heq
  exact absurd hone (by decide)

/-- The block that was saved first is nowhere in the report after the second save. -/
theorem WarningReport.loses_saved_block : ∃ s text,
    ReportCall.performAll ⟨.new rootConfig, .empty⟩ [.add "A" ["w"], .save, .add "B" ["v"], .save] = .ok s ∧
      s.tree.readText rootConfig.warningsReportPath = .ok text ∧
      ¬ (warningBlock "A" ["w"]).toList <:+: text.toList := by
  obtain ⟨s, h⟩ := exists_performAll_twoSessions
  have hreports := (Reports.new (.new rootConfig) .empty rfl).performAll rfl isApart_rootConfig h
  refine ⟨s, warningBlock "B" ["v"], h, hreports.readText rfl (by decide), ?_⟩
  decide

end RepoConventions.Rules
