import RepoConventions.Files.Access
import RepoConventions.Proofs.Files.Resolution

/-!
# What is read and written where

A path names the same place for a file before and after files are put. A file that was put there is read back from it,
and octets written at the end of a file are added to it.
-/

namespace RepoConventions.Files

open FileNode (node?)

/-- A path with a slash at its end after a name stands for a directory. -/
def NamesDirectory (path : String) : Prop :=
  endsWithSlash path = true ∧ ∃ s, (namedSteps path).getLast? = some (.name s)

theorem fromUTF8?_toUTF8 (s : String) : String.fromUTF8? s.toUTF8 = some s := by
  rw [String.fromUTF8?, String.toUTF8_eq_toByteArray, dif_pos s.isValidUTF8]
  rfl

theorem overwrite_size (content new : ByteArray) : overwrite content content.size new = content ++ new := by
  have hgap : (⟨Array.replicate (content.size - content.size) 0⟩ : ByteArray) = .empty := by simp; rfl
  have hrest : content.extract (content.size + new.size) content.size = .empty := by simp
  rw [overwrite, hgap, hrest, ByteArray.extract_zero_size, ByteArray.append_empty, ByteArray.append_empty]

namespace FileTree

variable {t u : FileTree} {path : String} {place location : List String} {content : ByteArray}

theorem fileLocation_eq_ok_iff :
    t.fileLocation path = .ok location ↔ ¬ NamesDirectory path ∧ (t.resolve path).lead = .file location := by
  unfold fileLocation
  dsimp only
  split
  · next s hslash hlast =>
    have hnames : NamesDirectory path := ⟨hslash, s, hlast⟩
    constructor
    · intro h
      split at h <;> cases h
    · exact fun h => absurd hnames h.1
  · next hnot =>
    have hnames : ¬ NamesDirectory path := fun ⟨hslash, s, hlast⟩ => hnot s hslash hlast
    split <;> simp_all [Outcome.lead]

theorem Takes.of_fileLocation (h : t.fileLocation path = .ok location) : t.Takes location := by
  obtain ⟨-, hlead⟩ := fileLocation_eq_ok_iff.mp h
  have hold := t.resolve_holdsIn path
  cases ho : t.resolve path with
  | found l node =>
    rw [ho] at hlead hold
    cases node with
    | file content =>
      cases hlead
      exact .of_file hold
    | link _ => cases hlead
    | directory _ => cases hlead
  | absent directory name =>
    rw [ho] at hlead hold
    cases hlead
    obtain ⟨hname, entries, hd, hl⟩ := hold
    refine ⟨.of_absent hd hl, ?_⟩
    rw [List.all_append, t.wellFormed.all_isEntryName hd]
    simpa using hname
  | link directory target rest =>
    rw [ho] at hlead
    cases hlead
  | failed e =>
    rw [ho] at hlead
    cases hlead

/-- A file that is put somewhere leaves every path its place. -/
theorem fileLocation_putFile (h : t.Takes place) (content : ByteArray) (path : String) :
    (t.putFile place content).fileLocation path = .ok location ↔ t.fileLocation path = .ok location := by
  rw [fileLocation_eq_ok_iff, fileLocation_eq_ok_iff, lead_resolve_putFile h]

theorem read_eq_ok_iff : t.read path = .ok content ↔ ∃ location, t.resolve path = .found location (.file content) := by
  unfold read
  split <;> simp_all

theorem read_of_fileLocation (h : t.fileLocation path = .ok location)
    (hc : node? location t.top = some (.file content)) : t.read path = .ok content := by
  obtain ⟨-, hlead⟩ := fileLocation_eq_ok_iff.mp h
  have hold := t.resolve_holdsIn path
  rw [read_eq_ok_iff]
  cases ho : t.resolve path with
  | found l node =>
    rw [ho] at hlead hold
    cases node with
    | file other =>
      cases hlead
      rw [Outcome.HoldsIn, hc] at hold
      cases hold
      exact ⟨location, rfl⟩
    | link _ => cases hlead
    | directory _ => cases hlead
  | absent directory name =>
    rw [ho] at hlead hold
    cases hlead
    obtain ⟨-, entries, hd, hl⟩ := hold
    rw [node?_concat hd, hl] at hc
    cases hc
  | link directory target rest =>
    rw [ho] at hlead
    cases hlead
  | failed e =>
    rw [ho] at hlead
    cases hlead

theorem readText_of_fileLocation {text : String} (h : t.fileLocation path = .ok location)
    (hc : node? location t.top = some (.file text.toUTF8)) : t.readText path = .ok text := by
  rw [readText, read_of_fileLocation h hc]
  simp only [bind, Except.bind, fromUTF8?_toUTF8]

theorem create_eq_ok_iff {h : Handle} :
    t.create path = .ok (h, u) ↔ ∃ location, t.fileLocation path = .ok location ∧ h = ⟨location, 0⟩ ∧
      u = t.putFile location .empty := by
  unfold create
  cases t.fileLocation path <;> simp [bind, Except.bind, pure, Except.pure, eq_comm]

theorem write_eq_ok_iff : t.write path content = .ok u ↔ ∃ location, t.fileLocation path = .ok location ∧
    (content.isEmpty = true ∨ t.writeFault location = none) ∧ u = t.putFile location content := by
  unfold write replace
  cases t.fileLocation path with
  | error e => simp
  | ok location =>
    cases hempty : content.isEmpty with
    | true => simp [eq_comm]
    | false => cases hfault : t.writeFault location <;> simp [hfault, eq_comm]

theorem write_of_replace (h : t.replace path content = (.ok (), u)) : t.write path content = .ok u := by
  rw [write, h]

theorem write_of_replace_error {e : FileError} (h : t.replace path content = (.error e, u)) :
    t.write path content = .error e := by
  rw [write, h]

/-- What cannot be written leaves the tree, or an empty file at the place of its path. -/
theorem replace_error_cases {e : FileError} (h : t.replace path content = (.error e, u)) :
    (t.fileLocation path = .error e ∧ u = t) ∨
      ∃ location, t.fileLocation path = .ok location ∧ content.isEmpty = false ∧ t.writeFault location = some e ∧
        u = t.putFile location .empty := by
  unfold replace at h
  cases hlocation : t.fileLocation path with
  | error cause =>
    rw [hlocation] at h
    cases h
    exact .inl ⟨rfl, rfl⟩
  | ok location =>
    rw [hlocation] at h
    cases hempty : content.isEmpty with
    | true => simp [hempty] at h
    | false =>
      cases hfault : t.writeFault location with
      | none => simp [hempty, hfault] at h
      | some cause =>
        obtain ⟨rfl, rfl⟩ : cause = e ∧ t.putFile location .empty = u := by simpa [hempty, hfault] using h
        exact .inr ⟨location, rfl, rfl, hfault, rfl⟩

/-- What could not be written cannot be written to what is left either. -/
theorem write_after_replace_error {e : FileError} (h : t.replace path content = (.error e, u)) :
    u.write path content = .error e := by
  obtain ⟨hlocation, rfl⟩ | ⟨location, hlocation, hempty, hfault, rfl⟩ := replace_error_cases h
  · exact write_of_replace_error h
  · have hlocation' := (fileLocation_putFile (.of_fileLocation hlocation) .empty path).mpr hlocation
    simp only [write, replace, hlocation', putFile_writeFault, hempty, hfault, Bool.false_eq_true, if_false]

theorem readText_writeText {text : String} (h : t.writeText path text = .ok u) : u.readText path = .ok text := by
  obtain ⟨location, hlocation, -, rfl⟩ := write_eq_ok_iff.mp h
  have htakes : t.Takes location := .of_fileLocation hlocation
  apply readText_of_fileLocation ((fileLocation_putFile htakes _ path).mpr hlocation)
  exact node?_putFile_self htakes _

theorem append_of_file {h : Handle} (hfault : t.writeFault h.location = none)
    (hc : node? h.location t.top = some (.file content)) (new : ByteArray) :
    t.append h new =
      .ok (⟨h.location, h.offset + new.size⟩, t.putFile h.location (overwrite content h.offset new)) := by
  rw [append, hfault, hc]

theorem append_of_fault {h : Handle} {e : FileError} (hfault : t.writeFault h.location = some e) (new : ByteArray) :
    t.append h new = .error e := by
  rw [append, hfault]

/-! Trees of one layout -/

theorem SameLayout.fileLocation (h : t.SameLayout u) (path : String) : t.fileLocation path = u.fileLocation path := by
  have hsteps : (t.resolveSteps path ((namedSteps path).dropLast ++ [.here])).layout =
      (u.resolveSteps path ((namedSteps path).dropLast ++ [.here])).layout := h.resolveSteps (by simp)
  unfold FileTree.fileLocation
  dsimp only
  split
  · obtain ⟨_, _, _, ht, hu⟩ | ⟨_, _, _, ht, hu⟩ | heq := Outcome.layout_eq_cases hsteps
    · rw [ht, hu]
    · rw [ht, hu]
    · rw [heq]
  · obtain ⟨_, _, _, ht, hu⟩ | ⟨_, _, _, ht, hu⟩ | heq := Outcome.layout_eq_cases (h.resolve path)
    · rw [ht, hu]
    · rw [ht, hu]
    · rw [heq]

theorem SameLayout.read (h : t.SameLayout u) (hc : ∀ place content, t.resolve path = .found place (.file content) →
    node? place u.top = some (.file content)) : u.read path = t.read path := by
  have hold := u.resolve_holdsIn path
  unfold FileTree.read
  obtain ⟨place, content, content', ht, hu⟩ | ⟨_, _, _, ht, hu⟩ | heq := Outcome.layout_eq_cases (h.resolve path)
  · rw [hu, Outcome.HoldsIn, hc place content ht] at hold
    cases hold
    rw [ht, hu]
  · rw [ht, hu]
  · rw [heq]

/-- A path to a place without a file would make one there; this one does not. -/
def LeadsToNoGap (t : FileTree) (path : String) : Prop :=
  ∀ directory name, t.resolve path ≠ .absent directory name

theorem SameLayout.leadsToNoGap (h : t.SameLayout u) (hp : t.LeadsToNoGap path) : u.LeadsToNoGap path := by
  intro directory name hu
  obtain ⟨_, _, _, -, hu'⟩ | ⟨_, _, _, -, hu'⟩ | heq := Outcome.layout_eq_cases (h.resolve path)
  · simp [hu] at hu'
  · simp [hu] at hu'
  · exact hp directory name (heq.trans hu)

theorem LeadsToNoGap.found (hp : t.LeadsToNoGap path) (h : t.fileLocation path = .ok location) :
    ∃ content, t.resolve path = .found location (.file content) := by
  obtain ⟨-, hlead⟩ := fileLocation_eq_ok_iff.mp h
  cases ho : t.resolve path with
  | found place node =>
    rw [ho] at hlead
    cases node <;> cases hlead
    exact ⟨_, rfl⟩
  | absent directory name => exact absurd ho (hp directory name)
  | link directory target rest =>
    rw [ho] at hlead
    cases hlead
  | failed e =>
    rw [ho] at hlead
    cases hlead

end FileTree

end RepoConventions.Files
