import Mathlib.Algebra.GroupWithZero.Nat
import RepoConventions.Proofs.Rules.Discovery

/-!
# Relative paths of records

A record shows the way from the root to its file with slashes between the names and for backslashes in them, and with
the replacement character for octets that are no part of a character. Where no name on the way holds either, the root
joined with the relative path is the path of the file again, and no other such file has the same relative path. Where
one does, the relative path is that of another place, and files whose ways differ in no more than that share it.
-/

namespace RepoConventions.Files

open OsText (Piece)

/-- The names on a way with slashes between them. -/
def wayText (names : List String) : String := "/".intercalate names

/-- The characters on a way, and the octets on it that are no part of a character. -/
def wayPieces (names : List String) : List Piece := OsText.pieces (OsText.octets (wayText names))

/-- Some name on the way holds a backslash, or an octet that is no part of a character. -/
def HoldsRewritten (names : List String) : Prop := ∃ s ∈ names, '\\' ∈ s.toList ∨ OsText.mark ∈ s.toList

instance (names : List String) : Decidable (HoldsRewritten names) :=
  inferInstanceAs (Decidable (∃ s ∈ names, _ ∨ _))

/-- Equal characters, slashes and backslashes among each other, and all that is shown as the replacement character. -/
def ShownAlike (p q : Piece) : Prop :=
  p = q ∨ (p ∈ [.char '/', .char '\\'] ∧ q ∈ [.char '/', .char '\\']) ∨
    (p.shown = OsText.replacement ∧ q.shown = OsText.replacement)

instance (p q : Piece) : Decidable (ShownAlike p q) := inferInstanceAs (Decidable (_ ∨ _))

theorem shownChar_eq_replacement_iff (c : Char) : shownChar c = OsText.replacement ↔ c = OsText.replacement := by
  have hslash : '/' ≠ OsText.replacement := by decide
  have hbackslash : '\\' ≠ OsText.replacement := by decide
  by_cases hc : c = '\\' <;> simp [shownChar, hc, hslash, hbackslash]

theorem shownChar_shown_eq_iff (p q : Piece) : shownChar p.shown = shownChar q.shown ↔ ShownAlike p q := by
  have hbroken (os : List UInt8) : shownChar (Piece.shown (.broken os)) = OsText.replacement :=
    (shownChar_eq_replacement_iff _).mpr rfl
  cases p with
  | char c =>
    cases q with
    | char d => by_cases hc : c = '\\' <;> by_cases hd : d = '\\' <;> grind [shownChar, ShownAlike, Piece.shown]
    | broken os =>
      rw [hbroken, Piece.shown, shownChar_eq_replacement_iff]
      simp [ShownAlike, Piece.shown]
  | broken os =>
    rw [hbroken, eq_comm, shownChar_eq_replacement_iff]
    cases q <;> simp [ShownAlike, Piece.shown]

theorem shownPath_eq_iff (names others : List String) :
    shownPath names = shownPath others ↔ List.Forall₂ ShownAlike (wayPieces names) (wayPieces others) := by
  have hpieces (names : List String) :
      shownPath names = .ofList ((wayPieces names).map fun p => shownChar p.shown) := by
    rw [shownPath, OsText.toList_shown, List.map_map]
    rfl
  rw [hpieces, hpieces, String.ofList_inj, ← List.forall₂_eq_eq_eq, List.forall₂_map_left_iff,
    List.forall₂_map_right_iff]
  simp only [shownChar_shown_eq_iff]

theorem wayText_cons (s next : String) (rest : List String) :
    wayText (s :: next :: rest) = s ++ "/" ++ wayText (next :: rest) := by
  rw [wayText, String.intercalate_cons_of_ne_nil (List.cons_ne_nil next rest)]
  rfl

theorem mem_wayText_iff {c : Char} (hc : c ≠ '/') (names : List String) :
    c ∈ (wayText names).toList ↔ ∃ s ∈ names, c ∈ s.toList := by
  induction names with
  | nil => simp [wayText]
  | cons s rest ih =>
    cases rest with
    | nil => simp [wayText]
    | cons next rest =>
      have hslash : ("/" : String).toList = ['/'] := rfl
      rw [wayText_cons, List.exists_mem_cons_iff, ← ih, String.toList_append, String.toList_append, hslash]
      simp [hc]

theorem holdsRewritten_iff (names : List String) :
    HoldsRewritten names ↔ '\\' ∈ (wayText names).toList ∨ OsText.mark ∈ (wayText names).toList := by
  rw [mem_wayText_iff (by decide), mem_wayText_iff (by decide), ← exists_or]
  simp only [HoldsRewritten, ← and_or_left]

/-! Ways joined to a root -/

section Way

variable {root : String} (hroot : root ≠ "") {names : List String} (hne : names ≠ [])
  (hnames : ∀ s ∈ names, isEntryName s = true)

include hne hnames

theorem isAbsolute_wayText : Path.isAbsolute (wayText names) = false := by
  cases names with
  | nil => exact absurd rfl hne
  | cons s rest =>
    have hs : isEntryName s = true := hnames s List.mem_cons_self
    cases rest with
    | nil => simpa [wayText] using isAbsolute_of_isEntryName hs
    | cons next rest =>
      rw [wayText_cons, String.append_assoc]
      exact isAbsolute_append hs _

include hroot

theorem pathBelow_eq_join : pathBelow root names = Path.join root (wayText names) := by
  induction names generalizing root with
  | nil => exact absurd rfl hne
  | cons s rest ih =>
    obtain ⟨hs, hrest⟩ := List.forall_mem_cons.mp hnames
    cases rest with
    | nil => simp [pathBelow, wayText]
    | cons next rest =>
      have hbelow : pathBelow root (s :: next :: rest) = pathBelow (Path.join root s) (next :: rest) := rfl
      have hrelative := isAbsolute_wayText (List.cons_ne_nil next rest) hrest
      have hlonger := isAbsolute_wayText hne hnames
      have hslash : separator (Path.join root s) = ['/'] := by rw [separator, endsWithSlash_join hroot hs]; rfl
      apply String.toList_injective
      rw [hbelow, ih (join_ne_empty hroot hs) (List.cons_ne_nil next rest) hrest,
        toList_join (join_ne_empty hroot hs) hrelative, toList_join hroot (isAbsolute_of_isEntryName hs),
        toList_join hroot hlonger, hslash, wayText_cons]
      simp

end Way

/-! Characters of components -/

namespace Path

def Component.count (c : Char) : Component → Nat
  | name s => s.count c
  | top | here | up => 0

section Count

variable {c : Char} (hc : c ≠ '/' ∧ c ≠ '.')

include hc

theorem sum_count_splitOn (s : List Char) : ((Text.splitOn '/' s).map (List.count c)).sum = s.count c := by
  induction s with
  | nil => rfl
  | cons d rest ih =>
    by_cases hd : d = '/'
    · simp [Text.splitOn, hd, ih, hc.1.symm]
    · cases hr : Text.splitOn '/' rest with
      | nil => exact absurd hr (Text.splitOn_ne_nil '/' rest)
      | cons first others =>
        rw [hr] at ih
        simp [Text.splitOn, hd, hr, List.count_cons, ← ih]
        omega

theorem sum_count_component? (segment : List Char) :
    ((component? segment).toList.map (Component.count c)).sum = segment.count c := by
  unfold component?
  split <;> simp [Component.count, hc.2.symm]

/-- Splitting a path into components loses no character but slashes and dots. -/
theorem sum_count_components (path : String) :
    ((components path).map (Component.count c)).sum = path.toList.count c := by
  have hall (segments : List (List Char)) :
      ((segments.filterMap component?).map (Component.count c)).sum = (segments.map (List.count c)).sum := by
    induction segments with
    | nil => rfl
    | cons s rest ih =>
      have hs := sum_count_component? hc s
      cases hcomponent : component? s <;> simp_all
  have hfirst (first : List Char) (rest : List (List Char)) (hsegments : segments path = first :: rest) :
      ((firstComponent? path first).toList.map (Component.count c)).sum = first.count c := by
    unfold firstComponent?
    split
    · next habsolute =>
      obtain ⟨more, hpath⟩ : ∃ more, path.toList = '/' :: more := by
        cases hl : path.toList <;> simp_all [isAbsolute]
      obtain rfl : [] = first := by
        rw [segments, hpath, Text.splitOn] at hsegments
        exact (List.cons.inj hsegments).1
      rfl
    · split
      · next hdot => simp [hdot, Component.count, hc.2.symm]
      · exact sum_count_component? hc first
  rw [← sum_count_splitOn hc, components]
  change _ = ((segments path).map (List.count c)).sum
  cases hsegments : segments path with
  | nil => rfl
  | cons first rest => simp [hfirst first rest hsegments, hall]

end Count

end Path

/-! Shown ways -/

theorem shownPath_of_not_holdsRewritten {names : List String} (h : ¬ HoldsRewritten names) :
    shownPath names = wayText names := by
  obtain ⟨hbackslash, hmark⟩ := not_or.mp ((holdsRewritten_iff names).not.mp h)
  have hchar : ∀ c ∈ (wayText names).toList, shownChar c = c := by
    intro c hc
    have hne : c ≠ '\\' := fun he => hbackslash (he ▸ hc)
    simp [shownChar, hne]
  rw [shownPath, ← wayText, OsText.shown_of_not_mem hmark, List.map_congr_left hchar, List.map_id',
    String.ofList_toList]

theorem backslash_not_mem_shownPath (names : List String) : '\\' ∉ (shownPath names).toList := by
  have hchar (c : Char) : shownChar c ≠ '\\' := by
    unfold shownChar
    split <;> simp_all
  rw [shownPath, String.toList_ofList]
  simp [hchar]

theorem mark_not_mem_shownPath {names : List String} (hnames : ∀ s ∈ names, isEntryName s = true) :
    OsText.mark ∉ (shownPath names).toList := by
  have hname (s : String) (hs : isEntryName s = true) : OsText.mark ∉ (OsText.shown s).toList.map shownChar := by
    have hshown := OsText.mark_not_mem_shown (isSpelling_of_isEntryName hs)
    rintro hmem
    obtain ⟨c, hc, heq⟩ := List.mem_map.mp hmem
    unfold shownChar at heq
    split at heq
    · exact absurd heq (by decide)
    · exact hshown (heq ▸ hc)
  have hbelow (names : List String) (hnames : ∀ s ∈ names, isEntryName s = true) :
      OsText.mark ∉ shownBelow names := by
    induction names with
    | nil => exact List.not_mem_nil
    | cons s rest ih =>
      obtain ⟨hs, hrest⟩ := List.forall_mem_cons.mp hnames
      have hslash : OsText.mark ≠ '/' := by decide
      simp only [shownBelow, List.cons_append, List.mem_cons, List.mem_append, not_or]
      exact ⟨hslash, hname s hs, ih hrest⟩
  cases names with
  | nil => decide
  | cons s rest =>
    obtain ⟨hs, hrest⟩ := List.forall_mem_cons.mp hnames
    rw [shownPath_cons, List.mem_append]
    exact not_or.mpr ⟨hname s hs, hbelow rest hrest⟩

/-- Ways that are shown as they are and alike are equal. -/
theorem eq_of_shownPath_eq {names others : List String} (hne : names ≠ []) (hne' : others ≠ [])
    (hnames : ∀ s ∈ names, isEntryName s = true) (hothers : ∀ s ∈ others, isEntryName s = true)
    (hplain : ¬ HoldsRewritten names) (hplain' : ¬ HoldsRewritten others) (h : shownPath names = shownPath others) :
    names = others := by
  rw [shownPath_of_not_holdsRewritten hplain, shownPath_of_not_holdsRewritten hplain'] at h
  have hroot : "/" ≠ "" := by decide
  refine Path.pathBelow_injective hroot hnames hothers ?_
  rw [pathBelow_eq_join hroot hne hnames, pathBelow_eq_join hroot hne' hothers, h]

/-- Below a root, a way that holds a character which is not shown is shown as a way to another place. -/
theorem components_join_ne_of_not_mem {root : String} (hroot : root ≠ "") {names : List String} (hne : names ≠ [])
    (hnames : ∀ s ∈ names, isEntryName s = true) {c : Char} (hc : c ≠ '/' ∧ c ≠ '.')
    (hway : c ∈ (wayText names).toList) (hshown : c ∉ (shownPath names).toList) :
    Path.components (Path.join root (shownPath names)) ≠ Path.components (pathBelow root names) := by
  have hseparator : (separator root).count c = 0 := by
    unfold separator
    split <;> simp [hc.1.symm]
  have hpos : 0 < (wayText names).toList.count c := List.count_pos_iff.mpr hway
  have hzero : (shownPath names).toList.count c = 0 := List.count_eq_zero.mpr hshown
  have hpath : (pathBelow root names).toList.count c = root.toList.count c + (wayText names).toList.count c := by
    rw [pathBelow_eq_join hroot hne hnames, toList_join hroot (isAbsolute_wayText hne hnames), List.count_append,
      List.count_append, hseparator, Nat.add_zero]
  have hjoin : (Path.join root (shownPath names)).toList.count c ≤ root.toList.count c := by
    cases habsolute : Path.isAbsolute (shownPath names) with
    | true =>
      rw [Path.join, if_pos habsolute, hzero]
      exact Nat.zero_le _
    | false =>
      rw [toList_join hroot habsolute, List.count_append, List.count_append, hseparator, hzero]
      exact Nat.le_refl _
  intro heq
  have hsum := congrArg (fun cs => (cs.map (Path.Component.count c)).sum) heq
  simp only [Path.sum_count_components hc] at hsum
  omega

theorem components_join_shownPath_ne {root : String} (hroot : root ≠ "") {names : List String} (hne : names ≠ [])
    (hnames : ∀ s ∈ names, isEntryName s = true) (h : HoldsRewritten names) :
    Path.components (Path.join root (shownPath names)) ≠ Path.components (pathBelow root names) := by
  obtain hbackslash | hmark := (holdsRewritten_iff names).mp h
  · exact components_join_ne_of_not_mem hroot hne hnames (by decide) hbackslash (backslash_not_mem_shownPath names)
  · exact components_join_ne_of_not_mem hroot hne hnames (by decide) hmark (mark_not_mem_shownPath hnames)

/-- A root that is a file itself is the only one found. -/
theorem FileTree.eq_nil_of_mem_files {t : FileTree} {root : String} (h : [] ∈ t.files root) {names : List String}
    (hnames : names ∈ t.files root) : names = [] := by
  obtain ⟨-, location, node, hresolve, ⟨⟨content, hfile⟩, -⟩, -⟩ := mem_files_iff.mp h
  obtain ⟨-, location', node', hresolve', ⟨⟨content', hfile'⟩, -⟩, -⟩ := mem_files_iff.mp hnames
  obtain ⟨-, rfl⟩ : location = location' ∧ node = node' := by simpa [hresolve] using hresolve'
  cases hfile
  cases names with
  | nil => rfl
  | cons name rest => cases hfile'

end RepoConventions.Files

namespace RepoConventions.Rules

open Files (FileTree HoldsRewritten ShownAlike pathBelow shownPath wayPieces)

theorem FileRecord.new_relativePath {ctx : Context} (hroot : ctx.root ≠ "") (rule : String) {names : List String}
    (hnames : ∀ s ∈ names, Files.isEntryName s = true) :
    (FileRecord.new ctx rule (pathBelow ctx.root names)).relativePath = shownPath names :=
  Files.Path.relativeTo_pathBelow hroot hnames

/-- Two found files have one relative path exactly if the ways to them are the same but for slashes and backslashes and
for what is shown as the replacement character, and then one of the ways holds a backslash or an octet that is no part
of a character. Joined to the root, the relative path of a file is the path of the file again if its way holds neither,
and otherwise leads to another place. -/
theorem find_relativePaths {t : FileTree} {ctx : Context} {glob : String} {paths : List String}
    (h : t.find ctx.root glob = .ok paths) (rule : String) :
    ∃ found : List (List String), paths = found.map (pathBelow ctx.root) ∧
      (∀ names ∈ found, t.HasFileAt ctx.root names) ∧
      ∀ names ∈ found, ∀ others ∈ found, names ≠ others →
        let f := FileRecord.new ctx rule (pathBelow ctx.root names)
        let g := FileRecord.new ctx rule (pathBelow ctx.root others)
        f.fullPath ≠ g.fullPath ∧
        (f.relativePath = g.relativePath ↔ List.Forall₂ ShownAlike (wayPieces names) (wayPieces others)) ∧
        (f.relativePath = g.relativePath → HoldsRewritten names ∨ HoldsRewritten others) ∧
        (¬ HoldsRewritten names → Files.Path.join ctx.root f.relativePath = f.fullPath) ∧
        (HoldsRewritten names →
          Files.Path.components (Files.Path.join ctx.root f.relativePath) ≠ Files.Path.components f.fullPath) := by
  cases hglob : Files.Glob.ofText glob with
  | error e =>
    rw [FileTree.find, hglob] at h
    cases h
  | ok glob' =>
    rw [t.find_eq_of_ofText ctx.root hglob] at h
    obtain rfl := Except.ok.inj h
    refine ⟨_, rfl, fun names hfound => (FileTree.mem_filter_files_iff glob').mp hfound |>.1, ?_⟩
    intro names hnames others hothers hne f g
    have hmem := List.mem_of_mem_filter hnames
    have hmem' := List.mem_of_mem_filter hothers
    obtain ⟨hroot, hentries⟩ := FileTree.isEntryName_of_mem_files hmem
    obtain ⟨-, hentries'⟩ := FileTree.isEntryName_of_mem_files hmem'
    have hbelow : names ≠ [] := by
      rintro rfl
      exact hne (FileTree.eq_nil_of_mem_files hmem hmem').symm
    have hbelow' : others ≠ [] := by
      rintro rfl
      exact hne (FileTree.eq_nil_of_mem_files hmem' hmem)
    rw [FileRecord.new_relativePath hroot rule hentries, FileRecord.new_relativePath hroot rule hentries']
    refine ⟨fun heq => hne (Files.Path.pathBelow_injective hroot hentries hentries' heq),
      Files.shownPath_eq_iff names others, fun heq => ?_, fun hplain => ?_,
      Files.components_join_shownPath_ne hroot hbelow hentries⟩
    · by_contra hplain
      obtain ⟨hplain, hplain'⟩ := not_or.mp hplain
      exact hne (Files.eq_of_shownPath_eq hbelow hbelow' hentries hentries' hplain hplain' heq)
    · rw [Files.shownPath_of_not_holdsRewritten hplain, ← Files.pathBelow_eq_join hroot hbelow hentries]
      rfl

/-- A directory with a file, another file whose name spells the way to it with a backslash, and a third. -/
private def spelled : FileTree :=
  ((FileTree.empty.putFile ["r", "a", "b"] .empty).putFile ["r", "a\\b"] .empty).putFile ["r", "c"] .empty

private def spelledContext : Context := ⟨.ofRoot "/r", .empty, none⟩

private theorem spelled_find : spelled.find spelledContext.root "*" = .ok ["/r/a/b", "/r/a\\b", "/r/c"] := by
  have hfiles : spelled.files "/r" = [["a", "b"], ["a\\b"], ["c"]] :=
    FileTree.files_of_listed rfl rfl (by decide +kernel) (by decide +kernel)
  rw [show spelledContext.root = "/r" from rfl, FileTree.find_of_files hfiles]
  rfl

/-- Two different files are found that have one relative path, which the way to one of them explains. -/
theorem find_relativePaths_spelled :
    ∃ names others, pathBelow "/r" names = "/r/a/b" ∧ pathBelow "/r" others = "/r/a\\b" ∧
      (HoldsRewritten names ∨ HoldsRewritten others) := by
  obtain ⟨found, hpaths, -, hall⟩ := find_relativePaths spelled_find "naming"
  obtain ⟨names, found, rfl, hnames, hpaths⟩ := List.map_eq_cons_iff.mp hpaths.symm
  obtain ⟨others, found, rfl, hothers, -⟩ := List.map_eq_cons_iff.mp hpaths
  have hne : names ≠ others := by
    rintro rfl
    exact absurd (hnames.symm.trans hothers) (by decide)
  obtain ⟨-, -, hshared, -⟩ := hall names (by simp) others (by simp) hne
  rw [hnames, hothers] at hshared
  exact ⟨names, others, hnames, hothers, hshared (by decide +kernel)⟩

/-- Different files are found whose records have one relative path, and it leads from the root to one of them only. -/
theorem find_shares_relativePath :
    let f := FileRecord.new spelledContext "naming" "/r/a/b"
    let g := FileRecord.new spelledContext "naming" "/r/a\\b"
    spelled.find "/r" "*" = .ok [f.fullPath, g.fullPath, "/r/c"] ∧ f.fullPath ≠ g.fullPath ∧
      f.relativePath = g.relativePath ∧ Files.Path.join "/r" g.relativePath = f.fullPath :=
  ⟨spelled_find, by decide, by decide +kernel, by decide +kernel⟩

end RepoConventions.Rules
