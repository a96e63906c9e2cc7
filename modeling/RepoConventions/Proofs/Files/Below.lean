import Mathlib.Data.List.TakeWhile
import RepoConventions.Proofs.Files.Discovery
import RepoConventions.Proofs.Files.OsText

/-!
# Paths below a root

The components of a path below a root are those of the root and then the names on the way. So different ways have
different paths, the last name is the name of the file, and the path relative to the root is the names with slashes
between them.
-/

namespace RepoConventions.Files

def shownChar (c : Char) : Char := if c = '\\' then '/' else c

/-- How reports show the way from a root to a file: slashes stand between what is shown of the names, and for
backslashes in them. -/
def shownPath (names : List String) : String :=
  .ofList ((OsText.shown ("/".intercalate names)).toList.map shownChar)

namespace Path

theorem component?_toList {s : String} (h : isEntryName s = true) : component? s.toList = some (.name s.toList) := by
  have hne (text : String) (hs : s ≠ text) : s.toList ≠ text.toList := fun he => hs (String.toList_injective he)
  simp only [isEntryName, Bool.and_eq_true, decide_eq_true_eq] at h
  obtain ⟨⟨⟨⟨hempty, hdot⟩, hdots⟩, -⟩, -⟩ := h
  have h1 : s.toList ≠ [] := hne "" hempty
  have h2 : s.toList ≠ ['.'] := hne "." hdot
  have h3 : s.toList ≠ ['.', '.'] := hne ".." hdots
  unfold component?
  split <;> simp_all

theorem component?_of_firstComponent? {path : String} {segment : List Char}
    (h : firstComponent? path segment = none) : component? segment = none := by
  unfold firstComponent? at h
  split at h
  · cases h
  · split at h
    · cases h
    · exact h

theorem ne_singleton_of_ne_empty {path : String} (h : path ≠ "") : segments path ≠ [[]] := by
  intro hsegments
  have hlength : (segments path).length = path.toList.count '/' + 1 := Text.splitOn_length _ _
  rw [hsegments, List.length_singleton] at hlength
  have hslash : '/' ∉ path.toList := List.count_eq_zero.mp (by omega)
  have hall : segments path = [path.toList] := Text.splitOn_of_not_mem hslash
  rw [hsegments, List.singleton_inj] at hall
  exact h (String.toList_eq_nil_iff.mp hall.symm)

theorem filterMap_component?_names {names : List String} (hnames : ∀ s ∈ names, isEntryName s = true) :
    (names.map String.toList).filterMap component? = names.map fun s => .name s.toList := by
  rw [List.filterMap_map, ← List.filterMap_eq_map]
  exact List.filterMap_congr fun s hs => component?_toList (hnames s hs)

/-- Past the components of some segments there are only segments that do not count before what follows them. -/
theorem dropComponents?_append (path : String) (before after : List (List Char)) :
    ∃ empties, (∀ s ∈ empties, component? s = none) ∧
      dropComponents? path (before.filterMap component?) false (before ++ after) = some (empties ++ after) := by
  induction before with
  | nil => exact ⟨[], by simp, by simp [dropComponents?]⟩
  | cons s rest ih =>
    obtain ⟨empties, hempties, hdrop⟩ := ih
    cases hs : component? s with
    | some d => exact ⟨empties, hempties, by simp [hs, dropComponents?, hdrop]⟩
    | none =>
      cases hrest : rest.filterMap component? with
      | nil =>
        refine ⟨s :: rest, ?_, by simp [hs, hrest, dropComponents?]⟩
        simpa [hs] using List.filterMap_eq_nil_iff.mp hrest
      | cons c cs =>
        refine ⟨empties, hempties, ?_⟩
        rw [hrest] at hdrop
        simp [hs, hrest, dropComponents?, hdrop]

section Below

variable {root : String} (hroot : root ≠ "") {names : List String} (hnames : ∀ s ∈ names, isEntryName s = true)

include hroot hnames

theorem segments_pathBelow : ∃ first before empties, segments root = first :: before ++ empties ∧
    (∀ s ∈ empties, s = []) ∧ segments (pathBelow root names) = first :: before ++ names.map String.toList := by
  induction names using List.reverseRecOn with
  | nil =>
    obtain ⟨first, before, hsegments⟩ := List.exists_cons_of_ne_nil (Text.splitOn_ne_nil '/' root.toList)
    refine ⟨first, before, [], ?_, by simp, ?_⟩
    · simpa [segments] using hsegments
    · simpa [segments, pathBelow] using hsegments
  | append_singleton others s ih =>
    have hothers : ∀ name ∈ others, isEntryName name = true := fun name h => hnames name (by simp [h])
    have hs : isEntryName s = true := hnames s (by simp)
    obtain ⟨first, before, empties, hsegments, hempties, hbelow⟩ := ih hothers
    have hjoin := pathBelow_concat root others s
    obtain ⟨hne, -⟩ := pathBelow_steps hroot hothers
    obtain hnext | ⟨kept, hkept, hnext⟩ := segments_join hne hs
    · refine ⟨first, before, empties, hsegments, hempties, ?_⟩
      rw [hjoin, hnext, hbelow]
      simp
    · -- an empty last segment is one of the root, as no name is empty
      cases others using List.reverseRecOn with
      | nil =>
        have hroot' : first :: before = kept ++ [[]] := by simpa [hbelow] using hkept
        cases kept with
        | nil =>
          have hsingle : segments (pathBelow root []) = [[]] := by simpa using hkept
          exact absurd hsingle (ne_singleton_of_ne_empty hne)
        | cons first' before' =>
          refine ⟨first', before', [] :: empties, ?_, by simpa using hempties, ?_⟩
          · rw [hsegments, hroot']
            simp
          · rw [hjoin, hnext]
            simp
      | append_singleton others last =>
        rw [hbelow, List.map_append, ← List.append_assoc] at hkept
        have hlast : last.toList = [] := by simpa using (List.append_inj' hkept rfl).2
        exact absurd (String.toList_eq_nil_iff.mp hlast) (ne_empty_of_isEntryName (hothers last (by simp)))

theorem components_below : ∃ first before,
    components root = (firstComponent? root first).toList ++ before.filterMap component? ∧
    segments (pathBelow root names) = first :: before ++ names.map String.toList ∧
    firstComponent? (pathBelow root names) first = firstComponent? root first := by
  obtain ⟨first, before, empties, hsegments, hempties, hbelow⟩ := segments_pathBelow hroot hnames
  obtain ⟨-, habsolute, -⟩ := pathBelow_steps hroot hnames
  have hnone : empties.filterMap component? = [] := by
    rw [List.filterMap_eq_nil_iff]
    intro s hs
    rw [hempties s hs]
    rfl
  refine ⟨first, before, ?_, hbelow, ?_⟩
  · rw [List.cons_append] at hsegments
    rw [components, hsegments]
    simp only [List.filterMap_append, hnone, List.append_nil]
  · rw [firstComponent?, habsolute, firstComponent?]

theorem components_pathBelow :
    components (pathBelow root names) = components root ++ names.map fun s => .name s.toList := by
  obtain ⟨first, before, hcomponents, hbelow, hfirst⟩ := components_below hroot hnames
  rw [List.cons_append] at hbelow
  rw [components, hbelow, hcomponents]
  simp only [hfirst, List.filterMap_append, filterMap_component?_names hnames, List.append_assoc]

theorem fileName?_pathBelow (hne : names ≠ []) : fileName? (pathBelow root names) = names.getLast? := by
  rw [fileName?, components_pathBelow hroot hnames]
  cases names using List.reverseRecOn with
  | nil => exact absurd rfl hne
  | append_singleton others last => simp

theorem dropComponents?_pathBelow : ∃ empties, (∀ s ∈ empties, component? s = none) ∧
    dropComponents? (pathBelow root names) (components root) true (segments (pathBelow root names)) =
      some (empties ++ names.map String.toList) := by
  obtain ⟨first, before, hcomponents, hbelow, hfirst⟩ := components_below hroot hnames
  obtain ⟨empties, hempties, hdrop⟩ := dropComponents?_append (pathBelow root names) before (names.map String.toList)
  rw [hcomponents, hbelow, List.cons_append]
  cases hf : firstComponent? root first with
  | some d => exact ⟨empties, hempties, by simp [dropComponents?, hfirst, hf, hdrop]⟩
  | none =>
    cases hrest : before.filterMap component? with
    | nil =>
      refine ⟨first :: before, ?_, by simp [dropComponents?]⟩
      simpa [component?_of_firstComponent? hf] using List.filterMap_eq_nil_iff.mp hrest
    | cons c cs =>
      refine ⟨empties, hempties, ?_⟩
      rw [hrest] at hdrop
      simp [dropComponents?, hfirst, hf, hdrop]

theorem stripPrefix?_pathBelow : stripPrefix? root (pathBelow root names) = some ("/".intercalate names) := by
  obtain ⟨empties, hempties, hdrop⟩ := dropComponents?_pathBelow hroot hnames
  have hcounts : ∀ s ∈ names.map String.toList, ¬ (component? s).isNone = true := by
    intro s hs
    obtain ⟨name, hname, rfl⟩ := List.mem_map.mp hs
    simp [component?_toList (hnames name hname)]
  have hstays (segments : List (List Char)) (h : ∀ s ∈ segments, ¬ (component? s).isNone = true) :
      segments.dropWhile (fun s => (component? s).isNone) = segments :=
    List.dropWhile_eq_self_iff.mpr fun hpos => h _ (List.getElem_mem hpos)
  have hempty : root.isEmpty = false := by simpa using hroot
  have hleft : (empties ++ names.map String.toList).dropWhile (fun s => (component? s).isNone) =
      names.map String.toList := by
    rw [List.dropWhile_append_of_pos fun s hs => by simp [hempties s hs], hstays _ hcounts]
  have hright := hstays (names.map String.toList).reverse fun s hs => hcounts s (List.mem_reverse.mp hs)
  have hnames' : (names.map String.toList).map String.ofList = names := by simp
  rw [stripPrefix?, hdrop]
  simp only [bind, Option.bind, pure, hempty, Bool.false_eq_true, if_false, hleft, hright, List.reverse_reverse,
    ofSegments, hnames']

/-- Reports name a file by the way to it. -/
theorem relativeTo_pathBelow : relativeTo root (pathBelow root names) = shownPath names := by
  rw [relativeTo, stripPrefix?_pathBelow hroot hnames, Option.getD_some, shownPath]
  rfl

end Below

theorem pathBelow_injective {root : String} (hroot : root ≠ "") {names others : List String}
    (hnames : ∀ s ∈ names, isEntryName s = true) (hothers : ∀ s ∈ others, isEntryName s = true)
    (h : pathBelow root names = pathBelow root others) : names = others := by
  have hcomponents := components_pathBelow hroot hnames
  rw [h, components_pathBelow hroot hothers, List.append_cancel_left_eq] at hcomponents
  refine (List.map_injective_iff.mpr ?_ hcomponents).symm
  intro s r hsr
  exact String.toList_injective (by simpa using hsr)

end Path

/-! Shown paths -/

/-- How the names are shown that come after the first. -/
def shownBelow : List String → List Char
  | [] => []
  | name :: rest => '/' :: (OsText.shown name).toList.map shownChar ++ shownBelow rest

theorem head?_shownBelow (names : List String) : ∀ c ∈ (shownBelow names).head?, c = '/' := by
  cases names <;> simp [shownBelow]

theorem shownPath_cons (name : String) (rest : List String) :
    (shownPath (name :: rest)).toList = (OsText.shown name).toList.map shownChar ++ shownBelow rest := by
  induction rest generalizing name with
  | nil => simp [shownPath, shownBelow]
  | cons next rest ih =>
    have hfirst : (shownPath (name :: next :: rest)).toList =
        (OsText.shown name).toList.map shownChar ++ '/' :: (shownPath (next :: rest)).toList := by
      rw [shownPath, String.intercalate_cons_of_ne_nil (List.cons_ne_nil next rest), OsText.shown_append_slash]
      simp [shownPath, shownChar]
    rw [hfirst, ih, shownBelow, List.cons_append]

/-! How shown names begin -/

/-- A character that is shown as it is and stands for nothing else. -/
def IsShownAsIs (c : Char) : Prop := c ≠ '/' ∧ c ≠ '\\'

instance (c : Char) : Decidable (IsShownAsIs c) := inferInstanceAs (Decidable (_ ∧ _))

theorem eq_shownChar_iff {c d : Char} (hc : IsShownAsIs c) : c = shownChar d ↔ c = d := by
  by_cases hd : d = '\\'
  · simp [shownChar, hd, hc.1, hc.2]
  · simp [shownChar, hd]

theorem slash_eq_shownChar_iff {d : Char} (hd : d ≠ '/') : '/' = shownChar d ↔ d = '\\' := by
  by_cases h : d = '\\'
  · simp [shownChar, h]
  · simp [shownChar, h, Ne.symm hd]

section Names

variable {tail : List Char} (htail : ∀ c ∈ tail.head?, c = '/')

include htail

theorem not_prefix_tail {c : Char} (hc : IsShownAsIs c) (w : List Char) : ¬ c :: w <+: tail := by
  cases tail with
  | nil => simp
  | cons d more =>
    obtain rfl : d = '/' := htail d rfl
    simp [List.cons_prefix_cons, hc.1]

theorem prefix_shown_iff {w name : List Char} (hw : ∀ c ∈ w, IsShownAsIs c) :
    w <+: name.map shownChar ++ tail ↔ w <+: name := by
  induction w generalizing name with
  | nil => simp
  | cons c w ih =>
    obtain ⟨hc, hw⟩ := List.forall_mem_cons.mp hw
    cases name with
    | nil => simp [not_prefix_tail htail hc]
    | cons d name =>
      rw [List.map_cons, List.cons_append, List.cons_prefix_cons, List.cons_prefix_cons, eq_shownChar_iff hc, ih hw]

/-- A slash in a shown name is the one after the name or a backslash in it. -/
theorem prefix_slash_shown_iff {w name after : List Char} (hw : ∀ c ∈ w, IsShownAsIs c) (hname : '/' ∉ name) :
    w ++ '/' :: after <+: name.map shownChar ++ tail ↔
      (name = w ∧ '/' :: after <+: tail) ∨
        ∃ rest, name = w ++ '\\' :: rest ∧ after <+: rest.map shownChar ++ tail := by
  induction w generalizing name with
  | nil =>
    cases name with
    | nil => simp
    | cons d name =>
      have hd : d ≠ '/' := fun he => hname (by simp [he])
      simp [List.cons_prefix_cons, slash_eq_shownChar_iff hd]
  | cons c w ih =>
    obtain ⟨hc, hw⟩ := List.forall_mem_cons.mp hw
    cases name with
    | nil => simp [not_prefix_tail htail hc]
    | cons d name =>
      have hname : '/' ∉ name := fun hmem => hname (List.mem_cons_of_mem d hmem)
      rw [List.map_cons, List.cons_append, List.cons_append, List.cons_prefix_cons, eq_shownChar_iff hc, ih hw hname]
      by_cases hcd : c = d
      · simp [hcd]
      · simp [hcd, Ne.symm hcd]

end Names

end RepoConventions.Files
