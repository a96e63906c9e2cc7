import Mathlib.Data.List.Basic
import Mathlib.Data.List.Forall2
import RepoConventions.Proofs.Project.Steps

/-!
# Which elements a path selects

Elements are told apart by their addresses. A path selects those elements whose line of ancestors, from the root to the
element itself, is described by the steps one by one, each once and in document order.
-/

namespace RepoConventions

open Xml (Element)

namespace Xml.Element

/-- The elements from one down to the element at an address, which says for each level which child is next. -/
def lineage? (e : Element) : List Nat → Option (List Element)
  | [] => some [e]
  | i :: below => do
    let child ← e.children[i]?
    return e :: (← child.lineage? below)

theorem lineage?_cons_iff {e : Element} {i : Nat} {below : List Nat} {line : List Element} :
    e.lineage? (i :: below) = some line ↔
      ∃ child more, e.children[i]? = some child ∧ child.lineage? below = some more ∧ line = e :: more := by
  simp only [lineage?, Option.bind_eq_bind, Option.bind_eq_some_iff, Option.pure_def, Option.some_inj]
  constructor
  · rintro ⟨child, hchild, more, hmore, rfl⟩
    exact ⟨child, more, hchild, hmore, rfl⟩
  · rintro ⟨child, more, hchild, hmore, rfl⟩
    exact ⟨child, hchild, more, hmore, rfl⟩

theorem length_of_lineage? {e : Element} {address : List Nat} {line : List Element}
    (h : e.lineage? address = some line) : line.length = address.length + 1 := by
  induction address generalizing e line with
  | nil =>
    cases h
    rfl
  | cons i below ih =>
    obtain ⟨child, more, -, hmore, rfl⟩ := lineage?_cons_iff.mp h
    simp [ih hmore]

theorem exists_cons_of_lineage? {e : Element} {address : List Nat} {line : List Element}
    (h : e.lineage? address = some line) : ∃ below, line = e :: below := by
  cases address with
  | nil =>
    cases h
    exact ⟨[], rfl⟩
  | cons i address =>
    obtain ⟨child, more, -, -, rfl⟩ := lineage?_cons_iff.mp h
    exact ⟨more, rfl⟩

end Xml.Element

namespace Project

/-- The element is in no namespace, has the tag name and, if the step asks for an attribute, has the value in the first
attribute of this name. -/
structure Step.Describes (s : Step) (e : Element) : Prop where
  namespaceUri : e.namespaceUri = none
  name : e.name = s.name
  filter : ∀ key value, s.filter = some (key, value) →
    ∃ before after, e.attributes = before ++ (key, value) :: after ∧ ∀ a ∈ before, a.1 ≠ key

theorem Step.matches_iff_describes (s : Step) (e : Element) : s.matches e = true ↔ s.Describes e := by
  have hkey (key : String) (a : String × String) : (key != a.1) = true ↔ a.1 ≠ key := by rw [bne_iff_ne, ne_comm]
  have hattribute (key value : String) : e.attribute? key = some value ↔
      ∃ before after, e.attributes = before ++ (key, value) :: after ∧ ∀ a ∈ before, a.1 ≠ key := by
    rw [Element.attribute?, List.lookup_eq_some_iff]
    simp only [hkey]
  have hmatches : s.matches e = true ↔ e.namespaceUri = none ∧ e.name = s.name ∧
      ∀ key value, s.filter = some (key, value) → e.attribute? key = some value := by
    obtain ⟨name, filter⟩ := s
    cases filter with
    | none => simp [Step.matches]
    | some kv => simp [Step.matches, and_assoc, Prod.ext_iff]
  rw [hmatches]
  simp only [hattribute]
  exact ⟨fun h => ⟨h.1, h.2.1, h.2.2⟩, fun h => ⟨h.namespaceUri, h.name, h.filter⟩⟩

/-- The elements that steps lead to below an element, each with its address from there. -/
def placesBelow : List Step → Element → List (List Nat × Element)
  | [], e => [([], e)]
  | s :: rest, e => e.children.zipIdx.flatMap fun child =>
    if s.matches child.1 then (placesBelow rest child.1).map fun place => (child.2 :: place.1, place.2) else []

theorem descend_flatMap (steps : List Step) (elements : List Element) :
    descend steps elements = elements.flatMap fun e => descend steps [e] := by
  induction steps generalizing elements with
  | nil => simp [descend]
  | cons s rest ih =>
    have hcons (es : List Element) :
        descend (s :: rest) es = descend rest ((es.flatMap (·.children)).filter s.matches) := rfl
    rw [hcons, ih, List.filter_flatMap, List.flatMap_assoc]
    refine List.flatMap_congr fun e _ => ?_
    rw [hcons, List.flatMap_singleton, ← ih]

theorem map_snd_placesBelow (steps : List Step) (e : Element) :
    (placesBelow steps e).map (·.2) = descend steps [e] := by
  induction steps generalizing e with
  | nil => rfl
  | cons s rest ih =>
    have hchild (p : Element × Nat) : (if s.matches p.1 then (placesBelow rest p.1).map fun q => (p.2 :: q.1, q.2)
        else []).map (·.2) = ((if s.matches p.1 then [p.1] else []).flatMap fun c => descend rest [c]) := by
      split
      · rw [List.flatMap_singleton, ← ih, List.map_map]
        rfl
      · rfl
    have hfilter : e.children.filter s.matches = e.children.flatMap fun c => if s.matches c then [c] else [] := by
      rw [← List.filterMap_eq_filter, List.filterMap_eq_flatMap_toList]
      exact List.flatMap_congr fun c _ => by by_cases h : s.matches c <;> simp [Option.guard, h]
    calc (placesBelow (s :: rest) e).map (·.2)
        = e.children.zipIdx.flatMap fun p => (if s.matches p.1 then [p.1] else []).flatMap fun c => descend rest [c] := by
          rw [placesBelow, List.map_flatMap]
          exact List.flatMap_congr fun p _ => hchild p
      _ = e.children.flatMap fun c => (if s.matches c then [c] else []).flatMap fun c => descend rest [c] := by
          conv => rhs; rw [← List.zipIdx_map_fst 0 e.children, List.flatMap_map]
      _ = (e.children.filter s.matches).flatMap fun c => descend rest [c] := by
          rw [hfilter, List.flatMap_assoc]
      _ = descend (s :: rest) [e] := by
          rw [← descend_flatMap]
          simp [descend]

theorem mem_placesBelow_cons_iff {s : Step} {rest : List Step} {e x : Element} {address : List Nat} :
    (address, x) ∈ placesBelow (s :: rest) e ↔ ∃ i below child, address = i :: below ∧
      e.children[i]? = some child ∧ s.Describes child ∧ (below, x) ∈ placesBelow rest child := by
  simp only [← s.matches_iff_describes]
  constructor
  · intro h
    obtain ⟨⟨child, i⟩, hchild, hmem⟩ := List.mem_flatMap.mp h
    rw [List.mem_zipIdx_iff_getElem?] at hchild
    dsimp only at hchild hmem
    split at hmem
    · next hmatches =>
      obtain ⟨⟨below, y⟩, hbelow, heq⟩ := List.mem_map.mp hmem
      obtain ⟨rfl, rfl⟩ := Prod.mk.inj heq
      exact ⟨i, below, child, rfl, hchild, hmatches, hbelow⟩
    · cases hmem
  · rintro ⟨i, below, child, rfl, hchild, hmatches, hbelow⟩
    refine List.mem_flatMap.mpr ⟨(child, i), List.mem_zipIdx_iff_getElem?.mpr hchild, ?_⟩
    rw [if_pos hmatches]
    exact List.mem_map.mpr ⟨(below, x), hbelow, rfl⟩

theorem mem_placesBelow_iff {steps : List Step} {e x : Element} {address : List Nat} :
    (address, x) ∈ placesBelow steps e ↔ ∃ line, e.lineage? address = some (e :: line) ∧
      (e :: line).getLast? = some x ∧ List.Forall₂ Step.Describes steps line := by
  induction steps generalizing e address with
  | nil =>
    constructor
    · intro h
      obtain ⟨rfl, rfl⟩ : address = [] ∧ x = e := by simpa [placesBelow] using h
      exact ⟨[], rfl, rfl, .nil⟩
    · rintro ⟨line, hline, hlast, hdescribes⟩
      cases hdescribes
      obtain rfl : address = [] := by simpa using Element.length_of_lineage? hline
      obtain rfl : e = x := by simpa using hlast
      exact List.mem_cons_self
  | cons s rest ih =>
    rw [mem_placesBelow_cons_iff]
    constructor
    · rintro ⟨i, below, child, rfl, hchild, hdescribes, hbelow⟩
      obtain ⟨line, hline, hlast, hrest⟩ := ih.mp hbelow
      exact ⟨child :: line, Element.lineage?_cons_iff.mpr ⟨child, child :: line, hchild, hline, rfl⟩,
        by rw [List.getLast?_cons_cons, hlast], .cons hdescribes hrest⟩
    · rintro ⟨line, hline, hlast, hdescribes⟩
      obtain ⟨child, line, hchild, hrest, rfl⟩ := List.forall₂_cons_left_iff.mp hdescribes
      cases address with
      | nil => cases hline
      | cons i below =>
        obtain ⟨next, more, hnext, hmore, heq⟩ := Element.lineage?_cons_iff.mp hline
        obtain rfl : child :: line = more := (List.cons.inj heq).2
        obtain ⟨more, heq⟩ := Element.exists_cons_of_lineage? hmore
        obtain rfl : child = next := (List.cons.inj heq).1
        rw [List.getLast?_cons_cons] at hlast
        exact ⟨i, below, child, rfl, hnext, hchild, ih.mpr ⟨line, hmore, hlast, hrest⟩⟩

theorem pairwise_placesBelow (steps : List Step) (e : Element) :
    ((placesBelow steps e).map (·.1)).Pairwise (· < ·) := by
  induction steps generalizing e with
  | nil => exact List.pairwise_singleton _ _
  | cons s rest ih =>
    have hindices : e.children.zipIdx.Pairwise fun c d => c.2 < d.2 := by
      rw [← List.pairwise_map, List.zipIdx_map_snd]
      exact List.pairwise_lt_range'
    have hstarts {c : Element × Nat} {address : List Nat}
        (h : address ∈ (if s.matches c.1 then (placesBelow rest c.1).map fun place => (c.2 :: place.1, place.2)
          else []).map (·.1)) : ∃ below, address = c.2 :: below := by
      split at h
      · obtain ⟨place, -, rfl⟩ := List.mem_map.mp (List.map_map ▸ h)
        exact ⟨place.1, rfl⟩
      · cases h
    rw [placesBelow, List.map_flatMap, List.pairwise_flatMap]
    constructor
    · intro c _
      split
      · rw [List.map_map, List.pairwise_map]
        exact (List.pairwise_map.mp (ih c.1)).imp fun h => List.cons_lt_cons_iff.mpr (.inr ⟨rfl, h⟩)
      · exact .nil
    · refine hindices.imp fun {c d} hcd x hx y hy => ?_
      obtain ⟨below, rfl⟩ := hstarts hx
      obtain ⟨other, rfl⟩ := hstarts hy
      exact List.cons_lt_cons_iff.mpr (.inl hcd)

/-- Places of elements with their addresses are those that the steps describe: all of them in document order, none
twice. -/
structure ArePlacesOf (steps : List Step) (root : Element) (places : List (List Nat × Element)) : Prop where
  ascending : (places.map (·.1)).Pairwise (· < ·)
  mem_iff : ∀ address e, (address, e) ∈ places ↔ ∃ line, root.lineage? address = some line ∧
    line.getLast? = some e ∧ List.Forall₂ Step.Describes steps line

theorem ArePlacesOf.length_eq {steps : List Step} {root e : Element} {places : List (List Nat × Element)}
    {address : List Nat} (h : ArePlacesOf steps root places) (hmem : (address, e) ∈ places) :
    steps.length = address.length + 1 := by
  obtain ⟨line, hline, -, hdescribes⟩ := (h.mem_iff address e).mp hmem
  rw [hdescribes.length_eq, Element.length_of_lineage? hline]

theorem arePlacesOf_cons (first : Step) (rest : List Step) (root : Element) :
    ArePlacesOf (first :: rest) root (if first.matches root then placesBelow rest root else []) := by
  have hroot {line : List Element} : List.Forall₂ Step.Describes (first :: rest) (root :: line) ↔
      first.matches root = true ∧ List.Forall₂ Step.Describes rest line := by
    rw [List.forall₂_cons, first.matches_iff_describes]
  constructor
  · split
    · exact pairwise_placesBelow rest root
    · exact .nil
  · intro address e
    constructor
    · intro hmem
      split at hmem
      · next hfirst =>
        obtain ⟨line, hline, hlast, hrest⟩ := mem_placesBelow_iff.mp hmem
        exact ⟨root :: line, hline, hlast, hroot.mpr ⟨hfirst, hrest⟩⟩
      · cases hmem
    · rintro ⟨line, hline, hlast, hdescribes⟩
      obtain ⟨line, rfl⟩ := Element.exists_cons_of_lineage? hline
      obtain ⟨hfirst, hrest⟩ := hroot.mp hdescribes
      rw [if_pos hfirst]
      exact mem_placesBelow_iff.mpr ⟨line, hline, hlast, hrest⟩

/-- A written path selects the elements whose ancestors the steps describe one by one, as deep as there are steps, each
once and in document order; the first of them is the one that is selected where one is asked for. -/
theorem selectAll_pathOfSteps {steps : List Step} (hne : steps ≠ []) (hplain : ∀ s ∈ steps, s.IsPlain)
    (root : Element) (slashes : Nat) :
    ∃ places, ArePlacesOf steps root places ∧ (∀ place ∈ places, steps.length = place.1.length + 1) ∧
      selectAll root (pathOfSteps slashes steps) = places.map (·.2) ∧
      select? root (pathOfSteps slashes steps) = (places.map (·.2)).head? := by
  have hsteps := stepsOfPath_pathOfSteps hne hplain slashes
  obtain ⟨first, rest, rfl⟩ := List.exists_cons_of_ne_nil hne
  have hplaces := arePlacesOf_cons first rest root
  have hselected : selectAll root (pathOfSteps slashes (first :: rest)) =
      (if first.matches root then placesBelow rest root else []).map (·.2) := by
    simp only [selectAll, hsteps]
    split
    · exact (map_snd_placesBelow rest root).symm
    · rfl
  exact ⟨_, hplaces, fun _ hplace => hplaces.length_eq hplace, hselected, by rw [select?, hselected]⟩

private def referenceTo (package : String) : Element := ⟨"PackageReference", none, [("Include", package)], "", []⟩

private def itemGroup (references : List Element) : Element := ⟨"ItemGroup", none, [], "", references⟩

private def twoItemGroups : Element :=
  ⟨"Project", none, [], "", [itemGroup [referenceTo "X", referenceTo "Y"], itemGroup [referenceTo "X"]]⟩

private def referenceSteps : List Step :=
  [⟨"Project", none⟩, ⟨"ItemGroup", none⟩, ⟨"PackageReference", some ("Include", "X")⟩]

private theorem referenceSteps_isPlain : ∀ s ∈ referenceSteps, s.IsPlain := by
  have hname {name : String} (h : name ≠ "" ∧ '/' ∉ name.toList ∧ '[' ∉ name.toList) : Step.IsPlain ⟨name, none⟩ :=
    Step.isPlain_of_name h.1 h.2.1 h.2.2
  simp only [referenceSteps, List.forall_mem_cons, List.not_mem_nil, false_imp_iff, implies_true, and_true]
  refine ⟨hname (by decide +kernel), hname (by decide +kernel), (hname (by decide +kernel)).withFilter ?_⟩
  constructor <;> simp [isQuote]

/-- Of three references in two groups the path selects the first of either group. -/
theorem selectAll_pathOfSteps_references :
    pathOfSteps 2 referenceSteps = "//Project/ItemGroup/PackageReference[@Include='X']" ∧
      referenceSteps ≠ [] ∧ (∀ s ∈ referenceSteps, s.IsPlain) ∧
      ∃ places : List (List Nat × Element),
        selectAll twoItemGroups (pathOfSteps 2 referenceSteps) = places.map (·.2) ∧
        ([0, 0], referenceTo "X") ∈ places ∧ ([1, 0], referenceTo "X") ∈ places ∧ ∀ e, ([0, 1], e) ∉ places := by
  have hsteps : referenceSteps ≠ [] := List.cons_ne_nil _ _
  obtain ⟨places, hplaces, -, hselected, -⟩ := selectAll_pathOfSteps hsteps referenceSteps_isPlain twoItemGroups 2
  have hmem {address : List Nat} {group : Element}
      (hline : twoItemGroups.lineage? address = some [twoItemGroups, group, referenceTo "X"])
      (hgroup : (⟨"ItemGroup", none⟩ : Step).matches group = true) : (address, referenceTo "X") ∈ places := by
    refine (hplaces.mem_iff _ _).mpr ⟨_, hline, rfl, ?_⟩
    simp only [referenceSteps, List.forall₂_cons, ← Step.matches_iff_describes]
    exact ⟨by decide +kernel, hgroup, by decide +kernel, .nil⟩
  refine ⟨by simp [pathOfSteps, referenceSteps, Step.text], hsteps, referenceSteps_isPlain, places, hselected,
    hmem rfl (by decide +kernel), hmem rfl (by decide +kernel), fun e hplace => ?_⟩
  obtain ⟨line, hline, -, hdescribes⟩ := (hplaces.mem_iff _ _).mp hplace
  cases hline
  simp only [referenceSteps, List.forall₂_cons, ← Step.matches_iff_describes] at hdescribes
  exact absurd hdescribes.2.2.1 (by decide +kernel)

end Project

end RepoConventions
