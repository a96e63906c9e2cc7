import Mathlib.Data.List.Basic
import RepoConventions.Proofs.Project.Steps
import RepoConventions.Project.Document

/-!
# Selecting by the value of an attribute

A filter picks, from the elements that the path without it selects, those whose attribute has the value. This holds of
every value without a slash. A slash ends the step also between the quotation marks: the filter asks for what stands
before it, and what stands behind it names elements further down.
-/

namespace RepoConventions.Project

open Xml (Element)

theorem stepsOfPath_ne_nil (path : String) : stepsOfPath path ≠ [] := by
  simpa [stepsOfPath] using Text.splitOn_ne_nil '/' (path.toList.dropWhile fun c => decide (c = '/'))

/-- An element whose only child is the root, so that the first step of a path is one like the others. -/
def aboveRoot (root : Element) : Element := ⟨"", none, [], "", [root]⟩

theorem descend_nil (steps : List Step) : descend steps [] = [] := by
  induction steps with
  | nil => rfl
  | cons s steps ih => exact ih

theorem selectAll_eq_descend (root : Element) (path : String) :
    selectAll root path = descend (stepsOfPath path) [aboveRoot root] := by
  obtain ⟨first, rest, hsteps⟩ := List.exists_cons_of_ne_nil (stepsOfPath_ne_nil path)
  have hroot : descend (first :: rest) [aboveRoot root] = descend rest ([root].filter first.matches) := by
    simp [descend, aboveRoot]
  rw [selectAll, hsteps, hroot]
  by_cases h : first.matches root = true
  · simp [h]
  · simp [h, descend_nil]

theorem descend_append (steps more : List Step) (elements : List Element) :
    descend (steps ++ more) elements = descend more (descend steps elements) :=
  List.foldl_append

/-- A step that asks for a value picks from what the step without it leads to. -/
theorem descend_filter (name key value : String) (elements : List Element) :
    descend [⟨name, some (key, value)⟩] elements =
      (descend [⟨name, none⟩] elements).filter fun e => e.attribute? key = some value := by
  simp only [descend, List.foldl_cons, List.foldl_nil, List.filter_filter]
  apply List.filter_congr
  intro e _
  rw [Bool.eq_iff_iff]
  simp [Step.matches, and_comm, and_assoc]

def selectedWith (root : Element) (path key value : String) : List Element :=
  (selectAll root path).filter fun e => e.attribute? key = some value

theorem selectAll_of_steps {path filtered : String} {above behind : List Step} {name key value : String}
    (hpath : stepsOfPath path = above ++ [⟨name, none⟩])
    (hfiltered : stepsOfPath filtered = above ++ ⟨name, some (key, value)⟩ :: behind) (root : Element) :
    selectAll root filtered = descend behind (selectedWith root path key value) := by
  rw [selectedWith, selectAll_eq_descend, selectAll_eq_descend, hpath, hfiltered, List.append_cons, descend_append,
    descend_append, descend_append, descend_filter]

/-! Values with a slash -/

/-- What a filter asks for when a slash follows: the text up to the slash, without brackets at its end. -/
def valueBefore (before : List Char) : List Char := (before.reverse.dropWhile (· = ']')).reverse

/-- The steps that stand behind a slash in a value; what closes the filter belongs to the last of them. -/
def stepsBehind (after : List Char) : List Step := (Text.splitOn '/' (after ++ ['\'', ']'])).map Step.ofChars

theorem valueBefore_subset (before : List Char) : valueBefore before ⊆ before := by
  intro c hc
  have hmem : c ∈ before.reverse.dropWhile (· = ']') := by simpa [valueBefore] using hc
  simpa using (List.dropWhile_sublist _).mem hmem

theorem ofChars_unclosed {name key before : List Char} (hname : ¬ ['[', '@'] <:+: name) (hkey : '=' ∉ key)
    (hquotes : ∀ c ∈ before, isQuote c = false) :
    Step.ofChars (name ++ '[' :: '@' :: (key ++ '=' :: '\'' :: before)) =
      ⟨.ofList name, some (.ofList key, .ofList (valueBefore before))⟩ := by
  have hend : ((key ++ '=' :: '\'' :: before).reverse.dropWhile fun c => decide (c = ']')).reverse =
      key ++ '=' :: '\'' :: valueBefore before := by
    have hreverse : (key ++ '=' :: '\'' :: before).reverse = before.reverse ++ '\'' :: '=' :: key.reverse := by simp
    rw [hreverse, List.dropWhile_append]
    split
    · next hall =>
      have hnone : before.reverse.dropWhile (fun c => decide (c = ']')) = [] := List.isEmpty_iff.mp hall
      simp [valueBefore, hnone]
    · simp [valueBefore]
  have hinside : ∀ c ∈ valueBefore before, isQuote c = false := fun c hc => hquotes c (valueBefore_subset before hc)
  have hvalue : Text.trimBoth isQuote (['\''] ++ (valueBefore before ++ [])) = valueBefore before := by
    apply Text.trimBoth_within
    · simp [isQuote]
    · simp
    · intro c hc
      exact hinside c (List.mem_of_mem_head? hc)
    · intro c hc
      exact hinside c (List.mem_of_getLast? hc)
  rw [Step.ofChars, Text.cutAt?_pair (by decide) hname]
  simp only [Option.bind_eq_bind, Option.bind_some, hend]
  rw [Text.cutAt?_singleton hkey]
  simp only [Option.bind_some]
  rw [List.append_nil, List.singleton_append] at hvalue
  rw [hvalue]
  rfl

theorem stepsOfPath_of_slash {above : List Step} (habove : ∀ s ∈ above, s.IsPlain) {name key value : String}
    (hname : Step.IsPlain ⟨name, none⟩) (hslash : '/' ∉ key.toList) (hequals : '=' ∉ key.toList)
    (hquotes : ∀ c ∈ value.toList, isQuote c = false) {before after : List Char}
    (hvalue : value.toList = before ++ '/' :: after) (hbefore : '/' ∉ before) (slashes : Nat) :
    stepsOfPath (pathOfSteps slashes (above ++ [⟨name, some (key, value)⟩])) =
      above ++ ⟨name, some (key, .ofList (valueBefore before))⟩ :: stepsBehind after := by
  have hstart : ∀ s ∈ (above ++ [(⟨name, some (key, value)⟩ : Step)]).head?,
      ∃ c rest, s.text.toList = c :: rest ∧ c ≠ '/' := by
    intro s hs
    have hmem := List.mem_of_mem_head? hs
    rcases List.mem_append.mp hmem with hmem | hmem
    · exact Step.exists_text_cons (habove s hmem).name_ne (habove s hmem).name_slash
    · rw [List.mem_singleton.mp hmem]
      exact Step.exists_text_cons hname.name_ne hname.name_slash
  have heach : ∀ s ∈ above, (Text.splitOn '/' s.text.toList).map Step.ofChars = [s] := by
    intro s hs
    rw [Text.splitOn_of_not_mem (habove s hs).slash_not_mem_text, List.map_singleton, (habove s hs).ofChars_text]
  have habove' : above.flatMap (fun s => (Text.splitOn '/' s.text.toList).map Step.ofChars) = above := by
    rw [List.flatMap_congr heach, List.flatMap_singleton']
  have htext : (Step.text ⟨name, some (key, value)⟩).toList =
      (name.toList ++ '[' :: '@' :: (key.toList ++ '=' :: '\'' :: before)) ++ '/' :: (after ++ ['\'', ']']) := by
    simp [Step.text, hvalue]
  have hfirst : '/' ∉ name.toList ++ '[' :: '@' :: (key.toList ++ '=' :: '\'' :: before) := by
    have hnameSlash : '/' ∉ name.toList := hname.name_slash
    simp [hnameSlash, hslash, hbefore]
  have hinside : ∀ c ∈ before, isQuote c = false := by
    intro c hc
    apply hquotes
    simp [hvalue, hc]
  rw [stepsOfPath_pathOfSteps_eq_flatMap (by simp) hstart, List.flatMap_append, habove', List.flatMap_singleton, htext,
    Text.splitOn_append_cons, Text.splitOn_of_not_mem hfirst, List.singleton_append, List.map_cons,
    ofChars_unclosed hname.name_mark hequals hinside]
  simp [stepsBehind]

/-! A tree that a path leads through -/

/-- Elements one below the other, as the steps describe them, with an element below the last. -/
def lineTo (e : Element) : List Step → Element
  | [] => e
  | s :: rest => ⟨s.name, none, s.filter.toList, "", [lineTo e rest]⟩

theorem descend_lineTo (last : Step) (e : Element) (above : List Step) (x : Element)
    (hx : x.children = [lineTo e above]) :
    descend (above ++ [last]) [x] = [e].filter last.matches := by
  induction above generalizing x with
  | nil => simp [descend, hx, lineTo]
  | cons s rest ih =>
    have hmatches : s.matches (lineTo e (s :: rest)) = true := by
      obtain ⟨name, _ | ⟨key, value⟩⟩ := s <;> simp [Step.matches, lineTo, Element.attribute?]
    have hstep : descend (s :: rest ++ [last]) [x] = descend (rest ++ [last]) [lineTo e (s :: rest)] := by
      simp [descend, hx, hmatches]
    rw [hstep]
    exact ih _ rfl

theorem descend_childless {steps : List Step} (hne : steps ≠ []) {e : Element} (he : e.children = []) :
    descend steps [e] = [] := by
  obtain ⟨s, rest, rfl⟩ := List.exists_cons_of_ne_nil hne
  have hnone : descend (s :: rest) [e] = descend rest [] := by simp [descend, he]
  rw [hnone, descend_nil]

theorem stepsBehind_ne_nil (after : List Char) : stepsBehind after ≠ [] := by
  simpa [stepsBehind] using Text.splitOn_ne_nil '/' (after ++ ['\'', ']'])

section

variable {above : List Step} {name key value : String}

theorem forall_isPlain_concat (habove : ∀ s ∈ above, s.IsPlain) {last : Step} (hlast : last.IsPlain) :
    ∀ s ∈ above ++ [last], s.IsPlain :=
  List.forall_mem_append.mpr ⟨habove, List.forall_mem_singleton.mpr hlast⟩

theorem selectAll_lineTo (habove : ∀ s ∈ above, s.IsPlain) (hname : Step.IsPlain ⟨name, none⟩) (slashes : Nat)
    {e : Element} (huri : e.namespaceUri = none) (he : e.name = name) :
    selectAll (lineTo e above) (pathOfSteps slashes (above ++ [⟨name, none⟩])) = [e] := by
  rw [selectAll_eq_descend, stepsOfPath_pathOfSteps (by simp) (forall_isPlain_concat habove hname),
    descend_lineTo _ e above _ rfl]
  simp [Step.matches, huri, he]

/-- A filter on a value without slashes and quotation marks picks the elements whose attribute has the value. -/
theorem selectAll_of_not_mem (habove : ∀ s ∈ above, s.IsPlain) (hname : Step.IsPlain ⟨name, none⟩)
    (hslash : '/' ∉ key.toList) (hequals : '=' ∉ key.toList) (hquotes : ∀ c ∈ value.toList, isQuote c = false)
    (hvalue : '/' ∉ value.toList) (slashes : Nat) (root : Element) :
    selectAll root (pathOfSteps slashes (above ++ [⟨name, some (key, value)⟩])) =
      selectedWith root (pathOfSteps slashes (above ++ [⟨name, none⟩])) key value := by
  have hfilter : Step.FilterIsPlain key value := by
    constructor
    · exact hslash
    · exact hequals
    · exact hvalue
    · intro c hc
      exact hquotes c (List.mem_of_mem_head? hc)
    · intro c hc
      exact hquotes c (List.mem_of_getLast? hc)
  have hpath : stepsOfPath (pathOfSteps slashes (above ++ [⟨name, none⟩])) = above ++ [⟨name, none⟩] :=
    stepsOfPath_pathOfSteps (by simp) (forall_isPlain_concat habove hname) slashes
  have hfiltered : stepsOfPath (pathOfSteps slashes (above ++ [⟨name, some (key, value)⟩])) =
      above ++ [⟨name, some (key, value)⟩] :=
    stepsOfPath_pathOfSteps (by simp) (forall_isPlain_concat habove (hname.withFilter hfilter)) slashes
  exact selectAll_of_steps hpath hfiltered root

/-- A filter on a value with a slash asks for what stands before the slash, and what stands behind it leads on. -/
theorem selectAll_of_slash (habove : ∀ s ∈ above, s.IsPlain) (hname : Step.IsPlain ⟨name, none⟩)
    (hslash : '/' ∉ key.toList) (hequals : '=' ∉ key.toList) (hquotes : ∀ c ∈ value.toList, isQuote c = false)
    {before after : List Char} (hvalue : value.toList = before ++ '/' :: after) (hbefore : '/' ∉ before)
    (slashes : Nat) (root : Element) :
    selectAll root (pathOfSteps slashes (above ++ [⟨name, some (key, value)⟩])) =
      descend (stepsBehind after)
        (selectedWith root (pathOfSteps slashes (above ++ [⟨name, none⟩])) key (.ofList (valueBefore before))) := by
  have hpath : stepsOfPath (pathOfSteps slashes (above ++ [⟨name, none⟩])) = above ++ [⟨name, none⟩] :=
    stepsOfPath_pathOfSteps (by simp) (forall_isPlain_concat habove hname) slashes
  apply selectAll_of_steps hpath
  exact stepsOfPath_of_slash habove hname hslash hequals hquotes hvalue hbefore slashes

/-- A path with a filter on a value without quotation marks selects, in every tree, the elements at the path whose
attribute has the value, exactly if the value has no slash. Otherwise it selects what the text behind the slash names
below the elements whose attribute is the text before it. -/
theorem selectAll_filtered (habove : ∀ s ∈ above, s.IsPlain) (hname : Step.IsPlain ⟨name, none⟩)
    (hslash : '/' ∉ key.toList) (hequals : '=' ∉ key.toList) (hquotes : ∀ c ∈ value.toList, isQuote c = false)
    (slashes : Nat) :
    let path := pathOfSteps slashes (above ++ [⟨name, none⟩])
    let filtered := pathOfSteps slashes (above ++ [⟨name, some (key, value)⟩])
    ((∀ root, selectAll root filtered = selectedWith root path key value) ↔ '/' ∉ value.toList) ∧
      ∀ before after, value.toList = before ++ '/' :: after → '/' ∉ before → ∀ root,
        selectAll root filtered =
          descend (stepsBehind after) (selectedWith root path key (.ofList (valueBefore before))) := by
  intro path filtered
  have hcut : ∀ before after, value.toList = before ++ '/' :: after → '/' ∉ before → ∀ root, selectAll root filtered =
      descend (stepsBehind after) (selectedWith root path key (.ofList (valueBefore before))) :=
    fun _ _ hvalue hbefore => selectAll_of_slash habove hname hslash hequals hquotes hvalue hbefore slashes
  refine ⟨⟨fun hall hmem => ?_, fun hvalue => ?_⟩, hcut⟩
  · -- one line of elements, at whose end the attribute has the value and nothing is below
    let e : Element := ⟨name, none, [(key, value)], "", []⟩
    have hline : selectAll (lineTo e above) path = [e] := selectAll_lineTo habove hname slashes rfl rfl
    have hwith : selectedWith (lineTo e above) path key value = [e] := by
      simp [selectedWith, hline, e, Element.attribute?]
    obtain ⟨before, after, hvalue, hbefore⟩ := List.eq_append_cons_of_mem hmem
    have hnone : selectAll (lineTo e above) filtered = [] := by
      rw [hcut before after hvalue hbefore, selectedWith, hline]
      cases hhas : decide (e.attribute? key = some (.ofList (valueBefore before))) with
      | true => simp [hhas, descend_childless (stepsBehind_ne_nil after) (show e.children = [] from rfl)]
      | false => simp [hhas, descend_nil]
    have hempty := hall (lineTo e above)
    rw [hnone, hwith] at hempty
    cases hempty
  · exact selectAll_of_not_mem habove hname hslash hequals hquotes hvalue slashes

end

private def groupSteps : List Step := [⟨"Project", none⟩, ⟨"ItemGroup", none⟩]

private theorem groupSteps_isPlain : ∀ s ∈ groupSteps, s.IsPlain := by
  simp only [groupSteps, List.forall_mem_cons, List.not_mem_nil, false_imp_iff, implies_true, and_true]
  constructor
  · apply Step.isPlain_of_name <;> decide +kernel
  · apply Step.isPlain_of_name <;> decide +kernel

/-- Brackets and equals signs in a value do no harm, a slash does. -/
theorem selectAll_filtered_compile :
    (∀ s ∈ groupSteps, s.IsPlain) ∧ Step.IsPlain ⟨"Compile", none⟩ ∧
      (∀ root, selectAll root "Project/ItemGroup/Compile[@Include='[a]=b]']" =
        selectedWith root "Project/ItemGroup/Compile" "Include" "[a]=b]") ∧
      ¬ ∀ root, selectAll root "Project/ItemGroup/Compile[@Include='src/A.cs']" =
        selectedWith root "Project/ItemGroup/Compile" "Include" "src/A.cs" := by
  have hname : Step.IsPlain ⟨"Compile", none⟩ := by apply Step.isPlain_of_name <;> decide +kernel
  have hslash : '/' ∉ "Include".toList := by decide +kernel
  have hequals : '=' ∉ "Include".toList := by decide +kernel
  have hbrackets := (selectAll_filtered groupSteps_isPlain hname hslash hequals
    (by simp [isQuote] : ∀ c ∈ "[a]=b]".toList, isQuote c = false) 0).1
  have hfile := (selectAll_filtered groupSteps_isPlain hname hslash hequals
    (by simp [isQuote] : ∀ c ∈ "src/A.cs".toList, isQuote c = false) 0).1
  refine ⟨groupSteps_isPlain, hname, ?_, ?_⟩
  · exact hbrackets.mpr (by decide +kernel)
  · intro hall
    exact absurd (hfile.mp hall) (by decide +kernel)

private def compiles : Element :=
  ⟨"Project", none, [], "", [⟨"ItemGroup", none, [], "", [⟨"Compile", none, [("Include", "src/A.cs")], "", []⟩]⟩]⟩

/-- The element whose attribute is `src/A.cs` is there, and a filter on that value does not select it. -/
theorem selectAll_misses_slash :
    (selectedWith compiles "Project/ItemGroup/Compile" "Include" "src/A.cs").length = 1 ∧
      (selectAll compiles "Project/ItemGroup/Compile[@Include='src/A.cs']").length = 0 := by
  decide +kernel

/-- A reference is found by the name of its package if that has neither slashes nor quotation marks. -/
theorem Document.hasPackageReference_iff (d : Document) {package : String} (hslash : '/' ∉ package.toList)
    (hquotes : ∀ c ∈ package.toList, isQuote c = false) :
    d.hasPackageReference package = true ↔
      ∃ e ∈ selectAll d.root "Project/ItemGroup/PackageReference", e.attribute? "Include" = some package := by
  have hname : Step.IsPlain ⟨"PackageReference", none⟩ := by apply Step.isPlain_of_name <;> decide +kernel
  have hpath : pathOfSteps 0 (groupSteps ++ [⟨"PackageReference", none⟩]) = "Project/ItemGroup/PackageReference" := by
    simp [pathOfSteps, groupSteps, Step.text]
  have hfiltered : pathOfSteps 0 (groupSteps ++ [⟨"PackageReference", some ("Include", package)⟩]) =
      "Project/ItemGroup/PackageReference[@Include='" ++ package ++ "']" := by
    apply String.toList_injective
    simp [pathOfSteps, groupSteps, Step.text]
  have hselected := selectAll_of_not_mem groupSteps_isPlain hname (by decide +kernel : '/' ∉ "Include".toList)
    (by decide +kernel : '=' ∉ "Include".toList) hquotes hslash 0 d.root
  rw [hpath, hfiltered] at hselected
  rw [Document.hasPackageReference, select?, hselected]
  simp [selectedWith]

end RepoConventions.Project
