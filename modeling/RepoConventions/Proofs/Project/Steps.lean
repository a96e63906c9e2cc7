import RepoConventions.Project.ElementPath

/-!
# Steps as paths write them

A step is written as its tag name and, if it asks for an attribute, the filter in brackets with the value between
quotation marks. What is written so is read back, unless a part of a step holds a mark that ends it.
-/

namespace RepoConventions.Project

namespace Step

/-- A step as a path writes it. -/
def text (s : Step) : String :=
  match s.filter with
  | some (key, value) => s.name ++ "[@" ++ key ++ "='" ++ value ++ "']"
  | none => s.name

/-- A filter that can be written: no mark ends the name of the attribute or the value before its end. -/
structure FilterIsPlain (key value : String) : Prop where
  key_slash : '/' ∉ key.toList
  key_equals : '=' ∉ key.toList
  value_slash : '/' ∉ value.toList
  value_head : ∀ c ∈ value.toList.head?, isQuote c = false
  value_last : ∀ c ∈ value.toList.getLast?, isQuote c = false

/-- A step that can be written: it has a tag name, and no mark ends a part of it before its end. -/
structure IsPlain (s : Step) : Prop where
  name_ne : s.name ≠ ""
  name_slash : '/' ∉ s.name.toList
  name_mark : ¬ ['[', '@'] <:+: s.name.toList
  filter : ∀ key value, s.filter = some (key, value) → FilterIsPlain key value

theorem isPlain_of_name {name : String} (hne : name ≠ "") (hslash : '/' ∉ name.toList) (hmark : '[' ∉ name.toList) :
    IsPlain ⟨name, none⟩ where
  name_ne := hne
  name_slash := hslash
  name_mark h := hmark (h.subset List.mem_cons_self)
  filter := nofun

theorem IsPlain.withFilter {name key value : String} (h : IsPlain ⟨name, none⟩) (hfilter : FilterIsPlain key value) :
    IsPlain ⟨name, some (key, value)⟩ where
  name_ne := h.name_ne
  name_slash := h.name_slash
  name_mark := h.name_mark
  filter := by
    rintro _ _ ⟨⟩
    exact hfilter

theorem ofChars_name {name : List Char} (h : ¬ ['[', '@'] <:+: name) : ofChars name = ⟨.ofList name, none⟩ := by
  simp [ofChars, Text.cutAt?_of_not_infix h]

theorem ofChars_filter {name key value : List Char} (hname : ¬ ['[', '@'] <:+: name) (hkey : '=' ∉ key)
    (hhead : ∀ c ∈ value.head?, isQuote c = false) (hlast : ∀ c ∈ value.getLast?, isQuote c = false) :
    ofChars (name ++ '[' :: '@' :: (key ++ '=' :: '\'' :: (value ++ ['\'', ']']))) =
      ⟨.ofList name, some (.ofList key, .ofList value)⟩ := by
  have hbracket (inner : List Char) :
      ((inner ++ ['\'', ']']).reverse.dropWhile fun c => decide (c = ']')).reverse = inner ++ ['\''] := by
    simp
  have hinner : key ++ '=' :: '\'' :: (value ++ ['\'', ']']) = (key ++ '=' :: '\'' :: value) ++ ['\'', ']'] := by simp
  have hfilter : (key ++ '=' :: '\'' :: value) ++ ['\''] = key ++ '=' :: ('\'' :: (value ++ ['\''])) := by simp
  rw [ofChars, Text.cutAt?_pair (by decide) hname, hinner]
  simp only [Option.bind_eq_bind, Option.bind_some, hbracket]
  have hmark : ∀ c ∈ ['\''], isQuote c = true := by simp [isQuote]
  have hvalue : Text.trimBoth isQuote (['\''] ++ (value ++ ['\''])) = value :=
    Text.trimBoth_within hmark hmark hhead hlast
  rw [hfilter, Text.cutAt?_singleton hkey]
  simp only [Option.bind_some]
  rw [← List.singleton_append, hvalue]
  rfl

variable {s : Step}

theorem IsPlain.ofChars_text (h : s.IsPlain) : ofChars s.text.toList = s := by
  obtain ⟨name, filter⟩ := s
  cases filter with
  | none => simpa [text] using ofChars_name h.name_mark
  | some kv =>
    obtain ⟨key, value⟩ := kv
    obtain ⟨-, hkey, -, hhead, hlast⟩ := h.filter key value rfl
    simpa [text] using ofChars_filter h.name_mark hkey hhead hlast

theorem IsPlain.slash_not_mem_text (h : s.IsPlain) : '/' ∉ s.text.toList := by
  obtain ⟨name, filter⟩ := s
  cases filter with
  | none => exact h.name_slash
  | some kv =>
    obtain ⟨key, value⟩ := kv
    obtain ⟨hkey, -, hvalue, -, -⟩ := h.filter key value rfl
    simp [text, h.name_slash, hkey, hvalue]

theorem exists_text_cons (hne : s.name ≠ "") (hslash : '/' ∉ s.name.toList) :
    ∃ c rest, s.text.toList = c :: rest ∧ c ≠ '/' := by
  have hname : s.name.toList ≠ [] := by simpa using hne
  obtain ⟨c, rest, hcons⟩ := List.exists_cons_of_ne_nil hname
  have hc : c ≠ '/' := fun he => hslash (by simp [hcons, he])
  cases hfilter : s.filter with
  | none => exact ⟨c, rest, by simp [text, hfilter, hcons], hc⟩
  | some kv => exact ⟨c, rest ++ ("[@" ++ kv.1 ++ "='" ++ kv.2 ++ "']").toList, by simp [text, hfilter, hcons], hc⟩

end Step

/-- A path of steps, with any number of slashes before the first. -/
def pathOfSteps (slashes : Nat) (steps : List Step) : String :=
  .ofList (List.replicate slashes '/') ++ "/".intercalate (steps.map Step.text)

theorem stepsOfPath_pathOfSteps_eq_flatMap {steps : List Step} (hne : steps ≠ [])
    (hstart : ∀ s ∈ steps.head?, ∃ c rest, s.text.toList = c :: rest ∧ c ≠ '/') (slashes : Nat) :
    stepsOfPath (pathOfSteps slashes steps) =
      steps.flatMap fun s => (Text.splitOn '/' s.text.toList).map Step.ofChars := by
  have hjoined : (pathOfSteps slashes steps).toList =
      List.replicate slashes '/' ++ ['/'].intercalate (steps.map fun s => s.text.toList) := by
    simp [pathOfSteps, String.toList_intercalate, Function.comp_def]
  have hcut : (List.replicate slashes '/' ++ ['/'].intercalate (steps.map fun s => s.text.toList)).dropWhile
      (fun c => decide (c = '/')) = ['/'].intercalate (steps.map fun s => s.text.toList) := by
    rw [List.dropWhile_append_of_pos (by simp)]
    obtain ⟨s, rest, rfl⟩ := List.exists_cons_of_ne_nil hne
    obtain ⟨c, more, hcons, hc⟩ := hstart s rfl
    cases rest <;> simp [hcons, hc, List.intercalate_cons_cons]
  rw [stepsOfPath, hjoined, hcut, Text.splitOn_intercalate_eq_flatMap '/' (by simpa using hne), List.flatMap_map,
    List.map_flatMap]

theorem stepsOfPath_pathOfSteps {steps : List Step} (hne : steps ≠ []) (hplain : ∀ s ∈ steps, s.IsPlain)
    (slashes : Nat) : stepsOfPath (pathOfSteps slashes steps) = steps := by
  have heach : ∀ s ∈ steps, (Text.splitOn '/' s.text.toList).map Step.ofChars = [s] := by
    intro s hs
    rw [Text.splitOn_of_not_mem (hplain s hs).slash_not_mem_text, List.map_singleton, (hplain s hs).ofChars_text]
  have hstart : ∀ s ∈ steps.head?, ∃ c rest, s.text.toList = c :: rest ∧ c ≠ '/' := by
    intro s hs
    have hs := hplain s (List.mem_of_mem_head? hs)
    exact Step.exists_text_cons hs.name_ne hs.name_slash
  rw [stepsOfPath_pathOfSteps_eq_flatMap hne hstart, List.flatMap_def, List.map_congr_left heach, ← List.flatMap_def,
    List.flatMap_singleton']

end RepoConventions.Project
