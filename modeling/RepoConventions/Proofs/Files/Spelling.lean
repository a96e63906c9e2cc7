import Mathlib.Logic.Relation
import RepoConventions.Proofs.Files.Discovery

/-!
# Spellings of a path

The root of a run is written from the top, with one slash before each part. Its parts are those of the path it was
given by, after those of the working directory when that path is relative; `..` is a part like any other. Two paths
give the same root exactly if they differ in repeated or last slashes, in `.`, or in being relative.
-/

namespace RepoConventions.Files.Path

/-- A segment counts unless it is empty or `.`. -/
def counts (segment : String) : Bool := segment ≠ "" && segment ≠ "."

def parts (path : String) : List String := ((segments path).map String.ofList).filter counts

/-- The parts on the way to a path from the top, which for a relative path leads through a directory. -/
def partsFrom (directory path : String) : List String :=
  (if isAbsolute path then [] else parts directory) ++ parts path

def IsPart (s : String) : Prop := s ≠ "" ∧ s ≠ "." ∧ '/' ∉ s.toList

/-- The path from the top with a slash before each part and nothing else. -/
def fromTop (ps : List String) : String := "/" ++ "/".intercalate ps

/-- One change of spelling, for paths that are relative to a directory. What is left out is an empty segment, so a
repeated slash or one at the end, or a `.`; no change makes a relative path absolute but that through the directory. -/
inductive Respells (directory : String) : String → String → Prop
  | between (before after : String) {s : String} (hs : counts s = false) :
      Respells directory (before ++ "/" ++ s ++ "/" ++ after) (before ++ "/" ++ after)
  | last {path s : String} (hpath : path ≠ "") (hs : counts s = false) : Respells directory (path ++ "/" ++ s) path
  | first {path : String} (hpath : isAbsolute path = false) : Respells directory ("./" ++ path) path
  | relative {path : String} (hpath : isAbsolute path = false) : Respells directory (directory ++ "/" ++ path) path

/-- Spelled alike but for such changes, there and back. -/
def Respelled (directory : String) : String → String → Prop := Relation.EqvGen (Respells directory)

/-- What a root is like that a path gives from a working directory. It is written with nothing but its parts, so that it
has no empty segment and no `.`, and taken from anywhere it is its own root. -/
structure IsRootOf (directory path root : String) : Prop where
  isAbsolute : isAbsolute root = true
  written : root = fromTop (parts root)
  isPart : ∀ s ∈ parts root, IsPart s
  parts_eq : parts root = partsFrom directory path
  fixed : ∀ elsewhere, absolute elsewhere root = root

/-! Parts -/

theorem isPart_iff (s : String) : IsPart s ↔ counts s = true ∧ '/' ∉ s.toList := by
  simp [IsPart, counts, and_assoc]

theorem exists_of_isAbsolute {path : String} (hpath : isAbsolute path = true) : ∃ text, path = "" ++ "/" ++ text := by
  obtain ⟨rest, hrest⟩ := List.head?_eq_some_iff.mp (by simpa [isAbsolute] using hpath)
  refine ⟨.ofList rest, String.toList_injective ?_⟩
  simp [hrest]

@[simp] theorem parts_append_slash (before after : String) :
    parts (before ++ "/" ++ after) = parts before ++ parts after := by
  rw [parts, segments_append_slash, List.map_append, List.filter_append, parts, parts]

@[simp] theorem parts_empty : parts "" = [] := by decide

theorem parts_of_not_counts {s : String} (hs : counts s = false) : parts s = [] := by
  have hcases : s = "" ∨ s = "." := by simpa [counts, Decidable.or_iff_not_imp_left] using hs
  rcases hcases with rfl | rfl <;> decide

@[simp] theorem parts_slash (path : String) : parts (path ++ "/") = parts path := by
  simpa using parts_append_slash path ""

theorem isPart_of_mem_parts {path s : String} (h : s ∈ parts path) : IsPart s := by
  obtain ⟨hmem, hcounts⟩ := List.mem_filter.mp h
  obtain ⟨segment, hsegment, rfl⟩ := List.mem_map.mp hmem
  refine (isPart_iff _).mpr ⟨hcounts, ?_⟩
  rw [String.toList_ofList]
  exact Text.not_mem_of_mem_splitOn hsegment

theorem isPart_of_mem_partsFrom {directory path s : String} (h : s ∈ partsFrom directory path) : IsPart s := by
  rw [partsFrom, List.mem_append] at h
  rcases h with h | h
  · split at h
    · cases h
    · exact isPart_of_mem_parts h
  · exact isPart_of_mem_parts h

/-! Texts from the top -/

def behindSlashes : List String → String
  | [] => ""
  | s :: rest => "/" ++ s ++ behindSlashes rest

theorem fromTop_cons (s : String) (rest : List String) : fromTop (s :: rest) = "/" ++ s ++ behindSlashes rest := by
  induction rest generalizing s with
  | nil => simp [fromTop, behindSlashes]
  | cons next rest ih =>
    have hnext : "/" ++ "/".intercalate (next :: rest) = behindSlashes (next :: rest) := ih next
    rw [fromTop, String.intercalate_cons_of_ne_nil (List.cons_ne_nil next rest), ← hnext]
    simp [String.append_assoc]

theorem behindSlashes_segments (text : String) :
    behindSlashes ((segments text).map String.ofList) = "/" ++ text := by
  have hchars (cs : List Char) :
      (behindSlashes ((Text.splitOn '/' cs).map String.ofList)).toList = '/' :: cs := by
    induction cs with
    | nil => rfl
    | cons c rest ih =>
      by_cases hc : c = '/'
      · simp [Text.splitOn, hc, behindSlashes, ih]
      · cases hr : Text.splitOn '/' rest with
        | nil => exact absurd hr (Text.splitOn_ne_nil '/' rest)
        | cons first others =>
          rw [hr] at ih
          simp_all [Text.splitOn, behindSlashes]
  apply String.toList_injective
  rw [segments, hchars]
  simp

theorem isAbsolute_fromTop (ps : List String) : isAbsolute (fromTop ps) = true := by
  simp [isAbsolute, fromTop]

theorem parts_fromTop {ps : List String} (hps : ∀ s ∈ ps, IsPart s) :
    parts (fromTop ps) = ps := by
  have hempty : fromTop ps = "" ++ "/" ++ "/".intercalate ps := by simp [fromTop]
  rw [hempty, parts_append_slash, parts_empty, List.nil_append]
  cases ps with
  | nil => rfl
  | cons s rest =>
    have hsegments : segments ("/".intercalate (s :: rest)) = (s :: rest).map String.toList := by
      rw [segments, String.toList_intercalate]
      refine Text.splitOn_intercalate (by simp) fun segment hsegment => ?_
      obtain ⟨part, hpart, rfl⟩ := List.mem_map.mp hsegment
      exact (hps part hpart).2.2
    have htexts : ((s :: rest).map String.toList).map String.ofList = s :: rest := by simp
    rw [parts, hsegments, htexts]
    exact List.filter_eq_self.mpr fun part hpart => ((isPart_iff part).mp (hps part hpart)).1

/-! Joining -/

theorem IsPart.isAbsolute {s : String} (hs : IsPart s) : isAbsolute s = false := by
  rw [Path.isAbsolute, decide_eq_false_iff_not]
  exact fun hhead => hs.2.2 (List.mem_of_head? hhead)

theorem foldl_join {base : String} (hbase : base ≠ "") (hlast : endsWithSlash base = false) {ps : List String}
    (hps : ∀ s ∈ ps, IsPart s) : ps.foldl join base = base ++ behindSlashes ps := by
  induction ps generalizing base with
  | nil => simp [behindSlashes]
  | cons s rest ih =>
    obtain ⟨hs, hrest⟩ := List.forall_mem_cons.mp hps
    obtain ⟨before, rfl, -⟩ | ⟨-, hjoin⟩ := join_cases hbase hs.isAbsolute
    · simp [endsWithSlash] at hlast
    · rw [List.foldl_cons, hjoin, ih _ (endsWithSlash_append hs.1 hs.2.2 _) hrest]
      · simp [behindSlashes, String.append_assoc]
      · simp

/-! Components -/

theorem component?_text (segment : List Char) :
    (component? segment).map Component.text = if counts (.ofList segment) then some (.ofList segment) else none := by
  unfold component?
  split
  · rfl
  · rfl
  · rfl
  · next hempty hhere _ =>
    have hdot : String.ofList segment ≠ "." := fun he => hhere (by simpa using congrArg String.toList he)
    have hne : segment ≠ [] := hempty
    simp [counts, Component.text, hne, hdot]

theorem component?_ne_here (segment : List Char) : component? segment ≠ some .here := by
  unfold component?
  split <;> simp

theorem text_filterMap_component? (segments : List (List Char)) :
    ((segments.filterMap component?).filter (· ≠ .here)).map Component.text =
      (segments.map String.ofList).filter counts := by
  induction segments with
  | nil => rfl
  | cons segment rest ih =>
    have htext := component?_text segment
    cases hcomponent : component? segment with
    | none =>
      rw [hcomponent] at htext
      simp_all
    | some c =>
      have hhere : c ≠ .here := fun he => component?_ne_here segment (hcomponent.trans (congrArg some he))
      rw [hcomponent] at htext
      simp_all

theorem text_components {path : String} (hpath : isAbsolute path = true) :
    ((components path).filter (· ≠ .here)).map Component.text = "/" :: parts path := by
  obtain ⟨text, rfl⟩ := exists_of_isAbsolute hpath
  have hsegments : segments ("" ++ "/" ++ text) = [] :: segments text := segments_append_slash "" text
  have hcomponents : components ("" ++ "/" ++ text) = .top :: (segments text).filterMap component? := by
    simp only [components, hsegments, firstComponent?, hpath, if_true, Option.toList_some, List.singleton_append]
  rw [hcomponents, parts_append_slash, parts_empty, List.nil_append, parts, ← text_filterMap_component?]
  rfl

/-! The root -/

theorem ofComponents_eq {components : List Component} {ps : List String}
    (htext : components.map Component.text = "/" :: ps) (hps : ∀ s ∈ ps, IsPart s) :
    ofComponents components = fromTop ps := by
  have hfold : ofComponents components = ("/" :: ps).foldl join "" := by rw [ofComponents, ← htext, List.foldl_map]
  rw [hfold]
  cases ps with
  | nil => rfl
  | cons s rest =>
    obtain ⟨hs, hrest⟩ := List.forall_mem_cons.mp hps
    have hfirst : join (join "" "/") s = "/" ++ s := by
      have htop : join "" "/" = "/" := by decide
      rw [htop, join, if_neg (by simp [hs.isAbsolute])]
      simp
    rw [List.foldl_cons, List.foldl_cons, hfirst, foldl_join (by simp) (endsWithSlash_append hs.1 hs.2.2 _) hrest,
      fromTop_cons]

theorem absolute_of_isAbsolute_join {directory path : String} (h : isAbsolute (join directory path) = true) :
    absolute directory path = fromTop (parts (join directory path)) :=
  ofComponents_eq (text_components h) fun _ => isPart_of_mem_parts

theorem absolute_fromTop (directory : String) {ps : List String} (hps : ∀ s ∈ ps, IsPart s) :
    absolute directory (fromTop ps) = fromTop ps := by
  have hjoin : join directory (fromTop ps) = fromTop ps := by rw [join, if_pos (isAbsolute_fromTop ps)]
  rw [absolute_of_isAbsolute_join (by rw [hjoin]; exact isAbsolute_fromTop ps), hjoin, parts_fromTop hps]

/-! Spellings -/

section Respelling

variable (directory : String)

theorem respelled_of_not_counts {before s : String} (hbefore : before ≠ "") (hs : counts s = false)
    (rest : List String) :
    Respelled directory (before ++ "/" ++ s ++ behindSlashes rest) (before ++ behindSlashes rest) := by
  cases rest with
  | nil =>
    rw [behindSlashes, String.append_empty, String.append_empty]
    exact .rel _ _ (.last hbefore hs)
  | cons next rest =>
    have hslash (text : String) :
        text ++ behindSlashes (next :: rest) = text ++ "/" ++ (next ++ behindSlashes rest) := by
      simp [behindSlashes, String.append_assoc]
    rw [hslash, hslash]
    exact .rel _ _ (.between before _ hs)

theorem respelled_filter {before : String} (hbefore : before ≠ "") (segments : List String) :
    Respelled directory (before ++ behindSlashes segments) (before ++ behindSlashes (segments.filter counts)) := by
  induction segments generalizing before with
  | nil => exact .refl _
  | cons s rest ih =>
    have hcons (segments : List String) :
        before ++ behindSlashes (s :: segments) = before ++ "/" ++ s ++ behindSlashes segments := by
      simp [behindSlashes, String.append_assoc]
    cases hs : counts s with
    | true =>
      rw [List.filter_cons_of_pos hs, hcons, hcons]
      exact ih (by simp)
    | false =>
      rw [List.filter_cons_of_neg (by simp [hs]), hcons]
      exact .trans _ _ _ (respelled_of_not_counts directory hbefore hs rest) (ih hbefore)

theorem respelled_slash {path : String} (hpath : isAbsolute path = true) :
    Respelled directory ("/" ++ path) path := by
  obtain ⟨text, rfl⟩ := exists_of_isAbsolute hpath
  have htext : "/" ++ ("" ++ "/" ++ text) = "" ++ "/" ++ "" ++ "/" ++ text := by
    apply String.toList_injective
    simp
  rw [htext]
  exact .rel _ _ (.between "" text rfl)

/-- An absolute path and the path from the top through its parts are spellings of one another. -/
theorem respelled_fromTop {path : String} (hpath : isAbsolute path = true) :
    Respelled directory path (fromTop (parts path)) := by
  -- with a slash before it no segment is the first one, so that all that do not count can be left out
  have hdoubled : Respelled directory path ("/" ++ path) := .symm _ _ (respelled_slash directory hpath)
  obtain ⟨text, rfl⟩ := exists_of_isAbsolute hpath
  have hkept : Respelled directory ("/" ++ ("" ++ "/" ++ text)) ("/" ++ behindSlashes (parts ("" ++ "/" ++ text))) := by
    have hslash : "" ++ "/" ++ text = behindSlashes ((segments text).map String.ofList) := by
      rw [behindSlashes_segments, String.empty_append]
    rw [parts_append_slash, parts_empty, List.nil_append, hslash]
    exact respelled_filter directory (by simp) _
  refine .trans _ _ _ hdoubled (.trans _ _ _ hkept ?_)
  cases hparts : parts ("" ++ "/" ++ text) with
  | nil => exact .refl _
  | cons s rest =>
    have hcons : behindSlashes (s :: rest) = fromTop (s :: rest) := by rw [fromTop_cons, behindSlashes]
    rw [hcons]
    exact respelled_slash directory (isAbsolute_fromTop _)

end Respelling

section Root

variable {directory : String} (hdirectory : isAbsolute directory = true)

include hdirectory

theorem ne_empty_of_isAbsolute : directory ≠ "" := by
  rintro rfl
  cases hdirectory

theorem isAbsolute_append_slash_of_isAbsolute (path : String) : isAbsolute (directory ++ "/" ++ path) = true := by
  rw [isAbsolute_append_slash, hdirectory, Bool.or_true]

theorem isAbsolute_join_of_isAbsolute (path : String) : isAbsolute (join directory path) = true := by
  cases hpath : isAbsolute path with
  | true => rwa [join, if_pos hpath]
  | false => rw [isAbsolute_join (ne_empty_of_isAbsolute hdirectory) hpath, hdirectory]

theorem parts_join (path : String) : parts (join directory path) = partsFrom directory path := by
  cases hpath : isAbsolute path with
  | true => simp [join, partsFrom, hpath]
  | false =>
    rw [partsFrom, hpath]
    obtain ⟨before, rfl, hjoin⟩ | ⟨-, hjoin⟩ := join_cases (ne_empty_of_isAbsolute hdirectory) hpath
    · simp [hjoin]
    · simp [hjoin]

theorem absolute_eq (path : String) : absolute directory path = fromTop (partsFrom directory path) := by
  rw [absolute_of_isAbsolute_join (isAbsolute_join_of_isAbsolute hdirectory path), parts_join hdirectory]

theorem isRootOf_absolute (path : String) : IsRootOf directory path (absolute directory path) := by
  rw [absolute_eq hdirectory]
  have hps : ∀ s ∈ partsFrom directory path, IsPart s := fun _ => isPart_of_mem_partsFrom
  have hparts := parts_fromTop hps
  have hfixed (elsewhere : String) := absolute_fromTop elsewhere hps
  exact ⟨isAbsolute_fromTop _, by rw [hparts], by rwa [hparts], hparts, hfixed⟩

theorem partsFrom_of_respells {path other : String} (h : Respells directory path other) :
    partsFrom directory path = partsFrom directory other := by
  cases h with
  | between before after hs => simp [partsFrom, isAbsolute_append_slash, parts_of_not_counts hs]
  | last hother hs => simp [partsFrom, isAbsolute_append_slash, hother, parts_of_not_counts hs]
  | first hother =>
    have htext : "./" ++ other = "." ++ "/" ++ other := rfl
    have hrelative : isAbsolute "." = false := rfl
    have hhere : parts "." = [] := parts_of_not_counts rfl
    simp [htext, partsFrom, isAbsolute_append_slash, hother, hrelative, hhere]
  | relative hother => simp [partsFrom, isAbsolute_append_slash_of_isAbsolute hdirectory, hother]

theorem partsFrom_of_respelled {path other : String} (h : Respelled directory path other) :
    partsFrom directory path = partsFrom directory other := by
  induction h with
  | rel _ _ hrespells => exact partsFrom_of_respells hdirectory hrespells
  | refl _ => rfl
  | symm _ _ _ ih => exact ih.symm
  | trans _ _ _ _ _ ih₁ ih₂ => exact ih₁.trans ih₂

theorem respelled_absolute (path : String) : Respelled directory path (absolute directory path) := by
  rw [absolute_eq hdirectory]
  cases hpath : isAbsolute path with
  | true => simpa [partsFrom, hpath] using respelled_fromTop directory hpath
  | false =>
    have hbelow : Respelled directory path (directory ++ "/" ++ path) := .symm _ _ (.rel _ _ (.relative hpath))
    have hroot := respelled_fromTop directory (isAbsolute_append_slash_of_isAbsolute hdirectory path)
    rw [parts_append_slash] at hroot
    have hparts : partsFrom directory path = parts directory ++ parts path := by simp [partsFrom, hpath]
    rw [hparts]
    exact .trans _ _ _ hbelow hroot

/-- Two paths give the same root exactly if they are spellings of one another. -/
theorem absolute_eq_absolute_iff (path other : String) :
    absolute directory path = absolute directory other ↔ Respelled directory path other := by
  constructor
  · intro hroots
    have hother := respelled_absolute hdirectory other
    rw [← hroots] at hother
    exact .trans _ _ _ (respelled_absolute hdirectory path) (.symm _ _ hother)
  · intro hrespelled
    rw [absolute_eq hdirectory, absolute_eq hdirectory, partsFrom_of_respelled hdirectory hrespelled]

end Root

end RepoConventions.Files.Path
