import RepoConventions.Proofs.Workflow.Decoding
import RepoConventions.Proofs.Yaml.Twin

/-!
# The key of the triggers

The key `on` may have been written as a boolean. A typed root has it as a value and a root as written by its spelling,
and both try the spellings in one order. So they find one node unless a quoted key is tried before the boolean's.
-/

namespace RepoConventions.Workflow

open Yaml (Tree Value HasTwins)
open Yaml.Resolution (IsWord Spells)
open Yaml.Tree (KeysReadApart typed asWritten lookup?_eq_some_iff lookup?_eq_none_iff)

/-- The texts of the boolean that may stand for `on`, in the order in which they are tried. -/
def onSpellings : List String := ["true", "True", "TRUE"]

theorem mem_onSpellings {s : String} (h : Spells s (.bool true)) : s ∈ onSpellings := by
  cases h with
  | bool h =>
    unfold Yaml.Resolution.bool? at h
    split at h
    · next hs => simpa [onSpellings, or_assoc] using hs
    · split at h <;> cases h

theorem eq_of_spells_onSpelling {s : String} (hs : s ∈ onSpellings) {v : Value} (h : Spells s v) : v = .bool true := by
  have hall : ∀ s ∈ onSpellings, Yaml.Resolution.bool? s = some true ∧ Yaml.Resolution.integer? s.toList = none ∧
      Yaml.Resolution.float? s = none := by decide
  obtain ⟨hbool, hint, hfloat⟩ := hall s hs
  cases h with
  | bool h => rw [Option.some.inj (h.symm.trans hbool)]
  | int h => cases hint.symm.trans h
  | float h => cases hfloat.symm.trans h

/-- Either there is a key `on`, or no string key is spelled like the boolean and tried before the boolean key. -/
def OnKeyClear (ts : List (Tree × Tree)) : Prop :=
  (∃ e ∈ ts, typed e.1 = .ok (.string "on")) ∨
    ∀ e ∈ ts, ∀ f ∈ ts, ∀ x y, typed e.1 = .ok (.bool true) → asWritten e.1 = .ok (.string x) →
      typed f.1 = .ok (.string y) → ¬ [y, x].Sublist onSpellings

section Keys

variable {k : Tree} {x : String}

theorem asWritten_of_typed_string (h : HasTwins k)
    (hx : typed k = .ok (.string x)) : asWritten k = .ok (.string x) := by
  obtain ⟨a, b, ha, hb, htwin⟩ := h
  cases ha.symm.trans hx
  generalize hv : Value.string x = v at htwin
  cases htwin.shape with
  | text => exact hb
  | spelled hspells => cases hspells <;> cases hv
  | _ => cases hv

theorem typed_of_asWritten_word (h : HasTwins k) (hword : IsWord x)
    (hx : asWritten k = .ok (.string x)) : typed k = .ok (.string x) := by
  obtain ⟨a, b, ha, hb, htwin⟩ := h
  cases hb.symm.trans hx
  have hsame : Value.same (.string x) a = true := by simp [htwin.same_word hword, Value.same]
  rw [ha, ((Value.isExact_string x).1 a).mp hsame]

theorem typed_of_asWritten_onSpelling (h : HasTwins k)
    (hx : asWritten k = .ok (.string x)) (hspelling : x ∈ onSpellings) :
    typed k = .ok (.string x) ∨ typed k = .ok (.bool true) := by
  obtain ⟨a, b, ha, hb, htwin⟩ := h
  cases hb.symm.trans hx
  cases htwin.shape with
  | text => exact .inl ha
  | spelled hspells =>
    rw [eq_of_spells_onSpelling hspelling hspells] at ha
    exact .inr ha

theorem exists_onSpelling (h : HasTwins k)
    (hx : typed k = .ok (.bool true)) : ∃ x ∈ onSpellings, asWritten k = .ok (.string x) := by
  obtain ⟨a, b, ha, hb, htwin⟩ := h
  cases ha.symm.trans hx
  generalize hv : Value.bool true = v at htwin
  cases htwin.shape with
  | spelled hspells =>
    subst hv
    exact ⟨_, mem_onSpellings hspells, hb⟩
  | _ => cases hv

theorem asWritten_ne_bool (h : HasTwins k) (c : Bool) :
    asWritten k ≠ .ok (.bool c) := by
  obtain ⟨a, b, -, hb, htwin⟩ := h
  rw [hb]
  rintro heq
  cases htwin.shape <;> cases heq

end Keys

section Root

variable {ts : List (Tree × Tree)} (htwin : ∀ e ∈ ts, HasTwins e.1) (htyped : KeysReadApart typed ts)
  (hwritten : KeysReadApart asWritten ts)

include htwin htyped hwritten

theorem lookup?_on : Tree.lookup? typed ts (.string "on") = Tree.lookup? asWritten ts (.string "on") := by
  ext n
  have hexact := Value.isExact_string "on"
  rw [lookup?_eq_some_iff htyped hexact, lookup?_eq_some_iff hwritten hexact]
  refine exists_congr fun k => and_congr_right fun hk => ⟨?_, ?_⟩
  · exact asWritten_of_typed_string (htwin _ hk)
  · exact typed_of_asWritten_word (htwin _ hk) (by decide)

theorem lookup?_onSpelling (hnone : Tree.lookup? typed ts (.bool true) = none) {x : String} (hx : x ∈ onSpellings) :
    Tree.lookup? typed ts (.string x) = Tree.lookup? asWritten ts (.string x) := by
  ext n
  have hexact := Value.isExact_string x
  rw [lookup?_eq_some_iff htyped hexact, lookup?_eq_some_iff hwritten hexact]
  refine exists_congr fun k => and_congr_right fun hk => ⟨?_, ?_⟩
  · exact asWritten_of_typed_string (htwin _ hk)
  · intro hread
    refine (typed_of_asWritten_onSpelling (htwin _ hk) hread hx).resolve_right ?_
    exact (lookup?_eq_none_iff htyped (Value.isExact_bool true)).mp hnone _ hk

/-- A boolean key is found by its spelling, and no other key before it. -/
theorem lookup?_bool {n : Tree} (hsome : Tree.lookup? typed ts (.bool true) = some n)
    (hclear : ∀ e ∈ ts, ∀ f ∈ ts, ∀ x y, typed e.1 = .ok (.bool true) → asWritten e.1 = .ok (.string x) →
      typed f.1 = .ok (.string y) → ¬ [y, x].Sublist onSpellings) :
    ∃ x ∈ onSpellings, Tree.lookup? asWritten ts (.string x) = some n ∧
      ∀ y, [y, x].Sublist onSpellings → Tree.lookup? asWritten ts (.string y) = none := by
  obtain ⟨k, hk, htrue⟩ := (lookup?_eq_some_iff htyped (Value.isExact_bool true)).mp hsome
  obtain ⟨x, hx, hread⟩ := exists_onSpelling (htwin _ hk) htrue
  refine ⟨x, hx, (lookup?_eq_some_iff hwritten (Value.isExact_string x)).mpr ⟨k, hk, hread⟩, fun y hy => ?_⟩
  rw [lookup?_eq_none_iff hwritten (Value.isExact_string y)]
  intro f hf hfread
  have hspelling : y ∈ onSpellings := hy.subset List.mem_cons_self
  rcases typed_of_asWritten_onSpelling (htwin f hf) hfread hspelling with hstring | hbool
  · exact hclear (k, n) hk f hf x y htrue hread hstring hy
  · -- one key only is the boolean, so the two spellings are one
    obtain rfl := Tree.entry_unique htyped (Value.isExact_bool true) hf hk hbool htrue
    obtain rfl : y = x := by
      cases hfread.symm.trans hread
      rfl
    have hnodup : ([y, y] : List String).Nodup := hy.nodup (by decide)
    simp at hnodup

theorem triggerNode?_eq (hclear : OnKeyClear ts) : triggerNode? typed ts = triggerNode? asWritten ts := by
  unfold triggerNode?
  rw [← lookup?_on htwin htyped hwritten]
  cases hon : Tree.lookup? typed ts (.string "on") with
  | some n => rfl
  | none =>
    have hnotrue : Tree.lookup? asWritten ts (.bool true) = none :=
      (lookup?_eq_none_iff hwritten (Value.isExact_bool true)).mpr fun e he => asWritten_ne_bool (htwin e he) true
    rw [hnotrue]
    cases hbool : Tree.lookup? typed ts (.bool true) with
    | none =>
      have hspelling {x : String} (hx : x ∈ onSpellings) := lookup?_onSpelling htwin htyped hwritten hbool hx
      rw [hspelling (by decide : "true" ∈ onSpellings), hspelling (by decide : "True" ∈ onSpellings),
        hspelling (by decide : "TRUE" ∈ onSpellings)]
    | some n =>
      have hnoon : ¬ ∃ e ∈ ts, typed e.1 = .ok (.string "on") := by
        rintro ⟨e, he, hread⟩
        exact (lookup?_eq_none_iff htyped (Value.isExact_string "on")).mp hon e he hread
      obtain ⟨x, hx, hfound, hbefore⟩ := lookup?_bool htwin htyped hwritten hbool (hclear.resolve_left hnoon)
      simp only [onSpellings, List.mem_cons, List.not_mem_nil, or_false] at hx
      rcases hx with rfl | rfl | rfl
      · rw [hfound]
        rfl
      · rw [hfound, hbefore "true" (by decide)]
        rfl
      · rw [hfound, hbefore "true" (by decide), hbefore "True" (by decide)]
        rfl

end Root

end RepoConventions.Workflow
