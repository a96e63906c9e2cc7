import RepoConventions.Proofs.Json.ReadBack
import RepoConventions.Proofs.Yaml.Results
import RepoConventions.Workflow.Written

/-!
# Numbers in printed workflows

A workflow is printed with numbers only where its strategies hold finite ones, and these are numbers of JSON.
-/

namespace RepoConventions.Workflow

open Yaml (Value Number)
open Json (HasNumbers)

theorem isNumber_numberText? {n : Number} {t : String} (h : numberText? n = some t) : Json.IsNumber t.toList := by
  cases n with
  | int i =>
    obtain rfl := Option.some.inj h
    rw [Number.text, String.toList_ofList]
    split
    · exact .negative (Decimal.isUnsigned_digitsText _)
    · exact .positive (Decimal.isUnsigned_digitsText _)
  | float x => exact Decimal.Binary64.isNumber_finiteText? h

mutual
theorem hasNumbers_valueJson : ∀ {v : Value} {j : Json}, valueJson v = .ok j → j.HasNumbers
  | .null, _, h => by cases h; trivial
  | .bool _, _, h => by cases h; trivial
  | .string _, _, h => by cases h; trivial
  | .number n, _, h => by
    cases h
    cases ht : numberText? n with
    | none => trivial
    | some t => exact isNumber_numberText? ht
  | .list items, _, h => by
    obtain ⟨js, hjs, h⟩ := Yaml.bind_eq_ok_iff.mp h
    cases h
    exact haveNumbers_itemsJson hjs
  | .mapping entries, _, h => by
    obtain ⟨members, hmembers, h⟩ := Yaml.bind_eq_ok_iff.mp h
    cases h
    exact membersHaveNumbers_entriesJson hmembers
  | .tagged tag v, _, h => by
    obtain ⟨j, hj, h⟩ := Yaml.bind_eq_ok_iff.mp h
    cases h
    exact ⟨hasNumbers_valueJson hj, trivial⟩

theorem haveNumbers_itemsJson : ∀ {items : List Value} {js : List Json}, itemsJson items = .ok js → Json.HaveNumbers js
  | [], _, h => by cases h; trivial
  | v :: rest, _, h => by
    obtain ⟨j, hj, h⟩ := Yaml.bind_eq_ok_iff.mp h
    obtain ⟨js, hjs, h⟩ := Yaml.bind_eq_ok_iff.mp h
    cases h
    exact ⟨hasNumbers_valueJson hj, haveNumbers_itemsJson hjs⟩

theorem membersHaveNumbers_entriesJson : ∀ {entries : List (Value × Value)} {members : List (String × Json)},
    entriesJson entries = .ok members → Json.MembersHaveNumbers members
  | [], _, h => by cases h; trivial
  | (k, v) :: rest, _, h => by
    obtain ⟨name, -, h⟩ := Yaml.bind_eq_ok_iff.mp h
    obtain ⟨j, hj, h⟩ := Yaml.bind_eq_ok_iff.mp h
    obtain ⟨members, hmembers, h⟩ := Yaml.bind_eq_ok_iff.mp h
    cases h
    exact ⟨hasNumbers_valueJson hj, membersHaveNumbers_entriesJson hmembers⟩
end

theorem hasNumbers_mapJson {α : Type} {f : α → Json} (hf : ∀ a, (f a).HasNumbers) (m : Text.Map α) :
    (mapJson f m).HasNumbers := by
  refine Json.membersHaveNumbers_iff.mpr fun e he => ?_
  obtain ⟨⟨key, a⟩, -, rfl⟩ := List.mem_map.mp he
  exact hf a

theorem hasNumbers_settingsJson (s : Settings) : (settingsJson s).HasNumbers :=
  hasNumbers_mapJson (f := Json.string) (fun _ => trivial) s

theorem Trigger.hasNumbers_json (t : Trigger) : t.json.HasNumbers :=
  ⟨trivial, hasNumbers_mapJson Json.hasNumbers_texts t.filters, trivial⟩

theorem Step.hasNumbers_json (s : Step) : s.json.HasNumbers := by
  simp [Step.json, HasNumbers, Json.MembersHaveNumbers, Json.hasNumbers_text?, hasNumbers_settingsJson]

theorem Job.hasNumbers_json {j : Job} {written : Json} (h : j.json = .ok written) : written.HasNumbers := by
  rw [Job.json] at h
  have hsteps : Json.HaveNumbers (j.steps.map Step.json) := by
    simp [Json.haveNumbers_iff, Step.hasNumbers_json]
  have hdefaults := hasNumbers_mapJson hasNumbers_settingsJson j.defaults
  cases hv : j.strategy with
  | none =>
    rw [hv] at h
    cases h
    simp [HasNumbers, Json.MembersHaveNumbers, Json.hasNumbers_text?, hdefaults, hsteps]
  | some v =>
    rw [hv] at h
    obtain ⟨strategy, hstrategy, h⟩ := Yaml.bind_eq_ok_iff.mp h
    cases h
    simp [HasNumbers, Json.MembersHaveNumbers, Json.hasNumbers_text?, hdefaults, hsteps,
      hasNumbers_valueJson hstrategy]

/-- Every number in a printed workflow is one of JSON. -/
theorem Document.hasNumbers_json {d : Document} {written : Json} (h : d.json = .ok written) : written.HasNumbers := by
  obtain ⟨jobs, hjobs, h⟩ := Yaml.bind_eq_ok_iff.mp h
  cases h
  have hall : Json.HaveNumbers jobs := Json.haveNumbers_iff.mpr fun written hwritten => by
    obtain ⟨j, -, hj⟩ := Yaml.exists_mem_of_forall₂ (Yaml.mapM_eq_ok_iff.mp hjobs) hwritten
    exact Job.hasNumbers_json hj
  have htriggers : Json.HaveNumbers (d.triggers.map Trigger.json) := by
    simp [Json.haveNumbers_iff, Trigger.hasNumbers_json]
  have hdefaults := hasNumbers_mapJson hasNumbers_settingsJson d.defaults
  simp [HasNumbers, Json.MembersHaveNumbers, Json.hasNumbers_text?, hasNumbers_settingsJson, htriggers, hdefaults, hall]

end RepoConventions.Workflow
