import RepoConventions.Proofs.Workflow.Decoding
import RepoConventions.Proofs.Yaml.Correspondence

/-!
# What becomes of the entries of a workflow

Jobs and triggers are made from the entries of mappings, in their order. Entries whose keys are read alike are merged,
so one is lost for every such key.
-/

namespace RepoConventions.Workflow

open Yaml (Tree Value eq_ok_of_toOption exists_ok_of_map forall₂_comp mapM_eq_ok_iff)
open Yaml.Tree (EntriesRead KeysReadApart keysReadApart_iff readBelow typed asWritten)

/-- What is made from the entries of a mapping node: no more than one thing for an entry, and one for each exactly if
no two keys are read alike. -/
structure MadeOfEntries {α : Type} (read : Tree → Except Yaml.Error Value) (make : Value × Value → Except Error α)
    (ts : List (Tree × Tree)) (made : List α) : Prop where
  length_le : made.length ≤ ts.length
  length_eq_iff : made.length = ts.length ↔ KeysReadApart read ts
  each : KeysReadApart read ts →
    List.Forall₂ (fun e a => ∃ k v, read e.1 = .ok k ∧ read e.2 = .ok v ∧ make (k, v) = .ok a) ts made

theorem madeOfEntries {α : Type} {read : Tree → Except Yaml.Error Value} {make : Value × Value → Except Error α}
    {ts : List (Tree × Tree)} {rs : List (Value × Value)} {made : List α} (hread : EntriesRead read ts rs)
    (hmade : List.Forall₂ (fun e a => make e = .ok a) (Value.put [] rs) made) : MadeOfEntries read make ts made := by
  have hle : (Value.put [] rs).length ≤ rs.length := by simpa using Value.length_put_le [] rs
  have hall (hapart : KeysReadApart read ts) : Value.put [] rs = rs :=
    Value.put_nil ((keysReadApart_iff hread).mp hapart)
  constructor
  · rw [← hmade.length_eq, hread.length_eq]
    exact hle
  · rw [← hmade.length_eq, hread.length_eq]
    constructor
    · intro hlength
      have hput : (Value.put [] rs).length = ([] : List (Value × Value)).length + rs.length := by
        rw [hlength, List.length_nil, Nat.zero_add]
      exact (keysReadApart_iff hread).mpr (Value.new_of_length_put hput).2
    · intro hapart
      rw [hall hapart]
  · intro hapart
    rw [hall hapart] at hmade
    refine (forall₂_comp hread hmade).imp ?_
    intro e a h
    obtain ⟨⟨k, v⟩, ⟨hk, hv⟩, ha⟩ := h
    exact ⟨k, v, hk, hv, ha⟩

/-- A document read from a text keeps the entries of every mapping exactly if no two keys of one mapping are written
alike; its jobs and triggers are made, in order, from the entries of the nodes they are under. -/
theorem Document.ofText_entries {text : String} {d : Document} (h : ofText text = .ok d) :
    ∃ tag ts, Yaml.tree? text = .ok (some (.mapping tag ts)) ∧
      (∃ v w, typed (.mapping tag ts) = .ok v ∧ asWritten (.mapping tag ts) = .ok w ∧
        (Tree.Corresponds (.mapping tag ts) v w ↔ Tree.KeysApart (.mapping tag ts))) ∧
      (∀ jobsTag entries, Tree.lookup? (readBelow tag) ts (.string "jobs") = some (.mapping jobsTag entries) →
        MadeOfEntries (readBelow tag) jobOfEntry entries d.jobs) ∧
      ∀ onTag entries, triggerNode? (readBelow tag) ts = some (.mapping onTag entries) →
        MadeOfEntries (readBelow tag) triggerOfEntry entries d.triggers := by
  obtain ⟨tag, ts, v, rs, ht, hv, hw, hread, hd⟩ := exists_root h
  obtain ⟨-, -, -, hjobs, htriggers, -⟩ := of_ofValue hd
  refine ⟨tag, ts, ht, ⟨v, _, hv, hw, Tree.corresponds_iff_keysApart hv hw⟩, ?_, ?_⟩
  · intro jobsTag entries hnode
    have hrel := Tree.lookup?_read hread (Value.isExact_string "jobs")
    rw [← field?_withTag tag, hnode] at hrel
    obtain ⟨v, hv, hnodev⟩ := exists_read_of_rel hrel
    rw [hv] at hjobs
    rcases Tree.readBelow_mapping_cases hnodev with ⟨name, u, rfl⟩ | ⟨es, hes, rfl⟩
    · cases hjobs
    · exact madeOfEntries hes (mapM_eq_ok_iff.mp hjobs)
  · intro onTag entries hnode
    have hrel := triggerNode?_read hread tag
    rw [hnode] at hrel
    obtain ⟨v, hv, hnodev⟩ := exists_read_of_rel hrel
    rw [hv] at htriggers
    rcases Tree.readBelow_mapping_cases hnodev with ⟨name, u, rfl⟩ | ⟨es, hes, rfl⟩
    · cases htriggers
    · exact madeOfEntries hes (mapM_eq_ok_iff.mp htriggers)

/-- Of a workflow with two events and two jobs nothing is lost. -/
theorem Document.ofText_entries_two :
    ∃ d tag ts, ofText "on:\n  push:\n  pull_request:\njobs:\n  1: {}\n  1.0: {}" = .ok d ∧ d.triggers.length = 2 ∧
      d.jobs.length = 2 ∧
      Yaml.tree? "on:\n  push:\n  pull_request:\njobs:\n  1: {}\n  1.0: {}" = .ok (some (.mapping tag ts)) ∧
      (∀ jobsTag entries, Tree.lookup? (readBelow tag) ts (.string "jobs") = some (.mapping jobsTag entries) →
        MadeOfEntries (readBelow tag) jobOfEntry entries d.jobs) ∧
      ∀ onTag entries, triggerNode? (readBelow tag) ts = some (.mapping onTag entries) →
        MadeOfEntries (readBelow tag) triggerOfEntry entries d.triggers := by
  have hmap : (ofText "on:\n  push:\n  pull_request:\njobs:\n  1: {}\n  1.0: {}").toOption.map
      (fun d => (d.triggers.length, d.jobs.length)) = some (2, 2) := by decide +kernel
  obtain ⟨d, hd, hlengths⟩ := exists_ok_of_map hmap
  obtain ⟨htriggers, hjobs⟩ := Prod.mk.inj hlengths
  obtain ⟨tag, ts, ht, -, hmade⟩ := ofText_entries hd
  exact ⟨d, tag, ts, hd, htriggers, hjobs, ht, hmade⟩

/-- A job is lost whose key differs from another one only in being a number. -/
theorem Document.ofText_loses_job :
    ∃ root entries d, Yaml.typedValue "jobs:\n  1: {}\n  \"1\": {}" = .ok root ∧
      root.field? "jobs" = some (.mapping entries) ∧ entries.length = 2 ∧
      ofText "jobs:\n  1: {}\n  \"1\": {}" = .ok d ∧ d.jobs.length = 1 := by
  have htree : (Yaml.tree? "jobs:\n  1: {}\n  \"1\": {}").toOption = some (some (.mapping none [(.scalar none "jobs" true,
      .mapping none [(.scalar none "1" true, .mapping none []), (.scalar none "1" false, .mapping none [])])])) := by
    decide +kernel
  have htyped : typed (.mapping none [(.scalar none "jobs" true,
      .mapping none [(.scalar none "1" true, .mapping none []), (.scalar none "1" false, .mapping none [])])]) =
      .ok (.mapping [(.string "jobs", .mapping [(.number (.int 1), .mapping []), (.string "1", .mapping [])])]) := by
    rfl
  have hdocument : (ofText "jobs:\n  1: {}\n  \"1\": {}").toOption.map (·.jobs.length) = some 1 := by decide +kernel
  obtain ⟨d, hd, hlength⟩ := exists_ok_of_map hdocument
  have hroot := Yaml.typedValue_eq_mapping_iff.mpr ⟨_, eq_ok_of_toOption htree, htyped⟩
  exact ⟨_, _, d, hroot, rfl, rfl, hd, hlength⟩

end RepoConventions.Workflow
