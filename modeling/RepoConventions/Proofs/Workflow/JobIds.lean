import Mathlib.Data.List.Nodup
import RepoConventions.Proofs.Workflow.Language
import RepoConventions.Proofs.Workflow.SourceText

/-!
# Ids of jobs

The id of a job is the text of its key below any tags. Keys of one mapping are different, and as texts they are so too as
long as they are read as strings: a tag on a key, or a tag on the root that keeps numbers and booleans, lets two jobs have
one id.
-/

namespace RepoConventions.Yaml

def Value.isTagged : Value → Bool
  | .tagged .. => true
  | _ => false

def Value.isString : Value → Bool
  | .string _ => true
  | _ => false

theorem Tree.keysApart_of_readBelow {tag : Option Tag} {t : Tree} {es : List (Value × Value)}
    (h : readBelow tag t = .ok (.mapping es)) : (es.map (·.1)).Pairwise fun a b => a.same b = false := by
  -- An application tag above keeps the types of keys; either way the entries are inserted one after another.
  by_cases htag : IsCustom tag
  · obtain ⟨name, rfl⟩ := htag
    obtain ⟨tag', ts, rfl, -⟩ := typed_eq_mapping h
    obtain ⟨rs, -, hes⟩ := typed_mapping_put h
    cases eq_of_withTag hes nofun
    exact Value.keysApart_put .nil rs
  · rw [readBelow_of_not_isCustom htag] at h
    cases written_of_asWritten h with
    | mapping _ _ => exact Value.keysApart_put .nil _

theorem Tree.cases_of_key {t : Tree} {k key : Value} {text : String} (h : asWritten t = .ok k)
    (hkey : key = k ∨ key.same k = true) (htext : key.scalarText? = some text) :
    key.isTagged = true ∨ key.isString = true := by
  cases written_of_asWritten h <;> cases key <;>
    simp_all [Value.same, Value.scalarText?, Value.isTagged, Value.isString]

end RepoConventions.Yaml

namespace RepoConventions.Workflow

open Yaml (Tree Value)

/-! Keys of jobs -/

theorem exists_node_below_root {text name : String} {root v : Value} (h : Yaml.valueAsWritten text = .ok root)
    (hfield : root.field? name = some v) :
    ∃ tag t, Tree.readBelow tag t = .ok v ∧ (root.isTagged = false → ¬ Tree.IsCustom tag) := by
  have hmapping : root.isMapping = true := by
    obtain ⟨es, hes, -⟩ := Option.bind_eq_some_iff.mp hfield
    rw [Value.isMapping, hes]
    rfl
  obtain ⟨t, v', -, -, hw⟩ := Yaml.exists_tree_of_valueAsWritten h hmapping
  obtain ⟨tag, ts, rfl⟩ := Tree.exists_mapping hw hmapping
  obtain ⟨rs, hread, rfl⟩ := Tree.asWritten_mapping_put hw
  have hrel := Tree.lookup?_read hread (Value.isExact_string name)
  rw [← field?_withTag tag, hfield] at hrel
  generalize hnode : Tree.lookup? (Tree.readBelow tag) ts (.string name) = t? at hrel
  cases hrel with
  | @some t _ ht =>
    refine ⟨tag, t, ht, ?_⟩
    rintro huntagged ⟨word, rfl⟩
    cases huntagged

theorem keysApart_of_jobs {text : String} {root : Value} (h : Yaml.valueAsWritten text = .ok root) :
    ((nodeEntries (root.field? "jobs")).map (·.1)).Pairwise fun a b => a.same b = false := by
  unfold nodeEntries
  split
  · next es hes =>
    obtain ⟨tag, t, ht, -⟩ := exists_node_below_root h hes
    exact Tree.keysApart_of_readBelow ht
  · exact .nil

/-- Below an untagged root, keys that have texts are tagged or strings. -/
theorem cases_of_jobKey {text : String} {root : Value} (h : Yaml.valueAsWritten text = .ok root)
    (huntagged : root.isTagged = false) {e : Value × Value} (he : e ∈ nodeEntries (root.field? "jobs")) {id : String}
    (hid : e.1.scalarText? = some id) : e.1.isTagged = true ∨ e.1.isString = true := by
  unfold nodeEntries at he
  split at he
  · next es hes =>
    obtain ⟨tag, t, ht, htag⟩ := exists_node_below_root h hes
    rw [Tree.readBelow_of_not_isCustom (htag huntagged)] at ht
    obtain ⟨_, _, -, hmem⟩ := mem_of_read ht
    obtain ⟨f, -, -, k, hk, hkey⟩ := hmem e he
    exact Tree.cases_of_key hk hkey hid
  · cases he

/-! Ids -/

/-- Two keys that may have one text in a document with that root. -/
def MayShareText (root k k' : Value) : Prop :=
  k.isTagged = true ∨ k'.isTagged = true ∨ root.isTagged = true ∧ (k.isString = false ∨ k'.isString = false)

theorem not_isString_of_scalarText? {k k' : Value} {id : String} (hapart : k.same k' = false)
    (hk : k.scalarText? = some id) (hk' : k'.scalarText? = some id) : k.isString = false ∨ k'.isString = false := by
  cases k <;> cases k' <;> simp_all [Value.same, Value.scalarText?, Value.isString]

theorem mayShareText {text : String} {root : Value} (h : Yaml.valueAsWritten text = .ok root) {e f : Value × Value}
    (he : e ∈ nodeEntries (root.field? "jobs")) (hf : f ∈ nodeEntries (root.field? "jobs"))
    (hapart : e.1.same f.1 = false) {id : String} (heid : e.1.scalarText? = some id)
    (hfid : f.1.scalarText? = some id) : MayShareText root e.1 f.1 := by
  have hstring := not_isString_of_scalarText? hapart heid hfid
  cases hroot : root.isTagged with
  | true => exact .inr (.inr ⟨hroot, hstring⟩)
  | false =>
    rcases cases_of_jobKey h hroot he heid with he' | he'
    · exact .inl he'
    · rcases cases_of_jobKey h hroot hf hfid with hf' | hf'
      · exact .inr (.inl hf')
      · rw [he', hf'] at hstring
        simp at hstring

theorem Document.forall₂_jobIds {root : Value} {d : Document} (h : ofValue root = .ok d) :
    List.Forall₂ (fun e j => e.1.scalarText? = some j.id) (nodeEntries (root.field? "jobs")) d.jobs :=
  ((ofValue_decodes root).sound h).2.jobs.imp fun _ _ hj => hj.id

section Shared

variable {text : String} {root : Value} {d : Document}

theorem shared_jobIds (hroot : Yaml.valueAsWritten text = .ok root)
    (hids : List.Forall₂ (fun e j => e.1.scalarText? = some j.id) (nodeEntries (root.field? "jobs")) d.jobs) :
    ((nodeEntries (root.field? "jobs")).zip d.jobs).Pairwise
      fun p q => p.2.id = q.2.id → MayShareText root p.1.1 q.1.1 := by
  -- The entries of the pairs are those of the mapping, whose keys are different two by two.
  have hapart := List.pairwise_map.mp (keysApart_of_jobs hroot)
  rw [← List.map_fst_zip (Nat.le_of_eq hids.length_eq), List.pairwise_map] at hapart
  refine hapart.imp_of_mem ?_
  intro p q hp hq hsame hid
  have hpid : p.1.1.scalarText? = some p.2.id := List.forall₂_zip hids hp
  have hqid : q.1.1.scalarText? = some q.2.id := List.forall₂_zip hids hq
  exact mayShareText hroot (List.of_mem_zip hp).1 (List.of_mem_zip hq).1 hsame hpid (hid ▸ hqid)

theorem nodup_jobIds {es : List (Value × Value)}
    (hids : List.Forall₂ (fun e j => e.1.scalarText? = some j.id) es d.jobs)
    (hshared : (es.zip d.jobs).Pairwise fun p q => p.2.id = q.2.id → MayShareText root p.1.1 q.1.1)
    (huntagged : root.isTagged = false) (hkeys : ∀ e ∈ es, e.1.isTagged = false) : (d.jobs.map (·.id)).Nodup := by
  rw [← List.map_snd_zip (Nat.le_of_eq hids.length_eq.symm), List.map_map, List.Nodup, List.pairwise_map]
  refine hshared.imp_of_mem ?_
  intro p q hp hq hmay hid
  have hp' := hkeys p.1 (List.of_mem_zip hp).1
  have hq' := hkeys q.1 (List.of_mem_zip hq).1
  have hsome := hmay hid
  rw [MayShareText, hp', hq', huntagged] at hsome
  simp at hsome

end Shared

theorem Document.job?_first {d : Document} {j : Job} (hj : j ∈ d.jobs) :
    ∃ before first after, d.jobs = before ++ first :: after ∧ d.job? j.id = some first ∧ first.id = j.id ∧
      ∀ i ∈ before, i.id ≠ j.id := by
  cases hfound : d.job? j.id with
  | none =>
    have hnone := List.find?_eq_none.mp hfound j hj
    simp at hnone
  | some first =>
    obtain ⟨hid, before, after, hjobs, hbefore⟩ := List.find?_eq_some_iff_append.mp hfound
    exact ⟨before, first, after, hjobs, rfl, of_decide_eq_true hid, fun i hi => by simpa using hbefore i hi⟩

theorem Document.job?_of_nodup {d : Document} (h : (d.jobs.map (·.id)).Nodup) {j : Job} (hj : j ∈ d.jobs) :
    d.job? j.id = some j := by
  obtain ⟨before, first, after, hjobs, hfound, hid, -⟩ := job?_first hj
  have hfirst : first ∈ d.jobs := by
    rw [hjobs]
    exact List.mem_append_right _ List.mem_cons_self
  rw [hfound, List.inj_on_of_nodup_map h hfirst hj hid]

/-- Two jobs of a document that is read from a text have one id only if the key of one of them is tagged, or the root is and
one of the keys is no string. By an id the first job that has it is found, so that every job is found where neither the
root nor a key is tagged, and their ids are all different. -/
theorem Document.ofText_jobIds {text : String} {d : Document} (h : ofText text = .ok d) :
    ∃ root, Yaml.valueAsWritten text = .ok root ∧
      List.Forall₂ (fun e j => e.1.scalarText? = some j.id) (nodeEntries (root.field? "jobs")) d.jobs ∧
      ((nodeEntries (root.field? "jobs")).zip d.jobs).Pairwise
        (fun p q => p.2.id = q.2.id → MayShareText root p.1.1 q.1.1) ∧
      (∀ j ∈ d.jobs, ∃ before first after, d.jobs = before ++ first :: after ∧ d.job? j.id = some first ∧
        first.id = j.id ∧ ∀ i ∈ before, i.id ≠ j.id) ∧
      (root.isTagged = false → (∀ e ∈ nodeEntries (root.field? "jobs"), e.1.isTagged = false) →
        (d.jobs.map (·.id)).Nodup ∧ ∀ j ∈ d.jobs, d.job? j.id = some j) := by
  unfold ofText at h
  split at h
  · next root hroot =>
    have hids := forall₂_jobIds h
    have hshared := shared_jobIds hroot hids
    refine ⟨root, hroot, hids, hshared, fun j hj => job?_first hj, ?_⟩
    intro huntagged hkeys
    have hnodup := nodup_jobIds hids hshared huntagged hkeys
    exact ⟨hnodup, fun j hj => job?_of_nodup hnodup hj⟩
  · cases h

/-- Keys that are numbers and booleans are read as strings, so all jobs are found. -/
theorem Document.ofText_jobIds_untagged :
    ∃ d, ofText "jobs:\n  1: {}\n  1.0: {}\n  true: {}" = .ok d ∧ d.jobs.map (·.id) = ["1", "1.0", "true"] ∧
      ∀ j ∈ d.jobs, d.job? j.id = some j := by
  obtain ⟨d, hd, hids⟩ := Yaml.exists_ok_of_map (x := ofText "jobs:\n  1: {}\n  1.0: {}\n  true: {}")
    (f := fun d => d.jobs.map (·.id)) (b := ["1", "1.0", "true"]) (by decide +kernel)
  obtain ⟨root, hroot, htags⟩ := Yaml.exists_ok_of_map
    (x := Yaml.valueAsWritten "jobs:\n  1: {}\n  1.0: {}\n  true: {}")
    (f := fun root => (root.isTagged, (nodeEntries (root.field? "jobs")).all fun e => !e.1.isTagged))
    (b := (false, true)) (by decide +kernel)
  obtain ⟨huntagged, hkeys⟩ := Prod.mk.inj htags
  obtain ⟨root', hroot', -, -, -, hdistinct⟩ := ofText_jobIds hd
  rw [hroot] at hroot'
  cases hroot'
  exact ⟨d, hd, hids, (hdistinct huntagged fun e he => by simpa using List.all_eq_true.mp hkeys e he).2⟩

/-- A tag on a key, or one on the root and a number for a key, lets two jobs have one id, and the second one is not found. -/
theorem Document.ofText_repeats_jobId :
    (∃ d, ofText "jobs:\n  a: {}\n  !t a: {uses: x}" = .ok d ∧
      d.jobs.map (fun j => (j.id, j.uses, (d.job? j.id).map (·.uses))) =
        [("a", none, some none), ("a", some "x", some none)]) ∧
    ∃ d, ofText "!t\njobs:\n  1: {}\n  \"1\": {uses: x}" = .ok d ∧
      d.jobs.map (fun j => (j.id, j.uses, (d.job? j.id).map (·.uses))) =
        [("1", none, some none), ("1", some "x", some none)] := by
  constructor
  · exact Yaml.exists_ok_of_map (by decide +kernel)
  · exact Yaml.exists_ok_of_map (by decide +kernel)

end RepoConventions.Workflow
