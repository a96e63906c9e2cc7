import RepoConventions.Proofs.Yaml.Guided
import RepoConventions.Proofs.Yaml.Origin
import RepoConventions.Proofs.Yaml.Results
import RepoConventions.Workflow.Document

/-!
# What a workflow is decoded from

Each part of a workflow that is decoded from a value comes from parts of that value.
-/

namespace RepoConventions.Workflow

open Yaml (Tree Value bind_eq_ok_iff pure_eq_ok_iff exists_mem_of_forall₂ mapM_eq_ok_iff foldlM_invariant)

/-! Maps -/

/-- What is in a map that a fold fills was there at first or comes from an element of the list. -/
theorem mem_of_foldlM_insert {α β ε : Type} {f : Text.Map β → α → Except ε (Text.Map β)} {R : α → String → β → Prop}
    (hstep : ∀ m a m', f m a = .ok m' → m' = m ∨ ∃ key value, R a key value ∧ m' = m.insert key value)
    {l : List α} {m : Text.Map β} (h : l.foldlM f .empty = .ok m) : ∀ e ∈ m.entries, ∃ a ∈ l, R a e.1 e.2 := by
  refine foldlM_invariant (P := fun m => ∀ e ∈ m.entries, ∃ a ∈ l, R a e.1 e.2) h
    (fun e he => absurd he List.not_mem_nil) ?_
  intro a ha m m' hm hstepped
  rcases hstep m a m' hstepped with rfl | ⟨key, value, hR, rfl⟩
  · exact hm
  · intro e he
    rcases Text.Map.mem_entries_insert he with rfl | hmem
    · exact ⟨a, ha, hR⟩
    · exact hm e hmem

/-- The text of a setting: null is read as the empty text. -/
def IsSetting (v : Value) (text : String) : Prop := v = .null ∧ text = "" ∨ v.scalarText? = some text

theorem addSetting_cases {path : String} {m m' : Settings} {e : Value × Value} (h : addSetting path m e = .ok m') :
    m' = m ∨ ∃ key text, (e.1.scalarText? = some key ∧ IsSetting e.2 text) ∧ m' = m.insert key text := by
  unfold addSetting at h
  split at h
  · cases h
    exact .inl rfl
  · next key hkey =>
    split at h
    · next hnull =>
      cases h
      exact .inr ⟨key, "", ⟨hkey, .inl ⟨hnull, rfl⟩⟩, rfl⟩
    · split at h
      · next text htext =>
        cases h
        exact .inr ⟨key, text, ⟨hkey, .inr htext⟩, rfl⟩
      · cases h

theorem mem_of_settings {node : Option Value} {path : String} {m : Settings} (h : settings node path = .ok m) :
    ∀ e ∈ m.entries, ∃ es, node = some (.mapping es) ∧ ∃ f ∈ es, f.1.scalarText? = some e.1 ∧ IsSetting f.2 e.2 := by
  intro e he
  unfold settings at h
  split at h
  · cases h
    cases he
  · cases h
    cases he
  · next es =>
    have hmem := mem_of_foldlM_insert (R := fun f key text => f.1.scalarText? = some key ∧ IsSetting f.2 text)
      (fun _ _ _ => addSetting_cases) h
    exact ⟨es, rfl, hmem e he⟩
  · cases h

theorem addScope_cases {path : String} {m m' : Defaults} {e : Value × Value} (h : addScope path m e = .ok m') :
    m' = m ∨ ∃ scope s, (e.1.scalarText? = some scope ∧ ∃ path, settings (some e.2) path = .ok s) ∧
      m' = m.insert scope s := by
  unfold addScope at h
  split at h
  · cases h
    exact .inl rfl
  · next scope hscope =>
    obtain ⟨s, hs, h⟩ := bind_eq_ok_iff.mp h
    cases h
    exact .inr ⟨scope, s, ⟨hscope, _, hs⟩, rfl⟩

theorem mem_of_defaults {node : Option Value} {path : String} {m : Defaults} (h : defaults node path = .ok m) :
    ∀ e ∈ m.entries, ∃ es, node = some (.mapping es) ∧
      ∃ f ∈ es, f.1.scalarText? = some e.1 ∧ ∃ path, settings (some f.2) path = .ok e.2 := by
  intro e he
  unfold defaults at h
  split at h
  · cases h
    cases he
  · cases h
    cases he
  · next es =>
    have hmem := mem_of_foldlM_insert
      (R := fun f scope s => f.1.scalarText? = some scope ∧ ∃ path, settings (some f.2) path = .ok s)
      (fun _ _ _ => addScope_cases) h
    exact ⟨es, rfl, hmem e he⟩
  · cases h

/-! Jobs -/

theorem jobs_cases {node : Option Value} {js : List Job} (h : jobs node = .ok js) :
    (node = none ∨ node = some .null) ∧ js = [] ∨
      ∃ es, node = some (.mapping es) ∧ List.Forall₂ (fun e j => jobOfEntry e = .ok j) es js := by
  unfold jobs at h
  split at h
  · cases h
    exact .inl ⟨.inl rfl, rfl⟩
  · cases h
    exact .inl ⟨.inr rfl, rfl⟩
  · next es => exact .inr ⟨es, rfl, mapM_eq_ok_iff.mp h⟩
  · cases h

theorem jobOfEntry_eq_ok_iff {e : Value × Value} {j : Job} :
    jobOfEntry e = .ok j ↔ ∃ id, e.1.scalarText? = some id ∧ Job.ofValue id e.2 = .ok j := by
  unfold jobOfEntry
  cases e.1.scalarText? with
  | none => simp
  | some id => simp

theorem Job.of_ofValue {id : String} {body : Value} {j : Job} (h : ofValue id body = .ok j) :
    body.isMapping ∧ j.id = id ∧ j.uses = text? body "uses" ∧ j.name = text? body "name" ∧
      j.runsOn = runsOn? (body.field? "runs-on") ∧ j.strategy = strategy? body ∧ steps? id body = .ok j.steps ∧
      Workflow.defaults (body.field? "defaults") ("jobs." ++ id ++ ".defaults") = .ok j.defaults := by
  unfold ofValue at h
  split at h
  · next hmapping =>
    obtain ⟨steps, hsteps, h⟩ := bind_eq_ok_iff.mp h
    obtain ⟨defaults, hdefaults, h⟩ := bind_eq_ok_iff.mp h
    cases h
    exact ⟨hmapping, rfl, rfl, rfl, rfl, rfl, hsteps, hdefaults⟩
  · cases h

theorem Job.steps?_cases {id : String} {body : Value} {steps : List Step} (h : steps? id body = .ok steps) :
    (body.field? "steps" = none ∨ body.field? "steps" = some .null) ∧ steps = [] ∨
      ∃ items, body.field? "steps" = some (.list items) ∧
        List.Forall₂ (fun item step => ∃ path, Step.ofValue item path = .ok step) items steps := by
  unfold steps? at h
  split at h
  · next hnone =>
    cases h
    exact .inl ⟨.inl hnone, rfl⟩
  · next hnull =>
    cases h
    exact .inl ⟨.inr hnull, rfl⟩
  · next items hitems =>
    have hsteps := mapM_eq_ok_iff.mp h
    refine .inr ⟨items, hitems, ?_⟩
    have hpaths : List.Forall₂ (fun item step => ∃ path, Step.ofValue item path = .ok step)
        (items.zipIdx.map Prod.fst) steps :=
      List.forall₂_map_left_iff.mpr (hsteps.imp fun e step hstep => ⟨_, hstep⟩)
    rw [List.zipIdx_map_fst] at hpaths
    exact hpaths
  · cases h

theorem Step.of_ofValue {node : Value} {path : String} {s : Step} (h : ofValue node path = .ok s) :
    node.isMapping ∧ s.id = text? node "id" ∧ s.name = text? node "name" ∧ s.condition = text? node "if" ∧
      s.shell = text? node "shell" ∧ s.run = text? node "run" ∧ s.uses = text? node "uses" ∧
      settings (node.field? "env") (path ++ ".env") = .ok s.env ∧
      settings (node.field? "with") (path ++ ".with") = .ok s.inputs := by
  unfold ofValue at h
  split at h
  · next hmapping =>
    obtain ⟨env, henv, h⟩ := bind_eq_ok_iff.mp h
    obtain ⟨inputs, hinputs, h⟩ := bind_eq_ok_iff.mp h
    cases h
    exact ⟨hmapping, rfl, rfl, rfl, rfl, rfl, rfl, henv, hinputs⟩
  · cases h

/-! Triggers -/

theorem triggers_cases {node : Option Value} {ts : List Trigger} (h : triggers node = .ok ts) :
    (node = none ∨ node = some .null) ∧ ts = [] ∨
      (∃ items, node = some (.list items) ∧ List.Forall₂ (fun v t => triggerInList v = .ok t) items ts) ∨
      (∃ es, node = some (.mapping es) ∧ List.Forall₂ (fun e t => triggerOfEntry e = .ok t) es ts) ∨
      ∃ v name, node = some v ∧ eventName? v = some name ∧ ts = [.named name] := by
  unfold triggers at h
  split at h
  · cases h
    exact .inl ⟨.inl rfl, rfl⟩
  · cases h
    exact .inl ⟨.inr rfl, rfl⟩
  · next items => exact .inr (.inl ⟨items, rfl, mapM_eq_ok_iff.mp h⟩)
  · next es => exact .inr (.inr (.inl ⟨es, rfl, mapM_eq_ok_iff.mp h⟩))
  · next v _ _ _ =>
    split at h
    · next name hname =>
      cases h
      exact .inr (.inr (.inr ⟨v, name, rfl, hname, rfl⟩))
    · cases h

theorem triggerInList_eq_ok_iff {v : Value} {t : Trigger} :
    triggerInList v = .ok t ↔ ∃ name, eventName? v = some name ∧ t = .named name := by
  unfold triggerInList
  cases eventName? v with
  | none => simp
  | some name => simp [eq_comm]

theorem triggerOfEntry_eq_ok_iff {e : Value × Value} {t : Trigger} :
    triggerOfEntry e = .ok t ↔
      ∃ name filters, eventName? e.1 = some name ∧ eventFilters name e.2 = .ok filters ∧ t = ⟨name, filters⟩ := by
  unfold triggerOfEntry
  cases eventName? e.1 with
  | none => simp
  | some name =>
    dsimp only
    rw [bind_eq_ok_iff]
    simp [pure_eq_ok_iff]

theorem cronExpressions_eq_ok {config : Value} {texts : List String} (h : cronExpressions config = .ok texts) :
    ∃ items, config = .list items ∧ ∀ text ∈ texts, ∃ item ∈ items, text? item cronFilter = some text := by
  unfold cronExpressions at h
  split at h
  · next items =>
    refine ⟨items, rfl, fun text htext => ?_⟩
    obtain ⟨item, hitem, hok⟩ := exists_mem_of_forall₂ (mapM_eq_ok_iff.mp h) htext
    split at hok
    · next s hs =>
      cases hok
      exact ⟨item, List.mem_of_mem_filter hitem, hs⟩
    · cases hok
  · cases h

theorem addFilter_cases {eventId : String} {m m' : Text.Map (List String)} {e : Value × Value}
    (h : addFilter eventId m e = .ok m') :
    m' = m ∨ ∃ name values,
      (e.1.scalarText? = some name ∧ ∃ field, filterValues? field e.2 = .ok (some values)) ∧
        m' = m.insert name values := by
  unfold addFilter at h
  split at h
  · cases h
    exact .inl rfl
  · next name hname =>
    obtain ⟨values?, hvalues, h⟩ := bind_eq_ok_iff.mp h
    cases values? with
    | none =>
      cases h
      exact .inl rfl
    | some values =>
      cases h
      exact .inr ⟨name, values, ⟨hname, _, hvalues⟩, rfl⟩

theorem eventFilters_of_ne_null {name : String} {config : Value} (h : config ≠ .null) :
    eventFilters name config =
      if name = scheduleEvent then do return Text.Map.empty.insert cronFilter (← cronExpressions config)
      else if name = dispatchEvent then .ok .empty
      else match config with
        | .mapping entries => entries.foldlM (addFilter name) .empty
        | _ => .ok .empty := by
  cases config <;> first | exact absurd rfl h | rfl

theorem mem_of_eventFilters {eventId : String} {config : Value} {m : Text.Map (List String)}
    (h : eventFilters eventId config = .ok m) :
    ∀ e ∈ m.entries,
      (eventId = scheduleEvent ∧ e.1 = cronFilter ∧ cronExpressions config = .ok e.2) ∨
        ∃ es, config = .mapping es ∧
          ∃ f ∈ es, f.1.scalarText? = some e.1 ∧ ∃ field, filterValues? field f.2 = .ok (some e.2) := by
  intro e he
  unfold eventFilters at h
  split at h
  · cases h
    cases he
  · split at h
    · next hschedule =>
      obtain ⟨texts, htexts, h⟩ := bind_eq_ok_iff.mp h
      cases h
      rcases Text.Map.mem_entries_insert he with rfl | hmem
      · exact .inl ⟨hschedule, rfl, htexts⟩
      · cases hmem
    · split at h
      · cases h
        cases he
      · split at h
        · next es _ =>
          have hmem := mem_of_foldlM_insert
            (R := fun f name values => f.1.scalarText? = some name ∧
              ∃ field, filterValues? field f.2 = .ok (some values)) (fun _ _ _ => addFilter_cases) h
          exact .inr ⟨es, rfl, hmem e he⟩
        · cases h
          cases he

/-! Documents -/

theorem Document.of_ofValue {root : Value} {d : Document} (h : ofValue root = .ok d) :
    root.isMapping ∧ d.name = text? root "name" ∧ d.runName = text? root "run-name" ∧
      Workflow.jobs (root.field? "jobs") = .ok d.jobs ∧ Workflow.triggers (onNode? root) = .ok d.triggers ∧
      Workflow.permissions (root.field? "permissions") = .ok d.permissions ∧
      settings (root.field? "env") "env" = .ok d.env ∧
      Workflow.defaults (root.field? "defaults") "defaults" = .ok d.defaults := by
  unfold ofValue at h
  split at h
  · next hmapping =>
    obtain ⟨jobs, hjobs, h⟩ := bind_eq_ok_iff.mp h
    obtain ⟨triggers, htriggers, h⟩ := bind_eq_ok_iff.mp h
    obtain ⟨permissions, hpermissions, h⟩ := bind_eq_ok_iff.mp h
    obtain ⟨env, henv, h⟩ := bind_eq_ok_iff.mp h
    obtain ⟨defaults, hdefaults, h⟩ := bind_eq_ok_iff.mp h
    cases h
    exact ⟨hmapping, rfl, rfl, hjobs, htriggers, hpermissions, henv, hdefaults⟩
  · cases h

theorem exists_read_of_rel {read : Tree → Except Yaml.Error Value} {t : Tree} {v? : Option Value}
    (h : Option.Rel (fun t v => read t = .ok v) (some t) v?) : ∃ v, v? = some v ∧ read t = .ok v := by
  cases h with
  | some h => exact ⟨_, rfl, h⟩

def triggerNode? (read : Tree → Except Yaml.Error Value) (ts : List (Tree × Tree)) : Option Tree :=
  Tree.lookup? read ts (.string "on") <|> Tree.lookup? read ts (.bool true) <|> Tree.lookup? read ts (.string "true") <|>
    Tree.lookup? read ts (.string "True") <|> Tree.lookup? read ts (.string "TRUE")

theorem exists_mem_of_triggerNode? {read : Tree → Except Yaml.Error Value} {ts : List (Tree × Tree)} {n : Tree}
    (h : triggerNode? read ts = some n) : ∃ k, (k, n) ∈ ts := by
  have hlookup {key : Value} (hkey : key.IsExact) (h : Tree.lookup? read ts key = some n) : ∃ k, (k, n) ∈ ts := by
    obtain ⟨k, hk, -⟩ := Tree.exists_mem_of_lookup? hkey h
    exact ⟨k, hk⟩
  have hfirst {a b : Option Tree} (h : (a <|> b) = some n) : a = some n ∨ b = some n := by
    cases a with
    | none => exact .inr h
    | some _ => exact .inl h
  rcases hfirst h with h | h
  · exact hlookup (Value.isExact_string "on") h
  rcases hfirst h with h | h
  · exact hlookup (Value.isExact_bool true) h
  rcases hfirst h with h | h
  · exact hlookup (Value.isExact_string "true") h
  rcases hfirst h with h | h
  · exact hlookup (Value.isExact_string "True") h
  · exact hlookup (Value.isExact_string "TRUE") h

theorem rel_orElse {α β : Type} {R : α → β → Prop} {a a' : Option α} {b b' : Option β} (h : Option.Rel R a b)
    (h' : Option.Rel R a' b') : Option.Rel R (a <|> a') (b <|> b') := by
  cases h with
  | none => exact h'
  | some h => exact .some h

theorem field?_withTag (tag : Option Yaml.Tag) (es : List (Value × Value)) (name : String) :
    (Tree.withTag tag (.mapping es)).field? name = Value.lookup? es (.string name) := by
  unfold Tree.withTag
  split <;> rfl

theorem triggerNode?_read {read : Tree → Except Yaml.Error Value} {ts : List (Tree × Tree)} {rs : List (Value × Value)}
    (hread : Tree.EntriesRead read ts rs) (tag : Option Yaml.Tag) :
    Option.Rel (fun t v => read t = .ok v) (triggerNode? read ts)
      (onNode? (Tree.withTag tag (.mapping (Value.put [] rs)))) := by
  have htrue : ((Tree.withTag tag (.mapping (Value.put [] rs))).entries?.bind fun entries =>
      (entries.find? fun e => Value.same (.bool true) e.1).map (·.2)) = Value.lookup? (Value.put [] rs) (.bool true) := by
    unfold Tree.withTag
    split <;> rfl
  have hstring (name : String) := Tree.lookup?_read hread (Value.isExact_string name)
  rw [onNode?, htrue]
  simp only [field?_withTag]
  exact rel_orElse (hstring "on") (rel_orElse (Tree.lookup?_read hread (Value.isExact_bool true))
    (rel_orElse (hstring "true") (rel_orElse (hstring "True") (hstring "TRUE"))))

theorem Document.exists_root {text : String} {d : Document} (h : ofText text = .ok d) :
    ∃ tag ts v rs, Yaml.tree? text = .ok (some (.mapping tag ts)) ∧ (Tree.mapping tag ts).typed = .ok v ∧
      (Tree.mapping tag ts).asWritten = .ok (Tree.withTag tag (.mapping (Value.put [] rs))) ∧
      Tree.EntriesRead (Tree.readBelow tag) ts rs ∧
      ofValue (Tree.withTag tag (.mapping (Value.put [] rs))) = .ok d := by
  unfold ofText at h
  split at h
  · next root hroot =>
    obtain ⟨t, v, ht, hv, hw⟩ := Yaml.exists_tree_of_valueAsWritten hroot (of_ofValue h).1
    obtain ⟨tag, ts, rfl⟩ := Tree.exists_mapping hw (of_ofValue h).1
    obtain ⟨rs, hrs, rfl⟩ := Tree.asWritten_mapping_put hw
    exact ⟨tag, ts, v, rs, ht, hv, hw, hrs, h⟩
  · cases h

end RepoConventions.Workflow
