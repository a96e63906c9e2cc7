import RepoConventions.Proofs.Workflow.EventForms
import RepoConventions.Proofs.Workflow.Language

/-!
# Configurations of events

Which configurations the events of a mapping may have, said without the decoders, and which filters are made of them. A
schedule has the cron expressions of its mappings as its one filter, the configuration of a manual start is not looked at,
and any other event has a filter for each scalar and each list in its configuration.
-/

namespace RepoConventions.Workflow

open Yaml (Value exists_getElem?_of_forall₂)

/-! What configurations say -/

def CronOf (item : Value) (text : String) : Prop := text? item cronFilter = some text

/-- A list in which every mapping has a cron expression. -/
inductive IsSchedule : Value → Prop
  | list {items : List Value} (h : ∀ item ∈ items, item.isMapping = true → ∃ text, CronOf item text) :
    IsSchedule (.list items)

def HoldsTexts (v : Value) : Prop := ∀ items, v = .list items → ∀ item ∈ items, ∃ text, item.scalarText? = some text

structure IsConfiguration (eventId : String) (config : Value) : Prop where
  schedule : eventId = scheduleEvent → config ≠ .null → IsSchedule config
  lists : eventId ≠ scheduleEvent → eventId ≠ dispatchEvent → ∀ es, config = .mapping es →
    ∀ e ∈ es, ∀ name, e.1.scalarText? = some name → HoldsTexts e.2

/-- A value that a filter is made of: a scalar or a list, neither null nor tagged. -/
def isFilterValue : Value → Bool
  | .bool _ | .number _ | .string _ | .list _ => true
  | .null | .mapping _ | .tagged .. => false

/-- The texts of a filter: that of the scalar, or those of the items in order. -/
inductive FilterTexts : Value → List String → Prop
  | scalar {v : Value} {text : String} (hv : v.HasText) (htext : v.scalarText? = some text) : FilterTexts v [text]
  | list {items : List Value} {texts : List String}
    (h : List.Forall₂ (fun item text => item.scalarText? = some text) items texts) : FilterTexts (.list items) texts

/-- The entries of a configuration that filters are made of, by the texts of their keys. -/
def filterEntries (es : List (Value × Value)) : List (String × Value) :=
  (keyedEntries es).filter fun e => isFilterValue e.2

structure FiltersOf (eventId : String) (config : Value) (m : Text.Map (List String)) : Prop where
  null : config = .null → m = .empty
  schedule : eventId = scheduleEvent → ∀ items, config = .list items → ∃ texts,
    m.entries = [(cronFilter, texts)] ∧ List.Forall₂ CronOf (items.filter Value.isMapping) texts
  dispatch : eventId = dispatchEvent → m = .empty
  noMapping : eventId ≠ scheduleEvent → (∀ es, config ≠ .mapping es) → m = .empty
  mapping : eventId ≠ scheduleEvent → eventId ≠ dispatchEvent → ∀ es, config = .mapping es →
    LastWins (fun texts v => FilterTexts v texts) m (filterEntries es)

/-- An entry that names an event and gives it a configuration it may have. -/
structure IsEvent (e : Value × Value) : Prop where
  name : e.1.HasText
  configuration : ∀ name, e.1.scalarText? = some name → IsConfiguration name e.2

structure TriggerOf (e : Value × Value) (t : Trigger) : Prop where
  eventId : e.1.scalarText? = some t.eventId
  filters : FiltersOf t.eventId e.2 t.filters

def textOr (e : Error) : Option String → Except Error String
  | some text => .ok text
  | none => .error e

theorem textOr_decodes (e : Error) (text? : Option String) :
    Decodes (textOr e text?) (∃ text, text? = some text) fun text => text? = some text := by
  cases text? with
  | none => exact .error (by simp)
  | some text => exact .ok ⟨text, rfl⟩ rfl

/-! Schedules -/

theorem cronExpressions_list (items : List Value) : cronExpressions (.list items) =
    (items.filter Value.isMapping).mapM
      fun item => textOr (.invalidField "on.schedule" .noCron) (text? item cronFilter) := rfl

theorem cronExpressions_decodes (config : Value) : Decodes (cronExpressions config) (IsSchedule config)
    fun texts => ∀ items, config = .list items → List.Forall₂ CronOf (items.filter Value.isMapping) texts := by
  by_cases hlist : ∃ items, config = .list items
  · obtain ⟨items, rfl⟩ := hlist
    rw [cronExpressions_list]
    have hitems := Decodes.mapM fun (item : Value) (_ : item ∈ items.filter Value.isMapping) =>
      textOr_decodes (.invalidField "on.schedule" .noCron) (text? item cronFilter)
    refine hitems.mono ⟨fun h => .list fun item hitem hmapping => ?_, fun h => ?_⟩ ?_
    · exact h item (List.mem_filter.mpr ⟨hitem, hmapping⟩)
    · cases h with
      | list h =>
        intro item hitem
        obtain ⟨hmem, hmapping⟩ := List.mem_filter.mp hitem
        exact h item hmem hmapping
    · intro _ texts htexts items' heq
      cases heq
      exact htexts
  · have herror : cronExpressions config = .error (.invalidField "on.schedule" (.notList config.kindName)) := by
      cases config with
      | list items => exact absurd ⟨items, rfl⟩ hlist
      | _ => rfl
    rw [herror]
    refine .error fun h => ?_
    cases h with
    | list _ => exact hlist ⟨_, rfl⟩

/-! Filters of other events -/

def filterTexts (field : String) (v : Value) : Except Error (List String) :=
  match v with
  | .list items => items.mapM fun item => textOr (.invalidField field (.inList item.kindName)) item.scalarText?
  | v => .ok v.scalarText?.toList

theorem filterValues?_of_isFilterValue (field : String) {v : Value} (h : isFilterValue v = true) :
    filterValues? field v = (filterTexts field v).map some := by
  cases v with
  | list items =>
    have hitems : filterValues? field (.list items) = filterTexts field (.list items) >>= fun texts => .ok (some texts) :=
      rfl
    rw [hitems]
    cases filterTexts field (.list items) <;> rfl
  | bool b => rfl
  | number n => rfl
  | string s => rfl
  | null => cases h
  | mapping es => cases h
  | tagged tag v => cases h

theorem filterValues?_of_not_isFilterValue (field : String) {v : Value} (h : isFilterValue v = false) :
    filterValues? field v = .ok none := by
  cases v <;> first | rfl | cases h

theorem filterTexts_decodes (field : String) {v : Value} (h : isFilterValue v = true) :
    Decodes (filterTexts field v) (HoldsTexts v) (FilterTexts v) := by
  cases v with
  | list items =>
    have hitems := Decodes.mapM fun (item : Value) (_ : item ∈ items) =>
      textOr_decodes (.invalidField field (.inList item.kindName)) item.scalarText?
    refine hitems.mono ⟨fun h items' heq => ?_, fun h => h items rfl⟩ fun _ _ htexts => .list htexts
    cases heq
    exact h
  | bool b => exact .ok nofun (.scalar trivial rfl)
  | number n => exact .ok nofun (.scalar trivial rfl)
  | string s => exact .ok nofun (.scalar trivial rfl)
  | null => cases h
  | mapping es => cases h
  | tagged tag v => cases h

def filterName? (e : Value × Value) : Option String := if isFilterValue e.2 then e.1.scalarText? else none

theorem keyedBy_filterName? (es : List (Value × Value)) : keyedBy filterName? es = filterEntries es := by
  rw [keyedBy, filterEntries, keyedEntries, List.filter_filterMap]
  congr 1
  funext e
  cases hvalue : isFilterValue e.2 <;> cases hkey : e.1.scalarText? <;> simp [filterName?, Option.filter_some, hvalue, hkey]

theorem addFilter_eq (eventId : String) (m : Text.Map (List String)) (e : Value × Value) :
    addFilter eventId m e = match filterName? e with
      | none => .ok m
      | some name => (filterTexts ("on." ++ eventId ++ "." ++ name) e.2).map (m.insert name) := by
  unfold addFilter filterName?
  cases hkey : e.1.scalarText? with
  | none => simp
  | some name =>
    cases hvalue : isFilterValue e.2 with
    | false =>
      simp only [filterValues?_of_not_isFilterValue _ hvalue]
      rfl
    | true =>
      simp only [filterValues?_of_isFilterValue _ hvalue, if_true]
      cases filterTexts ("on." ++ eventId ++ "." ++ name) e.2 <;> rfl

/-- Values that no filter is made of are no lists, so they hold no item without a text. -/
theorem forall_filterEntries_iff {es : List (Value × Value)} : (∀ e ∈ filterEntries es, HoldsTexts e.2) ↔
    ∀ e ∈ es, ∀ name, e.1.scalarText? = some name → HoldsTexts e.2 := by
  rw [← forall_keyedEntries_iff (p := HoldsTexts), filterEntries]
  constructor
  · intro h e he
    by_cases hvalue : isFilterValue e.2 = true
    · exact h e (List.mem_filter.mpr ⟨he, hvalue⟩)
    · intro items heq
      rw [heq] at hvalue
      exact absurd rfl hvalue
  · intro h e he
    exact h e (List.mem_of_mem_filter he)

theorem filters_decodes (eventId : String) (es : List (Value × Value)) :
    Decodes (es.foldlM (addFilter eventId) .empty)
      (∀ e ∈ es, ∀ name, e.1.scalarText? = some name → HoldsTexts e.2)
      fun m => LastWins (fun texts v => FilterTexts v texts) m (filterEntries es) := by
  -- An entry without a filter leaves the filters as they are, so the fold is one over the entries that have one.
  have hfold := Decodes.foldlM (addFilter_eq eventId) es fun name v hmem => filterTexts_decodes _ <| by
    rw [keyedBy_filterName?] at hmem
    exact (List.mem_filter.mp hmem).2
  rw [keyedBy_filterName?] at hfold
  exact hfold.mono forall_filterEntries_iff fun _ _ h => h

/-! Events -/

/-- An event has no filters unless it is a schedule or has a mapping that filters are made of. -/
theorem FiltersOf.empty {eventId : String} {config : Value} (hschedule : eventId = scheduleEvent → config = .null)
    (hmapping : eventId ≠ scheduleEvent → eventId ≠ dispatchEvent → ∀ es, config ≠ .mapping es) :
    FiltersOf eventId config .empty where
  null _ := rfl
  schedule heq items hitems := by
    rw [hschedule heq] at hitems
    cases hitems
  dispatch _ := rfl
  noMapping _ _ := rfl
  mapping hother hdispatch es heq := absurd heq (hmapping hother hdispatch es)

theorem nullConfiguration_decodes (eventId : String) :
    Decodes (eventFilters eventId .null) (IsConfiguration eventId .null) (FiltersOf eventId .null) :=
  .ok { schedule := fun _ hnull => absurd rfl hnull, lists := nofun } (.empty (fun _ => rfl) nofun)

theorem schedule_decodes {config : Value} (hnull : config ≠ .null) : Decodes (eventFilters scheduleEvent config)
    (IsConfiguration scheduleEvent config) (FiltersOf scheduleEvent config) := by
  have hmap : eventFilters scheduleEvent config =
      (cronExpressions config).map (Text.Map.empty.insert cronFilter) := by
    rw [eventFilters_of_ne_null hnull, if_pos rfl]
    cases cronExpressions config <;> rfl
  rw [hmap]
  refine (cronExpressions_decodes config).map.mono ⟨fun h => ?_, fun h => h.schedule rfl hnull⟩ ?_
  · exact { schedule := fun _ _ => h, lists := fun hother => absurd rfl hother }
  · intro _ m hm
    obtain ⟨texts, htexts, rfl⟩ := hm
    exact {
      null := fun h => absurd h hnull
      schedule := fun _ items hitems => ⟨texts, rfl, htexts items hitems⟩
      dispatch := fun h => absurd h (by decide)
      noMapping := fun hother => absurd rfl hother
      mapping := fun hother => absurd rfl hother }

theorem dispatch_decodes {config : Value} (hnull : config ≠ .null) : Decodes (eventFilters dispatchEvent config)
    (IsConfiguration dispatchEvent config) (FiltersOf dispatchEvent config) := by
  have hother : dispatchEvent ≠ scheduleEvent := by decide
  rw [eventFilters_of_ne_null hnull, if_neg hother, if_pos rfl]
  have hconfiguration : IsConfiguration dispatchEvent config :=
    { schedule := fun h => absurd h hother, lists := fun _ hdispatch => absurd rfl hdispatch }
  exact .ok hconfiguration (.empty (fun h => absurd h hother) fun _ hdispatch => absurd rfl hdispatch)

theorem otherEvent_decodes {eventId : String} {config : Value} (hschedule : eventId ≠ scheduleEvent)
    (hdispatch : eventId ≠ dispatchEvent) (hnull : config ≠ .null) :
    Decodes (eventFilters eventId config) (IsConfiguration eventId config) (FiltersOf eventId config) := by
  rw [eventFilters_of_ne_null hnull, if_neg hschedule, if_neg hdispatch]
  cases config with
  | mapping es =>
    refine (filters_decodes eventId es).mono ⟨fun h => ?_, fun h => h.lists hschedule hdispatch es rfl⟩ ?_
    · refine { schedule := fun heq => absurd heq hschedule, lists := fun _ _ es' heq => ?_ }
      cases heq
      exact h
    · intro _ m hm
      refine {
        null := fun h => absurd h hnull
        schedule := fun h => absurd h hschedule
        dispatch := fun h => absurd h hdispatch
        noMapping := fun _ hmapping => absurd rfl (hmapping es)
        mapping := fun _ _ es' heq => ?_ }
      cases heq
      exact hm
  | _ =>
    exact .ok { schedule := fun h => absurd h hschedule, lists := nofun } (.empty (fun h => absurd h hschedule) nofun)

theorem eventFilters_decodes (eventId : String) (config : Value) :
    Decodes (eventFilters eventId config) (IsConfiguration eventId config) (FiltersOf eventId config) := by
  by_cases hnull : config = .null
  · rw [hnull]
    exact nullConfiguration_decodes eventId
  by_cases hschedule : eventId = scheduleEvent
  · rw [hschedule]
    exact schedule_decodes hnull
  by_cases hdispatch : eventId = dispatchEvent
  · rw [hdispatch]
    exact dispatch_decodes hnull
  · exact otherEvent_decodes hschedule hdispatch hnull

theorem triggerOfEntry_decodes (e : Value × Value) : Decodes (triggerOfEntry e) (IsEvent e) (TriggerOf e) := by
  by_cases htext : e.1.HasText
  · obtain ⟨name, hkey, hname⟩ := eventName?_of_hasText htext
    have hmap : triggerOfEntry e = (eventFilters name e.2).map (Trigger.mk name) := by
      simp only [triggerOfEntry, hname]
      cases eventFilters name e.2 <;> rfl
    rw [hmap]
    refine (eventFilters_decodes name e.2).map.mono ⟨fun h => ⟨htext, ?_⟩, fun h => h.configuration name hkey⟩ ?_
    · intro name' hkey'
      rw [hkey] at hkey'
      cases hkey'
      exact h
    · intro _ t ht
      obtain ⟨m, hm, rfl⟩ := ht
      exact ⟨hkey, hm⟩
  · have hnone : NamesNoEvent e.1 := by
      by_contra hname
      exact htext (not_namesNoEvent_iff.mp hname)
    rw [triggerOfEntry_of_namesNoEvent hnone]
    exact .error fun h => htext h.name

theorem triggers_mapping_decodes (es : List (Value × Value)) :
    Decodes (triggers (some (.mapping es))) (∀ e ∈ es, IsEvent e) fun ts => List.Forall₂ TriggerOf es ts :=
  Decodes.mapM fun e _ => triggerOfEntry_decodes e

/-! A scalar for a list of one -/

theorem addFilter_singleton (eventId : String) (m : Text.Map (List String)) (name : Value) {v : Value}
    (hv : v.HasText) : addFilter eventId m (name, .list [v]) = addFilter eventId m (name, v) := by
  have hvalues (field : String) : filterValues? field (.list [v]) = filterValues? field v := by
    rcases hv.cases with ⟨b, rfl⟩ | ⟨n, rfl⟩ | ⟨s, rfl⟩ <;> rfl
  simp only [addFilter, hvalues]

theorem eventFilters_singleton (eventId : String) (before : List (Value × Value)) (name : Value) {v : Value}
    (hv : v.HasText) (after : List (Value × Value)) :
    eventFilters eventId (.mapping (before ++ (name, .list [v]) :: after)) =
      eventFilters eventId (.mapping (before ++ (name, v) :: after)) := by
  simp only [eventFilters, cronExpressions, Value.kindName, List.foldlM_append, List.foldlM_cons,
    addFilter_singleton _ _ _ hv]

theorem triggers_singleton (before : List (Value × Value)) (key : Value) (first : List (Value × Value)) (name : Value)
    {v : Value} (hv : v.HasText) (last after : List (Value × Value)) :
    triggers (some (.mapping (before ++ (key, .mapping (first ++ (name, .list [v]) :: last)) :: after))) =
      triggers (some (.mapping (before ++ (key, .mapping (first ++ (name, v) :: last)) :: after))) := by
  simp only [triggers, List.mapM_append, List.mapM_cons, triggerOfEntry, eventFilters_singleton _ _ _ hv]

/-! Mappings of events -/

/-- Just the mappings are decoded in which every key names an event and every configuration is one that the event may
have, and there is one trigger for each entry in order, with the filters of its configuration. In a configuration, a scalar
and the list of it are decoded alike. -/
theorem triggers_mapping_language (es : List (Value × Value)) :
    ((∃ ts, triggers (some (.mapping es)) = .ok ts) ↔ ∀ e ∈ es, IsEvent e) ∧
      (∀ ts, triggers (some (.mapping es)) = .ok ts → List.Forall₂ TriggerOf es ts) ∧
      ∀ before key first name v last after, v.HasText →
        es = before ++ (key, .mapping (first ++ (name, v) :: last)) :: after →
        triggers (some (.mapping (before ++ (key, .mapping (first ++ (name, .list [v]) :: last)) :: after))) =
          triggers (some (.mapping es)) := by
  refine ⟨(triggers_mapping_decodes es).iff, fun ts hts => ((triggers_mapping_decodes es).sound hts).2, ?_⟩
  intro before key first name v last after hv hes
  rw [hes]
  exact triggers_singleton before key first name hv last after

/-- Of two keys of one name the last wins, a tagged value and a null take no filter away, and an item of a schedule that is
no mapping is passed over. -/
theorem triggers_mapping_language_mixed :
    ∃ es ts, triggers (some (.mapping es)) = .ok ts ∧ (∀ e ∈ es, IsEvent e) ∧ List.Forall₂ TriggerOf es ts ∧
      ts.map (fun t => (t.eventId, t.filters.entries)) =
        [("push", [("1", ["a", "2"]), ("tags", ["v"])]), ("schedule", [("cron", ["5"])]), ("workflow_dispatch", [])] := by
  let push : Value := .mapping [(.string "1", .string "main"), (.string "tags", .string "v"),
    (.number (.int 1), .list [.string "a", .number (.int 2)]), (.tagged "x" (.string "1"), .null),
    (.tagged "y" (.string "tags"), .tagged "z" (.string "w")), (.null, .list [.null])]
  let schedule : Value := .list [.string "0 5 * * 1", .tagged "x" (.mapping [(.string "cron", .number (.int 5))])]
  let dispatch : Value := .mapping [(.string "inputs", .list [.null])]
  let es : List (Value × Value) :=
    [(.string "push", push), (.string "schedule", schedule), (.string "workflow_dispatch", dispatch)]
  obtain ⟨ts, hts, hfilters⟩ := Yaml.exists_ok_of_map (x := triggers (some (.mapping es)))
    (f := fun ts => ts.map fun t => (t.eventId, t.filters.entries))
    (b := [("push", [("1", ["a", "2"]), ("tags", ["v"])]), ("schedule", [("cron", ["5"])]), ("workflow_dispatch", [])])
    (by decide +kernel)
  obtain ⟨hiff, hall, -⟩ := triggers_mapping_language es
  exact ⟨es, ts, hts, hiff.mp ⟨ts, hts⟩, hall ts hts, hfilters⟩

/-! Schedules in a mapping of events -/

theorem isEvent_schedule_iff {items : List Value} : IsEvent (.string scheduleEvent, .list items) ↔
    ∀ item ∈ items, item.isMapping = true → ∃ text, CronOf item text := by
  constructor
  · intro h
    have hconfiguration := h.configuration scheduleEvent rfl
    cases hconfiguration.schedule rfl nofun with
    | list hitems => exact hitems
  · intro hitems
    refine ⟨trivial, fun name hname => ?_⟩
    cases hname
    exact { schedule := fun _ _ => .list hitems, lists := fun hother => absurd rfl hother }

/-- A mapping with a schedule is decoded just if it is without it and every mapping among the items of the schedule has a
cron expression. The trigger of the schedule has the expressions of these items in order, hence one for each item exactly if
all of them are mappings. -/
theorem triggers_schedule (before after : List (Value × Value)) (items : List Value) :
    ((∃ ts, triggers (some (.mapping (before ++ (.string scheduleEvent, .list items) :: after))) = .ok ts) ↔
      (∃ ts, triggers (some (.mapping (before ++ after))) = .ok ts) ∧
        ∀ item ∈ items, item.isMapping = true → ∃ text, CronOf item text) ∧
    ∀ ts, triggers (some (.mapping (before ++ (.string scheduleEvent, .list items) :: after))) = .ok ts →
      ∃ t texts, ts[before.length]? = some t ∧ t.eventId = scheduleEvent ∧ t.filters.entries = [(cronFilter, texts)] ∧
        List.Forall₂ CronOf (items.filter Value.isMapping) texts ∧
        (List.Forall₂ CronOf items texts ↔ ∀ item ∈ items, item.isMapping = true) ∧
        (texts.length = items.length ↔ ∀ item ∈ items, item.isMapping = true) := by
  constructor
  · rw [(triggers_mapping_decodes _).iff, (triggers_mapping_decodes _).iff, List.forall_mem_append, List.forall_mem_cons,
      List.forall_mem_append, isEvent_schedule_iff]
    tauto
  · intro ts hts
    obtain ⟨t, ht, htrigger⟩ := exists_getElem?_of_forall₂ ((triggers_mapping_decodes _).sound hts).2
    have heventId : t.eventId = scheduleEvent := (Option.some.inj htrigger.eventId).symm
    obtain ⟨texts, hentries, hcrons⟩ := htrigger.filters.schedule heventId items rfl
    refine ⟨t, texts, ht, heventId, hentries, hcrons, ?_, ?_⟩
    · constructor
      · intro hitems
        rw [← List.length_filter_eq_length_iff, hcrons.length_eq, hitems.length_eq]
      · intro hmappings
        rw [List.filter_eq_self.mpr hmappings] at hcrons
        exact hcrons
    · rw [← hcrons.length_eq, List.length_filter_eq_length_iff]

/-- Of three items the second one is tagged, and the expression of the last is a number. -/
theorem triggers_schedule_mappings :
    ∃ ts, triggers (some (.mapping [(.string "push", .null), (.string "schedule", .list [
        .mapping [(.string "cron", .string "0 5 * * 1")], .tagged "x" (.mapping [(.string "cron", .string "30 2 * * *")]),
        .mapping [(.string "cron", .number (.int 5))]])])) = .ok ts ∧
      ∃ t texts, ts[1]? = some t ∧ t.filters.entries = [("cron", texts)] ∧ texts.length = 3 := by
  let items : List Value := [.mapping [(.string "cron", .string "0 5 * * 1")],
    .tagged "x" (.mapping [(.string "cron", .string "30 2 * * *")]), .mapping [(.string "cron", .number (.int 5))]]
  obtain ⟨hiff, hcrons⟩ := triggers_schedule [(.string "push", .null)] [] items
  have hpush : ∃ ts, triggers (some (.mapping ([(.string "push", .null)] ++ []))) = .ok ts := ⟨_, rfl⟩
  have hmappings : ∀ item ∈ items, item.isMapping = true := by
    simp [items, Value.isMapping, Value.entries?]
  have htexts : ∀ item ∈ items, item.isMapping = true → ∃ text, CronOf item text := by
    intro item hitem _
    simp only [items, List.mem_cons, List.not_mem_nil, or_false] at hitem
    rcases hitem with rfl | rfl | rfl <;> exact ⟨_, rfl⟩
  obtain ⟨ts, hts⟩ := hiff.mpr ⟨hpush, htexts⟩
  obtain ⟨t, texts, ht, -, hentries, -, -, hlength⟩ := hcrons ts hts
  exact ⟨ts, hts, t, texts, ht, hentries, hlength.mpr hmappings⟩

/-- An item that is the expression itself has none in the trigger, and nothing is reported. -/
theorem triggers_drops_expression :
    triggers (some (.mapping [(.string "schedule", .list [.mapping [(.string "cron", .string "0 5 * * 1")],
      .string "30 2 * * *"])])) = .ok [⟨"schedule", ⟨[("cron", ["0 5 * * 1"])]⟩⟩] := by
  decide +kernel

end RepoConventions.Workflow
