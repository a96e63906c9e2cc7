import RepoConventions.Proofs.Workflow.Decoding

/-!
# Forms of a list of events

Events stand alone, in a list, or as the keys of a mapping. As long as no event has a configuration the form makes no
difference to the triggers, and a node that names no event is refused in every form.
-/

namespace RepoConventions.Workflow

open Yaml (Value exists_first_not mapM_eq_ok_iff mapM_of_first_error)

/-- A node that names no event. -/
inductive NamesNoEvent : Value → Prop
  | null : NamesNoEvent .null
  | list (items : List Value) : NamesNoEvent (.list items)
  | mapping (es : List (Value × Value)) : NamesNoEvent (.mapping es)
  | tagged (tag : String) (v : Value) : NamesNoEvent (.tagged tag v)

theorem not_namesNoEvent_iff {v : Value} : ¬ NamesNoEvent v ↔ v.HasText := by
  constructor
  · intro h
    cases v with
    | null => exact absurd .null h
    | list items => exact absurd (.list items) h
    | mapping es => exact absurd (.mapping es) h
    | tagged tag v => exact absurd (.tagged tag v) h
    | bool b => trivial
    | number n => trivial
    | string s => trivial
  · intro htext hnone
    cases hnone <;> exact htext

theorem eventName?_of_namesNoEvent {v : Value} (h : NamesNoEvent v) : eventName? v = none := by
  cases h <;> rfl

theorem eventName?_of_hasText {v : Value} (h : v.HasText) :
    ∃ name, v.scalarText? = some name ∧ eventName? v = some name := by
  rcases h.cases with ⟨b, rfl⟩ | ⟨n, rfl⟩ | ⟨s, rfl⟩ <;> exact ⟨_, rfl, rfl⟩

/-- The mapping that gives each of the nodes a null configuration, one after another. -/
def bareMapping (nodes : List Value) : Value := .mapping (Value.put [] (nodes.map fun v => (v, .null)))

structure BareTriggerOf (v : Value) (t : Trigger) : Prop where
  eventId : v.scalarText? = some t.eventId
  filters : t.filters = .empty

/-! One node -/

theorem exists_bareTrigger {v : Value} (h : v.HasText) :
    ∃ t, triggerInList v = .ok t ∧ triggerOfEntry (v, .null) = .ok t ∧ BareTriggerOf v t := by
  obtain ⟨name, htext, hname⟩ := eventName?_of_hasText h
  refine ⟨.named name, ?_, ?_, htext, rfl⟩
  · rw [triggerInList, hname]
  · rw [triggerOfEntry, hname]
    rfl

theorem triggerInList_of_namesNoEvent {v : Value} (h : NamesNoEvent v) :
    triggerInList v = .error (.invalidField "on" (.eventInList v.kindName)) := by
  rw [triggerInList, eventName?_of_namesNoEvent h]

theorem triggerOfEntry_of_namesNoEvent {e : Value × Value} (h : NamesNoEvent e.1) :
    triggerOfEntry e = .error (.invalidField "on" (.eventName e.1.kindName)) := by
  rw [triggerOfEntry, eventName?_of_namesNoEvent h]

/-! Lists of nodes -/

theorem triggers_list (nodes : List Value) : triggers (some (.list nodes)) = nodes.mapM triggerInList := rfl

/-- Nodes that are apart are all keys of the mapping. -/
theorem triggers_bareMapping {nodes : List Value} (h : nodes.Pairwise fun v w => v.same w = false) :
    triggers (some (bareMapping nodes)) = nodes.mapM fun v => triggerOfEntry (v, .null) := by
  have hapart : (nodes.map fun v => (v, Value.null)).Pairwise fun e f => e.1.same f.1 = false :=
    List.pairwise_map.mpr h
  -- No entry takes the place of another, so the mapping has the nodes for keys in their order.
  rw [bareMapping, Value.put_nil hapart, triggers, List.mapM_map]
  rfl

theorem exists_bareTriggers {nodes : List Value} (h : ∀ v ∈ nodes, v.HasText) :
    ∃ ts, nodes.mapM triggerInList = .ok ts ∧ (nodes.mapM fun v => triggerOfEntry (v, .null)) = .ok ts ∧
      List.Forall₂ BareTriggerOf nodes ts := by
  induction nodes with
  | nil => exact ⟨[], rfl, rfl, .nil⟩
  | cons v rest ih =>
    have hrest : ∀ w ∈ rest, w.HasText := fun w hw => h w (List.mem_cons_of_mem v hw)
    obtain ⟨t, hlist, hentry, ht⟩ := exists_bareTrigger (h v List.mem_cons_self)
    obtain ⟨ts, hlists, hentries, hts⟩ := ih hrest
    refine ⟨t :: ts, ?_, ?_, .cons ht hts⟩
    · rw [List.mapM_cons, hlist, hlists]
      rfl
    · rw [List.mapM_cons, hentry, hentries]
      rfl

theorem exists_refused {nodes : List Value} (h : ∃ v ∈ nodes, NamesNoEvent v) :
    ∃ before v after, nodes = before ++ v :: after ∧ (∀ u ∈ before, ¬ NamesNoEvent u) ∧ NamesNoEvent v ∧
      nodes.mapM triggerInList = .error (.invalidField "on" (.eventInList v.kindName)) ∧
      (nodes.mapM fun u => triggerOfEntry (u, .null)) = .error (.invalidField "on" (.eventName v.kindName)) := by
  have hnot : ¬ ∀ v ∈ nodes, ¬ NamesNoEvent v := by
    intro hall
    obtain ⟨v, hv, hnone⟩ := h
    exact hall v hv hnone
  obtain ⟨before, v, after, rfl, hbefore, hv⟩ := exists_first_not hnot
  have hnone : NamesNoEvent v := not_not.mp hv
  have htriggers (u : Value) (hu : u ∈ before) := exists_bareTrigger (not_namesNoEvent_iff.mp (hbefore u hu))
  refine ⟨before, v, after, rfl, hbefore, hnone, ?_, ?_⟩
  · apply mapM_of_first_error _ (triggerInList_of_namesNoEvent hnone)
    intro u hu
    obtain ⟨t, hlist, -⟩ := htriggers u hu
    exact ⟨t, hlist⟩
  · have herror : triggerOfEntry (v, .null) = .error (.invalidField "on" (.eventName v.kindName)) :=
      triggerOfEntry_of_namesNoEvent hnone
    apply mapM_of_first_error (f := fun u => triggerOfEntry (u, .null)) _ herror
    intro u hu
    obtain ⟨t, -, hentry, -⟩ := htriggers u hu
    exact ⟨t, hentry⟩

/-- Nodes that are apart are decoded alike as a list and as the keys of a mapping without configurations: if all of them
name events there is one trigger for each, and otherwise the first one that names none is refused in both forms. One event
alone is decoded as the list of it. -/
theorem triggers_interchangeable :
    (∀ nodes : List Value, nodes.Pairwise (fun v w => v.same w = false) →
      ((∀ v ∈ nodes, ¬ NamesNoEvent v) → ∃ ts, triggers (some (.list nodes)) = .ok ts ∧
        triggers (some (bareMapping nodes)) = .ok ts ∧ List.Forall₂ BareTriggerOf nodes ts) ∧
      ((∃ v ∈ nodes, NamesNoEvent v) → ∃ before v after, nodes = before ++ v :: after ∧
        (∀ u ∈ before, ¬ NamesNoEvent u) ∧ NamesNoEvent v ∧
        triggers (some (.list nodes)) = .error (.invalidField "on" (.eventInList v.kindName)) ∧
        triggers (some (bareMapping nodes)) = .error (.invalidField "on" (.eventName v.kindName)))) ∧
    ∀ v : Value, ¬ NamesNoEvent v → triggers (some v) = triggers (some (.list [v])) := by
  constructor
  · intro nodes hapart
    rw [triggers_list, triggers_bareMapping hapart]
    constructor
    · intro hall
      exact exists_bareTriggers fun v hv => not_namesNoEvent_iff.mp (hall v hv)
    · exact exists_refused
  · intro v hname
    rcases (not_namesNoEvent_iff.mp hname).cases with ⟨b, rfl⟩ | ⟨n, rfl⟩ | ⟨s, rfl⟩ <;> rfl

/-- The number 42 and the string are two events, and the name of the schedule has no meaning without a configuration. -/
theorem triggers_interchangeable_named :
    [Value.number (.int 42), .string "42", .string scheduleEvent].Pairwise (fun v w => v.same w = false) ∧
      (∀ v ∈ [Value.number (.int 42), .string "42", .string scheduleEvent], ¬ NamesNoEvent v) ∧
      triggers (some (bareMapping [.number (.int 42), .string "42", .string scheduleEvent])) =
        .ok [.named "42", .named "42", .named scheduleEvent] ∧
      triggers (some (.bool true)) = triggers (some (.list [.bool true])) := by
  have hapart : [Value.number (.int 42), .string "42", .string scheduleEvent].Pairwise
      (fun v w => v.same w = false) := by decide +kernel
  have hnames : ∀ v ∈ [Value.number (.int 42), .string "42", .string scheduleEvent], ¬ NamesNoEvent v := by
    intro v hv
    rw [not_namesNoEvent_iff]
    simp only [List.mem_cons, List.not_mem_nil, or_false] at hv
    rcases hv with rfl | rfl | rfl <;> trivial
  obtain ⟨ts, hlist, hmapping, -⟩ := (triggers_interchangeable.1 _ hapart).1 hnames
  have hts : triggers (some (.list [.number (.int 42), .string "42", .string scheduleEvent])) =
      .ok [.named "42", .named "42", .named scheduleEvent] := by decide +kernel
  rw [hlist] at hts
  exact ⟨hapart, hnames, hmapping.trans hts, triggers_interchangeable.2 _ (not_namesNoEvent_iff.mpr trivial)⟩

end RepoConventions.Workflow
