import Mathlib.Data.List.Forall2
import RepoConventions.Yaml.Guided

/-!
# The events of a node

A node is passed as one whole, and the anchored nodes of a document are read from the anchored places of its events.
-/

namespace RepoConventions.Yaml

/-! Events of a node -/

namespace Node

mutual
theorem length_events (n : Node Nat) : n.events.length = n.markCount := by
  cases n with
  | scalar anchor tag text plain => rfl
  | sequence anchor tag items =>
    simp only [events, markCount, List.length_cons, List.length_append, List.length_nil, length_eventsItems items]
    omega
  | mapping anchor tag entries =>
    simp only [events, markCount, List.length_cons, List.length_append, List.length_nil, length_eventsEntries entries]
    omega
  | «alias» target => rfl

theorem length_eventsItems (items : List (Node Nat)) : (eventsItems items).length = markCountItems items := by
  cases items with
  | nil => rfl
  | cons n rest =>
    rw [eventsItems, markCountItems, List.length_append, length_events n, length_eventsItems rest]

theorem length_eventsEntries (entries : List (Node Nat × Node Nat)) :
    (eventsEntries entries).length = markCountEntries entries := by
  cases entries with
  | nil => rfl
  | cons e rest =>
    obtain ⟨k, v⟩ := e
    rw [eventsEntries, markCountEntries, List.length_append, List.length_append, length_events k, length_events v,
      length_eventsEntries rest]
end

end Node

namespace Guided

theorem atEnd_events (n : Node Nat) (rest : List Event) : atEnd (n.events ++ rest) = false := by
  cases n <;> rfl

theorem skip_end (opened : Nat) (rest : List Event) :
    skip (opened + 1) (.sequenceEnd :: rest) = (if opened = 0 then .ok rest else skip opened rest) ∧
      skip (opened + 1) (.mappingEnd :: rest) = (if opened = 0 then .ok rest else skip opened rest) := by
  cases opened <;> exact ⟨rfl, rfl⟩

mutual
/-- One node is passed, and the collections around it are left open. -/
theorem skip_events (n : Node Nat) (opened : Nat) (rest : List Event) :
    skip opened (n.events ++ rest) = if opened = 0 then .ok rest else skip opened rest := by
  cases n with
  | scalar anchor tag text plain => rfl
  | sequence anchor tag items =>
    rw [Node.events, List.cons_append, List.append_assoc, skip, skip_eventsItems items opened]
    exact (skip_end opened rest).1
  | mapping anchor tag entries =>
    rw [Node.events, List.cons_append, List.append_assoc, skip, skip_eventsEntries entries opened]
    exact (skip_end opened rest).2
  | «alias» target => rfl

theorem skip_eventsItems (items : List (Node Nat)) (opened : Nat) (rest : List Event) :
    skip (opened + 1) (Node.eventsItems items ++ rest) = skip (opened + 1) rest := by
  cases items with
  | nil => rfl
  | cons n items =>
    rw [Node.eventsItems, List.append_assoc, skip_events n, if_neg (Nat.succ_ne_zero opened), skip_eventsItems items]

theorem skip_eventsEntries (entries : List (Node Nat × Node Nat)) (opened : Nat) (rest : List Event) :
    skip (opened + 1) (Node.eventsEntries entries ++ rest) = skip (opened + 1) rest := by
  cases entries with
  | nil => rfl
  | cons e entries =>
    obtain ⟨k, v⟩ := e
    rw [Node.eventsEntries, List.append_assoc, List.append_assoc, skip_events k, if_neg (Nat.succ_ne_zero opened),
      skip_events v, if_neg (Nat.succ_ne_zero opened), skip_eventsEntries entries]
end

end Guided

/-! Anchors of nodes and places of events -/

/-- A place from which a node can be read, under the number of its anchor. -/
def PlaceOf (p : Nat × Node Nat) (q : Nat × List Event) : Prop := q.1 = p.1 ∧ ∃ after, q.2 = p.2.events ++ after

theorem lookup_of_places {anchors : List (Nat × Node Nat)} {places : List (Nat × List Event)}
    (hplaces : List.Forall₂ PlaceOf anchors places) {a : Nat} {n : Node Nat} (h : anchors.lookup a = some n) :
    ∃ after, places.lookup a = some (n.events ++ after) := by
  induction hplaces with
  | nil => cases h
  | @cons p q anchors places hplace hrest ih =>
    obtain ⟨b, m⟩ := p
    obtain ⟨b', es⟩ := q
    obtain ⟨hb, after, hes⟩ := hplace
    simp only at hb hes
    subst hb hes
    rw [List.lookup_cons] at h ⊢
    split at h
    · cases h
      exact ⟨after, rfl⟩
    · exact ih h

theorem anchorPlaces_cons_of_none {e : Event} (h : e.anchor? = none) (rest : List Event) :
    anchorPlaces (e :: rest) = anchorPlaces rest := by
  rw [anchorPlaces, h]
  rfl

theorem places_first {anchor : Option Nat} {n : Node Nat} {e : Event} {inner after : List Event}
    (hanchor : e.anchor? = anchor) (hevents : n.events ++ after = e :: inner) :
    List.Forall₂ PlaceOf (Node.anchorOf anchor n) (e.anchor?.map fun a => (a, e :: inner)).toList := by
  rw [hanchor]
  cases anchor with
  | none => exact .nil
  | some a => exact .cons ⟨rfl, after, hevents.symm⟩ .nil

mutual
/-- The anchored nodes in a node have the places of its events, in order. -/
theorem places_events (n : Node Nat) (rest : List Event) :
    ∃ places, anchorPlaces (n.events ++ rest) = places ++ anchorPlaces rest ∧
      List.Forall₂ PlaceOf n.anchored places := by
  cases n with
  | scalar anchor tag text plain =>
    refine ⟨_, rfl, ?_⟩
    exact places_first rfl rfl
  | sequence anchor tag items =>
    obtain ⟨places, hplaces, hitems⟩ := places_eventsItems items (.sequenceEnd :: rest)
    have hall : (Node.sequence anchor tag items).events ++ rest =
        .sequenceStart anchor :: (Node.eventsItems items ++ .sequenceEnd :: rest) := by
      rw [Node.events, List.cons_append, List.append_assoc]
      rfl
    refine ⟨_ ++ places, ?_, List.rel_append (places_first rfl hall) hitems⟩
    rw [hall, anchorPlaces, hplaces, anchorPlaces_cons_of_none rfl, List.append_assoc]
  | mapping anchor tag entries =>
    obtain ⟨places, hplaces, hentries⟩ := places_eventsEntries entries (.mappingEnd :: rest)
    have hall : (Node.mapping anchor tag entries).events ++ rest =
        .mappingStart anchor :: (Node.eventsEntries entries ++ .mappingEnd :: rest) := by
      rw [Node.events, List.cons_append, List.append_assoc]
      rfl
    refine ⟨_ ++ places, ?_, List.rel_append (places_first rfl hall) hentries⟩
    rw [hall, anchorPlaces, hplaces, anchorPlaces_cons_of_none rfl, List.append_assoc]
  | «alias» target => exact ⟨[], rfl, .nil⟩

theorem places_eventsItems (items : List (Node Nat)) (rest : List Event) :
    ∃ places, anchorPlaces (Node.eventsItems items ++ rest) = places ++ anchorPlaces rest ∧
      List.Forall₂ PlaceOf (Node.anchoredItems items) places := by
  cases items with
  | nil => exact ⟨[], rfl, .nil⟩
  | cons n items =>
    obtain ⟨later, hlater, hitems⟩ := places_eventsItems items rest
    obtain ⟨places, hplaces, hn⟩ := places_events n (Node.eventsItems items ++ rest)
    refine ⟨places ++ later, ?_, List.rel_append hn hitems⟩
    rw [Node.eventsItems, List.append_assoc, hplaces, hlater, List.append_assoc]

theorem places_eventsEntries (entries : List (Node Nat × Node Nat)) (rest : List Event) :
    ∃ places, anchorPlaces (Node.eventsEntries entries ++ rest) = places ++ anchorPlaces rest ∧
      List.Forall₂ PlaceOf (Node.anchoredEntries entries) places := by
  cases entries with
  | nil => exact ⟨[], rfl, .nil⟩
  | cons e entries =>
    obtain ⟨k, v⟩ := e
    obtain ⟨later, hlater, hentries⟩ := places_eventsEntries entries rest
    obtain ⟨values, hvalues, hv⟩ := places_events v (Node.eventsEntries entries ++ rest)
    obtain ⟨keys, hkeys, hk⟩ := places_events k (v.events ++ (Node.eventsEntries entries ++ rest))
    refine ⟨keys ++ values ++ later, ?_, List.rel_append (List.rel_append hk hv) hentries⟩
    rw [Node.eventsEntries, List.append_assoc, List.append_assoc, hkeys, hvalues, hlater, List.append_assoc,
      List.append_assoc]
end

theorem places_document (n : Node Nat) :
    List.Forall₂ PlaceOf n.anchored.reverse (anchorPlaces n.events).reverse := by
  obtain ⟨places, hplaces, hforall⟩ := places_events n []
  rw [List.append_nil, anchorPlaces, List.append_nil] at hplaces
  rw [hplaces]
  exact List.forall₂_reverse_iff.mpr hforall

end RepoConventions.Yaml
