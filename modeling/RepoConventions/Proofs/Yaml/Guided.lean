import RepoConventions.Proofs.Yaml.AsWritten
import RepoConventions.Proofs.Yaml.Events
import RepoConventions.Proofs.Yaml.Following

/-!
# The second reading keeps in step with the first

The first reading replaces aliases by nodes and counts them; the second one goes over the events of the document and
jumps. From any node on, both end at the same event, and the second one has followed no more aliases.
-/

namespace RepoConventions.Yaml

namespace Guided

open Node (run_bind_iff run_pure_iff run_lift_iff run_follow_iff)

variable {limit : Nat} {anchors : List (Nat × Node Nat)} {places : List (Nat × List Event)}

theorem enter_of_target (hplaces : List.Forall₂ PlaceOf anchors places) {n m : Node Nat} {c c₁ j : Nat}
    (h : (n.target limit anchors).run c = .ok (m, c₁)) (hj : j ≤ c) {e : Event} {inner : List Event}
    (hm : m.events = e :: inner) (rest : List Event) :
    ∃ after back j₁, j₁ ≤ c₁ ∧ (enter limit places (n.events ++ rest)).run j = .ok ((e, inner ++ after, back), j₁) ∧
      back.getD after = rest := by
  cases n with
  | «alias» a =>
    obtain ⟨hlimit, rfl, hlookup⟩ := Node.run_target_alias_iff.mp h
    obtain ⟨after, hafter⟩ := lookup_of_places hplaces hlookup
    rw [hm, List.cons_append] at hafter
    refine ⟨after, some rest, j + 1, by omega, ?_, rfl⟩
    refine run_bind_iff.mpr ⟨(), j + 1, run_follow_iff.mpr ⟨by omega, rfl⟩, ?_⟩
    rw [hafter]
    rfl
  | scalar anchor tag text plain =>
    obtain ⟨rfl, rfl⟩ := run_pure_iff.mp h
    cases hm
    exact ⟨rest, none, j, hj, rfl, rfl⟩
  | sequence anchor tag items =>
    obtain ⟨rfl, rfl⟩ := run_pure_iff.mp h
    cases hm
    exact ⟨rest, none, j, hj, rfl, rfl⟩
  | mapping anchor tag entries =>
    obtain ⟨rfl, rfl⟩ := run_pure_iff.mp h
    cases hm
    exact ⟨rest, none, j, hj, rfl, rfl⟩

theorem close_end (ending : Event) (rest : List Event) : close ending (ending :: rest) = .ok rest := if_pos rfl

theorem node_skipped {depth j : Nat} {n : Node Nat} {v : Value} (hv : v = .null ∨ ∃ name u, v = .tagged name u)
    (rest : List Event) : (node limit places depth v (n.events ++ rest)).run j = .ok ((v, rest), j) := by
  have hskip : skip 0 (n.events ++ rest) = .ok rest := by rw [skip_events, if_pos rfl]
  rcases hv with rfl | ⟨name, u, rfl⟩
  · rw [node]
    exact run_bind_iff.mpr ⟨rest, j, run_lift_iff.mpr ⟨hskip, rfl⟩, rfl⟩
  · rw [node]
    exact run_bind_iff.mpr ⟨rest, j, run_lift_iff.mpr ⟨hskip, rfl⟩, rfl⟩

theorem node_of_hasText {depth : Nat} {v : Value} (hv : v.HasText) (es : List Event) :
    node limit places depth v es = scalarText limit places es := by
  cases v with
  | bool b => rw [node]
  | number n => rw [node]
  | string s => rw [node]
  | _ => cases hv

/-- In step: from a node that the first reading takes to a tree, and with no more aliases counted, the second reading
gives the tree as written, ends behind the node, and has again counted no more aliases. -/
def InStep (limit : Nat) (anchors : List (Nat × Node Nat)) (places : List (Nat × List Event)) (depth : Nat) : Prop :=
  ∀ (n : Node Nat) (c c' : Nat) (t : Tree) (v w : Value), (n.expand limit anchors depth).run c = .ok (t, c') →
    t.typed = .ok v → t.asWritten = .ok w → ∀ j, j ≤ c → ∀ rest,
      ∃ j', j' ≤ c' ∧ (node limit places depth v (n.events ++ rest)).run j = .ok ((w, rest), j')

theorem nodes_inStep {depth : Nat} (hstep : InStep limit anchors places depth) {items : List (Node Nat)} {c c' : Nat}
    {ts : List Tree} {vs ws : List Value}
    (hts : (items.mapM (Node.expand limit anchors depth)).run c = .ok (ts, c'))
    (hvs : Tree.typedItems ts = .ok vs) (hws : Tree.asWrittenItems ts = .ok ws) {j : Nat} (hj : j ≤ c)
    (rest : List Event) :
    ∃ j', j' ≤ c' ∧ (nodes limit places depth vs (Node.eventsItems items ++ rest)).run j = .ok ((ws, rest), j') := by
  induction items generalizing c ts vs ws j with
  | nil =>
    obtain ⟨rfl, rfl⟩ := Node.run_mapM_nil_iff.mp hts
    rw [Tree.typedItems, pure_eq_ok_iff] at hvs
    rw [Tree.asWrittenItems, pure_eq_ok_iff] at hws
    subst hvs hws
    rw [nodes]
    exact ⟨j, hj, rfl⟩
  | cons n items ih =>
    obtain ⟨t, c₁, ts', ht, hts', rfl⟩ := Node.run_mapM_cons_iff.mp hts
    obtain ⟨v, vs', hv, hvs', rfl⟩ := Tree.typedItems_cons_iff.mp hvs
    obtain ⟨w, ws', hw, hws', rfl⟩ := Tree.asWrittenItems_cons_iff.mp hws
    obtain ⟨j₁, hj₁, hn⟩ := hstep n c c₁ t v w ht hv hw j hj (Node.eventsItems items ++ rest)
    obtain ⟨j', hj', hitems⟩ := ih hts' hvs' hws' hj₁
    refine ⟨j', hj', ?_⟩
    rw [Node.eventsItems, List.append_assoc, nodes, atEnd_events]
    exact run_bind_iff.mpr ⟨_, j₁, hn, run_bind_iff.mpr ⟨_, j', hitems, rfl⟩⟩

theorem entriesAfter_inStep {depth : Nat} (hstep : InStep limit anchors places depth)
    {entries : List (Node Nat × Node Nat)} {c c' : Nat} {ts : List (Tree × Tree)}
    {done es written fs : List (Value × Value)}
    (hts : (entries.mapM (Node.expandEntry limit anchors depth)).run c = .ok (ts, c'))
    (hes : Tree.typedEntries done ts = .ok (done ++ es)) (hfs : Tree.asWrittenEntries written ts = .ok fs) {j : Nat}
    (hj : j ≤ c) (rest : List Event) :
    ∃ j', j' ≤ c' ∧
      (entriesAfter limit places depth written es (Node.eventsEntries entries ++ rest)).run j =
        .ok ((fs, rest), j') := by
  induction entries generalizing c ts done es written fs j with
  | nil =>
    obtain ⟨rfl, rfl⟩ := Node.run_mapM_nil_iff.mp hts
    rw [Tree.typedEntries, pure_eq_ok_iff] at hes
    rw [Tree.asWrittenEntries, pure_eq_ok_iff] at hfs
    obtain rfl : es = [] := by simpa using hes
    subst hfs
    rw [entriesAfter]
    exact ⟨j, hj, rfl⟩
  | cons e entries ih =>
    obtain ⟨k, n⟩ := e
    obtain ⟨⟨kt, t⟩, c₁, ts', he, hts', rfl⟩ := Node.run_mapM_cons_iff.mp hts
    obtain ⟨kt', ck, hk, he⟩ := run_bind_iff.mp he
    obtain ⟨t', cv, hn, he⟩ := run_bind_iff.mp he
    obtain ⟨he, rfl⟩ := run_pure_iff.mp he
    cases he
    obtain ⟨key, value, hkey, -, hvalue, hrest⟩ := Tree.typedEntries_cons_iff.mp hes
    obtain ⟨key', value', hkey', hvalue', hrest'⟩ := Tree.asWrittenEntries_cons_iff.mp hfs
    obtain ⟨es', hes', -⟩ := Tree.entriesRead_typed hrest
    rw [List.append_assoc] at hes'
    obtain rfl : es = (key, value) :: es' := List.append_cancel_left hes'
    have hes'' : Tree.typedEntries (done ++ [(key, value)]) ts' = .ok (done ++ [(key, value)] ++ es') := by
      rw [hrest, List.append_assoc]
      rfl
    obtain ⟨jk, hjk, hkrun⟩ :=
      hstep k c ck kt key key' hk hkey hkey' j hj (n.events ++ (Node.eventsEntries entries ++ rest))
    obtain ⟨jv, hjv, hvrun⟩ :=
      hstep n ck c₁ t value value' hn hvalue hvalue' jk hjk (Node.eventsEntries entries ++ rest)
    obtain ⟨j', hj', hentries⟩ := ih hts' hes'' hrest' hjv
    refine ⟨j', hj', ?_⟩
    rw [Node.eventsEntries, List.append_assoc, List.append_assoc, entriesAfter, atEnd_events]
    exact run_bind_iff.mpr ⟨_, jk, hkrun, run_bind_iff.mpr ⟨_, jv, hvrun, hentries⟩⟩

theorem node_of_scalar (hplaces : List.Forall₂ PlaceOf anchors places) {n : Node Nat} {c c₁ : Nat}
    {anchor : Option Nat} {tag : Option Tag} {text : String} {plain : Bool} {v w : Value}
    (hm : (n.target limit anchors).run c = .ok (.scalar anchor tag text plain, c₁))
    (hv : Tree.typed (.scalar tag text plain) = .ok v) (hw : Tree.asWritten (.scalar tag text plain) = .ok w)
    (depth : Nat) {j : Nat} (hj : j ≤ c) (rest : List Event) :
    ∃ j', j' ≤ c₁ ∧ (node limit places depth v (n.events ++ rest)).run j = .ok ((w, rest), j') := by
  have hjc : j ≤ c₁ := Nat.le_trans hj (Node.le_of_target hm)
  rcases Resolution.scalar_cases hv with rfl | ⟨name, u, rfl⟩ | htext
  · rw [Tree.asWritten_null hv] at hw
    cases hw
    exact ⟨j, hjc, node_skipped (.inl rfl) rest⟩
  · rw [Tree.asWritten_of_tagged hv] at hw
    cases hw
    exact ⟨j, hjc, node_skipped (.inr ⟨name, u, rfl⟩) rest⟩
  · rw [Tree.asWritten_scalar hv htext] at hw
    cases hw
    have hevents : (Node.scalar anchor tag text plain).events = .scalar anchor text :: [] := rfl
    obtain ⟨after, back, j₁, hj₁, henter, rfl⟩ := enter_of_target hplaces hm hj hevents rest
    refine ⟨j₁, hj₁, ?_⟩
    rw [node_of_hasText htext]
    exact run_bind_iff.mpr ⟨_, j₁, henter, rfl⟩

theorem node_of_tagged {depth j : Nat} {n : Node Nat} {t : Tree} {name : String} {u w : Value}
    (hv : t.typed = .ok (.tagged name u)) (hw : t.asWritten = .ok w) (rest : List Event) :
    (node limit places depth (.tagged name u) (n.events ++ rest)).run j = .ok ((w, rest), j) := by
  rw [Tree.asWritten_of_tagged hv] at hw
  cases hw
  exact node_skipped (.inr ⟨name, u, rfl⟩) rest

theorem node_of_sequence (hplaces : List.Forall₂ PlaceOf anchors places) {depth : Nat}
    (hstep : InStep limit anchors places depth) {n : Node Nat} {c c₁ c' : Nat} {anchor : Option Nat} {tag : Option Tag}
    {items : List (Node Nat)} {ts : List Tree} {v w : Value}
    (hm : (n.target limit anchors).run c = .ok (.sequence anchor tag items, c₁))
    (hts : (items.mapM (Node.expand limit anchors depth)).run c₁ = .ok (ts, c'))
    (hv : Tree.typed (.sequence tag ts) = .ok v) (hw : Tree.asWritten (.sequence tag ts) = .ok w)
    {j : Nat} (hj : j ≤ c) (rest : List Event) :
    ∃ j', j' ≤ c' ∧ (node limit places (depth + 1) v (n.events ++ rest)).run j = .ok ((w, rest), j') := by
  obtain ⟨vs, hvs, rfl⟩ := Tree.typed_sequence_iff.mp hv
  by_cases htag : Tree.IsCustom tag
  · obtain ⟨name, rfl⟩ := htag
    have hle : c₁ ≤ c' := Node.le_of_mapM (fun _ _ _ _ => Node.le_of_expand) hts
    exact ⟨j, Nat.le_trans hj (Nat.le_trans (Node.le_of_target hm) hle), node_of_tagged hv hw rest⟩
  · obtain ⟨ws, hws, rfl⟩ := (Tree.asWritten_sequence_iff htag).mp hw
    rw [Tree.withTag_of_not_isCustom htag]
    have hevents : (Node.sequence anchor tag items).events =
        .sequenceStart anchor :: (Node.eventsItems items ++ [.sequenceEnd]) := rfl
    obtain ⟨after, back, j₁, hj₁, henter, rfl⟩ := enter_of_target hplaces hm hj hevents rest
    obtain ⟨j', hj', hitems⟩ := nodes_inStep hstep hts hvs hws hj₁ (.sequenceEnd :: after)
    rw [List.append_assoc] at henter
    refine ⟨j', hj', ?_⟩
    rw [node]
    refine run_bind_iff.mpr ⟨_, j₁, henter, run_bind_iff.mpr ⟨_, j', hitems, ?_⟩⟩
    exact run_bind_iff.mpr ⟨after, j', run_lift_iff.mpr ⟨close_end .sequenceEnd after, rfl⟩, rfl⟩

theorem node_of_mapping (hplaces : List.Forall₂ PlaceOf anchors places) {depth : Nat}
    (hstep : InStep limit anchors places depth) {n : Node Nat} {c c₁ c' : Nat} {anchor : Option Nat} {tag : Option Tag}
    {entries : List (Node Nat × Node Nat)} {ts : List (Tree × Tree)} {v w : Value}
    (hm : (n.target limit anchors).run c = .ok (.mapping anchor tag entries, c₁))
    (hts : (entries.mapM (Node.expandEntry limit anchors depth)).run c₁ = .ok (ts, c'))
    (hv : Tree.typed (.mapping tag ts) = .ok v) (hw : Tree.asWritten (.mapping tag ts) = .ok w)
    {j : Nat} (hj : j ≤ c) (rest : List Event) :
    ∃ j', j' ≤ c' ∧ (node limit places (depth + 1) v (n.events ++ rest)).run j = .ok ((w, rest), j') := by
  obtain ⟨es, hes, rfl⟩ := Tree.typed_mapping_iff.mp hv
  by_cases htag : Tree.IsCustom tag
  · obtain ⟨name, rfl⟩ := htag
    have hle : c₁ ≤ c' := Node.le_of_mapM (fun _ _ _ _ => Node.le_of_expandEntry fun _ _ _ _ => Node.le_of_expand) hts
    exact ⟨j, Nat.le_trans hj (Nat.le_trans (Node.le_of_target hm) hle), node_of_tagged hv hw rest⟩
  · obtain ⟨fs, hfs, rfl⟩ := (Tree.asWritten_mapping_iff htag).mp hw
    rw [Tree.withTag_of_not_isCustom htag]
    have hevents : (Node.mapping anchor tag entries).events =
        .mappingStart anchor :: (Node.eventsEntries entries ++ [.mappingEnd]) := rfl
    have hes' : Tree.typedEntries [] ts = .ok ([] ++ es) := hes
    obtain ⟨after, back, j₁, hj₁, henter, rfl⟩ := enter_of_target hplaces hm hj hevents rest
    obtain ⟨j', hj', hentries⟩ := entriesAfter_inStep hstep hts hes' hfs hj₁ (.mappingEnd :: after)
    rw [List.append_assoc] at henter
    refine ⟨j', hj', ?_⟩
    rw [node]
    refine run_bind_iff.mpr ⟨_, j₁, henter, run_bind_iff.mpr ⟨_, j', hentries, ?_⟩⟩
    exact run_bind_iff.mpr ⟨after, j', run_lift_iff.mpr ⟨close_end .mappingEnd after, rfl⟩, rfl⟩

/-- By induction on how deep a node may lie; collections pass the step on to their parts. -/
theorem inStep (hplaces : List.Forall₂ PlaceOf anchors places) (depth : Nat) :
    InStep limit anchors places depth := by
  induction depth with
  | zero =>
    intro n c c' t v w ht hv hw j hj rest
    obtain ⟨m, c₁, hm, hcases⟩ := Node.expand_cases ht
    rcases hcases with ⟨_, _, _, _, rfl, rfl, rfl⟩ | ⟨_, _, _, d, _, -, hd, -⟩ | ⟨_, _, _, d, _, -, hd, -⟩
    · exact node_of_scalar hplaces hm hv hw 0 hj rest
    · cases hd
    · cases hd
  | succ depth ih =>
    intro n c c' t v w ht hv hw j hj rest
    obtain ⟨m, c₁, hm, hcases⟩ := Node.expand_cases ht
    rcases hcases with ⟨_, _, _, _, rfl, rfl, rfl⟩ | ⟨_, _, _, d, _, rfl, hd, rfl, hts⟩ | ⟨_, _, _, d, _, rfl, hd, rfl, hts⟩
    · exact node_of_scalar hplaces hm hv hw (depth + 1) hj rest
    · cases hd
      exact node_of_sequence hplaces ih hm hts hv hw hj rest
    · cases hd
      exact node_of_mapping hplaces ih hm hts hv hw hj rest

/-- The second reading of a document gives its tree as written. -/
theorem document_of_ofNode {n : Node Nat} {t : Tree} {v w : Value} (ht : Tree.ofNode n = .ok t) (hv : t.typed = .ok v)
    (hw : t.asWritten = .ok w) : document v n.events = .ok w := by
  obtain ⟨⟨t', c'⟩, hrun, ht⟩ := bind_eq_ok_iff.mp ht
  obtain rfl : t = t' := pure_eq_ok_iff.mp ht
  obtain ⟨j', -, hread⟩ := inStep (places_document n) Node.depthLimit n 0 c' t v w hrun hv hw 0 (Nat.le_refl 0) []
  rw [List.append_nil, ← Node.length_events] at hread
  exact bind_eq_ok_iff.mpr ⟨((w, []), j'), hread, rfl⟩

end Guided

theorem tree?_eq_some_iff {text : String} {t : Tree} :
    tree? text = .ok (some t) ↔ ∃ n, numberedNode? text = .ok (some n) ∧ Tree.ofNode n = .ok t := by
  rw [tree?, bind_eq_ok_iff]
  constructor
  · intro h
    obtain ⟨n?, hn, h⟩ := h
    cases n? with
    | none => cases h
    | some n =>
      obtain ⟨t', ht, h⟩ := bind_eq_ok_iff.mp h
      cases h
      exact ⟨n, hn, ht⟩
  · intro h
    obtain ⟨n, hn, ht⟩ := h
    exact ⟨some n, hn, bind_eq_ok_iff.mpr ⟨t, ht, rfl⟩⟩

theorem tree?_eq_none_iff {text : String} : tree? text = .ok none ↔ numberedNode? text = .ok none := by
  rw [tree?, bind_eq_ok_iff]
  constructor
  · intro h
    obtain ⟨n?, hn, h⟩ := h
    cases n? with
    | none => exact hn
    | some n =>
      obtain ⟨t, -, h⟩ := bind_eq_ok_iff.mp h
      cases h
  · intro h
    exact ⟨none, h, rfl⟩

theorem typedValue_cases {text : String} {v : Value} (h : typedValue text = .ok v) :
    v = .null ∧ tree? text = .ok none ∨ ∃ t, tree? text = .ok (some t) ∧ t.typed = .ok v := by
  obtain ⟨t?, ht, h⟩ := bind_eq_ok_iff.mp h
  cases t? with
  | none =>
    cases h
    exact .inl ⟨rfl, ht⟩
  | some t => exact .inr ⟨t, ht, h⟩

theorem typedValue_eq_mapping_iff {text : String} {es : List (Value × Value)} :
    typedValue text = .ok (.mapping es) ↔ ∃ t, tree? text = .ok (some t) ∧ t.typed = .ok (.mapping es) := by
  rw [typedValue, bind_eq_ok_iff]
  constructor
  · intro h
    obtain ⟨t?, ht, h⟩ := h
    cases t? with
    | none => cases h
    | some t => exact ⟨t, ht, h⟩
  · intro h
    obtain ⟨t, ht, hv⟩ := h
    exact ⟨some t, ht, hv⟩

/-- Where the typed value is an untagged mapping, the tree is read as written. -/
theorem valueAsWritten_of_tree {text : String} {t : Tree} {es : List (Value × Value)}
    (ht : tree? text = .ok (some t)) (hv : t.typed = .ok (.mapping es)) : valueAsWritten text = t.asWritten := by
  obtain ⟨n, hn, hofNode⟩ := tree?_eq_some_iff.mp ht
  obtain ⟨w, hw⟩ := Tree.exists_asWritten hv
  have hread := Guided.document_of_ofNode hofNode hv hw
  rw [hw, valueAsWritten]
  refine bind_eq_ok_iff.mpr ⟨some n, hn, ?_⟩
  refine bind_eq_ok_iff.mpr ⟨t, hofNode, ?_⟩
  exact bind_eq_ok_iff.mpr ⟨.mapping es, hv, hread⟩

theorem valueAsWritten_of_not_mapping {text : String} {v : Value} (h : typedValue text = .ok v)
    (hmapping : ∀ es, v ≠ .mapping es) : valueAsWritten text = .ok v := by
  rw [valueAsWritten, bind_eq_ok_iff]
  rcases typedValue_cases h with ⟨rfl, ht⟩ | ⟨t, ht, hv⟩
  · exact ⟨none, tree?_eq_none_iff.mp ht, rfl⟩
  · obtain ⟨n, hn, hofNode⟩ := tree?_eq_some_iff.mp ht
    refine ⟨some n, hn, bind_eq_ok_iff.mpr ⟨t, hofNode, bind_eq_ok_iff.mpr ⟨v, hv, ?_⟩⟩⟩
    cases v <;> first | rfl | exact absurd rfl (hmapping _)

theorem exists_tree_of_valueAsWritten {text : String} {root : Value} (h : valueAsWritten text = .ok root)
    (hmapping : root.isMapping) : ∃ t v, tree? text = .ok (some t) ∧ t.typed = .ok v ∧ t.asWritten = .ok root := by
  have hread := h
  rw [valueAsWritten] at hread
  obtain ⟨n?, hn, hread⟩ := bind_eq_ok_iff.mp hread
  cases n? with
  | none =>
    cases hread
    cases hmapping
  | some n =>
    obtain ⟨t, ht, hread⟩ := bind_eq_ok_iff.mp hread
    obtain ⟨v, hv, hread⟩ := bind_eq_ok_iff.mp hread
    have htree := tree?_eq_some_iff.mpr ⟨n, hn, ht⟩
    refine ⟨t, v, htree, hv, ?_⟩
    cases v with
    | mapping es => rw [← valueAsWritten_of_tree htree hv, h]
    | tagged name u =>
      cases hread
      exact Tree.asWritten_of_tagged hv
    | _ =>
      cases hread
      cases hmapping

end RepoConventions.Yaml
