import RepoConventions.Files.Resolution
import RepoConventions.Proofs.Files.Tree

/-!
# Where paths lead

What an outcome says is so in the tree. A path leads to the same place after a file was put somewhere, and which nodes
paths lead to depends on the layout of the tree alone.
-/

namespace RepoConventions.Files

open FileNode (node? HasRoom put)

/-! Steps -/

theorem stepsOf_ne_nil {path : String} (h : path ≠ "") : stepsOf path ≠ [] := by
  intro hnil
  obtain ⟨hnamed, hend⟩ := List.append_eq_nil_iff.mp hnil
  have hslash : endsWithSlash path = false := by
    cases hs : endsWithSlash path with
    | false => rfl
    | true => simp [hs] at hend
  have hempty : ∀ segment ∈ Path.segments path, segment = [] := by
    intro segment hmem
    have hnone := List.filterMap_eq_nil_iff.mp hnamed segment hmem
    unfold Step.ofSegment? at hnone
    split at hnone <;> simp_all
  cases hlast : path.toList.getLast? with
  | none =>
    apply h
    rw [← String.toList_eq_nil_iff]
    exact List.getLast?_eq_none_iff.mp hlast
  | some c =>
    obtain ⟨before, hbefore⟩ := List.getLast?_eq_some_iff.mp hlast
    have hc : c ≠ '/' := by
      intro hc
      simp [endsWithSlash, hlast, hc] at hslash
    -- the segment that holds the last character is not empty
    obtain ⟨others, last, hsplit⟩ := Text.exists_splitOn_append hc before
    have hmem : last ++ [c] ∈ Path.segments path := by
      rw [Path.segments, hbefore, hsplit]
      simp
    exact absurd (hempty _ hmem) (by simp)

/-! Outcomes -/

variable {top : FileNode} {location : List String}

theorem node?_concat {directory : List String} {entries : List (String × FileNode)}
    (h : node? directory top = some (.directory entries)) (name : String) :
    node? (directory ++ [name]) top = entries.lookup name := by
  rw [FileNode.node?_append, h]
  cases hl : entries.lookup name <;> simp [node?, hl]

theorem FileNode.WellFormed.all_isEntryName {node : FileNode} (hw : top.WellFormed)
    (h : node? location top = some node) : location.all isEntryName = true := by
  induction location generalizing top with
  | nil => rfl
  | cons name rest ih =>
    cases top with
    | file _ => cases h
    | link _ => cases h
    | directory entries =>
      obtain ⟨child, hc, hrest⟩ := Option.bind_eq_some_iff.mp h
      have hname : ∀ es : List (String × FileNode), FileNode.EntriesWellFormed es → es.lookup name = some child →
          isEntryName name = true := by
        intro es
        induction es with
        | nil =>
          intro _ hl
          cases hl
        | cons e es ihes =>
          intro hes hl
          obtain ⟨first, old⟩ := e
          rw [FileNode.lookup_cons_eq_ite] at hl
          by_cases hf : name = first
          · rw [hf]
            exact hes.1
          · rw [if_neg hf] at hl
            exact ihes hes.2.2 hl
      rw [List.all_cons, hname entries hw.2 hc, ih (FileNode.wellFormed_of_lookup hw.2 hc) hrest]
      rfl

namespace Outcome

def HoldsIn (top : FileNode) : Outcome → Prop
  | found location node => node? location top = some node
  | absent directory name => isEntryName name = true ∧
      ∃ entries, node? directory top = some (.directory entries) ∧ entries.lookup name = none
  | link directory _ _ => ∃ entries, node? directory top = some (.directory entries)
  | failed _ => True

/-- Where an outcome leads; whether a file is there or may be made there is the same. -/
inductive Lead
  | file (location : List String)
  | directory (location : List String)
  | link (directory : List String) (target : String) (rest : List Step)
  | nowhere

def lead : Outcome → Lead
  | found location (.file _) => .file location
  | found location (.directory _) => .directory location
  | found _ (.link _) | failed _ => .nowhere
  | absent directory name => .file (directory ++ [name])
  | link directory target rest => .link directory target rest

@[simp] theorem lead_eq_link_iff (o : Outcome) (directory : List String) (target : String) (rest : List Step) :
    o.lead = .link directory target rest ↔ o = .link directory target rest := by
  cases o with
  | found location node => cases node <;> simp [lead]
  | absent directory name => simp [lead]
  | link directory target rest => simp [lead]
  | failed e => simp [lead]

def layout : Outcome → Outcome
  | found location node => found location node.layout
  | absent directory name => absent directory name
  | link directory target rest => link directory target rest
  | failed e => failed e

end Outcome

theorem Outcome.layout_eq_cases {o o' : Outcome} (h : o.layout = o'.layout) :
    (∃ location content content', o = .found location (.file content) ∧ o' = .found location (.file content')) ∨
    (∃ location entries entries', o = .found location (.directory entries) ∧
      o' = .found location (.directory entries')) ∨ o = o' := by
  cases o with
  | found location node =>
    cases o' with
    | found location' node' =>
      obtain ⟨rfl, hnode⟩ : location = location' ∧ node.layout = node'.layout := by simpa [layout] using h
      cases node <;> cases node' <;> simp_all [FileNode.layout]
    | _ => cases h
  | absent directory name => cases o' <;> simp_all [layout]
  | link directory target rest => cases o' <;> simp_all [layout]
  | failed e => cases o' <;> simp_all [layout]

theorem walk_name {entries : List (String × FileNode)} (h : node? location top = some (.directory entries))
    (s : String) (rest : List Step) :
    walk top location (.name s :: rest) =
      if OsText.size s > nameLimit then .failed .nameTooLong
      else match node? (location ++ [s]) top with
        | some (.link target) => .link location target rest
        | some _ => walk top (location ++ [s]) rest
        | none =>
          if !isEntryName s then .failed .invalidPath
          else if rest.isEmpty then .absent location s
          else .failed .notFound := by
  rw [node?_concat h]
  exact walk.eq_4 top location rest entries s h

theorem walk_cons_of_ne_directory (h : ∀ entries, node? location top ≠ some (.directory entries)) (step : Step)
    (rest : List Step) : (walk top location (step :: rest)) =
      .failed (if (node? location top).isSome then .notDirectory else .notFound) := by
  cases hn : node? location top with
  | none => simp [walk, hn]
  | some node =>
    cases node with
    | directory entries => exact absurd hn (h entries)
    | file _ => simp [walk, hn]
    | link _ => simp [walk, hn]

theorem walk_holdsIn (top : FileNode) (location : List String) (steps : List Step) :
    (walk top location steps).HoldsIn top := by
  induction steps generalizing location with
  | nil =>
    cases h : node? location top with
    | none => simp [walk, h, Outcome.HoldsIn]
    | some node => simp [walk, h, Outcome.HoldsIn]
  | cons step rest ih =>
    by_cases hd : ∃ entries, node? location top = some (.directory entries)
    · obtain ⟨entries, h⟩ := hd
      cases step with
      | here => simpa [walk, h] using ih location
      | up => simpa [walk, h] using ih location.dropLast
      | name s =>
        rw [walk_name h]
        split
        · trivial
        · split
          · exact ⟨entries, h⟩
          · exact ih (location ++ [s])
          · next hnone =>
            split
            · trivial
            · next hname =>
              split
              · exact ⟨by simpa using hname, entries, h, (node?_concat h s).symm.trans hnone⟩
              · trivial
    · rw [walk_cons_of_ne_directory (fun entries h => hd ⟨entries, h⟩)]
      trivial

theorem follow_of_not_link {steps : List Step}
    (h : ∀ directory target rest, walk top location steps ≠ .link directory target rest) (links : Nat) :
    follow top links location steps = walk top location steps := by
  cases links <;> rw [follow] <;> split <;> simp_all

theorem follow_of_link {steps rest : List Step} {directory : List String} {target : String}
    (h : walk top location steps = .link directory target rest) (links : Nat) :
    follow top (links + 1) location steps =
      if target.isEmpty then .failed .notFound
      else follow top links (if Path.isAbsolute target then [] else directory) (stepsOf target ++ rest) := by
  rw [follow, h]

theorem follow_zero_of_link {steps rest : List Step} {directory : List String} {target : String}
    (h : walk top location steps = .link directory target rest) :
    follow top 0 location steps = .failed .linkLoop := by
  rw [follow, h]

theorem follow_holdsIn (top : FileNode) (links : Nat) (location : List String) (steps : List Step) :
    (follow top links location steps).HoldsIn top := by
  induction links generalizing location steps with
  | zero =>
    by_cases hlink : ∃ directory target rest, walk top location steps = .link directory target rest
    · obtain ⟨directory, target, rest, hlink⟩ := hlink
      rw [follow_zero_of_link hlink]
      trivial
    · rw [follow_of_not_link fun directory target rest h => hlink ⟨directory, target, rest, h⟩]
      exact walk_holdsIn top location steps
  | succ links ih =>
    by_cases hlink : ∃ directory target rest, walk top location steps = .link directory target rest
    · obtain ⟨directory, target, rest, hlink⟩ := hlink
      rw [follow_of_link hlink]
      split
      · trivial
      · exact ih _ _
    · rw [follow_of_not_link fun directory target rest h => hlink ⟨directory, target, rest, h⟩]
      exact walk_holdsIn top location steps

/-- Outcomes in two trees are related when those of walks are, provided that related outcomes are the same links. -/
theorem follow_related (related : Outcome → Outcome → Prop) {other : FileNode}
    (hlink : ∀ o o' directory target rest, related o o' →
      (o = .link directory target rest ↔ o' = .link directory target rest))
    (hfailed : ∀ e, related (.failed e) (.failed e))
    (hwalk : ∀ location steps, steps ≠ [] → related (walk top location steps) (walk other location steps))
    (links : Nat) (location : List String) {steps : List Step} (hs : steps ≠ []) :
    related (follow top links location steps) (follow other links location steps) := by
  have hplain (links : Nat) (location : List String) {steps : List Step} (hs : steps ≠ [])
      (h : ¬ ∃ directory target rest, walk top location steps = .link directory target rest) :
      related (follow top links location steps) (follow other links location steps) := by
    have hrelated := hwalk location steps hs
    have hnot : ∀ directory target rest, walk top location steps ≠ .link directory target rest :=
      fun directory target rest he => h ⟨directory, target, rest, he⟩
    have hnot' : ∀ directory target rest, walk other location steps ≠ .link directory target rest :=
      fun directory target rest he => hnot _ _ _ ((hlink _ _ _ _ _ hrelated).mpr he)
    rw [follow_of_not_link hnot, follow_of_not_link hnot']
    exact hrelated
  induction links generalizing location steps with
  | zero =>
    by_cases h : ∃ directory target rest, walk top location steps = .link directory target rest
    · obtain ⟨directory, target, rest, h⟩ := h
      have h' := (hlink _ _ _ _ _ (hwalk location steps hs)).mp h
      rw [follow_zero_of_link h, follow_zero_of_link h']
      exact hfailed _
    · exact hplain 0 location hs h
  | succ links ih =>
    by_cases h : ∃ directory target rest, walk top location steps = .link directory target rest
    · obtain ⟨directory, target, rest, h⟩ := h
      have h' := (hlink _ _ _ _ _ (hwalk location steps hs)).mp h
      rw [follow_of_link h, follow_of_link h']
      split
      · exact hfailed _
      · next htarget =>
        have htarget : stepsOf target ≠ [] := stepsOf_ne_nil (by simpa using htarget)
        exact ih _ (by simp [htarget])
    · exact hplain (links + 1) location hs h

/-! Steps after others -/

theorem walk_append (location : List String) (steps : List Step) {more : List Step} (hmore : more ≠ []) :
    walk top location (steps ++ more) =
      match walk top location steps with
      | .found end' _ => walk top end' more
      | .link directory target rest => .link directory target (rest ++ more)
      | .absent .. => .failed .notFound
      | .failed e => .failed e := by
  induction steps generalizing location with
  | nil =>
    obtain ⟨step, rest, rfl⟩ := List.exists_cons_of_ne_nil hmore
    cases h : node? location top with
    | none => simp [walk, h]
    | some node => simp [walk, h]
  | cons step rest ih =>
    rw [List.cons_append]
    by_cases hd : ∃ entries, node? location top = some (.directory entries)
    · obtain ⟨entries, h⟩ := hd
      cases step with
      | here => simpa [walk, h] using ih location
      | up => simpa [walk, h] using ih location.dropLast
      | name s =>
        rw [walk_name h, walk_name h]
        split
        · rfl
        · cases hn : node? (location ++ [s]) top with
          | none => cases isEntryName s <;> cases rest <;> simp [hmore]
          | some node =>
            cases node with
            | link target => rfl
            | file _ => exact ih (location ++ [s])
            | directory _ => exact ih (location ++ [s])
    · have h : ∀ entries, node? location top ≠ some (.directory entries) := fun entries h => hd ⟨entries, h⟩
      rw [walk_cons_of_ne_directory h, walk_cons_of_ne_directory h]

/-- What is found was walked to, or is found by following the first link. -/
theorem follow_found_cases {links : Nat} {place : List String} {steps : List Step} {node : FileNode}
    (h : follow top links location steps = .found place node) :
    walk top location steps = .found place node ∨
      ∃ links' directory target rest, links = links' + 1 ∧ walk top location steps = .link directory target rest ∧
        target.isEmpty = false ∧
        follow top links' (if Path.isAbsolute target then [] else directory) (stepsOf target ++ rest) =
          .found place node := by
  by_cases hlink : ∃ directory target rest, walk top location steps = .link directory target rest
  · obtain ⟨directory, target, rest, hlink⟩ := hlink
    cases links with
    | zero =>
      rw [follow_zero_of_link hlink] at h
      cases h
    | succ links =>
      rw [follow_of_link hlink] at h
      split at h
      · cases h
      · next htarget => exact .inr ⟨links, directory, target, rest, rfl, hlink, by simpa using htarget, h⟩
  · rw [follow_of_not_link fun directory target rest h => hlink ⟨directory, target, rest, h⟩] at h
    exact .inl h

theorem follow_append {links : Nat} {place : List String} {steps more : List Step} {node : FileNode}
    (hmore : more ≠ []) (h : follow top links location steps = .found place node)
    (hplain : ∀ directory target rest, walk top place more ≠ .link directory target rest) :
    follow top links location (steps ++ more) = walk top place more := by
  induction links generalizing location steps with
  | zero =>
    obtain h | ⟨links, -, -, -, hzero, -⟩ := follow_found_cases h
    · have hwalk : walk top location (steps ++ more) = walk top place more := by rw [walk_append _ _ hmore, h]
      rw [follow_of_not_link (by rwa [hwalk]), hwalk]
    · cases hzero
  | succ links ih =>
    obtain h | ⟨_, directory, target, rest, ⟨⟩, hlink, htarget, h⟩ := follow_found_cases h
    · have hwalk : walk top location (steps ++ more) = walk top place more := by rw [walk_append _ _ hmore, h]
      rw [follow_of_not_link (by rwa [hwalk]), hwalk]
    · have hwalk : walk top location (steps ++ more) = .link directory target (rest ++ more) := by
        rw [walk_append _ _ hmore, hlink]
      rw [follow_of_link hwalk, htarget, ← List.append_assoc]
      exact ih h

theorem walk_of_append_here {place : List String} {steps : List Step} {node : FileNode}
    (h : walk top location (steps ++ [.here]) = .found place node) : walk top location steps = .found place node := by
  have hwalk : (walk top location steps).HoldsIn top := walk_holdsIn top location steps
  rw [walk_append _ _ (by simp)] at h
  cases ho : walk top location steps with
  | found end' old =>
    rw [ho] at h hwalk
    have hold : node? end' top = some old := hwalk
    cases old with
    | directory entries => simpa [walk, hold] using h
    | file _ => simp [walk, hold] at h
    | link _ => simp [walk, hold] at h
  | absent directory name => simp [ho] at h
  | link directory target rest => simp [ho] at h
  | failed e => simp [ho] at h

theorem follow_of_append_here {links : Nat} {place : List String} {steps : List Step} {node : FileNode}
    (h : follow top links location (steps ++ [.here]) = .found place node) :
    follow top links location steps = .found place node := by
  induction links generalizing location steps with
  | zero =>
    obtain h | ⟨links, -, -, -, hzero, -⟩ := follow_found_cases h
    · have hwalk := walk_of_append_here h
      rw [follow_of_not_link (by simp [hwalk]), hwalk]
    · cases hzero
  | succ links ih =>
    obtain h | ⟨_, directory, target, rest, ⟨⟩, hlink, htarget, h⟩ := follow_found_cases h
    · have hwalk := walk_of_append_here h
      rw [follow_of_not_link (by simp [hwalk]), hwalk]
    · -- the link is among the steps, as staying follows none
      have hold : (walk top location steps).HoldsIn top := walk_holdsIn top location steps
      rw [walk_append _ _ (by simp)] at hlink
      cases ho : walk top location steps with
      | found end' old =>
        rw [ho] at hlink hold
        have hnode : node? end' top = some old := hold
        cases old <;> simp [walk, hnode] at hlink
      | absent directory name => simp [ho] at hlink
      | failed e => simp [ho] at hlink
      | link directory' target' rest' =>
        rw [ho] at hlink hold
        obtain ⟨rfl, rfl, rfl⟩ : directory' = directory ∧ target' = target ∧ rest' ++ [.here] = rest := by
          simpa using hlink
        rw [follow_of_link ho, htarget]
        exact ih (by rwa [List.append_assoc])

/-! After a file was put -/

variable {place : List String}

theorem node?_put_cases (h : HasRoom place top) (content : ByteArray) (hne : location ≠ place) :
    (node? location top = none ∧ node? location (put (.file content) place top) = none) ∨
    ∃ old new, node? location top = some old ∧ node? location (put (.file content) place top) = some new ∧
      new.bare = old.bare := by
  have hbare := h.node?_put_of_ne content hne
  cases ho : node? location top with
  | none => exact .inl ⟨rfl, by simpa [ho] using hbare⟩
  | some old =>
    obtain ⟨new, hn, hb⟩ :
        ∃ new, node? location (put (.file content) place top) = some new ∧ new.bare = old.bare := by
      simpa [ho] using hbare
    exact .inr ⟨old, new, rfl, hn, hb⟩

theorem ne_place_of_directory (h : HasRoom place top) {entries : List (String × FileNode)}
    (hd : node? location top = some (.directory entries)) : location ≠ place := by
  rintro rfl
  exact h.node?_ne_directory [] entries (by rwa [List.append_nil])

theorem node?_put_directory (h : HasRoom place top) (content : ByteArray) {entries : List (String × FileNode)}
    (hd : node? location top = some (.directory entries)) :
    ∃ others, node? location (put (.file content) place top) = some (.directory others) := by
  obtain ⟨ho, -⟩ | ⟨old, new, ho, hn, hb⟩ := node?_put_cases h content (ne_place_of_directory h hd)
  · rw [ho] at hd
    cases hd
  · rw [ho] at hd
    cases hd
    cases new <;> simp [FileNode.bare] at hb
    exact ⟨_, hn⟩

theorem node?_put_ne_directory (h : HasRoom place top) (content : ByteArray)
    (hd : ¬ ∃ entries, node? location top = some (.directory entries)) (others : List (String × FileNode)) :
    node? location (put (.file content) place top) ≠ some (.directory others) := by
  intro hn
  by_cases hne : location = place
  · rw [hne, h.node?_put_self] at hn
    cases hn
  · obtain ⟨-, hn'⟩ | ⟨old, new, ho, hn', hb⟩ := node?_put_cases h content hne
    · rw [hn] at hn'
      cases hn'
    · rw [hn] at hn'
      cases hn'
      cases old <;> simp [FileNode.bare] at hb
      exact hd ⟨_, ho⟩

theorem lead_walk_name_put (h : HasRoom place top) (content : ByteArray) {entries : List (String × FileNode)}
    (hd : node? location top = some (.directory entries)) {s : String} (hname : isEntryName s = true)
    (hs : location ++ [s] = place)
    (rest : List Step) :
    (walk (put (.file content) place top) location (.name s :: rest)).lead =
      (walk top location (.name s :: rest)).lead := by
  obtain ⟨others, hd'⟩ := node?_put_directory h content hd
  rw [walk_name hd, walk_name hd', hs, h.node?_put_self]
  split
  · rfl
  · obtain ho | ⟨old, ho⟩ := h.node?_eq
    · cases rest <;> simp [walk, h.node?_put_self, ho, hs, hname, Outcome.lead]
    · cases rest <;> simp [walk, h.node?_put_self, ho, Outcome.lead]

theorem lead_walk_put (h : HasRoom place top) (hnames : place.all isEntryName = true) (content : ByteArray)
    (location : List String) {steps : List Step} (hs : steps ≠ [] ∨ location ≠ place) :
    (walk (put (.file content) place top) location steps).lead = (walk top location steps).lead := by
  induction steps generalizing location with
  | nil =>
    have hne : location ≠ place := hs.resolve_left (· rfl)
    obtain ⟨ho, hn⟩ | ⟨old, new, ho, hn, hb⟩ := node?_put_cases h content hne
    · simp [walk, ho, hn]
    · cases old <;> cases new <;> simp_all [walk, FileNode.bare, Outcome.lead]
  | cons step rest ih =>
    by_cases hd : ∃ entries, node? location top = some (.directory entries)
    · obtain ⟨entries, ho⟩ := hd
      obtain ⟨others, hn⟩ := node?_put_directory h content ho
      cases step with
      | here => simpa [walk, hn, ho] using ih location (.inr (ne_place_of_directory h ho))
      | up =>
        have hup : location.dropLast ≠ place := by
          intro he
          have hsplit : location = place ++ location.drop (location.length - 1) := by
            rw [← he, List.dropLast_eq_take, List.take_append_drop]
          rw [hsplit] at ho
          exact h.node?_ne_directory _ _ ho
        simpa [walk, hn, ho] using ih location.dropLast (.inr hup)
      | name s =>
        by_cases hsp : location ++ [s] = place
        · have hname : isEntryName s = true := List.all_eq_true.mp hnames s (by simp [← hsp])
          exact lead_walk_name_put h content ho hname hsp rest
        · have ih := ih (location ++ [s]) (.inr hsp)
          rw [walk_name ho, walk_name hn]
          split
          · rfl
          · obtain ⟨ho', hn'⟩ | ⟨old, new, ho', hn', hb⟩ := node?_put_cases h content hsp
            · rw [ho', hn']
            · rw [ho', hn']
              cases old <;> cases new <;> simp_all [FileNode.bare]
    · rw [walk_cons_of_ne_directory (node?_put_ne_directory h content hd),
        walk_cons_of_ne_directory fun entries ho => hd ⟨entries, ho⟩]
      rfl

/-- Following links leads to the same place as before. -/
theorem lead_follow_put (h : HasRoom place top) (hnames : place.all isEntryName = true) (content : ByteArray)
    (links : Nat) (location : List String) {steps : List Step} (hs : steps ≠ []) :
    (follow (put (.file content) place top) links location steps).lead = (follow top links location steps).lead := by
  refine follow_related (fun o o' => o.lead = o'.lead) ?_ (fun e => rfl) ?_ links location hs
  · intro o o' directory target rest ho
    rw [← Outcome.lead_eq_link_iff, ho, Outcome.lead_eq_link_iff]
  · exact fun location steps hs => lead_walk_put h hnames content location (.inl hs)

/-! By the layout alone -/

theorem walk_layout (top : FileNode) (location : List String) (steps : List Step) :
    walk top.layout location steps = (walk top location steps).layout := by
  induction steps generalizing location with
  | nil =>
    rw [walk, walk, FileNode.node?_layout]
    cases node? location top <;> rfl
  | cons step rest ih =>
    by_cases hd : ∃ entries, node? location top = some (.directory entries)
    · obtain ⟨entries, h⟩ := hd
      have h' : node? location top.layout = some (.directory (FileNode.layouts entries)) := by
        rw [FileNode.node?_layout, h]
        rfl
      cases step with
      | here => simpa [walk, h, h'] using ih location
      | up => simpa [walk, h, h'] using ih location.dropLast
      | name s =>
        rw [walk_name h, walk_name h', FileNode.node?_layout]
        split
        · rfl
        · cases hn : node? (location ++ [s]) top with
          | none => cases isEntryName s <;> cases rest <;> simp [Outcome.layout]
          | some node =>
            cases node with
            | file _ => exact ih (location ++ [s])
            | link _ => rfl
            | directory _ => exact ih (location ++ [s])
    · have h : ∀ entries, node? location top ≠ some (.directory entries) := fun entries h => hd ⟨entries, h⟩
      have h' : ∀ entries, node? location top.layout ≠ some (.directory entries) := by
        intro entries he
        rw [FileNode.node?_layout] at he
        cases hn : node? location top with
        | none => simp [hn] at he
        | some node =>
          cases node with
          | file _ => simp [hn, FileNode.layout] at he
          | link _ => simp [hn, FileNode.layout] at he
          | directory es => exact h es hn
      rw [walk_cons_of_ne_directory h, walk_cons_of_ne_directory h', FileNode.node?_layout]
      cases node? location top <;> rfl

/-- Trees of one layout have the same outcomes, but for the contents of files. -/
theorem follow_layout_eq {other : FileNode} (h : top.layout = other.layout) (links : Nat) (location : List String)
    {steps : List Step} (hs : steps ≠ []) :
    (follow top links location steps).layout = (follow other links location steps).layout := by
  refine follow_related (fun o o' => o.layout = o'.layout) ?_ (fun e => rfl) ?_ links location hs
  · intro o o' directory target rest ho
    cases o <;> cases o' <;> simp_all [Outcome.layout]
  · intro location steps _
    rw [← walk_layout, h, walk_layout]

/-! Trees -/

namespace FileTree

/-- A file may be put there. -/
structure Takes (t : FileTree) (place : List String) : Prop where
  room : HasRoom place t.top
  names : place.all isEntryName = true

/-- The trees have the same nodes, but for the contents of files. -/
structure SameLayout (t u : FileTree) : Prop where
  top : t.top.layout = u.top.layout
  workingDirectory : t.workingDirectory = u.workingDirectory

variable {t u : FileTree}

theorem Takes.of_file {content : ByteArray} (h : node? place t.top = some (.file content)) : t.Takes place :=
  ⟨.of_file h, t.wellFormed.all_isEntryName h⟩

theorem putFile_top (h : place.all isEntryName = true) (content : ByteArray) :
    (t.putFile place content).top = FileNode.put (.file content) place t.top := by
  simp only [putFile, FileTree.put, dif_pos h]

theorem putFile_workingDirectory (t : FileTree) (place : List String) (content : ByteArray) :
    (t.putFile place content).workingDirectory = t.workingDirectory := by
  simp only [putFile, FileTree.put]
  split <;> rfl

theorem putFile_writeFault (t : FileTree) (place : List String) (content : ByteArray) :
    (t.putFile place content).writeFault = t.writeFault := by
  simp only [putFile, FileTree.put]
  split <;> rfl

theorem node?_putFile_self (h : t.Takes place) (content : ByteArray) :
    node? place (t.putFile place content).top = some (.file content) := by
  rw [putFile_top h.names, h.room.node?_put_self]

theorem file_putFile_of_ne (h : t.Takes place) (content old : ByteArray) (hne : location ≠ place) :
    node? location (t.putFile place content).top = some (.file old) ↔
      node? location t.top = some (.file old) := by
  rw [putFile_top h.names, h.room.file_put_of_ne content old hne]

theorem file_putFile_iff (h : t.Takes place) (content : ByteArray) (location : List String) (found : ByteArray) :
    node? location (t.putFile place content).top = some (.file found) ↔
      if location = place then content = found else node? location t.top = some (.file found) := by
  split
  · next heq => simp [heq, node?_putFile_self h]
  · next hne => exact file_putFile_of_ne h content found hne

theorem SameLayout.refl (t : FileTree) : t.SameLayout t := ⟨rfl, rfl⟩

theorem SameLayout.symm (h : t.SameLayout u) : u.SameLayout t := ⟨h.top.symm, h.workingDirectory.symm⟩

theorem SameLayout.trans {v : FileTree} (h : t.SameLayout u) (h' : u.SameLayout v) : t.SameLayout v :=
  ⟨h.top.trans h'.top, h.workingDirectory.trans h'.workingDirectory⟩

theorem sameLayout_putFile {old : ByteArray} (h : node? place t.top = some (.file old)) (content : ByteArray) :
    (t.putFile place content).SameLayout t := by
  refine ⟨?_, putFile_workingDirectory t place content⟩
  rw [putFile_top (t.wellFormed.all_isEntryName h), FileNode.layout_put h]

theorem SameLayout.eq (h : t.SameLayout u) (hfault : t.writeFault = u.writeFault)
    (hc : ∀ location content, node? location t.top = some (.file content) ↔
      node? location u.top = some (.file content)) : t = u := by
  obtain ⟨top, directory, fault, hw⟩ := t
  obtain ⟨top', directory', fault', hw'⟩ := u
  obtain rfl : top = top' := FileNode.eq_of_layout_eq hw h.top hc
  obtain rfl : directory = directory' := h.workingDirectory
  obtain rfl : fault = fault' := hfault
  rfl

theorem resolve_cases (t : FileTree) (path : String) :
    (path ≠ "" ∧ t.resolve path = follow t.top linkLimit (t.startOf path) (stepsOf path)) ∨
      ∃ e, t.resolve path = .failed e := by
  rw [FileTree.resolve, resolveSteps]
  split
  · exact .inr ⟨_, rfl⟩
  · split
    · exact .inr ⟨_, rfl⟩
    · next hempty =>
      split
      · exact .inr ⟨_, rfl⟩
      · exact .inl ⟨by simpa using hempty, rfl⟩

theorem resolveSteps_related (related : Outcome → Outcome → Prop) (hfailed : ∀ e, related (.failed e) (.failed e))
    (hd : t.workingDirectory = u.workingDirectory)
    (hfollow : ∀ links location steps, steps ≠ [] →
      related (follow t.top links location steps) (follow u.top links location steps)) {path : String}
    {steps : List Step} (hs : path ≠ "" → steps ≠ []) :
    related (t.resolveSteps path steps) (u.resolveSteps path steps) := by
  have hstart : t.startOf path = u.startOf path := by rw [startOf, startOf, hd]
  rw [resolveSteps, resolveSteps, hstart]
  split
  · exact hfailed _
  · split
    · exact hfailed _
    · split
      · exact hfailed _
      · next hempty _ => exact hfollow _ _ _ (hs (by simpa using hempty))

theorem lead_resolve_putFile (h : t.Takes place) (content : ByteArray) (path : String) :
    ((t.putFile place content).resolve path).lead = (t.resolve path).lead := by
  refine resolveSteps_related (fun o o' => o.lead = o'.lead) (fun _ => rfl) (putFile_workingDirectory _ _ _) ?_
    stepsOf_ne_nil
  intro links location steps hs
  rw [putFile_top h.names]
  exact lead_follow_put h.room h.names content links location hs

theorem SameLayout.resolveSteps (h : t.SameLayout u) {path : String} {steps : List Step}
    (hs : path ≠ "" → steps ≠ []) : (t.resolveSteps path steps).layout = (u.resolveSteps path steps).layout :=
  resolveSteps_related (fun o o' => o.layout = o'.layout) (fun _ => rfl) h.workingDirectory
    (fun links location _ hs => follow_layout_eq h.top links location hs) hs

theorem SameLayout.resolve (h : t.SameLayout u) (path : String) :
    (t.resolve path).layout = (u.resolve path).layout :=
  h.resolveSteps stepsOf_ne_nil

theorem resolve_holdsIn (t : FileTree) (path : String) : (t.resolve path).HoldsIn t.top := by
  obtain ⟨-, h⟩ | ⟨e, h⟩ := t.resolve_cases path
  · rw [h]
    exact follow_holdsIn _ _ _ _
  · rw [h]
    trivial

end FileTree

end RepoConventions.Files
