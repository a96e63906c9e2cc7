import RepoConventions.Proofs.Workflow.Alike

/-!
# The language of workflows

Which values are workflows, said part by part without the decoders, and what the workflow of such a value is: its jobs
and steps stand in the order of their entries and items, and its maps hold the last text listed for each key.
-/

namespace RepoConventions.Workflow

open Yaml (Value bind_eq_ok_iff exists_ok_of_map)

/-! Decoders of languages -/

/-- A decoder gives a result for just the inputs of a language, and the result is what is said of it. -/
structure Decodes {ε α : Type} (x : Except ε α) (accepted : Prop) (described : α → Prop) : Prop where
  exists_ok : accepted → ∃ a, x = .ok a
  sound : ∀ {a}, x = .ok a → accepted ∧ described a

namespace Decodes

variable {ε α β γ : Type} {x : Except ε α} {accepted accepted' : Prop} {described : α → Prop}

theorem ok {a : α} (haccepted : accepted) (h : described a) : Decodes (.ok a : Except ε α) accepted described where
  exists_ok _ := ⟨a, rfl⟩
  sound := by
    rintro b ⟨⟩
    exact ⟨haccepted, h⟩

theorem error {e : ε} (h : ¬ accepted) : Decodes (.error e : Except ε α) accepted described where
  exists_ok haccepted := absurd haccepted h
  sound h := by cases h

theorem iff (h : Decodes x accepted described) : (∃ a, x = .ok a) ↔ accepted :=
  ⟨fun ⟨_, ha⟩ => (h.sound ha).1, h.exists_ok⟩

theorem mono {described' : α → Prop} (h : Decodes x accepted described) (hiff : accepted ↔ accepted')
    (himp : accepted' → ∀ a, described a → described' a) : Decodes x accepted' described' where
  exists_ok h' := h.exists_ok (hiff.mpr h')
  sound ha := by
    obtain ⟨haccepted, hdescribed⟩ := h.sound ha
    exact ⟨hiff.mp haccepted, himp (hiff.mp haccepted) _ hdescribed⟩

theorem bind {f : α → Except ε β} {described' : α → β → Prop} (h : Decodes x accepted described)
    (hf : ∀ a, described a → Decodes (f a) accepted' (described' a)) :
    Decodes (x >>= f) (accepted ∧ accepted') fun b => ∃ a, described a ∧ described' a b where
  exists_ok := by
    rintro ⟨haccepted, haccepted'⟩
    obtain ⟨a, ha⟩ := h.exists_ok haccepted
    obtain ⟨b, hb⟩ := (hf a (h.sound ha).2).exists_ok haccepted'
    exact ⟨b, bind_eq_ok_iff.mpr ⟨a, ha, hb⟩⟩
  sound := by
    intro b hb
    obtain ⟨a, ha, hb⟩ := bind_eq_ok_iff.mp hb
    obtain ⟨haccepted, hdescribed⟩ := h.sound ha
    obtain ⟨haccepted', hdescribed'⟩ := (hf a hdescribed).sound hb
    exact ⟨⟨haccepted, haccepted'⟩, a, hdescribed, hdescribed'⟩

theorem map {g : α → β} (h : Decodes x accepted described) :
    Decodes (x.map g) accepted fun b => ∃ a, described a ∧ g a = b where
  exists_ok haccepted := by
    obtain ⟨a, rfl⟩ := h.exists_ok haccepted
    exact ⟨g a, rfl⟩
  sound := by
    intro b hb
    cases x with
    | error e => cases hb
    | ok a =>
      cases hb
      obtain ⟨haccepted, hdescribed⟩ := h.sound rfl
      exact ⟨haccepted, a, hdescribed, rfl⟩

theorem mapM {f : α → Except ε β} {accepts : α → Prop} {describes : α → β → Prop} {l : List α}
    (hf : ∀ a ∈ l, Decodes (f a) (accepts a) (describes a)) :
    Decodes (l.mapM f) (∀ a ∈ l, accepts a) fun bs => List.Forall₂ describes l bs := by
  induction l with
  | nil =>
    exact .ok (by simp) .nil
  | cons a rest ih =>
    have hrest := ih fun b hb => hf b (List.mem_cons_of_mem a hb)
    have hcons (b : β) (bs : List β) : Decodes (Except.ok (b :: bs) : Except ε (List β)) True fun cs => cs = b :: bs :=
      .ok trivial rfl
    rw [List.mapM_cons]
    refine ((hf a List.mem_cons_self).bind fun b _ => hrest.bind fun bs _ => hcons b bs).mono (by simp) ?_
    rintro - _ ⟨b, hb, bs, hbs, rfl⟩
    exact .cons hb hbs

end Decodes

/-! Maps -/

/-- A map holds for every key of a list what goes with the last value listed for it, and no other keys. -/
structure LastWins {α β : Type} (R : α → β → Prop) (m : Text.Map α) (l : List (String × β)) : Prop where
  isSorted : m.IsSorted
  get? : ∀ key, Option.Rel R (m.get? key) (l.reverse.lookup key)

theorem isSorted_mapOf {α : Type} (l : List (String × α)) : (mapOf l).IsSorted := by
  induction l using List.reverseRecOn with
  | nil => exact Text.Map.isSorted_empty
  | append_singleton before e ih =>
    rw [mapOf_append]
    exact ih.insert e.1 e.2

theorem get?_mapOf {α : Type} (l : List (String × α)) (key : String) : (mapOf l).get? key = l.reverse.lookup key := by
  induction l using List.reverseRecOn with
  | nil => rfl
  | append_singleton before e ih =>
    obtain ⟨k, a⟩ := e
    rw [mapOf_append, Text.Map.get?_insert, ih, List.reverse_append]
    by_cases h : key = k
    · simp [h]
    · simp [List.lookup_cons, beq_false_of_ne h, h]

theorem rel_lookup {α β : Type} {R : α → β → Prop} {l : List (String × α)} {r : List (String × β)}
    (h : List.Forall₂ (fun e f => e.1 = f.1 ∧ R e.2 f.2) l r) (key : String) :
    Option.Rel R (l.lookup key) (r.lookup key) := by
  induction h with
  | nil => exact .none
  | @cons e f _ _ hef _ ih =>
    obtain ⟨k, a⟩ := e
    obtain ⟨k', b⟩ := f
    obtain ⟨rfl, hR⟩ := hef
    by_cases hk : key = k
    · simpa [hk] using Option.Rel.some hR
    · simpa [List.lookup_cons, beq_false_of_ne hk] using ih

theorem lastWins_mapOf {α β : Type} {R : α → β → Prop} {l : List (String × α)} {r : List (String × β)}
    (h : List.Forall₂ (fun e f => e.1 = f.1 ∧ R e.2 f.2) l r) : LastWins R (mapOf l) r where
  isSorted := isSorted_mapOf l
  get? key := by
    rw [get?_mapOf]
    exact rel_lookup (List.rel_reverse h) key

def keyedEntries (es : List (Value × Value)) : List (String × Value) :=
  es.filterMap fun e => e.1.scalarText?.map fun key => (key, e.2)

section Fold

variable {ε α : Type} {add : Text.Map α → Value × Value → Except ε (Text.Map α)} {decode : String → Value → Except ε α}
  {key? : Value × Value → Option String}

/-- The values of the entries that have a key in some sense, by their keys. -/
def keyedBy (key? : Value × Value → Option String) (es : List (Value × Value)) : List (String × Value) :=
  es.filterMap fun e => (key? e).map fun key => (key, e.2)

/-- A fold that fills a map decodes the entries that have keys one by one. -/
theorem foldlM_add (hadd : ∀ m e, add m e = match key? e with
      | none => .ok m
      | some key => (decode key e.2).map (m.insert key)) (es : List (Value × Value)) (done : List (String × α)) :
    es.foldlM add (mapOf done) = ((keyedBy key? es).mapM fun e => (decode e.1 e.2).map fun a => (e.1, a)).map
      fun items => mapOf (done ++ items) := by
  induction es generalizing done with
  | nil => simp [keyedBy, Except.map, pure, Except.pure]
  | cons e rest ih =>
    rw [List.foldlM_cons, hadd]
    cases hkey : key? e with
    | none =>
      have hskip : keyedBy key? (e :: rest) = keyedBy key? rest := by simp [keyedBy, hkey]
      rw [hskip, ← ih]
      rfl
    | some key =>
      have hcons : keyedBy key? (e :: rest) = (key, e.2) :: keyedBy key? rest := by simp [keyedBy, hkey]
      rw [hcons, List.mapM_cons]
      cases hd : decode key e.2 with
      | error err => simp [hd, bind, Except.bind, Except.map]
      | ok a =>
        have hnext := ih (done ++ [(key, a)])
        rw [mapOf_append] at hnext
        simp only [hd, bind, Except.bind, Except.map, pure, Except.pure] at hnext ⊢
        rw [hnext]
        split <;> simp_all

theorem Decodes.foldlM {accepts : Value → Prop} {describes : α → Value → Prop}
    (hadd : ∀ m e, add m e = match key? e with
      | none => .ok m
      | some key => (decode key e.2).map (m.insert key)) (es : List (Value × Value))
    (hdecode : ∀ key v, (key, v) ∈ keyedBy key? es → Decodes (decode key v) (accepts v) fun a => describes a v) :
    Decodes (es.foldlM add .empty) (∀ e ∈ keyedBy key? es, accepts e.2)
      fun m => LastWins describes m (keyedBy key? es) := by
  have hitems := Decodes.mapM fun (e : String × Value) (he : e ∈ keyedBy key? es) =>
    (hdecode e.1 e.2 he).map (g := fun a => (e.1, a))
  have hfold : es.foldlM add .empty = _ := foldlM_add hadd es []
  rw [hfold]
  refine (hitems.map (g := fun items => mapOf ([] ++ items))).mono Iff.rfl ?_
  rintro - m ⟨items, hitems, rfl⟩
  refine lastWins_mapOf (List.Forall₂.flip ?_)
  refine hitems.imp ?_
  rintro e _ ⟨a, ha, rfl⟩
  exact ⟨rfl, ha⟩

end Fold

/-! Settings -/

/-- A value that a setting may have: null, or a scalar. -/
def IsText (v : Value) : Prop := v = .null ∨ ∃ text, v.scalarText? = some text

/-- A map of texts: nothing, null, or a mapping in which every key with a text has one. -/
inductive IsSettings : Option Value → Prop
  | absent : IsSettings none
  | null : IsSettings (some .null)
  | mapping {es : List (Value × Value)} (h : ∀ e ∈ es, ∀ key, e.1.scalarText? = some key → IsText e.2) :
      IsSettings (some (.mapping es))

inductive IsDefaults : Option Value → Prop
  | absent : IsDefaults none
  | null : IsDefaults (some .null)
  | mapping {es : List (Value × Value)}
      (h : ∀ e ∈ es, ∀ scope, e.1.scalarText? = some scope → IsSettings (some e.2)) : IsDefaults (some (.mapping es))

def nodeEntries : Option Value → List (Value × Value)
  | some (.mapping es) => es
  | _ => []

/-- The map of a node holds the text of the last entry for each key, null read as the empty text. -/
def SettingsOf (node : Option Value) (m : Settings) : Prop :=
  LastWins (fun text v => IsSetting v text) m (keyedEntries (nodeEntries node))

def DefaultsOf (node : Option Value) (d : Defaults) : Prop :=
  LastWins (fun m v => SettingsOf (some v) m) d (keyedEntries (nodeEntries node))

theorem forall_keyedEntries_iff {es : List (Value × Value)} {p : Value → Prop} :
    (∀ e ∈ keyedEntries es, p e.2) ↔ ∀ e ∈ es, ∀ key, e.1.scalarText? = some key → p e.2 := by
  constructor
  · intro h e he key hkey
    exact h (key, e.2) (List.mem_filterMap.mpr ⟨e, he, by simp [hkey]⟩)
  · intro h f hf
    obtain ⟨e, he, hmap⟩ := List.mem_filterMap.mp hf
    obtain ⟨key, hkey, rfl⟩ := Option.map_eq_some_iff.mp hmap
    exact h e he key hkey

theorem lastWins_empty {α β : Type} (R : α → β → Prop) : LastWins R (.empty : Text.Map α) [] where
  isSorted := Text.Map.isSorted_empty
  get? _ := .none

def settingText (path key : String) (v : Value) : Except Error String :=
  match v with
  | .null => .ok ""
  | v =>
    match v.scalarText? with
    | some text => .ok text
    | none => .error (.invalidField (path ++ "." ++ key) (.notScalar v.kindName))

theorem settingText_decodes (path key : String) (v : Value) :
    Decodes (settingText path key v) (IsText v) fun text => IsSetting v text := by
  unfold settingText
  split
  · exact .ok (.inl rfl) (.inl ⟨rfl, rfl⟩)
  · next hnull =>
    cases htext : v.scalarText? with
    | some text => exact .ok (.inr ⟨text, htext⟩) (.inr htext)
    | none =>
      refine .error ?_
      rintro (h | ⟨text, h⟩)
      · exact hnull h
      · rw [htext] at h
        cases h

theorem addSetting_eq (path : String) (m : Settings) (e : Value × Value) :
    addSetting path m e = match e.1.scalarText? with
      | none => .ok m
      | some key => (settingText path key e.2).map (m.insert key) := by
  unfold addSetting settingText
  cases e.1.scalarText? with
  | none => rfl
  | some key =>
    cases e.2 with
    | null => rfl
    | bool b => rfl
    | number n => rfl
    | string s => rfl
    | list items => rfl
    | mapping es => rfl
    | tagged tag v => cases h : (Value.tagged tag v).scalarText? <;> simp [h, Except.map]

theorem isSettings_mapping_iff {es : List (Value × Value)} :
    IsSettings (some (.mapping es)) ↔ ∀ e ∈ keyedEntries es, IsText e.2 := by
  rw [forall_keyedEntries_iff]
  constructor
  · intro h
    cases h with
    | mapping h => exact h
  · exact .mapping

theorem settings_decodes (node : Option Value) (path : String) :
    Decodes (settings node path) (IsSettings node) (SettingsOf node) := by
  unfold settings
  split
  · exact .ok .absent (lastWins_empty _)
  · exact .ok .null (lastWins_empty _)
  · next es =>
    exact (Decodes.foldlM (addSetting_eq path) es fun key v _ => settingText_decodes path key v).mono
      isSettings_mapping_iff.symm fun _ _ h => h
  · next v hnull hmapping =>
    refine .error fun h => ?_
    cases h with
    | null => exact hnull rfl
    | mapping h => exact hmapping _ rfl

theorem addScope_eq (path : String) (m : Defaults) (e : Value × Value) :
    addScope path m e = match e.1.scalarText? with
      | none => .ok m
      | some scope => (settings (some e.2) (path ++ "." ++ scope)).map (m.insert scope) := by
  unfold addScope
  cases e.1.scalarText? with
  | none => rfl
  | some scope =>
    cases h : settings (some e.2) (path ++ "." ++ scope) <;>
      simp [h, bind, Except.bind, Except.map, pure, Except.pure]

theorem isDefaults_mapping_iff {es : List (Value × Value)} :
    IsDefaults (some (.mapping es)) ↔ ∀ e ∈ keyedEntries es, IsSettings (some e.2) := by
  rw [forall_keyedEntries_iff (p := fun v => IsSettings (some v))]
  constructor
  · intro h
    cases h with
    | mapping h => exact h
  · exact .mapping

theorem defaults_decodes (node : Option Value) (path : String) :
    Decodes (defaults node path) (IsDefaults node) (DefaultsOf node) := by
  unfold defaults
  split
  · exact .ok .absent (lastWins_empty _)
  · exact .ok .null (lastWins_empty _)
  · next es =>
    exact (Decodes.foldlM (addScope_eq path) es fun scope v _ => settings_decodes (some v) (path ++ "." ++ scope)).mono
      isDefaults_mapping_iff.symm fun _ _ h => h
  · next v hnull hmapping =>
    refine .error fun h => ?_
    cases h with
    | null => exact hnull rfl
    | mapping h => exact hmapping _ rfl

/-! Permissions -/

inductive IsPermissions : Option Value → Prop
  | level (s : String) : IsPermissions (some (.string s))
  | settings {node : Option Value} (h : IsSettings node) : IsPermissions node

def PermissionsOf (node : Option Value) (m : Settings) : Prop :=
  match node with
  | some (.string level) => LastWins (· = ·) m [(allPermissions, level)]
  | node => SettingsOf node m

theorem permissionsOf_of_ne_string {node : Option Value} (hlevel : ∀ level, node ≠ some (.string level)) :
    PermissionsOf node = SettingsOf node := by
  unfold PermissionsOf
  split
  · next level => exact absurd rfl (hlevel level)
  · rfl

theorem permissions_decodes (node : Option Value) :
    Decodes (permissions node) (IsPermissions node) (PermissionsOf node) := by
  unfold permissions
  split
  · next level =>
    have hmap : LastWins (· = ·) (mapOf [(allPermissions, level)]) [(allPermissions, level)] :=
      lastWins_mapOf (.cons ⟨rfl, rfl⟩ .nil)
    exact .ok (.level level) hmap
  · next hlevel =>
    rw [permissionsOf_of_ne_string hlevel]
    refine (settings_decodes node "permissions").mono ⟨.settings, fun h => ?_⟩ fun _ _ h => h
    cases h with
    | level s => exact absurd rfl (hlevel s)
    | settings h => exact h

/-! Steps and jobs -/

structure IsStep (v : Value) : Prop where
  mapping : v.isMapping = true
  env : IsSettings (v.field? "env")
  inputs : IsSettings (v.field? "with")

inductive IsSteps : Option Value → Prop
  | absent : IsSteps none
  | null : IsSteps (some .null)
  | list {items : List Value} (h : ∀ item ∈ items, IsStep item) : IsSteps (some (.list items))

structure IsJobBody (v : Value) : Prop where
  mapping : v.isMapping = true
  steps : IsSteps (v.field? "steps")
  defaults : IsDefaults (v.field? "defaults")

inductive IsJobs : Option Value → Prop
  | absent : IsJobs none
  | null : IsJobs (some .null)
  | mapping {es : List (Value × Value)} (h : ∀ e ∈ es, (∃ id, e.1.scalarText? = some id) ∧ IsJobBody e.2) :
      IsJobs (some (.mapping es))

def nodeItems : Option Value → List Value
  | some (.list items) => items
  | _ => []

structure StepOf (v : Value) (s : Step) : Prop where
  texts : (s.id, s.name, s.condition, s.shell, s.run, s.uses) =
    (text? v "id", text? v "name", text? v "if", text? v "shell", text? v "run", text? v "uses")
  env : SettingsOf (v.field? "env") s.env
  inputs : SettingsOf (v.field? "with") s.inputs

/-- The job of an entry, its steps in the order of the list. -/
structure JobOf (e : Value × Value) (j : Job) : Prop where
  id : e.1.scalarText? = some j.id
  texts : (j.uses, j.name, j.runsOn, j.strategy) =
    (text? e.2 "uses", text? e.2 "name", Job.runsOn? (e.2.field? "runs-on"), Job.strategy? e.2)
  defaults : DefaultsOf (e.2.field? "defaults") j.defaults
  steps : List.Forall₂ StepOf (nodeItems (e.2.field? "steps")) j.steps

theorem Step.ofValue_decodes (v : Value) (path : String) :
    Decodes (Step.ofValue v path) (IsStep v) (StepOf v) where
  exists_ok h := by
    obtain ⟨env, henv⟩ := (settings_decodes _ (path ++ ".env")).exists_ok h.env
    obtain ⟨inputs, hinputs⟩ := (settings_decodes _ (path ++ ".with")).exists_ok h.inputs
    rw [Step.ofValue, if_pos h.mapping, henv, hinputs]
    exact ⟨_, rfl⟩
  sound h := by
    obtain ⟨hmapping, hid, hname, hcondition, hshell, hrun, huses, henv, hinputs⟩ := Step.of_ofValue h
    obtain ⟨henv, hsettings⟩ := (settings_decodes _ _).sound henv
    obtain ⟨hinputs, hsettings'⟩ := (settings_decodes _ _).sound hinputs
    refine ⟨⟨hmapping, henv, hinputs⟩, ?_, hsettings, hsettings'⟩
    rw [hid, hname, hcondition, hshell, hrun, huses]

theorem Job.steps?_decodes (id : String) (body : Value) :
    Decodes (Job.steps? id body) (IsSteps (body.field? "steps"))
      fun steps => List.Forall₂ StepOf (nodeItems (body.field? "steps")) steps := by
  unfold Job.steps?
  split
  · next hnone =>
    rw [hnone]
    exact .ok .absent .nil
  · next hnull =>
    rw [hnull]
    exact .ok .null .nil
  · next items hitems =>
    rw [hitems]
    have hsteps := Decodes.mapM fun (item : Value × Nat) (_ : item ∈ items.zipIdx) =>
      Step.ofValue_decodes item.1 (stepPath id item.2)
    refine hsteps.mono ?_ fun _ steps h => ?_
    · have hall : (∀ item ∈ items.zipIdx, IsStep item.1) ↔ ∀ item ∈ items, IsStep item := by
        rw [← List.forall_mem_map (f := Prod.fst) (P := IsStep), List.zipIdx_map_fst]
      rw [hall]
      constructor
      · exact .list
      · intro h
        cases h with
        | list h => exact h
    · have hfirst : List.Forall₂ StepOf (items.zipIdx.map Prod.fst) steps := List.forall₂_map_left_iff.mpr h
      rwa [List.zipIdx_map_fst] at hfirst
  · next v hnull hlist hv =>
    rw [hv]
    refine .error fun h => ?_
    cases h with
    | null => exact hnull rfl
    | list h => exact hlist _ rfl

theorem Job.ofValue_decodes (id : String) (body : Value) : Decodes (Job.ofValue id body) (IsJobBody body)
    fun j => ∀ key : Value, key.scalarText? = some id → JobOf (key, body) j where
  exists_ok h := by
    obtain ⟨steps, hsteps⟩ := (Job.steps?_decodes id body).exists_ok h.steps
    obtain ⟨defaults, hdefaults⟩ := (defaults_decodes _ ("jobs." ++ id ++ ".defaults")).exists_ok h.defaults
    rw [Job.ofValue, if_pos h.mapping, hsteps, hdefaults]
    exact ⟨_, rfl⟩
  sound h := by
    obtain ⟨hmapping, hid, huses, hname, hrunsOn, hstrategy, hsteps, hdefaults⟩ := Job.of_ofValue h
    obtain ⟨hsteps, hstepsOf⟩ := (Job.steps?_decodes id body).sound hsteps
    obtain ⟨hdefaults, hdefaultsOf⟩ := (defaults_decodes _ _).sound hdefaults
    refine ⟨⟨hmapping, hsteps, hdefaults⟩, fun key hkey => ⟨by rw [hkey, hid], ?_, hdefaultsOf, hstepsOf⟩⟩
    rw [huses, hname, hrunsOn, hstrategy]

theorem jobOfEntry_decodes (e : Value × Value) :
    Decodes (jobOfEntry e) ((∃ id, e.1.scalarText? = some id) ∧ IsJobBody e.2) (JobOf e) := by
  unfold jobOfEntry
  cases hkey : e.1.scalarText? with
  | none => exact .error (by simp)
  | some id => exact (Job.ofValue_decodes id e.2).mono (by simp) fun _ j h => h e.1 hkey

theorem jobs_decodes (node : Option Value) :
    Decodes (jobs node) (IsJobs node) fun js => List.Forall₂ JobOf (nodeEntries node) js := by
  unfold jobs
  split
  · exact .ok .absent .nil
  · exact .ok .null .nil
  · next es =>
    refine (Decodes.mapM fun e (_ : e ∈ es) => jobOfEntry_decodes e).mono ⟨.mapping, fun h => ?_⟩ fun _ _ h => h
    cases h with
    | mapping h => exact h
  · next v hnull hmapping =>
    refine .error fun h => ?_
    cases h with
    | null => exact hnull rfl
    | mapping h => exact hmapping _ rfl

/-! Documents -/

/-- A workflow: a mapping whose parts are in order. -/
structure IsWorkflow (root : Value) : Prop where
  mapping : root.isMapping = true
  jobs : IsJobs (root.field? "jobs")
  triggers : ∃ ts, Workflow.triggers (onNode? root) = .ok ts
  permissions : IsPermissions (root.field? "permissions")
  env : IsSettings (root.field? "env")
  defaults : IsDefaults (root.field? "defaults")

/-- The document of a workflow, its jobs in the order of their entries. -/
structure DocumentOf (root : Value) (d : Document) : Prop where
  texts : (d.name, d.runName) = (text? root "name", text? root "run-name")
  triggers : Workflow.triggers (onNode? root) = .ok d.triggers
  permissions : PermissionsOf (root.field? "permissions") d.permissions
  env : SettingsOf (root.field? "env") d.env
  defaults : DefaultsOf (root.field? "defaults") d.defaults
  jobs : List.Forall₂ JobOf (nodeEntries (root.field? "jobs")) d.jobs

theorem Document.ofValue_decodes (root : Value) :
    Decodes (Document.ofValue root) (IsWorkflow root) (DocumentOf root) where
  exists_ok h := by
    obtain ⟨jobs, hjobs⟩ := (jobs_decodes _).exists_ok h.jobs
    obtain ⟨triggers, htriggers⟩ := h.triggers
    obtain ⟨permissions, hpermissions⟩ := (permissions_decodes _).exists_ok h.permissions
    obtain ⟨env, henv⟩ := (settings_decodes _ "env").exists_ok h.env
    obtain ⟨defaults, hdefaults⟩ := (defaults_decodes _ "defaults").exists_ok h.defaults
    rw [Document.ofValue, if_pos h.mapping, hjobs, htriggers, hpermissions, henv, hdefaults]
    exact ⟨_, rfl⟩
  sound h := by
    obtain ⟨hmapping, hname, hrunName, hjobs, htriggers, hpermissions, henv, hdefaults⟩ := Document.of_ofValue h
    obtain ⟨hjobs, hjobsOf⟩ := (jobs_decodes _).sound hjobs
    obtain ⟨hpermissions, hpermissionsOf⟩ := (permissions_decodes _).sound hpermissions
    obtain ⟨henv, henvOf⟩ := (settings_decodes _ _).sound henv
    obtain ⟨hdefaults, hdefaultsOf⟩ := (defaults_decodes _ _).sound hdefaults
    refine ⟨⟨hmapping, hjobs, ⟨_, htriggers⟩, hpermissions, henv, hdefaults⟩, ?_, htriggers, hpermissionsOf, henvOf,
      hdefaultsOf, hjobsOf⟩
    rw [hname, hrunName]

/-- Just the values of the language are decoded, and what is decoded is the document of the value. -/
theorem Document.ofValue_language (root : Value) :
    ((∃ d, Document.ofValue root = .ok d) ↔ IsWorkflow root) ∧
      ∀ d, Document.ofValue root = .ok d → DocumentOf root d :=
  ⟨(ofValue_decodes root).iff, fun _ h => ((ofValue_decodes root).sound h).2⟩

/-- A number and a string with one text are keys of one entry, and a job may be tagged. -/
theorem Document.ofValue_language_colliding :
    ∃ root d, Document.ofValue root = .ok d ∧ IsWorkflow root ∧ DocumentOf root d ∧ d.env.entries = [("1", "")] ∧
      d.jobs.map (·.id) = ["true"] ∧ d.jobs.flatMap (·.steps.map (·.run)) = [some "make"] := by
  let step : Value := .tagged "!step" (.mapping [(.string "run", .string "make")])
  let job : Value := .tagged "!job" (.mapping [(.string "steps", .list [step])])
  let env : Value := .mapping [(.number (.int 1), .string "a"), (.string "1", .null)]
  let root : Value := .mapping [(.string "env", env), (.string "jobs", .mapping [(.bool true, job)])]
  obtain ⟨d, hd, hfields⟩ := exists_ok_of_map (x := Document.ofValue root)
    (f := fun d => (d.env.entries, d.jobs.map (·.id), d.jobs.flatMap (·.steps.map (·.run))))
    (b := ([("1", "")], ["true"], [some "make"])) (by decide +kernel)
  simp only [Prod.mk.injEq] at hfields
  obtain ⟨hiff, hdocument⟩ := Document.ofValue_language root
  exact ⟨root, d, hd, hiff.mp ⟨d, hd⟩, hdocument d hd, hfields⟩

end RepoConventions.Workflow
