import RepoConventions.Proofs.Workflow.Alike
import RepoConventions.Proofs.Workflow.OnKey

/-!
# Agreement of the two readings

A workflow that is decoded from its typed value and the one that is decoded from its text have the same parts. Only the
texts of booleans and numbers differ, which are canonical in the one and as written in the other.
-/

namespace RepoConventions.Workflow

open Yaml (Tree Value SameScalar Twin TwinEntry eq_ok_of_toOption exists_ok_of_map exists_mem_of_forall₂)
open Yaml.Resolution (IsWord)

/-! What it means that two documents agree -/

def SettingsAgree : Settings → Settings → Prop := MapsAgree SameScalar

def DefaultsAgree : Defaults → Defaults → Prop := MapsAgree SettingsAgree

def TextsAgree : Option String → Option String → Prop := Option.Rel SameScalar

structure Step.Agrees (s t : Step) : Prop where
  id : TextsAgree s.id t.id
  name : TextsAgree s.name t.name
  condition : TextsAgree s.condition t.condition
  shell : TextsAgree s.shell t.shell
  env : SettingsAgree s.env t.env
  run : TextsAgree s.run t.run
  uses : TextsAgree s.uses t.uses
  inputs : SettingsAgree s.inputs t.inputs

def RunnersAgree : Option String → Option String → Prop :=
  Option.Rel fun a b => SameScalar a b ∨ ∃ l l', List.Forall₂ SameScalar l l' ∧ a = ", ".intercalate l ∧
    b = ", ".intercalate l'

structure Job.Agrees (j k : Job) : Prop where
  id : SameScalar j.id k.id
  uses : TextsAgree j.uses k.uses
  name : TextsAgree j.name k.name
  runsOn : RunnersAgree j.runsOn k.runsOn
  defaults : DefaultsAgree j.defaults k.defaults
  strategy : Option.Rel Twin j.strategy k.strategy
  steps : List.Forall₂ Step.Agrees j.steps k.steps

structure Trigger.Agrees (t u : Trigger) : Prop where
  eventId : SameScalar t.eventId u.eventId
  filters : MapsAgree (List.Forall₂ SameScalar) t.filters u.filters

structure Document.Agrees (d e : Document) : Prop where
  name : TextsAgree d.name e.name
  runName : TextsAgree d.runName e.runName
  triggers : List.Forall₂ Trigger.Agrees d.triggers e.triggers
  permissions : SettingsAgree d.permissions e.permissions
  env : SettingsAgree d.env e.env
  defaults : DefaultsAgree d.defaults e.defaults
  jobs : List.Forall₂ Job.Agrees d.jobs e.jobs

/-! Texts and maps of texts -/

variable {v w : Value} {n? w? : Option Value}

theorem text?_agree (h : Twin v w) {name : String} (hname : IsWord name) :
    TextsAgree (text? v name) (text? w name) := rel_bind (h.field? hname) fun _ _ h => h.scalarText?

theorem scalarText?_cases (h : Twin v w) :
    v.scalarText? = none ∧ w.scalarText? = none ∨
      ∃ key key', v.scalarText? = some key ∧ w.scalarText? = some key' ∧ w = .string key' ∧ SameScalar key key' := by
  cases h.view with
  | null => exact .inl ⟨rfl, rfl⟩
  | list _ => exact .inl ⟨rfl, rfl⟩
  | mapping _ _ => exact .inl ⟨rfl, rfl⟩
  | text _ htext hsame => exact .inr ⟨_, _, htext, rfl, rfl, hsame⟩

theorem addSetting_of_scalarText {path : String} {m : Settings} {e : Value × Value} {key text : String}
    (hkey : e.1.scalarText? = some key) (htext : e.2.scalarText? = some text) :
    addSetting path m e = .ok (m.insert key text) := by
  obtain ⟨k, x⟩ := e
  cases x <;> simp_all [addSetting, Value.scalarText?]

theorem addSetting_agree (path path' : String) {e f : Value × Value} (m n : Settings) (h : TwinEntry e f) :
    Alike (fun m' n' => AddedInStep SameScalar f m m' n n') (addSetting path m e) (addSetting path' n f) := by
  obtain ⟨k, x⟩ := e
  obtain ⟨k', y⟩ := f
  obtain ⟨hkeys, hvalues⟩ := h
  rcases scalarText?_cases hkeys with ⟨hk, hk'⟩ | ⟨key, key', hk, hk', hkey', hsame⟩
  · simp only [addSetting, hk, hk']
    exact .ok (.inl ⟨rfl, rfl⟩)
  · cases hvalues.view with
    | null =>
      simp only [addSetting, hk, hk']
      exact .ok (.inr ⟨key, "", key', "", hkey', hsame, .inl rfl, rfl, rfl⟩)
    | text _ htext hsame' =>
      rw [addSetting_of_scalarText hk htext, addSetting_of_scalarText hk' rfl]
      exact .ok (.inr ⟨key, _, key', _, hkey', hsame, hsame', rfl, rfl⟩)
    | list _ =>
      simp only [addSetting, hk, hk']
      exact .error
    | mapping _ _ =>
      simp only [addSetting, hk, hk']
      exact .error

theorem settings_agree (path path' : String) (h : Option.Rel Twin n? w?) :
    Alike SettingsAgree (settings n? path) (settings w? path') := by
  cases h with
  | none => exact .ok (mapsAgree_empty _)
  | some h =>
    cases h.view with
    | null => exact .ok (mapsAgree_empty _)
    | mapping hentries hapart => exact foldlM_alike hentries hapart fun e f m n => addSetting_agree path path' m n
    | list _ => exact .error
    | text hv _ _ => rcases hv.cases with ⟨b, rfl⟩ | ⟨x, rfl⟩ | ⟨s, rfl⟩ <;> exact .error

theorem addScope_agree (path path' : String) {e f : Value × Value} (m n : Defaults) (h : TwinEntry e f) :
    Alike (fun m' n' => AddedInStep SettingsAgree f m m' n n') (addScope path m e) (addScope path' n f) := by
  unfold addScope
  rcases scalarText?_cases h.1 with ⟨hk, hk'⟩ | ⟨key, key', hk, hk', hkey', hsame⟩
  · rw [hk, hk']
    exact .ok (.inl ⟨rfl, rfl⟩)
  · rw [hk, hk']
    refine (settings_agree _ _ (.some h.2)).bind fun a b hab => ?_
    exact .ok (.inr ⟨key, a, key', b, hkey', hsame, hab, rfl, rfl⟩)

theorem defaults_agree (path path' : String) (h : Option.Rel Twin n? w?) :
    Alike DefaultsAgree (defaults n? path) (defaults w? path') := by
  cases h with
  | none => exact .ok (mapsAgree_empty _)
  | some h =>
    cases h.view with
    | null => exact .ok (mapsAgree_empty _)
    | mapping hentries hapart => exact foldlM_alike hentries hapart fun e f m n => addScope_agree path path' m n
    | list _ => exact .error
    | text hv _ _ => rcases hv.cases with ⟨b, rfl⟩ | ⟨x, rfl⟩ | ⟨s, rfl⟩ <;> exact .error

/-- A single permission level agrees where it is neither a boolean nor a number. -/
theorem permissions_agree (h : Option.Rel Twin n? w?)
    (hlevel : ∀ v, n? = some v → (∀ b, v ≠ .bool b) ∧ ∀ x, v ≠ .number x) :
    Alike SettingsAgree (permissions n?) (permissions w?) := by
  cases h with
  | none => exact settings_agree "permissions" "permissions" .none
  | some h =>
    obtain ⟨hbool, hnumber⟩ := hlevel _ rfl
    cases h.view with
    | null => exact settings_agree "permissions" "permissions" (.some h)
    | mapping _ _ => exact settings_agree "permissions" "permissions" (.some h)
    | list _ => exact settings_agree "permissions" "permissions" (.some h)
    | text hv htext hsame =>
      rcases hv.cases with ⟨b, rfl⟩ | ⟨x, rfl⟩ | ⟨s, rfl⟩
      · exact absurd rfl (hbool b)
      · exact absurd rfl (hnumber x)
      · cases htext
        exact .ok (mapsAgree_single allPermissions hsame)

/-! Jobs -/

theorem step_agree (path path' : String) (h : Twin v w) :
    Alike Step.Agrees (Step.ofValue v path) (Step.ofValue w path') := by
  have htext {name : String} (hname : IsWord name) := text?_agree h hname
  have henv := settings_agree (path ++ ".env") (path' ++ ".env") (h.field? (by decide : IsWord "env"))
  have hinputs := settings_agree (path ++ ".with") (path' ++ ".with") (h.field? (by decide : IsWord "with"))
  unfold Step.ofValue
  rw [h.isMapping_eq]
  split
  · refine henv.bind fun env env' henv => hinputs.bind fun inputs inputs' hinputs => .ok ?_
    exact {
      id := htext (by decide)
      name := htext (by decide)
      condition := htext (by decide)
      shell := htext (by decide)
      env := henv
      run := htext (by decide)
      uses := htext (by decide)
      inputs := hinputs }
  · exact .error

theorem runsOn_agree (h : Option.Rel Twin n? w?) : RunnersAgree (Job.runsOn? n?) (Job.runsOn? w?) := by
  cases h with
  | none => exact .none
  | some h =>
    cases h.view with
    | null => exact .none
    | mapping _ _ => exact .none
    | list hitems => exact .some (.inr ⟨_, _, List.rel_filterMap (fun _ _ h => h.scalarText?) hitems, rfl, rfl⟩)
    | text hv htext hsame =>
      rcases hv.cases with ⟨b, rfl⟩ | ⟨x, rfl⟩ | ⟨s, rfl⟩ <;> cases htext <;> exact .some (.inl hsame)

theorem strategy_agree (h : Twin v w) : Option.Rel Twin (Job.strategy? v) (Job.strategy? w) :=
  rel_filter (h.field? (by decide)) fun _ _ h => by rw [h.isNull_eq]

theorem steps_agree (id id' : String) (h : Twin v w) :
    Alike (List.Forall₂ Step.Agrees) (Job.steps? id v) (Job.steps? id' w) := by
  have hsteps := h.field? (by decide : IsWord "steps")
  unfold Job.steps?
  generalize v.field? "steps" = n?, w.field? "steps" = w? at hsteps
  cases hsteps with
  | none => exact .ok .nil
  | some h =>
    cases h.view with
    | null => exact .ok .nil
    | list hitems => exact Alike.mapM (forall₂_zipIdx hitems 0) fun p q hpq => step_agree _ _ hpq
    | mapping _ _ => exact .error
    | text hv _ _ => rcases hv.cases with ⟨b, rfl⟩ | ⟨x, rfl⟩ | ⟨s, rfl⟩ <;> exact .error

theorem job_agree {id id' : String} (hid : SameScalar id id') (h : Twin v w) :
    Alike Job.Agrees (Job.ofValue id v) (Job.ofValue id' w) := by
  have hdefaults := defaults_agree ("jobs." ++ id ++ ".defaults") ("jobs." ++ id' ++ ".defaults")
    (h.field? (by decide : IsWord "defaults"))
  unfold Job.ofValue
  rw [h.isMapping_eq]
  split
  · refine (steps_agree id id' h).bind fun steps steps' hsteps => hdefaults.bind fun defaults defaults' hdefaults => .ok ?_
    exact {
      id := hid
      uses := text?_agree h (by decide)
      name := text?_agree h (by decide)
      runsOn := runsOn_agree (h.field? (by decide))
      defaults := hdefaults
      strategy := strategy_agree h
      steps := hsteps }
  · exact .error

theorem jobOfEntry_agree {e f : Value × Value} (h : TwinEntry e f) :
    Alike Job.Agrees (jobOfEntry e) (jobOfEntry f) := by
  unfold jobOfEntry
  rcases scalarText?_cases h.1 with ⟨hk, hk'⟩ | ⟨id, id', hk, hk', -, hsame⟩
  · rw [hk, hk']
    exact .error
  · rw [hk, hk']
    exact job_agree hsame h.2

theorem jobs_agree (h : Option.Rel Twin n? w?) : Alike (List.Forall₂ Job.Agrees) (jobs n?) (jobs w?) := by
  cases h with
  | none => exact .ok .nil
  | some h =>
    cases h.view with
    | null => exact .ok .nil
    | mapping hentries _ => exact Alike.mapM hentries fun e f hef => jobOfEntry_agree hef
    | list _ => exact .error
    | text hv _ _ => rcases hv.cases with ⟨b, rfl⟩ | ⟨x, rfl⟩ | ⟨s, rfl⟩ <;> exact .error

/-! Triggers -/

theorem eventName?_cases (h : Twin v w) :
    eventName? v = none ∧ eventName? w = none ∨
      ∃ name name', eventName? v = some name ∧ w = .string name' ∧ SameScalar name name' := by
  cases h.view with
  | null => exact .inl ⟨rfl, rfl⟩
  | list _ => exact .inl ⟨rfl, rfl⟩
  | mapping _ _ => exact .inl ⟨rfl, rfl⟩
  | text hv htext hsame =>
    refine .inr ⟨_, _, ?_, rfl, hsame⟩
    rcases hv.cases with ⟨b, rfl⟩ | ⟨x, rfl⟩ | ⟨s, rfl⟩ <;> exact htext

theorem crons_agree (h : Twin v w) :
    Alike (List.Forall₂ SameScalar) (cronExpressions v) (cronExpressions w) := by
  cases h.view with
  | null => exact .error
  | mapping _ _ => exact .error
  | text hv _ _ => rcases hv.cases with ⟨b, rfl⟩ | ⟨x, rfl⟩ | ⟨s, rfl⟩ <;> exact .error
  | list hitems =>
    refine Alike.mapM (List.rel_filter (fun a b hab => Bool.eq_iff_iff.mp hab.isMapping_eq) hitems) fun a b hab => ?_
    have hcron := text?_agree hab (by decide : IsWord cronFilter)
    generalize text? a cronFilter = x, text? b cronFilter = y at hcron
    cases hcron with
    | none => exact .error
    | some hsame => exact .ok hsame

theorem filterValues_agree (field field' : String) (h : Twin v w) :
    Alike (Option.Rel (List.Forall₂ SameScalar)) (filterValues? field v) (filterValues? field' w) := by
  cases h.view with
  | null => exact .ok .none
  | mapping _ _ => exact .ok .none
  | text hv htext hsame =>
    rcases hv.cases with ⟨b, rfl⟩ | ⟨x, rfl⟩ | ⟨s, rfl⟩ <;> cases htext <;> exact .ok (.some (.cons hsame .nil))
  | list hitems =>
    refine (Alike.mapM (S := SameScalar) hitems fun a b hab => ?_).bind fun l l' hl => .ok (.some hl)
    rcases scalarText?_cases hab with ⟨ha, hb⟩ | ⟨text, text', ha, hb, -, hsame⟩
    · rw [ha, hb]
      exact .error
    · rw [ha, hb]
      exact .ok hsame

theorem addFilter_agree (eventId eventId' : String) {e f : Value × Value} (m n : Text.Map (List String))
    (h : TwinEntry e f) :
    Alike (fun m' n' => AddedInStep (List.Forall₂ SameScalar) f m m' n n') (addFilter eventId m e)
      (addFilter eventId' n f) := by
  unfold addFilter
  rcases scalarText?_cases h.1 with ⟨hk, hk'⟩ | ⟨key, key', hk, hk', hkey', hsame⟩
  · rw [hk, hk']
    exact .ok (.inl ⟨rfl, rfl⟩)
  · rw [hk, hk']
    refine (filterValues_agree _ _ h.2).bind fun a b hab => ?_
    cases hab with
    | none => exact .ok (.inl ⟨rfl, rfl⟩)
    | some hab => exact .ok (.inr ⟨key, _, key', _, hkey', hsame, hab, rfl, rfl⟩)

theorem eventFilters_agree {name name' : String} (hname : SameScalar name name') (h : Twin v w) :
    Alike (MapsAgree (List.Forall₂ SameScalar)) (eventFilters name v) (eventFilters name' w) := by
  by_cases hnull : v = .null
  · subst hnull
    cases h.view with
    | null => exact .ok (mapsAgree_empty _)
    | text hv _ _ => cases hv
  · have hnull' : w ≠ .null := by
      intro heq
      subst heq
      cases h.view
      exact hnull rfl
    have hschedule : name = scheduleEvent ↔ name' = scheduleEvent :=
      hname.eq_word_iff (by decide) fun h => absurd (h 's' rfl) (by decide)
    have hdispatch : name = dispatchEvent ↔ name' = dispatchEvent :=
      hname.eq_word_iff (by decide) fun h => absurd (h 'w' rfl) (by decide)
    rw [eventFilters_of_ne_null hnull, eventFilters_of_ne_null hnull']
    simp only [hschedule, hdispatch]
    split
    · exact (crons_agree h).bind fun l l' hl => .ok (mapsAgree_single cronFilter hl)
    · split
      · exact .ok (mapsAgree_empty _)
      · cases h.view with
        | null => exact .ok (mapsAgree_empty _)
        | list _ => exact .ok (mapsAgree_empty _)
        | mapping hentries hapart => exact foldlM_alike hentries hapart fun e f m n => addFilter_agree name name' m n
        | text hv _ _ =>
          rcases hv.cases with ⟨b, rfl⟩ | ⟨x, rfl⟩ | ⟨s, rfl⟩ <;> exact .ok (mapsAgree_empty _)

theorem named_agree {name name' : String} (h : SameScalar name name') :
    Trigger.Agrees (.named name) (.named name') := ⟨h, mapsAgree_empty _⟩

theorem triggerInList_agree (h : Twin v w) : Alike Trigger.Agrees (triggerInList v) (triggerInList w) := by
  unfold triggerInList
  rcases eventName?_cases h with ⟨hv, hw⟩ | ⟨name, name', hv, rfl, hsame⟩
  · rw [hv, hw]
    exact .error
  · rw [hv]
    exact .ok (named_agree hsame)

theorem triggerOfEntry_agree {e f : Value × Value} (h : TwinEntry e f) :
    Alike Trigger.Agrees (triggerOfEntry e) (triggerOfEntry f) := by
  unfold triggerOfEntry
  rcases eventName?_cases h.1 with ⟨he, hf⟩ | ⟨name, name', he, hf, hsame⟩
  · rw [he, hf]
    exact .error
  · rw [he, hf]
    exact (eventFilters_agree hsame h.2).bind fun m n hmn => .ok ⟨hsame, hmn⟩

theorem triggers_agree (h : Option.Rel Twin n? w?) :
    Alike (List.Forall₂ Trigger.Agrees) (triggers n?) (triggers w?) := by
  cases h with
  | none => exact .ok .nil
  | some h =>
    have hname := eventName?_cases h
    cases h.view with
    | null => exact .ok .nil
    | list hitems => exact Alike.mapM hitems fun v w hvw => triggerInList_agree hvw
    | mapping hentries _ => exact Alike.mapM hentries fun e f hef => triggerOfEntry_agree hef
    | text hv htext hsame =>
      rcases hv.cases with ⟨b, rfl⟩ | ⟨x, rfl⟩ | ⟨s, rfl⟩ <;> cases htext <;>
        exact .ok (.cons (named_agree hsame) .nil)

/-! Documents -/

/-- What the root of a text must be like for its readings to agree. -/
structure Comparable (t : Tree) : Prop where
  untagged : t.Untagged
  keysApart : t.KeysApart
  /-- A permission level for every scope is neither a boolean nor a number. -/
  permissions : ∀ tag ts, t = .mapping tag ts → ∀ e ∈ ts, e.1.typed = .ok (.string "permissions") →
    (∀ b, e.2.typed ≠ .ok (.bool b)) ∧ ∀ x, e.2.typed ≠ .ok (.number x)
  onKey : ∀ tag ts, t = .mapping tag ts → OnKeyClear ts

theorem Comparable.twin {t : Tree} (h : Comparable t) (hv : t.typed = .ok v) (hw : t.asWritten = .ok w) : Twin v w :=
  ⟨t, h.untagged, h.keysApart, hv, hw⟩

theorem onNode?_twin {tag : Option Yaml.Tag} {ts : List (Tree × Tree)} {es fs : List (Value × Value)}
    (h : Comparable (.mapping tag ts)) (hes : Tree.EntriesRead Tree.typed ts es)
    (hfs : Tree.EntriesRead Tree.asWritten ts fs) (hesapart : es.Pairwise fun e f => e.1.same f.1 = false)
    (hfsapart : fs.Pairwise fun e f => e.1.same f.1 = false) :
    Option.Rel Twin (onNode? (.mapping es)) (onNode? (.mapping fs)) := by
  have hparts := Yaml.hasTwins_of_mem h.untagged.2 (h.keysApart.resolve_left h.untagged.1).2 hes hfs
  have htyped := triggerNode?_read hes none
  have hwritten := triggerNode?_read hfs none
  have hnode := triggerNode?_eq (fun e he => (hparts e he).1) ((Tree.keysReadApart_iff hes).mpr hesapart)
    ((Tree.keysReadApart_iff hfs).mpr hfsapart) (h.onKey tag ts rfl)
  rw [Value.put_nil hesapart] at htyped
  rw [Value.put_nil hfsapart, ← hnode] at hwritten
  refine Yaml.rel_of_hasTwins htyped hwritten fun n hn => ?_
  obtain ⟨k, hk⟩ := exists_mem_of_triggerNode? hn
  exact (hparts _ hk).2

/-- The level of all permissions is no boolean or number in the typed value either. -/
theorem level_of_comparable {tag : Option Yaml.Tag} {ts : List (Tree × Tree)} {es : List (Value × Value)}
    (h : Comparable (.mapping tag ts)) (hes : Tree.EntriesRead Tree.typed ts es) :
    ∀ v, (Value.mapping es).field? "permissions" = some v → (∀ b, v ≠ .bool b) ∧ ∀ x, v ≠ .number x := by
  intro v hv
  have hmem := Value.mem_of_lookup? (Value.isExact_string "permissions") hv
  obtain ⟨e, he, hkey, hvalue⟩ := exists_mem_of_forall₂ hes hmem
  obtain ⟨hbool, hnumber⟩ := h.permissions tag ts rfl e he hkey
  constructor
  · rintro b rfl
    exact hbool b hvalue
  · rintro x rfl
    exact hnumber x hvalue

theorem ofValue_agree {tag : Option Yaml.Tag} {ts : List (Tree × Tree)} (h : Comparable (.mapping tag ts))
    (hv : (Tree.mapping tag ts).typed = .ok v) (hw : (Tree.mapping tag ts).asWritten = .ok w) :
    Alike Document.Agrees (Document.ofValue v) (Document.ofValue w) := by
  have htwin := h.twin hv hw
  obtain ⟨es, fs, rfl, rfl, hes, hfs, hesapart, hfsapart⟩ := Yaml.entriesRead_of_mapping h.untagged h.keysApart hv hw
  have htriggers := onNode?_twin h hes hfs hesapart hfsapart
  have hpermissions := permissions_agree (htwin.field? (by decide : IsWord "permissions")) (level_of_comparable h hes)
  have henv := settings_agree "env" "env" (htwin.field? (by decide : IsWord "env"))
  have hdefaults := defaults_agree "defaults" "defaults" (htwin.field? (by decide : IsWord "defaults"))
  have hjobs := jobs_agree (htwin.field? (by decide : IsWord "jobs"))
  unfold Document.ofValue
  rw [htwin.isMapping_eq]
  split
  · refine hjobs.bind fun jobs jobs' hjobs => (triggers_agree htriggers).bind fun triggers triggers' htriggers => ?_
    refine hpermissions.bind fun permissions permissions' hpermissions => henv.bind fun env env' henv => ?_
    refine hdefaults.bind fun defaults defaults' hdefaults => .ok ?_
    exact {
      name := text?_agree htwin (by decide)
      runName := text?_agree htwin (by decide)
      triggers := htriggers
      permissions := hpermissions
      env := henv
      defaults := hdefaults
      jobs := hjobs }
  · exact .error

/-- Where no node of a text is tagged and no keys of a mapping are written alike, the document of the typed value and
the one of the text are both refused or agree in every part. -/
theorem Document.ofText_agrees {text : String} {root : Value} (h : Yaml.typedValue text = .ok root)
    (hcomparable : ∀ t, Yaml.tree? text = .ok (some t) → Comparable t) :
    Alike Document.Agrees (ofTypedText text) (ofText text) := by
  by_cases hroot : ∃ es, root = .mapping es
  · obtain ⟨es, rfl⟩ := hroot
    obtain ⟨t, ht, hv⟩ := Yaml.typedValue_eq_mapping_iff.mp h
    obtain ⟨w, hw⟩ := Tree.exists_asWritten hv
    have htwin := (hcomparable t ht).twin hv hw
    obtain ⟨tag, ts, rfl⟩ := Tree.exists_mapping hw (htwin.isMapping_eq ▸ rfl)
    rw [ofTypedText, ofText, h, Yaml.valueAsWritten_of_tree ht hv, hw]
    exact ofValue_agree (hcomparable _ ht) hv hw
  · have hmapping (es : List (Value × Value)) : root ≠ .mapping es := fun heq => hroot ⟨es, heq⟩
    have hnot : ¬ root.isMapping := by
      intro his
      rcases Yaml.typedValue_cases h with ⟨rfl, -⟩ | ⟨t, ht, hv⟩
      · cases his
      · obtain ⟨w, hw⟩ := Tree.exists_asWritten hv
        exact hroot (((hcomparable t ht).twin hv hw).exists_mapping his)
    rw [ofTypedText, ofText, h, Yaml.valueAsWritten_of_not_mapping h hmapping]
    dsimp only
    rw [ofValue, if_neg hnot]
    exact .error

/-- A signed number as the event is shown without its sign by the typed document. -/
theorem Document.ofText_agrees_signed :
    ∃ root d e, Yaml.typedValue "on: +1" = .ok root ∧ (∀ t, Yaml.tree? "on: +1" = .ok (some t) → Comparable t) ∧
      ofTypedText "on: +1" = .ok d ∧ ofText "on: +1" = .ok e ∧ d.Agrees e ∧ d.triggers = [.named "1"] ∧
      e.triggers = [.named "+1"] := by
  have htree : (Yaml.tree? "on: +1").toOption =
      some (some (.mapping none [(.scalar none "on" true, .scalar none "+1" true)])) := by decide +kernel
  have hroot : (Yaml.typedValue "on: +1").toOption.map (fun _ => ()) = some () := by decide +kernel
  have hd : (ofTypedText "on: +1").toOption.map (·.triggers) = some [.named "1"] := by decide +kernel
  have he : (ofText "on: +1").toOption.map (·.triggers) = some [.named "+1"] := by decide +kernel
  obtain ⟨root, hroot, -⟩ := exists_ok_of_map hroot
  obtain ⟨d, hd, hdtriggers⟩ := exists_ok_of_map hd
  obtain ⟨e, he, hetriggers⟩ := exists_ok_of_map he
  have hcomparable : ∀ t, Yaml.tree? "on: +1" = .ok (some t) → Comparable t := by
    intro t ht
    cases (eq_ok_of_toOption htree).symm.trans ht
    have hon : Tree.typed (.scalar none "on" true) = .ok (.string "on") := by rfl
    exact {
      untagged := by simp [Tree.Untagged, Tree.EntriesUntagged, Tree.IsCustom]
      keysApart := by simp [Tree.KeysApart, Tree.EntriesApart]
      permissions := by
        rintro tag ts ⟨⟩ e he hkey
        obtain rfl := List.mem_singleton.mp he
        simp [hon] at hkey
      onKey := by
        rintro tag ts ⟨⟩
        exact .inl ⟨_, List.mem_cons_self, hon⟩ }
  have hagree := ofText_agrees hroot hcomparable
  rw [hd, he] at hagree
  cases hagree with
  | ok hagree => exact ⟨root, d, e, hroot, hcomparable, hd, he, hagree, hdtriggers, hetriggers⟩

/-- A text without tags and without keys that are written alike, for which a number tells the two documents apart. -/
def TellsApart (text : String) (count : Document → Nat) : Prop :=
  ∃ t d e, Yaml.tree? text = .ok (some t) ∧ t.Untagged ∧ t.KeysApart ∧ Document.ofTypedText text = .ok d ∧
    Document.ofText text = .ok e ∧ count d ≠ count e

theorem tellsApart {text : String} {count : Document → Nat} {t : Tree} {i j : Nat}
    (ht : (Yaml.tree? text).toOption = some (some t)) (huntagged : t.Untagged) (hapart : t.KeysApart)
    (hd : (Document.ofTypedText text).toOption.map count = some i)
    (he : (Document.ofText text).toOption.map count = some j) (hne : i ≠ j) : TellsApart text count := by
  obtain ⟨d, htypedText, rfl⟩ := exists_ok_of_map hd
  obtain ⟨e, htext, rfl⟩ := exists_ok_of_map he
  exact ⟨t, d, e, eq_ok_of_toOption ht, huntagged, hapart, htypedText, htext, hne⟩

/-- The readings may differ in more than the texts of scalars: a quoted key is tried before the boolean one, which the
typed reading prefers, and a number and a string may have one canonical text. -/
theorem Document.ofText_differs :
    TellsApart "True: a\n\"true\": [a, b]" (·.triggers.length) ∧
      TellsApart "env:\n  +1: a\n  \"1\": b" (·.env.keys.length) := by
  constructor
  · have htrue : Tree.typed (.scalar none "True" true) = .ok (.bool true) := by rfl
    have hquoted : Tree.typed (.scalar none "true" false) = .ok (.string "true") := by rfl
    have hapart := (Tree.sameText_scalar_iff htrue hquoted trivial trivial).not.mpr (by decide)
    refine tellsApart (i := 1) (j := 2) (t := .mapping none [(.scalar none "True" true, .scalar none "a" true),
      (.scalar none "true" false, .sequence none [.scalar none "a" true, .scalar none "b" true])])
      (by decide +kernel) ?_ ?_ (by decide +kernel) (by decide +kernel) (by decide)
    · simp [Tree.Untagged, Tree.EntriesUntagged, Tree.ItemsUntagged, Tree.IsCustom]
    · simp [Tree.KeysApart, Tree.EntriesApart, Tree.ItemsApart, hapart]
  · have hnumber : Tree.typed (.scalar none "+1" true) = .ok (.number (.int 1)) := by rfl
    have hquoted : Tree.typed (.scalar none "1" false) = .ok (.string "1") := by rfl
    have hapart := (Tree.sameText_scalar_iff hnumber hquoted trivial trivial).not.mpr (by decide)
    refine tellsApart (i := 1) (j := 2) (t := .mapping none [(.scalar none "env" true,
      .mapping none [(.scalar none "+1" true, .scalar none "a" true), (.scalar none "1" false, .scalar none "b" true)])])
      (by decide +kernel) ?_ ?_ (by decide +kernel) (by decide +kernel) (by decide)
    · simp [Tree.Untagged, Tree.EntriesUntagged, Tree.IsCustom]
    · simp [Tree.KeysApart, Tree.EntriesApart, hapart]

end RepoConventions.Workflow
