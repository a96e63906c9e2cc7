import RepoConventions.Proofs.Workflow.Decoding

/-!
# Scalars as written

What a document that is read from a text says stands in the text as it is: its strings are the contents of scalar nodes.
The exceptions are made on purpose. A null in a map of texts is the empty text, and what carries a tag of the
application or lies below one is read typed.
-/

namespace RepoConventions.Workflow

open Yaml (Tree Value exists_ok_of_map forall₂_comp exists_mem_of_forall₂ mapM_eq_ok_iff)
open Yaml.Tree (IsTagged Written asWritten typed EntriesRead)

/-! What it means that a thing comes from a node -/

def Content (n : Tree) (text : String) : Prop := ∃ tag plain, n = .scalar tag text plain

/-- A thing that is decoded from a node: from its typed value where the node is tagged, elsewhere as `R` says. -/
def FromNode {α : Type} (decoded : Value → α → Prop) (R : Tree → α → Prop) (n : Tree) (a : α) : Prop :=
  n.IsTagged ∧ (∃ v, typed n = .ok v ∧ decoded v a) ∨ ¬ n.IsTagged ∧ R n a

def Kept : Tree → String → Prop := FromNode (fun v text => v.scalarText? = some text) Content

/-- The text of a key. Of equal keys the first one stays, which below a tag need not look the same. -/
def KeyKept : Tree → String → Prop :=
  FromNode (fun v text => ∃ k : Value, (k = v ∨ k.same v = true) ∧ k.scalarText? = some text) Content

def SettingKept (n : Tree) (text : String) : Prop := Kept n text ∨ typed n = .ok .null ∧ text = ""

def field? (n : Tree) (name : String) : Option Tree :=
  match n with
  | .mapping _ ts => Tree.lookup? asWritten ts (.string name)
  | _ => none

def TextKept (n? : Option Tree) (text? : Option String) : Prop :=
  ∀ text, text? = some text → ∃ n, n? = some n ∧ Kept n text

def MapKept {α : Type} (R : Tree → α → Prop) (n? : Option Tree) (m : Text.Map α) : Prop :=
  ∀ e ∈ m.entries, ∃ tag ts, n? = some (.mapping tag ts) ∧ ∃ f ∈ ts, KeyKept f.1 e.1 ∧ R f.2 e.2

def SettingsKept : Option Tree → Settings → Prop := MapKept SettingKept

def DefaultsKept : Option Tree → Defaults → Prop := MapKept fun n => SettingsKept (some n)

/-- Permissions are a map, or one level for every scope. -/
def PermissionsKept (n? : Option Tree) (m : Settings) : Prop :=
  SettingsKept n? m ∨ ∃ n level, n? = some n ∧ Content n level ∧ m = Text.Map.empty.insert allPermissions level

structure StepKept (n : Tree) (s : Step) : Prop where
  id : TextKept (field? n "id") s.id
  name : TextKept (field? n "name") s.name
  condition : TextKept (field? n "if") s.condition
  shell : TextKept (field? n "shell") s.shell
  run : TextKept (field? n "run") s.run
  uses : TextKept (field? n "uses") s.uses
  env : SettingsKept (field? n "env") s.env
  inputs : SettingsKept (field? n "with") s.inputs

def RunnerKept (n? : Option Tree) (runsOn : Option String) : Prop :=
  ∀ text, runsOn = some text → ∃ n, n? = some n ∧
    (Kept n text ∨ ∃ tag items labels, n = .sequence tag items ∧ (∀ l ∈ labels, ∃ i ∈ items, Kept i l) ∧
      text = ", ".intercalate labels)

structure JobKept (n : Tree) (j : Job) : Prop where
  uses : TextKept (field? n "uses") j.uses
  name : TextKept (field? n "name") j.name
  runsOn : RunnerKept (field? n "runs-on") j.runsOn
  defaults : DefaultsKept (field? n "defaults") j.defaults
  strategy : ∀ v, j.strategy = some v → ∃ m, field? n "strategy" = some m ∧ asWritten m = .ok v
  steps : j.steps = [] ∨ ∃ tag items, field? n "steps" = some (.sequence tag items) ∧
    List.Forall₂ (FromNode (fun v s => ∃ path, Step.ofValue v path = .ok s) StepKept) items j.steps

def JobsKept (n? : Option Tree) (jobs : List Job) : Prop :=
  ∀ j ∈ jobs, ∃ tag ts, n? = some (.mapping tag ts) ∧
    ∃ e ∈ ts, KeyKept e.1 j.id ∧ FromNode (fun v j => Job.ofValue j.id v = .ok j) JobKept e.2 j

def ValuesKept (n : Tree) (values : List String) : Prop :=
  (∃ tag items, n = .sequence tag items ∧ List.Forall₂ Kept items values) ∨ ∃ text, Content n text ∧ values = [text]

def CronsKept (n : Tree) (crons : List String) : Prop :=
  ∃ tag items, n = .sequence tag items ∧ ∀ text ∈ crons, ∃ item ∈ items,
    FromNode (fun v text => text? v cronFilter = some text) (fun n text => TextKept (field? n cronFilter) (some text))
      item text

def FiltersKept (n : Tree) (t : Trigger) : Prop :=
  ∀ e ∈ t.filters.entries,
    (t.eventId = scheduleEvent ∧ e.1 = cronFilter ∧ CronsKept n e.2) ∨
      ∃ tag ts, n = .mapping tag ts ∧ ∃ f ∈ ts, KeyKept f.1 e.1 ∧ ValuesKept f.2 e.2

def TriggersKept (n? : Option Tree) (triggers : List Trigger) : Prop :=
  triggers = [] ∨ ∃ n, n? = some n ∧
    ((∃ name, Content n name ∧ triggers = [.named name]) ∨
      (∃ tag items, n = .sequence tag items ∧
        List.Forall₂ (fun item t => ∃ name, Content item name ∧ t = .named name) items triggers) ∨
      ∃ tag ts, n = .mapping tag ts ∧ ∀ t ∈ triggers, ∃ e ∈ ts, Content e.1 t.eventId ∧ FiltersKept e.2 t)

structure DocumentKept (n : Tree) (d : Document) : Prop where
  name : TextKept (field? n "name") d.name
  runName : TextKept (field? n "run-name") d.runName
  triggers : ∃ tag ts, n = .mapping tag ts ∧ TriggersKept (triggerNode? asWritten ts) d.triggers
  permissions : PermissionsKept (field? n "permissions") d.permissions
  env : SettingsKept (field? n "env") d.env
  defaults : DefaultsKept (field? n "defaults") d.defaults
  jobs : JobsKept (field? n "jobs") d.jobs

/-! Nodes and what they are read as -/

variable {n : Tree} {w : Value} {n? : Option Tree} {w? : Option Value}

theorem fromNode_of_read {α : Type} {decoded : Value → α → Prop} {R : Tree → α → Prop} {a : α}
    (h : asWritten n = .ok w) (hdecoded : decoded w a) (hR : ¬ n.IsTagged → R n a) : FromNode decoded R n a := by
  by_cases htag : n.IsTagged
  · exact .inl ⟨htag, w, Tree.typed_of_isTagged h htag, hdecoded⟩
  · exact .inr ⟨htag, hR htag⟩

theorem content_of_scalarText? {text : String} (h : asWritten n = .ok w) (htag : ¬ n.IsTagged)
    (htext : w.scalarText? = some text) : Content n text := by
  cases Tree.written_of_asWritten h with
  | tagged htagged => exact absurd htagged htag
  | text _ =>
    cases htext
    exact ⟨_, _, rfl⟩
  | null _ => cases htext
  | list _ _ => cases htext
  | mapping _ _ => cases htext

theorem kept_of_read {text : String} (h : asWritten n = .ok w) (htext : w.scalarText? = some text) : Kept n text :=
  fromNode_of_read h htext fun htag => content_of_scalarText? h htag htext

theorem settingKept_of_read {text : String} (h : asWritten n = .ok w) (htext : IsSetting w text) :
    SettingKept n text := by
  rcases htext with ⟨rfl, rfl⟩ | htext
  · cases Tree.written_of_asWritten h with
    | null hnull => exact .inr ⟨hnull, rfl⟩
  · exact .inl (kept_of_read h htext)

/-- What is equal to a value with a text has a text or is tagged. -/
theorem cases_of_same {k : Value} {text : String} (hsame : k.same w = true) (htext : k.scalarText? = some text) :
    (∃ name u, w = .tagged name u) ∨ w.HasText := by
  cases k <;> cases w <;> simp_all [Value.same, Value.scalarText?, Value.HasText]

theorem keyKept_of_read {k : Value} {text : String} (h : asWritten n = .ok w) (hsame : k = w ∨ k.same w = true)
    (htext : k.scalarText? = some text) : KeyKept n text := by
  refine fromNode_of_read h ⟨k, hsame, htext⟩ fun htag => ?_
  rcases hsame with rfl | hsame
  · exact content_of_scalarText? h htag htext
  · have hcases := cases_of_same hsame htext
    cases Tree.written_of_asWritten h with
    | tagged htagged => exact absurd htagged htag
    | text _ =>
      rw [((Value.isExact_string _).2 k).mp hsame] at htext
      exact content_of_scalarText? h htag htext
    | null _ => simp [Value.HasText] at hcases
    | list _ _ => simp [Value.HasText] at hcases
    | mapping _ _ => simp [Value.HasText] at hcases

theorem mem_of_read {es : List (Value × Value)} (h : asWritten n = .ok (.mapping es)) :
    ∃ tag ts, n = .mapping tag ts ∧ ∀ e ∈ es, ∃ f ∈ ts, asWritten f.2 = .ok e.2 ∧
      ∃ k, asWritten f.1 = .ok k ∧ (e.1 = k ∨ e.1.same k = true) := by
  cases Tree.written_of_asWritten h with
  | mapping _ hentries =>
    refine ⟨_, _, rfl, fun e he => ?_⟩
    rcases Value.mem_put he with hnil | ⟨r, hr, hvalue, hkey⟩
    · cases hnil
    · obtain ⟨f, hf, hread⟩ := exists_mem_of_forall₂ hentries hr
      exact ⟨f, hf, by rw [hread.2, hvalue], r.1, hread.1, hkey⟩

theorem field?_read (h : asWritten n = .ok w) (htag : ¬ n.IsTagged) (name : String) :
    Option.Rel (fun n w => asWritten n = .ok w) (field? n name) (w.field? name) := by
  cases Tree.written_of_asWritten h with
  | tagged htagged => exact absurd htagged htag
  | text _ => exact .none
  | null _ => exact .none
  | list _ _ => exact .none
  | mapping _ hentries => exact Tree.lookup?_read hentries (Value.isExact_string name)

/-! Each part of a document -/

/-- A node and a value that are both there or both missing, the one being the reading of the other. -/
def ReadTogether : Option Tree → Option Value → Prop := Option.Rel fun n w => asWritten n = .ok w

theorem exists_node_of_read (h : ReadTogether n? w?) (hw : w? = some w) : ∃ n, n? = some n ∧ asWritten n = .ok w := by
  cases h with
  | none => cases hw
  | some h =>
    cases hw
    exact ⟨_, rfl, h⟩

theorem textKept_of_read (h : ReadTogether n? w?) : TextKept n? (w?.bind Value.scalarText?) := by
  intro text htext
  obtain ⟨w, hw, htext⟩ := Option.bind_eq_some_iff.mp htext
  obtain ⟨n, hn, hread⟩ := exists_node_of_read h hw
  exact ⟨n, hn, kept_of_read hread htext⟩

theorem text?_kept (h : asWritten n = .ok w) (htag : ¬ n.IsTagged) (name : String) :
    TextKept (field? n name) (text? w name) := textKept_of_read (field?_read h htag name)

theorem mapKept_of_read {α : Type} {R : Tree → α → Prop} {S : Value → α → Prop} {m : Text.Map α}
    (h : ReadTogether n? w?) (hR : ∀ n w a, asWritten n = .ok w → S w a → R n a)
    (hm : ∀ e ∈ m.entries, ∃ es, w? = some (.mapping es) ∧ ∃ f ∈ es, f.1.scalarText? = some e.1 ∧ S f.2 e.2) :
    MapKept R n? m := by
  intro e he
  obtain ⟨es, hw, f, hf, hkey, hvalue⟩ := hm e he
  obtain ⟨n, rfl, hread⟩ := exists_node_of_read h hw
  obtain ⟨tag, ts, rfl, hmem⟩ := mem_of_read hread
  obtain ⟨g, hg, hgvalue, k, hgkey, hsame⟩ := hmem f hf
  exact ⟨tag, ts, rfl, g, hg, keyKept_of_read hgkey hsame hkey, hR _ _ _ hgvalue hvalue⟩

theorem settings_kept {path : String} {m : Settings} (h : ReadTogether n? w?) (hm : settings w? path = .ok m) :
    SettingsKept n? m :=
  mapKept_of_read h (fun _ _ _ => settingKept_of_read) (mem_of_settings hm)

theorem defaults_kept {path : String} {m : Defaults} (h : ReadTogether n? w?) (hm : defaults w? path = .ok m) :
    DefaultsKept n? m := by
  refine mapKept_of_read (S := fun w s => ∃ path, settings (some w) path = .ok s) h ?_ (mem_of_defaults hm)
  rintro n w s hread ⟨path, hs⟩
  exact settings_kept (.some hread) hs

theorem permissions_kept {m : Settings} (h : ReadTogether n? w?) (hm : permissions w? = .ok m) :
    PermissionsKept n? m := by
  unfold permissions at hm
  split at hm
  · next level =>
    cases hm
    obtain ⟨n, hn, hread⟩ := exists_node_of_read h rfl
    cases Tree.written_of_asWritten hread with
    | text _ => exact .inr ⟨_, level, hn, ⟨_, _, rfl⟩, rfl⟩
  · exact .inl (settings_kept h hm)

theorem step_kept {path : String} {s : Step} (h : asWritten n = .ok w) (hs : Step.ofValue w path = .ok s) :
    FromNode (fun v s => ∃ path, Step.ofValue v path = .ok s) StepKept n s := by
  refine fromNode_of_read h ⟨path, hs⟩ fun htag => ?_
  obtain ⟨-, hid, hname, hcondition, hshell, hrun, huses, henv, hinputs⟩ := Step.of_ofValue hs
  have hfield := field?_read h htag
  have htext := text?_kept h htag
  exact {
    id := hid ▸ htext "id"
    name := hname ▸ htext "name"
    condition := hcondition ▸ htext "if"
    shell := hshell ▸ htext "shell"
    run := hrun ▸ htext "run"
    uses := huses ▸ htext "uses"
    env := settings_kept (hfield "env") henv
    inputs := settings_kept (hfield "with") hinputs }

theorem labels_kept {items : List Tree} {ws : List Value} (h : List.Forall₂ (fun n w => asWritten n = .ok w) items ws) :
    ∀ l ∈ ws.filterMap Value.scalarText?, ∃ i ∈ items, Kept i l := by
  intro l hl
  obtain ⟨w, hw, htext⟩ := List.mem_filterMap.mp hl
  obtain ⟨i, hi, hread⟩ := exists_mem_of_forall₂ h hw
  exact ⟨i, hi, kept_of_read hread htext⟩

theorem runsOn_kept (h : ReadTogether n? w?) : RunnerKept n? (Job.runsOn? w?) := by
  intro text htext
  cases h with
  | none => cases htext
  | some hread =>
    refine ⟨_, rfl, ?_⟩
    cases Tree.written_of_asWritten hread with
    | list _ hitems =>
      cases htext
      exact .inr ⟨_, _, _, rfl, labels_kept hitems, rfl⟩
    | tagged _ => exact .inl (kept_of_read hread htext)
    | null _ => exact .inl (kept_of_read hread htext)
    | text _ => exact .inl (kept_of_read hread htext)
    | mapping _ _ => exact .inl (kept_of_read hread htext)

theorem job_kept {id : String} {j : Job} (h : asWritten n = .ok w) (hj : Job.ofValue id w = .ok j) :
    FromNode (fun v j => Job.ofValue j.id v = .ok j) JobKept n j := by
  obtain ⟨-, rfl, huses, hname, hrunsOn, hstrategy, hsteps, hdefaults⟩ := Job.of_ofValue hj
  refine fromNode_of_read h hj fun htag => ?_
  have hfield := field?_read h htag
  exact {
    uses := huses ▸ text?_kept h htag "uses"
    name := hname ▸ text?_kept h htag "name"
    runsOn := hrunsOn ▸ runsOn_kept (hfield "runs-on")
    defaults := defaults_kept (hfield "defaults") hdefaults
    strategy := by
      intro v hv
      rw [hstrategy] at hv
      exact exists_node_of_read (hfield "strategy") (Option.filter_eq_some_iff.mp hv).1
    steps := by
      rcases Job.steps?_cases hsteps with ⟨-, hnil⟩ | ⟨items, hitems, hall⟩
      · exact .inl hnil
      · obtain ⟨m, hm, hread⟩ := exists_node_of_read (hfield "steps") hitems
        cases Tree.written_of_asWritten hread with
        | list _ hread =>
          refine .inr ⟨_, _, hm, (forall₂_comp hread hall).imp ?_⟩
          rintro item s ⟨v, hitem, path, hs⟩
          exact step_kept hitem hs }

theorem jobs_kept {js : List Job} (h : ReadTogether n? w?) (hjs : jobs w? = .ok js) : JobsKept n? js := by
  intro j hj
  rcases jobs_cases hjs with ⟨-, rfl⟩ | ⟨es, hes, hall⟩
  · cases hj
  · obtain ⟨n, rfl, hread⟩ := exists_node_of_read h hes
    obtain ⟨tag, ts, rfl, hmem⟩ := mem_of_read hread
    obtain ⟨e, he, hmade⟩ := exists_mem_of_forall₂ hall hj
    obtain ⟨id, hid, hbody⟩ := jobOfEntry_eq_ok_iff.mp hmade
    obtain ⟨f, hf, hvalue, k, hkey, hsame⟩ := hmem e he
    have hjid : j.id = id := (Job.of_ofValue hbody).2.1
    exact ⟨tag, ts, rfl, f, hf, hjid ▸ keyKept_of_read hkey hsame hid, job_kept hvalue hbody⟩

/-! Triggers -/

theorem content_of_eventName? {name : String} (h : asWritten n = .ok w) (hname : eventName? w = some name) :
    Content n name := by
  cases Tree.written_of_asWritten h with
  | text _ =>
    cases hname
    exact ⟨_, _, rfl⟩
  | _ => cases hname

/-- A key that names an event is not tagged, nor is one that it stands for. -/
theorem content_of_eventKey {k : Value} {name : String} (h : asWritten n = .ok w) (hsame : k = w ∨ k.same w = true)
    (hname : eventName? k = some name) : Content n name := by
  rcases hsame with rfl | hsame
  · exact content_of_eventName? h hname
  · have htext : w.HasText := by cases k <;> cases w <;> simp_all [Value.same, Value.HasText, eventName?]
    cases Tree.written_of_asWritten h with
    | text _ =>
      rw [((Value.isExact_string _).2 k).mp hsame] at hname
      exact content_of_eventName? h hname
    | _ => cases htext

theorem crons_kept {crons : List String} (h : asWritten n = .ok w) (hcrons : cronExpressions w = .ok crons) :
    CronsKept n crons := by
  obtain ⟨items, rfl, hall⟩ := cronExpressions_eq_ok hcrons
  cases Tree.written_of_asWritten h with
  | list _ hitems =>
    refine ⟨_, _, rfl, fun text htext => ?_⟩
    obtain ⟨w, hw, hcron⟩ := hall text htext
    obtain ⟨item, hitem, hread⟩ := exists_mem_of_forall₂ hitems hw
    exact ⟨item, hitem, fromNode_of_read hread hcron fun htag => hcron ▸ text?_kept hread htag cronFilter⟩

theorem values_kept {field : String} {values : List String} (h : asWritten n = .ok w)
    (hvalues : filterValues? field w = .ok (some values)) : ValuesKept n values := by
  cases Tree.written_of_asWritten h with
  | list _ hitems =>
    obtain ⟨texts, htexts, hsome⟩ := Yaml.bind_eq_ok_iff.mp hvalues
    cases hsome
    refine .inl ⟨_, _, rfl, (forall₂_comp hitems (mapM_eq_ok_iff.mp htexts)).imp ?_⟩
    rintro item text ⟨w, hread, hok⟩
    split at hok
    · next s hs =>
      cases hok
      exact kept_of_read hread hs
    · cases hok
  | text _ =>
    cases hvalues
    exact .inr ⟨_, ⟨_, _, rfl⟩, rfl⟩
  | _ => cases hvalues

theorem filters_kept {t : Trigger} (h : asWritten n = .ok w) (hfilters : eventFilters t.eventId w = .ok t.filters) :
    FiltersKept n t := by
  intro e he
  rcases mem_of_eventFilters hfilters e he with ⟨hschedule, hcron, hcrons⟩ | ⟨es, rfl, f, hf, hname, field, hvalues⟩
  · exact .inl ⟨hschedule, hcron, crons_kept h hcrons⟩
  · obtain ⟨tag, ts, rfl, hmem⟩ := mem_of_read h
    obtain ⟨g, hg, hgvalue, k, hgkey, hsame⟩ := hmem f hf
    exact .inr ⟨tag, ts, rfl, g, hg, keyKept_of_read hgkey hsame hname, values_kept hgvalue hvalues⟩

theorem triggers_kept {ts : List Trigger} (h : ReadTogether n? w?) (hts : triggers w? = .ok ts) :
    TriggersKept n? ts := by
  rcases triggers_cases hts with
    ⟨-, hnil⟩ | ⟨items, hw, hall⟩ | ⟨es, hw, hall⟩ | ⟨w, name, hw, hname, rfl⟩
  · exact .inl hnil
  · obtain ⟨n, hn, hread⟩ := exists_node_of_read h hw
    cases Tree.written_of_asWritten hread with
    | list _ hitems =>
      refine .inr ⟨_, hn, .inr (.inl ⟨_, _, rfl, (forall₂_comp hitems hall).imp ?_⟩)⟩
      rintro item t ⟨w, hitem, ht⟩
      obtain ⟨name, hname, rfl⟩ := triggerInList_eq_ok_iff.mp ht
      exact ⟨name, content_of_eventName? hitem hname, rfl⟩
  · obtain ⟨n, hn, hread⟩ := exists_node_of_read h hw
    obtain ⟨tag, nodes, rfl, hmem⟩ := mem_of_read hread
    refine .inr ⟨_, hn, .inr (.inr ⟨tag, nodes, rfl, fun t ht => ?_⟩)⟩
    obtain ⟨e, he, hmade⟩ := exists_mem_of_forall₂ hall ht
    obtain ⟨name, filters, hname, hfilters, rfl⟩ := triggerOfEntry_eq_ok_iff.mp hmade
    obtain ⟨f, hf, hvalue, k, hkey, hsame⟩ := hmem e he
    exact ⟨f, hf, content_of_eventKey hkey hsame hname, filters_kept hvalue hfilters⟩
  · obtain ⟨n, hn, hread⟩ := exists_node_of_read h hw
    exact .inr ⟨n, hn, .inl ⟨name, content_of_eventName? hread hname, rfl⟩⟩

/-! Documents -/

/-- Every string of a document that is read from a text is the content of the scalar it stems from, as it is written,
unless that scalar is a null, carries a tag of the application or lies below one. -/
theorem Document.ofText_kept {text : String} {d : Document} (h : ofText text = .ok d) :
    ∃ t, Yaml.tree? text = .ok (some t) ∧ FromNode (fun v d => ofValue v = .ok d) DocumentKept t d := by
  obtain ⟨tag, ts, -, rs, ht, -, hread, hentries, hd⟩ := exists_root h
  refine ⟨.mapping tag ts, ht, fromNode_of_read hread hd fun htag => ?_⟩
  obtain ⟨-, hname, hrunName, hjobs, htriggers, hpermissions, henv, hdefaults⟩ := of_ofValue hd
  have hfield := field?_read hread htag
  have hcustom : ¬ Tree.IsCustom tag := htag
  rw [Tree.readBelow_of_not_isCustom hcustom] at hentries
  exact {
    name := hname ▸ text?_kept hread htag "name"
    runName := hrunName ▸ text?_kept hread htag "run-name"
    triggers := ⟨tag, ts, rfl, triggers_kept (triggerNode?_read hentries tag) htriggers⟩
    permissions := permissions_kept (hfield "permissions") hpermissions
    env := settings_kept (hfield "env") henv
    defaults := defaults_kept (hfield "defaults") hdefaults
    jobs := jobs_kept (hfield "jobs") hjobs }

/-- A version stays as it is written. -/
theorem Document.ofText_kept_version :
    ∃ d t, ofText "env:\n  V: 3.10\n" = .ok d ∧ d.env.get? "V" = some "3.10" ∧
      Yaml.tree? "env:\n  V: 3.10\n" = .ok (some t) ∧ FromNode (fun v d => ofValue v = .ok d) DocumentKept t d := by
  have hmap : (ofText "env:\n  V: 3.10\n").toOption.map (·.env.get? "V") = some (some "3.10") := by decide +kernel
  obtain ⟨d, hd, hversion⟩ := exists_ok_of_map hmap
  obtain ⟨t, ht, hkept⟩ := ofText_kept hd
  exact ⟨d, t, hd, hversion, ht, hkept⟩

/-- A null in a map of texts and a number below a tag of the application are not as they are written. -/
theorem Document.ofText_changes_null_and_tagged :
    ∃ d, ofText "env:\n  A: ~\njobs:\n  b: !j\n    name: 3.10\n" = .ok d ∧ d.env.get? "A" = some "" ∧
      d.jobs.map (·.name) = [some "3.1"] := by
  have hmap : (ofText "env:\n  A: ~\njobs:\n  b: !j\n    name: 3.10\n").toOption.map
      (fun d => (d.env.get? "A", d.jobs.map (·.name))) = some (some "", [some "3.1"]) := by decide +kernel
  obtain ⟨d, hd, hfields⟩ := exists_ok_of_map hmap
  exact ⟨d, hd, Prod.mk.inj hfields⟩

end RepoConventions.Workflow
