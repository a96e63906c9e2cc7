import RepoConventions.Proofs.Yaml.Correspondence
import RepoConventions.Proofs.Yaml.Origin

/-!
# Two readings of one node

The typed reading of a node without tags and its reading as written differ in booleans and numbers only, which the one
has as values and the other as texts. Words that spell neither are the same in both.
-/

namespace RepoConventions.Yaml

namespace Resolution

/-- The booleans and numbers that a text spells. -/
inductive Spells (s : String) : Value → Prop
  | bool {b : Bool} (h : bool? s = some b) : Spells s (.bool b)
  | int {n : Int} (h : integer? s.toList = some n) : Spells s (.number (.int n))
  | float {x : Decimal.Binary64} (h : float? s = some x) : Spells s (.number (.float x))

/-- A text that spells no boolean and no number. -/
def IsWord (s : String) : Prop := bool? s = none ∧ integer? s.toList = none ∧ float? s = none

instance (s : String) : Decidable (IsWord s) := inferInstanceAs (Decidable (_ ∧ _ ∧ _))

theorem Spells.not_isWord {s : String} {v : Value} (h : Spells s v) : ¬ IsWord s := by
  rintro ⟨hbool, hint, hfloat⟩
  cases h with
  | bool h => cases hbool.symm.trans h
  | int h => cases hint.symm.trans h
  | float h => cases hfloat.symm.trans h

theorem spells_integer {s : String} {v : Value} (h : (integer? s.toList).bind integerValue? = some (.ok v)) :
    Spells s v := by
  obtain ⟨n, hn, hvalue⟩ := Option.bind_eq_some_iff.mp h
  unfold integerValue? at hvalue
  split at hvalue
  · cases hvalue
    exact .int hn
  · split at hvalue <;> cases hvalue

theorem untagged_text_cases {isPlain : Bool} {s : String} {v : Value} (h : untagged isPlain s = .ok v)
    (hv : v.HasText) : v = .string s ∨ Spells s v := by
  cases isPlain with
  | false =>
    cases h
    exact .inl rfl
  | true =>
    simp only [untagged, if_true, plain] at h
    split at h
    · cases h
      cases hv
    · split at h
      · next b hb =>
        cases h
        exact .inr (.bool hb)
      · split at h
        · next r hr =>
          subst h
          exact .inr (spells_integer hr)
        · split at h
          · next x hx =>
            cases h
            split at hx
            · cases hx
            · exact .inr (.float hx)
          · cases h
            exact .inl rfl

theorem scalar_text_cases {tag : Option Tag} {isPlain : Bool} {s : String} {v : Value}
    (h : scalar tag isPlain s = .ok v) (hv : v.HasText) : v = .string s ∨ Spells s v := by
  cases tag with
  | none => exact untagged_text_cases h hv
  | some tag =>
    cases tag with
    | custom name =>
      obtain ⟨u, -, rfl⟩ := scalar_custom h
      cases hv
    | null =>
      simp only [scalar] at h
      split at h <;> cases h
      cases hv
    | bool =>
      simp only [scalar] at h
      cases hb : bool? s <;> rw [hb] at h <;> cases h
      exact .inr (.bool hb)
    | int =>
      simp only [scalar] at h
      cases hn : (integer? s.toList).bind integerValue? <;> rw [hn] at h
      · cases h
      · rw [Option.getD_some] at h
        subst h
        exact .inr (spells_integer hn)
    | float =>
      simp only [scalar] at h
      cases hx : float? s <;> rw [hx] at h <;> cases h
      exact .inr (.float hx)
    | other =>
      cases h
      exact .inl rfl

end Resolution

namespace Tree

mutual
/-- No node has a tag of the application. -/
def Untagged : Tree → Prop
  | .scalar tag _ _ => ¬ IsCustom tag
  | .sequence tag items => ¬ IsCustom tag ∧ ItemsUntagged items
  | .mapping tag entries => ¬ IsCustom tag ∧ EntriesUntagged entries

def ItemsUntagged : List Tree → Prop
  | [] => True
  | t :: rest => Untagged t ∧ ItemsUntagged rest

def EntriesUntagged : List (Tree × Tree) → Prop
  | [] => True
  | (k, t) :: rest => Untagged k ∧ Untagged t ∧ EntriesUntagged rest
end

end Tree

open RepoConventions.Yaml.Tree (Untagged KeysApart EntriesUntagged EntriesApart ItemsUntagged ItemsApart EntriesRead
  typed asWritten)

/-- The typed value of a node and its value as written, where no node is tagged and no keys are written alike. -/
def Twin (v w : Value) : Prop := ∃ t, Untagged t ∧ KeysApart t ∧ typed t = .ok v ∧ asWritten t = .ok w

def TwinEntry (e f : Value × Value) : Prop := Twin e.1 f.1 ∧ Twin e.2 f.2

/-- What twins are, by their kind. -/
inductive Twin.Shape : Value → Value → Prop
  | null : Shape .null .null
  | text {s : String} : Shape (.string s) (.string s)
  | spelled {s : String} {v : Value} (h : Resolution.Spells s v) : Shape v (.string s)
  | list {vs ws : List Value} (hitems : List.Forall₂ Twin vs ws) : Shape (.list vs) (.list ws)
  | mapping {es fs : List (Value × Value)} (hentries : List.Forall₂ TwinEntry es fs)
    (hapart : fs.Pairwise fun e f => e.1.same f.1 = false) : Shape (.mapping es) (.mapping fs)

theorem twin_items {ts : List Tree} {vs ws : List Value} (huntagged : ItemsUntagged ts) (hapart : ItemsApart ts)
    (hvs : List.Forall₂ (fun t v => typed t = .ok v) ts vs) (hws : List.Forall₂ (fun t w => asWritten t = .ok w) ts ws) :
    List.Forall₂ Twin vs ws := by
  induction hvs generalizing ws with
  | nil =>
    cases hws
    exact .nil
  | cons hv _ ih =>
    cases hws with
    | cons hw hws =>
      exact .cons ⟨_, huntagged.1, hapart.1, hv, hw⟩ (ih huntagged.2 hapart.2 hws)

theorem twin_entries {ts : List (Tree × Tree)} {es fs : List (Value × Value)} (huntagged : EntriesUntagged ts)
    (hapart : EntriesApart ts) (hes : EntriesRead typed ts es) (hfs : EntriesRead asWritten ts fs) :
    List.Forall₂ TwinEntry es fs := by
  induction hes generalizing fs with
  | nil =>
    cases hfs
    exact .nil
  | cons he _ ih =>
    cases hfs with
    | cons hf hfs =>
      refine .cons ⟨⟨_, huntagged.1, hapart.1, he.1, hf.1⟩, ⟨_, huntagged.2.1, hapart.2.1, he.2, hf.2⟩⟩ ?_
      exact ih huntagged.2.2 hapart.2.2 hfs

def HasTwins (t : Tree) : Prop := ∃ v w, typed t = .ok v ∧ asWritten t = .ok w ∧ Twin v w

/-- What two readings find at one node are twins. -/
theorem rel_of_hasTwins {t? : Option Tree} {v? w? : Option Value}
    (hv : Option.Rel (fun t v => typed t = .ok v) t? v?) (hw : Option.Rel (fun t w => asWritten t = .ok w) t? w?)
    (h : ∀ t, t? = some t → HasTwins t) : Option.Rel Twin v? w? := by
  cases hv with
  | none =>
    cases hw
    exact .none
  | some hv =>
    cases hw with
    | some hw =>
      obtain ⟨v, w, hv', hw', htwin⟩ := h _ rfl
      cases hv'.symm.trans hv
      cases hw'.symm.trans hw
      exact .some htwin

theorem hasTwins_of_mem {ts : List (Tree × Tree)} {es fs : List (Value × Value)} (huntagged : EntriesUntagged ts)
    (hapart : EntriesApart ts) (hes : EntriesRead typed ts es) (hfs : EntriesRead asWritten ts fs) :
    ∀ e ∈ ts, HasTwins e.1 ∧ HasTwins e.2 := by
  induction hes generalizing fs with
  | nil => exact fun e he => absurd he List.not_mem_nil
  | cons he _ ih =>
    cases hfs with
    | cons hf hfs =>
      intro g hg
      rcases List.mem_cons.mp hg with rfl | hmem
      · exact ⟨⟨_, _, he.1, hf.1, _, huntagged.1, hapart.1, he.1, hf.1⟩,
          ⟨_, _, he.2, hf.2, _, huntagged.2.1, hapart.2.1, he.2, hf.2⟩⟩
      · exact ih huntagged.2.2 hapart.2.2 hfs g hmem

theorem entriesRead_of_mapping {tag : Option Tag} {ts : List (Tree × Tree)} {v w : Value}
    (huntagged : Untagged (.mapping tag ts)) (hapart : KeysApart (.mapping tag ts))
    (hv : typed (.mapping tag ts) = .ok v) (hw : asWritten (.mapping tag ts) = .ok w) :
    ∃ es fs, v = .mapping es ∧ w = .mapping fs ∧ EntriesRead typed ts es ∧ EntriesRead asWritten ts fs ∧
      es.Pairwise (fun e f => e.1.same f.1 = false) ∧ fs.Pairwise (fun e f => e.1.same f.1 = false) := by
  obtain ⟨hkeys, -⟩ := hapart.resolve_left huntagged.1
  obtain ⟨es, hes, rfl⟩ := Tree.typed_mapping_iff.mp hv
  obtain ⟨rs, htyped, hnew, -, hrs⟩ := Tree.put_typedEntries hes
  obtain ⟨fs, hfs, rfl⟩ := (Tree.asWritten_mapping_iff huntagged.1).mp hw
  obtain ⟨rs', hrs', hwritten⟩ := Tree.entriesRead_of_apart hfs (Tree.apart_nil_iff.mpr hkeys)
  rw [List.nil_append] at hrs hrs'
  refine ⟨rs, rs', ?_, by rw [hrs'], htyped, hwritten, hnew, (Tree.keysReadApart_iff hwritten).mp (hkeys.imp ?_)⟩
  · rw [Tree.withTag_of_not_isCustom huntagged.1, hrs]
  · intro e f hnot a b ha hb
    exact Bool.eq_false_iff.mpr fun hsame => hnot ⟨a, b, ha, hb, hsame⟩

theorem Twin.shape {v w : Value} (h : Twin v w) : Twin.Shape v w := by
  obtain ⟨t, huntagged, hapart, hv, hw⟩ := h
  cases t with
  | scalar tag text plain =>
    rcases Resolution.scalar_cases hv with rfl | ⟨name, u, rfl⟩ | htext
    · rw [Tree.asWritten_null hv] at hw
      cases hw
      exact .null
    · exact absurd ⟨name, (Resolution.scalar_eq_tagged hv).1⟩ huntagged
    · rw [Tree.asWritten_scalar hv htext] at hw
      cases hw
      rcases Resolution.scalar_text_cases hv htext with rfl | hspells
      · exact .text
      · exact .spelled hspells
  | sequence tag ts =>
    obtain ⟨vs, hvs, rfl⟩ := Tree.typed_sequence_iff.mp hv
    obtain ⟨ws, hws, rfl⟩ := (Tree.asWritten_sequence_iff huntagged.1).mp hw
    rw [Tree.withTag_of_not_isCustom huntagged.1]
    exact .list (twin_items huntagged.2 (hapart.resolve_left huntagged.1) (Tree.forall₂_typedItems hvs)
      (Tree.forall₂_asWrittenItems hws))
  | mapping tag ts =>
    obtain ⟨es, fs, rfl, rfl, hes, hfs, -, hnew⟩ := entriesRead_of_mapping huntagged hapart hv hw
    exact .mapping (twin_entries huntagged.2 (hapart.resolve_left huntagged.1).2 hes hfs) hnew

/-- A word is equal to both of two twins or to neither. -/
theorem Twin.same_word {v w : Value} (h : Twin v w) {name : String} (hname : Resolution.IsWord name) :
    Value.same (.string name) v = Value.same (.string name) w := by
  cases h.shape with
  | null => rfl
  | text => rfl
  | list _ => rfl
  | mapping _ _ => rfl
  | @spelled s _ hspells =>
    have hne : name ≠ s := by
      rintro rfl
      exact hspells.not_isWord hname
    have hv : Value.same (.string name) v = false := by cases hspells <;> rfl
    rw [hv]
    simp [Value.same, hne]

theorem lookup?_twin {es fs : List (Value × Value)} (h : List.Forall₂ TwinEntry es fs) {name : String}
    (hname : Resolution.IsWord name) :
    Option.Rel Twin (Value.lookup? es (.string name)) (Value.lookup? fs (.string name)) := by
  induction h with
  | nil => exact .none
  | cons hentry _ ih =>
    rw [Value.lookup?_cons, Value.lookup?_cons, hentry.1.same_word hname]
    split
    · exact .some hentry.2
    · exact ih

theorem Twin.field? {v w : Value} (h : Twin v w) {name : String} (hname : Resolution.IsWord name) :
    Option.Rel Twin (v.field? name) (w.field? name) := by
  cases h.shape with
  | null => exact .none
  | list _ => exact .none
  | text => exact .none
  | spelled hspells => cases hspells <;> exact .none
  | mapping hentries _ => exact lookup?_twin hentries hname

end RepoConventions.Yaml
