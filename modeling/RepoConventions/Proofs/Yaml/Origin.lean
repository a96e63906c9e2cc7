import RepoConventions.Proofs.Yaml.Lookup

/-!
# What node a value comes from

The kind of a value, typed or as written, tells what node it was read from.
-/

namespace RepoConventions.Yaml

theorem Value.HasText.cases {v : Value} (h : v.HasText) :
    (∃ b, v = .bool b) ∨ (∃ n, v = .number n) ∨ ∃ s, v = .string s := by
  cases v with
  | bool b => exact .inl ⟨b, rfl⟩
  | number n => exact .inr (.inl ⟨n, rfl⟩)
  | string s => exact .inr (.inr ⟨s, rfl⟩)
  | _ => cases h

theorem Value.entries?_of_hasText {v : Value} (h : v.HasText) : v.entries? = none := by
  rcases h.cases with ⟨b, rfl⟩ | ⟨n, rfl⟩ | ⟨s, rfl⟩ <;> rfl

namespace Resolution

theorem scalar_custom {name : String} {isPlain : Bool} {s : String} {v : Value}
    (h : scalar (some (.custom name)) isPlain s = .ok v) : ∃ u, untagged isPlain s = .ok u ∧ v = .tagged name u := by
  simp only [scalar, Except.map] at h
  split at h
  · cases h
  · next u hu =>
    cases h
    exact ⟨u, hu, rfl⟩

theorem scalar_eq_tagged {tag : Option Tag} {isPlain : Bool} {s name : String} {u : Value}
    (h : scalar tag isPlain s = .ok (.tagged name u)) : tag = some (.custom name) ∧ untagged isPlain s = .ok u := by
  cases tag with
  | none =>
    rcases untagged_cases h with hnull | htext
    · cases hnull
    · cases htext
  | some tag =>
    cases tag with
    | custom name' =>
      obtain ⟨u, hu, hv⟩ := scalar_custom h
      cases hv
      exact ⟨rfl, hu⟩
    | null =>
      simp only [scalar] at h
      split at h <;> cases h
    | bool =>
      simp only [scalar] at h
      cases hb : bool? s <;> rw [hb] at h <;> cases h
    | int =>
      simp only [scalar] at h
      cases hn : (integer? s.toList).bind integerValue? with
      | none =>
        rw [hn] at h
        cases h
      | some r =>
        rw [hn, Option.getD_some] at h
        subst h
        cases integer_bind_hasText hn
    | float =>
      simp only [scalar] at h
      cases hx : float? s <;> rw [hx] at h <;> cases h
    | other => cases h

theorem scalar_no_collection {tag : Option Tag} {isPlain : Bool} {s : String} {v : Value}
    (h : scalar tag isPlain s = .ok v) : v.entries? = none ∧ ∀ items, v ≠ .list items := by
  rcases scalar_cases h with rfl | ⟨name, u, rfl⟩ | hv
  · exact ⟨rfl, nofun⟩
  · refine ⟨?_, nofun⟩
    rcases untagged_cases (scalar_eq_tagged h).2 with rfl | hu
    · rfl
    · exact Value.entries?_of_hasText (v := u) hu
  · refine ⟨Value.entries?_of_hasText hv, ?_⟩
    rintro items rfl
    exact hv

end Resolution

namespace Tree

def tag : Tree → Option Tag
  | .scalar tag _ _ => tag
  | .sequence tag _ => tag
  | .mapping tag _ => tag

def IsTagged (t : Tree) : Prop := IsCustom t.tag

theorem not_isCustom_of_hasText {tag : Option Tag} {plain : Bool} {text : String} {v : Value}
    (h : Resolution.scalar tag plain text = .ok v) (hv : v.HasText) : ¬ IsCustom tag := by
  rintro ⟨name, rfl⟩
  obtain ⟨u, -, rfl⟩ := Resolution.scalar_custom h
  cases hv

/-- What a node is read as, by the kind of node. -/
inductive Written : Tree → Value → Prop
  | tagged {t : Tree} {name : String} {u : Value} (htag : t.IsTagged) : Written t (.tagged name u)
  | null {tag : Option Tag} {text : String} {plain : Bool} (h : Resolution.scalar tag plain text = .ok .null) :
    Written (.scalar tag text plain) .null
  | text {tag : Option Tag} {text : String} {plain : Bool} (htag : ¬ IsCustom tag) :
    Written (.scalar tag text plain) (.string text)
  | list {tag : Option Tag} {ts : List Tree} {ws : List Value} (htag : ¬ IsCustom tag)
    (hitems : List.Forall₂ (fun t w => asWritten t = .ok w) ts ws) : Written (.sequence tag ts) (.list ws)
  | mapping {tag : Option Tag} {ts : List (Tree × Tree)} {rs : List (Value × Value)} (htag : ¬ IsCustom tag)
    (hentries : EntriesRead asWritten ts rs) : Written (.mapping tag ts) (.mapping (Value.put [] rs))

theorem forall₂_asWrittenItems {ts : List Tree} {ws : List Value} (h : asWrittenItems ts = .ok ws) :
    List.Forall₂ (fun t w => asWritten t = .ok w) ts ws := by
  induction ts generalizing ws with
  | nil =>
    rw [asWrittenItems, pure_eq_ok_iff] at h
    rw [h]
    exact .nil
  | cons t rest ih =>
    obtain ⟨w, ws', hw, hws', rfl⟩ := asWrittenItems_cons_iff.mp h
    exact .cons hw (ih hws')

theorem forall₂_typedItems {ts : List Tree} {vs : List Value} (h : typedItems ts = .ok vs) :
    List.Forall₂ (fun t v => typed t = .ok v) ts vs := by
  induction ts generalizing vs with
  | nil =>
    rw [typedItems, pure_eq_ok_iff] at h
    rw [h]
    exact .nil
  | cons t rest ih =>
    obtain ⟨v, vs', hv, hvs', rfl⟩ := typedItems_cons_iff.mp h
    exact .cons hv (ih hvs')

theorem asWritten_scalar_cases {tag : Option Tag} {text : String} {plain : Bool} {w : Value}
    (h : asWritten (.scalar tag text plain) = .ok w) :
    w = .null ∧ Resolution.scalar tag plain text = .ok .null ∨
      (∃ name u, w = .tagged name u ∧ tag = some (.custom name) ∧ Resolution.untagged plain text = .ok u) ∨
      w = .string text ∧ ¬ IsCustom tag := by
  have hread := h
  rw [asWritten] at hread
  obtain ⟨v, hv, -⟩ := bind_eq_ok_iff.mp hread
  rcases Resolution.scalar_cases hv with rfl | ⟨name, u, rfl⟩ | htext
  · rw [asWritten_null hv] at h
    cases h
    exact .inl ⟨rfl, hv⟩
  · rw [asWritten_of_tagged (t := .scalar tag text plain) hv] at h
    cases h
    exact .inr (.inl ⟨name, u, rfl, Resolution.scalar_eq_tagged hv⟩)
  · rw [asWritten_scalar hv htext] at h
    cases h
    exact .inr (.inr ⟨rfl, not_isCustom_of_hasText hv htext⟩)

/-- A node with a tag of the application is read typed. -/
theorem typed_of_isTagged {t : Tree} {w : Value} (h : asWritten t = .ok w) (htag : t.IsTagged) : typed t = .ok w := by
  obtain ⟨name, hname⟩ := htag
  cases t with
  | scalar tag text plain =>
    obtain rfl : tag = some (.custom name) := hname
    rcases asWritten_scalar_cases h with ⟨-, hnull⟩ | ⟨name', u, rfl, htag, hu⟩ | ⟨-, htag⟩
    · obtain ⟨u, -, hu⟩ := Resolution.scalar_custom hnull
      cases hu
    · cases htag
      rw [typed, Resolution.scalar, hu]
      rfl
    · exact absurd ⟨name, rfl⟩ htag
  | sequence tag ts =>
    obtain rfl : tag = some (.custom name) := hname
    exact h
  | mapping tag ts =>
    obtain rfl : tag = some (.custom name) := hname
    exact h

theorem written_of_asWritten {t : Tree} {w : Value} (h : asWritten t = .ok w) : Written t w := by
  cases t with
  | scalar tag text plain =>
    rcases asWritten_scalar_cases h with ⟨rfl, hnull⟩ | ⟨name, u, rfl, htag, -⟩ | ⟨rfl, htag⟩
    · exact .null hnull
    · exact .tagged ⟨name, htag⟩
    · exact .text htag
  | sequence tag ts =>
    by_cases htag : IsCustom tag
    · obtain ⟨name, rfl⟩ := htag
      obtain ⟨vs, -, rfl⟩ := typed_sequence_iff.mp h
      exact .tagged ⟨name, rfl⟩
    · obtain ⟨ws, hws, rfl⟩ := (asWritten_sequence_iff htag).mp h
      exact .list htag (forall₂_asWrittenItems hws)
  | mapping tag ts =>
    by_cases htag : IsCustom tag
    · obtain ⟨name, rfl⟩ := htag
      obtain ⟨es, -, rfl⟩ := typed_mapping_iff.mp h
      exact .tagged ⟨name, rfl⟩
    · obtain ⟨rs, hrs, rfl⟩ := asWritten_mapping_put h
      rw [readBelow_of_not_isCustom htag] at hrs
      rw [withTag_of_not_isCustom htag]
      exact .mapping htag hrs

theorem exists_mapping {t : Tree} {w : Value} (h : asWritten t = .ok w) (hmapping : w.isMapping) :
    ∃ tag ts, t = .mapping tag ts := by
  cases t with
  | mapping tag ts => exact ⟨tag, ts, rfl⟩
  | sequence tag ts =>
    by_cases htag : IsCustom tag
    · obtain ⟨name, rfl⟩ := htag
      obtain ⟨vs, -, rfl⟩ := typed_sequence_iff.mp h
      cases hmapping
    · obtain ⟨ws, -, rfl⟩ := (asWritten_sequence_iff htag).mp h
      cases hmapping
  | scalar tag text plain =>
    rcases asWritten_scalar_cases h with ⟨rfl, -⟩ | ⟨name, u, rfl, -, hu⟩ | ⟨rfl, -⟩
    · cases hmapping
    · have hscalar : Resolution.scalar none plain text = .ok u := hu
      rw [Value.isMapping, Value.entries?, (Resolution.scalar_no_collection hscalar).1] at hmapping
      cases hmapping
    · cases hmapping

/-- What a node is read as typed, by the kind of node. -/
inductive Typed : Tree → Value → Prop
  | scalar {tag : Option Tag} {text : String} {plain : Bool} {v : Value}
    (h : Resolution.scalar tag plain text = .ok v) : Typed (.scalar tag text plain) v
  | sequence {tag : Option Tag} {ts : List Tree} {vs : List Value}
    (hitems : List.Forall₂ (fun t v => typed t = .ok v) ts vs) : Typed (.sequence tag ts) (withTag tag (.list vs))
  | mapping {tag : Option Tag} {ts : List (Tree × Tree)} {es : List (Value × Value)}
    (hentries : EntriesRead typed ts es) : Typed (.mapping tag ts) (withTag tag (.mapping es))

theorem typed_of_typed {t : Tree} {v : Value} (h : typed t = .ok v) : Typed t v := by
  cases t with
  | scalar tag text plain => exact .scalar h
  | sequence tag ts =>
    obtain ⟨vs, hvs, rfl⟩ := typed_sequence_iff.mp h
    exact .sequence (forall₂_typedItems hvs)
  | mapping tag ts =>
    obtain ⟨es, hes, rfl⟩ := typed_mapping_iff.mp h
    obtain ⟨new, rfl, hnew⟩ := entriesRead_typed hes
    exact .mapping hnew

@[simp] theorem entries?_withTag (tag : Option Tag) (v : Value) : (withTag tag v).entries? = v.entries? := by
  unfold withTag
  split <;> rfl

theorem eq_of_withTag {tag : Option Tag} {v w : Value} (h : w = withTag tag v) (hw : ∀ name u, w ≠ .tagged name u) :
    w = v := by
  unfold withTag at h
  split at h
  · exact absurd h (hw _ _)
  · exact h

theorem typed_eq_null {t : Tree} (h : typed t = .ok .null) : ∃ tag text plain, t = .scalar tag text plain := by
  generalize hv : Value.null = v at h
  cases typed_of_typed h with
  | scalar _ => exact ⟨_, _, _, rfl⟩
  | sequence _ => cases eq_of_withTag hv nofun
  | mapping _ => cases eq_of_withTag hv nofun

theorem typed_eq_list {t : Tree} {items : List Value} (h : typed t = .ok (.list items)) :
    ∃ tag ts, t = .sequence tag ts ∧ List.Forall₂ (fun t v => typed t = .ok v) ts items := by
  generalize hv : Value.list items = v at h
  cases typed_of_typed h with
  | scalar hscalar => exact absurd hv.symm ((Resolution.scalar_no_collection hscalar).2 items)
  | sequence hitems =>
    cases eq_of_withTag hv nofun
    exact ⟨_, _, rfl, hitems⟩
  | mapping _ => cases eq_of_withTag hv nofun

theorem typed_eq_mapping {t : Tree} {entries : List (Value × Value)} (h : typed t = .ok (.mapping entries)) :
    ∃ tag ts, t = .mapping tag ts ∧ EntriesRead typed ts entries := by
  generalize hv : Value.mapping entries = v at h
  cases typed_of_typed h with
  | scalar hscalar =>
    rw [← hv] at hscalar
    cases (Resolution.scalar_no_collection hscalar).1
  | sequence _ => cases eq_of_withTag hv nofun
  | mapping hentries =>
    cases eq_of_withTag hv nofun
    exact ⟨_, _, rfl, hentries⟩

end Tree

end RepoConventions.Yaml
