import Mathlib.Data.List.Lex
import Mathlib.Data.List.Nodup
import RepoConventions.Proofs.Files.Below

/-!
# The order of paths

Paths are compared component by component, so that what is in a directory stands together, also where the name of a
neighbour goes on with a character before the slash. The files below a root stand in this order, each once.
-/

namespace RepoConventions.Files

namespace Path

/-- The top stands before `.`, that before `..`, and all three before names. -/
def Component.kind : Component → Nat
  | top => 0
  | here => 1
  | up => 2
  | name _ => 3

def Component.Precedes : Component → Component → Prop
  | name s, name r => OsText.octetsOf s < OsText.octetsOf r
  | c, d => c.kind < d.kind

/-- The order of paths by the first component in which they differ; a path stands before those below it. -/
def Precedes (p q : String) : Prop := List.Lex Component.Precedes (components p) (components q)

end Path

/-! Ways -/

theorem precedes_cons_iff {a b : String} {as bs : List String} :
    precedes (a :: as) (b :: bs) = true ↔
      OsText.octets a < OsText.octets b ∨ OsText.octets a = OsText.octets b ∧ precedes as bs = true := by
  rw [precedes, Bool.or_eq_true, Bool.and_eq_true, decide_eq_true_iff, decide_eq_true_iff]

theorem precedes_trans (a b c : List String) (hab : precedes a b = true) (hbc : precedes b c = true) :
    precedes a c = true := by
  induction a generalizing b c with
  | nil => rfl
  | cons x a ih =>
    cases b with
    | nil => cases hab
    | cons y b =>
      cases c with
      | nil => cases hbc
      | cons z c =>
        rw [precedes_cons_iff] at hab hbc ⊢
        rcases hab with hxy | ⟨hxy, hab⟩ <;> rcases hbc with hyz | ⟨hyz, hbc⟩
        · exact .inl (List.lt_trans hxy hyz)
        · exact .inl (hyz ▸ hxy)
        · exact .inl (hxy ▸ hyz)
        · exact .inr ⟨hxy.trans hyz, ih b c hab hbc⟩

theorem precedes_total (a b : List String) : (precedes a b || precedes b a) = true := by
  rw [Bool.or_eq_true]
  induction a generalizing b with
  | nil => exact .inl rfl
  | cons x a ih =>
    cases b with
    | nil => exact .inr rfl
    | cons y b =>
      rw [precedes_cons_iff, precedes_cons_iff]
      rcases Std.lt_trichotomy (OsText.octets x) (OsText.octets y) with h | h | h
      · exact .inl (.inl h)
      · exact (ih b).imp (fun hab => .inr ⟨h, hab⟩) (fun hba => .inr ⟨h.symm, hba⟩)
      · exact .inr (.inl h)

/-- Ways that stand before each other have names of the same octets, which are the same names. -/
theorem precedes_antisymm {a b : List String} (ha : ∀ s ∈ a, isEntryName s = true) (hb : ∀ s ∈ b, isEntryName s = true)
    (hab : precedes a b = true) (hba : precedes b a = true) : a = b := by
  induction a generalizing b with
  | nil =>
    cases b with
    | nil => rfl
    | cons y b => cases hba
  | cons x a ih =>
    cases b with
    | nil => cases hab
    | cons y b =>
      obtain ⟨hx, ha⟩ := List.forall_mem_cons.mp ha
      obtain ⟨hy, hb⟩ := List.forall_mem_cons.mp hb
      rw [precedes_cons_iff] at hab hba
      rcases hab with hxy | ⟨hxy, hab⟩ <;> rcases hba with hyx | ⟨hyx, hba⟩
      · exact absurd hyx (List.lt_asymm hxy)
      · exact absurd (hyx ▸ hxy) (List.lt_irrefl _)
      · exact absurd (hxy ▸ hyx) (List.lt_irrefl _)
      · rw [OsText.eq_of_octets_eq (isSpelling_of_isEntryName hx) (isSpelling_of_isEntryName hy) hxy, ih ha hb hab hba]

theorem lex_of_precedes {a b : List String} (ha : ∀ s ∈ a, isEntryName s = true) (hb : ∀ s ∈ b, isEntryName s = true)
    (h : precedes a b = true) (hne : a ≠ b) :
    List.Lex Path.Component.Precedes (a.map fun s => .name s.toList) (b.map fun s => .name s.toList) := by
  induction a generalizing b with
  | nil =>
    cases b with
    | nil => exact absurd rfl hne
    | cons y b => exact .nil
  | cons x a ih =>
    cases b with
    | nil => cases h
    | cons y b =>
      obtain ⟨hx, has⟩ := List.forall_mem_cons.mp ha
      obtain ⟨hy, hbs⟩ := List.forall_mem_cons.mp hb
      rcases precedes_cons_iff.mp h with hxy | ⟨hxy, hab⟩
      · exact .rel hxy
      · obtain rfl := OsText.eq_of_octets_eq (isSpelling_of_isEntryName hx) (isSpelling_of_isEntryName hy) hxy
        exact .cons (ih has hbs hab fun he => hne (by rw [he]))

theorem Path.precedes_pathBelow {root : String} (hroot : root ≠ "") {a b : List String}
    (ha : ∀ s ∈ a, isEntryName s = true) (hb : ∀ s ∈ b, isEntryName s = true) (h : precedes a b = true)
    (hne : a ≠ b) : Path.Precedes (pathBelow root a) (pathBelow root b) := by
  rw [Path.Precedes, Path.components_pathBelow hroot ha, Path.components_pathBelow hroot hb]
  exact List.Lex.append_left _ (lex_of_precedes ha hb h hne) _

/-! Files -/

namespace FileTree

variable {t : FileTree} {root : String}

theorem isEntryName_of_mem_files {names : List String} (h : names ∈ t.files root) :
    root ≠ "" ∧ ∀ s ∈ names, isEntryName s = true := by
  obtain ⟨-, location, node, hresolve, ⟨⟨content, hfile⟩, -⟩, -⟩ := mem_files_iff.mp h
  have hold := t.resolve_holdsIn root
  rw [hresolve] at hold
  have hw : node.WellFormed := t.wellFormed.of_node? hold
  obtain ⟨hroot, -⟩ | ⟨e, he⟩ := t.resolve_cases root
  · exact ⟨hroot, List.all_eq_true.mp (hw.all_isEntryName hfile)⟩
  · rw [he] at hresolve
    cases hresolve

theorem pairwise_files (t : FileTree) (root : String) :
    (t.files root).Pairwise fun a b => precedes a b = true ∧ a ≠ b := by
  have hsorted : (t.files root).Pairwise fun a b => precedes a b = true := by
    unfold files
    split
    · split
      · exact .nil
      · exact List.pairwise_mergeSort precedes_trans precedes_total _
    all_goals exact .nil
  exact hsorted.and (t.nodup_files root)

/-- The paths of selected files are in strictly ascending order. -/
theorem pairwise_paths (t : FileTree) (root : String) (p : List String → Bool) :
    (((t.files root).filter p).map (pathBelow root)).Pairwise Path.Precedes := by
  rw [List.pairwise_map]
  refine List.Pairwise.imp_of_mem ?_ ((t.pairwise_files root).filter p)
  intro a b ha hb ⟨hprecedes, hne⟩
  obtain ⟨hroot, hnames⟩ := isEntryName_of_mem_files (List.mem_of_mem_filter ha)
  obtain ⟨-, hothers⟩ := isEntryName_of_mem_files (List.mem_of_mem_filter hb)
  exact Path.precedes_pathBelow hroot hnames hothers hprecedes hne

theorem nodup_paths (t : FileTree) (root : String) (p : List String → Bool) :
    (((t.files root).filter p).map (pathBelow root)).Nodup := by
  refine List.Nodup.map_on ?_ ((t.nodup_files root).filter p)
  intro a ha b hb heq
  obtain ⟨hroot, hnames⟩ := isEntryName_of_mem_files (List.mem_of_mem_filter ha)
  obtain ⟨-, hothers⟩ := isEntryName_of_mem_files (List.mem_of_mem_filter hb)
  exact Path.pathBelow_injective hroot hnames hothers heq

end FileTree

end RepoConventions.Files
