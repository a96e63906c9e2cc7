import RepoConventions.Files.Tree

/-!
# Putting files into a tree

A file can be put where there is one and where a directory has no entry of that name. It is then what is found there,
all other files, links and directories stay, and a file that only changes its content leaves the layout of the tree as
it is.
-/

namespace RepoConventions.Files

namespace FileNode

variable {entries : List (String × FileNode)} {top : FileNode} {location : List String}

theorem lookup_cons_eq_ite {α : Type} (name other : String) (a : α) (rest : List (String × α)) :
    List.lookup other ((name, a) :: rest) = if other = name then some a else rest.lookup other := by
  by_cases h : other = name
  · simp [h]
  · simp [List.lookup_cons, beq_false_of_ne h, h]

theorem mem_names_of_lookup {name : String} {node : FileNode} (h : entries.lookup name = some node) :
    name ∈ entries.map (·.1) := by
  induction entries with
  | nil => cases h
  | cons e rest ih =>
    obtain ⟨first, old⟩ := e
    rw [lookup_cons_eq_ite] at h
    by_cases hf : name = first
    · simp [hf]
    · rw [if_neg hf] at h
      exact List.mem_cons_of_mem first (ih h)

theorem lookup_setEntry (name other : String) (node : FileNode) (entries : List (String × FileNode)) :
    (setEntry name node entries).lookup other = if other = name then some node else entries.lookup other := by
  induction entries with
  | nil => simp [setEntry, lookup_cons_eq_ite]
  | cons e rest ih =>
    obtain ⟨first, old⟩ := e
    by_cases hn : first = name
    · by_cases h : other = name <;> simp [setEntry, lookup_cons_eq_ite, hn, h]
    · by_cases h : other = first
      · subst h
        simp [setEntry, hn]
      · simp [setEntry, lookup_cons_eq_ite, hn, h, ih]

theorem node?_append (before after : List String) (node : FileNode) :
    node? (before ++ after) node = (node? before node).bind (node? after) := by
  induction before generalizing node with
  | nil => rfl
  | cons name rest ih =>
    cases node with
    | file content => rfl
    | link target => rfl
    | directory entries =>
      cases h : entries.lookup name with
      | none => simp [node?, h]
      | some child => simp [node?, h, ih]

/-- A file can be put there: it is the place of a file, or of no entry yet in a directory. -/
inductive HasRoom : List String → FileNode → Prop
  | file (content : ByteArray) : HasRoom [] (.file content)
  | new {name : String} {entries : List (String × FileNode)} (h : entries.lookup name = none) :
      HasRoom [name] (.directory entries)
  | inside {name : String} {rest : List String} {entries : List (String × FileNode)} {child : FileNode}
      (h : entries.lookup name = some child) (hr : HasRoom rest child) : HasRoom (name :: rest) (.directory entries)

namespace HasRoom

theorem of_file {content : ByteArray} (h : node? location top = some (.file content)) : HasRoom location top := by
  induction location generalizing top with
  | nil =>
    cases h
    exact .file content
  | cons name rest ih =>
    cases top with
    | file _ => cases h
    | link _ => cases h
    | directory entries =>
      obtain ⟨child, hc, hrest⟩ := Option.bind_eq_some_iff.mp h
      exact .inside hc (ih hrest)

theorem of_absent {name : String} (hd : node? location top = some (.directory entries))
    (hn : entries.lookup name = none) : HasRoom (location ++ [name]) top := by
  induction location generalizing top with
  | nil =>
    cases hd
    exact .new hn
  | cons first rest ih =>
    cases top with
    | file _ => cases hd
    | link _ => cases hd
    | directory es =>
      obtain ⟨child, hc, hrest⟩ := Option.bind_eq_some_iff.mp hd
      exact .inside hc (ih hrest)

theorem node?_eq (h : HasRoom location top) :
    node? location top = none ∨ ∃ content, node? location top = some (.file content) := by
  induction h with
  | file content => exact .inr ⟨content, rfl⟩
  | new h => exact .inl (by simp [node?, h])
  | inside h _ ih => simpa [node?, h] using ih

theorem node?_ne_directory (h : HasRoom location top) (below : List String) (es : List (String × FileNode)) :
    node? (location ++ below) top ≠ some (.directory es) := by
  rw [node?_append]
  obtain h | ⟨content, h⟩ := h.node?_eq
  · simp [h]
  · cases below <;> simp [h, node?]

theorem node?_put_self (h : HasRoom location top) (new : FileNode) :
    node? location (put new location top) = some new := by
  induction h with
  | file _ => rfl
  | new h => simp [put, node?, lookup_setEntry]
  | inside h _ ih => simpa [put, node?, lookup_setEntry, h] using ih

end HasRoom

def bare : FileNode → FileNode
  | file content => file content
  | link target => link target
  | directory _ => directory []

/-- Everywhere else a new file changes at most the entries of directories. -/
theorem HasRoom.node?_put_of_ne (h : HasRoom location top) (content : ByteArray) {other : List String}
    (hne : other ≠ location) :
    (node? other (put (.file content) location top)).map bare = (node? other top).map bare := by
  induction h generalizing other with
  | file _ =>
    cases other with
    | nil => exact absurd rfl hne
    | cons name rest => rfl
  | @new name entries h =>
    cases other with
    | nil => rfl
    | cons first rest =>
      by_cases hf : first = name
      · subst hf
        cases rest with
        | nil => exact absurd rfl hne
        | cons second rest => simp [put, node?, lookup_setEntry, h]
      · simp [put, node?, lookup_setEntry, hf]
  | @inside name rest' entries child h _ ih =>
    cases other with
    | nil => rfl
    | cons first rest =>
      by_cases hf : first = name
      · subst hf
        have hrest : rest ≠ rest' := fun he => hne (by rw [he])
        simpa [put, node?, lookup_setEntry, h] using ih hrest
      · simp [put, node?, lookup_setEntry, hf]

theorem map_bare_eq_file_iff {node : Option FileNode} {content : ByteArray} :
    node.map bare = some (.file content) ↔ node = some (.file content) := by
  cases node with
  | none => simp
  | some n => cases n <;> simp [bare]

theorem HasRoom.file_put_of_ne (h : HasRoom location top) (content old : ByteArray) {other : List String}
    (hne : other ≠ location) :
    node? other (put (.file content) location top) = some (.file old) ↔ node? other top = some (.file old) := by
  rw [← map_bare_eq_file_iff, h.node?_put_of_ne content hne, map_bare_eq_file_iff]

/-! Layouts -/

mutual
/-- A node without the contents of files. -/
def layout : FileNode → FileNode
  | file _ => file .empty
  | link target => link target
  | directory entries => directory (layouts entries)

def layouts : List (String × FileNode) → List (String × FileNode)
  | [] => []
  | (name, node) :: rest => (name, layout node) :: layouts rest
end

theorem lookup_layouts (name : String) (entries : List (String × FileNode)) :
    (layouts entries).lookup name = (entries.lookup name).map layout := by
  induction entries with
  | nil => rfl
  | cons e rest ih =>
    obtain ⟨first, node⟩ := e
    by_cases h : name = first <;> simp [layouts, lookup_cons_eq_ite, h, ih]

theorem node?_layout (location : List String) (top : FileNode) :
    node? location top.layout = (node? location top).map layout := by
  induction location generalizing top with
  | nil => rfl
  | cons name rest ih =>
    cases top with
    | file _ => rfl
    | link _ => rfl
    | directory entries =>
      cases h : entries.lookup name with
      | none => simp [layout, node?, lookup_layouts, h]
      | some child => simp [layout, node?, lookup_layouts, h, ih]

theorem layouts_setEntry {name : String} {old new : FileNode} (hl : entries.lookup name = some old)
    (hn : new.layout = old.layout) : layouts (setEntry name new entries) = layouts entries := by
  induction entries with
  | nil => cases hl
  | cons e rest ih =>
    obtain ⟨first, node⟩ := e
    by_cases h : first = name
    · have hold : node = old := by simpa [lookup_cons_eq_ite, h] using hl
      simp [setEntry, layouts, h, hn, hold]
    · have hrest : rest.lookup name = some old := by simpa [lookup_cons_eq_ite, Ne.symm h] using hl
      simp [setEntry, layouts, h, ih hrest]

theorem layout_put {old : ByteArray} (h : node? location top = some (.file old)) (content : ByteArray) :
    (put (.file content) location top).layout = top.layout := by
  induction location generalizing top with
  | nil =>
    cases h
    rfl
  | cons name rest ih =>
    cases top with
    | file _ => cases h
    | link _ => cases h
    | directory entries =>
      obtain ⟨child, hc, hrest⟩ := Option.bind_eq_some_iff.mp h
      have hchild := ih hrest
      simp only [put, hc, Option.getD_some, layout]
      rw [layouts_setEntry hc hchild]

mutual
/-- A layout and the contents of the files in it make the whole node. -/
theorem eq_of_layout_eq {m n : FileNode} (hm : m.WellFormed) (hl : m.layout = n.layout)
    (hc : ∀ location content, node? location m = some (.file content) ↔ node? location n = some (.file content)) :
    m = n := by
  cases m with
  | file content =>
    have h : n = .file content := Option.some.inj ((hc [] content).mp rfl)
    exact h.symm
  | link target => cases n <;> simp_all [layout]
  | directory entries =>
    cases n with
    | file _ => simp [layout] at hl
    | link _ => simp [layout] at hl
    | directory others =>
      have hrest : entries = others := by
        apply entries_eq_of_layouts_eq hm.1 hm.2 (by simpa [layout] using hl)
        exact fun name location => hc (name :: location)
      rw [hrest]

theorem entries_eq_of_layouts_eq {entries others : List (String × FileNode)} (hd : (entries.map (·.1)).Nodup)
    (hw : EntriesWellFormed entries) (hl : layouts entries = layouts others)
    (hc : ∀ name location content, (entries.lookup name).bind (node? location) = some (.file content) ↔
      (others.lookup name).bind (node? location) = some (.file content)) : entries = others := by
  cases entries with
  | nil =>
    cases others with
    | nil => rfl
    | cons o os => cases hl
  | cons e es =>
    cases others with
    | nil => cases hl
    | cons o os =>
      obtain ⟨name, node⟩ := e
      obtain ⟨other, node'⟩ := o
      obtain ⟨⟨rfl, hnode⟩, hrest⟩ : (name = other ∧ node.layout = node'.layout) ∧ layouts es = layouts os := by
        simpa [layouts] using hl
      have hfirst : node = node' := by
        apply eq_of_layout_eq hw.2.1 hnode
        intro location content
        simpa [lookup_cons_eq_ite] using hc name location content
      have hes : es = os := by
        have hnodup := List.nodup_cons.mp hd
        apply entries_eq_of_layouts_eq hnodup.2 hw.2.2 hrest
        intro s location content
        by_cases hs : s = name
        · have hnone : es.lookup s = none := by
            rw [List.lookup_eq_none_iff]
            intro p hp
            have hne : p.1 ≠ name := fun he => hnodup.1 (he ▸ List.mem_map_of_mem hp : name ∈ es.map (·.1))
            simpa [hs] using hne.symm
          have hnone' : os.lookup s = none := by
            have hmap : (os.lookup s).map layout = none := by rw [← lookup_layouts, ← hrest, lookup_layouts, hnone]; rfl
            exact Option.map_eq_none_iff.mp hmap
          simp [hnone, hnone']
        · simpa [lookup_cons_eq_ite, hs] using hc s location content
      rw [hfirst, hes]
end

end FileNode

end RepoConventions.Files
