import RepoConventions.Proofs.Files.Order

/-!
# Directories listed in another order

The entries of a directory stand in no particular order. Trees that list the same entries in different orders, at any
depth, have the same files at the same places, and paths lead to the same places in them.
-/

namespace RepoConventions.Files

open FileNode (node?)

namespace FileNode

mutual
/-- The same files and links, in directories that may list their entries in another order. -/
inductive Relisted : FileNode → FileNode → Prop
  | file (content : ByteArray) : Relisted (.file content) (.file content)
  | link (target : String) : Relisted (.link target) (.link target)
  | directory {entries between others : List (String × FileNode)} (hbelow : EntriesRelisted entries between)
      (horder : between.Perm others) : Relisted (.directory entries) (.directory others)

/-- The same names in the same order, with nodes below them that may be listed otherwise. -/
inductive EntriesRelisted : List (String × FileNode) → List (String × FileNode) → Prop
  | nil : EntriesRelisted [] []
  | cons {name : String} {node other : FileNode} {entries others : List (String × FileNode)}
      (hnode : Relisted node other) (hrest : EntriesRelisted entries others) :
      EntriesRelisted ((name, node) :: entries) ((name, other) :: others)
end

inductive SameFind : Option FileNode → Option FileNode → Prop
  | missing : SameFind none none
  | found {node other : FileNode} (h : Relisted node other) : SameFind (some node) (some other)

theorem lookup_eq_some_iff_mem {entries : List (String × FileNode)} (hd : (entries.map (·.1)).Nodup) {name : String}
    {node : FileNode} : entries.lookup name = some node ↔ (name, node) ∈ entries := by
  induction entries with
  | nil => simp
  | cons e rest ih =>
    obtain ⟨first, old⟩ := e
    obtain ⟨hfirst, hd⟩ := List.nodup_cons.mp hd
    rw [lookup_cons_eq_ite]
    by_cases h : name = first
    · subst h
      have hrest : (name, node) ∉ rest := fun hm => hfirst (List.mem_map.mpr ⟨_, hm, rfl⟩)
      simp [hrest, eq_comm]
    · simp [h, ih hd]

theorem lookup_perm {entries others : List (String × FileNode)} (hd : (entries.map (·.1)).Nodup)
    (h : entries.Perm others) (name : String) : entries.lookup name = others.lookup name := by
  refine Option.ext fun node => ?_
  rw [lookup_eq_some_iff_mem hd, lookup_eq_some_iff_mem ((h.map _).nodup hd), h.mem_iff]

theorem EntriesRelisted.names_eq {entries others : List (String × FileNode)} (h : EntriesRelisted entries others) :
    others.map (·.1) = entries.map (·.1) := by
  induction entries generalizing others with
  | nil =>
    cases h
    rfl
  | cons e rest ih =>
    cases h with
    | cons _ hrest => rw [List.map_cons, List.map_cons, ih hrest]

theorem EntriesRelisted.sameFind_lookup {entries others : List (String × FileNode)} (h : EntriesRelisted entries others)
    (name : String) : SameFind (entries.lookup name) (others.lookup name) := by
  induction entries generalizing others with
  | nil =>
    cases h
    exact .missing
  | cons e rest ih =>
    cases h with
    | cons hnode hrest =>
      rw [lookup_cons_eq_ite, lookup_cons_eq_ite]
      split
      · exact .found hnode
      · exact ih hrest

theorem Relisted.sameFind_lookup {entries others : List (String × FileNode)}
    (hw : (FileNode.directory entries).WellFormed) (h : Relisted (.directory entries) (.directory others))
    (name : String) : SameFind (entries.lookup name) (others.lookup name) := by
  cases h with
  | directory hbelow horder =>
    have hd := hw.1
    rw [← hbelow.names_eq] at hd
    rw [← lookup_perm hd horder]
    exact hbelow.sameFind_lookup name

/-- At every location there is the same, but for the order of entries. -/
theorem Relisted.sameFind {node other : FileNode} (hw : node.WellFormed) (h : Relisted node other)
    (location : List String) : SameFind (node? location node) (node? location other) := by
  induction location generalizing node other with
  | nil => exact .found h
  | cons name rest ih =>
    cases node with
    | file content =>
      cases h
      exact .missing
    | link target =>
      cases h
      exact .missing
    | directory entries =>
      obtain ⟨others, rfl⟩ : ∃ others, other = .directory others := by
        cases h
        exact ⟨_, rfl⟩
      have hfind := h.sameFind_lookup hw name
      rw [node?, node?]
      cases hl : entries.lookup name with
      | none =>
        rw [hl] at hfind
        generalize others.lookup name = found at hfind
        cases hfind
        exact .missing
      | some child =>
        rw [hl] at hfind
        generalize others.lookup name = found at hfind
        cases hfind with
        | found hchild => exact ih (wellFormed_of_lookup hw.2 hl) hchild

theorem SameFind.file_iff {found other : Option FileNode} (h : SameFind found other) (content : ByteArray) :
    found = some (.file content) ↔ other = some (.file content) := by
  cases h with
  | missing => simp
  | found h => cases h <;> simp

theorem SameFind.directory_iff {found other : Option FileNode} (h : SameFind found other) :
    (∃ entries, found = some (.directory entries)) ↔ ∃ entries, other = some (.directory entries) := by
  cases h with
  | missing => simp
  | found h => cases h <;> simp

theorem SameFind.isSome_eq {found other : Option FileNode} (h : SameFind found other) :
    found.isSome = other.isSome := by
  cases h <;> rfl

end FileNode

/-! Where paths lead -/

/-- Outcomes of one path in trees that list their entries in different orders. -/
inductive Outcome.Relisted : Outcome → Outcome → Prop
  | found {location : List String} {node other : FileNode} (h : FileNode.Relisted node other) :
      Relisted (.found location node) (.found location other)
  | absent (directory : List String) (name : String) : Relisted (.absent directory name) (.absent directory name)
  | link (directory : List String) (target : String) (rest : List Step) :
      Relisted (.link directory target rest) (.link directory target rest)
  | failed (e : FileError) : Relisted (.failed e) (.failed e)

theorem Outcome.Relisted.eq_link_iff {o o' : Outcome} (h : o.Relisted o') (directory : List String) (target : String)
    (rest : List Step) : o = .link directory target rest ↔ o' = .link directory target rest := by
  cases h <;> simp

theorem walk_relisted {top other : FileNode} (hw : top.WellFormed) (h : FileNode.Relisted top other)
    (location : List String) (steps : List Step) : (walk top location steps).Relisted (walk other location steps) := by
  induction steps generalizing location with
  | nil =>
    have hfind := h.sameFind hw location
    rw [walk, walk]
    generalize node? location top = found at hfind
    generalize node? location other = found' at hfind
    cases hfind with
    | missing => exact .failed _
    | found h => exact .found h
  | cons step rest ih =>
    have hfind := h.sameFind hw location
    by_cases hd : ∃ entries, node? location top = some (.directory entries)
    · obtain ⟨entries, hd⟩ := hd
      obtain ⟨others, hd'⟩ := hfind.directory_iff.mp ⟨entries, hd⟩
      cases step with
      | here => simpa [walk, hd, hd'] using ih location
      | up => simpa [walk, hd, hd'] using ih location.dropLast
      | name s =>
        have hnext := h.sameFind hw (location ++ [s])
        rw [walk_name hd, walk_name hd']
        split
        · exact .failed _
        · generalize node? (location ++ [s]) top = found at hnext
          generalize node? (location ++ [s]) other = found' at hnext
          cases hnext with
          | missing =>
            dsimp only
            split
            · exact .failed _
            · split
              · exact .absent _ _
              · exact .failed _
          | found hchild =>
            cases hchild with
            | file content => exact ih (location ++ [s])
            | link target => exact .link _ _ _
            | directory hbelow horder => exact ih (location ++ [s])
    · have hd' := hfind.directory_iff.not.mp hd
      rw [walk_cons_of_ne_directory fun entries he => hd ⟨entries, he⟩,
        walk_cons_of_ne_directory fun entries he => hd' ⟨entries, he⟩, hfind.isSome_eq]
      exact .failed _

namespace FileTree

/-- Trees with the same files and links, whose directories may list their entries in different orders. -/
structure Relisted (t u : FileTree) : Prop where
  top : FileNode.Relisted t.top u.top
  workingDirectory : t.workingDirectory = u.workingDirectory

variable {t u : FileTree}

theorem Relisted.resolve (h : t.Relisted u) (path : String) : (t.resolve path).Relisted (u.resolve path) := by
  refine resolveSteps_related Outcome.Relisted .failed h.workingDirectory ?_ stepsOf_ne_nil
  intro links location steps hsteps
  refine follow_related Outcome.Relisted ?_ .failed ?_ links location hsteps
  · exact fun o o' directory target rest ho => ho.eq_link_iff directory target rest
  · exact fun location steps _ => walk_relisted t.wellFormed h.top location steps

theorem Relisted.mem_files_iff (h : t.Relisted u) (root : String) (names : List String) :
    names ∈ t.files root ↔ names ∈ u.files root := by
  have hresolve := h.resolve root
  have hold := t.resolve_holdsIn root
  rw [FileTree.mem_files_iff, FileTree.mem_files_iff, HasFileAt, HasFileAt]
  generalize t.resolve root = o at hresolve hold
  generalize u.resolve root = o' at hresolve
  cases hresolve with
  | absent => simp
  | link => simp
  | failed => simp
  | @found place node other hnode =>
    have hw : node.WellFormed := t.wellFormed.of_node? hold
    have hfile (content : ByteArray) := (hnode.sameFind hw names).file_iff content
    simp [LeadsToFile, hfile]

theorem Relisted.files_eq (h : t.Relisted u) (root : String) : t.files root = u.files root := by
  have hperm : (t.files root).Perm (u.files root) :=
    (List.perm_ext_iff_of_nodup (t.nodup_files root) (u.nodup_files root)).mpr (h.mem_files_iff root)
  refine hperm.eq_of_pairwise ?_ (t.pairwise_files root) (u.pairwise_files root)
  intro a b ha hb hab hba
  exact precedes_antisymm (isEntryName_of_mem_files ha).2 (isEntryName_of_mem_files hb).2 hab.1 hba.1

theorem Relisted.find_eq (h : t.Relisted u) (root glob : String) : t.find root glob = u.find root glob := by
  rw [find, find, h.files_eq]

end FileTree

end RepoConventions.Files
