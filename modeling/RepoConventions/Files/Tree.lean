import RepoConventions.Files.Error
import RepoConventions.Files.OsText

/-!
# File trees

Files, symbolic links and directories under one top. The entries of a directory stand in no particular order, and each
has a name of its own that can be a segment of a path.
-/

namespace RepoConventions.Files

inductive FileNode
  | file (content : ByteArray)
  | link (target : String)
  | directory (entries : List (String × FileNode))

/-- A name that an entry of a directory may have. -/
def isEntryName (name : String) : Bool :=
  name ≠ "" && name ≠ "." && name ≠ ".." && !name.toList.contains '/' && OsText.isSpelling name

namespace FileNode

mutual
def WellFormed : FileNode → Prop
  | file _ | link _ => True
  | directory entries => (entries.map (·.1)).Nodup ∧ EntriesWellFormed entries

def EntriesWellFormed : List (String × FileNode) → Prop
  | [] => True
  | (name, node) :: rest => isEntryName name = true ∧ WellFormed node ∧ EntriesWellFormed rest
end

/-- The node at a location, which lists the names from the top down. -/
def node? : List String → FileNode → Option FileNode
  | [], node => some node
  | name :: rest, directory entries => (entries.lookup name).bind (node? rest)
  | _ :: _, file _ | _ :: _, link _ => none

/-- Gives a name its node, new or not. -/
def setEntry (name : String) (node : FileNode) : List (String × FileNode) → List (String × FileNode)
  | [] => [(name, node)]
  | (n, old) :: rest => if n = name then (n, node) :: rest else (n, old) :: setEntry name node rest

/-- Puts a node at a location, with directories on the way; below a file or a link nothing can be put. -/
def put (new : FileNode) : List String → FileNode → FileNode
  | [], _ => new
  | name :: rest, directory entries =>
    directory (setEntry name (put new rest ((entries.lookup name).getD (directory []))) entries)
  | _ :: _, file content => file content
  | _ :: _, link target => link target

theorem map_fst_setEntry (name : String) (node : FileNode) (entries : List (String × FileNode)) :
    (setEntry name node entries).map (·.1) =
      if name ∈ entries.map (·.1) then entries.map (·.1) else entries.map (·.1) ++ [name] := by
  induction entries with
  | nil => simp [setEntry]
  | cons e rest ih =>
    by_cases h : e.1 = name
    · simp [setEntry, h]
    · have h' : ¬ name = e.1 := fun h'' => h h''.symm
      by_cases hm : name ∈ rest.map (·.1) <;> simp_all [setEntry]

theorem nodup_setEntry {name : String} {node : FileNode} {entries : List (String × FileNode)}
    (h : (entries.map (·.1)).Nodup) : ((setEntry name node entries).map (·.1)).Nodup := by
  rw [map_fst_setEntry]
  split
  · exact h
  · rename_i hm
    exact List.nodup_append.2 ⟨h, by simp, by
      intro a ha b hb
      simp only [List.mem_singleton] at hb
      exact fun hab => hm (hb ▸ hab ▸ ha)⟩

theorem entriesWellFormed_setEntry {name : String} {node : FileNode} {entries : List (String × FileNode)}
    (hname : isEntryName name = true) (hnode : node.WellFormed) (h : EntriesWellFormed entries) :
    EntriesWellFormed (setEntry name node entries) := by
  induction entries with
  | nil => exact ⟨hname, hnode, trivial⟩
  | cons e rest ih =>
    obtain ⟨he, hn, hr⟩ := h
    by_cases heq : e.1 = name
    · simp only [setEntry, heq, if_true]
      exact ⟨hname, hnode, hr⟩
    · simp only [setEntry, heq, if_false]
      exact ⟨he, hn, ih hr⟩

theorem wellFormed_of_lookup {name : String} {node : FileNode} {entries : List (String × FileNode)}
    (h : EntriesWellFormed entries) (hl : entries.lookup name = some node) : node.WellFormed := by
  induction entries with
  | nil => simp at hl
  | cons e rest ih =>
    obtain ⟨_, hn, hr⟩ := h
    rw [List.lookup_cons] at hl
    split at hl
    · exact Option.some.inj hl ▸ hn
    · exact ih hr hl

theorem wellFormed_put {new : FileNode} (hnew : new.WellFormed) (location : List String)
    (hloc : location.all isEntryName = true) (node : FileNode) (h : node.WellFormed) :
    (put new location node).WellFormed := by
  induction location generalizing node with
  | nil => exact hnew
  | cons name rest ih =>
    simp only [List.all_cons, Bool.and_eq_true] at hloc
    cases node with
    | file content => exact h
    | link target => exact h
    | directory entries =>
      refine ⟨nodup_setEntry h.1, entriesWellFormed_setEntry hloc.1 (ih hloc.2 _ ?_) h.2⟩
      cases hl : entries.lookup name with
      | none => exact ⟨List.nodup_nil, trivial⟩
      | some n => exact wellFormed_of_lookup h.2 hl

end FileNode

/-- A tree, the location that relative paths begin at, and why octets cannot be written to the file at a location, as
where a disk is full. -/
structure FileTree where
  top : FileNode
  workingDirectory : List String
  writeFault : List String → Option FileError
  wellFormed : top.WellFormed

namespace FileTree

def empty : FileTree := ⟨.directory [], [], fun _ => none, List.nodup_nil, trivial⟩

def workingPath (t : FileTree) : String := "/" ++ "/".intercalate t.workingDirectory

/-- Puts a node at a location, if all names in it are possible. -/
def put (t : FileTree) (location : List String) (new : FileNode) (hnew : new.WellFormed) : FileTree :=
  if h : location.all isEntryName = true then
    { t with top := .put new location t.top, wellFormed := FileNode.wellFormed_put hnew location h t.top t.wellFormed }
  else t

def putFile (t : FileTree) (location : List String) (content : ByteArray) : FileTree :=
  t.put location (.file content) trivial

def putLink (t : FileTree) (location : List String) (target : String) : FileTree :=
  t.put location (.link target) trivial

def putDirectory (t : FileTree) (location : List String) : FileTree :=
  t.put location (.directory []) ⟨List.nodup_nil, trivial⟩

end FileTree

end RepoConventions.Files
