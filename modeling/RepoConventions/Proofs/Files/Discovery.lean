import Mathlib.Data.List.Basic
import Mathlib.Data.List.Induction
import RepoConventions.Files.Discovery
import RepoConventions.Proofs.Files.Access

/-!
# Which files are discovered

Discovery lists every way from a root to a file that does not go through version control data, once, unless a directory
on the way cannot be listed. The path of a discovered file leads to that file, unless it is too long, so that different
discovered files have different places.
-/

namespace RepoConventions.Files

open FileNode (node?)

/-- The names lead from a node to a file, and not through version control data. -/
def LeadsToFile (node : FileNode) (names : List String) : Prop :=
  (∃ content, node? names node = some (.file content)) ∧ versionControlName ∉ names

theorem FileNode.WellFormed.of_node? {top node : FileNode} {location : List String} (hw : top.WellFormed)
    (h : node? location top = some node) : node.WellFormed := by
  induction location generalizing top with
  | nil =>
    cases h
    exact hw
  | cons name rest ih =>
    cases top with
    | file _ => cases h
    | link _ => cases h
    | directory entries =>
      obtain ⟨child, hc, hrest⟩ := Option.bind_eq_some_iff.mp h
      exact ih (FileNode.wellFormed_of_lookup hw.2 hc) hrest

/-- Every directory on the way from a root can be listed. -/
def CanReach (root : String) (names : List String) : Prop :=
  ∀ before, before <+: names → before ≠ names → canList (pathBelow root before) = true

theorem canReach_nil (root : String) : CanReach root [] :=
  fun _ hbefore hne => absurd (List.prefix_nil.mp hbefore) hne

theorem canReach_cons_iff (root name : String) (rest : List String) :
    CanReach root (name :: rest) ↔ canList root = true ∧ CanReach (Path.join root name) rest := by
  constructor
  · intro h
    refine ⟨h [] List.nil_prefix (by simp), fun before hbefore hne => ?_⟩
    exact h (name :: before) ((List.prefix_cons_inj name).mpr hbefore) (by simpa using hne)
  · rintro ⟨hroot, hrest⟩ before hbefore hne
    cases before with
    | nil => exact hroot
    | cons first before =>
      obtain ⟨rfl, hbelow⟩ := List.cons_prefix_cons.mp hbefore
      exact hrest before hbelow (by simpa using hne)

theorem pathBelow_concat (root : String) (names : List String) (name : String) :
    pathBelow root (names ++ [name]) = Path.join (pathBelow root names) name := by
  simp [pathBelow]

mutual
theorem mem_filesBelow_iff {node : FileNode} (hw : node.WellFormed) (root : String) (location names : List String) :
    names ∈ filesBelow root location node ↔
      ∃ rest, names = location ++ rest ∧ LeadsToFile node rest ∧ CanReach (pathBelow root location) rest := by
  cases node with
  | file content =>
    constructor
    · intro h
      obtain rfl : names = location := by simpa [filesBelow] using h
      exact ⟨[], by simp, ⟨⟨content, rfl⟩, by simp⟩, canReach_nil _⟩
    · rintro ⟨rest, rfl, ⟨⟨other, h⟩, -⟩, -⟩
      cases rest with
      | nil => simp [filesBelow]
      | cons name rest => cases h
  | link target =>
    constructor
    · intro h
      simp [filesBelow] at h
    · rintro ⟨rest, rfl, ⟨⟨content, h⟩, -⟩, -⟩
      cases rest <;> cases h
  | directory entries =>
    have hmem : names ∈ filesBelow root location (.directory entries) ↔
        canList (pathBelow root location) = true ∧ names ∈ filesAmong root location entries := by
      cases h : canList (pathBelow root location) <;> simp [filesBelow, h]
    rw [hmem, mem_filesAmong_iff hw.1 hw.2]
    constructor
    · rintro ⟨hlist, name, child, rest, hl, hname, rfl, ⟨⟨content, hc⟩, hrest⟩, hreach⟩
      refine ⟨name :: rest, rfl, ⟨⟨content, by simp [node?, hl, hc]⟩, by simp [Ne.symm hname, hrest]⟩, ?_⟩
      rw [canReach_cons_iff, ← pathBelow_concat]
      exact ⟨hlist, hreach⟩
    · rintro ⟨rest, rfl, ⟨⟨content, hc⟩, hrest⟩, hreach⟩
      cases rest with
      | nil => cases hc
      | cons name rest =>
        obtain ⟨child, hl, hchild⟩ := Option.bind_eq_some_iff.mp hc
        obtain ⟨hname, hrest⟩ := not_or.mp (fun h => hrest (List.mem_cons.mpr h))
        rw [canReach_cons_iff, ← pathBelow_concat] at hreach
        exact ⟨hreach.1, name, child, rest, hl, Ne.symm hname, rfl, ⟨⟨content, hchild⟩, hrest⟩, hreach.2⟩

theorem mem_filesAmong_iff {entries : List (String × FileNode)} (hd : (entries.map (·.1)).Nodup)
    (hw : FileNode.EntriesWellFormed entries) (root : String) (location names : List String) :
    names ∈ filesAmong root location entries ↔ ∃ name child rest, entries.lookup name = some child ∧
      name ≠ versionControlName ∧ names = location ++ name :: rest ∧ LeadsToFile child rest ∧
      CanReach (pathBelow root (location ++ [name])) rest := by
  cases entries with
  | nil => simp [filesAmong]
  | cons e others =>
    obtain ⟨first, node⟩ := e
    obtain ⟨hfirst, hd⟩ := List.nodup_cons.mp hd
    have hmem : names ∈ filesAmong root location ((first, node) :: others) ↔
        (first ≠ versionControlName ∧ names ∈ filesBelow root (location ++ [first]) node) ∨
          names ∈ filesAmong root location others := by
      by_cases h : first = versionControlName <;> simp [filesAmong, h]
    rw [hmem, mem_filesBelow_iff hw.2.1, mem_filesAmong_iff hd hw.2.2]
    constructor
    · rintro (⟨hname, rest, rfl, hrest⟩ | ⟨name, child, rest, hl, hname, rfl, hrest⟩)
      · exact ⟨first, node, rest, by simp, hname, by simp, hrest⟩
      · have hne : name ≠ first := by
          rintro rfl
          exact hfirst (FileNode.mem_names_of_lookup hl)
        exact ⟨name, child, rest, by rw [FileNode.lookup_cons_eq_ite, if_neg hne, hl], hname, rfl, hrest⟩
    · rintro ⟨name, child, rest, hl, hname, rfl, hrest⟩
      rw [FileNode.lookup_cons_eq_ite] at hl
      by_cases hf : name = first
      · subst hf
        rw [if_pos rfl] at hl
        cases hl
        exact .inl ⟨hname, rest, by simp, hrest⟩
      · rw [if_neg hf] at hl
        exact .inr ⟨name, child, rest, hl, hname, rfl, hrest⟩
end

mutual
theorem nodup_filesBelow {node : FileNode} (hw : node.WellFormed) (root : String) (location : List String) :
    (filesBelow root location node).Nodup := by
  cases node with
  | file content => simp [filesBelow]
  | link target => simp [filesBelow]
  | directory entries =>
    rw [filesBelow]
    split
    · exact nodup_filesAmong hw.1 hw.2 root location
    · exact List.nodup_nil

theorem nodup_filesAmong {entries : List (String × FileNode)} (hd : (entries.map (·.1)).Nodup)
    (hw : FileNode.EntriesWellFormed entries) (root : String) (location : List String) :
    (filesAmong root location entries).Nodup := by
  cases entries with
  | nil => simp [filesAmong]
  | cons e others =>
    obtain ⟨first, node⟩ := e
    obtain ⟨hfirst, hd⟩ := List.nodup_cons.mp hd
    have hrest := nodup_filesAmong hd hw.2.2 root location
    by_cases hgit : first = versionControlName
    · simpa [filesAmong, hgit] using hrest
    · have hbelow := nodup_filesBelow hw.2.1 root (location ++ [first])
      rw [filesAmong, if_neg hgit, List.nodup_append]
      refine ⟨hbelow, hrest, ?_⟩
      rintro names hnames _ hothers rfl
      -- the names of both begin alike, but no two entries have one name
      obtain ⟨below, rfl, -⟩ := (mem_filesBelow_iff hw.2.1 _ _ _).mp hnames
      obtain ⟨name, child, rest, hl, -, heq, -⟩ := (mem_filesAmong_iff hd hw.2.2 _ _ _).mp hothers
      obtain ⟨rfl, -⟩ : first = name ∧ below = rest := by simpa using heq
      exact hfirst (FileNode.mem_names_of_lookup hl)
end

namespace FileTree

/-- The names lead from what is at a root, which is not the standard input, to a regular file there, neither through
links nor through version control data, and the directories on the way can be listed. -/
def HasFileAt (t : FileTree) (root : String) (names : List String) : Prop :=
  isStandardInput root = false ∧ ∃ location node, t.resolve root = .found location node ∧ LeadsToFile node names ∧
    CanReach root names

theorem mem_files_iff {t : FileTree} {root : String} {names : List String} :
    names ∈ t.files root ↔ t.HasFileAt root names := by
  have hold := t.resolve_holdsIn root
  unfold files HasFileAt
  cases ho : t.resolve root with
  | found location node =>
    rw [ho] at hold
    have hw : node.WellFormed := t.wellFormed.of_node? hold
    cases isStandardInput root <;> simp [mem_filesBelow_iff hw, pathBelow]
  | absent directory name => simp
  | link directory target rest => simp
  | failed e => simp

theorem nodup_files (t : FileTree) (root : String) : (t.files root).Nodup := by
  have hold := t.resolve_holdsIn root
  unfold files
  cases ho : t.resolve root with
  | found location node =>
    rw [ho] at hold
    have hw : node.WellFormed := t.wellFormed.of_node? hold
    dsimp only
    split
    · exact List.nodup_nil
    · exact (List.mergeSort_perm _ _).nodup_iff.mpr (nodup_filesBelow hw root [])
  | absent directory name => simp
  | link directory target rest => simp
  | failed e => simp

/-- Files are found as they are listed, if they are listed in their order. -/
theorem files_of_listed {t : FileTree} {root : String} {location : List String} {node : FileNode}
    {ways : List (List String)} (hroot : t.resolve root = .found location node)
    (hinput : isStandardInput root = false) (hlisted : filesBelow root [] node = ways)
    (horder : ways.Pairwise fun a b => precedes a b = true) : t.files root = ways := by
  rw [files, hroot]
  dsimp only
  rw [if_neg (by simp [hinput]), hlisted, List.mergeSort_of_pairwise horder]

theorem find_of_files {t : FileTree} {root : String} {ways : List (List String)} (h : t.files root = ways)
    (glob : String) :
    t.find root glob = (Glob.ofText glob).map fun g => (ways.filter (g.selects root)).map (pathBelow root) := by
  rw [find, h]
  cases Glob.ofText glob <;> rfl

end FileTree

/-! Paths of discovered files -/

theorem Step.ofSegment?_toList {s : String} (h : isEntryName s = true) : Step.ofSegment? s.toList = some (.name s) := by
  have hne (text : String) (hs : s ≠ text) : s.toList ≠ text.toList := fun he => hs (String.toList_injective he)
  simp only [isEntryName, Bool.and_eq_true, decide_eq_true_eq] at h
  obtain ⟨⟨⟨⟨hempty, hdot⟩, hdots⟩, -⟩, -⟩ := h
  have h1 : s.toList ≠ [] := hne "" hempty
  have h2 : s.toList ≠ ['.'] := hne "." hdot
  have h3 : s.toList ≠ ['.', '.'] := hne ".." hdots
  unfold Step.ofSegment?
  split <;> simp_all

theorem slash_not_mem_of_isEntryName {s : String} (h : isEntryName s = true) : '/' ∉ s.toList := by
  simp only [isEntryName, Bool.and_eq_true, Bool.not_eq_true'] at h
  simpa using h.1.2

theorem ne_empty_of_isEntryName {s : String} (h : isEntryName s = true) : s ≠ "" := by
  simp only [isEntryName, Bool.and_eq_true, decide_eq_true_eq] at h
  exact h.1.1.1.1

theorem isSpelling_of_isEntryName {s : String} (h : isEntryName s = true) : OsText.isSpelling s = true := by
  rw [isEntryName, Bool.and_eq_true] at h
  exact h.2

theorem isAbsolute_append {s : String} (hs : isEntryName s = true) (q : String) : Path.isAbsolute (s ++ q) = false := by
  have hne : s.toList ≠ [] := by simpa using ne_empty_of_isEntryName hs
  obtain ⟨c, rest, hcons⟩ := List.exists_cons_of_ne_nil hne
  have hc : c ≠ '/' := fun he => slash_not_mem_of_isEntryName hs (by simp [hcons, he])
  simp [Path.isAbsolute, hcons, hc]

theorem isAbsolute_of_isEntryName {s : String} (hs : isEntryName s = true) : Path.isAbsolute s = false := by
  simpa using isAbsolute_append hs ""

def separator (path : String) : List Char := if endsWithSlash path then [] else ['/']

theorem toList_join {path q : String} (hpath : path ≠ "") (hq : Path.isAbsolute q = false) :
    (Path.join path q).toList = path.toList ++ separator path ++ q.toList := by
  have hempty : path.isEmpty = false := by simpa using hpath
  rw [Path.join, if_neg (by simp [hq]), hempty, separator, endsWithSlash]
  by_cases hlast : path.toList.getLast? = some '/' <;> simp [hlast]

theorem join_cases {directory path : String} (hdirectory : directory ≠ "") (hpath : Path.isAbsolute path = false) :
    (∃ before, directory = before ++ "/" ∧ Path.join directory path = before ++ "/" ++ path) ∨
      (endsWithSlash directory = false ∧ Path.join directory path = directory ++ "/" ++ path) := by
  have hjoin := toList_join hdirectory hpath
  rw [separator] at hjoin
  cases hlast : endsWithSlash directory with
  | true =>
    obtain ⟨before, hbefore⟩ := List.getLast?_eq_some_iff.mp (by simpa [endsWithSlash] using hlast)
    have hdirectory' : directory = String.ofList before ++ "/" := String.toList_injective (by simpa using hbefore)
    refine .inl ⟨.ofList before, hdirectory', ?_⟩
    apply String.toList_injective
    rw [hjoin, hlast, hdirectory']
    simp
  | false =>
    refine .inr ⟨rfl, String.toList_injective ?_⟩
    rw [hjoin, hlast]
    simp

theorem isAbsolute_append_slash (before after : String) :
    Path.isAbsolute (before ++ "/" ++ after) = (before.isEmpty || Path.isAbsolute before) := by
  cases hbefore : before.toList with
  | nil => simp [String.toList_eq_nil_iff.mp hbefore, Path.isAbsolute]
  | cons c rest =>
    have hne : before ≠ "" := fun he => by simp [he] at hbefore
    simp [Path.isAbsolute, hbefore, hne]

theorem isAbsolute_slash (path : String) :
    Path.isAbsolute (path ++ "/") = (path.isEmpty || Path.isAbsolute path) := by
  simpa using isAbsolute_append_slash path ""

theorem segments_append_slash (before after : String) :
    Path.segments (before ++ "/" ++ after) = Path.segments before ++ Path.segments after := by
  have htext : (before ++ "/" ++ after).toList = before.toList ++ '/' :: after.toList := by simp
  rw [Path.segments, htext, Text.splitOn_append_cons, Path.segments, Path.segments]

theorem endsWithSlash_append {s : String} (hne : s ≠ "") (hslash : '/' ∉ s.toList) (before : String) :
    endsWithSlash (before ++ s) = false := by
  have hne' : s.toList ≠ [] := by simpa using hne
  rw [endsWithSlash, decide_eq_false_iff_not, String.toList_append, List.getLast?_append_of_ne_nil _ hne']
  exact fun hlast => hslash (List.mem_of_getLast? hlast)

theorem segments_join {path s : String} (hpath : path ≠ "") (hs : isEntryName s = true) :
    Path.segments (Path.join path s) = Path.segments path ++ [s.toList] ∨
      ∃ before, Path.segments path = before ++ [[]] ∧ Path.segments (Path.join path s) = before ++ [s.toList] := by
  have hname : Path.segments s = [s.toList] := Text.splitOn_of_not_mem (slash_not_mem_of_isEntryName hs)
  obtain ⟨before, hbefore, hjoin⟩ | ⟨-, hjoin⟩ := join_cases hpath (isAbsolute_of_isEntryName hs)
  · have hempty : Path.segments "" = [[]] := rfl
    refine .inr ⟨Path.segments before, ?_, by rw [hjoin, segments_append_slash, hname]⟩
    simpa [hbefore, hempty] using segments_append_slash before ""
  · exact .inl (by rw [hjoin, segments_append_slash, hname])

theorem namedSteps_join {path s : String} (hpath : path ≠ "") (hs : isEntryName s = true) :
    namedSteps (Path.join path s) = namedSteps path ++ [.name s] := by
  have hstep := Step.ofSegment?_toList hs
  obtain h | ⟨before, hbefore, h⟩ := segments_join hpath hs
  · simp [namedSteps, h, hstep]
  · have hnil : Step.ofSegment? [] = none := rfl
    simp [namedSteps, h, hbefore, hstep, hnil]

theorem endsWithSlash_join {path s : String} (hpath : path ≠ "") (hs : isEntryName s = true) :
    endsWithSlash (Path.join path s) = false := by
  have hend := endsWithSlash_append (ne_empty_of_isEntryName hs) (slash_not_mem_of_isEntryName hs)
  obtain ⟨before, -, hjoin⟩ | ⟨-, hjoin⟩ := join_cases hpath (isAbsolute_of_isEntryName hs) <;> rw [hjoin, hend]

theorem isAbsolute_join {path s : String} (hpath : path ≠ "") (hs : Path.isAbsolute s = false) :
    Path.isAbsolute (Path.join path s) = Path.isAbsolute path := by
  obtain ⟨before, rfl, hjoin⟩ | ⟨-, hjoin⟩ := join_cases hpath hs
  · rw [hjoin, isAbsolute_append_slash, isAbsolute_slash]
  · have hempty : path.isEmpty = false := by simpa using hpath
    rw [hjoin, isAbsolute_append_slash, hempty, Bool.false_or]

theorem join_ne_empty {path s : String} (hpath : path ≠ "") (hs : isEntryName s = true) :
    Path.join path s ≠ "" := by
  obtain ⟨before, -, hjoin⟩ | ⟨-, hjoin⟩ := join_cases hpath (isAbsolute_of_isEntryName hs) <;> simp [hjoin]

theorem pathBelow_steps {root : String} (hroot : root ≠ "") {names : List String}
    (hnames : ∀ s ∈ names, isEntryName s = true) :
    pathBelow root names ≠ "" ∧ Path.isAbsolute (pathBelow root names) = Path.isAbsolute root ∧
      namedSteps (pathBelow root names) = namedSteps root ++ names.map .name ∧
      (names ≠ [] → endsWithSlash (pathBelow root names) = false) := by
  induction names using List.reverseRecOn with
  | nil => simp [pathBelow, hroot]
  | append_singleton before s ih =>
    obtain ⟨hne, habsolute, hsteps, -⟩ := ih fun name h => hnames name (by simp [h])
    have hs : isEntryName s = true := hnames s (by simp)
    rw [pathBelow_concat]
    refine ⟨join_ne_empty hne hs, ?_, ?_, fun _ => endsWithSlash_join hne hs⟩
    · rw [isAbsolute_join hne (isAbsolute_of_isEntryName hs), habsolute]
    · rw [namedSteps_join hne hs, hsteps]
      simp

/-- Names that lead to a file are walked to it, unless one of them is too long. -/
theorem walk_names {top node : FileNode} {location names : List String} {content : ByteArray}
    (hnode : node? location top = some node) (hfile : node? names node = some (.file content)) :
    walk top location (names.map .name) = .found (location ++ names) (.file content) ∨
      ∃ e, walk top location (names.map .name) = .failed e := by
  induction names generalizing location node with
  | nil =>
    cases hfile
    exact .inl (by simp [walk, hnode])
  | cons s rest ih =>
    cases node with
    | file _ => cases hfile
    | link _ => cases hfile
    | directory entries =>
      obtain ⟨child, hl, hchild⟩ := Option.bind_eq_some_iff.mp hfile
      have hnext : node? (location ++ [s]) top = some child := (node?_concat hnode s).trans hl
      rw [List.map_cons, walk_name hnode, hnext]
      split
      · exact .inr ⟨_, rfl⟩
      · cases child with
        | link target => cases rest <;> cases hchild
        | file _ => simpa using ih hnext hchild
        | directory _ => simpa using ih hnext hchild

/-- The path of a file below a root leads to it, if it leads anywhere. -/
theorem FileTree.resolve_pathBelow {t : FileTree} {root : String} {location names : List String} {node : FileNode}
    {content : ByteArray} (hroot : t.resolve root = .found location node)
    (hfile : node? names node = some (.file content)) :
    t.resolve (pathBelow root names) = .found (location ++ names) (.file content) ∨
      ∃ e, t.resolve (pathBelow root names) = .failed e := by
  have hnode : node? location t.top = some node := by
    have hold := t.resolve_holdsIn root
    rwa [hroot] at hold
  cases names with
  | nil =>
    cases hfile
    exact .inl (by simpa [pathBelow] using hroot)
  | cons first rest =>
    obtain ⟨hempty, hfollow⟩ | ⟨e, he⟩ := t.resolve_cases root
    · have hnames : ∀ s ∈ first :: rest, isEntryName s = true := by
        have hw : node.WellFormed := t.wellFormed.of_node? hnode
        exact List.all_eq_true.mp (hw.all_isEntryName hfile)
      obtain ⟨-, habsolute, hsteps, hslash⟩ := pathBelow_steps hempty hnames
      have hstart : t.startOf (pathBelow root (first :: rest)) = t.startOf root := by rw [startOf, habsolute, startOf]
      have hfollow : follow t.top linkLimit (t.startOf root) (namedSteps root) = .found location node := by
        rw [hfollow, stepsOf] at hroot
        split at hroot
        · exact follow_of_append_here hroot
        · rwa [List.append_nil] at hroot
      obtain ⟨-, hbelow⟩ | hfailed := t.resolve_cases (pathBelow root (first :: rest))
      · have hall : stepsOf (pathBelow root (first :: rest)) = namedSteps root ++ (first :: rest).map .name := by
          simp [stepsOf, hsteps, hslash]
        have hwalk := walk_names hnode hfile
        rw [hbelow, hall, hstart, follow_append (by simp) hfollow]
        · exact hwalk
        · intro directory target more hlink
          rw [hlink] at hwalk
          simp at hwalk
      · exact .inr hfailed
    · rw [he] at hroot
      cases hroot

end RepoConventions.Files
