import RepoConventions.Proofs.Files.Relisting
import RepoConventions.Proofs.Rules.Builtin

/-!
# Which files a runner begins with

A glob finds each regular file below the root that it matches and that lies in directories which can be listed, once and
in the order of paths, however the directories are listed. What cannot be listed is passed over without a word. A runner
cannot be made just if it asks for files and none are found.
-/

namespace RepoConventions.Files

theorem Glob.text_of_ofText {glob : String} {g : Glob} (h : Glob.ofText glob = .ok g) : g.text = glob := by
  have hread : Glob.ofText? glob = some g := by
    unfold Glob.ofText at h
    split at h
    · next heq =>
      cases h
      exact heq
    · cases h
  unfold Glob.ofText? at hread
  obtain ⟨tokens, -, hg⟩ := Option.bind_eq_some_iff.mp hread
  split at hg <;> · cases hg; rfl

/-- A glob with a slash is held against the way from the root, any other against the name of the file, which is the last
on the way; a root that is a file itself has its own name. -/
def Glob.Matches (g : Glob) (root : String) (names : List String) : Prop :=
  if '/' ∈ g.text.toList then g.accepts ("/".intercalate names) = true
  else ∃ name, (names.getLast? <|> Path.fileName? root) = some name ∧ g.accepts name = true

theorem Glob.selects_iff_matches (g : Glob) {root : String} (hroot : root ≠ "") {names : List String}
    (hnames : ∀ s ∈ names, isEntryName s = true) : g.selects root names = true ↔ g.Matches root names := by
  have hname : Path.fileName? (pathBelow root names) = (names.getLast? <|> Path.fileName? root) := by
    cases names with
    | nil => rfl
    | cons first rest => rw [Path.fileName?_pathBelow hroot hnames (by simp), List.getLast?_cons]; rfl
  simp only [Glob.selects, Glob.Matches, hname, Glob.isForPaths, List.contains_iff_mem]
  split
  · rfl
  · exact Option.any_eq_true _ _

namespace FileTree

theorem find_eq_of_ofText (t : FileTree) (root : String) {glob : String} {g : Glob} (hg : Glob.ofText glob = .ok g) :
    t.find root glob = .ok (((t.files root).filter (g.selects root)).map (pathBelow root)) := by
  rw [find, hg]
  rfl

theorem mem_filter_files_iff {t : FileTree} {root : String} (g : Glob) {names : List String} :
    names ∈ (t.files root).filter (g.selects root) ↔ t.HasFileAt root names ∧ g.Matches root names := by
  rw [List.mem_filter]
  constructor
  · rintro ⟨hfile, hselects⟩
    obtain ⟨hroot, hnames⟩ := isEntryName_of_mem_files hfile
    exact ⟨mem_files_iff.mp hfile, (g.selects_iff_matches hroot hnames).mp hselects⟩
  · rintro ⟨hfile, hmatches⟩
    have hmem : names ∈ t.files root := mem_files_iff.mpr hfile
    obtain ⟨hroot, hnames⟩ := isEntryName_of_mem_files hmem
    exact ⟨hmem, (g.selects_iff_matches hroot hnames).mpr hmatches⟩

end FileTree

end RepoConventions.Files

namespace RepoConventions.Rules

open Files (FileNode FileTree Glob pathBelow)

/-- A glob that can be read finds exactly the regular files that it matches, each by one path, in strictly ascending
order and whatever the order in which directories are listed. A runner holds records of them, unless it asks for files
and there are none. -/
theorem Runner.discover_found (t : FileTree) (root : String) {glob : String} {g : Glob}
    (hg : Glob.ofText glob = .ok g) :
    g.text = glob ∧ ∃ found : List (List String),
      (∀ names, names ∈ found ↔ t.HasFileAt root names ∧ g.Matches root names) ∧
      t.find root glob = .ok (found.map (pathBelow root)) ∧
      (found.map (pathBelow root)).Nodup ∧
      (found.map (pathBelow root)).Pairwise Files.Path.Precedes ∧
      (∀ u, t.Relisted u → u.find root glob = t.find root glob) ∧
      ∀ (ctx : Context) (name : String) (failIfNone : Bool), ctx.root = root →
        (discover t ctx glob name failIfNone = .error (.noFilesFound glob) ↔ failIfNone = true ∧ found = []) ∧
        (¬ (failIfNone = true ∧ found = []) → discover t ctx glob name failIfNone =
          .ok ⟨name, ctx, (found.map (pathBelow root)).map (FileRecord.new ctx name)⟩) := by
  have hfind := t.find_eq_of_ofText root hg
  refine ⟨Glob.text_of_ofText hg, (t.files root).filter (g.selects root), fun names => FileTree.mem_filter_files_iff g,
    hfind, t.nodup_paths root _, t.pairwise_paths root _, fun u hu => (hu.find_eq root glob).symm, ?_⟩
  rintro ctx name failIfNone rfl
  rw [discover_eq hfind name failIfNone]
  generalize (t.files ctx.root).filter (g.selects ctx.root) = found
  have hnone : (failIfNone && (found.map (pathBelow ctx.root)).isEmpty) = true ↔ failIfNone = true ∧ found = [] := by
    simp
  split
  · next h => simp [hnone.mp h]
  · next h =>
    have hnot := hnone.not.mp h
    simp [hnot]

/-- A repository with a directory, a neighbour of it, a link and version control data. -/
private def neighbours : FileTree :=
  (((FileTree.empty.putFile ["r", ".git", "x.yml"] .empty).putLink ["r", "l.yml"] "a/x.yml").putFile
    ["r", "a", "x.yml"] .empty).putFile ["r", "a.b", "x.yml"] .empty

/-- The same, with the entries of the repository listed in another order. -/
private def neighboursRelisted : FileTree :=
  (((FileTree.empty.putFile ["r", "a.b", "x.yml"] .empty).putFile ["r", "a", "x.yml"] .empty).putLink ["r", "l.yml"]
    "a/x.yml").putFile ["r", ".git", "x.yml"] .empty

private theorem neighbours_relisted : neighbours.Relisted neighboursRelisted where
  top := by
    have hfile : FileNode.Relisted (.directory [("x.yml", .file .empty)]) (.directory [("x.yml", .file .empty)]) :=
      .directory (.cons (.file .empty) .nil) (.refl _)
    have hrepository : FileNode.EntriesRelisted [(".git", .directory [("x.yml", .file .empty)]),
        ("l.yml", .link "a/x.yml"), ("a", .directory [("x.yml", .file .empty)]),
        ("a.b", .directory [("x.yml", .file .empty)])] _ :=
      .cons hfile (.cons (.link "a/x.yml") (.cons hfile (.cons hfile .nil)))
    exact .directory (.cons (.directory hrepository (List.reverse_perm _).symm) .nil) (.refl _)
  workingDirectory := rfl

private theorem neighbours_files : neighbours.files "/r" = [["a", "x.yml"], ["a.b", "x.yml"]] :=
  FileTree.files_of_listed rfl rfl (by decide +kernel) (by decide +kernel)

/-- Of four entries with the name two are found, the directory before its neighbour, in either order of listing. -/
theorem Runner.discover_found_neighbours : ∃ g, Glob.ofText "*.yml" = .ok g ∧
    let paths := ["/r/a/x.yml", "/r/a.b/x.yml"]
    neighboursRelisted.find "/r" "*.yml" = .ok paths ∧ paths.Pairwise Files.Path.Precedes ∧
      ∀ ctx : Context, ctx.root = "/r" → discover neighbours ctx "*.yml" "shells" true =
        .ok ⟨"shells", ctx, paths.map (FileRecord.new ctx "shells")⟩ := by
  obtain ⟨g, hg, -⟩ := exists_glob_workflows
  have hpaths : neighbours.find "/r" "*.yml" = .ok ["/r/a/x.yml", "/r/a.b/x.yml"] := by
    rw [FileTree.find_of_files neighbours_files]
    rfl
  obtain ⟨-, found, -, hfound, -, hpairwise, hrelisted, hdiscover⟩ := discover_found neighbours "/r" hg
  have heq : found.map (pathBelow "/r") = ["/r/a/x.yml", "/r/a.b/x.yml"] :=
    Except.ok.inj (hfound.symm.trans hpaths)
  have hne : ¬ (true = true ∧ found = []) := by
    rintro ⟨-, rfl⟩
    cases heq
  refine ⟨g, hg, (hrelisted _ neighbours_relisted).trans hpaths, heq ▸ hpairwise, fun ctx hctx => ?_⟩
  rw [(hdiscover ctx "shells" true hctx).2 hne, heq]

/-- The root of a repository, with a number of dots after it. -/
private def dotted : Nat → String
  | 0 => "/r"
  | n + 1 => dotted n ++ "/" ++ "."

private theorem dotted_facts (n : Nat) :
    Files.OsText.size (dotted n) = 2 * n + 2 ∧ (Files.OsText.octets (dotted n)).contains 0 = false ∧
      Files.Path.isAbsolute (dotted n) = true ∧ Files.endsWithSlash (dotted n) = false ∧
      Files.namedSteps (dotted n) = .name "r" :: List.replicate n .here := by
  have hdot : Files.Path.segments "." = [['.']] := rfl
  induction n with
  | zero => decide +kernel
  | succ n ih =>
    obtain ⟨hsize, hzero, habsolute, hend, hsteps⟩ := ih
    have hslash : ¬ 0 = Files.OsText.slashOctet := by decide
    have hone : Files.OsText.octets "." = [0x2E] := by decide
    refine ⟨?_, ?_, ?_, ?_, ?_⟩
    · rw [dotted, Files.OsText.size_append_slash, hsize, Files.OsText.size, hone]
      rfl
    · rw [dotted, Files.OsText.octets_append_slash, hone]
      simpa [hslash] using hzero
    · rw [dotted, Files.isAbsolute_append_slash, habsolute, Bool.or_true]
    · exact Files.endsWithSlash_append (by decide) (by decide) _
    · rw [dotted, Files.namedSteps, Files.segments_append_slash, List.filterMap_append, ← Files.namedSteps, hsteps, hdot]
      have hhere : List.replicate (n + 1) Files.Step.here = List.replicate n .here ++ [.here] := List.replicate_succ'
      rw [hhere]
      rfl

/-- A repository with a file beside a directory with another. -/
private def buried : FileTree :=
  (FileTree.empty.putFile ["r", "a.yml"] .empty).putFile ["r", "d", "b.yml"] .empty

private def buriedRoot : FileNode :=
  .directory [("a.yml", .file .empty), ("d", .directory [("b.yml", .file .empty)])]

private theorem buried_resolve (n : Nat) (hn : 2 * n + 2 < Files.pathLimit) :
    buried.resolve (dotted n) = .found ["r"] buriedRoot := by
  obtain ⟨hsize, hzero, habsolute, hend, hsteps⟩ := dotted_facts n
  have hempty : (dotted n).isEmpty = false := by cases n <;> simp [dotted]
  have hlimit : ¬ Files.OsText.size (dotted n) ≥ Files.pathLimit := by omega
  have hstay (n : Nat) : Files.walk buried.top ["r"] (List.replicate n .here) = .found ["r"] buriedRoot := by
    induction n with
    | zero => rfl
    | succ n ih => exact ih
  have hwalk : Files.walk buried.top [] (.name "r" :: List.replicate n .here) = .found ["r"] buriedRoot := hstay n
  have hstart : buried.startOf (dotted n) = [] := by rw [FileTree.startOf, habsolute]; rfl
  have hall : Files.stepsOf (dotted n) = .name "r" :: List.replicate n .here := by
    rw [Files.stepsOf, hsteps, hend]
    exact List.append_nil _
  rw [FileTree.resolve, FileTree.resolveSteps, hzero, hempty, if_neg (by simp), if_neg (by simp), if_neg hlimit, hall,
    hstart, Files.follow_of_not_link (by simp [hwalk]), hwalk]

/-- A regular file below a directory whose path is too long to be listed is not found: its directory is passed over. -/
theorem Runner.discover_misses_unlistable :
    ¬ ∀ (t : FileTree) (root glob : String) (g : Glob), Glob.ofText glob = .ok g →
      ∃ found : List (List String), t.find root glob = .ok (found.map (pathBelow root)) ∧
        ∀ names, names ∈ found ↔
          (∃ location node, t.resolve root = .found location node ∧ Files.LeadsToFile node names) ∧
            g.Matches root names := by
  intro hall
  obtain ⟨g, hg, -, haccepts⟩ := exists_glob_workflows
  -- so many dots that the path of the root can be listed, but none of two octets more
  obtain ⟨n, hn⟩ : ∃ n, 2 * n + 4 = Files.pathLimit := ⟨2046, rfl⟩
  obtain ⟨hsize, -, -, hend, -⟩ := dotted_facts n
  obtain ⟨found, hfound, hmem⟩ := hall buried (dotted n) "*.yml" g hg
  have hmatches : g.Matches (dotted n) ["d", "b.yml"] := by
    have hfile : Files.Path.fileName? "b.yml" = some "b.yml" := by decide
    obtain ⟨name, hname, haccept⟩ := (haccepts "b.yml").mpr ⟨"b.yml", hfile, by decide⟩
    obtain rfl : "b.yml" = name := Option.some.inj (hfile.symm.trans hname)
    rw [Glob.Matches, Glob.text_of_ofText hg]
    exact ⟨"b.yml", rfl, haccept⟩
  have hroot := buried_resolve n (by omega)
  have hleads : Files.LeadsToFile buriedRoot ["d", "b.yml"] := ⟨⟨.empty, rfl⟩, by decide⟩
  have hin : ["d", "b.yml"] ∈ found := (hmem _).mpr ⟨⟨_, _, hroot, hleads⟩, hmatches⟩
  rw [buried.find_eq_of_ofText _ hg, Except.ok.injEq] at hfound
  have hpath := List.mem_map_of_mem (f := pathBelow (dotted n)) hin
  rw [← hfound] at hpath
  obtain ⟨names, hselected, heq⟩ := List.mem_map.mp hpath
  obtain ⟨hat, -⟩ := (FileTree.mem_filter_files_iff g).mp hselected
  obtain ⟨hne, hentries⟩ := FileTree.isEntryName_of_mem_files (FileTree.mem_files_iff.mpr hat)
  obtain rfl := Files.Path.pathBelow_injective hne hentries (by decide) heq
  obtain ⟨-, -, -, -, -, hreach⟩ := hat
  have hlist : Files.canList (Files.Path.join (dotted n) "d") = true := hreach ["d"] ⟨["b.yml"], rfl⟩ (by decide)
  obtain ⟨before, hbefore, -⟩ | ⟨-, hjoin⟩ := Files.join_cases hne (by decide : Files.Path.isAbsolute "d" = false)
  · simp [hbefore, Files.endsWithSlash] at hend
  · have hone : Files.OsText.size "d" = 1 := by decide
    rw [Files.canList, hjoin, Files.OsText.size_append_slash, hsize, hone, decide_eq_true_eq] at hlist
    omega

end RepoConventions.Rules
