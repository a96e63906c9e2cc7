import RepoConventions.Proofs.Files.Discovery
import RepoConventions.Proofs.Rules.Report

/-!
# Procedures of files

A check may be given as a procedure for each file: a finite sequence of calls on the record of the file and of reads and
writes of the file itself, each of which may depend on what the steps before it gave. Steps of different files commute,
as long as the paths of the files do not lead to one file.
-/

namespace RepoConventions.Rules

open Files (FileTree FileError)
open Files.FileNode (node?)

inductive Action
  | call (c : Call)
  | readText
  | readProject
  | readWorkflow
  | writeText (text : String)

inductive Reply
  | marks (m : Marks)
  | text (read : Except FileError String)
  | project (read : Except Project.Error Project.Document)
  | workflow (read : Except Workflow.Error Workflow.Document)
  | written (e? : Option FileError)

def Action.perform (a : Action) (f : FileRecord) (t : FileTree) : Reply × FileRecord × FileTree :=
  match a with
  | call c => (.marks (f.note c.violation).marks, f.note c.violation, t)
  | readText => (.text (f.readText t), f, t)
  | readProject => (.project (f.project t).1, (f.project t).2, t)
  | readWorkflow => (.workflow (f.workflow t).1, (f.workflow t).2, t)
  | writeText text =>
    match t.replace f.fullPath text.toUTF8 with
    | (.ok (), t) => (.written none, f, t)
    | (.error e, t) => (.written (some e), f, t)

inductive Procedure
  | done
  | step (a : Action) (next : Reply → Procedure)

def Procedure.run : Procedure → FileRecord → FileTree → FileRecord × FileTree
  | done, f, t => (f, t)
  | step a next, f, t =>
    let (reply, f, t) := a.perform f t
    (next reply).run f t

def Check.ofProcedures (procedures : FileRecord → Procedure) : Check Unit := fun f t => ((), (procedures f).run f t)

/-! What a step changes -/

def rewritten (t : FileTree) : Option (List String × ByteArray) → FileTree
  | some (place, content) => t.putFile place content
  | none => t

/-- Where a step writes, and what; a file to which nothing can be written is emptied. -/
def Action.write? (a : Action) (f : FileRecord) (t : FileTree) : Option (List String × ByteArray) :=
  match a with
  | writeText text =>
    match t.fileLocation f.fullPath with
    | .ok place => some (place, if (t.writeFault place).isNone then text.toUTF8 else .empty)
    | .error _ => none
  | call _ | readText | readProject | readWorkflow => none

theorem Action.perform_tree (a : Action) (f : FileRecord) (t : FileTree) :
    (a.perform f t).2.2 = rewritten t (a.write? f t) := by
  cases a with
  | writeText text =>
    have hempty (h : text.toUTF8.isEmpty = true) : text.toUTF8 = .empty := by
      rw [← ByteArray.size_eq_zero_iff]
      simpa [ByteArray.isEmpty] using h
    cases hplace : t.fileLocation f.fullPath with
    | error e => simp only [perform, write?, FileTree.replace, hplace, rewritten]
    | ok place =>
      cases hfault : t.writeFault place with
      | none =>
        simp only [perform, write?, FileTree.replace, hplace, hfault, rewritten, ite_self, Option.isNone_none, if_true]
      | some e =>
        simp only [perform, write?, FileTree.replace, hplace, hfault, rewritten, Option.isNone_some,
          Bool.false_eq_true, if_false]
        cases htext : text.toUTF8.isEmpty with
        | true => simp only [if_true, hempty htext]
        | false => simp only [Bool.false_eq_true, if_false]
  | _ => rfl

theorem Action.perform_sameFile (a : Action) (f : FileRecord) (t : FileTree) : SameFile f (a.perform f t).2.1 := by
  cases a with
  | call c => exact .note f c.violation
  | readText => exact .refl f
  | readProject => exact .project f t
  | readWorkflow => exact .workflow f t
  | writeText text =>
    simp only [perform]
    split <;> exact SameFile.refl f

/-- At a path the same is read, and as much can be written. -/
structure SameAt (path : String) (t u : FileTree) : Prop where
  read : u.read path = t.read path
  place : u.fileLocation path = t.fileLocation path
  faults : u.writeFault = t.writeFault

/-- A step sees no more of a tree than the text at its own path and whether that can be written. -/
theorem Action.perform_congr (a : Action) (f : FileRecord) {t u : FileTree} (h : SameAt f.fullPath t u) :
    (a.perform f u).1 = (a.perform f t).1 ∧ (a.perform f u).2.1 = (a.perform f t).2.1 := by
  have htext : u.readText f.fullPath = t.readText f.fullPath := by rw [FileTree.readText, FileTree.readText, h.read]
  cases a with
  | call c => exact ⟨rfl, rfl⟩
  | readText => simp [perform, FileRecord.readText, htext]
  | readProject => simp [perform, FileRecord.project, Project.Document.load, htext]
  | readWorkflow => simp [perform, FileRecord.workflow, Workflow.Document.load, htext]
  | writeText text =>
    simp only [perform, FileTree.replace, h.place, h.faults]
    cases t.fileLocation f.fullPath with
    | error e => exact ⟨rfl, rfl⟩
    | ok place =>
      dsimp only
      generalize (if text.toUTF8.isEmpty then none else t.writeFault place) = fault
      cases fault <;> exact ⟨rfl, rfl⟩

/-! Steps of different files -/

/-- Two paths at which no file is to be made, and which never lead to one file. -/
structure AreApart (t : FileTree) (p q : String) : Prop where
  left : t.LeadsToNoGap p
  right : t.LeadsToNoGap q
  apart : ∀ place content content', t.resolve p = .found place (.file content) →
    t.resolve q ≠ .found place (.file content')

namespace AreApart

variable {t u : FileTree} {p q : String}

theorem symm (h : AreApart t p q) : AreApart t q p :=
  ⟨h.right, h.left, fun place content content' hq hp => h.apart place content' content hp hq⟩

theorem of_sameLayout (h : AreApart t p q) (hl : t.SameLayout u) : AreApart u p q := by
  refine ⟨hl.leadsToNoGap h.left, hl.leadsToNoGap h.right, ?_⟩
  have hback {path : String} {place : List String} {content : ByteArray}
      (hu : u.resolve path = .found place (.file content)) :
      ∃ content, t.resolve path = .found place (.file content) := by
    obtain ⟨place', content, _, ht, hu'⟩ | ⟨_, _, _, _, hu'⟩ | heq :=
      Files.Outcome.layout_eq_cases (hl.resolve path)
    · rw [hu] at hu'
      cases hu'
      exact ⟨content, ht⟩
    · rw [hu] at hu'
      cases hu'
    · exact ⟨content, heq.trans hu⟩
  intro place content content' hp hq
  obtain ⟨_, hp⟩ := hback hp
  obtain ⟨_, hq⟩ := hback hq
  exact h.apart place _ _ hp hq

end AreApart

/-- Paths of different files, all of them there. -/
structure AreSeparate (t : FileTree) (paths : List String) : Prop where
  gaps : ∀ p ∈ paths, t.LeadsToNoGap p
  apart : paths.Pairwise (AreApart t)

namespace AreSeparate

variable {t u : FileTree} {paths : List String}

theorem of_sameLayout (h : AreSeparate t paths) (hl : t.SameLayout u) : AreSeparate u paths :=
  ⟨fun p hp => hl.leadsToNoGap (h.gaps p hp), h.apart.imp fun hpq => hpq.of_sameLayout hl⟩

theorem of_find {root glob : String} (h : t.find root glob = .ok paths) : AreSeparate t paths := by
  obtain ⟨names, hnames, hnodup, rfl⟩ : ∃ names : List (List String),
      (∀ n ∈ names, n ∈ t.files root) ∧ names.Nodup ∧ paths = names.map (Files.pathBelow root) := by
    unfold FileTree.find at h
    cases hg : Files.Glob.ofText glob with
    | error e => simp [hg, bind, Except.bind] at h
    | ok g =>
      refine ⟨(t.files root).filter (g.selects root), fun n hn => (List.mem_filter.mp hn).1,
        (t.nodup_files root).filter _, ?_⟩
      simpa [hg, bind, Except.bind, pure, Except.pure, eq_comm] using h
  have hleads (n : List String) (hn : n ∈ names) : ∃ location node, t.resolve root = .found location node ∧
      ((∃ content, t.resolve (Files.pathBelow root n) = .found (location ++ n) (.file content)) ∨
        ∃ e, t.resolve (Files.pathBelow root n) = .failed e) := by
    obtain ⟨-, location, node, hroot, ⟨⟨content, hfile⟩, -⟩, -⟩ := FileTree.mem_files_iff.mp (hnames n hn)
    exact ⟨location, node, hroot, (FileTree.resolve_pathBelow hroot hfile).imp_left fun h => ⟨content, h⟩⟩
  have hgap (n : List String) (hn : n ∈ names) : t.LeadsToNoGap (Files.pathBelow root n) := by
    intro directory name habsent
    obtain ⟨location, node, -, ⟨content, h⟩ | ⟨e, h⟩⟩ := hleads n hn <;> simp [h] at habsent
  refine ⟨?_, ?_⟩
  · intro p hp
    obtain ⟨n, hn, rfl⟩ := List.mem_map.mp hp
    exact hgap n hn
  · rw [List.pairwise_map]
    refine (List.nodup_iff_pairwise_ne.mp hnodup).imp_of_mem ?_
    intro n m hn hm hne
    refine ⟨hgap n hn, hgap m hm, ?_⟩
    intro place content content' hplace hplace'
    obtain ⟨location, node, hroot, ⟨_, h⟩ | ⟨e, h⟩⟩ := hleads n hn
    · obtain ⟨location', node', hroot', ⟨_, h'⟩ | ⟨e, h'⟩⟩ := hleads m hm
      · rw [hroot] at hroot'
        cases hroot'
        rw [hplace] at h
        rw [hplace'] at h'
        cases h
        simp only [Files.Outcome.found.injEq, List.append_cancel_left_eq] at h'
        exact hne h'.1
      · simp [h'] at hplace'
    · simp [h] at hplace

theorem of_build {ctx : Context} {glob name : String} {failIfNone : Bool} {filters : List Filter} {r : Runner}
    (h : Runner.build t ctx glob name failIfNone filters = .ok r) :
    AreSeparate t (r.files.map FileRecord.fullPath) := by
  rw [Runner.build_eq] at h
  cases hs : surviving t ctx glob name failIfNone filters with
  | error e => simp [hs, Except.map] at h
  | ok files =>
    obtain rfl : ⟨name, ctx, files⟩ = r := by simpa [hs, Except.map] using h
    obtain ⟨paths, keeps, hpaths, hkeeps, rfl⟩ := surviving_eq_ok hs
    have hfound := of_find hpaths
    have hsub : (((paths.map (FileRecord.new ctx name)).filterMap (Keep.all keeps)).map
        FileRecord.fullPath).Sublist paths := by
      clear hpaths hs h hfound
      induction paths with
      | nil => simp
      | cons path rest ih =>
        rw [List.map_cons, List.filterMap_cons]
        cases hk : Keep.all keeps (FileRecord.new ctx name path) with
        | none => exact ih.cons path
        | some f =>
          have hpath : f.fullPath = path := (Keep.all_sameFile hkeeps hk).1.fullPath
          rw [List.map_cons, hpath]
          exact ih.cons_cons path
    exact ⟨fun p hp => hfound.gaps p (hsub.subset hp), hfound.apart.sublist hsub⟩

end AreSeparate

variable {t : FileTree} {f g : FileRecord} {place place' : List String} {content content' : ByteArray}

theorem Action.write?_found {a : Action} (hf : t.LeadsToNoGap f.fullPath) (h : a.write? f t = some (place, content)) :
    ∃ old, t.resolve f.fullPath = .found place (.file old) := by
  cases a with
  | writeText text =>
    cases hl : t.fileLocation f.fullPath with
    | error e => simp [write?, hl] at h
    | ok location =>
      obtain ⟨rfl, -⟩ : location = place ∧ _ = content := by simpa only [write?, hl, Option.some.injEq, Prod.mk.injEq] using h
      exact hf.found hl
  | _ => cases h

theorem Action.write?_congr {a : Action} {u : FileTree} (h : SameAt f.fullPath t u) :
    a.write? f u = a.write? f t := by
  cases a <;> simp [write?, h.place, h.faults]

theorem Action.perform_sameLayout (a : Action) (hf : t.LeadsToNoGap f.fullPath) :
    (a.perform f t).2.2.SameLayout t := by
  rw [a.perform_tree]
  cases hw : a.write? f t with
  | none => exact .refl t
  | some write =>
    obtain ⟨place, content⟩ := write
    obtain ⟨old, hold⟩ := Action.write?_found hf hw
    have hfile := t.resolve_holdsIn f.fullPath
    rw [hold] at hfile
    exact FileTree.sameLayout_putFile hfile content

theorem Procedure.run_sameLayout (p : Procedure) (hf : t.LeadsToNoGap f.fullPath) : (p.run f t).2.SameLayout t := by
  induction p generalizing f t with
  | done => exact .refl t
  | step a next ih =>
    have hstep := a.perform_sameLayout hf
    have hf' : (a.perform f t).2.2.LeadsToNoGap (a.perform f t).2.1.fullPath := by
      rw [(a.perform_sameFile f t).fullPath]
      exact hstep.symm.leadsToNoGap hf
    exact (ih _ hf').trans hstep

theorem Action.perform_writeFault (a : Action) (f : FileRecord) (t : FileTree) :
    (a.perform f t).2.2.writeFault = t.writeFault := by
  rw [a.perform_tree]
  cases a.write? f t with
  | none => rfl
  | some write => exact t.putFile_writeFault _ _

theorem Action.perform_apart (a : Action) {q : String} (h : AreApart t f.fullPath q) :
    SameAt q t (a.perform f t).2.2 := by
  have hl : t.SameLayout (a.perform f t).2.2 := (a.perform_sameLayout h.left).symm
  refine ⟨hl.read fun place content hq => ?_, (hl.fileLocation q).symm, a.perform_writeFault f t⟩
  have hfile : node? place t.top = some (.file content) := by
    have hold := t.resolve_holdsIn q
    rwa [hq] at hold
  rw [a.perform_tree]
  cases hw : a.write? f t with
  | none => exact hfile
  | some write =>
    obtain ⟨place', content'⟩ := write
    obtain ⟨old, hold⟩ := Action.write?_found h.left hw
    have hne : place ≠ place' := by
      rintro rfl
      exact h.apart place old content hold hq
    have htakes : t.Takes place' := by
      have hfile' := t.resolve_holdsIn f.fullPath
      rw [hold] at hfile'
      exact .of_file hfile'
    exact (FileTree.file_putFile_of_ne htakes content' content hne).mpr hfile

theorem putFile_comm {old old' : ByteArray} (h : node? place t.top = some (.file old))
    (h' : node? place' t.top = some (.file old')) (hne : place ≠ place') :
    (t.putFile place content).putFile place' content' = (t.putFile place' content').putFile place content := by
  have hfirst : node? place' (t.putFile place content).top = some (.file old') :=
    (FileTree.file_putFile_of_ne (.of_file h) content old' hne.symm).mpr h'
  have hfirst' : node? place (t.putFile place' content').top = some (.file old) :=
    (FileTree.file_putFile_of_ne (.of_file h') content' old hne).mpr h
  have hlayout : ((t.putFile place content).putFile place' content').SameLayout
      ((t.putFile place' content').putFile place content) :=
    ((FileTree.sameLayout_putFile hfirst content').trans (FileTree.sameLayout_putFile h content)).trans
      ((FileTree.sameLayout_putFile hfirst' content).trans (FileTree.sameLayout_putFile h' content')).symm
  apply hlayout.eq (by simp only [FileTree.putFile_writeFault])
  intro location found
  rw [FileTree.file_putFile_iff (.of_file hfirst), FileTree.file_putFile_iff (.of_file h),
    FileTree.file_putFile_iff (.of_file hfirst'), FileTree.file_putFile_iff (.of_file h')]
  by_cases hl : location = place'
  · simp [hl, hne.symm]
  · simp [hl]

theorem Action.perform_comm (a b : Action) (h : AreApart t f.fullPath g.fullPath) :
    (b.perform g (a.perform f t).2.2).2.2 = (a.perform f (b.perform g t).2.2).2.2 := by
  have hb : b.write? g (a.perform f t).2.2 = b.write? g t := Action.write?_congr (a.perform_apart h)
  have ha : a.write? f (b.perform g t).2.2 = a.write? f t := Action.write?_congr (b.perform_apart h.symm)
  have hfile {c : Action} {k : FileRecord} {place : List String} {content : ByteArray}
      (hk : t.LeadsToNoGap k.fullPath) (hw : c.write? k t = some (place, content)) :
      ∃ old, t.resolve k.fullPath = .found place (.file old) ∧ node? place t.top = some (.file old) := by
    obtain ⟨old, hold⟩ := Action.write?_found hk hw
    have hnode := t.resolve_holdsIn k.fullPath
    rw [hold] at hnode
    exact ⟨old, hold, hnode⟩
  rw [b.perform_tree, hb, a.perform_tree f (b.perform g t).2.2, ha, a.perform_tree, b.perform_tree]
  cases hwa : a.write? f t with
  | none => rfl
  | some write =>
    cases hwb : b.write? g t with
    | none => rfl
    | some write' =>
      obtain ⟨place, content⟩ := write
      obtain ⟨place', content'⟩ := write'
      obtain ⟨old, hfound, hnode⟩ := hfile h.left hwa
      obtain ⟨old', hfound', hnode'⟩ := hfile h.right hwb
      have hne : place ≠ place' := by
        rintro rfl
        exact h.apart place old old' hfound hfound'
      exact putFile_comm hnode hnode' hne

/-- A step with one file can be taken before or after a procedure for another. -/
theorem Procedure.run_perform_comm (p : Procedure) (a : Action) (h : AreApart t f.fullPath g.fullPath) :
    p.run g (a.perform f t).2.2 = ((p.run g t).1, (a.perform f (p.run g t).2).2.2) ∧
      (a.perform f (p.run g t).2).1 = (a.perform f t).1 ∧
      (a.perform f (p.run g t).2).2.1 = (a.perform f t).2.1 := by
  induction p generalizing g t with
  | done => exact ⟨rfl, rfl, rfl⟩
  | step b next ih =>
    obtain ⟨hreply, hrecord⟩ := b.perform_congr g (a.perform_apart h)
    obtain ⟨hreply', hrecord'⟩ := a.perform_congr f (b.perform_apart h.symm)
    have happart : AreApart (b.perform g t).2.2 f.fullPath (b.perform g t).2.1.fullPath := by
      rw [(b.perform_sameFile g t).fullPath]
      exact h.of_sameLayout (b.perform_sameLayout h.right).symm
    obtain ⟨hrun, hlater, hlater'⟩ := ih (b.perform g t).1 happart
    simp only [Procedure.run]
    rw [hreply, hrecord, a.perform_comm b h, hrun]
    exact ⟨rfl, hlater.trans hreply', hlater'.trans hrecord'⟩

end RepoConventions.Rules
