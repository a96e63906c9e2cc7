import RepoConventions.Proofs.Rules.Calls
import RepoConventions.Proofs.Rules.Narrowing

/-!
# What a record has read

A record reads each of its documents once, when a check or a filter first asks for it. What was read then stays, failures
included, whatever becomes of the file. The text of the file is read anew each time.
-/

namespace RepoConventions.Rules

open Files (FileError FileTree)

/-- What happens in the life of a record: the tree changes, a check calls or reads, a filter decides about the record. -/
inductive Use
  | edit (change : FileTree → FileTree)
  | call (c : Call)
  | readText
  | project
  | workflow
  | filter (repoPackable : Option Bool) (filter : Filter)

inductive Answer
  | nothing
  | text (read : Except FileError String)
  | project (read : Except Project.Error Project.Document)
  | workflow (read : Except Workflow.Error Workflow.Document)

namespace Answer

def project? : Answer → Option (Except Project.Error Project.Document)
  | project read => some read
  | nothing | text _ | workflow _ => none

def workflow? : Answer → Option (Except Workflow.Error Workflow.Document)
  | workflow read => some read
  | nothing | text _ | project _ => none

end Answer

/-- One use of a record: what it gives, the record after it, unless a filter drops it, and the tree. -/
def FileRecord.use (f : FileRecord) (t : FileTree) : Use → Answer × Option FileRecord × FileTree
  | .edit change => (.nothing, some f, change t)
  | .call c => (.nothing, some (f.note c.violation), t)
  | .readText => (.text (f.readText t), some f, t)
  | .project => (.project (f.project t).1, some (f.project t).2, t)
  | .workflow => (.workflow (f.workflow t).1, some (f.workflow t).2, t)
  | .filter repoPackable filter =>
    let answer := if filter.readsProjects then .project (f.project t).1 else .nothing
    match filter.keep t repoPackable with
    | .ok keep => (answer, keep f, t)
    | .error _ => (.nothing, none, t)

structure Moment where
  tree : FileTree
  answer : Answer

/-- The uses of a record one after the other, up to the filter that drops it. -/
def FileRecord.history (f : FileRecord) (t : FileTree) : List Use → List Moment
  | [] => []
  | u :: rest =>
    ⟨t, (f.use t u).1⟩ :: match (f.use t u).2.1 with
      | some g => g.history (f.use t u).2.2 rest
      | none => []

/-! One use -/

theorem FileRecord.use_filter (f : FileRecord) (t : FileTree) (packable : Option Bool) (filter : Filter) :
    ∃ u, (u = .project ∨ u = .edit id) ∧ (f.use t (.filter packable filter)).1 = (f.use t u).1 ∧
      ∀ g, (f.use t (.filter packable filter)).2.1 = some g → (f.use t u).2.1 = some g := by
  cases hkeep : filter.keep t packable with
  | error e => exact ⟨.edit id, .inr rfl, by simp [use, hkeep], by simp [use, hkeep]⟩
  | ok keep =>
    have hleft (g : FileRecord) (hg : (f.use t (.filter packable filter)).2.1 = some g) :
        g = if filter.readsProjects then (f.project t).2 else f :=
      filter.eq_of_keep hkeep (by simpa [use, hkeep] using hg)
    cases hreads : filter.readsProjects with
    | true =>
      refine ⟨.project, .inl rfl, by simp [use, hkeep, hreads], fun g hg => ?_⟩
      rw [hleft g hg, hreads]
      rfl
    | false =>
      refine ⟨.edit id, .inr rfl, by simp [use, hkeep, hreads], fun g hg => ?_⟩
      rw [hleft g hg, hreads]
      rfl

theorem FileRecord.use_sameFile {f g : FileRecord} {t : FileTree} {u : Use} (h : (f.use t u).2.1 = some g) :
    SameFile f g := by
  cases u with
  | edit | readText => cases h; exact .refl f
  | call c => cases h; exact .note f c.violation
  | project => cases h; exact .project f t
  | workflow => cases h; exact .workflow f t
  | filter packable filter =>
    obtain ⟨u, rfl | rfl, -, hleft⟩ := f.use_filter t packable filter
    · cases hleft g h; exact .project f t
    · cases hleft g h; exact .refl f

/-- A document that records keep: where they hold it, what shows it, and how it is read. -/
structure Kept (α : Type) where
  held? : FileRecord → Option α
  shown? : Answer → Option α
  load : FileTree → String → α

def Kept.project : Kept (Except Project.Error Project.Document) := ⟨(·.projectRead), (·.project?), Project.Document.load⟩

def Kept.workflow : Kept (Except Workflow.Error Workflow.Document) :=
  ⟨(·.workflowRead), (·.workflow?), Workflow.Document.load⟩

/-- A use shows what is held, and reads the file only where nothing is; what was shown is held from then on. -/
structure Kept.IsReadOnce {α : Type} (k : Kept α) : Prop where
  shown {f : FileRecord} {t : FileTree} {u : Use} {read : α} (h : k.shown? (f.use t u).1 = some read) :
    read = (k.held? f).getD (k.load t f.fullPath)
  held {f g : FileRecord} {t : FileTree} {u : Use} (h : (f.use t u).2.1 = some g) :
    k.held? g = (k.shown? (f.use t u).1).or (k.held? f)

theorem FileRecord.held_note (f : FileRecord) (v : Violation) :
    (f.note v).projectRead = f.projectRead ∧ (f.note v).workflowRead = f.workflowRead := by
  unfold note
  split <;> exact ⟨rfl, rfl⟩

theorem Kept.project_isReadOnce : Kept.project.IsReadOnce := by
  constructor
  case shown =>
    intro f t u read h
    cases u with
    | edit | call | readText | workflow => cases h
    | project => exact (Option.some.inj h).symm
    | filter packable filter =>
      obtain ⟨u, rfl | rfl, hanswer, -⟩ := f.use_filter t packable filter <;> rw [hanswer] at h
      · exact (Option.some.inj h).symm
      · cases h
  case held =>
    intro f g t u h
    cases u with
    | edit | readText | project | workflow => cases h; rfl
    | call c => cases h; exact (f.held_note c.violation).1
    | filter packable filter =>
      obtain ⟨u, rfl | rfl, hanswer, hleft⟩ := f.use_filter t packable filter <;>
        · rw [hanswer]; cases hleft g h; rfl

theorem Kept.workflow_isReadOnce : Kept.workflow.IsReadOnce := by
  constructor
  case shown =>
    intro f t u read h
    cases u with
    | edit | call | readText | project => cases h
    | workflow => exact (Option.some.inj h).symm
    | filter packable filter =>
      obtain ⟨u, rfl | rfl, hanswer, -⟩ := f.use_filter t packable filter <;> · rw [hanswer] at h; cases h
  case held =>
    intro f g t u h
    cases u with
    | edit | readText | project | workflow => cases h; rfl
    | call c => cases h; exact (f.held_note c.violation).2
    | filter packable filter =>
      obtain ⟨u, rfl | rfl, hanswer, hleft⟩ := f.use_filter t packable filter <;>
        · rw [hanswer]; cases hleft g h; rfl

/-! A whole life -/

section Life

variable {f : FileRecord} {t : FileTree} {u : Use} {uses : List Use} {m : Moment}

theorem FileRecord.mem_history_cons (h : m ∈ f.history t (u :: uses)) :
    m = ⟨t, (f.use t u).1⟩ ∨
      ∃ g, (f.use t u).2.1 = some g ∧ m ∈ g.history (f.use t u).2.2 uses ∧
        f.history t (u :: uses) = ⟨t, (f.use t u).1⟩ :: g.history (f.use t u).2.2 uses := by
  rw [history] at h ⊢
  refine (List.mem_cons.mp h).imp_right fun h => ?_
  split at h
  · next g hg => exact ⟨g, hg, h, rfl⟩
  · cases h

/-- What is shown of a document is what was held at first, or else what the first moment that shows it has read. -/
theorem Kept.IsReadOnce.history {α : Type} {k : Kept α} (hk : k.IsReadOnce) {first : Moment} {read : α}
    (hfirst : (f.history t uses).find? (fun m => (k.shown? m.answer).isSome) = some first)
    (hm : m ∈ f.history t uses) (hread : k.shown? m.answer = some read) :
    read = (k.held? f).getD (k.load first.tree f.fullPath) := by
  induction uses generalizing f t first with
  | nil => cases hm
  | cons u rest ih =>
    cases hshown : k.shown? (f.use t u).1 with
    | some here =>
      obtain rfl : ⟨t, (f.use t u).1⟩ = first := by
        rw [FileRecord.history, List.find?_cons_of_pos (by simp [hshown])] at hfirst
        exact Option.some.inj hfirst
      obtain rfl | ⟨g, hg, hm, -⟩ := FileRecord.mem_history_cons hm
      · exact hk.shown hread
      · have hheld : k.held? g = some here := by rw [hk.held hg, hshown, Option.some_or]
        have hlater : ∃ later, (g.history (f.use t u).2.2 rest).find? (fun m => (k.shown? m.answer).isSome) =
            some later := Option.isSome_iff_exists.mp (List.find?_isSome.mpr ⟨m, hm, by rw [hread]; rfl⟩)
        obtain ⟨later, hlater⟩ := hlater
        have heq : read = here := by rw [ih hlater hm, hheld, Option.getD_some]
        exact heq.trans (hk.shown hshown)
    | none =>
      obtain rfl | ⟨g, hg, hm, hhistory⟩ := FileRecord.mem_history_cons hm
      · exact absurd (hshown.symm.trans hread) (by simp)
      · rw [hhistory, List.find?_cons_of_neg (by simp [hshown])] at hfirst
        have hheld : k.held? g = k.held? f := by rw [hk.held hg, hshown, Option.none_or]
        rw [← hheld, ← (FileRecord.use_sameFile hg).fullPath]
        exact ih hfirst hm

theorem FileRecord.history_text {read : Except FileError String} (hm : m ∈ f.history t uses)
    (hread : m.answer = .text read) : read = m.tree.readText f.fullPath := by
  induction uses generalizing f t with
  | nil => cases hm
  | cons u rest ih =>
    obtain rfl | ⟨g, hg, hm, -⟩ := mem_history_cons hm
    · cases u with
      | readText => cases hread; rfl
      | edit | call | project | workflow => cases hread
      | filter packable filter =>
        obtain ⟨u, rfl | rfl, hanswer, -⟩ := f.use_filter t packable filter <;>
          cases hanswer.symm.trans hread
    · rw [← (use_sameFile hg).fullPath]
      exact ih hm

end Life

/-- In every life of a record, whatever happens to the tree, all that it shows as its project is what the file held when
the project was first asked for, by a check or by a filter, and so for its workflow, each for itself. Its text is at
every moment that of the file at this moment. -/
theorem FileRecord.history_reads (ctx : Context) (rule path : String) (t : FileTree) (uses : List Use) :
    let moments := (FileRecord.new ctx rule path).history t uses
    (∀ first, moments.find? (·.answer.project?.isSome) = some first →
      ∀ m ∈ moments, ∀ read, m.answer = .project read → read = Project.Document.load first.tree path) ∧
    (∀ first, moments.find? (·.answer.workflow?.isSome) = some first →
      ∀ m ∈ moments, ∀ read, m.answer = .workflow read → read = Workflow.Document.load first.tree path) ∧
    ∀ m ∈ moments, ∀ read, m.answer = .text read → read = m.tree.readText path := by
  intro moments
  refine ⟨fun first hfirst m hm read hread => ?_, fun first hfirst m hm read hread => ?_, fun m hm read hread => ?_⟩
  · exact Kept.project_isReadOnce.history hfirst hm (by rw [hread]; rfl)
  · exact Kept.workflow_isReadOnce.history hfirst hm (by rw [hread]; rfl)
  · -- a fresh record stands for the path that it was made with
    have htext := history_text hm hread
    exact htext

/-- A file that is no project at first is none for its record when it has become one. -/
example :
    let write (text : String) : Use := .edit fun t => t.putFile ["A"] text.toUTF8
    let moments := (FileRecord.new ⟨.ofRoot "/", .empty, none⟩ "naming" "/A").history .empty
      [write "<a", .project, write "<a/>", .project, .readText]
    moments.map (fun m => (m.answer.project?.map (·.isOk), (Project.Document.load m.tree "/A").isOk)) =
      [(none, false), (some false, false), (none, false), (some false, true), (none, true)] := by
  decide +kernel

end RepoConventions.Rules
