import RepoConventions.Proofs.Rules.Builtin
import RepoConventions.Proofs.Rules.Selection

/-!
# Rules at work beside each other

A built-in rule looks for its files, checks one after the other and sums up. Rules that work at the same time take such
steps in any order on one session. As no step of theirs changes it, each of them ends as it does alone.
-/

namespace RepoConventions.Rules

open Files (FileTree)

/-- What a rule consists of: how it looks for files and how it checks one. -/
structure Parts where
  runner : Context → FileTree → Except RuleError Runner
  check : Check Unit

/-- How far a rule has come: it is to look for files, it has some that are checked and some that are not, or it has
ended. -/
inductive Stage
  | looking
  | checking (runner : Runner) (checked left : List FileRecord)
  | ended (outcome : Outcome)

namespace Parts

def sumUp (r : Runner) (checked : List FileRecord) (s : Session) : Outcome × Session :=
  let report := Runner.report r.name checked
  let (_, w, t) := s.warnings.add s.tree r.name report.warnings
  (.ok report, ⟨w, t⟩)

def step (p : Parts) (ctx : Context) (s : Session) : Stage → Stage × Session
  | .looking =>
    match p.runner ctx s.tree with
    | .ok r => (.checking r [] r.files, s)
    | .error e => (.ended (.error e), s)
  | .checking r checked (f :: left) =>
    let (_, g, t) := p.check f s.tree
    (.checking r (checked ++ [g]) left, { s with tree := t })
  | .checking r checked [] =>
    let (outcome, s) := sumUp r checked s
    (.ended outcome, s)
  | .ended outcome => (.ended outcome, s)

/-- The outcome of a rule that goes on alone, and the session after it. -/
def finish (p : Parts) (ctx : Context) (s : Session) : Stage → Outcome × Session
  | .looking => reportOf (p.runner ctx s.tree) p.check s
  | .checking r checked left =>
    let (done, t) := Runner.checkAll p.check left s.tree
    sumUp r (checked ++ done.map (·.2)) { s with tree := t }
  | .ended outcome => (outcome, s)

def stepsLeft (p : Parts) (ctx : Context) (s : Session) : Stage → Nat
  | .looking =>
    match p.runner ctx s.tree with
    | .ok r => r.files.length + 2
    | .error _ => 1
  | .checking _ _ left => left.length + 1
  | .ended _ => 0

theorem finish_step (p : Parts) (ctx : Context) (s : Session) (stage : Stage) :
    p.finish ctx (p.step ctx s stage).2 (p.step ctx s stage).1 = p.finish ctx s stage := by
  cases stage with
  | ended outcome => rfl
  | looking =>
    simp only [step, finish]
    cases p.runner ctx s.tree with
    | error e => rfl
    | ok r => rfl
  | checking r checked left =>
    cases left with
    | nil => simp [step, finish, sumUp, Runner.checkAll]
    | cons f left => simp [step, finish, Runner.checkAll]

theorem step_session {p : Parts} {ctx : Context} {s : Session} {stage : Stage}
    (hcheck : ∀ f t, (p.check f t).2.2 = t) (hend : (p.finish ctx s stage).2 = s) :
    (p.step ctx s stage).2 = s := by
  cases stage with
  | ended outcome => rfl
  | looking =>
    simp only [step]
    cases p.runner ctx s.tree <;> rfl
  | checking r checked left =>
    cases left with
    | nil => simpa [step, finish, Runner.checkAll] using hend
    | cons f left => simp [step, hcheck]

theorem stepsLeft_step {p : Parts} {ctx : Context} {s : Session} {stage : Stage}
    (hsession : (p.step ctx s stage).2 = s) :
    p.stepsLeft ctx s (p.step ctx s stage).1 = p.stepsLeft ctx s stage - 1 := by
  cases stage with
  | ended outcome => rfl
  | looking =>
    simp only [step, stepsLeft]
    cases p.runner ctx s.tree <;> rfl
  | checking r checked left =>
    cases left with
    | nil => rfl
    | cons f left => rfl

theorem eq_ended_of_stepsLeft {p : Parts} {ctx : Context} {s : Session} {stage : Stage}
    (h : p.stepsLeft ctx s stage = 0) : stage = .ended (p.finish ctx s stage).1 := by
  cases stage with
  | ended outcome => rfl
  | looking =>
    simp only [stepsLeft] at h
    split at h <;> cases h
  | checking r checked left => cases h

end Parts

/-! Working together -/

/-- Rules at work, each with how far it has come, and the session that they share. -/
structure Crew where
  members : List (Parts × Stage)
  session : Session

namespace Crew

def start (parts : List Parts) (s : Session) : Crew := ⟨parts.map fun p => (p, .looking), s⟩

def turn (ctx : Context) (c : Crew) (i : Nat) : Crew :=
  match c.members[i]? with
  | some (p, stage) =>
    ⟨c.members.set i (p, (p.step ctx c.session stage).1), (p.step ctx c.session stage).2⟩
  | none => c

def after (ctx : Context) (c : Crew) (turns : List Nat) : Crew := turns.foldl (turn ctx) c

/-- After some turns the session is as it was, and every rule has only come nearer to the end that it has alone. -/
structure OnCourse (ctx : Context) (s : Session) (parts : List Parts) (turns : List Nat) (c : Crew) : Prop where
  session : c.session = s
  member : ∀ i p, parts[i]? = some p → ∃ stage, c.members[i]? = some (p, stage) ∧
    p.finish ctx s stage = p.finish ctx s .looking ∧
    p.stepsLeft ctx s stage = p.stepsLeft ctx s .looking - turns.count i
  length : c.members.length = parts.length

variable {ctx : Context} {s : Session} {parts : List Parts} {turns : List Nat} {c : Crew}

theorem onCourse_start (ctx : Context) (s : Session) (parts : List Parts) :
    OnCourse ctx s parts [] (start parts s) where
  session := rfl
  member i p hp := ⟨.looking, by simp [start, hp], rfl, rfl⟩
  length := by simp [start]

theorem OnCourse.turn (h : OnCourse ctx s parts turns c) (hcheck : ∀ p ∈ parts, ∀ f t, (p.check f t).2.2 = t)
    (hend : ∀ p ∈ parts, (p.finish ctx s .looking).2 = s) (i : Nat) :
    OnCourse ctx s parts (turns ++ [i]) (c.turn ctx i) := by
  have hcount (j : Nat) : (turns ++ [i]).count j = turns.count j + if i = j then 1 else 0 := by
    rw [List.count_append, List.count_singleton]
    simp
  cases hi : parts[i]? with
  | none =>
    have hnone : c.members[i]? = none := by
      rw [List.getElem?_eq_none_iff, h.length]
      exact List.getElem?_eq_none_iff.mp hi
    have hsame : c.turn ctx i = c := by rw [Crew.turn, hnone]
    rw [hsame]
    refine ⟨h.session, fun j p hj => ?_, h.length⟩
    have hne : i ≠ j := by
      rintro rfl
      cases hi.symm.trans hj
    rw [hcount, if_neg hne]
    exact h.member j p hj
  | some p =>
    have hp : p ∈ parts := List.mem_of_getElem? hi
    obtain ⟨stage, hstage, hfinish, hleft⟩ := h.member i p hi
    have hstep : (p.step ctx s stage).2 = s := Parts.step_session (hcheck p hp) (hfinish ▸ hend p hp)
    have hturn : c.turn ctx i = ⟨c.members.set i (p, (p.step ctx s stage).1), s⟩ := by
      rw [Crew.turn, hstage]
      simp only [h.session, hstep]
    rw [hturn]
    refine ⟨rfl, fun j q hj => ?_, by simp [h.length]⟩
    rw [hcount]
    by_cases hij : i = j
    · subst hij
      cases hi.symm.trans hj
      have hlength : i < c.members.length := (List.getElem?_eq_some_iff.mp hstage).1
      refine ⟨(p.step ctx s stage).1, by simp [hlength], ?_, ?_⟩
      · have hsame := p.finish_step ctx s stage
        rw [hstep] at hsame
        exact hsame.trans hfinish
      · rw [Parts.stepsLeft_step hstep, hleft, if_pos rfl, Nat.sub_sub]
    · obtain ⟨other, hother, hrest⟩ := h.member j q hj
      exact ⟨other, by simp [hij, hother], by simpa [hij] using hrest⟩

theorem onCourse_after (hcheck : ∀ p ∈ parts, ∀ f t, (p.check f t).2.2 = t)
    (hend : ∀ p ∈ parts, (p.finish ctx s .looking).2 = s) (turns : List Nat) :
    OnCourse ctx s parts turns ((start parts s).after ctx turns) := by
  induction turns using List.reverseRecOn with
  | nil => exact onCourse_start ctx s parts
  | append_singleton turns i ih =>
    rw [after, List.foldl_append]
    exact ih.turn hcheck hend i

end Crew

/-! Built-in rules -/

def BuiltinRule.parts (r : BuiltinRule) : Parts :=
  if r.id = workflowDefaultShell.id then ⟨fun ctx t => shellRunner t ctx r.id, shellCheck⟩
  else ⟨fun ctx t => Runner.discover t ctx "GlobalSuppressions.cs" r.id false, failCheck⟩

theorem BuiltinRule.run_eq_finish {r : BuiltinRule} (hr : r ∈ builtinRules) (ctx : Context) (s : Session) :
    r.run ctx s = r.parts.finish ctx s .looking := by
  simp only [builtinRules, List.mem_cons, List.not_mem_nil, or_false] at hr
  rcases hr with rfl | rfl <;> rfl

theorem BuiltinRule.check_tree {r : BuiltinRule} (f : FileRecord) (t : FileTree) : (r.parts.check f t).2.2 = t := by
  unfold parts
  split
  · exact shellCheck_onlyFails.tree f t
  · exact failCheck_onlyFails.tree f t

def Crew.afterTurns (ctx : Context) (rules : List BuiltinRule) (s : Session) (turns : List Nat) : Crew :=
  (start (rules.map BuiltinRule.parts) s).after ctx turns

/-- The session is as it was at first, and a rule that has ended has the outcome that it has alone, as every rule has
that has had its turns. -/
structure Crew.EndsAsAlone (ctx : Context) (rules : List BuiltinRule) (s : Session) (turns : List Nat) (c : Crew) :
    Prop where
  session : c.session = s
  member : ∀ i r, rules[i]? = some r → ∃ stage, c.members[i]? = some (r.parts, stage) ∧
    (∀ outcome, stage = .ended outcome → outcome = (r.run ctx s).1) ∧
    (r.parts.stepsLeft ctx s .looking ≤ turns.count i → stage = .ended (r.run ctx s).1)

/-- Built-in rules can take their steps in any order. -/
theorem Crew.endsAsAlone_afterTurns {rules : List BuiltinRule} (hrules : ∀ r ∈ rules, r ∈ builtinRules) (ctx : Context)
    (s : Session) (turns : List Nat) : (afterTurns ctx rules s turns).EndsAsAlone ctx rules s turns := by
  have hcourse : OnCourse ctx s (rules.map BuiltinRule.parts) turns (afterTurns ctx rules s turns) := by
    refine onCourse_after (fun p hp => ?_) (fun p hp => ?_) turns
    · obtain ⟨r, -, rfl⟩ := List.mem_map.mp hp
      exact BuiltinRule.check_tree
    · obtain ⟨r, hr, rfl⟩ := List.mem_map.mp hp
      rw [← BuiltinRule.run_eq_finish (hrules r hr)]
      exact (BuiltinRule.run_tells (hrules r hr) ctx s).1
  refine ⟨hcourse.session, fun i r hi => ?_⟩
  obtain ⟨stage, hstage, hfinish, hleft⟩ := hcourse.member i r.parts (by simp [hi])
  rw [← BuiltinRule.run_eq_finish (hrules r (List.mem_of_getElem? hi))] at hfinish
  refine ⟨stage, hstage, ?_, fun hturns => ?_⟩
  · rintro outcome rfl
    exact congrArg Prod.fst hfinish
  · rw [← hfinish]
    exact Parts.eq_ended_of_stepsLeft (by omega)

end RepoConventions.Rules
