import RepoConventions.Memo.Basic

/-!
# Concurrent calls on a memo

Calls on an unresolved key stand in line, and only the head of a line runs its initializer. A success resolves
the key for all of them; a failure goes to its own caller, and the next in line takes over.
-/

namespace RepoConventions.Memo

/-- An initializer gives way a number of times and then has its outcome, which may depend on and change a state that
all calls share. -/
structure Call (σ ε α : Type) where
  key : String
  compute : σ → Except ε α × σ
  yields : Nat

/-- A call whose initializer leaves the shared state alone. -/
def Call.ofOutcome {σ ε α : Type} (key : String) (outcome : Except ε α) (yields : Nat) : Call σ ε α :=
  ⟨key, fun s => (outcome, s), yields⟩

inductive Phase (ε α : Type)
  | fresh
  | waiting
  | running (left : Nat)
  | done (result : Except ε α)

def Phase.result? {ε α : Type} : Phase ε α → Option (Except ε α)
  | done r => some r
  | fresh | waiting | running _ => none

/-- The calls are known by their positions; `started` are those whose initializer ran, in that order. -/
structure Batch (σ ε α : Type) where
  state : σ
  memo : Memo α
  tasks : List (Call σ ε α × Phase ε α)
  lines : Text.Map (List Nat)
  started : List Nat

namespace Batch

variable {σ ε α : Type}

def ofCalls (s : σ) (m : Memo α) (calls : List (Call σ ε α)) : Batch σ ε α :=
  ⟨s, m, calls.map (·, .fresh), .empty, []⟩

def line (b : Batch σ ε α) (key : String) : List Nat := (b.lines.get? key).getD []

def setLine (b : Batch σ ε α) (key : String) (l : List Nat) : Batch σ ε α := { b with lines := b.lines.insert key l }

def setPhase (b : Batch σ ε α) (i : Nat) (call : Call σ ε α) (phase : Phase ε α) : Batch σ ε α :=
  { b with tasks := b.tasks.set i (call, phase) }

/-- The outcome of an initializer. Its caller leaves the line, and after a success so does everyone. -/
def finish (b : Batch σ ε α) (i : Nat) (call : Call σ ε α) : Batch σ ε α :=
  let (outcome, state) := call.compute b.state
  let b := { b.setPhase i call (.done outcome) with state }
  match outcome with
  | .ok v => { b.setLine call.key [] with memo := b.memo.resolve call.key v }
  | .error _ => b.setLine call.key (b.line call.key).tail

/-- Runs an initializer that still gives way that often. -/
def advance (b : Batch σ ε α) (i : Nat) (call : Call σ ε α) (left : Nat) : Batch σ ε α :=
  match left with
  | 0 => b.finish i call
  | left + 1 => b.setPhase i call (.running left)

def start (b : Batch σ ε α) (i : Nat) (call : Call σ ε α) : Batch σ ε α :=
  { b with started := b.started ++ [i] }.advance i call call.yields

/-- Lets one call go on as far as it can. -/
def poll (b : Batch σ ε α) (i : Nat) : Batch σ ε α :=
  match b.tasks[i]? with
  | none => b
  | some (call, .fresh) =>
    let b := { b with memo := b.memo.touch call.key }
    match b.memo.get? call.key, b.line call.key with
    | some v, _ => b.setPhase i call (.done (.ok v))
    | none, [] => (b.setLine call.key [i]).start i call
    | none, l => (b.setLine call.key (l ++ [i])).setPhase i call .waiting
  | some (call, .waiting) =>
    match b.memo.get? call.key with
    | some v => b.setPhase i call (.done (.ok v))
    | none => if (b.line call.key).head? = some i then b.start i call else b
  | some (call, .running left) => b.advance i call left
  | some (_, .done _) => b

def pollAll (b : Batch σ ε α) (schedule : List Nat) : Batch σ ε α := schedule.foldl poll b

/-- Every call in turn. -/
def round (b : Batch σ ε α) : Batch σ ε α := b.pollAll (List.range b.tasks.length)

/-- How many rounds finish all calls: in each, the head of some line goes on. -/
def roundsNeeded (b : Batch σ ε α) : Nat := b.tasks.foldr (fun t n => t.1.yields + 2 + n) 0

def rounds (b : Batch σ ε α) : Nat → Batch σ ε α
  | 0 => b
  | n + 1 => b.round.rounds n

def run (b : Batch σ ε α) : Batch σ ε α := b.rounds b.roundsNeeded

def results (b : Batch σ ε α) : List (Option (Except ε α)) := b.tasks.map fun t => t.2.result?

end Batch

end RepoConventions.Memo
