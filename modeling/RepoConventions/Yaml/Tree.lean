import RepoConventions.Yaml.Grammar

/-!
# From nodes to trees

Aliases are replaced by the nodes they stand for. Anchors are numbered in the order of the document by how many
different names were seen before, so a name that is anchored again takes a number that the next new name takes
too; an alias stands for the last node of its number. No node lies more than 128 collections deep, and aliases
are followed at most a hundred times for every mark of the document.
-/

namespace RepoConventions.Yaml

/-- A node without anchors and aliases. -/
inductive Tree
  | scalar (tag : Option Tag) (text : String) (plain : Bool)
  | sequence (tag : Option Tag) (items : List Tree)
  | mapping (tag : Option Tag) (entries : List (Tree × Tree))

namespace Tree

mutual
def decEq : (s t : Tree) → Decidable (s = t)
  | .scalar tag text plain, .scalar tag' text' plain' =>
    decidable_of_iff (tag = tag' ∧ text = text' ∧ plain = plain') (by simp)
  | .sequence tag items, .sequence tag' items' =>
    have := decEqItems items items'
    decidable_of_iff (tag = tag' ∧ items = items') (by simp)
  | .mapping tag entries, .mapping tag' entries' =>
    have := decEqEntries entries entries'
    decidable_of_iff (tag = tag' ∧ entries = entries') (by simp)
  | .scalar .., .sequence .. | .scalar .., .mapping .. | .sequence .., .scalar .. | .sequence .., .mapping ..
  | .mapping .., .scalar .. | .mapping .., .sequence .. => isFalse nofun

def decEqItems : (ss ts : List Tree) → Decidable (ss = ts)
  | [], [] => isTrue rfl
  | [], _ :: _ | _ :: _, [] => isFalse nofun
  | s :: ss, t :: ts =>
    have := decEq s t
    have := decEqItems ss ts
    decidable_of_iff (s = t ∧ ss = ts) (by simp)

def decEqEntries : (ss ts : List (Tree × Tree)) → Decidable (ss = ts)
  | [], [] => isTrue rfl
  | [], _ :: _ | _ :: _, [] => isFalse nofun
  | (k, s) :: ss, (l, t) :: ts =>
    have := decEq k l
    have := decEq s t
    have := decEqEntries ss ts
    decidable_of_iff ((k = l ∧ s = t) ∧ ss = ts) (by simp)
end

instance : DecidableEq Tree := decEq

end Tree

namespace Node

/-- The names anchored so far, each with its number. -/
abbrev Names := List (String × Nat)

def Names.define (names : Names) (name : String) : Nat × Names :=
  (names.length, (name, names.length) :: names.filter (·.1 ≠ name))

abbrev Numbering := StateT Names (Except Error)

private def numberAnchor (anchor : Option String) : Numbering (Option Nat) := do
  match anchor with
  | none => return none
  | some name =>
    let (n, names) := (← get).define name
    set names
    return some n

mutual
/-- Numbers the anchors of a node in the order of the document. -/
def number : Node String → Numbering (Node Nat)
  | .scalar anchor tag text plain => do return .scalar (← numberAnchor anchor) tag text plain
  | .sequence anchor tag items => do
    let anchor ← numberAnchor anchor
    return .sequence anchor tag (← numberItems items)
  | .mapping anchor tag entries => do
    let anchor ← numberAnchor anchor
    return .mapping anchor tag (← numberEntries entries)
  | .alias name => do
    match (← get).lookup name with
    | some n => return .alias n
    | none => throw .unknownAnchor

def numberItems : List (Node String) → Numbering (List (Node Nat))
  | [] => return []
  | n :: rest => do
    let n ← number n
    return n :: (← numberItems rest)

def numberEntries : List (Node String × Node String) → Numbering (List (Node Nat × Node Nat))
  | [] => return []
  | (k, v) :: rest => do
    let k ← number k
    let v ← number v
    return (k, v) :: (← numberEntries rest)
end

def anchorOf (anchor : Option Nat) (n : Node Nat) : List (Nat × Node Nat) :=
  (anchor.map fun a => (a, n)).toList

mutual
/-- The anchored nodes in the order of the document. -/
def anchored : Node Nat → List (Nat × Node Nat)
  | .scalar anchor tag text plain => anchorOf anchor (.scalar anchor tag text plain)
  | .sequence anchor tag items => anchorOf anchor (.sequence anchor tag items) ++ anchoredItems items
  | .mapping anchor tag entries => anchorOf anchor (.mapping anchor tag entries) ++ anchoredEntries entries
  | .alias _ => []

def anchoredItems : List (Node Nat) → List (Nat × Node Nat)
  | [] => []
  | n :: rest => anchored n ++ anchoredItems rest

def anchoredEntries : List (Node Nat × Node Nat) → List (Nat × Node Nat)
  | [] => []
  | (k, v) :: rest => anchored k ++ anchored v ++ anchoredEntries rest
end

/-- Counts the aliases followed. -/
abbrev Following := StateT Nat (Except Error)

/-- Counts one more. -/
def follow (limit : Nat) : Following Unit := do
  let count := (← get) + 1
  if count > limit then throw .tooManyAliases
  set count

/-- The node itself, or the one an alias stands for. -/
def target (limit : Nat) (anchors : List (Nat × Node Nat)) (n : Node Nat) : Following (Node Nat) := do
  match n with
  | .alias a =>
    follow limit
    match anchors.lookup a with
    | some n => return n
    | none => throw .unknownAnchor
  | n => return n

/-- Follows every alias, at most `depth` collections deep. -/
def expand (limit : Nat) (anchors : List (Nat × Node Nat)) : Nat → Node Nat → Following Tree
  | 0, n => do
    match ← n.target limit anchors with
    | .scalar _ tag text plain => return .scalar tag text plain
    | .sequence .. | .mapping .. => throw .tooDeep
    | .alias _ => throw .unknownAnchor
  | depth + 1, n => do
    match ← n.target limit anchors with
    | .scalar _ tag text plain => return .scalar tag text plain
    | .sequence _ tag items => return .sequence tag (← items.mapM (expand limit anchors depth))
    | .mapping _ tag entries =>
      return .mapping tag (← entries.mapM fun e => do
        let k ← expand limit anchors depth e.1
        return (k, ← expand limit anchors depth e.2))
    | .alias _ => throw .unknownAnchor

/-- How often the aliases of a document may be followed. -/
def aliasLimit (marks : Nat) : Nat := 100 * marks

def depthLimit : Nat := 128

end Node

/-- The node of a text with its anchors numbered, `none` when it holds nothing. -/
def numberedNode? (text : String) : Except Error (Option (Node Nat)) := do
  match ← documentNode? text with
  | some n =>
    let (n, _) ← n.number.run []
    return some n
  | none => return none

/-- Replaces the aliases of a document's node. -/
def Tree.ofNode (n : Node Nat) : Except Error Tree := do
  let (tree, _) ← (n.expand (Node.aliasLimit n.markCount) n.anchored.reverse Node.depthLimit).run 0
  return tree

/-- The tree of a text, `none` when it holds nothing. -/
def tree? (text : String) : Except Error (Option Tree) := do
  match ← numberedNode? text with
  | some n => return some (← Tree.ofNode n)
  | none => return none

end RepoConventions.Yaml
