/-!
# What is wrong with a YAML text
-/

namespace RepoConventions.Yaml

/-- Why a text holds no single document that can be read. -/
inductive Error
  | controlCharacter
  | noTokenStartsHere
  | misplacedTab
  | misplacedIndicator
  | missingColon
  | unclosedQuote
  | documentMarkInQuote
  | badEscape
  | badBlockHeader
  | badAnchor
  | badTag
  | badDirective
  | unexpectedToken
  | unknownHandle
  | unknownAnchor
  | severalDocuments
  | tooDeep
  | tooManyAliases
  | badScalar
  | duplicateKey
  | missingNode
  | wrongKind
  | wrongLength
  deriving DecidableEq, Repr

theorem bind_eq_ok_iff {ε α β : Type} {x : Except ε α} {f : α → Except ε β} {b : β} :
    x >>= f = .ok b ↔ ∃ a, x = .ok a ∧ f a = .ok b := by
  cases x with
  | error e => simp [bind, Except.bind]
  | ok a => simp [bind, Except.bind]

theorem pure_eq_ok_iff {ε α : Type} {a b : α} : (pure a : Except ε α) = .ok b ↔ b = a := by
  simp [pure, Except.pure, eq_comm]

theorem bind_cons_eq_ok_iff {ε α : Type} {x : Except ε α} {y : Except ε (List α)} {l : List α} :
    (do let a ← x; return a :: (← y)) = .ok l ↔ ∃ a l', x = .ok a ∧ y = .ok l' ∧ l = a :: l' := by
  simp only [bind_eq_ok_iff, pure_eq_ok_iff]
  constructor
  · intro h
    obtain ⟨a, ha, l', hl', heq⟩ := h
    exact ⟨a, l', ha, hl', heq⟩
  · intro h
    obtain ⟨a, l', ha, hl', heq⟩ := h
    exact ⟨a, ha, l', hl', heq⟩

end RepoConventions.Yaml
