import Mathlib.Data.List.Forall2
import RepoConventions.Project.Document

/-!
# Default namespaces of elements

The elements of a document as they are written and as they are kept, each with the elements around it. A kept element
shows a default namespace only where one begins to hold, so that the nearest one that is shown is the one in scope.
-/

namespace RepoConventions

namespace Xml

/-! Elements and what is around them -/

mutual
/-- Of each element at a node and below it, in document order, the line from it up to the root. -/
def Node.lines (above : List Node) : Node → List (List Node)
  | .text _ => []
  | .element name attributes children =>
    (.element name attributes children :: above) :: linesAmong (.element name attributes children :: above) children

def Node.linesAmong (above : List Node) : List Node → List (List Node)
  | [] => []
  | node :: rest => node.lines above ++ linesAmong above rest
end

mutual
/-- Of an element and each below it, in document order, the line from it up to the root. -/
def Element.lines (above : List Element) : Element → List (List Element)
  | ⟨name, uri, attributes, text, children⟩ =>
    (⟨name, uri, attributes, text, children⟩ :: above) ::
      linesAmong (⟨name, uri, attributes, text, children⟩ :: above) children

def Element.linesAmong (above : List Element) : List Element → List (List Element)
  | [] => []
  | e :: rest => e.lines above ++ linesAmong above rest
end

theorem Element.linesAmong_append (above l r : List Element) :
    linesAmong above (l ++ r) = linesAmong above l ++ linesAmong above r := by
  induction l with
  | nil => rfl
  | cons e rest ih => rw [List.cons_append, linesAmong, linesAmong, ih, List.append_assoc]

theorem Element.exists_lines_eq (above : List Element) (e : Element) :
    ∃ below, e.lines above = (e :: above) :: below := by
  cases e
  exact ⟨_, rfl⟩

def Node.attributes : Node → List (Name × String)
  | .element _ attributes _ => attributes
  | .text _ => []

def Node.text? : Node → Option String
  | .text s => some s
  | .element .. => none

/-- The name of a declaration of the default namespace, and of the attribute that shows one. -/
def defaultName : String := "xmlns"

/-- The default namespace that a node itself declares; an empty one stands for none. -/
def Node.declaredDefault? (n : Node) : Option String := n.attributes.lookup ⟨"", defaultName⟩

/-- The default namespace that holds for the first of a line: that of the nearest declaration. -/
def defaultInScope? (line : List Node) : Option String := line.findSome? Node.declaredDefault?

def Element.shownDefault? (e : Element) : Option String := e.attribute? defaultName

/-- No attribute has that name after a colon. -/
def Node.DeclaresPlainly (n : Node) : Prop := ∀ a ∈ n.attributes, a.1.localName = defaultName → a.1.qualifier = ""

instance (n : Node) : Decidable n.DeclaresPlainly := inferInstanceAs (Decidable (∀ a ∈ n.attributes, _ → _))

/-- An element stands for a node: it has the name, the attributes that declare nothing, and the texts right below. -/
inductive StandsFor : Node → Element → Prop
  | element {name : Name} {attributes : List (Name × String)} {children : List Node} {e : Element}
    (hname : e.name = name.localName)
    (hattributes : e.attributes.filter (·.1 ≠ defaultName) =
      (attributes.filter (!isDeclaration ·.1)).map fun a => (a.1.localName, a.2))
    (htext : e.text = .join (children.filterMap Node.text?)) : StandsFor (.element name attributes children) e

def Node.HasNoQualifier : Node → Prop
  | .element name _ _ => name.qualifier = ""
  | .text _ => False

/-- An element is kept below kept ones, shows with them the default namespace in scope, and is in it unless its name has
a qualifier. -/
inductive LineKept : List Node → List Element → Prop
  | line {node : Node} {above : List Node} {e : Element} {around : List Element}
    (helements : List.Forall₂ StandsFor (node :: above) (e :: around))
    (hdefault : (e :: around).findSome? Element.shownDefault? = defaultInScope? (node :: above))
    (huri : node.HasNoQualifier → e.namespaceUri = defaultInScope? (node :: above)) :
    LineKept (node :: above) (e :: around)

/-! Scopes -/

section Attributes

variable {attributes : List (Name × String)}

theorem lookup_of_declare? {own own' : Scope} {a : Name × String}
    (hplain : a.1.localName = defaultName → a.1.qualifier = "") (h : declare? own a = some own') :
    own'.lookup none = (own.lookup none).or ([a].lookup ⟨"", defaultName⟩) := by
  obtain ⟨⟨qualifier, localName⟩, uri⟩ := a
  have hother (hne : qualifier ≠ "" ∨ localName ≠ defaultName) :
      [(Name.mk qualifier localName, uri)].lookup ⟨"", defaultName⟩ = none := by
    rw [List.lookup_eq_none_iff, List.forall_mem_singleton, bne_iff_ne, ne_comm, ne_eq, Name.mk.injEq]
    tauto
  simp only [declare?] at h
  split at h
  · next hqualifier =>
    rw [hother (.inl (by simp [hqualifier])), Option.or_none]
    split at h
    · cases h
    · split at h <;> cases h
      · rfl
      · simp [List.lookup_append, List.lookup_cons]
  · split at h
    · next hname =>
      obtain rfl : qualifier = "" := hplain hname
      split at h <;> cases h
      simp [List.lookup_append, hname, defaultName]
    · next hname =>
      cases h
      rw [hother (.inr hname), Option.or_none]

theorem lookup_of_declarations {own own' : Scope}
    (hplain : ∀ a ∈ attributes, a.1.localName = defaultName → a.1.qualifier = "")
    (h : attributes.foldlM declare? own = some own') :
    own'.lookup none = (own.lookup none).or (attributes.lookup ⟨"", defaultName⟩) := by
  induction attributes generalizing own with
  | nil =>
    cases h
    rw [List.lookup_nil, Option.or_none]
  | cons a rest ih =>
    obtain ⟨ha, hrest⟩ := List.forall_mem_cons.mp hplain
    rw [List.foldlM_cons] at h
    obtain ⟨next, hnext, h⟩ := Option.bind_eq_some_iff.mp h
    rw [ih hrest h, lookup_of_declare? ha hnext, Option.or_assoc, ← List.lookup_append, List.singleton_append]

theorem lookup_filter_of_key {α β : Type} [BEq α] [LawfulBEq α] {l : List (α × β)} {p : α → Bool} {key : α}
    (hkey : p key = true) : (l.filter (p ·.1)).lookup key = l.lookup key := by
  induction l with
  | nil => rfl
  | cons e rest ih =>
    obtain ⟨k, v⟩ := e
    by_cases hk : key = k
    · subst hk
      rw [List.filter_cons, if_pos hkey, List.lookup_cons_self, List.lookup_cons_self]
    · have hne : (key == k) = false := beq_false_of_ne hk
      rw [List.filter_cons]
      split
      · rw [List.lookup_cons, List.lookup_cons, hne, ih]
      · rw [List.lookup_cons, hne, ih]

/-- In an element the default namespace is the one that it declares, or else that outside. -/
theorem default?_of_innerScope? {outer inner : Scope}
    (hplain : ∀ a ∈ attributes, a.1.localName = defaultName → a.1.qualifier = "")
    (h : innerScope? outer attributes = some inner) :
    inner.default? = (attributes.lookup ⟨"", defaultName⟩).or outer.default? := by
  obtain ⟨own, hown, hinner⟩ := Option.bind_eq_some_iff.mp h
  cases hinner
  have hlookup := lookup_of_declarations hplain hown
  rw [List.lookup_nil, Option.none_or] at hlookup
  rw [Scope.default?, List.lookup_append, ← hlookup]
  cases hnone : own.lookup none with
  | some uri => rfl
  | none =>
    rw [Option.none_or, Option.none_or]
    exact lookup_filter_of_key (p := fun key => (own.lookup key).isNone) (by rw [hnone]; rfl)

theorem eq_of_plainAttributes? {scope : Scope} {plain : List (String × String)}
    (h : plainAttributes? scope attributes = some plain) :
    plain = (attributes.filter (!isDeclaration ·.1)).map fun a => (a.1.localName, a.2) := by
  obtain ⟨names, -, h⟩ := Option.bind_eq_some_iff.mp h
  split at h
  · exact (Option.some.inj h).symm
  · cases h

theorem ne_of_plainAttributes? {scope : Scope} {plain : List (String × String)}
    (h : plainAttributes? scope attributes = some plain) : ∀ a ∈ plain, a.1 ≠ defaultName := by
  rw [eq_of_plainAttributes? h, List.forall_mem_map]
  intro a ha
  have hnot := (List.mem_filter.mp ha).2
  rw [isDeclaration, Bool.not_eq_true', Bool.or_eq_false_iff, decide_eq_false_iff_not, decide_eq_false_iff_not] at hnot
  exact hnot.2

end Attributes

theorem eq_of_mem_defaultAttribute {outer inner : Scope} {a : String × String} (h : a ∈ defaultAttribute outer inner) :
    a.1 = defaultName := by
  unfold defaultAttribute at h
  split at h
  · split at h
    · cases h
    · rw [List.mem_singleton.mp h]
      rfl
  · cases h

theorem filter_append_defaultAttribute {outer inner : Scope} {plain : List (String × String)}
    (hplain : ∀ a ∈ plain, a.1 ≠ defaultName) :
    (plain ++ defaultAttribute outer inner).filter (·.1 ≠ defaultName) = plain := by
  rw [List.filter_append, List.filter_eq_self.mpr fun a ha => decide_eq_true (hplain a ha),
    List.filter_eq_nil_iff.mpr fun a ha => by simpa using eq_of_mem_defaultAttribute ha, List.append_nil]

theorem findSome?_cons_or {α β : Type} (f : α → Option β) (a : α) (l : List α) :
    (a :: l).findSome? f = (f a).or (l.findSome? f) := by
  rw [List.findSome?_cons]
  cases f a <;> rfl

theorem shown_or_outer {outer inner : Scope} {plain : List (String × String)} (hplain : ∀ a ∈ plain, a.1 ≠ defaultName)
    (hinner : inner.default? = none → outer.default? = none) :
    ((plain ++ defaultAttribute outer inner).lookup defaultName).or outer.default? = inner.default? := by
  have hnone : plain.lookup defaultName = none := List.lookup_eq_none_iff.mpr fun a ha => by
    simpa using (hplain a ha).symm
  rw [List.lookup_append, hnone, Option.none_or, defaultAttribute]
  cases hi : inner.default? with
  | none => exact hinner hi
  | some uri =>
    dsimp only
    split
    · next houter => exact houter
    · rfl

/-! Whole trees -/

/-- The elements around a place as they are written and as they are kept, with the scope there. -/
structure Enclosed (outer : Scope) (above : List Node) (around : List Element) : Prop where
  elements : List.Forall₂ StandsFor above around
  scope : outer.default? = defaultInScope? above
  shown : around.findSome? Element.shownDefault? = defaultInScope? above

theorem Enclosed.nothing : Enclosed [] [] [] := ⟨.nil, rfl, rfl⟩

section Step

variable {outer : Scope} {above : List Node} {around : List Element} {name : Name}
  {attributes : List (Name × String)} {children : List Node}

theorem exists_of_elementOf? {es : List Element} (h : elementOf? outer (.element name attributes children) = some es) :
    ∃ inner plain uri below, innerScope? outer attributes = some inner ∧
      plainAttributes? inner attributes = some plain ∧ namespaceOf? inner name.qualifier = some uri ∧
      elementsOf? inner children = some below ∧
      es = [⟨name.localName, uri, plain ++ defaultAttribute outer inner, textOf children, below⟩] := by
  rw [elementOf?] at h
  obtain ⟨inner, hinner, h⟩ := Option.bind_eq_some_iff.mp h
  obtain ⟨plain, hplain, h⟩ := Option.bind_eq_some_iff.mp h
  split at h
  · cases h
  · obtain ⟨uri, huri, h⟩ := Option.bind_eq_some_iff.mp h
    obtain ⟨below, hbelow, h⟩ := Option.bind_eq_some_iff.mp h
    exact ⟨inner, plain, uri, below, hinner, hplain, huri, hbelow, (Option.some.inj h).symm⟩

/-- An element stands below what encloses it, and with it encloses its children. -/
theorem Enclosed.inside {es : List Element} (h : Enclosed outer above around)
    (hplain : (Node.element name attributes children).DeclaresPlainly)
    (he : elementOf? outer (.element name attributes children) = some es) :
    ∃ e inner, es = [e] ∧ elementsOf? inner children = some e.children ∧
      Enclosed inner (.element name attributes children :: above) (e :: around) ∧
      LineKept (.element name attributes children :: above) (e :: around) := by
  obtain ⟨inner, plain, uri, below, hinner, hattributes, huri, hbelow, rfl⟩ := exists_of_elementOf? he
  have hdeclared : inner.default? =
      (Node.declaredDefault? (.element name attributes children)).or outer.default? :=
    default?_of_innerScope? hplain hinner
  have hscope : inner.default? = defaultInScope? (.element name attributes children :: above) := by
    rw [hdeclared, h.scope, defaultInScope?, defaultInScope?, findSome?_cons_or]
  have hstands : StandsFor (.element name attributes children)
      ⟨name.localName, uri, plain ++ defaultAttribute outer inner, textOf children, below⟩ := by
    refine .element rfl ?_ ?_
    · rw [filter_append_defaultAttribute (ne_of_plainAttributes? hattributes), eq_of_plainAttributes? hattributes]
    · refine congrArg String.join (List.filterMap_congr fun child _ => ?_)
      cases child <;> rfl
  have hshown : List.findSome? Element.shownDefault?
      (⟨name.localName, uri, plain ++ defaultAttribute outer inner, textOf children, below⟩ :: around) =
        defaultInScope? (.element name attributes children :: above) := by
    rw [findSome?_cons_or, h.shown, ← h.scope, ← hscope]
    refine shown_or_outer (ne_of_plainAttributes? hattributes) fun hnone => ?_
    rw [hdeclared, Option.or_eq_none_iff] at hnone
    exact hnone.2
  refine ⟨_, inner, rfl, hbelow, ⟨.cons hstands h.elements, hscope, hshown⟩,
    .line (.cons hstands h.elements) hshown fun hqualifier => ?_⟩
  change name.qualifier = "" at hqualifier
  rw [hqualifier] at huri
  rw [← hscope]
  exact (Option.some.inj huri).symm

end Step

mutual
/-- One node: below what encloses it, its lines are kept. -/
theorem forall₂_lines : ∀ (node : Node) {outer : Scope} {above : List Node} {around es : List Element},
    Enclosed outer above around → (∀ line ∈ node.lines above, ∀ n ∈ line, n.DeclaresPlainly) →
    elementOf? outer node = some es → List.Forall₂ LineKept (node.lines above) (Element.linesAmong around es)
  | .text _, outer, above, around, es, h, hplain, he => by
    cases he
    exact .nil
  | .element name attributes children, outer, above, around, es, h, hplain, he => by
    rw [Node.lines, List.forall_mem_cons] at hplain
    obtain ⟨e, inner, rfl, hchildren, hinside, hline⟩ := h.inside (hplain.1 _ List.mem_cons_self) he
    obtain ⟨name, uri, attributes, text, below⟩ := e
    rw [Node.lines, Element.linesAmong, Element.linesAmong, List.append_nil, Element.lines]
    exact .cons hline (forall₂_linesAmong children hinside hplain.2 hchildren)

theorem forall₂_linesAmong : ∀ (nodes : List Node) {outer : Scope} {above : List Node} {around es : List Element},
    Enclosed outer above around → (∀ line ∈ Node.linesAmong above nodes, ∀ n ∈ line, n.DeclaresPlainly) →
    elementsOf? outer nodes = some es →
      List.Forall₂ LineKept (Node.linesAmong above nodes) (Element.linesAmong around es)
  | [], outer, above, around, es, h, hplain, he => by
    cases he
    exact .nil
  | node :: rest, outer, above, around, es, h, hplain, he => by
    rw [Node.linesAmong, List.forall_mem_append] at hplain
    simp only [elementsOf?, Option.bind_eq_bind, Option.bind_eq_some_iff, Option.pure_def, Option.some_inj] at he
    obtain ⟨first, hfirst, more, hmore, rfl⟩ := he
    rw [Node.linesAmong, Element.linesAmong_append]
    exact List.rel_append (forall₂_lines node h hplain.1 hfirst) (forall₂_linesAmong rest h hplain.2 hmore)
end

theorem Element.forall₂_lines_of_ofText? {text : String} {root : Node} {e : Element} (htree : tree? text = some root)
    (he : ofText? text = some e) (hplain : ∀ line ∈ root.lines [], ∀ n ∈ line, n.DeclaresPlainly) :
    List.Forall₂ LineKept (root.lines []) (e.lines []) := by
  rw [ofText?, htree] at he
  change (elementOf? [] root).bind List.head? = some e at he
  obtain ⟨es, hes, he⟩ := Option.bind_eq_some_iff.mp he
  have hlines := forall₂_lines root .nothing hplain hes
  cases root with
  | text s =>
    cases hes
    cases he
  | element name attributes children =>
    rw [Node.lines, List.forall_mem_cons] at hplain
    obtain ⟨e', -, rfl, -⟩ := Enclosed.nothing.inside (hplain.1 _ List.mem_cons_self) hes
    cases he
    rwa [linesAmong, linesAmong, List.append_nil] at hlines

end Xml

namespace Project

open Xml (LineKept Node)

/-- Every element of a document is kept, once, in order and at its depth, and the nearest default namespace that is
shown from there on up is the one in scope. So a project is in the SDK style just if its root has no declaration of a
default namespace, not even of the empty one. -/
theorem Document.ofText?_keeps {text : String} {root : Node} {d : Document} (htree : Xml.tree? text = some root)
    (hd : ofText? text = some d) (hplain : ∀ line ∈ root.lines [], ∀ n ∈ line, n.DeclaresPlainly) :
    List.Forall₂ LineKept (root.lines []) (d.root.lines []) ∧
      (d.isSdkProject = true ↔ root.declaredDefault? = none) := by
  obtain ⟨e, he, rfl⟩ := Option.map_eq_some_iff.mp hd
  have hlines := Xml.Element.forall₂_lines_of_ofText? htree he hplain
  refine ⟨hlines, ?_⟩
  obtain ⟨below, hbelow⟩ := e.exists_lines_eq []
  rw [hbelow] at hlines
  cases root with
  | text s => cases hlines
  | element name attributes children =>
    rw [Node.lines, List.forall₂_cons] at hlines
    cases hlines.1 with
    | line _ hdefault _ =>
      simp only [Xml.defaultInScope?, Xml.findSome?_cons_or, List.findSome?_nil, Option.or_none] at hdefault
      rw [← hdefault, isSdkProject, Option.isNone_iff_eq_none]
      rfl

/-- A document with the lines of its elements: their names and the default namespaces that they show. -/
private def shownLines (d : Document) : List (List (String × Option String)) :=
  (d.root.lines []).map fun line => line.map fun e => (e.name, e.shownDefault?)

/-- A default namespace that is declared again where it holds, and one that is taken back. -/
private def scopedText : String := "<P xmlns='u'>s<A xmlns='u'><B xmlns=''/></A>t<C/></P>"

private def scopedLines : List (List (String × Option String)) :=
  [[("P", some "u")], [("A", none), ("P", some "u")], [("B", some ""), ("A", none), ("P", some "u")],
    [("C", none), ("P", some "u")]]

/-- The second declaration shows nowhere, and the third one does. -/
theorem Document.ofText?_keeps_redeclared : ∃ root d, Xml.tree? scopedText = some root ∧ ofText? scopedText = some d ∧
    List.Forall₂ LineKept (root.lines []) (d.root.lines []) ∧ shownLines d = scopedLines ∧ d.root.text = "st" ∧
    d.isSdkProject = false ∧ root.declaredDefault? = some "u" := by
  have htree : (Xml.tree? scopedText).map (fun root => (root.declaredDefault?,
      decide (∀ line ∈ root.lines [], ∀ n ∈ line, n.DeclaresPlainly))) = some (some "u", true) := by decide +kernel
  have hdocument : (ofText? scopedText).map (fun d => (shownLines d, d.root.text)) = some (scopedLines, "st") := by
    decide +kernel
  obtain ⟨root, hroot, hdeclared⟩ := Option.map_eq_some_iff.mp htree
  obtain ⟨hdeclared, hplain⟩ := Prod.mk.inj hdeclared
  obtain ⟨d, hd, hshown⟩ := Option.map_eq_some_iff.mp hdocument
  obtain ⟨hshown, htext⟩ := Prod.mk.inj hshown
  obtain ⟨hlines, hsdk⟩ := ofText?_keeps hroot hd (of_decide_eq_true hplain)
  refine ⟨root, d, hroot, hd, hlines, hshown, htext, ?_, hdeclared⟩
  rw [Bool.eq_false_iff, ne_eq, hsdk, hdeclared]
  exact Option.some_ne_none _

end Project

end RepoConventions
