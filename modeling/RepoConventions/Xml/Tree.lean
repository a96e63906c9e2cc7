import RepoConventions.Xml.Markup
import RepoConventions.Xml.References

/-!
# Trees of elements

Start and end tags nest. A document has one element at its root and nothing but white space around it.
-/

namespace RepoConventions.Xml

/-- Declarations of namespaces stand among the attributes. -/
inductive Node
  | element (name : Name) (attributes : List (Name × String)) (children : List Node)
  | text (s : String)

/-- An element whose end tag is still to come, with its children so far in reverse. -/
structure Unclosed where
  name : Name
  attributes : List (Name × String)
  children : List Node

def attributeValues? : List (Name × List Char) → Option (List (Name × String))
  | [] => some []
  | (name, raw) :: rest => do return (name, ← attributeValue? raw) :: (← attributeValues? rest)

/-- The elements that enclose a position, innermost first, and the root once it is closed. -/
structure Position where
  around : List Unclosed
  root : Option Node

namespace Position

/-- Puts a node below the innermost element; an element outside all others is the root, of which there is one. -/
def append? (p : Position) (node : Node) : Option Position :=
  match p.around, p.root with
  | u :: outer, root => some ⟨{ u with children := node :: u.children } :: outer, root⟩
  | [], none => some ⟨[], some node⟩
  | [], some _ => none

def step? (p : Position) : Markup → Option Position
  | .startTag name attributes isEmpty => do
    let attributes ← attributeValues? attributes
    if isEmpty then p.append? (.element name attributes [])
    else if p.around.isEmpty && p.root.isSome then none
    else some ⟨⟨name, attributes, []⟩ :: p.around, p.root⟩
  | .endTag name =>
    match p.around with
    | u :: outer =>
      if u.name = name then append? ⟨outer, p.root⟩ (.element u.name u.attributes u.children.reverse) else none
    | [] => none
  | .text raw =>
    if p.around.isEmpty then (if raw.all isSpace then some p else none)
    else do p.append? (.text (← textValue? raw))
  | .cdata raw => if p.around.isEmpty then none else p.append? (.text (cdataValue raw))

end Position

def treeOfMarkup? (items : List Markup) : Option Node := do
  let p ← items.foldlM Position.step? ⟨[], none⟩
  if p.around.isEmpty then p.root else none

/-- The root of a document. -/
def tree? (text : String) : Option Node := do treeOfMarkup? (← markup? text)

end RepoConventions.Xml
