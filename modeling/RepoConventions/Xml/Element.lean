import RepoConventions.Text.Ascii
import RepoConventions.Text.Blank
import RepoConventions.Xml.Tree

/-!
# Elements with namespaces

The elements of a tree under the namespaces in scope. A default namespace that begins to hold at an element shows
as an attribute `xmlns` of it; other declarations show nowhere.
-/

namespace RepoConventions.Xml

structure Element where
  name : String
  namespaceUri : Option String
  attributes : List (String × String)
  text : String
  children : List Element

namespace Element

def attribute? (e : Element) (name : String) : Option String := e.attributes.lookup name

/-- The text without white space around it. -/
def value (e : Element) : String := Text.trim e.text

/-- What a text says when it is `true` or `false` in either case. -/
def boolean? (e : Element) : Option Bool :=
  if Text.eqIgnoreCase e.value "true" then some true
  else if Text.eqIgnoreCase e.value "false" then some false
  else none

def childrenNamed (e : Element) (name : String) : List Element := e.children.filter (·.name = name)

end Element

/-- Namespaces by qualifier; the default namespace has none. Of two with one qualifier the first holds. -/
abbrev Scope := List (Option String × String)

def Scope.default? (s : Scope) : Option String := s.lookup none

/-- The namespace that the qualifier `xml` always stands for. -/
def xmlUri : String := "http://www.w3.org/XML/1998/namespace"

/-- The namespace of declarations, which none may bind. -/
def xmlnsUri : String := "http://www.w3.org/2000/xmlns/"

/-- Adds what an attribute declares, if it declares a namespace, to the declarations before it. -/
def declare? (own : Scope) (a : Name × String) : Option Scope :=
  let (name, uri) := a
  if name.qualifier = "xmlns" then
    if uri = xmlnsUri || (name.localName = "xml") ≠ (uri = xmlUri) ||
      (own.lookup (some name.localName)).isSome then none
    else if uri = xmlUri then some own
    else some (own ++ [(some name.localName, uri)])
  else if name.localName = "xmlns" then
    if uri = xmlUri || uri = xmlnsUri then none else some (own ++ [(none, uri)])
  else some own

/-- What is in scope at an element inside an outer scope. -/
def innerScope? (outer : Scope) (attributes : List (Name × String)) : Option Scope := do
  let own ← attributes.foldlM declare? []
  return own ++ outer.filter fun d => (own.lookup d.1).isNone

/-- The namespace of a qualifier: absent for an empty one, unless there is a default. -/
def namespaceOf? (scope : Scope) (qualifier : String) : Option (Option String) :=
  if qualifier.isEmpty then some scope.default? else (scope.lookup (some qualifier)).map some

def attributeNamespace? (scope : Scope) (qualifier : String) : Option (Option String) :=
  if qualifier = "xml" then some (some xmlUri)
  else if qualifier.isEmpty then some none
  else namespaceOf? scope qualifier

def isDeclaration (name : Name) : Bool := name.qualifier = "xmlns" || name.localName = "xmlns"

/-- The attributes that are no declarations; no two have one name in one namespace. -/
def plainAttributes? (scope : Scope) (attributes : List (Name × String)) : Option (List (String × String)) := do
  let plain := attributes.filter fun a => !isDeclaration a.1
  let names ← plain.mapM fun a => do return (← attributeNamespace? scope a.1.qualifier, a.1.localName)
  if names.Nodup then some (plain.map fun a => (a.1.localName, a.2)) else none

/-- The attribute for a default namespace that does not hold outside. -/
def defaultAttribute (outer inner : Scope) : List (String × String) :=
  match inner.default? with
  | some uri => if outer.default? = some uri then [] else [("xmlns", uri)]
  | none => []

def textOf (children : List Node) : String :=
  .join (children.filterMap fun
    | .text s => some s
    | .element .. => none)

mutual
/-- The element that a node is, if it is no text, under an outer scope. -/
def elementOf? (outer : Scope) : Node → Option (List Element)
  | .text _ => some []
  | .element name attributes children => do
    let inner ← innerScope? outer attributes
    let plain ← plainAttributes? inner attributes
    let uri ← if name.qualifier = "xmlns" then none else namespaceOf? inner name.qualifier
    let below ← elementsOf? inner children
    return [⟨name.localName, uri, plain ++ defaultAttribute outer inner, textOf children, below⟩]

def elementsOf? (outer : Scope) : List Node → Option (List Element)
  | [] => some []
  | node :: rest => do return (← elementOf? outer node) ++ (← elementsOf? outer rest)
end

/-- The root element of a document. -/
def Element.ofText? (text : String) : Option Element := do (← elementOf? [] (← tree? text)).head?

end RepoConventions.Xml
