import RepoConventions.Text.Cut
import RepoConventions.Xml.Characters

/-!
# Markup

The tags and texts of a document in order, texts and attribute values still with their references. Comments and
processing instructions are left out, and document types are not accepted.
-/

namespace RepoConventions.Xml

/-- A name with what stands before its colon, which is empty when there is no colon. -/
structure Name where
  qualifier : String
  localName : String
  deriving DecidableEq, Repr

inductive Markup
  | startTag (name : Name) (attributes : List (Name × List Char)) (isEmpty : Bool)
  | endTag (name : Name)
  | text (raw : List Char)
  | cdata (raw : List Char)
  deriving DecidableEq, Repr

/-- The text up to a mark, which is dropped. -/
def until? (mark cs : List Char) : Option (List Char × List Char) := do
  let (before, rest) ← Text.cutAt? mark cs
  if before.all isAllowed then some (before, rest) else none

def beginsName : List Char → Bool
  | c :: _ => isNameStart c
  | [] => false

/-- A name in one piece, colons included. -/
def plainName? (cs : List Char) : Option (List Char × List Char) :=
  if beginsName cs then some (cs.span isNameChar) else none

def qualifiedName? (cs : List Char) : Option (Name × List Char) := do
  let (word, rest) := cs.span isNameChar
  let (qualifier, base) ← match Text.splitOn ':' word with
    | [base] => some ([], base)
    | [qualifier, base] => some (qualifier, base)
    | _ => none
  if (qualifier.isEmpty || beginsName qualifier) && beginsName base then
    some (⟨.ofList qualifier, .ofList base⟩, rest)
  else none

/-- An attribute; its value has no `<`. -/
def attribute? (cs : List Char) : Option ((Name × List Char) × List Char) := do
  let (name, rest) ← qualifiedName? cs
  match skipSpace rest with
  | '=' :: rest =>
    match skipSpace rest with
    | q :: rest =>
      if q = '"' || q = '\'' then
        let (value, rest) ← until? [q] rest
        if value.contains '<' then none else some ((name, value), rest)
      else none
    | [] => none
  | _ => none

/-- The rest of a start tag after its name: attributes, and whether the element is empty. Each attribute takes a
character, so the fuel is what is left. -/
def tagBody? : Nat → List Char → Option (List (Name × List Char) × Bool × List Char)
  | 0, _ => none
  | fuel + 1, cs =>
    match skipSpace cs with
    | '/' :: '>' :: rest => some ([], true, rest)
    | '>' :: rest => some ([], false, rest)
    | next =>
      if cs.head?.any isSpace then do
        let (a, rest) ← attribute? next
        let (more, isEmpty, rest) ← tagBody? fuel rest
        some (a :: more, isEmpty, rest)
      else none

def startTag? (cs : List Char) : Option (Markup × List Char) := do
  let (name, rest) ← qualifiedName? cs
  let (attributes, isEmpty, rest) ← tagBody? (rest.length + 1) rest
  return (.startTag name attributes isEmpty, rest)

def endTag? (cs : List Char) : Option (Markup × List Char) := do
  let (name, rest) ← qualifiedName? cs
  match skipSpace rest with
  | '>' :: rest => some (.endTag name, rest)
  | _ => none

/-- What follows a comment, which has no two hyphens inside and none at its end. -/
def afterComment? (cs : List Char) : Option (List Char) := do
  let (comment, rest) ← until? ['-', '-', '>'] cs
  if Text.occursIn ['-', '-'] comment || comment.getLast? = some '-' then none else some rest

/-- What follows a processing instruction. -/
def afterInstruction? (cs : List Char) : Option (List Char) := do
  if "xml ".toList.isPrefixOf cs then none
  else
    let (_, rest) ← plainName? cs
    let (_, rest) ← until? ['?', '>'] (skipSpace rest)
    return rest

/-- The text up to the next tag; it has no `]]>`. -/
def text? (cs : List Char) : Option (Markup × List Char) :=
  let (raw, rest) := cs.span (· ≠ '<')
  if raw.all isAllowed && !Text.occursIn [']', ']', '>'] raw then some (.text raw, rest) else none

/-- The markup of what is left. Each item takes a character, so the fuel is what is left. -/
def items? : Nat → List Char → Option (List Markup)
  | _, [] => some []
  | 0, _ => none
  | fuel + 1, cs =>
    match cs with
    | '<' :: '!' :: '-' :: '-' :: rest => do items? fuel (← afterComment? rest)
    | '<' :: '?' :: rest => do items? fuel (← afterInstruction? rest)
    | '<' :: '!' :: rest =>
      if "[CDATA[".toList.isPrefixOf rest then do
        let (raw, rest) ← until? [']', ']', '>'] (rest.drop 7)
        return .cdata raw :: (← items? fuel rest)
      else none
    | '<' :: '/' :: rest => do
      let (m, rest) ← endTag? rest
      return m :: (← items? fuel rest)
    | '<' :: rest => do
      let (m, rest) ← startTag? rest
      return m :: (← items? fuel rest)
    | _ => do
      let (m, rest) ← text? cs
      return m :: (← items? fuel rest)

/-- Space where it may only be missing before the end of the declaration. -/
def declarationSpace? (cs : List Char) : Option (List Char) :=
  if cs.head?.any isSpace then some (skipSpace cs)
  else if ['?', '>'].isPrefixOf cs || cs.isEmpty then some cs
  else none

/-- What follows an attribute whose name begins with a word, if there is one. -/
def skipAttribute? (word : String) (cs : List Char) : Option (List Char) :=
  if word.toList.isPrefixOf cs then (attribute? cs).map (·.2) else some cs

/-- What follows the declaration after its `<?xml`. -/
def afterDeclaration? (cs : List Char) : Option (List Char) := do
  let cs ← declarationSpace? cs
  if "version".toList.isPrefixOf cs then
    let cs ← declarationSpace? (← skipAttribute? "version" cs)
    let cs ← if "encoding".toList.isPrefixOf cs then declarationSpace? (← skipAttribute? "encoding" cs) else some cs
    match skipSpace (← skipAttribute? "standalone" cs) with
    | '?' :: '>' :: rest => some rest
    | _ => none
  else none

/-- The markup of a document, which may begin with a byte order mark and a declaration. -/
def markup? (text : String) : Option (List Markup) := do
  let cs := text.toList
  let cs := if cs.head? = some (Char.ofNat 0xFEFF) then cs.drop 1 else cs
  let cs ← if "<?xml ".toList.isPrefixOf cs then afterDeclaration? (cs.drop 5) else some cs
  items? (cs.length + 1) cs

end RepoConventions.Xml
