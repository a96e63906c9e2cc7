import RepoConventions.Yaml.Error
import RepoConventions.Yaml.Node
import RepoConventions.Yaml.Tokens

/-!
# From tokens to nodes

The grammar of block and flow collections. Every rule takes the tokens that are left and returns those after it;
the fuel of the rules counts nested rules and items, of which there are fewer than twice the tokens.
-/

namespace RepoConventions.Yaml

/-- What tag handles expand to. -/
abbrev Handles := List (List Char × List UInt8)

def defaultHandles : Handles :=
  [(['!'], [33]), (['!', '!'], "tag:yaml.org,2002:".toList.flatMap String.utf8EncodeChar)]

namespace Grammar

abbrev Items := List (Node String)

abbrev Entries := List (Node String × Node String)

structure Properties where
  anchor : Option String
  tag : Option (List UInt8)

private def resolveTag (handles : Handles) (name : TagName) : Except Error (List UInt8) :=
  if name.handle.isEmpty then .ok name.suffix
  else match handles.lookup name.handle with
    | some expansion => .ok (expansion ++ name.suffix)
    | none => .error .unknownHandle

/-- An anchor and a tag, in either order. -/
def properties (handles : Handles) (ts : List Token) : Except Error (Properties × List Token) :=
  match ts with
  | .anchor a :: .tag t :: ts => do return (⟨some a, some (← resolveTag handles t)⟩, ts)
  | .tag t :: .anchor a :: ts => do return (⟨some a, some (← resolveTag handles t)⟩, ts)
  | .anchor a :: ts => .ok (⟨some a, none⟩, ts)
  | .tag t :: ts => do return (⟨none, some (← resolveTag handles t)⟩, ts)
  | ts => .ok (⟨none, none⟩, ts)

def Properties.resolved (p : Properties) : Option Tag := p.tag.bind Tag.ofOctets?

private def isBlockKeyEnd : List Token → Bool
  | .key :: _ | .value :: _ | .blockEnd :: _ => true
  | _ => false

private def isFlowKeyEnd (close : Token) : List Token → Bool
  | .value :: _ | .flowEntry :: _ => true
  | t :: _ => t = close
  | [] => false

private def isFlowValueEnd (close : Token) : List Token → Bool
  | .flowEntry :: _ => true
  | t :: _ => t = close
  | [] => false

/-- The separator before an item that is not the first. -/
private def separated (first : Bool) (ts : List Token) : Except Error (List Token) :=
  if first then .ok ts
  else match ts with
    | .flowEntry :: ts => .ok ts
    | _ => .error .unexpectedToken

mutual
/-- A node; `block` allows block collections, `indentless` a sequence that is not indented. -/
def node (handles : Handles) (fuel : Nat) (block indentless : Bool) (ts : List Token) :
    Except Error (Node String × List Token) :=
  match fuel with
  | 0 => .error .unexpectedToken
  | fuel + 1 =>
    match ts with
    | .alias name :: ts => .ok (.alias name, ts)
    | ts => do
      let (p, ts) ← properties handles ts
      match ts with
      | .scalar text plain :: ts => return (.scalar p.anchor p.resolved text plain, ts)
      | .flowSequenceStart :: ts =>
        let (items, ts) ← flowItems handles fuel true ts
        return (.sequence p.anchor p.resolved items, ts)
      | .flowMappingStart :: ts =>
        let (entries, ts) ← flowEntries handles fuel true ts
        return (.mapping p.anchor p.resolved entries, ts)
      | t :: rest =>
        if indentless && t = .blockEntry then
          let (items, ts) ← indentlessItems handles fuel ts
          return (.sequence p.anchor p.resolved items, ts)
        else if block && t = .blockSequenceStart then
          let (items, ts) ← blockItems handles fuel rest
          return (.sequence p.anchor p.resolved items, ts)
        else if block && t = .blockMappingStart then
          let (entries, ts) ← blockEntries handles fuel rest
          return (.mapping p.anchor p.resolved entries, ts)
        else if p.anchor.isSome || p.tag.isSome then return (.scalar p.anchor p.resolved "" true, ts)
        else throw .unexpectedToken
      | [] =>
        if p.anchor.isSome || p.tag.isSome then return (.scalar p.anchor p.resolved "" true, ts)
        else throw .unexpectedToken

def blockItems (handles : Handles) (fuel : Nat) (ts : List Token) : Except Error (Items × List Token) :=
  match fuel with
  | 0 => .error .unexpectedToken
  | fuel + 1 =>
    match ts with
    | .blockEnd :: ts => .ok ([], ts)
    | .blockEntry :: ts => do
      let (item, ts) ← match ts with
        | .blockEntry :: _ | .blockEnd :: _ => .ok (.absent, ts)
        | _ => node handles fuel true false ts
      let (items, ts) ← blockItems handles fuel ts
      return (item :: items, ts)
    | _ => .error .unexpectedToken

def indentlessItems (handles : Handles) (fuel : Nat) (ts : List Token) : Except Error (Items × List Token) :=
  match fuel with
  | 0 => .error .unexpectedToken
  | fuel + 1 =>
    match ts with
    | .blockEntry :: ts => do
      let (item, ts) ← match ts with
        | .blockEntry :: _ | .key :: _ | .value :: _ | .blockEnd :: _ => .ok (.absent, ts)
        | _ => node handles fuel true false ts
      let (items, ts) ← indentlessItems handles fuel ts
      return (item :: items, ts)
    | ts => .ok ([], ts)

def blockEntries (handles : Handles) (fuel : Nat) (ts : List Token) : Except Error (Entries × List Token) :=
  match fuel with
  | 0 => .error .unexpectedToken
  | fuel + 1 =>
    match ts with
    | .blockEnd :: ts => .ok ([], ts)
    | .key :: ts => do
      let (k, ts) ← if isBlockKeyEnd ts then .ok (.absent, ts) else node handles fuel true true ts
      let (v, ts) ← match ts with
        | .value :: ts => if isBlockKeyEnd ts then .ok (.absent, ts) else node handles fuel true true ts
        | ts => .ok (.absent, ts)
      let (entries, ts) ← blockEntries handles fuel ts
      return ((k, v) :: entries, ts)
    | _ => .error .unexpectedToken

def flowItems (handles : Handles) (fuel : Nat) (first : Bool) (ts : List Token) : Except Error (Items × List Token) :=
  match fuel with
  | 0 => .error .unexpectedToken
  | fuel + 1 =>
    match ts with
    | .flowSequenceEnd :: ts => .ok ([], ts)
    | ts => do
      match ← separated first ts with
      | .flowSequenceEnd :: ts => return ([], ts)
      | .key :: ts =>
        let (k, v, ts) ← flowPair handles fuel ts
        let (items, ts) ← flowItems handles fuel false ts
        return (.mapping none none [(k, v)] :: items, ts)
      | ts =>
        let (item, ts) ← node handles fuel false false ts
        let (items, ts) ← flowItems handles fuel false ts
        return (item :: items, ts)

/-- The one entry of a mapping written as an item. An absent key swallows the token that follows it. -/
def flowPair (handles : Handles) (fuel : Nat) (ts : List Token) :
    Except Error (Node String × Node String × List Token) :=
  match fuel with
  | 0 => .error .unexpectedToken
  | fuel + 1 => do
    let (k, ts) ←
      if isFlowKeyEnd .flowSequenceEnd ts then .ok (.absent, ts.drop 1) else node handles fuel false false ts
    match ts with
    | .value :: ts =>
      if isFlowValueEnd .flowSequenceEnd ts then return (k, .absent, ts)
      else
        let (v, ts) ← node handles fuel false false ts
        return (k, v, ts)
    | ts => return (k, .absent, ts)

def flowEntries (handles : Handles) (fuel : Nat) (first : Bool) (ts : List Token) :
    Except Error (Entries × List Token) :=
  match fuel with
  | 0 => .error .unexpectedToken
  | fuel + 1 =>
    match ts with
    | .flowMappingEnd :: ts => .ok ([], ts)
    | ts => do
      match ← separated first ts with
      | .flowMappingEnd :: ts => return ([], ts)
      | .key :: ts =>
        let (k, ts) ←
          if isFlowKeyEnd .flowMappingEnd ts then .ok (.absent, ts) else node handles fuel false false ts
        let (v, ts) ← match ts with
          | .value :: ts =>
            if isFlowValueEnd .flowMappingEnd ts then .ok (.absent, ts) else node handles fuel false false ts
          | ts => .ok (.absent, ts)
        let (entries, ts) ← flowEntries handles fuel false ts
        return ((k, v) :: entries, ts)
      | ts =>
        let (k, ts) ← node handles fuel false false ts
        let (entries, ts) ← flowEntries handles fuel false ts
        return ((k, .absent) :: entries, ts)
end

/-- The directives before a document: at most one version, which is 1.1 or 1.2, and each handle once. -/
def directives (version : Bool) (handles : Handles) : List Token → Except Error (Handles × List Token)
  | .version major minor :: ts =>
    if version || major ≠ 1 || (minor ≠ 1 && minor ≠ 2) then .error .badDirective
    else directives true handles ts
  | .tagHandle handle expansion :: ts =>
    if (handles.lookup handle).isSome then .error .badDirective
    else directives version ((handle, expansion) :: handles) ts
  | ts => .ok (handles ++ defaultHandles, ts)

/-- The document at the beginning, `none` when there are no tokens at all. -/
def document (fuel : Nat) (ts : List Token) : Except Error (Option (Node String) × List Token) :=
  match ts with
  | [] => .ok (none, [])
  | .version .. :: _ | .tagHandle .. :: _ | .documentStart :: _ => do
    let (handles, ts) ← directives false [] ts
    match ts with
    | .documentStart :: ts =>
      match ts with
      | [] | .version .. :: _ | .tagHandle .. :: _ | .documentStart :: _ | .documentEnd :: _ =>
        return (some .absent, ts)
      | ts =>
        let (n, ts) ← node handles fuel true false ts
        return (some n, ts)
    | _ => throw .unexpectedToken
  | ts => do
    let (n, ts) ← node defaultHandles fuel true false ts
    return (some n, ts)

end Grammar

/-- The node of a text that holds one document, `none` when it holds nothing. -/
def documentNode? (text : String) : Except Error (Option (Node String)) := do
  let ts ← tokens text
  let (n, rest) ← Grammar.document (2 * ts.length + 2) ts
  if rest.all (· == .documentEnd) then return n else throw .severalDocuments

end RepoConventions.Yaml
