import RepoConventions.Files.OsText
import RepoConventions.Text.Cut

/-!
# Paths

A path is a text of segments between slashes. Empty segments do not count, nor does `.`, except at the start of
a relative path; `..` is kept.
-/

namespace RepoConventions.Files.Path

inductive Component
  | top
  | here
  | up
  | name (s : List Char)
  deriving DecidableEq, Repr

def isAbsolute (path : String) : Bool := path.toList.head? = some '/'

/-- The path of an entry of a directory, or the second path when it is absolute. -/
def join (base path : String) : String :=
  if isAbsolute path then path
  else if base.isEmpty || base.toList.getLast? = some '/' then base ++ path
  else base ++ "/" ++ path

def segments (path : String) : List (List Char) := Text.splitOn '/' path.toList

/-- What a segment after the first stands for. -/
def component? (segment : List Char) : Option Component :=
  match segment with
  | [] | ['.'] => none
  | ['.', '.'] => some .up
  | name => some (.name name)

def firstComponent? (path : String) (segment : List Char) : Option Component :=
  if isAbsolute path then some .top
  else if segment = ['.'] then some .here
  else component? segment

def components (path : String) : List Component :=
  match segments path with
  | [] => []
  | first :: rest => (firstComponent? path first).toList ++ rest.filterMap component?

def Component.text : Component → String
  | top => "/"
  | here => "."
  | up => ".."
  | name s => .ofList s

/-- The path that leads through components one after the other. -/
def ofComponents (components : List Component) : String := components.foldl (fun path c => join path c.text) ""

/-- A path from a directory on, written without empty segments and without `.`. -/
def absolute (directory path : String) : String := ofComponents ((components (join directory path)).filter (· ≠ .here))

def ofSegments (segments : List (List Char)) : String := "/".intercalate (segments.map String.ofList)

/-- The last component, if it is a name. -/
def fileName? (path : String) : Option String :=
  match (components path).getLast? with
  | some (.name s) => some (.ofList s)
  | _ => none

/-- Drops segments that do not count from the end, but the first segment stays. -/
def trimEnd (segments : List (List Char)) : List (List Char) :=
  match segments with
  | [] => []
  | first :: rest => first :: (rest.reverse.dropWhile fun s => (component? s).isNone).reverse

/-- The path without its last component. -/
def parent? (path : String) : Option String :=
  match segments path with
  | [] => none
  | first :: rest =>
    match trimEnd (first :: rest) with
    | first :: rest =>
      if rest.isEmpty then
        if isAbsolute path || (firstComponent? path first).isNone then none else some ""
      else
        let kept := trimEnd (first :: rest.dropLast)
        some (if isAbsolute path && kept = [[]] then "/" else ofSegments kept)
    | [] => none

/-- The segments after a list of components. -/
def dropComponents? (path : String) : List Component → Bool → List (List Char) → Option (List (List Char))
  | [], _, segments => some segments
  | _ :: _, _, [] => none
  | c :: cs, isFirst, s :: rest =>
    match if isFirst then firstComponent? path s else component? s with
    | none => dropComponents? path (c :: cs) false rest
    | some d => if d = c then dropComponents? path cs false rest else none

/-- What is left of a path below a base, if it is there. -/
def stripPrefix? (base path : String) : Option String := do
  let rest ← dropComponents? path (components base) true (segments path)
  let rest := if base.isEmpty then rest else rest.dropWhile fun s => (component? s).isNone
  return ofSegments (rest.reverse.dropWhile fun s => (component? s).isNone).reverse

/-- What is shown of the path of a file below a root, or of its full path elsewhere; a backslash counts as a slash. -/
def relativeTo (root path : String) : String :=
  .ofList ((OsText.shown ((stripPrefix? root path).getD path)).toList.map fun c => if c = '\\' then '/' else c)

end RepoConventions.Files.Path
