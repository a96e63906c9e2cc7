import RepoConventions.CommandLine.Invocation
import RepoConventions.Proofs.Files.Spelling

/-!
# The root that an option gives

The root option overrides the variables. Its path is taken from the working directory and written in one way, so all
spellings of it make the same configuration root, and no others do.
-/

namespace RepoConventions.CommandLine

open Files.Path (IsRootOf Respelled absolute isAbsolute)

theorem Invocation.config_root_eq {i : Invocation} {path : String} (hroot : i.root = some path) (workingPath : String)
    (lookup : String → Option String) : (i.config workingPath lookup).root = absolute workingPath path := by
  rw [config, hroot]
  cases i.ignoreFile <;> rfl

/-- From an absolute working directory, whatever the path, its root is absolute and written from the top with one slash
before each part and neither empty segments nor `.`; the parts are those of the path, `..` among them, after those of
the working directory when the path is relative; and a root is its own root. Such roots are those of configurations,
and two paths give the same one exactly if they are spelled alike but for repeated and last slashes, `.`, and being
relative. -/
theorem config_root_iff_respelled {workingPath : String} (hworking : isAbsolute workingPath = true) (path : String) :
    IsRootOf workingPath path (absolute workingPath path) ∧
    ∀ (i j : Invocation) (other : String) (lookup otherLookup : String → Option String),
      i.root = some path → j.root = some other →
        (i.config workingPath lookup).root = absolute workingPath path ∧
        ((i.config workingPath lookup).root = (j.config workingPath otherLookup).root ↔
          Respelled workingPath path other) := by
  refine ⟨Files.Path.isRootOf_absolute hworking path, fun i j other lookup otherLookup hi hj => ?_⟩
  rw [Invocation.config_root_eq hi, Invocation.config_root_eq hj]
  exact ⟨rfl, Files.Path.absolute_eq_absolute_iff hworking path other⟩

private def rulesAt (path : String) : Invocation := ⟨.rules, some path, none, false, false⟩

/-- A relative path with empty segments and `.` among its parts, another spelling of it, and the path that would be left
if `..` took a part away. -/
theorem config_root_iff_respelled_upward :
    isAbsolute "/w//." = true ∧
    IsRootOf "/w//." ".//../a/./b/" "/w/../a/b" ∧
    ((rulesAt ".//../a/./b/").config "/w//." fun _ => none).root = "/w/../a/b" ∧
    Respelled "/w//." ".//../a/./b/" "//w/../a/b/." ∧
    ¬ Respelled "/w//." ".//../a/./b/" "/a/b" := by
  have hworking : isAbsolute "/w//." = true := by decide
  have hvalue : absolute "/w//." ".//../a/./b/" = "/w/../a/b" := by decide
  have hother : absolute "/w//." "//w/../a/b/." = "/w/../a/b" := by decide
  have hapart : absolute "/w//." "/a/b" ≠ "/w/../a/b" := by decide
  obtain ⟨hroot, hconfig⟩ := config_root_iff_respelled hworking ".//../a/./b/"
  have hroots (path : String) :=
    hconfig (rulesAt ".//../a/./b/") (rulesAt path) path (fun _ => none) (fun _ => none) rfl rfl
  have hgiven (path : String) : ((rulesAt path).config "/w//." fun _ => none).root = absolute "/w//." path :=
    Invocation.config_root_eq rfl _ _
  rw [hvalue] at hroot
  refine ⟨hworking, hroot, (hgiven _).trans hvalue, (hroots _).2.mp ?_, (hroots _).2.not.mp ?_⟩
  · rw [hgiven, hgiven, hvalue, hother]
  · rw [hgiven, hgiven, hvalue]
    exact hapart.symm

end RepoConventions.CommandLine
