import RepoConventions.Proofs.Files.Discovery
import RepoConventions.Proofs.Files.OsText
import RepoConventions.Proofs.Regex.Reach

/-!
# Globs for file names

Matching is by octets, but an octet below 128 stands for a character alone. So a glob of plain characters selects the
one name that it spells, and one that begins with a star the names that end as it does.
-/

namespace RepoConventions.Files

namespace Glob

open Regex (Spans SpansAll Takes)

/-! Octets -/

def IsAscii (c : Char) : Prop := c.toNat < 128

theorem octets_of_isAscii {c : Char} (h : IsAscii c) : octets c = [c] := by
  have hlt : c.toNat < 128 := h
  have hle : c.toNat ≤ 127 := Nat.le_of_lt_succ hlt
  have hmod : c.toNat % 256 = c.toNat := Nat.mod_eq_of_lt (by omega)
  have hencode : String.utf8EncodeChar c = [UInt8.ofNat c.toNat] := if_pos hle
  rw [octets, hencode, List.map_singleton, UInt8.toNat_ofNat', hmod, Char.ofNat_toNat]

theorem le_toNat_of_mem_utf8EncodeChar {c : Char} (h : ¬ IsAscii c) {o : UInt8} (ho : o ∈ String.utf8EncodeChar c) :
    128 ≤ o.toNat := by
  have hlong : ¬ c.val.toNat ≤ 127 := fun hle => h (Nat.lt_succ_of_le hle)
  simp only [String.utf8EncodeChar, if_neg hlong] at ho
  split at ho
  · simp only [List.mem_cons, List.not_mem_nil, or_false] at ho
    rcases ho with rfl | rfl <;> rw [UInt8.toNat_ofNat'] <;> omega
  split at ho
  · simp only [List.mem_cons, List.not_mem_nil, or_false] at ho
    rcases ho with rfl | rfl | rfl <;> rw [UInt8.toNat_ofNat'] <;> omega
  · simp only [List.mem_cons, List.not_mem_nil, or_false] at ho
    rcases ho with rfl | rfl | rfl | rfl <;> rw [UInt8.toNat_ofNat'] <;> omega

theorem eq_of_mem_octets {c o : Char} (ho : IsAscii o) (h : o ∈ octets c) : IsAscii c ∧ o = c := by
  by_cases hc : IsAscii c
  · rw [octets_of_isAscii hc, List.mem_singleton] at h
    exact ⟨hc, h⟩
  · obtain ⟨b, hb, rfl⟩ := List.mem_map.mp h
    have hle := le_toNat_of_mem_utf8EncodeChar hc hb
    rw [IsAscii, OsText.toNat_ofNat b.toNat_lt] at ho
    omega

theorem octets_ne_nil (c : Char) : octets c ≠ [] := by
  simp [octets]

/-- The octets of a text, each as the character of that number. -/
def textOctets (cs : List Char) : List Char := (OsText.octetsOf cs).map fun o => Char.ofNat o.toNat

theorem textOctets_cons_of_stray {c d : Char} (h : (c = OsText.mark && OsText.isStray d) = true) (rest : List Char) :
    textOctets (c :: d :: rest) = d :: textOctets rest := by
  rw [Bool.and_eq_true, decide_eq_true_eq] at h
  obtain ⟨rfl, hstray⟩ := h
  have hrange : 0x80 ≤ d.toNat ∧ d.toNat ≤ 0xFF := by simpa [OsText.isStray] using hstray
  have hmod : d.toNat % 256 = d.toNat := Nat.mod_eq_of_lt (Nat.lt_succ_of_le hrange.2)
  simp [textOctets, OsText.octetsOf, hstray, hmod]

theorem textOctets_cons {c : Char} {rest : List Char}
    (h : ∀ d ∈ rest.head?, ¬ (c = OsText.mark && OsText.isStray d) = true) :
    textOctets (c :: rest) = octets c ++ textOctets rest := by
  cases rest with
  | nil => simp [textOctets, OsText.octetsOf, octets]
  | cons d rest => rw [textOctets, OsText.octetsOf, if_neg (h d rfl), List.map_append, octets, textOctets]

/-- What holds of no text, and of a text when it holds of what comes after its first octets, holds of all texts. -/
theorem textOctets_induction {P : List Char → Prop} (hnil : P [])
    (hstray : ∀ c d rest, (c = OsText.mark && OsText.isStray d) = true → P rest → P (c :: d :: rest))
    (hchar : ∀ c rest, (∀ d ∈ rest.head?, ¬ (c = OsText.mark && OsText.isStray d) = true) → P rest → P (c :: rest))
    (cs : List Char) : P cs := by
  induction cs using OsText.octetsOf.induct with
  | case1 c d rest h ih => exact hstray c d rest h ih
  | case2 c d rest h ih => exact hchar c (d :: rest) (by rintro _ ⟨⟩; exact h) ih
  | case3 c => exact hchar c [] (by simp) hnil
  | case4 => exact hnil

theorem textOctets_eq_nil_iff (cs : List Char) : textOctets cs = [] ↔ cs = [] := by
  induction cs using textOctets_induction with
  | hnil => exact iff_of_true rfl rfl
  | hstray c d rest h => simp [textOctets_cons_of_stray h]
  | hchar c rest h => simp [textOctets_cons h, octets_ne_nil]

theorem not_isAscii_of_isStray {c : Char} (h : OsText.isStray c = true) : ¬ IsAscii c := by
  have hrange : 0x80 ≤ c.toNat ∧ c.toNat ≤ 0xFF := by simpa [OsText.isStray] using h
  exact Nat.not_lt.mpr hrange.1

theorem mem_of_mem_textOctets {o : Char} (ho : IsAscii o) {cs : List Char} (h : o ∈ textOctets cs) : o ∈ cs := by
  induction cs using textOctets_induction with
  | hnil => exact h
  | hstray c d rest hpair ih =>
    rw [textOctets_cons_of_stray hpair] at h
    rw [Bool.and_eq_true] at hpair
    rcases List.mem_cons.mp h with rfl | h
    · exact absurd ho (not_isAscii_of_isStray hpair.2)
    · exact List.mem_cons_of_mem c (List.mem_cons_of_mem d (ih h))
  | hchar c rest hpair ih =>
    rw [textOctets_cons hpair] at h
    rcases List.mem_append.mp h with h | h
    · obtain ⟨-, rfl⟩ := eq_of_mem_octets ho h
      exact List.mem_cons_self
    · exact List.mem_cons_of_mem c (ih h)

section Names

variable {cs w : List Char} (hw : ∀ c ∈ w, IsAscii c)

include hw

theorem isStray_head?_eq_false : ∀ d ∈ w.head?, OsText.isStray d = false := by
  intro d hd
  by_contra hstray
  exact not_isAscii_of_isStray (by simpa using hstray) (hw d (List.mem_of_mem_head? hd))

theorem textOctets_of_isAscii : textOctets w = w := by
  induction w with
  | nil => rfl
  | cons c rest ih =>
    obtain ⟨hc, hrest⟩ := List.forall_mem_cons.mp hw
    have hpair : ∀ d ∈ rest.head?, ¬ (c = OsText.mark && OsText.isStray d) = true := by
      intro d hd
      simp [isStray_head?_eq_false hrest d hd]
    rw [textOctets_cons hpair, octets_of_isAscii hc, ih hrest]
    rfl

theorem textOctets_append (cs : List Char) : textOctets (cs ++ w) = textOctets cs ++ w := by
  conv_rhs => rw [← textOctets_of_isAscii hw]
  rw [textOctets, OsText.octetsOf_append (isStray_head?_eq_false hw), List.map_append]
  rfl

theorem exists_of_textOctets (before : List Char) (h : textOctets cs = before ++ w) :
    ∃ start, cs = start ++ w ∧ textOctets start = before := by
  induction cs using textOctets_induction generalizing before w with
  | hnil =>
    obtain ⟨rfl, rfl⟩ := List.append_eq_nil_iff.mp h.symm
    exact ⟨[], rfl, rfl⟩
  | hstray c d rest hpair ih =>
    rw [textOctets_cons_of_stray hpair] at h
    cases before with
    | nil =>
      have hd : IsAscii d := hw d (by rw [← List.nil_append w, ← h]; exact List.mem_cons_self)
      rw [Bool.and_eq_true] at hpair
      exact absurd hd (not_isAscii_of_isStray hpair.2)
    | cons x before =>
      obtain ⟨rfl, hrest⟩ := List.cons.inj h
      obtain ⟨start, rfl, rfl⟩ := ih hw before hrest
      exact ⟨c :: d :: start, rfl, textOctets_cons_of_stray hpair start⟩
  | hchar c rest hpair ih =>
    rw [textOctets_cons hpair] at h
    have hinside (between : List Char) (hrest : textOctets rest = between ++ w)
        (hbefore : before = octets c ++ between) : ∃ start, c :: rest = start ++ w ∧ textOctets start = before := by
      obtain ⟨start, rfl, rfl⟩ := ih hw between hrest
      refine ⟨c :: start, rfl, ?_⟩
      rw [hbefore, textOctets_cons fun d hd => hpair d (List.mem_head?_append_of_mem_head? hd)]
    obtain ⟨between, hbefore, hrest⟩ | ⟨between, hc, hend⟩ := List.append_eq_append_iff.mp h
    · exact hinside between hrest hbefore
    · cases between with
      | nil => exact hinside [] (by simpa using hend.symm) (by simpa using hc.symm)
      | cons o between =>
        -- an octet of ASCII is the only one of its character
        obtain ⟨hascii, rfl⟩ := eq_of_mem_octets (hw o (by simp [hend])) (by rw [hc]; simp)
        rw [octets_of_isAscii hascii] at hc
        obtain ⟨rfl, hbetween⟩ : before = [] ∧ o :: between = [o] := by
          cases before with
          | nil => exact ⟨rfl, hc.symm⟩
          | cons x before => simp at hc
        have hrest : ∀ d ∈ textOctets rest, IsAscii d := fun d hd => hw d (by rw [hend]; exact List.mem_append_right _ hd)
        obtain ⟨start, hsplit, hnil⟩ := ih hrest [] rfl
        rw [(textOctets_eq_nil_iff start).mp hnil, List.nil_append] at hsplit
        exact ⟨[], by rw [hend, hbetween, ← hsplit]; rfl, rfl⟩

theorem textOctets_eq_iff : textOctets cs = w ↔ cs = w := by
  constructor
  · intro h
    obtain ⟨start, rfl, hstart⟩ := exists_of_textOctets hw [] h
    rw [(textOctets_eq_nil_iff start).mp hstart, List.nil_append]
  · rintro rfl
    exact textOctets_of_isAscii hw

end Names

/-! Plain text -/

/-- A character that stands for itself in a glob and is one octet; a slash would make a glob one for paths. -/
structure IsPlain (c : Char) : Prop where
  isAscii : IsAscii c
  ne_special : c ∉ ['*', '?', '[', '{', ',', '}', '\\', '/']

instance (c : Char) : Decidable (IsPlain c) :=
  decidable_of_iff (c.toNat < 128 ∧ c ∉ ['*', '?', '[', '{', ',', '}', '\\', '/'])
    ⟨fun h => ⟨h.1, h.2⟩, fun h => ⟨h.1, h.2⟩⟩

section Plain

variable {w : List Char} (hw : ∀ c ∈ w, IsPlain c)

include hw

theorem tokens?_plain (current : List GlobToken) (prev : Option Char) :
    tokens? ⟨current, []⟩ prev w = some (current.reverse ++ w.map .literal) := by
  induction w generalizing current prev with
  | nil => simp [tokens?]
  | cons c rest ih =>
    obtain ⟨hc, hrest⟩ := List.forall_mem_cons.mp hw
    have hspecial := hc.ne_special
    simp only [List.mem_cons, List.not_mem_nil, or_false, not_or] at hspecial
    obtain ⟨hstar, hany, hbracket, hopen, hcomma, hclose, hescape, -⟩ := hspecial
    have hread : tokens? ⟨current, []⟩ prev (c :: rest) = tokens? ⟨.literal c :: current, []⟩ (some c) rest := by
      rw [tokens?] <;> simp_all [Progress.push]
    rw [hread, ih hrest]
    simp

theorem tokens?_star_plain : tokens? ⟨[], []⟩ none ('*' :: w) = some (.star :: w.map .literal) := by
  have hread : tokens? ⟨[], []⟩ none ('*' :: w) = tokens? ⟨[.star], []⟩ (some '*') w := by
    cases w with
    | nil => rfl
    | cons c rest =>
      have hc : c ≠ '*' := by
        rintro rfl
        exact (hw '*' List.mem_cons_self).ne_special (by simp)
      rw [tokens?] <;> simp_all [Progress.push]
  rw [hread, tokens?_plain hw]
  rfl

theorem sequence_plain : sequence (w.map .literal) = w.map exactly := by
  induction w with
  | nil => rfl
  | cons c rest ih =>
    obtain ⟨hc, hrest⟩ := List.forall_mem_cons.mp hw
    rw [List.map_cons, sequence, expression, ih hrest, octets_of_isAscii hc.isAscii]
    rfl

theorem isForPaths_eq_false {g : Glob} (h : g.text.toList = w ∨ g.text.toList = '*' :: w) : g.isForPaths = false := by
  have hslash : '/' ∉ w := fun hmem => (hw '/' hmem).ne_special (by simp)
  rw [isForPaths]
  rcases h with h | h <;> simp [h, hslash]

end Plain

theorem spans_exactly_iff {passed rest : List Char} {c : Char} {k : Nat} :
    Spans (passed ++ rest) (exactly c) passed.length k ↔ ∃ after, rest = c :: after ∧ k = (passed ++ [c]).length := by
  have hvariants (d : Char) : (Regex.Folding.exact.variants d.toNat).contains c.toNat = true ↔ d = c := by
    simp [Regex.Folding.variants, Char.toNat_inj, eq_comm]
  change Takes _ (passed ++ rest) passed.length k ↔ _
  rw [Regex.takes_append_iff]
  simp only [hvariants]
  constructor
  · rintro ⟨d, after, hrest, rfl, hk⟩
    exact ⟨after, hrest, hk⟩
  · rintro ⟨after, hrest, hk⟩
    exact ⟨c, after, hrest, rfl, hk⟩

theorem spansAll_exactly_iff (w : List Char) {passed rest : List Char} {k : Nat} :
    SpansAll (passed ++ rest) (w.map exactly) passed.length k ↔
      ∃ after, rest = w ++ after ∧ k = (passed ++ w).length := by
  induction w generalizing passed rest with
  | nil => simp [SpansAll, eq_comm]
  | cons c w ih =>
    rw [List.map_cons, SpansAll]
    constructor
    · rintro ⟨j, hfirst, hrest⟩
      obtain ⟨after, rfl, rfl⟩ := spans_exactly_iff.mp hfirst
      rw [List.append_cons passed c after] at hrest
      obtain ⟨after, rfl, rfl⟩ := ih.mp hrest
      exact ⟨after, rfl, by simp⟩
    · rintro ⟨after, rfl, rfl⟩
      refine ⟨_, spans_exactly_iff.mpr ⟨w ++ after, rfl, rfl⟩, ?_⟩
      rw [List.cons_append, List.append_cons passed c (w ++ after)]
      exact ih.mpr ⟨after, rfl, by simp⟩

theorem spans_star_iff {s : List Char} {k : Nat} :
    Spans s (.repeated segmentOctet 0 none) 0 k ↔
      ∃ piece after, s = piece ++ after ∧ '/' ∉ piece ∧ k = piece.length := by
  have hhas (c : Char) : (Regex.CharSet.bracketed true (.range 47 47)).has .exact c.toNat = true ↔ c ≠ '/' := by
    have hslash : '/'.toNat = 47 := rfl
    rw [← Char.toNat_inj.ne, hslash]
    simp [Regex.CharSet.has, Regex.Folding.variants]
  have hspans : Spans ([] ++ s) (.repeated segmentOctet 0 none) ([] : List Char).length k ↔ _ :=
    Regex.spans_repeated_iff rfl
  rw [List.nil_append, List.length_nil] at hspans
  simp only [hspans, hhas, List.nil_append, Nat.zero_le, true_and]
  refine exists_congr fun piece => exists_congr fun after => and_congr_right fun _ => and_congr_left fun _ => ?_
  exact ⟨fun h hmem => h _ hmem rfl, fun h c hc he => h (he ▸ hc)⟩

theorem ofText_of_tokens {text : String} {ts : List GlobToken} (h : tokens? ⟨[], []⟩ none text.toList = some ts)
    (hne : ts ≠ [.leadingDirs]) : ofText text = .ok ⟨text, .ofSequence (sequence ts)⟩ := by
  have hread : ofText? text = some ⟨text, .ofSequence (sequence ts)⟩ := by
    rw [ofText?, h]
    simp only [bind, Option.bind]
  rw [ofText, hread]

theorem ofText_plain {text : String} (h : ∀ c ∈ text.toList, IsPlain c) :
    ∃ g, ofText text = .ok g ∧ g.isForPaths = false ∧ ∀ name, g.accepts name = true ↔ name = text := by
  have htokens : tokens? ⟨[], []⟩ none text.toList = some (text.toList.map .literal) := tokens?_plain h [] none
  have hne : text.toList.map GlobToken.literal ≠ [.leadingDirs] := by
    cases text.toList <;> simp
  refine ⟨_, ofText_of_tokens htokens hne, isForPaths_eq_false h (.inl rfl), fun name => ?_⟩
  have hmatch : SpansAll ([] ++ pathOctets name) (text.toList.map exactly) ([] : List Char).length
      (pathOctets name).length ↔ _ := spansAll_exactly_iff text.toList
  rw [List.nil_append, List.length_nil] at hmatch
  rw [accepts, sequence_plain h, Regex.matchesAll_iff, Regex.spans_ofSequence, hmatch, ← String.toList_inj,
    ← textOctets_eq_iff fun c hc => (h c hc).isAscii]
  constructor
  · rintro ⟨after, hall, hlength⟩
    have hnil : after = [] := by simpa [hall] using hlength
    rw [pathOctets, hnil, List.append_nil] at hall
    exact hall
  · intro hall
    have hoctets : pathOctets name = text.toList := hall
    exact ⟨[], by rw [hoctets, List.append_nil], by rw [hoctets, List.nil_append]⟩

theorem ofText_star_plain {text : String} {w : List Char} (htext : text.toList = '*' :: w) (h : ∀ c ∈ w, IsPlain c) :
    ∃ g, ofText text = .ok g ∧ g.isForPaths = false ∧
      ∀ name : String, '/' ∉ name.toList → (g.accepts name = true ↔ w <:+ name.toList) := by
  have htokens : tokens? ⟨[], []⟩ none text.toList = some (.star :: w.map .literal) := by
    rw [htext]
    exact tokens?_star_plain h
  refine ⟨_, ofText_of_tokens htokens (by simp), isForPaths_eq_false h (.inr htext), fun name hname => ?_⟩
  have hascii : ∀ c ∈ w, IsAscii c := fun c hc => (h c hc).isAscii
  have hsequence : sequence (.star :: w.map .literal) = .repeated segmentOctet 0 none :: w.map exactly := by
    rw [sequence, sequence_plain h]
    rfl
  rw [accepts, hsequence, Regex.matchesAll_iff, Regex.spans_ofSequence, SpansAll]
  constructor
  · rintro ⟨k, hstar, hrest⟩
    obtain ⟨piece, after, hall, -, rfl⟩ := spans_star_iff.mp hstar
    rw [hall] at hrest
    obtain ⟨last, rfl, hlength⟩ := (spansAll_exactly_iff w).mp hrest
    have hnil : last = [] := by simpa using hlength
    rw [hnil, List.append_nil] at hall
    obtain ⟨start, hstart, -⟩ := exists_of_textOctets hascii piece hall
    exact ⟨start, hstart.symm⟩
  · rintro ⟨start, hstart⟩
    have hall : pathOctets name = textOctets start ++ w := by
      rw [← textOctets_append hascii, hstart]
      rfl
    have hslash : '/' ∉ textOctets start := by
      intro hmem
      have hslash : '/' ∈ start := mem_of_mem_textOctets (by decide : '/'.toNat < 128) hmem
      exact hname (hstart ▸ List.mem_append_left w hslash)
    rw [hall]
    refine ⟨(textOctets start).length, spans_star_iff.mpr ⟨_, w, rfl, hslash, rfl⟩, ?_⟩
    exact (spansAll_exactly_iff w).mpr ⟨[], by simp, rfl⟩

end Glob

/-! Finding by name -/

def FileTree.HasFile (t : FileTree) (root path : String) : Prop :=
  ∃ names, t.HasFileAt root names ∧ path = pathBelow root names

theorem Path.mem_segments_of_name {path : String} {s : List Char} (h : .name s ∈ Path.components path) :
    s ∈ Path.segments path := by
  have hcomponent {segment : List Char} (h : Path.component? segment = some (.name s)) : segment = s := by
    unfold Path.component? at h
    split at h <;> simp_all
  unfold Path.components at h
  split at h
  · cases h
  · next first rest hsegments =>
    rw [hsegments]
    rcases List.mem_append.mp h with h | h
    · rw [Option.mem_toList] at h
      unfold Path.firstComponent? at h
      split at h
      · cases h
      · split at h
        · cases h
        · exact List.mem_cons.mpr (.inl (hcomponent h).symm)
    · obtain ⟨segment, hmem, hs⟩ := List.mem_filterMap.mp h
      exact List.mem_cons_of_mem first (hcomponent hs ▸ hmem)

theorem slash_not_mem_of_fileName? {path name : String} (h : Path.fileName? path = some name) : '/' ∉ name.toList := by
  unfold Path.fileName? at h
  split at h
  · next s hlast =>
    cases h
    rw [String.toList_ofList]
    exact Text.not_mem_of_mem_splitOn (Path.mem_segments_of_name (List.mem_of_getLast? hlast))
  · cases h

theorem FileTree.mem_find_iff (t : FileTree) (root : String) {glob : String} {g : Glob} (hg : Glob.ofText glob = .ok g)
    (hnames : g.isForPaths = false) : ∃ paths, t.find root glob = .ok paths ∧ ∀ path, path ∈ paths ↔
      t.HasFile root path ∧ ∃ name, Path.fileName? path = some name ∧ g.accepts name = true := by
  refine ⟨_, by rw [FileTree.find, hg]; rfl, fun path => ?_⟩
  simp only [List.mem_map, List.mem_filter, FileTree.mem_files_iff, Glob.selects, hnames, Bool.false_eq_true, if_false,
    Option.any_eq_true]
  constructor
  · rintro ⟨names, ⟨hfile, hname⟩, rfl⟩
    exact ⟨⟨names, hfile, rfl⟩, hname⟩
  · rintro ⟨⟨names, hfile, rfl⟩, hname⟩
    exact ⟨names, ⟨hfile, hname⟩, rfl⟩

end RepoConventions.Files
