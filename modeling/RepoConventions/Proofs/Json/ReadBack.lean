import RepoConventions.Json.Written
import RepoConventions.Proofs.Json.Numbers

/-!
# Reading back what is written

A value whose numbers are numbers of the grammar is read back from its text, in either layout and whatever follows that
does not go on with a number. So such a text is one value and determines it.
-/

namespace RepoConventions.Json

open Text (isDigit)

/-! Strings -/

theorem unicodeEscape?_control {c : Char} (h : c.toNat < 32) (rest : List Char) :
    unicodeEscape? ('0' :: '0' :: hexDigit (c.toNat / 16) :: hexDigit (c.toNat % 16) :: rest) = some (c, rest) := by
  have hread : ∀ n < 32, Text.natOfDigits? 16 ['0', '0', hexDigit (n / 16), hexDigit (n % 16)] = some n := by decide
  have hhigh : ¬ 0xD800 ≤ c.toNat := by omega
  have hlow : ¬ 0xDC00 ≤ c.toNat := by omega
  simp [unicodeEscape?, hex4?, hread _ h, hhigh, hlow, Char.ofNat_toNat]

theorem stringBody?_escaped (fuel : Nat) (done rest : List Char) (c : Char) :
    stringBody? (fuel + 1) done (escaped c ++ rest) = stringBody? fuel (c :: done) rest := by
  have hnumber {n : Nat} (h : c.toNat = n) : Char.ofNat n = c := by rw [← h, Char.ofNat_toNat]
  unfold escaped
  split_ifs with hquote hbackslash hline hreturn htab hback hfeed hcontrol
  · subst hquote
    rfl
  · subst hbackslash
    rfl
  · subst hline
    rfl
  · subst hreturn
    rfl
  · subst htab
    rfl
  · obtain rfl := hnumber hback
    rfl
  · obtain rfl := hnumber hfeed
    rfl
  · simp [stringBody?, unicodeEscape?_control hcontrol]
  · simp [stringBody?, hbackslash, hcontrol]

theorem stringBody?_append (cs : List Char) : ∀ (fuel : Nat) (done rest : List Char), cs.length < fuel →
    stringBody? fuel done (cs.flatMap escaped ++ '"' :: rest) = some (.ofList (done.reverse ++ cs), rest) := by
  induction cs with
  | nil =>
    intro fuel done rest hfuel
    obtain ⟨fuel, rfl⟩ := Nat.exists_eq_succ_of_ne_zero (by omega : fuel ≠ 0)
    simp [stringBody?]
  | cons c cs ih =>
    intro fuel done rest hfuel
    obtain ⟨fuel, rfl⟩ := Nat.exists_eq_succ_of_ne_zero (by omega : fuel ≠ 0)
    rw [List.flatMap_cons, List.append_assoc, stringBody?_escaped, ih fuel (c :: done) rest (by simpa using hfuel)]
    simp

theorem length_le_flatMap_escaped (cs : List Char) : cs.length ≤ (cs.flatMap escaped).length := by
  induction cs with
  | nil => exact Nat.zero_le _
  | cons c cs ih =>
    have hpos : 0 < (escaped c).length := by
      unfold escaped
      split_ifs <;> simp
    simp only [List.length_cons, List.flatMap_cons, List.length_append]
    omega

theorem quotedBody?_append (s : String) (rest : List Char) :
    quotedBody? (s.toList.flatMap escaped ++ '"' :: rest) = some (s, rest) := by
  rw [quotedBody?, stringBody?_append]
  · simp
  · have hlength := length_le_flatMap_escaped s.toList
    simp only [List.length_append]
    omega

/-! Blanks -/

def AreBlank (cs : List Char) : Prop := ∀ c ∈ cs, isSpace c = true

theorem Layout.areBlank_break (l : Layout) (level : Nat) : AreBlank (l.break level) := by
  intro c hc
  rw [Layout.break] at hc
  split at hc
  · rcases List.mem_cons.mp hc with rfl | hc
    · rfl
    · rw [List.eq_of_mem_replicate hc]
      rfl
  · cases hc

def Layout.afterColon (l : Layout) : List Char := if l.lines then [' '] else []

theorem Layout.colon_eq (l : Layout) : l.colon = ':' :: l.afterColon := by
  rw [colon, afterColon]
  split <;> rfl

theorem Layout.areBlank_afterColon (l : Layout) : AreBlank l.afterColon := by
  rw [afterColon]
  split <;> simp [AreBlank, isSpace]

theorem skipSpace_append {blank : List Char} (h : AreBlank blank) (cs : List Char) :
    skipSpace (blank ++ cs) = skipSpace cs := List.dropWhile_append_of_pos h

theorem skipSpace_cons {c : Char} (h : isSpace c = false) (cs : List Char) : skipSpace (c :: cs) = c :: cs := by
  simp [skipSpace, h]

theorem value?_skipSpace (fuel : Nat) {blank : List Char} (h : AreBlank blank) (cs : List Char) :
    value? fuel (blank ++ cs) = value? fuel cs := by
  cases fuel with
  | zero => rfl
  | succ fuel => simp only [value?, skipSpace_append h]

theorem AreBlank.endsNumber {blank : List Char} (h : AreBlank blank) : EndsNumber blank := by
  intro c hc
  have hspace : ((c = ' ' ∨ c = '\n') ∨ c = '\t') ∨ c = '\r' := by
    simpa [isSpace] using h c (List.mem_of_mem_head? hc)
  rcases hspace with ((rfl | rfl) | rfl) | rfl <;> decide

theorem items?_skipSpace (fuel : Nat) {blank : List Char} (h : AreBlank blank) (cs : List Char) :
    items? fuel (blank ++ cs) = items? fuel cs := by
  cases fuel with
  | zero => rfl
  | succ fuel => simp only [items?, value?_skipSpace fuel h]

theorem members?_skipSpace (fuel : Nat) {blank : List Char} (h : AreBlank blank) (cs : List Char) :
    members? fuel (blank ++ cs) = members? fuel cs := by
  cases fuel with
  | zero => rfl
  | succ fuel => simp only [members?, skipSpace_append h]

/-! Values -/

mutual
/-- All numbers in the value are numbers of the grammar. -/
def HasNumbers : Json → Prop
  | .null | .bool _ | .string _ => True
  | .number t => IsNumber t.toList
  | .array items => HaveNumbers items
  | .object members => MembersHaveNumbers members

def HaveNumbers : List Json → Prop
  | [] => True
  | j :: rest => j.HasNumbers ∧ HaveNumbers rest

def MembersHaveNumbers : List (String × Json) → Prop
  | [] => True
  | (_, j) :: rest => j.HasNumbers ∧ MembersHaveNumbers rest
end

theorem haveNumbers_iff {items : List Json} : HaveNumbers items ↔ ∀ j ∈ items, j.HasNumbers := by
  induction items with
  | nil => simp [HaveNumbers]
  | cons j rest ih => simp [HaveNumbers, ih]

theorem membersHaveNumbers_iff {members : List (String × Json)} :
    MembersHaveNumbers members ↔ ∀ m ∈ members, m.2.HasNumbers := by
  induction members with
  | nil => simp [MembersHaveNumbers]
  | cons m rest ih => simp [MembersHaveNumbers, ih]

theorem hasNumbers_text? (s : Option String) : (text? s).HasNumbers := by
  cases s <;> trivial

theorem hasNumbers_texts (l : List String) : (texts l).HasNumbers := by
  have hall : ∀ j ∈ l.map Json.string, j.HasNumbers := by
    rintro j hj
    obtain ⟨s, -, rfl⟩ := List.mem_map.mp hj
    trivial
  exact haveNumbers_iff.mpr hall

theorem endsNumber_cons {c : Char} (hdigit : isDigit c = false) (hpart : c ≠ '.' ∧ c ≠ 'e' ∧ c ≠ 'E')
    (cs : List Char) : EndsNumber (c :: cs) := by
  intro d hd
  obtain rfl := Option.some.inj hd
  exact ⟨hdigit, hpart⟩

theorem endsNumber_comma (cs : List Char) : EndsNumber (',' :: cs) := endsNumber_cons rfl (by decide) cs

theorem Layout.endsNumber_break (l : Layout) (level : Nat) {cs : List Char} (h : EndsNumber cs) :
    EndsNumber (l.break level ++ cs) := by
  rw [Layout.break]
  split
  · exact endsNumber_cons rfl (by decide) _
  · exact h

/-- What a number begins with begins no other value. -/
theorem IsNumber.exists_start {cs : List Char} (h : IsNumber cs) : ∃ c more, cs = c :: more ∧ isSpace c = false ∧
    c ≠ 'n' ∧ c ≠ 't' ∧ c ≠ 'f' ∧ c ≠ '"' ∧ c ≠ '[' ∧ c ≠ ']' ∧ c ≠ '{' := by
  have hother (c : Char) (hc : c = '-' ∨ isDigit c = true) {d : Char} (hd : ¬ (d = '-' ∨ isDigit d = true)) : c ≠ d :=
    fun heq => hd (heq ▸ hc)
  obtain ⟨c, more, rfl, hc⟩ := h.exists_cons
  refine ⟨c, more, rfl, ?_, hother c hc (by decide), hother c hc (by decide), hother c hc (by decide),
    hother c hc (by decide), hother c hc (by decide), hother c hc (by decide), hother c hc (by decide)⟩
  simp [isSpace, hother c hc (by decide : ¬ (' ' = '-' ∨ isDigit ' ' = true)),
    hother c hc (by decide : ¬ ('\n' = '-' ∨ isDigit '\n' = true)),
    hother c hc (by decide : ¬ ('\t' = '-' ∨ isDigit '\t' = true)),
    hother c hc (by decide : ¬ ('\r' = '-' ∨ isDigit '\r' = true))]

theorem value?_number (fuel : Nat) {cs : List Char} (h : IsNumber cs) {rest : List Char} (hrest : EndsNumber rest) :
    value? (fuel + 1) (cs ++ rest) = some (.number (.ofList cs), rest) := by
  rw [← number?_append h hrest]
  obtain ⟨c, more, rfl, hspace, hn, ht, hf, hquote, hopen, -, hbrace⟩ := h.exists_start
  rw [value?, List.cons_append, skipSpace_cons hspace]
  split <;> simp_all

/-- What is written begins with neither a blank nor the end of a list. -/
theorem exists_cons_written (l : Layout) (level : Nat) {j : Json} (h : j.HasNumbers) :
    ∃ c cs, written l level j = c :: cs ∧ isSpace c = false ∧ c ≠ ']' := by
  cases j with
  | null => exact ⟨_, _, rfl, rfl, by decide⟩
  | bool b => cases b <;> exact ⟨_, _, rfl, rfl, by decide⟩
  | string s => exact ⟨_, _, rfl, rfl, by decide⟩
  | number t =>
    obtain ⟨c, more, ht, hspace, -, -, -, -, -, hclose, -⟩ := IsNumber.exists_start h
    exact ⟨c, more, ht, hspace, hclose⟩
  | array items => cases items <;> exact ⟨_, _, rfl, rfl, by decide⟩
  | object members =>
    cases members with
    | nil => exact ⟨_, _, rfl, rfl, by decide⟩
    | cons m rest => exact ⟨_, _, rfl, rfl, by decide⟩

theorem exists_cons_joined (mark : List Char) {p cs : List Char} {c : Char} (h : p = c :: cs) (ps : List (List Char)) :
    ∃ more, joined mark (p :: ps) = c :: more := by
  subst h
  cases ps with
  | nil => exact ⟨cs, rfl⟩
  | cons q qs => exact ⟨_, rfl⟩

theorem length_written_pos (l : Layout) (level : Nat) {j : Json} (h : j.HasNumbers) :
    0 < (written l level j).length := by
  obtain ⟨c, cs, hcons, -⟩ := exists_cons_written l level h
  rw [hcons]
  exact Nat.succ_pos _

/-! One step of the reader -/

theorem quoted_append (s : String) (rest : List Char) :
    quoted s ++ rest = '"' :: (s.toList.flatMap escaped ++ '"' :: rest) := by simp [quoted]

theorem value?_quoted (fuel : Nat) (s : String) (rest : List Char) :
    value? (fuel + 1) (quoted s ++ rest) = some (.string s, rest) := by
  have hread : value? (fuel + 1) (quoted s ++ rest) =
      (quotedBody? (s.toList.flatMap escaped ++ '"' :: rest)).map fun p => (.string p.1, p.2) := by
    rw [quoted_append]
    rfl
  rw [hread, quotedBody?_append]
  rfl

theorem value?_items {fuel : Nat} {c : Char} {cs more rest : List Char} {items : List Json}
    (hskip : skipSpace cs = c :: more) (hc : c ≠ ']') (hitems : items? fuel (c :: more) = some (items, rest)) :
    value? (fuel + 1) ('[' :: cs) = some (.array items, rest) := by
  rw [value?, skipSpace_cons (by decide)]
  simp [hskip, hc, hitems]

theorem value?_members {fuel : Nat} {cs more rest : List Char} {members : List (String × Json)}
    (hskip : skipSpace cs = '"' :: more) (hmembers : members? fuel ('"' :: more) = some (members, rest)) :
    value? (fuel + 1) ('{' :: cs) = some (.object members, rest) := by
  rw [value?, skipSpace_cons (by decide)]
  simp [hskip, hmembers]

theorem items?_last {fuel : Nat} {cs after rest : List Char} {j : Json} (h : value? fuel cs = some (j, after))
    (hskip : skipSpace after = ']' :: rest) : items? (fuel + 1) cs = some ([j], rest) := by
  simp [items?, h, hskip]

theorem items?_next {fuel : Nat} {cs after more rest : List Char} {j : Json} {items : List Json}
    (h : value? fuel cs = some (j, after)) (hskip : skipSpace after = ',' :: more)
    (hmore : items? fuel more = some (items, rest)) : items? (fuel + 1) cs = some (j :: items, rest) := by
  simp [items?, h, hskip, hmore]

theorem members?_last {fuel : Nat} {cs after rest : List Char} {j : Json} (name : String)
    (h : value? fuel cs = some (j, after)) (hskip : skipSpace after = '}' :: rest) :
    members? (fuel + 1) (quoted name ++ ':' :: cs) = some ([(name, j)], rest) := by
  rw [quoted_append, members?, skipSpace_cons (by decide)]
  simp [quotedBody?_append, skipSpace_cons, isSpace, h, hskip]

theorem members?_next {fuel : Nat} {cs after more rest : List Char} {j : Json} (name : String)
    {members : List (String × Json)} (h : value? fuel cs = some (j, after)) (hskip : skipSpace after = ',' :: more)
    (hmore : members? fuel more = some (members, rest)) :
    members? (fuel + 1) (quoted name ++ ':' :: cs) = some ((name, j) :: members, rest) := by
  rw [quoted_append, members?, skipSpace_cons (by decide)]
  simp [quotedBody?_append, skipSpace_cons, isSpace, h, hskip, hmore]

theorem skipSpace_break (l : Layout) (level : Nat) {c : Char} (h : isSpace c = false) (cs : List Char) :
    skipSpace (l.break level ++ c :: cs) = c :: cs := by
  rw [skipSpace_append (l.areBlank_break level), skipSpace_cons h]

mutual
/-- A value is read from its text. The fuel is enough as every list and every item in it takes a character or more. -/
theorem value?_written (l : Layout) : ∀ (j : Json) (level fuel : Nat) (rest : List Char), j.HasNumbers →
    EndsNumber rest → (written l level j).length ≤ fuel + 1 →
    value? (fuel + 1) (written l level j ++ rest) = some (j, rest)
  | .null, _, _, _, _, _, _ => rfl
  | .bool true, _, _, _, _, _, _ => rfl
  | .bool false, _, _, _, _, _, _ => rfl
  | .number t, _, fuel, _, h, hrest, _ => by rw [written, value?_number fuel h hrest, String.ofList_toList]
  | .string s, _, fuel, rest, _, _, _ => value?_quoted fuel s rest
  | .array [], _, _, _, _, _, _ => rfl
  | .array (j :: items), level, fuel, rest, h, hrest, hfuel => by
    have htext : written l level (.array (j :: items)) =
        '[' :: (l.break (level + 1) ++ (joined (',' :: l.break (level + 1)) (writtenItems l (level + 1) (j :: items)) ++
          (l.break level ++ [']']))) := by
      simp [written, writtenItems, Layout.between]
    rw [htext] at hfuel ⊢
    have hitems := items?_written l (j :: items) (level + 1) level fuel rest (by simp) h (by
      simp only [List.length_cons, List.length_append] at hfuel
      omega)
    obtain ⟨c, cs, hwritten, hspace, hclose⟩ := exists_cons_written l (level + 1) h.1
    obtain ⟨more, hmore⟩ := exists_cons_joined (',' :: l.break (level + 1)) hwritten (writtenItems l (level + 1) items)
    rw [writtenItems, hmore] at hitems ⊢
    simp only [List.cons_append, List.append_assoc, List.nil_append] at hitems ⊢
    refine value?_items ?_ hclose hitems
    rw [skipSpace_append (l.areBlank_break _), skipSpace_cons hspace]
  | .object [], _, _, _, _, _, _ => rfl
  | .object ((name, j) :: members), level, fuel, rest, h, hrest, hfuel => by
    have htext : written l level (.object ((name, j) :: members)) = '{' :: (l.break (level + 1) ++
        (joined (',' :: l.break (level + 1)) (writtenMembers l (level + 1) ((name, j) :: members)) ++
          (l.break level ++ ['}']))) := by
      simp [written, writtenMembers, Layout.between]
    rw [htext] at hfuel ⊢
    have hmembers := members?_written l ((name, j) :: members) (level + 1) level fuel rest (by simp) h (by
      simp only [List.length_cons, List.length_append] at hfuel
      omega)
    obtain ⟨more, hmore⟩ := exists_cons_joined (',' :: l.break (level + 1))
      (quoted_append name (l.colon ++ written l (level + 1) j)) (writtenMembers l (level + 1) members)
    rw [writtenMembers, List.append_assoc, hmore] at hmembers ⊢
    simp only [List.cons_append, List.append_assoc, List.nil_append] at hmembers ⊢
    refine value?_members ?_ hmembers
    rw [skipSpace_append (l.areBlank_break _), skipSpace_cons rfl]

theorem items?_written (l : Layout) : ∀ (items : List Json) (level after fuel : Nat) (rest : List Char), items ≠ [] →
    HaveNumbers items → (joined (',' :: l.break level) (writtenItems l level items)).length < fuel →
    items? fuel (joined (',' :: l.break level) (writtenItems l level items) ++ (l.break after ++ ']' :: rest)) =
      some (items, rest)
  | [], _, _, _, _, hne, _, _ => absurd rfl hne
  | [j], level, after, fuel, rest, _, h, hfuel => by
    have hpos := length_written_pos l level h.1
    have hends : EndsNumber (l.break after ++ ']' :: rest) :=
      l.endsNumber_break after (endsNumber_cons rfl (by decide) _)
    change (written l level j).length < fuel at hfuel
    obtain ⟨fuel, rfl⟩ := Nat.exists_eq_add_of_le' (by omega : 2 ≤ fuel)
    exact items?_last (value?_written l j level fuel _ h.1 hends (by omega)) (skipSpace_break l after rfl rest)
  | j :: k :: more, level, after, fuel, rest, _, h, hfuel => by
    have hpos := length_written_pos l level h.1
    have htext : joined (',' :: l.break level) (writtenItems l level (j :: k :: more)) = written l level j ++
        ',' :: (l.break level ++ joined (',' :: l.break level) (writtenItems l level (k :: more))) := by
      simp [writtenItems, joined]
    rw [htext] at hfuel ⊢
    simp only [List.length_append, List.length_cons] at hfuel
    obtain ⟨fuel, rfl⟩ := Nat.exists_eq_add_of_le' (by omega : 2 ≤ fuel)
    rw [List.append_assoc, List.cons_append, List.append_assoc]
    have hvalue (cs : List Char) := value?_written l j level fuel (',' :: cs) h.1 (endsNumber_comma cs) (by omega)
    refine items?_next (hvalue _) (skipSpace_cons rfl _) ?_
    rw [items?_skipSpace _ (l.areBlank_break level)]
    exact items?_written l (k :: more) level after _ rest (by simp) h.2 (by omega)

theorem members?_written (l : Layout) : ∀ (members : List (String × Json)) (level after fuel : Nat) (rest : List Char),
    members ≠ [] → MembersHaveNumbers members →
    (joined (',' :: l.break level) (writtenMembers l level members)).length < fuel →
    members? fuel (joined (',' :: l.break level) (writtenMembers l level members) ++ (l.break after ++ '}' :: rest)) =
      some (members, rest)
  | [], _, _, _, _, hne, _, _ => absurd rfl hne
  | [(name, j)], level, after, fuel, rest, _, h, hfuel => by
    have hpos := length_written_pos l level h.1
    have hends : EndsNumber (l.break after ++ '}' :: rest) :=
      l.endsNumber_break after (endsNumber_cons rfl (by decide) _)
    have htext : joined (',' :: l.break level) (writtenMembers l level [(name, j)]) =
        quoted name ++ ':' :: (l.afterColon ++ written l level j) := by
      simp [writtenMembers, joined, l.colon_eq]
    rw [htext] at hfuel ⊢
    simp only [List.length_append, List.length_cons] at hfuel
    obtain ⟨fuel, rfl⟩ := Nat.exists_eq_add_of_le' (by omega : 2 ≤ fuel)
    rw [List.append_assoc, List.cons_append, List.append_assoc]
    refine members?_last name ?_ (skipSpace_break l after rfl rest)
    rw [value?_skipSpace _ l.areBlank_afterColon]
    exact value?_written l j level fuel _ h.1 hends (by omega)
  | (name, j) :: m :: more, level, after, fuel, rest, _, h, hfuel => by
    have hpos := length_written_pos l level h.1
    have htext : joined (',' :: l.break level) (writtenMembers l level ((name, j) :: m :: more)) =
        quoted name ++ ':' :: (l.afterColon ++ (written l level j ++
          ',' :: (l.break level ++ joined (',' :: l.break level) (writtenMembers l level (m :: more))))) := by
      obtain ⟨other, k⟩ := m
      simp [writtenMembers, joined, l.colon_eq]
    rw [htext] at hfuel ⊢
    simp only [List.length_append, List.length_cons] at hfuel
    obtain ⟨fuel, rfl⟩ := Nat.exists_eq_add_of_le' (by omega : 2 ≤ fuel)
    simp only [List.append_assoc, List.cons_append]
    have hvalue (cs : List Char) := value?_written l j level fuel (',' :: cs) h.1 (endsNumber_comma cs) (by omega)
    refine members?_next name ((value?_skipSpace _ l.areBlank_afterColon _).trans (hvalue _)) (skipSpace_cons rfl _) ?_
    rw [members?_skipSpace _ (l.areBlank_break level)]
    exact members?_written l (m :: more) level after _ rest (by simp) h.2 (by omega)
end

/-- The text of a value is read as that value and nothing else, also with blanks after it. -/
theorem ofText?_pretty {j : Json} (h : j.HasNumbers) {blank : String} (hblank : AreBlank blank.toList) :
    ofText? (j.pretty ++ blank) = some j := by
  have htext : (j.pretty ++ blank).toList = written ⟨true⟩ 0 j ++ blank.toList := by
    rw [String.toList_append, pretty, String.toList_ofList]
  have hread := value?_written ⟨true⟩ j 0 (written ⟨true⟩ 0 j ++ blank.toList).length blank.toList h
    hblank.endsNumber (by simp only [List.length_append]; omega)
  have hskip : skipSpace blank.toList = [] := by
    have hall := skipSpace_append hblank []
    rwa [List.append_nil] at hall
  simp only [ofText?, htext, hread, hskip, Option.bind_eq_bind, Option.bind_some, List.isEmpty_nil, if_true]

end RepoConventions.Json
