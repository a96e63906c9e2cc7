/-!
# White space

The Unicode property `White_Space`, and text without it at either end.
-/

namespace RepoConventions.Text

def isBlank (c : Char) : Bool :=
  let n := c.toNat
  (9 ≤ n && n ≤ 13) || n = 0x20 || n = 0x85 || n = 0xA0 || n = 0x1680 || (0x2000 ≤ n && n ≤ 0x200A) ||
    n = 0x2028 || n = 0x2029 || n = 0x202F || n = 0x205F || n = 0x3000

/-- Drops a run of characters from both ends. -/
def trimBoth (drop : Char → Bool) (s : List Char) : List Char :=
  ((s.dropWhile drop).reverse.dropWhile drop).reverse

/-- What is put around a text is dropped, and no more, if the text begins and ends with something else. -/
theorem trimBoth_within {drop : Char → Bool} {front back s : List Char} (hfront : ∀ c ∈ front, drop c = true)
    (hback : ∀ c ∈ back, drop c = true) (hhead : ∀ d ∈ s.head?, drop d = false)
    (hlast : ∀ d ∈ s.getLast?, drop d = false) : trimBoth drop (front ++ (s ++ back)) = s := by
  have hstays (r : List Char) (h : ∀ d ∈ r.head?, drop d = false) : r.dropWhile drop = r := by
    cases r with
    | nil => rfl
    | cons d r => rw [List.dropWhile_cons_of_neg (by simp [h d rfl])]
  have hends : (s ++ back).reverse.dropWhile drop = s.reverse := by
    rw [List.reverse_append, List.dropWhile_append_of_pos (by simpa using hback)]
    exact hstays _ (by simpa using hlast)
  rw [trimBoth, List.dropWhile_append_of_pos hfront]
  cases s with
  | nil =>
    have hnone : (back ++ []).dropWhile drop = [] := List.dropWhile_append_of_pos hback
    rw [List.append_nil] at hnone
    simp [hnone]
  | cons d r => rw [hstays (d :: r ++ back) (by simpa using hhead), hends, List.reverse_reverse]

def trim (s : String) : String := .ofList (trimBoth isBlank s.toList)

end RepoConventions.Text
