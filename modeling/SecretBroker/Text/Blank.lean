/-!
# Blank characters

The characters of the Unicode property `White_Space`, and texts without them at the ends. A text is
blank when it holds nothing else.
-/

namespace SecretBroker.Text

/-- The 25 characters of the property `White_Space`. -/
def isBlank (c : Char) : Bool :=
  let n := c.toNat
  (0x09 ≤ n && n ≤ 0x0D) || n == 0x20 || n == 0x85 || n == 0xA0 || n == 0x1680
    || (0x2000 ≤ n && n ≤ 0x200A) || n == 0x2028 || n == 0x2029 || n == 0x202F || n == 0x205F
    || n == 0x3000

/-- `cs` without the characters of `p` at its end. -/
def dropEndWhile (p : Char → Bool) (cs : List Char) : List Char := (cs.reverse.dropWhile p).reverse

/-- `cs` without the characters of `p` at both ends. -/
def trimWhile (p : Char → Bool) (cs : List Char) : List Char := dropEndWhile p (cs.dropWhile p)

/-- The text without blanks at both ends. -/
def trimmed (s : String) : String := String.ofList (trimWhile isBlank s.toList)

/-- Whether the text is empty but for blanks. -/
def isBlankText (s : String) : Bool := s.toList.all isBlank

/-- The text with the letters `A` to `Z` in lower case. -/
def lowered (s : String) : String := s.map Char.toLower

/-- What stands before a character that stays is left alone. -/
theorem dropEndWhile_append {p : Char → Bool} {l : List Char} (hl : ∀ c ∈ l.getLast?, p c = false)
    (tail : List Char) : dropEndWhile p (l ++ tail) = l ++ dropEndWhile p tail := by
  have hr : l.reverse.dropWhile p = l.reverse := by
    cases hr : l.reverse with
    | nil => rfl
    | cons c more =>
      have hc := hl c (by rw [List.getLast?_eq_head?_reverse, hr]; rfl)
      exact List.dropWhile_cons_of_neg (by rw [hc]; exact Bool.false_ne_true)
  simp only [dropEndWhile, List.reverse_append, List.dropWhile_append, hr]
  split
  · rename_i he
    rw [List.reverse_reverse, List.isEmpty_iff.1 he, List.reverse_nil, List.append_nil]
  · rw [List.reverse_append, List.reverse_reverse]

end SecretBroker.Text
