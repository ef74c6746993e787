import Mathlib.Tactic.IntervalCases
import SecretBroker.Json.Lexeme
import SecretBroker.Json.Printer

/-!
# Strings and numbers read as they are written

What stands behind a string or a number is left alone: a string ends at its quote
(`string?_quoted`), and a natural number of 64 bits where no digit, point or power follows
(`number?_toString`).
-/

namespace SecretBroker.Json

section Strings

/-- The two digits of a control character. -/
theorem hexUnit?_control {n : Nat} (h : n < 0x20) (tail : List Char) :
    hexUnit? ('0' :: '0' :: Nat.digitChar (n / 16) :: Nat.digitChar (n % 16) :: tail)
      = some (n, tail) := by
  interval_cases n <;> rfl

theorem stringChars_escaped (c : Char) (fuel : Nat) (tail : List Char) :
    stringChars (fuel + 1) (escaped c ++ tail)
      = (stringChars fuel tail).map fun p => (c :: p.1, p.2) := by
  -- A letter for the character behind a backslash.
  have hshort {e : Char} (he : e ≠ 'u') (hc : shortEscape? e = some c) :
      stringChars (fuel + 1) ('\\' :: e :: tail)
        = (stringChars fuel tail).map fun p => (c :: p.1, p.2) := by
    rw [stringChars]
    · simp only [hc, beq_iff_eq, if_true, Option.bind_eq_bind, Option.bind_some]
      rcases stringChars fuel tail with _ | p <;> rfl
    · exact he
  unfold escaped
  split_ifs with hquote hback hline hreturn htab hdelete hpage hcontrol
  · obtain rfl := eq_of_beq hquote
    exact hshort (by decide) rfl
  · obtain rfl := eq_of_beq hback
    exact hshort (by decide) rfl
  · obtain rfl := eq_of_beq hline
    exact hshort (by decide) rfl
  · obtain rfl := eq_of_beq hreturn
    exact hshort (by decide) rfl
  · obtain rfl := eq_of_beq htab
    exact hshort (by decide) rfl
  · obtain rfl := eq_of_beq hdelete
    exact hshort (by decide) rfl
  · obtain rfl := eq_of_beq hpage
    exact hshort (by decide) rfl
  · have hu : unicodeEscape? ('0' :: '0' :: Nat.digitChar (c.toNat / 16)
        :: Nat.digitChar (c.toNat % 16) :: tail) = some (c, tail) := by
      rw [unicodeEscape?, hexUnit?_control hcontrol]
      simp only [Option.bind_eq_bind, Option.bind_some]
      rw [if_pos (.inl (by omega)), Char.ofNat_toNat]
      rfl
    simp only [List.cons_append, List.nil_append]
    rw [stringChars, hu]
    simp only [Option.bind_eq_bind, Option.bind_some]
    rcases stringChars fuel tail with _ | p <;> rfl
  · rw [List.singleton_append, stringChars.eq_def]
    dsimp only
    rw [if_neg hquote, if_neg hback, if_neg hcontrol]
    rcases stringChars fuel tail with _ | p <;> rfl

theorem stringChars_flatMap : ∀ (l : List Char) {fuel : Nat} (rest : List Char), l.length < fuel →
    stringChars fuel (l.flatMap escaped ++ '\x22' :: rest) = some (l, rest)
  | _, 0, _, h => absurd h (Nat.not_lt_zero _)
  | [], fuel + 1, rest, _ => rfl
  | c :: l, fuel + 1, rest, h => by
    rw [List.flatMap_cons, List.append_assoc, stringChars_escaped,
      stringChars_flatMap l rest (Nat.lt_of_succ_lt_succ h)]
    rfl

theorem length_le_flatMap_escaped : ∀ l : List Char, l.length ≤ (l.flatMap escaped).length
  | [] => Nat.le_refl _
  | c :: l => by
    have hc : 0 < (escaped c).length := by
      unfold escaped
      split_ifs <;> exact Nat.succ_pos _
    have hl := length_le_flatMap_escaped l
    rw [List.flatMap_cons, List.length_append, List.length_cons]
    omega

theorem string?_quoted (s : String) (rest : List Char) :
    string? (s.toList.flatMap escaped ++ '\x22' :: rest) = some (s, rest) := by
  have hl := length_le_flatMap_escaped s.toList
  rw [string?, stringChars_flatMap]
  · simp
  · rw [List.length_append]
    omega

end Strings

section Numbers

theorem decimal_toDigits (n : Nat) : Text.decimal (Nat.toDigits 10 n) = n := by
  have h : Text.decimal (Nat.toDigits 10 n) = Nat.ofDigitChars 10 (Nat.toDigits 10 n) 0 := by
    simp only [Text.decimal, Nat.ofDigitChars, Nat.mul_comm 10]
    rfl
  rw [h, Nat.ofDigitChars_ten_toDigits]

/-- No number but zero begins with the digit zero. -/
theorem head?_toDigits_ne {n : Nat} (h : 0 < n) : (Nat.toDigits 10 n).head? ≠ some '0' := by
  induction n using Nat.strong_induction_on with
  | _ n ih =>
    rcases Nat.lt_or_ge n 10 with hn | hn
    · rw [Nat.toDigits_of_lt_base hn]
      interval_cases n <;> decide
    · rw [Nat.toDigits_of_base_le (by decide) hn, List.head?_append,
        Option.or_of_isSome (List.isSome_head?.2 Nat.toDigits_ne_nil)]
      exact ih (n / 10) (by omega) (by omega)

/-- What may stand behind a value: nothing, or a blank, a comma or a closing bracket. -/
def Follows (rest : List Char) : Prop :=
  ∀ c ∈ rest.head?, isSpace c = true ∨ c = ',' ∨ c = ']' ∨ c = '\x7d'

theorem Follows.cases {c : Char} {rest : List Char} (h : Follows (c :: rest)) :
    c = ' ' ∨ c = '\n' ∨ c = '\t' ∨ c = '\r' ∨ c = ',' ∨ c = ']' ∨ c = '\x7d' := by
  rcases h c rfl with hs | hc
  · simp only [isSpace, Bool.or_eq_true, beq_iff_eq] at hs
    tauto
  · tauto

/-- Digits end where they are followed by what may stand behind a value. -/
theorem digits_append {ds rest : List Char} (hd : ∀ c ∈ ds, c.isDigit = true) (hr : Follows rest) :
    digits (ds ++ rest) = (ds, rest) := by
  have hrest : rest.takeWhile Char.isDigit = [] ∧ rest.dropWhile Char.isDigit = rest := by
    rcases rest with _ | ⟨c, rest⟩
    · exact ⟨rfl, rfl⟩
    · rcases hr.cases with rfl | rfl | rfl | rfl | rfl | rfl | rfl <;> exact ⟨rfl, rfl⟩
  rw [digits, List.takeWhile_append_of_pos hd, List.dropWhile_append_of_pos hd, hrest.1, hrest.2,
    List.append_nil]

theorem fraction?_of_follows {rest : List Char} (hr : Follows rest) :
    fraction? rest = some (none, rest) := by
  rcases rest with _ | ⟨c, rest⟩
  · rfl
  · rcases hr.cases with rfl | rfl | rfl | rfl | rfl | rfl | rfl <;> rfl

theorem power?_of_follows {rest : List Char} (hr : Follows rest) :
    power? rest = some (none, rest) := by
  rcases rest with _ | ⟨c, rest⟩
  · rfl
  · rcases hr.cases with rfl | rfl | rfl | rfl | rfl | rfl | rfl <;> rfl

theorem numeral?_toDigits (n : Nat) {rest : List Char} (hr : Follows rest) :
    numeral? (Nat.toDigits 10 n ++ rest) = some ({
      negative := false
      whole := Nat.toDigits 10 n
      fraction := none
      power := none }, rest) := by
  have hd (c : Char) (hc : c ∈ Nat.toDigits 10 n) : c.isDigit = true :=
    Nat.isDigit_of_mem_toDigits (by decide) (by decide) hc
  have hzero : ¬ ((Nat.toDigits 10 n).isEmpty
      || ((Nat.toDigits 10 n).head? == some '0' && decide (1 < (Nat.toDigits 10 n).length))) = true := by
    rcases Nat.eq_zero_or_pos n with rfl | hpos
    · decide
    · simp [Nat.toDigits_ne_nil, head?_toDigits_ne hpos]
  have hminus (cs : List Char) (h : Nat.toDigits 10 n ++ rest = '-' :: cs) : False := by
    rcases hds : Nat.toDigits 10 n with _ | ⟨d, ds⟩
    · exact Nat.toDigits_ne_nil hds
    · rw [hds] at h hd
      obtain ⟨rfl, -⟩ := List.cons_eq_cons.1 h
      cases hd '-' List.mem_cons_self
  rw [numeral?]
  · dsimp only
    rw [digits_append hd hr]
    dsimp only
    rw [if_neg hzero, fraction?_of_follows hr]
    simp only [Option.bind_eq_bind, Option.bind_some, power?_of_follows hr]
    rfl
  · exact hminus

theorem number?_toString {n : Nat} (hn : n ≤ wordMax) {rest : List Char} (hr : Follows rest) :
    number? ((toString n).toList ++ rest) = some (.whole n, rest) := by
  have hdigits : (toString n).toList = Nat.toDigits 10 n := Nat.toList_repr
  rw [hdigits, number?, numeral?_toDigits n hr]
  simp only [Option.bind_eq_bind, Option.bind_some, Numeral.number?, decimal_toDigits]
  simp [hn]

end Numbers

end SecretBroker.Json
