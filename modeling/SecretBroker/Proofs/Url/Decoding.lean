import Mathlib
import SecretBroker.Url.Path

/-!
# Reading percent-encoding back

A text that was written with an encode set that has the percent sign reads back as the bytes it was
made of (`percentDecode_percentEncode`). So does a segment of dots in any of its spellings: it stands
for the dots (`percentDecode_of_isSingleDot`, `percentDecode_of_isDoubleDot`).
-/

namespace SecretBroker.Url

theorem utf8Bytes_injective : Function.Injective Text.utf8Bytes := by
  intro s t h
  have he : s.toList.utf8Encode = t.toList.utf8Encode := congrArg List.toByteArray h
  rwa [String.utf8Encode_toList, String.utf8Encode_toList, String.toByteArray_inj] at he

section Encoded

variable {set : EncodeSet}

theorem hexDigit?_upperHex : ∀ n < 16, Text.hexDigit? (upperHex n) = some n := by decide

theorem percentDecode_cons_of_ne {c : Char} (hc : c ≠ '%') (rest : List Char) :
    percentDecode (c :: rest) = String.utf8EncodeChar c ++ percentDecode rest := by
  rw [percentDecode.eq_def]
  split <;> simp_all

theorem percentDecode_percentByte (b : UInt8) (rest : List Char) :
    percentDecode (percentByte b ++ rest) = b :: percentDecode rest := by
  have hb := b.toNat_lt
  have hhi := hexDigit?_upperHex (b.toNat / 16) (by omega)
  have hlo := hexDigit?_upperHex (b.toNat % 16) (by omega)
  simp only [percentByte, List.cons_append, List.nil_append]
  rw [percentDecode]
  simp only [hhi, hlo, Nat.div_add_mod, UInt8.ofNat_toNat]

theorem percentDecode_flatMap_percentByte (rest : List Char) : ∀ bytes : List UInt8,
    percentDecode (bytes.flatMap percentByte ++ rest) = bytes ++ percentDecode rest
  | [] => rfl
  | b :: bytes => by
    rw [List.flatMap_cons, List.append_assoc, percentDecode_percentByte,
      percentDecode_flatMap_percentByte rest bytes, List.cons_append]

theorem percentDecode_percentChar (hs : set '%' = true) (c : Char) (rest : List Char) :
    percentDecode (percentChar set c ++ rest) = String.utf8EncodeChar c ++ percentDecode rest := by
  by_cases hc : set c = true
  · rw [percentChar, if_pos hc, percentDecode_flatMap_percentByte]
  · rw [percentChar, if_neg hc, List.cons_append, List.nil_append]
    exact percentDecode_cons_of_ne (fun h => hc (by rw [h, hs])) rest

theorem percentDecode_percentEncode (hs : set '%' = true) : ∀ cs : List Char,
    percentDecode (percentEncode set cs) = cs.flatMap String.utf8EncodeChar
  | [] => rfl
  | c :: cs => by
    have ih := percentDecode_percentEncode hs cs
    simp only [percentEncode, List.flatMap_cons] at ih ⊢
    rw [percentDecode_percentChar hs, ih]

end Encoded

section Dots

theorem eq_of_toLower {c d : Char} (h : c.toLower = d) (hd : d.isLower = false) : c = d := by
  by_cases hu : c.isUpper = true
  · have hl : c.toLower.isLower = true := by
      rw [Char.isLower_toLower_eq_isAlpha, Char.isAlpha, hu, Bool.true_or]
    rw [h, hd] at hl
    cases hl
  · rw [← h, Char.toLower_eq_of_not_isUpper hu]

theorem eq_or_eq_toUpper_of_toLower {c d : Char} (h : c.toLower = d) : c = d ∨ c = d.toUpper := by
  by_cases hu : c.isUpper = true
  · right
    rw [← h, Char.toUpper_toLower_eq_toUpper,
      Char.toUpper_eq_of_not_isLower (Char.not_isLower_of_isUpper hu)]
  · exact .inl (by rw [← h, Char.toLower_eq_of_not_isUpper hu])

theorem toLower_eq_iff {s t : String} :
    s.toLower = t ↔ s.toList.map Char.toLower = t.toList := by
  rw [← String.toList_inj, String.toLower, String.toList_map]

theorem map_toLower_eq_cons {l m : List Char} {d : Char} (hd : d.isLower = false)
    (h : l.map Char.toLower = d :: m) : ∃ l', l = d :: l' ∧ l'.map Char.toLower = m := by
  obtain ⟨c, l', rfl, hc, hl⟩ := List.map_eq_cons_iff.1 h
  exact ⟨l', by rw [eq_of_toLower hc hd], hl⟩

/-- The spellings of a dot, an escape in small letters. -/
def dotForms : List (List Char) := [['.'], ['%', '2', 'e']]

/-- A dot at the front, escaped or not, stands for a dot. -/
theorem percentDecode_of_dot {l m d : List Char} (hd : d ∈ dotForms)
    (h : l.map Char.toLower = d ++ m) :
    ∃ l', l'.map Char.toLower = m ∧ percentDecode l = 0x2E :: percentDecode l' := by
  simp only [dotForms, List.mem_cons, List.not_mem_nil, or_false] at hd
  rcases hd with rfl | rfl
  · obtain ⟨l₁, rfl, h₁⟩ := map_toLower_eq_cons rfl h
    exact ⟨l₁, h₁, percentDecode_cons_of_ne (by decide) l₁⟩
  · obtain ⟨l₁, rfl, h₁⟩ := map_toLower_eq_cons rfl h
    obtain ⟨l₂, rfl, h₂⟩ := map_toLower_eq_cons rfl h₁
    obtain ⟨c, l₃, rfl, hc, h₃⟩ := List.map_eq_cons_iff.1 h₂
    refine ⟨l₃, h₃, ?_⟩
    rcases eq_or_eq_toUpper_of_toLower hc with rfl | rfl
    · rw [percentDecode.eq_def]
      rfl
    · rw [percentDecode]
      rfl

theorem percentDecode_of_dots {s : String} {d d' : List Char} (hd : d ∈ dotForms)
    (hd' : d' ∈ dotForms) (h : s.toList.map Char.toLower = d ++ d') :
    percentDecode s.toList = [0x2E, 0x2E] := by
  obtain ⟨l, hl, he⟩ := percentDecode_of_dot hd h
  obtain ⟨l', hl', he'⟩ := percentDecode_of_dot hd' (hl.trans (List.append_nil _).symm)
  rw [he, he', List.map_eq_nil_iff.1 hl']
  rfl

theorem percentDecode_of_isSingleDot {s : String} (h : isSingleDot s = true) :
    percentDecode s.toList = Text.utf8Bytes "." := by
  have hs : ∃ d ∈ dotForms, s.toList.map Char.toLower = d := by
    simpa [isSingleDot, toLower_eq_iff, dotForms] using h
  obtain ⟨d, hd, hs⟩ := hs
  obtain ⟨l, hl, he⟩ := percentDecode_of_dot hd (hs.trans (List.append_nil _).symm)
  rw [he, List.map_eq_nil_iff.1 hl]
  rfl

theorem percentDecode_of_isDoubleDot {s : String} (h : isDoubleDot s = true) :
    percentDecode s.toList = Text.utf8Bytes ".." := by
  simp only [isDoubleDot, List.mem_cons, List.not_mem_nil, or_false, decide_eq_true_eq,
    toLower_eq_iff] at h
  have hp : ['.'] ∈ dotForms := by decide
  have he : ['%', '2', 'e'] ∈ dotForms := by decide
  rcases h with h | h | h | h
  · exact percentDecode_of_dots hp hp h
  · exact percentDecode_of_dots he he h
  · exact percentDecode_of_dots he hp h
  · exact percentDecode_of_dots hp he h

end Dots
end SecretBroker.Url
