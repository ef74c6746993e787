import SecretBroker.Proofs.Url.Decoding
import SecretBroker.Proofs.Url.Lettering

/-!
# Blanks at the end of a host

Blanks and controls around the text of a URL are passed over, and which of them are is not the same
everywhere. That makes no difference to the host, for no host has one at its end
(`not_isUnseen_of_host`): in a domain name a blank or control stays itself or counts as the space, and
neither composing characters nor reading Punycode takes it away again.
-/

namespace SecretBroker

namespace Unicode

variable {c d : Char} {cs : List Char}

section Kept

theorem mem_insertMark : ∀ {marks : List Char}, d = c ∨ d ∈ marks → d ∈ insertMark c marks
  | [], h => by simpa [insertMark] using h
  | e :: marks, h => by
    rw [insertMark]
    split
    · exact List.mem_cons.2 h
    · rw [List.mem_cons]
      rcases h with h | h
      · exact .inr (mem_insertMark (.inl h))
      · rcases List.mem_cons.1 h with h | h
        · exact .inl h
        · exact .inr (mem_insertMark (.inr h))

/-- Marks that are put in order are still there. -/
theorem mem_ordered : ∀ {cs marks : List Char}, d ∈ marks ∨ d ∈ cs → d ∈ ordered marks cs
  | [], marks, h => by simpa [ordered] using h
  | c :: cs, marks, h => by
    rw [List.mem_cons] at h
    rw [ordered]
    split
    · rw [List.mem_append, List.mem_cons]
      rcases h with h | h | h
      · exact .inl h
      · exact .inr (.inl h)
      · exact .inr (.inr (mem_ordered (.inr h)))
    · rcases h with h | h | h
      · exact mem_ordered (.inl (mem_insertMark (.inr h)))
      · exact mem_ordered (.inl (mem_insertMark (.inl h)))
      · exact mem_ordered (.inr h)

theorem composed?_of_isLow {a b : Char} (h : isLow a = true ∨ isLow b = true) :
    composed? a b = none := by
  rw [composed?, if_pos (Bool.or_eq_true_iff.2 h)]

theorem mem_composedWith (hd : isLow d = true) : ∀ {cs marks : List Char} {base : Char},
    d = base ∨ d ∈ marks ∨ d ∈ cs → d ∈ composedWith base marks cs
  | [], marks, base, h => by simpa [composedWith] using h
  | c :: cs, marks, base, h => by
    rw [List.mem_cons] at h
    rw [composedWith]
    split
    · rename_i composed hc
      split_ifs at hc
      refine mem_composedWith hd (.inr ?_)
      rcases h with rfl | h | rfl | h
      · rw [composed?_of_isLow (.inl hd)] at hc
        cases hc
      · exact .inl h
      · rw [composed?_of_isLow (.inr hd)] at hc
        cases hc
      · exact .inr h
    · split
      · rw [List.cons_append, List.mem_cons, List.mem_append]
        rcases h with h | h | h | h
        · exact .inl h
        · exact .inr (.inl h)
        · exact .inr (.inr (mem_composedWith hd (.inl h)))
        · exact .inr (.inr (mem_composedWith hd (.inr (.inr h))))
      · refine mem_composedWith hd ?_
        rw [List.mem_append, List.mem_singleton]
        tauto

/-- A control or space stays in the composed form of a text. -/
theorem mem_composedForm (hd : isLow d = true) (h : d ∈ cs) : d ∈ composedForm cs := by
  have hparts : decomposed partsDepth d = [d] := by
    rw [partsDepth, decomposed, parts?, if_pos hd]
  have hm : d ∈ ordered [] (cs.flatMap (decomposed partsDepth)) := by
    refine mem_ordered (.inr (List.mem_flatMap.2 ⟨d, h, ?_⟩))
    rw [hparts]
    exact List.mem_singleton_self d
  rw [composedForm]
  generalize ordered [] (cs.flatMap (decomposed partsDepth)) = ds at hm ⊢
  rw [← List.takeWhile_append_dropWhile (p := fun c => markClass c != 0) (l := ds),
    List.mem_append] at hm
  split
  · rename_i hr
    rw [hr] at hm
    simpa using hm
  · rename_i base rest hr
    rw [hr, List.mem_cons] at hm
    rw [List.mem_append]
    rcases hm with hm | hm | hm
    · exact .inl hm
    · exact .inr (mem_composedWith hd (.inl hm))
    · exact .inr (mem_composedWith hd (.inr (.inr hm)))

end Kept

end Unicode

namespace Text.Punycode

variable {c : Char}

/-- What is no digit is left when a step has been read. -/
theorem mem_of_readStep {bias : Nat} (hc : digitValue? c = none) : ∀ {cs rest : List Char}
    {k weight step : Nat}, readStep bias k weight cs = some (step, rest) → c ∈ cs → c ∈ rest
  | [], _, _, _, _, _, hm => by cases hm
  | d :: cs, rest, k, weight, step, h, hm => by
    rw [readStep] at h
    obtain ⟨v, hv, h⟩ := Option.bind_eq_some_iff.1 h
    rcases List.mem_cons.1 hm with rfl | hm
    · rw [hc] at hv
      cases hv
    dsimp only at h
    split at h
    · cases h
      exact hm
    · obtain ⟨⟨step', rest'⟩, hr, h⟩ := Option.bind_eq_some_iff.1 h
      cases h
      exact mem_of_readStep hc hr hm

/-- Characters are only put in, and only by digits. -/
theorem mem_of_putIn (hc : digitValue? c = none) : ∀ {fuel n i bias : Nat} {isFirst : Bool}
    {text digits out : List Char}, putIn fuel n i bias isFirst text digits = some out →
    c ∉ digits ∧ (c ∈ text → c ∈ out)
  | fuel, n, i, bias, isFirst, text, [], out, h => by
    rw [putIn] at h
    cases h
    exact ⟨List.not_mem_nil, id⟩
  | 0, n, i, bias, isFirst, text, d :: ds, out, h => by cases h
  | fuel + 1, n, i, bias, isFirst, text, d :: ds, out, h => by
    rw [putIn] at h
    obtain ⟨⟨step, rest⟩, hr, h⟩ := Option.bind_eq_some_iff.1 h
    obtain ⟨e, -, h⟩ := Option.bind_eq_some_iff.1 h
    obtain ⟨hrest, hout⟩ := mem_of_putIn hc h
    refine ⟨fun hm => hrest (mem_of_readStep hc hr hm), fun hm => hout ?_⟩
    rw [← List.take_append_drop ((i + step) % (text.length + 1)) text, List.mem_append] at hm
    rw [List.mem_append, List.mem_cons]
    exact hm.imp id .inr

/-- What is neither a digit nor a hyphen stays in the text that a code writes. -/
theorem mem_of_decode {code text : List Char} (hc : digitValue? c = none) (hh : c ≠ '-')
    (h : decode? code = some text) (hm : c ∈ code) : c ∈ text := by
  rw [decode?] at h
  have hsplit : (code.reverse.dropWhile (· != '-')).reverse
      ++ (code.reverse.takeWhile (· != '-')).reverse = code := by
    rw [← List.reverse_append, List.takeWhile_append_dropWhile, List.reverse_reverse]
  have hlast : ∀ d ∈ (code.reverse.dropWhile (· != '-')).reverse.getLast?, d = '-' := by
    intro d hd
    have hn := List.head?_dropWhile_not (· != '-') code.reverse
    rw [List.getLast?_reverse, Option.mem_def] at hd
    rw [hd] at hn
    simpa using hn
  generalize (code.reverse.takeWhile (· != '-')).reverse = digits at h hsplit
  generalize (code.reverse.dropWhile (· != '-')).reverse = plain at hsplit hlast
  have hplain : code.take (code.length - digits.length) = plain := by
    rw [← hsplit, List.length_append, Nat.add_sub_cancel, List.take_left]
  rw [hplain] at h
  split at h
  · cases h
  obtain ⟨hdigits, hout⟩ := mem_of_putIn hc h
  rw [← hsplit, List.mem_append] at hm
  refine hout (List.mem_dropLast_of_mem_of_ne_getLast? (hm.resolve_right hdigits) fun he => ?_)
  exact hh (hlast c he.symm)

end Text.Punycode

namespace Text

variable {x : UInt8} {bs xs : List UInt8}

theorem followsFirst_eq_false (hx : follows x = false) (b : Nat) : followsFirst b x = false := by
  simp only [follows, Bool.and_eq_false_iff, decide_eq_false_iff_not] at hx
  simp only [followsFirst, Bool.and_eq_false_iff, decide_eq_false_iff_not]
  split_ifs <;> omega

/-- What cannot go on a character leaves the front before it as it is. -/
theorem utf8Head_append (hx : follows x = false) (b : UInt8) (bs : List UInt8) :
    utf8Head (b :: bs ++ x :: xs)
      = (utf8Head (b :: bs)).map fun (h, rest) => (h, rest ++ x :: xs) := by
  have hf := followsFirst_eq_false hx
  -- The front has at most four bytes, and its first one says how many.
  rcases bs with _ | ⟨c, _ | ⟨d, _ | ⟨e, bs⟩⟩⟩
  all_goals
    rcases hk : utf8Length b.toNat with _ | _ | _ | _ | _ | k
  all_goals
    simp only [utf8Head, hk, hf, hx, List.cons_append, List.nil_append, Bool.false_eq_true, if_false]
    try split_ifs
  all_goals rfl

theorem exists_utf8Head (b : UInt8) (bs : List UInt8) :
    ∃ h rest, utf8Head (b :: bs) = some (h, rest) ∧ rest.length ≤ bs.length := by
  rcases bs with _ | ⟨c, _ | ⟨d, _ | ⟨e, bs⟩⟩⟩
  all_goals
    rcases hk : utf8Length b.toNat with _ | _ | _ | _ | _ | k
  all_goals
    simp only [utf8Head, hk]
    try split_ifs
  all_goals
    refine ⟨_, _, rfl, ?_⟩
    simp only [List.length_cons, List.length_nil]
    omega

/-- A character is read behind bytes of any kind. -/
theorem char_mem_utf8Heads {c : Char} (hx : follows x = false)
    (hc : utf8Head (x :: xs) = some (.char c, [])) : ∀ {fuel : Nat} {bs : List UInt8},
    bs.length < fuel → Utf8Head.char c ∈ utf8Heads fuel (bs ++ x :: xs)
  | 0, _, h => absurd h (Nat.not_lt_zero _)
  | fuel + 1, [], _ => by
    rw [List.nil_append, utf8Heads, hc]
    exact List.mem_cons_self
  | fuel + 1, b :: bs, h => by
    obtain ⟨head, rest, hh, hl⟩ := exists_utf8Head b bs
    rw [List.length_cons] at h
    rw [utf8Heads, utf8Head_append hx, hh]
    exact List.mem_cons_of_mem _ (char_mem_utf8Heads hx hc (by omega))

theorem mem_decodedLossy {c : Char} (hx : follows x = false)
    (hc : utf8Head (x :: xs) = some (.char c, [])) (bs : List UInt8) :
    c ∈ (decodedLossy (bs ++ x :: xs)).toList := by
  rw [decodedLossy, decodedWith, String.toList_ofList]
  have hl : bs.length < (bs ++ x :: xs).length := by simp
  exact List.mem_map.2 ⟨_, char_mem_utf8Heads hx hc hl, rfl⟩

end Text

namespace Url

variable {c : Char} {cs : List Char}

/-- A character that is passed over at an end of a text: a control or a blank. -/
def isUnseen (c : Char) : Bool := Unicode.isLow c || Text.isBlank c

section Names

/-- In a domain name a control or blank stays what it is or counts as the space. -/
theorem isLow_of_domainMapping {ds : List Char} (hc : isUnseen c = true)
    (h : Unicode.domainMapping? c = some ds) : ∃ d ∈ ds, Unicode.isLow d = true := by
  rw [Unicode.domainMapping?] at h
  split at h
  · rename_i ha
    cases h
    refine ⟨_, List.mem_singleton_self _, ?_⟩
    exact of_ascii (p := fun c => isUnseen c = true → Unicode.isLow c.toLower = true) (by decide)
      ha hc
  · rename_i ha
    split at h
    · rw [Unicode.domainBlank?] at h
      split at h
      · cases h
      · cases h
        exact ⟨' ', List.mem_singleton_self _, by decide⟩
    · rename_i hb
      rw [isUnseen, Bool.or_eq_true] at hc
      have hlow := hc.resolve_right hb
      rw [Unicode.isLow, decide_eq_true_eq] at hlow
      omega

theorem isLow_of_mapped {ds : List Char} (hc : isUnseen c = true) (h : mapped? cs = some ds)
    (hm : c ∈ cs) : ∃ d ∈ ds, Unicode.isLow d = true := by
  obtain ⟨parts, hp, rfl⟩ := Option.map_eq_some_iff.1 h
  obtain ⟨part, hpart, he⟩ := exists_mem_of_mapM hp hm
  obtain ⟨d, hd, hlow⟩ := isLow_of_domainMapping hc he
  exact ⟨d, Unicode.mem_composedForm hlow (List.mem_flatten_of_mem hpart hd), hlow⟩

theorem ne_of_isLow {d e : Char} (hd : Unicode.isLow d = true) (he : 0x20 < e.toNat) : d ≠ e := by
  rintro rfl
  rw [Unicode.isLow, decide_eq_true_eq] at hd
  omega

theorem mem_of_label {part label : List Char} (hc : Unicode.isLow c = true)
    (h : label? part = some label) (hm : c ∈ part) : c ∈ label := by
  rw [label?] at h
  split at h
  · rename_i hp
    obtain ⟨code, rfl⟩ := List.isPrefixOf_iff_prefix.1 hp
    have hcode : c ∈ code := by
      refine (List.mem_append.1 hm).resolve_left fun hmark => ?_
      simp only [codeMark, List.mem_cons, List.not_mem_nil, or_false] at hmark
      rcases hmark with rfl | rfl | rfl | rfl <;> cases hc
    have hdigit : Text.Punycode.digitValue? c = none := by
      rw [Unicode.isLow, decide_eq_true_eq] at hc
      rw [Text.Punycode.digitValue?, if_neg (by omega), if_neg (by omega), if_neg (by omega)]
    rw [List.drop_left, decodedLabel?] at h
    split at h
    · cases h
    obtain ⟨text, ht, h⟩ := Option.bind_eq_some_iff.1 h
    split at h
    · cases h
    · cases h
      exact Text.Punycode.mem_of_decode hdigit (ne_of_isLow hc (by decide)) ht hcode
  · cases h
    exact hm

/-- No domain name has a control or blank in it. -/
theorem domainName?_eq_none (hc : isUnseen c = true) (hm : c ∈ cs) : domainName? cs = none := by
  rw [Option.eq_none_iff_forall_not_mem]
  intro name h
  obtain ⟨mapped, hmapped, h⟩ := Option.bind_eq_some_iff.1 h
  obtain ⟨labels, hlabels, h⟩ := Option.bind_eq_some_iff.1 h
  split at h
  · cases h
  rename_i hall
  obtain ⟨d, hd, hlow⟩ := isLow_of_mapped hc hmapped hm
  obtain ⟨part, hpart, hdp⟩ : ∃ part ∈ mapped.splitOn '.', d ∈ part := by
    have hjoin : ['.'].intercalate (mapped.splitOn '.') = mapped := List.intercalate_splitOn '.'
    rw [← hjoin] at hd
    refine (mem_intercalate hd).resolve_left fun hdot => ?_
    exact ne_of_isLow hlow (by decide) (List.mem_singleton.1 hdot)
  obtain ⟨label, hlabel, he⟩ := exists_mem_of_mapM hlabels hpart
  have hdl := mem_of_label hlow he hdp
  simp only [Bool.or_eq_true, not_or, Bool.not_eq_true', Bool.not_eq_false] at hall
  have hl := List.all_eq_true.1 hall.1 label hlabel
  have hd := List.all_eq_true.1 (Bool.and_eq_true_iff.1 hl).2 d hdl
  rw [Unicode.isLow, decide_eq_true_eq] at hlow
  simp only [isDomainChar, Bool.and_eq_true, decide_eq_true_eq] at hd
  omega

end Names

section Bytes

/-- A character that is no digit ends what comes before it, an escape or not. -/
theorem percentDecode_append (hc : Text.hexDigit? c = none) (cs : List Char) :
    percentDecode (cs ++ [c]) = percentDecode cs ++ String.utf8EncodeChar c := by
  fun_induction percentDecode cs with
  | case1 => simp [percentDecode.eq_def]
  | case2 a b rest x y hb ha ih =>
    simp only [List.cons_append, percentDecode, ha, hb, ih]
  | case3 a b rest hab ih =>
    simp only [List.cons_append, percentDecode] at ih ⊢
    rw [ih]
  | case4 d rest hr ih =>
    rw [List.cons_append, List.append_assoc, ← ih]
    by_cases hd : d = '%'
    · obtain ⟨rfl⟩ := hd
      rcases rest with _ | ⟨a, _ | ⟨b, rest⟩⟩
      · simp [percentDecode.eq_def]
      · rw [List.cons_append, List.nil_append, percentDecode, hc]
        rcases Text.hexDigit? a with _ | x <;> rfl
      · exact (hr a b rest rfl rfl).elim
    · exact percentDecode_cons_of_ne hd _

/-- What holds of each control and blank, to be tried out. -/
theorem of_isUnseen {p : Char → Prop}
    (h : ∀ n ∈ List.range 0x21 ++ [0x85, 0xA0, 0x1680] ++ List.range' 0x2000 11
      ++ [0x2028, 0x2029, 0x202F, 0x205F, 0x3000], p (Char.ofNat n))
    (hc : isUnseen c = true) : p c := by
  have hp := h c.toNat ?_
  · rwa [Char.ofNat_toNat] at hp
  · simp only [isUnseen, Unicode.isLow, Text.isBlank, Bool.or_eq_true, Bool.and_eq_true,
      decide_eq_true_eq, beq_iff_eq] at hc
    simp only [List.mem_append, List.mem_range, List.mem_range'_1, List.mem_cons, List.not_mem_nil,
      or_false]
    omega

/-- The bytes of a control or blank are read as it, and none of them goes on what comes before. -/
theorem utf8EncodeChar_of_isUnseen (hc : isUnseen c = true) :
    ∃ x xs, String.utf8EncodeChar c = x :: xs ∧ Text.follows x = false
      ∧ Text.utf8Head (x :: xs) = some (.char c, []) := by
  have h : ((String.utf8EncodeChar c).head?.all fun x => !Text.follows x) = true
      ∧ Text.utf8Head (String.utf8EncodeChar c) = some (.char c, []) :=
    of_isUnseen (p := fun c => ((String.utf8EncodeChar c).head?.all fun x => !Text.follows x) = true
      ∧ Text.utf8Head (String.utf8EncodeChar c) = some (.char c, [])) (by decide) hc
  rcases he : String.utf8EncodeChar c with _ | ⟨x, xs⟩
  · rw [he] at h
    cases h.2
  · rw [he] at h
    exact ⟨x, xs, rfl, by simpa using h.1, h.2⟩

/-- No host has a control or blank at its end. -/
theorem not_isUnseen_of_host {h : Host} (hh : host cs = .ok h) :
    ∀ c ∈ cs.getLast?, isUnseen c = false := by
  intro c hc
  rw [Bool.eq_false_iff]
  intro hu
  obtain ⟨before, rfl⟩ := List.getLast?_eq_some_iff.1 (Option.mem_def.1 hc)
  unfold host at hh
  split at hh
  · rename_i inner he
    split at hh
    · rename_i hl _
      rcases before with _ | ⟨b, before⟩
      · cases he
        exact absurd hu (by decide)
      · rw [List.cons_append] at he
        obtain rfl := (List.cons.inj he).2
        rw [List.getLast?_append] at hl
        cases hl
        exact absurd hu (by decide)
    · cases hh
  · have hdigit : Text.hexDigit? c = none :=
      of_isUnseen (p := fun c => Text.hexDigit? c = none) (by decide) hu
    obtain ⟨x, xs, he, hx, hread⟩ := utf8EncodeChar_of_isUnseen hu
    have hm := Text.mem_decodedLossy hx hread (percentDecode before)
    rw [percentDecode_append hdigit, he, domainName?_eq_none hu hm] at hh
    cases hh

end Bytes

end Url
end SecretBroker
