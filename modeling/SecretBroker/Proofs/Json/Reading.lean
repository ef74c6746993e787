import SecretBroker.Json.Record
import SecretBroker.Proofs.Json.Lexing
import SecretBroker.Proofs.Json.Writing
import SecretBroker.Proofs.Sequence

/-!
# Values read from their texts

A reader takes a value from every text of it, whatever stands behind, if it takes the parts of the
value from theirs (`Reader.Takes`): the items of a list one after the other, and the entries of a
record in any order in which its fields are filled (`Fills`, `Record.reader_takes`).
-/

namespace SecretBroker.Json

variable {α σ : Type}

section Blanks

variable {sp cs : List Char} {c : Char}

theorem skipSpace_blanks (h : Blanks sp) (cs : List Char) : skipSpace (sp ++ cs) = skipSpace cs :=
  List.dropWhile_append_of_pos h

theorem skipSpace_cons (h : isSpace c = false) (cs : List Char) : skipSpace (c :: cs) = c :: cs :=
  List.dropWhile_cons_of_neg (by rw [h]; exact Bool.false_ne_true)

theorem follows_blanks (h : Blanks sp) (hc : c = ',' ∨ c = ']' ∨ c = '\x7d') (cs : List Char) :
    Follows (sp ++ c :: cs) := by
  rcases sp with _ | ⟨d, sp⟩
  · rintro _ ⟨⟩
    exact .inr hc
  · rintro _ ⟨⟩
    exact .inl (h d List.mem_cons_self)

end Blanks

theorem toString_cons (n : Nat) :
    ∃ d ds, (toString n).toList = d :: ds ∧ d.isDigit = true := by
  have hdigits : (toString n).toList = Nat.toDigits 10 n := Nat.toList_repr
  rcases hds : Nat.toDigits 10 n with _ | ⟨d, ds⟩
  · exact absurd hds Nat.toDigits_ne_nil
  · have hd : d ∈ Nat.toDigits 10 n := by
      rw [hds]
      exact List.mem_cons_self
    exact ⟨d, ds, hdigits.trans hds, Nat.isDigit_of_mem_toDigits (by decide) (by decide) hd⟩

/-- How a text of a value begins: not with a blank, nor with what stands behind a value; and only the
null value begins with this letter. -/
theorem Written.opens {v : Value} {cs : List Char} (h : Written v cs) :
    ∃ c ds, cs = c :: ds ∧ isSpace c = false ∧ c ≠ ',' ∧ c ≠ ']' ∧ (v ≠ .null → c ≠ 'n') := by
  rcases h with _ | b | n | s | _ | _ | _ | _
  case natural =>
    obtain ⟨d, ds, hd, hdigit⟩ := toString_cons n
    have hne {c : Char} (hc : c.isDigit = false) : d ≠ c := by
      rintro rfl
      rw [hdigit] at hc
      cases hc
    refine ⟨d, ds, hd, ?_, hne rfl, hne rfl, fun _ => hne rfl⟩
    simp only [isSpace, Bool.or_eq_false_iff, beq_eq_false_iff_ne]
    exact ⟨⟨⟨hne rfl, hne rfl⟩, hne rfl⟩, hne rfl⟩
  case null => exact ⟨_, _, rfl, rfl, by decide, by decide, fun h => absurd rfl h⟩
  case bool =>
    rcases b with _ | _
    · exact ⟨_, _, rfl, rfl, by decide, by decide, fun _ => by decide⟩
    · exact ⟨_, _, rfl, rfl, by decide, by decide, fun _ => by decide⟩
  all_goals exact ⟨_, _, rfl, rfl, by decide, by decide, fun _ => by decide⟩

theorem quotedChars_append (s : String) (rest : List Char) :
    quotedChars s ++ rest = '\x22' :: (s.toList.flatMap escaped ++ '\x22' :: rest) := by
  rw [quotedChars, List.append_assoc]
  rfl

theorem EntryWritten.opens {e : String × Value} {cs : List Char} (h : EntryWritten e cs) :
    ∃ ds, cs = '\x22' :: ds := by
  cases h
  exact ⟨_, quotedChars_append _ _⟩

namespace Reader

/-- The reader takes `a` from every text of the value, and leaves what stands behind it. -/
def Takes (reader : Reader α) (v : Value) (a : α) : Prop :=
  ∀ ⦃sp cs rest : List Char⦄, Blanks sp → Written v cs → Follows rest →
    reader (sp ++ (cs ++ rest)) = .ok (a, rest)

variable {reader : Reader α} {v : Value} {a : α}

theorem text_takes (s : String) : text.Takes (.string s) s := by
  intro sp cs rest hsp hw hr
  cases hw
  rw [text, skipSpace_blanks hsp, quotedChars_append, skipSpace_cons rfl]
  exact congrArg orMalformed (string?_quoted s rest)

theorem bool_takes (b : Bool) : bool.Takes (.bool b) b := by
  intro sp cs rest hsp hw hr
  cases hw
  rw [bool, skipSpace_blanks hsp]
  rcases b with _ | _ <;> rfl

theorem of_written_ofNat {n : Nat} {cs : List Char} (h : Written (.ofNat n) cs) :
    cs = (toString n).toList := by
  generalize hv : Value.ofNat n = v at h
  cases h
  case natural m =>
    obtain rfl : n = m := Int.ofNat.inj (Number.whole.inj (Value.number.inj hv))
    rfl
  all_goals cases hv

theorem natural_takes {n bits : Nat} (kind : String) (hn : n < 2 ^ bits) (hb : bits ≤ 64) :
    (natural bits kind).Takes (.ofNat n) n := by
  intro sp cs rest hsp hw hr
  obtain rfl := of_written_ofNat hw
  have hword : n ≤ wordMax :=
    Nat.le_sub_one_of_lt (Nat.lt_of_lt_of_le hn (Nat.pow_le_pow_right (by decide) hb))
  have hnumber := number?_toString hword hr
  obtain ⟨d, ds, hd, hspace, -⟩ := (Written.natural n).opens
  obtain ⟨d', ds', hd', hdigit⟩ := toString_cons n
  obtain ⟨rfl, rfl⟩ := List.cons_eq_cons.1 (hd.symm.trans hd')
  rw [natural, skipSpace_blanks hsp]
  rw [hd, List.cons_append] at hnumber ⊢
  rw [skipSpace_cons hspace]
  dsimp only
  rw [hdigit, Bool.or_true, if_pos rfl, hnumber]
  have hrange : (0 : Int) ≤ n ∧ (n : Int) < 2 ^ bits :=
    ⟨Int.natCast_nonneg n, by exact_mod_cast hn⟩
  exact if_pos hrange

theorem optional_takes_none (reader : Reader α) : reader.optional.Takes .null none := by
  intro sp cs rest hsp hw hr
  cases hw
  rw [optional, skipSpace_blanks hsp]
  rfl

theorem Takes.optional (h : reader.Takes v a) (hv : v ≠ .null) :
    reader.optional.Takes v (some a) := by
  intro sp cs rest hsp hw hr
  obtain ⟨c, ds, rfl, hspace, -, -, hn⟩ := hw.opens
  have hread := h blanks_nil hw hr
  rw [List.nil_append, List.cons_append] at hread
  rw [Reader.optional, skipSpace_blanks hsp, List.cons_append, skipSpace_cons hspace]
  split
  · rename_i he
    exact absurd (List.cons_eq_cons.1 he).1 (hn hv)
  · rw [hread]
    rfl

/-- The reader takes these values from texts of those, one by one. -/
abbrev TakesAll (reader : Reader α) (vs : List Value) (as : List α) : Prop :=
  List.Forall₂ reader.Takes vs as

theorem follows_itemsAfter {vs : List Value} {more : List Char} (h : ItemsAfter vs more)
    (rest : List Char) : Follows (more ++ rest) := by
  rcases h with ⟨hsp⟩ | ⟨hsp, -, -, -⟩
  · rw [List.append_assoc]
    exact follows_blanks hsp (.inr (.inl rfl)) _
  · rw [List.append_assoc]
    exact follows_blanks hsp (.inl rfl) _

theorem length_lt_of_itemsAfter : ∀ {vs : List Value} {more : List Char}, ItemsAfter vs more →
    vs.length < more.length
  | _, _, .done _ => by simp
  | _, _, .next _ _ _ others => by
    have h := length_lt_of_itemsAfter others
    simp only [List.length_cons, List.length_append]
    omega

/-- One item, and what stands behind it. -/
theorem itemThen_takes {more : Reader (List α)} {as : List α} {sp cs tail rest : List Char}
    (h : reader.Takes v a) (hsp : Blanks sp) (hw : Written v cs) (ht : Follows tail)
    (hmore : more tail = .ok (as, rest)) :
    itemThen reader more (sp ++ (cs ++ tail)) = .ok (a :: as, rest) := by
  simp only [itemThen, h hsp hw ht, bind, Except.bind, hmore]
  rfl

section Items
variable {item : Reader α} {fuel : Nat} {sp sp' : List Char} {c : Char}

theorem items_end (hsp : Blanks sp) (isFirst : Bool) (rest : List Char) :
    items item (fuel + 1) isFirst (sp ++ ']' :: rest) = .ok ([], rest) := by
  simp only [items, skipSpace_blanks hsp, skipSpace_cons (c := ']') rfl]

theorem items_first (hsp : Blanks sp) (hc : isSpace c = false) (hne : c ≠ ']') (cs : List Char) :
    items item (fuel + 1) true (sp ++ c :: cs) = itemThen item (items item fuel false) (c :: cs) := by
  simp only [items, skipSpace_blanks hsp, skipSpace_cons hc]
  split
  · rename_i he
    exact absurd (List.cons_eq_cons.1 he).1 hne
  · rfl
  · cases ‹true = false›
  · cases ‹true = false›

theorem items_next (hsp : Blanks sp) (hsp' : Blanks sp') (hc : isSpace c = false) (hne : c ≠ ']')
    (cs : List Char) : items item (fuel + 1) false (sp ++ ',' :: (sp' ++ c :: cs))
      = itemThen item (items item fuel false) (c :: cs) := by
  simp only [items, skipSpace_blanks hsp, skipSpace_cons (c := ',') rfl, skipSpace_blanks hsp',
    skipSpace_cons hc]
  split
  · rename_i he
    exact absurd (List.cons_eq_cons.1 he).1 hne
  · rfl

/-- The induction is on the items that are left. -/
theorem items_takes : ∀ {vs : List Value} {as : List α} {more : List Char},
    item.TakesAll vs as → ItemsAfter vs more → ∀ {fuel : Nat}, vs.length < fuel →
    ∀ rest, items item fuel false (more ++ rest) = .ok (as, rest)
  | _, _, _, _, _, 0, hf, _ => absurd hf (Nat.not_lt_zero _)
  | _, _, _, .nil, .done hsp, fuel + 1, _, rest => by
    rw [List.append_assoc]
    exact items_end hsp false rest
  | _, _, _, .cons hv hvs, .next hsp hsp' hw hother, fuel + 1, hf, rest => by
    have hmore := items_takes hvs hother (Nat.lt_of_succ_lt_succ hf) rest
    obtain ⟨c, ds, rfl, hspace, -, hbracket, -⟩ := hw.opens
    have hitem := itemThen_takes hv blanks_nil hw (follows_itemsAfter hother rest) hmore
    rw [List.nil_append, List.cons_append] at hitem
    rw [List.append_assoc, List.cons_append, List.append_assoc, List.append_assoc, List.cons_append,
      items_next hsp hsp' hspace hbracket, hitem]

theorem items_takes_first {vs : List Value} {as : List α} {cs more : List Char}
    (h : item.TakesAll (v :: vs) as) (hsp : Blanks sp) (hw : Written v cs) (ha : ItemsAfter vs more)
    (hf : vs.length < fuel) (rest : List Char) :
    items item (fuel + 1) true (sp ++ cs ++ more ++ rest) = .ok (as, rest) := by
  rcases h with _ | ⟨hv, hvs⟩
  obtain ⟨c, ds, rfl, hspace, -, hbracket, -⟩ := hw.opens
  have hitem := itemThen_takes hv blanks_nil hw (follows_itemsAfter ha rest)
    (items_takes hvs ha hf rest)
  rw [List.nil_append, List.cons_append] at hitem
  rw [List.append_assoc, List.append_assoc, List.cons_append, items_first hsp hspace hbracket, hitem]

theorem TakesAll.list {vs : List Value} {as : List α} (h : item.TakesAll vs as) :
    (list item).Takes (.array vs) as := by
  intro sp cs rest hsp hw hr
  rw [Reader.list, skipSpace_blanks hsp]
  cases hw
  case emptyArray sp' hsp' =>
    cases h
    rw [List.cons_append, skipSpace_cons rfl, List.append_assoc]
    exact items_end hsp' true rest
  case array sp' cs' more v vs hsp' hw hother =>
    rw [List.cons_append, skipSpace_cons rfl]
    refine items_takes_first h hsp' hw hother ?_ rest
    have := length_lt_of_itemsAfter hother
    simp only [List.length_append]
    omega

end Items

end Reader

/-- Entries, of a text in which the fields `seen` came before, fill a record from `s` on to `s'`: each
is of a field that did not come yet and takes its value, and in the end no field is missing. -/
inductive Fills (fields : List (Field σ)) : List String → σ → List (String × Value) → σ → Prop
  | done {seen : List String} {s : σ} (complete : Record.complete fields seen s = .ok s) :
    Fills fields seen s [] s
  | next {seen : List String} {s s₁ s' : σ} {name : String} {v : Value}
    {es : List (String × Value)} {f : Field σ} (found : fields.find? (·.name == name) = some f)
    (new : seen.contains name = false) (takes : (f.read s).Takes v s₁)
    (others : Fills fields (name :: seen) s₁ es s') : Fills fields seen s ((name, v) :: es) s'

namespace Field

variable {reader : Reader α} {v : Value} {a : α}

theorem required_takes (name : String) (set : σ → α → σ) (s : σ) (h : reader.Takes v a) :
    ((required name reader set).read s).Takes v (set s a) := by
  intro sp cs rest hsp hw hr
  simp only [required, h hsp hw hr, Except.map]

theorem optional_takes (name : String) (set : σ → α → σ) (s : σ) (h : reader.Takes v a) :
    ((optional name reader set).read s).Takes v (set s a) := by
  intro sp cs rest hsp hw hr
  simp only [optional, h hsp hw hr, Except.map]

end Field

namespace Record

variable {fields : List (Field σ)} {seen : List String} {s s₁ s' : σ} {sp cs more tail : List Char}

theorem follows_entriesAfter {es : List (String × Value)} (h : EntriesAfter es more)
    (rest : List Char) : Follows (more ++ rest) := by
  rcases h with ⟨hsp⟩ | ⟨hsp, -, -, -⟩
  · rw [List.append_assoc]
    exact follows_blanks hsp (.inr (.inr rfl)) _
  · rw [List.append_assoc]
    exact follows_blanks hsp (.inl rfl) _

theorem length_lt_of_entriesAfter : ∀ {es : List (String × Value)} {more : List Char},
    EntriesAfter es more → es.length < more.length
  | _, _, .done _ => by simp
  | _, _, .next _ _ _ others => by
    have h := length_lt_of_entriesAfter others
    simp only [List.length_cons, List.length_append]
    omega

theorem afterColon_apply (value : Reader α) (hsp : Blanks sp) (rest : List Char) :
    afterColon value (sp ++ ':' :: rest) = value rest := by
  rw [afterColon, skipSpace_blanks hsp, skipSpace_cons rfl]
  rfl

/-- An entry of a field that did not come yet takes its value, and `k` goes on from there. -/
theorem entry_takes {k : List String → σ → Reader σ} {name : String} {v : Value} {f : Field σ}
    (found : fields.find? (·.name == name) = some f) (new : seen.contains name = false)
    (takes : (f.read s).Takes v s₁) (hw : EntryWritten (name, v) cs) (ht : Follows tail) :
    entry fields k seen s (cs ++ tail) = k (name :: seen) s₁ tail := by
  obtain ⟨hsp, hsp', hv⟩ := hw
  rw [List.append_assoc, quotedChars_append, List.append_assoc, List.cons_append,
    List.append_assoc]
  simp only [entry, string?_quoted, orMalformed, bind, Except.bind, found, new,
    afterColon_apply _ hsp, takes hsp' hv ht, Bool.false_eq_true, if_false]

theorem entries_end {fuel : Nat} (hsp : Blanks sp) (isFirst : Bool)
    (hc : complete fields seen s = .ok s) (rest : List Char) :
    entries fields (fuel + 1) isFirst seen s (sp ++ '\x7d' :: rest) = .ok (s, rest) := by
  simp only [entries, skipSpace_blanks hsp, skipSpace_cons (c := '\x7d') rfl, hc, Except.map]

theorem entries_first {fuel : Nat} {e : String × Value} (hsp : Blanks sp) (hw : EntryWritten e cs)
    (tail : List Char) : entries fields (fuel + 1) true seen s (sp ++ (cs ++ tail))
      = entry fields (entries fields fuel false) seen s (cs ++ tail) := by
  obtain ⟨ds, rfl⟩ := hw.opens
  simp only [entries, skipSpace_blanks hsp, List.cons_append, skipSpace_cons (c := '\x22') rfl]
  rfl

theorem entries_next {fuel : Nat} {e : String × Value} (hsp : Blanks sp) {sp' : List Char}
    (hsp' : Blanks sp') (hw : EntryWritten e cs) (tail : List Char) :
    entries fields (fuel + 1) false seen s (sp ++ ',' :: (sp' ++ (cs ++ tail)))
      = entry fields (entries fields fuel false) seen s (cs ++ tail) := by
  obtain ⟨ds, rfl⟩ := hw.opens
  simp only [entries, skipSpace_blanks hsp, skipSpace_cons (c := ',') rfl, skipSpace_blanks hsp',
    List.cons_append, skipSpace_cons (c := '\x22') rfl]

/-- The induction is on the entries that are left. -/
theorem entries_takes : ∀ {es : List (String × Value)} {seen : List String} {s s' : σ}
    {more : List Char}, Fills fields seen s es s' → EntriesAfter es more →
    ∀ {fuel : Nat}, es.length < fuel →
    ∀ rest, entries fields fuel false seen s (more ++ rest) = .ok (s', rest)
  | _, _, _, _, _, _, _, 0, hf, _ => absurd hf (Nat.not_lt_zero _)
  | _, _, _, _, _, .done hc, .done hsp, fuel + 1, _, rest => by
    rw [List.append_assoc]
    exact entries_end hsp false hc rest
  | _, _, _, _, _, .next found new takes others, .next hsp hsp' hw hother, fuel + 1, hf, rest => by
    rw [List.append_assoc, List.cons_append, List.append_assoc, List.append_assoc,
      entries_next hsp hsp' hw, entry_takes found new takes hw (follows_entriesAfter hother rest)]
    exact entries_takes others hother (Nat.lt_of_succ_lt_succ hf) rest

/-- A record is read from every text of an object whose entries fill it. -/
theorem reader_takes {start : σ} {es : List (String × Value)} (label : String)
    (h : Fills fields [] start es s') : (reader label fields start).Takes (.object es) s' := by
  intro sp cs rest hsp hw hr
  rw [reader, skipSpace_blanks hsp]
  cases hw
  case emptyObject sp' hsp' =>
    rcases h with ⟨hc⟩
    rw [List.cons_append, skipSpace_cons rfl, List.append_assoc]
    exact entries_end hsp' true hc rest
  case object sp' cs' more e es hsp' hw hother =>
    rcases h with _ | ⟨found, new, takes, others⟩
    rw [List.cons_append, skipSpace_cons rfl]
    have hlen := length_lt_of_entriesAfter hother
    change entries fields ((sp' ++ cs' ++ more ++ rest).length + 1) true [] start
      (sp' ++ cs' ++ more ++ rest) = _
    have hfuel : es.length < (sp' ++ cs' ++ more ++ rest).length := by
      simp only [List.length_append]
      omega
    generalize (sp' ++ cs' ++ more ++ rest).length = fuel at hfuel ⊢
    rw [List.append_assoc, List.append_assoc, entries_first hsp' hw,
      entry_takes found new takes hw (follows_entriesAfter hother rest)]
    exact entries_takes others hother hfuel rest

end Record

/-- A whole text of a value is read as what its reader takes. -/
theorem decode_of_takes {reader : Reader α} {v : Value} {a : α} {cs : List Char}
    (h : reader.Takes v a) (hw : Written v cs) : decode reader (String.ofList cs) = .ok a := by
  have hend : Follows [] := by simp [Follows]
  have hread := h blanks_nil hw hend
  rw [List.nil_append, List.append_nil] at hread
  rw [decode, String.toList_ofList, hread]
  rfl

end SecretBroker.Json
