import Mathlib.Data.List.Basic
import SecretBroker.Proofs.Url.Decoding
import SecretBroker.Proofs.Url.Lettering
import SecretBroker.Text.Uuid

/-!
# What a spelling of a UUID means

A UUID is known by its 32 hexadecimal digits, here with small letters. Each text that passes for a
UUID spells exactly one (`isUuid_iff`, `SpellsUuid.unique`). Its first eight characters are the first
eight digits if and only if they are such digits at all: not behind `urn:uuid:` or a brace, and not
with capitals (`SpellsUuid.take_eq_iff`).
-/

namespace SecretBroker.Text

/-- A digit of base sixteen that is no capital. -/
def IsSmallHexDigit (c : Char) : Prop := isHexDigit c = true ∧ c.isUpper = false

/-- The text is these digits in five groups with hyphens between them. -/
def Hyphenates (cs digits : List Char) : Prop :=
  ∃ groups : List (List Char), groups.map List.length = uuidGroups
    ∧ (∀ g ∈ groups, ∀ c ∈ g, isHexDigit c = true)
    ∧ cs = ['-'].intercalate groups ∧ digits = groups.flatten.map Char.toLower

/-- The text spells the UUID of these digits. -/
inductive SpellsUuid : List Char → List Char → Prop
  | simple {cs : List Char} (length : cs.length = 32) (hex : ∀ c ∈ cs, isHexDigit c = true) :
    SpellsUuid cs (cs.map Char.toLower)
  | hyphenated {cs digits : List Char} (groups : Hyphenates cs digits) : SpellsUuid cs digits
  | urn {start cs digits : List Char} (start_eq : start.map Char.toLower = "urn:uuid:".toList)
    (groups : Hyphenates cs digits) : SpellsUuid (start ++ cs) digits
  | braced {cs digits : List Char} (groups : Hyphenates cs digits) :
    SpellsUuid ('\x7b' :: (cs ++ ['\x7d'])) digits

section Digits

theorem toNat_lt_of_isHexDigit {c : Char} (h : isHexDigit c = true) : c.toNat < 128 := by
  have hz (d : Char) (hd : d.toNat < 128) (h : c ≤ d) : c.toNat < 128 :=
    Nat.lt_of_le_of_lt (UInt32.le_iff_toNat_le.1 h) hd
  unfold isHexDigit hexDigit? at h
  split_ifs at h with h₁ h₂ h₃
  · exact hz '9' (by decide) h₁.2
  · exact hz 'f' (by decide) h₂.2
  · exact hz 'F' (by decide) h₃.2
  · cases h

theorem isSmallHexDigit_toLower {c : Char} (h : isHexDigit c = true) : IsSmallHexDigit c.toLower :=
  Url.of_ascii (p := fun c => isHexDigit c = true →
      isHexDigit c.toLower = true ∧ c.toLower.isUpper = false)
    (by decide) (toNat_lt_of_isHexDigit h) h

theorem toLower_of_isSmallHexDigit {c : Char} (h : IsSmallHexDigit c) : c.toLower = c :=
  Char.toLower_eq_of_not_isUpper (by rw [h.2]; exact Bool.false_ne_true)

theorem map_toLower_of_isSmallHexDigit {cs : List Char} (h : ∀ c ∈ cs, IsSmallHexDigit c) :
    cs.map Char.toLower = cs := by
  conv_rhs => rw [← List.map_id cs]
  exact List.map_congr_left fun c hc => toLower_of_isSmallHexDigit (h c hc)

end Digits

section Groups
variable {cs digits digits' : List Char}

theorem Hyphenates.splitOn_eq {groups : List (List Char)}
    (hl : groups.map List.length = uuidGroups)
    (hx : ∀ g ∈ groups, ∀ c ∈ g, isHexDigit c = true) (hcs : cs = ['-'].intercalate groups) :
    cs.splitOn '-' = groups := by
  rw [hcs]
  refine List.splitOn_intercalate '-' (fun g hg hm => ?_) ?_
  · exact absurd (hx g hg '-' hm) (by decide)
  · rintro rfl
    cases hl

theorem isHyphenatedUuid_iff : isHyphenatedUuid cs = true ↔ ∃ digits, Hyphenates cs digits := by
  unfold isHyphenatedUuid
  simp only [Bool.and_eq_true, beq_iff_eq, List.all_eq_true]
  constructor
  · rintro ⟨hl, hx⟩
    exact ⟨_, cs.splitOn '-', hl, hx, (List.intercalate_splitOn '-').symm, rfl⟩
  · rintro ⟨digits, groups, hl, hx, hcs, -⟩
    rw [Hyphenates.splitOn_eq hl hx hcs]
    exact ⟨hl, hx⟩

theorem Hyphenates.unique (h : Hyphenates cs digits) (h' : Hyphenates cs digits') :
    digits = digits' := by
  obtain ⟨groups, hl, hx, hcs, rfl⟩ := h
  obtain ⟨groups', hl', hx', hcs', rfl⟩ := h'
  rw [← splitOn_eq hl hx hcs, splitOn_eq hl' hx' hcs']

theorem Hyphenates.five (h : Hyphenates cs digits) : ∃ a b c d e : List Char,
    a.length = 8 ∧ b.length = 4 ∧ c.length = 4 ∧ d.length = 4 ∧ e.length = 12
    ∧ (∀ x ∈ a ++ b ++ c ++ d ++ e, isHexDigit x = true)
    ∧ cs = a ++ '-' :: (b ++ '-' :: (c ++ '-' :: (d ++ '-' :: e)))
    ∧ digits = (a ++ b ++ c ++ d ++ e).map Char.toLower := by
  obtain ⟨groups, hl, hx, rfl, rfl⟩ := h
  rcases groups with _ | ⟨a, _ | ⟨b, _ | ⟨c, _ | ⟨d, _ | ⟨e, _ | ⟨f, groups⟩⟩⟩⟩⟩⟩ <;>
    simp only [uuidGroups, List.map_cons, List.map_nil, List.cons.injEq, reduceCtorEq, and_false,
      and_true] at hl
  obtain ⟨ha, hb, hc, hd, he⟩ := hl
  refine ⟨a, b, c, d, e, ha, hb, hc, hd, he, ?_, ?_, ?_⟩
  · intro x hm
    simp only [List.mem_append] at hm
    rcases hm with (((hm | hm) | hm) | hm) | hm
    · exact hx a (by simp) x hm
    · exact hx b (by simp) x hm
    · exact hx c (by simp) x hm
    · exact hx d (by simp) x hm
    · exact hx e (by simp) x hm
  · simp [List.intercalate, List.intersperse]
  · simp

theorem Hyphenates.length_eq (h : Hyphenates cs digits) : cs.length = 36 := by
  obtain ⟨a, b, c, d, e, ha, hb, hc, hd, he, -, rfl, -⟩ := h.five
  simp only [List.length_append, List.length_cons]
  omega

theorem Hyphenates.digits_length (h : Hyphenates cs digits) : digits.length = 32 := by
  obtain ⟨a, b, c, d, e, ha, hb, hc, hd, he, -, -, rfl⟩ := h.five
  simp only [List.length_append, List.length_map]
  omega

theorem Hyphenates.small (h : Hyphenates cs digits) : ∀ c ∈ digits, IsSmallHexDigit c := by
  obtain ⟨groups, -, hx, -, rfl⟩ := h
  intro c hc
  obtain ⟨d, hd, rfl⟩ := List.mem_map.1 hc
  obtain ⟨g, hg, hd⟩ := List.mem_flatten.1 hd
  exact isSmallHexDigit_toLower (hx g hg d hd)

theorem Hyphenates.take_eq (h : Hyphenates cs digits) :
    digits.take 8 = (cs.take 8).map Char.toLower := by
  obtain ⟨a, b, c, d, e, ha, -, -, -, -, -, rfl, rfl⟩ := h.five
  rw [← List.map_take, List.take_left' ha]
  simp only [List.append_assoc]
  rw [List.take_left' ha]

end Groups

section Spellings
variable {cs digits digits' : List Char}

theorem afterStart?_any {start : List Char} {p : List Char → Bool} :
    (afterStart? start cs).any p = true
      ↔ ∃ first rest, cs = first ++ rest ∧ first.map Char.toLower = start ∧ p rest = true := by
  unfold afterStart?
  constructor
  · intro h
    split_ifs at h with hp
    · obtain ⟨tail, ht⟩ := List.isPrefixOf_iff_prefix.1 hp
      refine ⟨cs.take start.length, cs.drop start.length, (List.take_append_drop _ _).symm, ?_, h⟩
      rw [List.map_take, ← ht, List.take_left]
    · cases h
  · rintro ⟨first, rest, rfl, rfl, hp⟩
    rw [if_pos (by simp), List.length_map, List.drop_left]
    exact hp

theorem inBraces_iff {p : List Char → Bool} (hne : p [] = false) :
    (cs.head? == some '\x7b' && cs.getLast? == some '\x7d' && p (cs.drop 1).dropLast) = true
      ↔ ∃ inner, cs = '\x7b' :: (inner ++ ['\x7d']) ∧ p inner = true := by
  simp only [Bool.and_eq_true, beq_iff_eq]
  constructor
  · rintro ⟨⟨hh, hl⟩, hp⟩
    obtain ⟨tail, rfl⟩ := List.head?_eq_some_iff.1 hh
    rw [List.drop_one, List.tail_cons] at hp
    rcases List.eq_nil_or_concat tail with rfl | ⟨inner, z, rfl⟩
    · rw [List.dropLast_nil, hne] at hp
      cases hp
    · rw [List.concat_eq_append] at hl hp ⊢
      rw [List.dropLast_concat] at hp
      rw [← List.cons_append, List.getLast?_concat] at hl
      obtain rfl := Option.some.inj hl
      exact ⟨inner, rfl, hp⟩
  · rintro ⟨inner, rfl, hp⟩
    rw [List.drop_one, List.tail_cons, List.dropLast_concat, ← List.cons_append,
      List.getLast?_concat]
    exact ⟨⟨rfl, rfl⟩, hp⟩

/-- A text passes for a UUID if and only if it spells one. -/
theorem isUuid_iff {text : String} :
    isUuid text = true ↔ ∃ digits, SpellsUuid text.toList digits := by
  unfold isUuid
  simp only [Bool.or_eq_true]
  rw [afterStart?_any, inBraces_iff (by decide), Bool.and_eq_true, beq_iff_eq, List.all_eq_true]
  constructor
  · rintro (((⟨hl, hx⟩ | h) | ⟨start, rest, hcs, hs, h⟩) | ⟨inner, hcs, h⟩)
    · exact ⟨_, .simple hl hx⟩
    · obtain ⟨digits, hd⟩ := isHyphenatedUuid_iff.1 h
      exact ⟨digits, .hyphenated hd⟩
    · obtain ⟨digits, hd⟩ := isHyphenatedUuid_iff.1 h
      rw [hcs]
      exact ⟨digits, .urn hs hd⟩
    · obtain ⟨digits, hd⟩ := isHyphenatedUuid_iff.1 h
      rw [hcs]
      exact ⟨digits, .braced hd⟩
  · rintro ⟨digits, h⟩
    generalize text.toList = cs at h
    rcases h with ⟨hl, hx⟩ | hd | ⟨hs, hd⟩ | hd
    · exact .inl (.inl (.inl ⟨hl, hx⟩))
    · exact .inl (.inl (.inr (isHyphenatedUuid_iff.2 ⟨_, hd⟩)))
    · exact .inl (.inr ⟨_, _, rfl, hs, isHyphenatedUuid_iff.2 ⟨_, hd⟩⟩)
    · exact .inr ⟨_, rfl, isHyphenatedUuid_iff.2 ⟨_, hd⟩⟩

/-- The spellings differ in length, and each leaves the digits in a place of its own. -/
theorem SpellsUuid.by_length (h : SpellsUuid cs digits) :
    (cs.length = 32 ∧ digits = cs.map Char.toLower) ∨ (cs.length = 36 ∧ Hyphenates cs digits)
    ∨ (cs.length = 45 ∧ Hyphenates (cs.drop 9) digits)
    ∨ (cs.length = 38 ∧ Hyphenates (cs.drop 1).dropLast digits) := by
  rcases h with ⟨hl, -⟩ | hd | @⟨start, rest, _, hs, hd⟩ | @⟨inner, _, hd⟩
  · exact .inl ⟨hl, rfl⟩
  · exact .inr (.inl ⟨hd.length_eq, hd⟩)
  · have hnine : start.length = 9 := by
      rw [← List.length_map (f := Char.toLower), hs]
      decide
    refine .inr (.inr (.inl ⟨?_, ?_⟩))
    · rw [List.length_append, hnine, hd.length_eq]
    · rw [List.drop_left' hnine]
      exact hd
  · refine .inr (.inr (.inr ⟨?_, ?_⟩))
    · rw [List.length_cons, List.length_append, hd.length_eq, List.length_singleton]
    · rw [List.drop_one, List.tail_cons, List.dropLast_concat]
      exact hd

theorem SpellsUuid.unique (h : SpellsUuid cs digits) (h' : SpellsUuid cs digits') :
    digits = digits' := by
  rcases h.by_length with ⟨hl, hd⟩ | ⟨hl, hd⟩ | ⟨hl, hd⟩ | ⟨hl, hd⟩ <;>
    rcases h'.by_length with ⟨hl', hd'⟩ | ⟨hl', hd'⟩ | ⟨hl', hd'⟩ | ⟨hl', hd'⟩ <;>
    first
    | exact hd.trans hd'.symm
    | exact hd.unique hd'
    | omega

theorem SpellsUuid.length_eq (h : SpellsUuid cs digits) : digits.length = 32 := by
  rcases h with ⟨hl, -⟩ | hd | ⟨-, hd⟩ | hd
  · rw [List.length_map, hl]
  · exact hd.digits_length
  · exact hd.digits_length
  · exact hd.digits_length

theorem SpellsUuid.small (h : SpellsUuid cs digits) : ∀ c ∈ digits, IsSmallHexDigit c := by
  rcases h with ⟨-, hx⟩ | hd | ⟨-, hd⟩ | hd
  · intro c hc
    obtain ⟨d, hd, rfl⟩ := List.mem_map.1 hc
    exact isSmallHexDigit_toLower (hx d hd)
  · exact hd.small
  · exact hd.small
  · exact hd.small

/-- A spelling begins with the first eight digits if and only if it begins with eight digits that are
no capitals. -/
theorem SpellsUuid.take_eq_iff (h : SpellsUuid cs digits) :
    cs.take 8 = digits.take 8 ↔ ∀ c ∈ cs.take 8, IsSmallHexDigit c := by
  constructor
  · intro he c hc
    rw [he] at hc
    exact h.small c (List.mem_of_mem_take hc)
  intro hc
  rcases h with ⟨hl, -⟩ | hd | @⟨start, rest, _, hs, hd⟩ | @⟨inner, _, hd⟩
  · rw [← List.map_take, map_toLower_of_isSmallHexDigit hc]
  · rw [hd.take_eq, map_toLower_of_isSmallHexDigit hc]
  · -- The first letter of the name space is none.
    obtain ⟨u, start', rfl, hu, -⟩ := List.map_eq_cons_iff.1 hs
    have hux := hc u (by simp)
    rw [toLower_of_isSmallHexDigit hux] at hu
    rw [hu] at hux
    exact absurd hux.1 (by decide)
  · exact absurd (hc '\x7b' (by simp)).1 (by decide)

end Spellings
end SecretBroker.Text
