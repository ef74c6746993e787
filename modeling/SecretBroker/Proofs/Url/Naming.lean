import SecretBroker.Proofs.Url.Decoding

/-!
# Names in a path

A name that is put behind a path is first rid of tabs and line breaks. Unless what is left comes to
dots, it becomes one segment, which reads back as what is left (`addName_of_visible`,
`percentDecode_segmentText`). Names of dots add nothing; a name that comes to dots only when tabs and
line breaks are gone is taken for a place, here or above.
-/

namespace SecretBroker.Url

/-- A name without the characters that are passed over. -/
def visible (name : String) : String := String.ofList (name.toList.filter fun c => !isIgnored c)

/-- A name that stands in a path as it is: nothing in it is passed over, and it means no place. -/
def IsPlain (name : String) : Prop :=
  (∀ c ∈ name.toList, isIgnored c = false) ∧ name ≠ "." ∧ name ≠ ".."

/-- The segments behind which a name is put: the path that is only a slash has none. -/
def trunk (names : List String) : List String := if names = [""] then [] else names

variable {kind : SchemeKind} {names : List String} {name : String}

theorem trunk_of_ne (h : names ≠ [""]) : trunk names = names := if_neg h

theorem trunk_concat {s : String} (h : names ≠ [] ∨ s ≠ "") :
    trunk (names ++ [s]) = names ++ [s] := by
  refine trunk_of_ne fun he => ?_
  rcases List.append_eq_singleton_iff.1 he with ⟨rfl, hs⟩ | ⟨-, hs⟩
  · simp_all
  · cases hs

theorem trunk_length_le (names : List String) : (trunk names).length ≤ names.length := by
  unfold trunk
  split_ifs
  · exact Nat.zero_le _
  · exact Nat.le_refl _

theorem visible_eq_iff : visible name = name ↔ ∀ c ∈ name.toList, isIgnored c = false := by
  rw [← String.toList_inj, visible, String.toList_ofList, List.filter_eq_self]
  simp

theorem percentDecode_segmentText (kind : SchemeKind) (name : String) :
    percentDecode (segmentText kind name).toList = Text.utf8Bytes (visible name) := by
  have hs : (if kind = .other then segmentSet else specialSegmentSet) '%' = true := by
    split <;> rfl
  simp only [segmentText, visible, Text.utf8Bytes, String.toList_ofList]
  exact percentDecode_percentEncode hs _

theorem visible_of_isSingleDot (h : isSingleDot (segmentText kind name) = true) :
    visible name = "." := by
  have hd := percentDecode_of_isSingleDot h
  rw [percentDecode_segmentText] at hd
  exact utf8Bytes_injective hd

theorem visible_of_isDoubleDot (h : isDoubleDot (segmentText kind name) = true) :
    visible name = ".." := by
  have hd := percentDecode_of_isDoubleDot h
  rw [percentDecode_segmentText] at hd
  exact utf8Bytes_injective hd

/-- A name that does not come to dots adds one segment. -/
theorem addName_of_visible (hk : kind ≠ .file) (h₁ : visible name ≠ ".")
    (h₂ : visible name ≠ "..") :
    addName kind names name = trunk names ++ [segmentText kind name] := by
  have hn : ¬ (name = "." ∨ name = "..") := by
    rintro (rfl | rfl)
    · exact h₁ rfl
    · exact h₂ rfl
  have hd : isDoubleDot (segmentText kind name) = false :=
    Bool.eq_false_iff.2 fun h => h₂ (visible_of_isDoubleDot h)
  have hs : isSingleDot (segmentText kind name) = false :=
    Bool.eq_false_iff.2 fun h => h₁ (visible_of_isSingleDot h)
  simp only [addName, hn, ↓reduceIte, pushSegment, hd, hs, Bool.false_eq_true, withColon, hk,
    false_and, withoutLeadingEmpty, trunk]

theorem addName_of_dots (h : name = "." ∨ name = "..") : addName kind names name = names := by
  rw [addName, if_pos h]

theorem percentEncode_of_not_mem {set : EncodeSet} : ∀ {cs : List Char},
    (∀ c ∈ cs, set c = false) → percentEncode set cs = cs
  | [], _ => rfl
  | c :: cs, h => by
    have ih := percentEncode_of_not_mem fun d hd => h d (List.mem_cons_of_mem _ hd)
    simp only [percentEncode, List.flatMap_cons] at ih ⊢
    rw [ih, percentChar, h c List.mem_cons_self]
    rfl

theorem segmentText_of_dots (h : ∀ c ∈ (visible name).toList, c = '.') :
    segmentText kind name = visible name := by
  have hs : (if kind = .other then segmentSet else specialSegmentSet) '.' = false := by
    split <;> rfl
  simp only [visible, String.toList_ofList] at h
  simp only [segmentText, visible]
  rw [percentEncode_of_not_mem fun c hc => by rw [h c hc, hs]]

/-- A name that comes to one dot leaves an empty segment behind. -/
theorem addName_of_hiddenDot (hk : kind ≠ .file) (hv : visible name = ".") (hn : name ≠ ".") :
    addName kind names name = trunk names ++ [""] := by
  have hs : segmentText kind name = "." := by
    rw [segmentText_of_dots (by simp [hv]), hv]
  have hn' : ¬ (name = "." ∨ name = "..") := by
    rintro (rfl | rfl)
    · exact hn rfl
    · exact absurd hv (by decide)
  have hd : isDoubleDot "." = false := by cbv
  have hs' : isSingleDot "." = true := by cbv
  simp only [addName, hn', ↓reduceIte, pushSegment, hs, hd, hs', Bool.false_eq_true,
    withoutLeadingEmpty, hk, trunk]

/-- A name that comes to two dots takes the segment before it away. -/
theorem addName_of_hiddenDots (hk : kind ≠ .file) (hv : visible name = "..") (hn : name ≠ "..") :
    addName kind names name = goUp (trunk names) ++ [""] := by
  have hs : segmentText kind name = ".." := by
    rw [segmentText_of_dots (by simp [hv]), hv]
  have hn' : ¬ (name = "." ∨ name = "..") := by
    rintro (rfl | rfl)
    · exact absurd hv (by decide)
    · exact hn rfl
  have hd : isDoubleDot ".." = true := by cbv
  simp only [addName, hn', ↓reduceIte, pushSegment, hs, hd, withoutLeadingEmpty, hk, trunk]

theorem goUp_concat {s : String} (h : isDriveLetter s = false) : goUp (names ++ [s]) = names := by
  simp [goUp, h]

/-- Behind a segment that is no place, a name adds one segment that reads back as it if and only if
it is plain. -/
theorem addName_readsBack_iff (front : List String) {s : String} (hk : kind ≠ .file)
    (hs : isDriveLetter s = false) (hne : s ≠ "") (name : String) :
    (∃ segment, trunk (addName kind (front ++ [s]) name) = front ++ [s] ++ [segment]
      ∧ percentDecode segment.toList = Text.utf8Bytes name) ↔ IsPlain name := by
  have ht : trunk (front ++ [s]) = front ++ [s] := trunk_concat (.inr hne)
  constructor
  · rintro ⟨segment, hp, hd⟩
    by_cases hdots : name = "." ∨ name = ".."
    · rw [addName_of_dots hdots, ht] at hp
      simpa using congrArg List.length hp
    obtain ⟨h₁, h₂⟩ := not_or.1 hdots
    by_cases hv : visible name = "."
    · rw [addName_of_hiddenDot hk hv h₁, ht, trunk_concat (.inl (by simp))] at hp
      obtain rfl := List.singleton_inj.1 (List.append_cancel_left hp)
      obtain rfl : "" = name := utf8Bytes_injective hd
      exact absurd hv (by decide)
    by_cases hv' : visible name = ".."
    · have hl := trunk_length_le (front ++ [""])
      rw [addName_of_hiddenDots hk hv' h₂, ht, goUp_concat hs] at hp
      rw [hp] at hl
      simp only [List.length_append, List.length_cons, List.length_nil] at hl
      omega
    · rw [addName_of_visible hk hv hv', ht, trunk_concat (.inl (by simp)),
        List.append_cancel_left_eq, List.singleton_inj] at hp
      rw [← hp, percentDecode_segmentText] at hd
      exact ⟨visible_eq_iff.1 (utf8Bytes_injective hd), h₁, h₂⟩
  · rintro ⟨hi, h₁, h₂⟩
    have hv := visible_eq_iff.2 hi
    refine ⟨segmentText kind name, ?_, by rw [percentDecode_segmentText, hv]⟩
    rw [addName_of_visible hk (by rwa [hv]) (by rwa [hv]), ht, trunk_concat (.inl (by simp))]

end SecretBroker.Url
