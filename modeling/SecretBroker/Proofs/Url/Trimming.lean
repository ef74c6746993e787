import SecretBroker.Proofs.Url.Blanks
import SecretBroker.Proofs.Url.Site

/-!
# Blanks and slashes at the ends of a base

A base is read without the blanks around it and the slashes at its end, other than URLs elsewhere. A
text that reads as a URL of HTTP still does so then (`Address.exists_ofBase`): what is dropped comes
before the scheme or behind the authority, since an authority ends in a character that is seen.
-/

namespace SecretBroker

namespace Url

open Text (isBlank dropEndWhile)

variable {cs l tail tail' : List Char}

section Texts

theorem exists_dropEndWhile (p : Char → Bool) (cs : List Char) :
    ∃ back, dropEndWhile p cs ++ back = cs ∧ ∀ c ∈ back, p c = true := by
  refine ⟨cs.rtakeWhile p, List.rdropWhile_append_rtakeWhile, fun c hc => ?_⟩
  exact List.mem_takeWhile_imp (List.mem_reverse.1 hc)

theorem dropWhile_append_of_head {p : Char → Bool} (h : ∀ c ∈ l.head?, p c = false)
    (pre : List Char) : (pre ++ l).dropWhile p = pre.dropWhile p ++ l := by
  have hd : l.dropWhile p = l := by
    rcases l with _ | ⟨c, l⟩
    · rfl
    · exact List.dropWhile_cons_of_neg (by rw [h c rfl]; exact Bool.false_ne_true)
  rw [List.dropWhile_append, hd]
  split
  · rename_i he
    rw [List.isEmpty_iff.1 he, List.nil_append]
  · rfl

theorem cleaned_eq (text : String) : cleaned text
    = (dropEndWhile Unicode.isLow (text.toList.dropWhile Unicode.isLow)).filter
      fun c => !isIgnored c := rfl

theorem isLow_of_isIgnored {c : Char} (h : isIgnored c = true) : Unicode.isLow c = true := by
  simp only [isIgnored, Bool.or_eq_true, beq_iff_eq] at h
  rcases h with (rfl | rfl) | rfl <;> rfl

/-- A text parted at a character of what is read from it: what is passed over in front, the body that
ends in the character, what stays behind it and what is passed over at the end. -/
structure Parting (text : String) (before : List Char) (c : Char) (tail : List Char) where
  front : List Char
  body : List Char
  behind : List Char
  back : List Char
  text_eq : text.toList = front ++ (body ++ [c] ++ (behind ++ back))
  front_low : ∀ d ∈ front, Unicode.isLow d = true
  head_seen : ∀ d ∈ (body ++ [c]).head?, Unicode.isLow d = false
  body_kept : (body ++ [c]).filter (!isIgnored ·) = before ++ [c]
  behind_kept : behind.filter (!isIgnored ·) = tail
  back_low : ∀ d ∈ back, Unicode.isLow d = true

namespace Parting

variable {text : String} {before : List Char} {c : Char} {p : Char → Bool}

theorem exists_of_cleaned (hc : cleaned text = before ++ c :: tail) :
    Nonempty (Parting text before c tail) := by
  have hfront := List.takeWhile_append_dropWhile (p := Unicode.isLow) (l := text.toList)
  have hlow (d : Char) (hd : d ∈ text.toList.takeWhile Unicode.isLow) : Unicode.isLow d = true :=
    List.mem_takeWhile_imp hd
  have hhead := List.head?_dropWhile_not Unicode.isLow text.toList
  rw [cleaned_eq] at hc
  generalize text.toList.dropWhile Unicode.isLow = inner at hfront hhead hc
  generalize text.toList.takeWhile Unicode.isLow = front at hfront hlow
  obtain ⟨back, hinner, hback⟩ := exists_dropEndWhile Unicode.isLow inner
  obtain ⟨u, y, he, hu, hy⟩ := List.filter_eq_append_iff.1 hc
  obtain ⟨z, behind, rfl, hz, hkept, hbehind⟩ := List.filter_eq_cons_iff.1 hy
  have hsplit : inner = u ++ z ++ [c] ++ (behind ++ back) := by
    rw [← hinner, he]
    simp
  exact ⟨{
    front, behind, back
    body := u ++ z
    text_eq := by rw [← hfront, hsplit]
    front_low := hlow
    head_seen := fun d hd => by
      rw [hsplit, List.head?_append, Option.mem_def.1 hd] at hhead
      exact hhead
    body_kept := by
      rw [List.filter_append, List.filter_append, hu, List.filter_eq_nil_iff.2 hz]
      simp [hkept]
    behind_kept := hbehind
    back_low := hback }⟩

variable (t : Parting text before c tail)

theorem head?_kept {d : Char} (h : d ∈ (t.body ++ [c]).head?) : d ∈ (before ++ [c]).head? := by
  have hi : (!isIgnored d) = true := by
    rw [Bool.not_eq_true', Bool.eq_false_iff]
    intro hi
    have hl := t.head_seen d h
    rw [isLow_of_isIgnored hi] at hl
    cases hl
  obtain ⟨more, hm⟩ := List.head?_eq_some_iff.1 (Option.mem_def.1 h)
  rw [← t.body_kept, hm, List.filter_cons, if_pos hi]
  rfl

/-- What is dropped in front of the body leaves the body. -/
theorem dropWhile_body (hp : ∀ d ∈ (t.body ++ [c]).head?, p d = false) (front tail : List Char) :
    (front ++ (t.body ++ [c] ++ tail)).dropWhile p
      = front.dropWhile p ++ (t.body ++ [c] ++ tail) := by
  refine dropWhile_append_of_head (fun d hd => ?_) front
  rw [List.head?_append_of_ne_nil _ (List.concat_ne_nil c t.body)] at hd
  exact hp d hd

/-- What is dropped behind the body leaves the body. -/
theorem dropEndWhile_body (hp : p c = false) (front tail : List Char) :
    dropEndWhile p (front ++ (t.body ++ [c] ++ tail))
      = front ++ (t.body ++ [c] ++ dropEndWhile p tail) := by
  rw [← List.append_assoc, Text.dropEndWhile_append, List.append_assoc]
  intro d hd
  rw [← List.append_assoc, List.getLast?_concat, Option.mem_some_iff] at hd
  rw [← hd, hp]

end Parting

/-- What is left of the end of a text still begins with the end of an authority. -/
theorem parts_of_prefix {behind back kept : List Char} (ht : Parts (behind.filter (!isIgnored ·)))
    (hback : ∀ c ∈ back, Unicode.isLow c = true) (hk : kept <+: behind ++ back) :
    Parts ((dropEndWhile Unicode.isLow kept).filter (!isIgnored ·)) := by
  have hd : dropEndWhile Unicode.isLow kept <+: kept := List.rdropWhile_prefix _ _
  rcases hb : behind.filter (!isIgnored ·) with _ | ⟨e, more⟩
  -- Nothing was behind but what is passed over.
  · have hall : ∀ c ∈ kept, Unicode.isLow c = true := by
      intro c hc
      rcases List.mem_append.1 (hk.subset hc) with hc | hc
      · have hi := List.filter_eq_nil_iff.1 hb c hc
        exact isLow_of_isIgnored (by simpa using hi)
      · exact hback c hc
    have hnil : dropEndWhile Unicode.isLow kept = [] := List.rdropWhile_eq_nil_iff.2 hall
    rw [hnil]
    exact fun c hc => nomatch hc
  · have hprefix : (dropEndWhile Unicode.isLow kept).filter (!isIgnored ·)
        <+: e :: (more ++ back.filter (!isIgnored ·)) := by
      have hf := (hd.trans hk).filter (!isIgnored ·)
      rwa [List.filter_append, hb] at hf
    intro c hc
    obtain ⟨rest, hrest⟩ := List.head?_eq_some_iff.1 (Option.mem_def.1 hc)
    rw [hrest] at hprefix
    obtain rfl := (List.cons_prefix_cons.1 hprefix).1
    exact ht c (by rw [hb]; rfl)

/-- What a text begins with stays when it is trimmed, if its first character is not blank, its last
one is seen and no slash, and what follows begins with the end of an authority. -/
theorem exists_cleaned_trimmed {text : String} {before : List Char} {c : Char}
    (hc : cleaned text = before ++ c :: tail) (ht : Parts tail)
    (hfirst : ∀ d ∈ (before ++ [c]).head?, isBlank d = false) (hlast : isUnseen c = false)
    (hslash : c ≠ '/') :
    ∃ tail', cleaned (Address.withoutSlashes (Text.trimmed text)) = before ++ c :: tail'
      ∧ Parts tail' := by
  obtain ⟨t⟩ := Parting.exists_of_cleaned hc
  obtain ⟨hlow, hblank⟩ := Bool.or_eq_false_iff.1 hlast
  have htrimmed : (Address.withoutSlashes (Text.trimmed text)).toList
      = t.front.dropWhile isBlank ++ (t.body ++ [c]
        ++ dropEndWhile (· == '/') (dropEndWhile isBlank (t.behind ++ t.back))) := by
    rw [Address.withoutSlashes, String.toList_ofList, Text.trimmed, String.toList_ofList,
      Text.trimWhile, t.text_eq, t.dropWhile_body fun d hd => hfirst d (t.head?_kept hd),
      t.dropEndWhile_body hblank, t.dropEndWhile_body (by simpa using hslash)]
  have hfront : (t.front.dropWhile isBlank).dropWhile Unicode.isLow = [] :=
    List.dropWhile_eq_nil_iff.2 fun d hd => t.front_low d ((List.dropWhile_sublist _).subset hd)
  have hcleaned := cleaned_eq (Address.withoutSlashes (Text.trimmed text))
  rw [htrimmed, t.dropWhile_body t.head_seen, hfront, t.dropEndWhile_body hlow, List.nil_append,
    List.filter_append, t.body_kept, List.append_assoc] at hcleaned
  refine ⟨_, hcleaned, parts_of_prefix (by rwa [t.behind_kept]) t.back_low ?_⟩
  exact (List.rdropWhile_prefix _ _).trans (List.rdropWhile_prefix _ _)

end Texts

section Authorities

variable {scheme : String} {h : Host} {p : Option Nat}

/-- Behind digits a port may end as it does where they do. -/
theorem port_of_digits (ht : Parts tail) {ds : List Char} (hd : ∀ c ∈ ds, c.isDigit = true)
    (h : port scheme ds = .ok (p, [])) : port scheme (ds ++ tail) = .ok (p, tail) := by
  have hstop : tail.takeWhile Char.isDigit = [] ∧ tail.dropWhile Char.isDigit = tail := by
    rcases tail with _ | ⟨c, tail⟩
    · exact ⟨rfl, rfl⟩
    · have hc := not_isDigit_of_endsAuthority (ht c rfl)
      rw [List.takeWhile_cons, List.dropWhile_cons, hc]
      exact ⟨rfl, rfl⟩
  rw [port, List.takeWhile_eq_self_iff.2 hd, List.dropWhile_eq_nil_iff.2 hd] at h
  rw [port, List.takeWhile_append_of_pos hd, List.dropWhile_append_of_pos hd, hstop.1, hstop.2,
    List.append_nil]
  dsimp only at h ⊢
  split at h
  · cases h
  · rename_i hn
    cases h
    rw [if_neg hn]
    rcases tail with _ | ⟨c, tail⟩
    · rfl
    · have hc := ht c rfl
      rw [endsAuthority_special] at hc
      dsimp only
      rw [if_pos hc]

/-- Within an authority there are only digits behind the colon of a port. -/
theorem isDigit_of_port {ds rest : List Char} (hds : ∀ c ∈ ds, endsAuthority .special c = false)
    (h : port scheme ds = .ok (p, rest)) : rest = [] ∧ ∀ c ∈ ds, c.isDigit = true := by
  rw [port] at h
  split at h
  · cases h
  rcases hr : ds.dropWhile Char.isDigit with _ | ⟨c, more⟩
  · rw [hr] at h
    cases h
    exact ⟨rfl, List.dropWhile_eq_nil_iff.1 hr⟩
  · have hc := hds c ((List.dropWhile_sublist _).subset (hr ▸ List.mem_cons_self))
    rw [endsAuthority_special] at hc
    rw [hr] at h
    dsimp only at h
    rw [if_neg (by rw [hc]; exact Bool.false_ne_true)] at h
    cases h

theorem not_isUnseen_of_isDigit {c : Char} (h : c.isDigit = true) : isUnseen c = false := by
  have hc : c.toNat < 128 := by
    have hle := UInt32.le_iff_toNat_le.1 (of_decide_eq_true (Bool.and_eq_true_iff.1 h).2)
    exact Nat.lt_of_le_of_lt hle (by decide)
  exact of_ascii (p := fun c => c.isDigit = true → isUnseen c = false) (by decide) hc h

theorem splitHost_append_self (kind : SchemeKind) : ∀ (isInside : Bool) (cs : List Char),
    (splitHost kind isInside cs).1 ++ (splitHost kind isInside cs).2 = cs
  | _, [] => rfl
  | isInside, c :: cs => by
    rw [splitHost]
    split
    · rfl
    · dsimp only
      rw [List.cons_append, splitHost_append_self]

/-- The text of a place: a host, and perhaps a port behind a colon. -/
theorem of_place (hcs : ∀ c ∈ cs, endsAuthority .special c = false)
    (hp : place scheme cs = .ok (h, p)) :
    ∃ hostText rest, splitHost .special false cs = (hostText, rest) ∧ host hostText = .ok h
      ∧ ((rest = [] ∧ p = none) ∨ ∃ ds, rest = ':' :: ds ∧ (∀ c ∈ ds, c.isDigit = true)
        ∧ port scheme ds = .ok (p, [])) := by
  rcases hs : splitHost .special false cs with ⟨hostText, rest⟩
  rw [place, hs] at hp
  obtain ⟨h', hh, hp⟩ := ok_of_bind hp
  refine ⟨hostText, rest, rfl, ?_⟩
  split at hp
  · cases hp
    exact ⟨hh, .inl ⟨rfl, rfl⟩⟩
  · rename_i c ds _
    obtain ⟨hc, hm⟩ := splitHost_snd (congrArg Prod.snd hs)
    have hcolon := hc.resolve_right fun he => by
      rw [hcs c (hm c List.mem_cons_self)] at he
      cases he
    obtain ⟨⟨p', rest⟩, hport, hp⟩ := ok_of_bind hp
    cases hp
    obtain ⟨rfl, hdigits⟩ :=
      isDigit_of_port (fun d hd => hcs d (hm d (List.mem_cons_of_mem c hd))) hport
    exact ⟨hh, .inr ⟨ds, by rw [hcolon], hdigits, hport⟩⟩

theorem ne_nil_of_host {hostText : List Char} (hh : host hostText = .ok h) : hostText ≠ [] := by
  rintro rfl
  have he : host [] = .error .emptyHost := by rfl
  rw [he] at hh
  cases hh

/-- The text of a place ends in a character that is seen. -/
theorem not_isUnseen_of_place (hcs : ∀ c ∈ cs, endsAuthority .special c = false)
    (hp : place scheme cs = .ok (h, p)) :
    cs ≠ [] ∧ ∀ c ∈ cs.getLast?, isUnseen c = false := by
  obtain ⟨hostText, rest, hs, hh, hrest⟩ := of_place hcs hp
  have he := splitHost_append_self .special false cs
  rw [hs] at he
  rw [← he]
  refine ⟨fun hn => ne_nil_of_host hh (List.append_eq_nil_iff.1 hn).1, ?_⟩
  rcases hrest with ⟨rfl, -⟩ | ⟨ds, rfl, hdigits, -⟩
  · rw [List.append_nil]
    exact not_isUnseen_of_host hh
  · rw [List.getLast?_append_of_ne_nil _ (List.cons_ne_nil _ _)]
    intro c hc
    rcases List.mem_cons.1 (List.mem_of_mem_getLast? hc) with rfl | hm
    · decide
    · exact not_isUnseen_of_isDigit (hdigits c hm)

/-- A place can be read from an authority whatever ends it. -/
theorem readAuthority_of_place (hk : SchemeKind.of scheme = .special)
    (hcs : ∀ c ∈ cs, endsAuthority .special c = false) (ht : Parts tail)
    (hp : place scheme (afterAt cs) = .ok (h, p)) :
    ∃ a, readAuthority scheme (cs ++ tail) = .ok (a, tail) := by
  have hinside : ∀ c ∈ afterAt cs, endsAuthority .special c = false :=
    fun c hc => hcs c ((afterAt_suffix cs).subset hc)
  obtain ⟨hostText, more, hs, hh, hmore⟩ := of_place hinside hp
  have hsplit := splitHost_append ht false (afterAt cs)
  rw [hs] at hsplit
  have hhead : ((afterAt cs ++ tail).head?.map (endsAuthority .special)).getD false = false := by
    rcases he : afterAt cs with _ | ⟨c, rest⟩
    · exact absurd he (not_isUnseen_of_place hinside hp).1
    · exact hinside c (he ▸ List.mem_cons_self)
  have hdomain : h ≠ .domain "" := by
    rintro rfl
    exact (text_of_host hh).1 rfl
  have hempty : hostText.isEmpty = false := List.isEmpty_eq_false_iff.2 (ne_nil_of_host hh)
  have hall : ∀ c ∈ cs, (!endsAuthority .special c) = true := by simpa using hcs
  have hrest := splitUserinfo_snd (cs ++ tail)
  rw [List.takeWhile_append_of_pos hall, List.dropWhile_append_of_pos hall,
    ht.takeWhile_eq_nil, ht.dropWhile_eq_self, List.append_nil] at hrest
  rcases hu : splitUserinfo .special (cs ++ tail) with ⟨before, rest⟩
  rw [hu] at hrest
  obtain rfl : rest = afterAt cs ++ tail := hrest
  simp only [readAuthority, hk, hu, hhead, hsplit, hempty, hh, hdomain, bind, Except.bind,
    Bool.and_false, Bool.false_and, Bool.false_eq_true, if_false, decide_false, reduceCtorEq]
  rcases hmore with ⟨rfl, -⟩ | ⟨ds, rfl, hdigits, hport⟩
  · rw [List.nil_append]
    split
    · exact absurd (ht ':' rfl) (by decide)
    · exact ⟨_, rfl⟩
  · simp only [List.cons_append, port_of_digits ht hdigits hport]
    exact ⟨_, rfl⟩

end Authorities

/-- A scheme is read from the name before a colon, whatever comes behind that. -/
theorem of_scheme? {rest : List Char} {scheme : String} (h : scheme? cs = some (scheme, rest)) :
    ∃ name, cs = name ++ ':' :: rest ∧ (∃ c ∈ name.head?, c.isAlpha = true)
      ∧ ∀ rest', scheme? (name ++ ':' :: rest') = some (scheme, rest') := by
  have hcs := List.takeWhile_append_dropWhile (p := isSchemeChar) (l := cs)
  have hname (c : Char) (hc : c ∈ cs.takeWhile isSchemeChar) : isSchemeChar c = true :=
    List.mem_takeWhile_imp hc
  rw [scheme?] at h
  generalize cs.takeWhile isSchemeChar = name at h hcs hname
  generalize cs.dropWhile isSchemeChar = behind at h hcs
  split at h
  · rename_i c more rest
    split_ifs at h with hc
    cases h
    refine ⟨c :: more, hcs.symm, ⟨c, rfl, hc⟩, fun rest' => ?_⟩
    have hcolon : ¬ isSchemeChar ':' = true := by decide
    rw [scheme?, List.takeWhile_append_of_pos hname, List.dropWhile_append_of_pos hname,
      List.takeWhile_cons_of_neg hcolon, List.dropWhile_cons_of_neg hcolon, List.append_nil]
    exact if_pos hc
  · cases h

/-- What the text of an HTTP URL begins with: the name of its scheme, a colon, slashes and an
authority with a place that can be read. -/
structure Front where
  scheme : String
  name : List Char
  slashes : List Char
  authority : List Char
  isSpecial : SchemeKind.of scheme = .special
  name_alpha : ∃ c ∈ name.head?, c.isAlpha = true
  name_read : ∀ rest, scheme? (name ++ ':' :: rest) = some (scheme, rest)
  slashes_slash : ∀ c ∈ slashes, isSlash .special c = true
  authority_inside : ∀ c ∈ authority, endsAuthority .special c = false
  place_read : ∃ h p, place scheme (afterAt authority) = .ok (h, p)

namespace Front

def text (f : Front) : List Char := f.name ++ ':' :: (f.slashes ++ f.authority)

variable (f : Front)

theorem inside_of_mem_place {c : Char} (h : c ∈ afterAt f.authority) :
    endsAuthority .special c = false :=
  f.authority_inside c ((afterAt_suffix f.authority).subset h)

/-- The text ends where its place does. -/
theorem exists_text_eq : ∃ before c, f.text = before ++ [c] ∧ isUnseen c = false ∧ c ≠ '/' := by
  obtain ⟨user, huser⟩ := afterAt_suffix f.authority
  obtain ⟨h, p, hp⟩ := f.place_read
  obtain ⟨hne, hseen⟩ := not_isUnseen_of_place (fun c => f.inside_of_mem_place) hp
  obtain ⟨before, c, hc⟩ := (List.eq_nil_or_concat' (afterAt f.authority)).resolve_left hne
  refine ⟨f.name ++ ':' :: (f.slashes ++ (user ++ before)), c, ?_, ?_, ?_⟩
  · rw [text, ← huser, hc]
    simp
  · exact hseen c (by rw [hc, List.getLast?_concat]; rfl)
  · rintro rfl
    exact absurd (f.inside_of_mem_place (c := '/') (by rw [hc]; simp)) (by decide)

theorem not_isBlank_of_head? {c : Char} (h : c ∈ f.text.head?) : isBlank c = false := by
  obtain ⟨d, hd, halpha⟩ := f.name_alpha
  rw [text, List.head?_append, Option.mem_def.1 hd, Option.some_or, Option.mem_some_iff] at h
  subst h
  have hletter : 65 ≤ d.toNat ∧ d.toNat ≤ 90 ∨ 97 ≤ d.toNat ∧ d.toNat ≤ 122 := by
    simpa [Char.isAlpha, Char.isUpper, Char.isLower, UInt32.le_iff_toNat_le] using halpha
  simp only [isBlank, Bool.or_eq_false_iff, Bool.and_eq_false_iff, decide_eq_false_iff_not,
    beq_eq_false_iff_ne]
  omega

theorem dropWhile_slashes :
    (f.slashes ++ (f.authority ++ tail)).dropWhile (isSlash .special) = f.authority ++ tail := by
  obtain ⟨h, p, hp⟩ := f.place_read
  have hne := (not_isUnseen_of_place (fun c => f.inside_of_mem_place) hp).1
  rw [List.dropWhile_append_of_pos f.slashes_slash]
  rcases ha : f.authority with _ | ⟨c, more⟩
  · rw [ha] at hne
    exact absurd rfl hne
  · have hc := f.authority_inside c (ha ▸ List.mem_cons_self)
    rw [endsAuthority, Bool.or_assoc, Bool.or_eq_false_iff] at hc
    exact List.dropWhile_cons_of_neg (by rw [hc.1]; exact Bool.false_ne_true)

/-- What begins so is read as a URL. -/
theorem exists_parse {text : String} (hc : cleaned text = f.text ++ tail) (ht : Parts tail) :
    ∃ v, parse text = .ok v := by
  obtain ⟨h, p, hp⟩ := f.place_read
  obtain ⟨a, ha⟩ := readAuthority_of_place f.isSpecial f.authority_inside ht hp
  rw [parse, hc, Front.text, List.append_assoc, List.cons_append, List.append_assoc, f.name_read]
  simp only [f.isSpecial, f.dropWhile_slashes, afterDoubleSlash, ha]
  exact ⟨_, rfl⟩

end Front

/-- The text of a URL of HTTP begins so. -/
theorem exists_front {text : String} {u : Url} (hu : parse text = .ok u) (hh : u.isHttp = true) :
    ∃ (f : Front) (tail : List Char), cleaned text = f.text ++ tail ∧ Parts tail := by
  obtain ⟨scheme, rest, hs, hk, hd⟩ := afterDoubleSlash_of_isHttp hu hh
  obtain ⟨name, hc, halpha, hscheme⟩ := of_scheme? hs
  obtain ⟨⟨a, _⟩, ha, -⟩ := ok_of_bind hd
  refine ⟨{
    scheme := scheme
    name := name
    slashes := rest.takeWhile (isSlash .special)
    authority := (rest.dropWhile (isSlash .special)).takeWhile fun c => !endsAuthority .special c
    isSpecial := hk
    name_alpha := halpha
    name_read := hscheme
    slashes_slash := fun c hm => List.mem_takeWhile_imp hm
    authority_inside := fun c hm => by simpa using List.mem_takeWhile_imp hm
    place_read := ⟨_, _, (of_readAuthority hk ha).1⟩ }, _, ?_, parts_dropWhile (rest.dropWhile (isSlash .special))⟩
  rw [hc, Front.text, List.append_assoc, List.cons_append, List.append_assoc,
    List.takeWhile_append_dropWhile, List.takeWhile_append_dropWhile]

/-- A text that reads as a URL of HTTP still does when it is trimmed. -/
theorem exists_parse_trimmed {text : String} {u : Url} (hu : parse text = .ok u)
    (hh : u.isHttp = true) :
    ∃ v, parse (Address.withoutSlashes (Text.trimmed text)) = .ok v := by
  obtain ⟨f, tail, hc, ht⟩ := exists_front hu hh
  obtain ⟨before, c, he, hseen, hslash⟩ := f.exists_text_eq
  have hfirst : ∀ d ∈ (before ++ [c]).head?, isBlank d = false := by
    rw [← he]
    exact fun d => f.not_isBlank_of_head?
  rw [he, List.append_assoc, List.singleton_append] at hc
  obtain ⟨tail', hc', ht'⟩ := exists_cleaned_trimmed hc ht hfirst hseen hslash
  rw [← List.singleton_append, ← List.append_assoc, ← he] at hc'
  exact f.exists_parse hc' ht'

end Url

/-- A text that reads as a URL of HTTP can be a base. -/
theorem Address.exists_ofBase {text : String} {u : Url} (hu : Url.parse text = .ok u)
    (hh : u.isHttp = true) : ∃ v, ofBase text = .ok v := by
  obtain ⟨v, hv⟩ := Url.exists_parse_trimmed hu hh
  exact ⟨v, mapError_eq_ok.2 hv⟩

end SecretBroker
