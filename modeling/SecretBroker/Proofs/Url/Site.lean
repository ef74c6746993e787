import Mathlib.Data.List.DropRight
import SecretBroker.Gateway.Address
import SecretBroker.Proofs.Url.Http
import SecretBroker.Proofs.Url.Place

/-!
# Texts of one site

The site of a URL is its scheme, host and port. A URL that is read from a text has the site that the
text begins with (`Heading.site_of_parse`), whatever follows. Both the text of an HTTP URL and the
text of its origin begin with its site, and they still do when blanks around them and slashes at
their end are gone (`Url.Heads`).
-/

namespace SecretBroker

namespace Url

/-- Scheme, host and port. -/
def site (u : Url) : String × Option (Host × Option Nat) :=
  (u.scheme, u.authority.map fun a => (a.host, a.port))

/-- What the text of an HTTP URL begins with: scheme, user and password if there are any, and the
place where it leads. -/
structure Heading where
  scheme : String
  user : List Char
  place : List Char
  isHttp : scheme = "http" ∨ scheme = "https"
  user_letters : ∀ c ∈ user, isLetter c = true
  user_end : ∀ c ∈ user.getLast?, c = '@'
  place_letters : ∀ c ∈ place, isHostLetter c = true
  place_ne : place ≠ []

namespace Heading

variable (t : Heading)

def authority : List Char := t.user ++ t.place

def text : List Char := t.scheme.toList ++ "://".toList ++ t.authority

/-- The text begins so, and what follows is not of the authority. -/
def Begins (cs : List Char) : Prop := ∃ tail, cs = t.text ++ tail ∧ Parts tail

/-- A character that is seen, for it is neither blank nor passed over. -/
def isVisible (c : Char) : Bool := 0x20 < c.toNat && c.toNat < 0x7F

theorem isVisible_of_isLetter {c : Char} (h : isLetter c = true) : isVisible c = true :=
  (Bool.and_eq_true_iff.1 h).1

theorem isVisible_of_endsAuthority {c : Char} (h : endsAuthority .special c = true) :
    isVisible c = true := by
  simp only [endsAuthority_special, Bool.or_eq_true, beq_iff_eq] at h
  rcases h with ((rfl | rfl) | rfl) | rfl <;> decide

theorem isVisible_of_mem_scheme {c : Char} (h : c ∈ t.scheme.toList ++ "://".toList) :
    isVisible c = true := by
  have hhttp : ∀ c ∈ "http".toList ++ "://".toList, isVisible c = true := by simp [isVisible]
  have hhttps : ∀ c ∈ "https".toList ++ "://".toList, isVisible c = true := by simp [isVisible]
  rcases t.isHttp with he | he
  · rw [he] at h
    exact hhttp c h
  · rw [he] at h
    exact hhttps c h

theorem isLetter_of_mem_authority {c : Char} (h : c ∈ t.authority) : isLetter c = true := by
  rcases List.mem_append.1 h with h | h
  · exact t.user_letters c h
  · exact isLetter_of_isHostLetter (t.place_letters c h)

theorem isVisible_of_mem_text {c : Char} (h : c ∈ t.text) : isVisible c = true := by
  rcases List.mem_append.1 h with h | h
  · exact t.isVisible_of_mem_scheme h
  · exact isVisible_of_isLetter (t.isLetter_of_mem_authority h)

theorem authority_ne : t.authority ≠ [] := by
  intro h
  exact t.place_ne (List.append_eq_nil_iff.1 h).2

/-- The text ends with a letter, not with a slash. -/
theorem isLetter_of_getLast? {c : Char} (h : c ∈ t.text.getLast?) : isLetter c = true := by
  rw [text, List.getLast?_append_of_ne_nil _ t.authority_ne] at h
  exact t.isLetter_of_mem_authority (List.mem_of_mem_getLast? h)

theorem text_ne : t.text ≠ [] := by
  intro h
  exact t.authority_ne (List.append_eq_nil_iff.1 h).2

section Kept

variable {t} {p : Char → Bool} {cs : List Char}

theorem Begins.dropWhile (h : t.Begins cs) (hp : ∀ c, isVisible c = true → p c = false) :
    cs.dropWhile p = cs := by
  obtain ⟨tail, rfl, -⟩ := h
  rcases ht : t.text with _ | ⟨c, more⟩
  · exact absurd ht t.text_ne
  · have hc := hp c (t.isVisible_of_mem_text (ht ▸ List.mem_cons_self))
    exact List.dropWhile_cons_of_neg (by rw [hc]; exact Bool.false_ne_true)

theorem Begins.dropEndWhile (h : t.Begins cs) (hp : ∀ c, isLetter c = true → p c = false) :
    t.Begins (Text.dropEndWhile p cs) := by
  obtain ⟨tail, rfl, ht⟩ := h
  refine ⟨Text.dropEndWhile p tail, ?_, ?_⟩
  · exact Text.dropEndWhile_append (fun c hc => hp c (t.isLetter_of_getLast? hc)) tail
  · intro c hc
    obtain ⟨dropped, he⟩ : Text.dropEndWhile p tail <+: tail := List.rdropWhile_prefix p tail
    refine ht c ?_
    rw [← he, List.head?_append, Option.mem_def.1 hc]
    rfl

theorem Begins.filter (h : t.Begins cs) (hp : ∀ c, isVisible c = true → p c = true) :
    t.Begins (cs.filter p) := by
  obtain ⟨tail, rfl, ht⟩ := h
  refine ⟨tail.filter p, ?_, ?_⟩
  · rw [List.filter_append, List.filter_eq_self.2 fun c hc => hp c (t.isVisible_of_mem_text hc)]
  · rcases tail with _ | ⟨c, tail⟩
    · exact ht
    · have hc := ht c rfl
      have hv : p c = true := hp c (isVisible_of_endsAuthority hc)
      rw [List.filter_cons_of_pos hv]
      intro d hd
      cases hd
      exact hc

end Kept

section Texts

variable {t} {text : String}

theorem Begins.cleaned (h : t.Begins text.toList) : t.Begins (cleaned text) := by
  have houter (c : Char) (hc : isVisible c = true) : decide (c.toNat ≤ 0x20) = false := by
    simp only [isVisible, Bool.and_eq_true, decide_eq_true_eq] at hc
    simpa using hc.1
  have hignored (c : Char) (hc : isVisible c = true) : (!isIgnored c) = true := by
    rw [Bool.not_eq_true', Bool.eq_false_iff]
    intro hi
    simp only [isIgnored, Bool.or_eq_true, beq_iff_eq] at hi
    rcases hi with (rfl | rfl) | rfl <;> cases hc
  have he : Url.cleaned text = (Text.dropEndWhile (fun c => decide (c.toNat ≤ 0x20))
      (text.toList.dropWhile fun c => decide (c.toNat ≤ 0x20))).filter fun c => !isIgnored c := rfl
  rw [he, h.dropWhile houter]
  exact (h.dropEndWhile fun c hc => houter c (isVisible_of_isLetter hc)).filter hignored

theorem Begins.trimmed (h : t.Begins text.toList) : t.Begins (Text.trimmed text).toList := by
  have hblank (c : Char) (hc : isVisible c = true) : Text.isBlank c = false := by
    simp only [isVisible, Bool.and_eq_true, decide_eq_true_eq] at hc
    simp only [Text.isBlank, Bool.or_eq_false_iff, Bool.and_eq_false_iff, decide_eq_false_iff_not,
      beq_eq_false_iff_ne]
    omega
  rw [Text.trimmed, String.toList_ofList, Text.trimWhile, h.dropWhile hblank]
  exact h.dropEndWhile fun c hc => hblank c (isVisible_of_isLetter hc)

theorem Begins.withoutSlashes (h : t.Begins text.toList) :
    t.Begins (Address.withoutSlashes text).toList := by
  rw [Address.withoutSlashes, String.toList_ofList]
  refine h.dropEndWhile fun c hc => ?_
  rw [Bool.eq_false_iff]
  intro hs
  rw [beq_iff_eq] at hs
  rw [hs] at hc
  exact absurd hc (by decide)

end Texts

section Read

theorem scheme?_text (rest : List Char) : scheme? (t.scheme.toList ++ "://".toList ++ rest)
    = some (t.scheme, '/' :: '/' :: rest) := by
  rcases t.isHttp with he | he
  · rw [he]
    rfl
  · rw [he]
    rfl

theorem kind_scheme : SchemeKind.of t.scheme = .special := by
  rcases t.isHttp with he | he
  · rw [he]
    decide
  · rw [he]
    decide

theorem not_endsAuthority_of_isLetter {c : Char} (h : isLetter c = true) :
    endsAuthority .special c = false := by
  simpa using (Bool.and_eq_true_iff.1 h).2

theorem dropWhile_slashes (tail : List Char) :
    ('/' :: '/' :: (t.authority ++ tail)).dropWhile (isSlash .special) = t.authority ++ tail := by
  have hs : isSlash .special '/' = true := by decide
  rcases ha : t.authority with _ | ⟨c, more⟩
  · exact absurd ha t.authority_ne
  · have hc := not_endsAuthority_of_isLetter
      (t.isLetter_of_mem_authority (ha ▸ List.mem_cons_self))
    have hn : ¬ isSlash .special c = true := by
      intro h
      rw [endsAuthority, h, Bool.true_or, Bool.true_or] at hc
      cases hc
    rw [List.dropWhile_cons_of_pos hs, List.dropWhile_cons_of_pos hs, List.cons_append,
      List.dropWhile_cons_of_neg hn]

theorem takeWhile_authority {tail : List Char} (ht : Parts tail) :
    (t.authority ++ tail).takeWhile (fun c => !endsAuthority .special c) = t.authority := by
  rw [List.takeWhile_append_of_pos, ht.takeWhile_eq_nil, List.append_nil]
  intro c hc
  rw [not_endsAuthority_of_isLetter (t.isLetter_of_mem_authority hc)]
  rfl

theorem afterAt_authority : afterAt t.authority = t.place := by
  have hplace : ∀ c ∈ t.place.reverse, (c != '@') = true := by
    intro c hc
    exact (Bool.and_eq_true_iff.1 (t.place_letters c (List.mem_reverse.1 hc))).2
  have huser : t.user.reverse.takeWhile (· != '@') = [] := by
    rcases hu : t.user.reverse with _ | ⟨c, more⟩
    · rfl
    · have hc := t.user_end c (by rw [List.getLast?_eq_head?_reverse, hu]; rfl)
      rw [hc]
      rfl
  rw [afterAt, authority, List.reverse_append, List.takeWhile_append_of_pos hplace, huser,
    List.append_nil, List.reverse_reverse]

/-- A URL that is read from a text leads where the text begins. -/
theorem site_of_parse {t : Heading} {text : String} {v : Url} (h : t.Begins text.toList)
    (hv : parse text = .ok v) :
    ∃ a, v.site = (t.scheme, some a) ∧ Url.place t.scheme t.place = .ok a := by
  obtain ⟨tail, hc, ht⟩ := h.cleaned
  rw [parse, hc, Heading.text, List.append_assoc, t.scheme?_text] at hv
  simp only [t.kind_scheme, t.dropWhile_slashes] at hv
  obtain ⟨⟨a, rest⟩, ha, hv⟩ := ok_of_bind hv
  cases hv
  have hplace := (of_readAuthority t.kind_scheme ha).1
  rw [t.takeWhile_authority ht, t.afterAt_authority] at hplace
  exact ⟨_, rfl, hplace⟩

end Read

end Heading

section Written

theorem host_of_place {scheme : String} {cs : List Char} {h : Host} {p : Option Nat}
    (hp : place scheme cs = .ok (h, p)) : ∃ hostText, host hostText = .ok h := by
  obtain ⟨h', hh, hp⟩ := ok_of_bind hp
  split at hp
  · cases hp
    exact ⟨_, hh⟩
  · obtain ⟨_, -, hp⟩ := ok_of_bind hp
    cases hp
    exact ⟨_, hh⟩

/-- An HTTP URL has an authority with a host that was read, and with user and password in letters. -/
structure Authority.Legible (a : Authority) : Prop where
  host : ∃ hostText, Url.host hostText = .ok a.host
  username : ∀ c ∈ a.username.toList, isLetter c = true
  password : ∀ word ∈ a.password, ∀ c ∈ word.toList, isLetter c = true

theorem legible_of_readAuthority {scheme : String} {cs rest : List Char} {a : Authority}
    (hk : SchemeKind.of scheme = .special) (h : readAuthority scheme cs = .ok (a, rest)) :
    a.Legible := by
  obtain ⟨hplace, before, hu⟩ := of_readAuthority hk h
  obtain ⟨hname, hword⟩ := Prod.mk.inj hu
  refine ⟨host_of_place hplace, fun c hc => ?_, fun word hw c hc => ?_⟩
  · rw [← hname, String.toList_ofList] at hc
    exact isLetter_of_mem_userinfo hc
  · rw [← hword] at hw
    split at hw
    · cases hw
      rw [String.toList_ofList] at hc
      exact isLetter_of_mem_userinfo hc
    · cases hw

theorem legible_of_isHttp {text : String} {u : Url} (hp : parse text = .ok u)
    (hh : u.isHttp = true) : ∃ a, u.authority = some a ∧ a.Legible := by
  obtain ⟨_, _, -, hk, hd⟩ := afterDoubleSlash_of_isHttp hp hh
  obtain ⟨⟨a, rest⟩, ha, hd⟩ := ok_of_bind hd
  cases hd
  exact ⟨a, rfl, legible_of_readAuthority hk ha⟩

/-- User and password as they stand in front of the host. -/
def Authority.userText (a : Authority) : String :=
  if a.username = "" ∧ a.password = none then ""
  else a.username ++ (a.password.map (":" ++ ·)).getD "" ++ "@"

/-- Host and port as they are written. -/
def Authority.placeText (a : Authority) : String := a.host.text ++ portText a.port

variable {a : Authority} {u : Url}

theorem Authority.text_eq (a : Authority) : a.text = a.userText ++ a.placeText := by
  rw [text, placeText, ← String.append_assoc]
  rfl

theorem Authority.Legible.userText_letters (h : a.Legible) {c : Char}
    (hc : c ∈ a.userText.toList) : isLetter c = true := by
  rw [userText] at hc
  split at hc
  · cases hc
  · simp only [String.toList_append, List.mem_append] at hc
    rcases hc with (hc | hc) | hc
    · exact h.username c hc
    · rcases hw : a.password with _ | word
      · rw [hw] at hc
        cases hc
      · simp only [hw, Option.map_some, Option.getD_some, String.toList_append,
          List.mem_append] at hc
        rcases hc with hc | hc
        · obtain rfl : c = ':' := by simpa using hc
          decide
        · exact h.password word hw c hc
    · obtain rfl : c = '@' := by simpa using hc
      decide

theorem Authority.userText_end (a : Authority) : ∀ c ∈ a.userText.toList.getLast?, c = '@' := by
  intro c hc
  rw [userText] at hc
  split at hc
  · cases hc
  · rw [String.toList_append, List.getLast?_append] at hc
    cases hc
    rfl

theorem Authority.Legible.placeText_letters (h : a.Legible) :
    a.placeText.toList ≠ [] ∧ ∀ c ∈ a.placeText.toList, isHostLetter c = true := by
  obtain ⟨hostText, hh⟩ := h.host
  obtain ⟨hne, hl⟩ := text_of_host hh
  rw [placeText, String.toList_append]
  refine ⟨fun he => hne (List.append_eq_nil_iff.1 he).1, fun c hc => ?_⟩
  rcases List.mem_append.1 hc with hc | hc
  · exact hl c hc
  · exact isHostLetter_of_mem_portText _ c hc

theorem Parts.append {l l' : List Char} (h : Parts l) (h' : Parts l') : Parts (l ++ l') := by
  rcases l with _ | ⟨c, l⟩
  · exact h'
  · exact h

theorem parts_segmentsText (names : List String) : Parts (segmentsText names).toList := by
  intro c hc
  have hslash (n : String) : ("/" ++ n).toList = '/' :: n.toList := by
    rw [String.toList_append]
    rfl
  rcases names with _ | ⟨n, _ | ⟨m, names⟩⟩
  · cases hc
  · rw [segmentsText, String.toList_intercalate, List.map_singleton, List.map_singleton,
      List.intercalate_singleton, hslash] at hc
    cases hc
    decide
  · rw [segmentsText, String.toList_intercalate, List.map_cons, List.map_cons, List.map_cons,
      List.map_cons, List.intercalate_cons_cons, hslash] at hc
    cases hc
    decide

theorem parts_mark {mark : Char} {lead : String} (hl : lead.toList = [mark])
    (hm : endsAuthority .special mark = true) (part : Option String) :
    Parts ((part.map (lead ++ ·)).getD "").toList := by
  intro c hc
  rcases part with _ | part
  · cases hc
  · rw [Option.map_some, Option.getD_some, String.toList_append, hl] at hc
    cases hc
    exact hm

/-- The text begins with the site of the URL. -/
def Heads (u : Url) (text : String) : Prop :=
  ∃ t : Heading, t.Begins text.toList ∧ t.scheme = u.scheme
    ∧ ∃ a, u.authority = some a ∧ t.place = a.placeText.toList

variable {text : String}

theorem heads_text (hp : parse text = .ok u) (hh : u.isHttp = true) : u.Heads u.text := by
  obtain ⟨a, ha, hl⟩ := legible_of_isHttp hp hh
  obtain ⟨names, hn⟩ := path_of_isHttp hp hh
  refine ⟨{
    scheme := u.scheme
    user := a.userText.toList
    place := a.placeText.toList
    isHttp := isHttp_iff.1 hh
    user_letters := fun c => hl.userText_letters
    user_end := a.userText_end
    place_letters := hl.placeText_letters.2
    place_ne := hl.placeText_letters.1 }, ?_, rfl, a, ha, rfl⟩
  refine ⟨(segmentsText names).toList ++ ((u.query.map ("?" ++ ·)).getD "").toList
    ++ ((u.fragment.map ("#" ++ ·)).getD "").toList, ?_, ?_⟩
  · simp only [Url.text, textWithoutFragment, leader, ha, hn, Path.text, Authority.text_eq,
      String.toList_append, Heading.text, Heading.authority, List.append_assoc]
    rfl
  · exact ((parts_segmentsText names).append (parts_mark rfl (by decide) _)).append
      (parts_mark rfl (by decide) _)

theorem heads_originText (hp : parse text = .ok u) (hh : u.isHttp = true) :
    u.Heads u.originText := by
  obtain ⟨a, ha, hl⟩ := legible_of_isHttp hp hh
  refine ⟨{
    scheme := u.scheme
    user := []
    place := a.placeText.toList
    isHttp := isHttp_iff.1 hh
    user_letters := by simp
    user_end := by simp
    place_letters := hl.placeText_letters.2
    place_ne := hl.placeText_letters.1 }, ⟨[], ?_, by simp [Parts]⟩, rfl, a, ha, rfl⟩
  simp only [originText, kind_of_isHttp hh, ha, Authority.placeText, String.toList_append,
    Heading.text, Heading.authority, List.append_assoc, List.append_nil, List.nil_append]

theorem Heads.trimmed (h : u.Heads text) : u.Heads (Text.trimmed text) := by
  obtain ⟨t, hb, ht⟩ := h
  exact ⟨t, hb.trimmed, ht⟩

theorem Heads.withoutSlashes (h : u.Heads text) : u.Heads (Address.withoutSlashes text) := by
  obtain ⟨t, hb, ht⟩ := h
  exact ⟨t, hb.withoutSlashes, ht⟩

/-- What is read from a text that begins with the site of a URL is of that site, if the URL's own
text is read as it. -/
theorem Heads.site_eq (h : u.Heads text) (hh : u.isHttp = true) (hr : parse u.text = .ok u) {v : Url}
    (hv : parse text = .ok v) : v.site = u.site := by
  obtain ⟨t, hb, hs, a, ha, hp⟩ := h
  obtain ⟨t', hb', hs', a', ha', hp'⟩ := heads_text hr hh
  obtain rfl := Option.some.inj (ha.symm.trans ha')
  obtain ⟨at₁, hsite, hplace⟩ := Heading.site_of_parse hb hv
  obtain ⟨at₂, hsite', hplace'⟩ := Heading.site_of_parse hb' hr
  rw [hs, hp] at hplace
  rw [hs', hp', hplace] at hplace'
  rw [hsite, hsite', hs, hs', Except.ok.inj hplace']

end Written
end Url

/-- A base whose text begins with the site of a URL means a URL of that site. -/
theorem Address.site_of_ofBase {u v : Url} {base : String} (h : u.Heads base)
    (hh : u.isHttp = true) (hr : Url.parse u.text = .ok u) (hv : Address.ofBase base = .ok v) :
    v.site = u.site :=
  h.trimmed.withoutSlashes.site_eq hh hr (mapError_eq_ok.1 hv)

end SecretBroker
