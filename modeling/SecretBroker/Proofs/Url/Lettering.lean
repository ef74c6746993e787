import Mathlib.Data.Nat.Digits.Defs
import SecretBroker.Proofs.Sequence
import SecretBroker.Url.Parser

/-!
# What an authority is written in

User, password, host and port of an HTTP URL are written in visible ASCII characters none of which
ends an authority (`isLetter_of_mem_userinfo`, `text_of_host`, `isHostLetter_of_mem_portText`).
Moreover no host and no port has an at sign in it.
-/

namespace SecretBroker

namespace Url

/-- Whether a character may stand within an authority: it is a visible one of ASCII and does not end
the authority. -/
def isLetter (c : Char) : Bool :=
  0x20 < c.toNat && c.toNat < 0x7F && !endsAuthority .special c

/-- Whether a character may stand within a host. -/
def isHostLetter (c : Char) : Bool := isLetter c && c != '@'

theorem isLetter_of_isHostLetter {c : Char} (h : isHostLetter c = true) : isLetter c = true :=
  (Bool.and_eq_true_iff.1 h).1

/-- What holds of each character of ASCII, to be tried out. -/
theorem of_ascii {p : Char → Prop} (h : ∀ n < 128, p (Char.ofNat n)) {c : Char}
    (hc : c.toNat < 128) : p c := by
  have hp := h c.toNat hc
  rwa [Char.ofNat_toNat] at hp

section Encoded

theorem isLetter_upperHex : ∀ n < 16, isLetter (upperHex n) = true := by decide

theorem isLetter_of_mem_percentByte {b : UInt8} {c : Char} (h : c ∈ percentByte b) :
    isLetter c = true := by
  have hb := b.toNat_lt
  simp only [percentByte, List.mem_cons, List.not_mem_nil, or_false] at h
  rcases h with rfl | rfl | rfl
  · decide
  · exact isLetter_upperHex _ (by omega)
  · exact isLetter_upperHex _ (by omega)

theorem isLetter_of_not_userinfoSet {c : Char} (h : userinfoSet c = false) :
    isLetter c = true := by
  have hc : c.toNat < 128 := by
    simp only [userinfoSet, pathSet, fragmentSet, EncodeSet.with, controlSet, Bool.or_eq_false_iff,
      decide_eq_false_iff_not] at h
    omega
  exact of_ascii (p := fun c => userinfoSet c = false → isLetter c = true) (by decide) hc h

/-- User and password are written in such characters. -/
theorem isLetter_of_mem_userinfo {cs : List Char} {c : Char}
    (h : c ∈ percentEncode userinfoSet cs) : isLetter c = true := by
  obtain ⟨d, -, hc⟩ := List.mem_flatMap.1 h
  rw [percentChar] at hc
  split at hc
  · obtain ⟨b, -, hb⟩ := List.mem_flatMap.1 hc
    exact isLetter_of_mem_percentByte hb
  · rename_i hd
    rw [List.mem_singleton] at hc
    rw [hc]
    exact isLetter_of_not_userinfoSet (Bool.eq_false_iff.2 hd)

end Encoded

section Names

theorem isHostLetter_digit : ∀ d < 36, isHostLetter (Text.Punycode.digit d) = true := by decide

theorem isHostLetter_of_mem_stepDigits (bias k step : Nat) :
    ∀ c ∈ Text.Punycode.stepDigits bias k step, isHostLetter c = true := by
  induction k, step using Text.Punycode.stepDigits.induct bias with
  | case1 k step t ht =>
    intro c hc
    have hle := Text.Punycode.threshold_le k bias
    rw [Text.Punycode.stepDigits, if_pos ht, List.mem_singleton] at hc
    rw [hc]
    exact isHostLetter_digit _ (by omega)
  | case2 k step t ht ih =>
    intro c hc
    have hle := Text.Punycode.threshold_le k bias
    have hmod := Nat.mod_lt (step - Text.Punycode.threshold k bias)
      (show 0 < 36 - Text.Punycode.threshold k bias by omega)
    rw [Text.Punycode.stepDigits, if_neg ht, List.mem_cons] at hc
    rcases hc with rfl | hc
    · exact isHostLetter_digit _ (by omega)
    · exact ih c hc

open Text.Punycode in
theorem isHostLetter_of_mem_all (text : List Char) (plain : Nat) : ∀ (ms : List Nat) (n : Nat)
    {w : Writing}, (∀ c ∈ w.digits, isHostLetter c = true) →
    ∀ c ∈ (Writing.all text plain ms n w).digits, isHostLetter c = true
  | [], _, w, h => h
  | m :: ms, n, w, h => by
    have hpass : ∀ (l : List Char) (w : Writing), (∀ c ∈ w.digits, isHostLetter c = true) →
        ∀ c ∈ (l.foldl (Writing.pass m plain) w).digits, isHostLetter c = true := by
      intro l
      induction l with
      | nil => exact fun w hw => hw
      | cons d l ih =>
        intro w hw
        refine ih _ ?_
        unfold Writing.pass
        split
        · exact hw
        · split
          · intro c hc
            rcases List.mem_append.1 hc with hc | hc
            · exact hw c hc
            · exact isHostLetter_of_mem_stepDigits _ _ _ c hc
          · exact hw
    exact isHostLetter_of_mem_all text plain ms (m + 1) (hpass text _ h)

theorem isHostLetter_of_isDomainChar {c : Char} (h : isDomainChar c = true) (hc : isAscii c = true) :
    isHostLetter c = true :=
  of_ascii (p := fun c => isDomainChar c = true → isHostLetter c = true) (by decide)
    (of_decide_eq_true hc) h

/-- What a code has besides plain characters is a hyphen and digits. -/
theorem isHostLetter_of_mem_encode {label : List Char}
    (h : ∀ c ∈ label, isDomainChar c = true) :
    ∀ c ∈ Text.Punycode.encode label, isHostLetter c = true := by
  intro c hc
  simp only [Text.Punycode.encode] at hc
  rcases List.mem_append.1 hc with hc | hc
  · rcases List.mem_append.1 hc with hc | hc
    · obtain ⟨hm, ha⟩ := List.mem_filter.1 hc
      exact isHostLetter_of_isDomainChar (h c hm) ha
    · split at hc
      · cases hc
      · rw [List.mem_singleton.1 hc]
        decide
  · exact isHostLetter_of_mem_all _ _ _ _ (fun c hc => by cases hc) c hc

theorem isHostLetter_of_mem_plainLabel {label plain : List Char}
    (h : ∀ c ∈ label, isDomainChar c = true) (hp : plainLabel? label = some plain) :
    ∀ c ∈ plain, isHostLetter c = true := by
  unfold plainLabel? at hp
  split at hp
  · rename_i ha
    cases hp
    exact fun c hc => isHostLetter_of_isDomainChar (h c hc) (List.all_eq_true.1 ha c hc)
  · split at hp
    · cases hp
      intro c hc
      rcases List.mem_append.1 hc with hc | hc
      · have hmark : codeMark.all isHostLetter = true := by decide
        exact List.all_eq_true.1 hmark c hc
      · exact isHostLetter_of_mem_encode h c hc
    · cases hp

theorem isHostLetter_of_mem_domainName {cs name : List Char} (h : domainName? cs = some name) :
    ∀ c ∈ name, isHostLetter c = true := by
  intro c hc
  obtain ⟨mapped, -, h⟩ := Option.bind_eq_some_iff.1 h
  obtain ⟨labels, -, h⟩ := Option.bind_eq_some_iff.1 h
  split at h
  · cases h
  rename_i hlabels
  obtain ⟨plains, hplains, h⟩ := Option.bind_eq_some_iff.1 h
  cases h
  rcases mem_intercalate hc with hc | ⟨plain, hplain, hc⟩
  · rw [List.mem_singleton.1 hc]
    decide
  · obtain ⟨label, hlabel, hp⟩ := mem_mapM hplains hplain
    refine isHostLetter_of_mem_plainLabel (fun d hd => ?_) hp c hc
    simp only [Bool.or_eq_true, not_or, Bool.not_eq_true', Bool.not_eq_false] at hlabels
    have hl := List.all_eq_true.1 hlabels.1 label hlabel
    exact List.all_eq_true.1 (Bool.and_eq_true_iff.1 hl).2 d hd

end Names

section Addresses

theorem isHostLetter_digitChar : ∀ d < 16, isHostLetter (Nat.digitChar d) = true := by decide

theorem isHostLetter_of_mem_toDigits {b : Nat} (h₁ : 1 < b) (h₂ : b ≤ 16) (n : Nat) :
    ∀ c ∈ Nat.toDigits b n, isHostLetter c = true := by
  induction n using Nat.strong_induction_on with
  | _ n ih =>
    intro c hc
    rcases Nat.lt_or_ge n b with hn | hn
    · rw [Nat.toDigits_of_lt_base hn, List.mem_singleton] at hc
      rw [hc]
      exact isHostLetter_digitChar n (by omega)
    · have hmod := Nat.mod_lt n (by omega : b > 0)
      rw [Nat.toDigits_of_base_le h₁ hn, List.mem_append, List.mem_singleton] at hc
      rcases hc with hc | rfl
      · exact ih (n / b) (Nat.div_lt_self (by omega) h₁) c hc
      · exact isHostLetter_digitChar _ (by omega)

theorem isHostLetter_of_mem_toString (n : Nat) :
    ∀ c ∈ (toString n).toList, isHostLetter c = true := by
  intro c hc
  have hr : (toString n).toList = Nat.toDigits 10 n := Nat.toList_repr
  rw [hr] at hc
  exact isHostLetter_of_mem_toDigits (by decide) (by decide) n c hc

theorem isHostLetter_of_mem_portText (p : Option Nat) :
    ∀ c ∈ (portText p).toList, isHostLetter c = true := by
  intro c hc
  rcases p with _ | n
  · cases hc
  · rw [portText, String.toList_append, List.mem_append] at hc
    rcases hc with hc | hc
    · have hcolon : ":".toList.all isHostLetter = true := by decide
      exact List.all_eq_true.1 hcolon c hc
    · exact isHostLetter_of_mem_toString n c hc

theorem isHostLetter_of_mem_group {sep : String} {parts : List String} {c : Char}
    (hs : sep.toList.all isHostLetter = true)
    (hp : ∀ part ∈ parts, ∀ c ∈ part.toList, isHostLetter c = true)
    (hc : c ∈ (sep.intercalate parts).toList) : isHostLetter c = true := by
  rw [String.toList_intercalate] at hc
  rcases mem_intercalate hc with hc | ⟨part, hpart, hc⟩
  · exact List.all_eq_true.1 hs c hc
  · obtain ⟨part, hm, rfl⟩ := List.mem_map.1 hpart
    exact hp part hm c hc

theorem isHostLetter_of_mem_ipv4Text {address : Nat} {c : Char}
    (hc : c ∈ (ipv4Text address).toList) : isHostLetter c = true := by
  refine isHostLetter_of_mem_group (by decide) (fun part hp => ?_) hc
  obtain ⟨k, -, rfl⟩ := List.mem_map.1 hp
  exact isHostLetter_of_mem_toString _

theorem isHostLetter_of_mem_ipv6Text {pieces : List Nat} {c : Char}
    (hc : c ∈ (ipv6Text pieces).toList) : isHostLetter c = true := by
  have hgroup (ps : List Nat) {c : Char} (hc : c ∈ (":".intercalate (ps.map hexText)).toList) :
      isHostLetter c = true := by
    refine isHostLetter_of_mem_group (by decide) (fun part hp => ?_) hc
    obtain ⟨p, -, rfl⟩ := List.mem_map.1 hp
    rw [hexText, String.toList_ofList]
    exact isHostLetter_of_mem_toDigits (by decide) (by decide) p
  rw [ipv6Text] at hc
  split at hc
  · exact hgroup _ hc
  · rw [String.toList_append, String.toList_append, List.mem_append, List.mem_append] at hc
    rcases hc with (hc | hc) | hc
    · exact hgroup _ hc
    · have hcolons : "::".toList.all isHostLetter = true := by decide
      exact List.all_eq_true.1 hcolons c hc
    · exact hgroup _ hc

end Addresses

/-- What is read as a host is written again in such characters, and in one of them at least. -/
theorem text_of_host {cs : List Char} {h : Host} (hh : host cs = .ok h) :
    h.text.toList ≠ [] ∧ ∀ c ∈ h.text.toList, isHostLetter c = true := by
  unfold host at hh
  split at hh
  · split at hh
    · cases hh
      refine ⟨by simp [Host.text], fun c hc => ?_⟩
      rw [Host.text, String.toList_append, String.toList_append, List.mem_append,
        List.mem_append] at hc
      rcases hc with (hc | hc) | hc
      · have hopen : "[".toList.all isHostLetter = true := by decide
        exact List.all_eq_true.1 hopen c hc
      · exact isHostLetter_of_mem_ipv6Text hc
      · have hclose : "]".toList.all isHostLetter = true := by decide
        exact List.all_eq_true.1 hclose c hc
    · cases hh
  · split at hh
    · cases hh
    · cases hh
    · rename_i name hempty hname
      split at hh
      · split at hh
        · cases hh
          exact ⟨by simp [Host.text, ipv4Text], fun c => isHostLetter_of_mem_ipv4Text⟩
        · cases hh
      · cases hh
        rw [Host.text, String.toList_ofList]
        exact ⟨hempty, isHostLetter_of_mem_domainName hname⟩

end Url
end SecretBroker
