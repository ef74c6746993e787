import Mathlib.Data.List.TakeWhile
import SecretBroker.Proofs.Url.Lettering

/-!
# Where an authority leads

Host and port of an HTTP URL are written behind the last at sign of its authority, and that text
alone decides them (`place`, `place_of_readAuthority`): what comes before it tells who, and what
comes after it is for the path.
-/

namespace SecretBroker.Url

/-- What follows, if anything does, ends an authority. -/
def Parts (tail : List Char) : Prop := ∀ c ∈ tail.head?, endsAuthority .special c = true

/-- The end of a text behind its last at sign. -/
def afterAt (cs : List Char) : List Char := (cs.reverse.takeWhile (· != '@')).reverse

/-- The host and the port that a text writes. -/
def place (scheme : String) (cs : List Char) : Except UrlError (Host × Option Nat) := do
  let (hostText, rest) := splitHost .special false cs
  let h ← host hostText
  match rest with
  | [] => return (h, none)
  | _ :: ds => return (h, (← port scheme ds).1)

variable {scheme : String} {cs rest tail : List Char} {a : Authority} {p : Option Nat}

section Host

theorem splitHost_append (ht : Parts tail) : ∀ (isInside : Bool) (cs : List Char),
    splitHost .special isInside (cs ++ tail)
      = ((splitHost .special isInside cs).1, (splitHost .special isInside cs).2 ++ tail)
  | isInside, [] => by
    rcases tail with _ | ⟨c, tail⟩
    · rfl
    · have hc := ht c rfl
      simp only [List.nil_append, splitHost, hc, Bool.or_true, if_true]
  | isInside, c :: cs => by
    simp only [List.cons_append, splitHost]
    split
    · rfl
    · rw [splitHost_append ht]

theorem splitHost_snd {c : Char} : ∀ {isInside : Bool} {cs : List Char},
    (splitHost .special isInside cs).2 = c :: rest →
    (c = ':' ∨ endsAuthority .special c = true) ∧ ∀ d ∈ c :: rest, d ∈ cs
  | _, [], h => by cases h
  | isInside, d :: cs, h => by
    simp only [splitHost] at h
    split at h
    · rename_i hd
      cases h
      refine ⟨?_, fun _ hm => hm⟩
      simp only [Bool.or_eq_true, Bool.and_eq_true, beq_iff_eq] at hd
      exact hd.imp And.left id
    · obtain ⟨hc, hm⟩ := splitHost_snd h
      exact ⟨hc, fun e he => List.mem_cons_of_mem d (hm e he)⟩

end Host

section Port

theorem endsAuthority_special (c : Char) :
    endsAuthority .special c = (c == '/' || c == '\\' || c == '?' || c == '#') := by
  have hk : (SchemeKind.special != .other) = true := by decide
  rw [endsAuthority, isSlash, hk, Bool.and_true]

theorem not_isDigit_of_endsAuthority {c : Char} (h : endsAuthority .special c = true) :
    c.isDigit = false := by
  simp only [endsAuthority_special, Bool.or_eq_true, beq_iff_eq] at h
  rcases h with ((rfl | rfl) | rfl) | rfl <;> decide

/-- The digits of a port end where the authority does. -/
theorem port_append (ht : Parts tail) {ds : List Char}
    (hd : ∀ c ∈ ds, endsAuthority .special c = false)
    (h : port scheme (ds ++ tail) = .ok (p, rest)) : port scheme ds = .ok (p, []) := by
  rcases hr : ds.dropWhile Char.isDigit with _ | ⟨c, more⟩
  · have hall := List.dropWhile_eq_nil_iff.1 hr
    have htail : tail.takeWhile Char.isDigit = [] := by
      rcases tail with _ | ⟨c, tail⟩
      · rfl
      · rw [List.takeWhile_cons, not_isDigit_of_endsAuthority (ht c rfl)]
        rfl
    have hds : ds.takeWhile Char.isDigit = ds := List.takeWhile_eq_self_iff.2 hall
    rw [port, List.takeWhile_append_of_pos hall, htail, List.append_nil] at h
    rw [port, hds, hr]
    dsimp only at h ⊢
    split at h
    · cases h
    · rename_i hn
      rw [if_neg hn]
      split at h
      · split at h
        · cases h
          rfl
        · cases h
      · cases h
        rfl
  -- A port does not go on behind its digits but with what ends the authority.
  · have hc : endsAuthority .special c = false :=
      hd c (List.dropWhile_sublist _ |>.subset (hr ▸ List.mem_cons_self))
    rw [port, List.dropWhile_append, hr] at h
    simp only [List.isEmpty_cons, Bool.false_eq_true, if_false, List.cons_append] at h
    split at h
    · cases h
    · split at h
      · rename_i hs
        rw [← endsAuthority_special, hc] at hs
        cases hs
      · cases h

end Port

theorem afterAt_suffix (cs : List Char) : afterAt cs <:+ cs := by
  rw [afterAt, ← List.reverse_prefix, List.reverse_reverse]
  exact List.takeWhile_prefix _

theorem splitUserinfo_snd (cs : List Char) : (splitUserinfo .special cs).2
    = afterAt (cs.takeWhile fun c => !endsAuthority .special c)
      ++ cs.dropWhile fun c => !endsAuthority .special c := by
  unfold splitUserinfo
  dsimp only
  split
  · rename_i hl
    have he := (afterAt_suffix (cs.takeWhile fun c => !endsAuthority .special c)).eq_of_length hl
    rw [he, List.takeWhile_append_dropWhile]
  · rfl

theorem parts_dropWhile (cs : List Char) :
    Parts (cs.dropWhile fun c => !endsAuthority .special c) := by
  intro c hc
  have h := List.head?_dropWhile_not (fun c => !endsAuthority .special c) cs
  rw [Option.mem_def.1 hc] at h
  simpa using h

theorem Parts.takeWhile_eq_nil (ht : Parts tail) :
    tail.takeWhile (fun c => !endsAuthority .special c) = [] := by
  rcases tail with _ | ⟨c, tail⟩
  · rfl
  · exact List.takeWhile_cons_of_neg (by rw [ht c rfl]; exact Bool.false_ne_true)

theorem Parts.dropWhile_eq_self (ht : Parts tail) :
    tail.dropWhile (fun c => !endsAuthority .special c) = tail := by
  rcases tail with _ | ⟨c, tail⟩
  · rfl
  · exact List.dropWhile_cons_of_neg (by rw [ht c rfl]; exact Bool.false_ne_true)

/-- What an authority is read from: user and password, and a place. -/
theorem of_readAuthority (hk : SchemeKind.of scheme = .special)
    (h : readAuthority scheme cs = .ok (a, rest)) :
    place scheme (afterAt (cs.takeWhile fun c => !endsAuthority .special c))
      = .ok (a.host, a.port)
    ∧ ∃ before, userinfo before = (a.username, a.password) := by
  unfold readAuthority at h
  rw [hk] at h
  dsimp only at h
  replace h := ok_of_unless (ok_of_unless h)
  rw [if_neg (by decide)] at h
  obtain ⟨name, hname, h⟩ := ok_of_bind h
  replace h := ok_of_unless h
  have hparts := parts_dropWhile cs
  have hinside : ∀ c ∈ afterAt (cs.takeWhile fun c => !endsAuthority .special c),
      endsAuthority .special c = false := by
    intro c hc
    simpa using List.mem_takeWhile_imp ((afterAt_suffix _).subset hc)
  rw [splitUserinfo_snd, splitHost_append hparts] at hname h
  generalize afterAt (cs.takeWhile fun c => !endsAuthority .special c) = text at *
  generalize (cs.dropWhile fun c => !endsAuthority .special c) = outside at *
  rcases hs : splitHost .special false text with ⟨hostText, _ | ⟨c, ds⟩⟩
  · simp only [hs, List.nil_append] at hname h
    split at h
    · exact absurd (hparts ':' rfl) (by decide)
    · cases h
      simp only [place, hs, hname, bind, Except.bind]
      exact ⟨rfl, _, rfl⟩
  · obtain ⟨hc, hm⟩ := splitHost_snd (congrArg Prod.snd hs)
    obtain rfl : c = ':' := by
      rcases hc with hc | hc
      · exact hc
      · rw [hinside c (hm c List.mem_cons_self)] at hc
        cases hc
    simp only [hs, List.cons_append] at hname h
    obtain ⟨⟨p, more⟩, hp, h⟩ := ok_of_bind h
    cases h
    have hport := port_append hparts (fun d hd => hinside d (hm d (List.mem_cons_of_mem _ hd))) hp
    simp only [place, hs, hname, hport, bind, Except.bind]
    exact ⟨rfl, _, rfl⟩

end SecretBroker.Url
