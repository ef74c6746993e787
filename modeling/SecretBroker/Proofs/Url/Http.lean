import SecretBroker.Proofs.Sequence
import SecretBroker.Settings

/-!
# HTTP URLs

A URL of HTTP has been read as those are that have an authority and a path in segments
(`afterDoubleSlash_of_isHttp`), for no other way of reading leads to its schemes.
-/

namespace SecretBroker.Url

variable {u : Url}

theorem isHttp_iff : u.isHttp = true ↔ u.scheme = "http" ∨ u.scheme = "https" := by
  rw [isHttp, Bool.or_eq_true, beq_iff_eq, beq_iff_eq]

theorem kind_of_isHttp (h : u.isHttp = true) : u.kind = .special := by
  rcases isHttp_iff.1 h with h | h
  · rw [kind, h]
    decide
  · rw [kind, h]
    decide

theorem of_afterDoubleSlash {scheme : String} {cs : List Char}
    (h : afterDoubleSlash scheme cs = .ok u) :
    u.scheme = scheme ∧ ∃ names, u.path = .segments names := by
  obtain ⟨⟨authority, rest⟩, -, h⟩ := ok_of_bind h
  cases h
  exact ⟨rfl, _, rfl⟩

theorem scheme_of_afterFileScheme {cs : List Char} (h : afterFileScheme cs = .ok u) :
    u.scheme = "file" := by
  unfold afterFileScheme at h
  split at h
  · split_ifs at h
    · obtain ⟨⟨host, rest⟩, -, h⟩ := ok_of_bind h
      cases h
      rfl
    · cases h
      rfl
    · cases h
      rfl
  · cases h
    rfl

theorem scheme_of_afterOtherScheme {scheme : String} {cs : List Char}
    (h : afterOtherScheme scheme cs = .ok u) : u.scheme = scheme := by
  unfold afterOtherScheme at h
  split at h
  · exact (of_afterDoubleSlash h).1
  · cases h
    rfl
  · cases h
    rfl

theorem afterDoubleSlash_of_isHttp {text : String} (hp : parse text = .ok u)
    (h : u.isHttp = true) :
    ∃ scheme rest, scheme? (cleaned text) = some (scheme, rest) ∧ SchemeKind.of scheme = .special
      ∧ afterDoubleSlash scheme (rest.dropWhile (isSlash .special)) = .ok u := by
  have hk := kind_of_isHttp h
  unfold parse at hp
  split at hp
  · cases hp
  · rename_i scheme rest hrest
    split at hp
    · rename_i hs
      exact ⟨scheme, rest, hrest, hs, hp⟩
    · rw [kind, scheme_of_afterFileScheme hp] at hk
      exact absurd hk (by decide)
    · rename_i hs
      rw [kind, scheme_of_afterOtherScheme hp, hs] at hk
      cases hk

theorem path_of_isHttp {text : String} (hp : parse text = .ok u) (h : u.isHttp = true) :
    ∃ names, u.path = .segments names := by
  obtain ⟨_, _, -, -, hd⟩ := afterDoubleSlash_of_isHttp hp h
  exact (of_afterDoubleSlash hd).2

end SecretBroker.Url
