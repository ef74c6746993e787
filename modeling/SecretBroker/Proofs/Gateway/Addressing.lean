import SecretBroker.Gateway.Access
import SecretBroker.Proofs.Url.Http
import SecretBroker.Proofs.Url.Naming

/-!
# Where credentials are looked for

Below an HTTP base, the path of a consumer's credentials is that of the base, the names under which
the mode keeps consumers, what the consumer's id adds, and `jwt`. The id adds one segment that reads
back as the id if and only if it has no tab and no line break and is not one or two dots
(`credentialsUrl_names_iff`); no two such ids share a URL. Any other id is taken for another one or
for a place in the path, even one above the consumers.
-/

namespace SecretBroker

open Url

namespace Url

variable {u : Url}

/-- The URL with this path. -/
def withNames (u : Url) (names : List String) : Url := { u with path := .segments names }

theorem withNames_injective (u : Url) : Function.Injective u.withNames := by
  intro names names' h
  exact Path.segments.inj (congrArg Url.path h)

end Url

namespace Access

variable (a : Access) {base id : String} {u : Url}

/-- The segments of a base's path that others are put behind. -/
def stem (names : List String) : List String := trunk (dropEmptyEnd names)

/-- `v` is the URL below `u` of the credentials of the consumer with this id: one segment stands for
the id, between the names for consumers and `jwt`. -/
def Names (u : Url) (id : String) (v : Url) : Prop :=
  ∃ names segment, u.path = .segments names ∧ percentDecode segment.toList = Text.utf8Bytes id
    ∧ v = u.withNames (stem names ++ a.consumerNames ++ [segment] ++ ["jwt"])

theorem consumerNames_eq : ∃ front, a.consumerNames = front ++ ["consumers"] := by
  rcases hp : a.plane with _ | p
  · exact ⟨[], by rw [consumerNames, hp]; rfl⟩
  · exact ⟨["core-entities"], by rw [consumerNames, hp]; rfl⟩

/-- The names under which consumers are kept are put behind a path as they are. -/
theorem foldl_consumerNames (names : List String) :
    a.consumerNames.foldl (addName .special) names = trunk names ++ a.consumerNames := by
  have hc (names : List String) :
      addName .special names "consumers" = trunk names ++ ["consumers"] :=
    addName_of_visible (by decide) (by decide) (by decide)
  have he (names : List String) :
      addName .special names "core-entities" = trunk names ++ ["core-entities"] :=
    addName_of_visible (by decide) (by decide) (by decide)
  rcases hp : a.plane with _ | p
  · simp only [consumerNames, hp, List.foldl_cons, List.foldl_nil, hc]
  · simp only [consumerNames, hp, List.foldl_cons, List.foldl_nil, hc, he]
    rw [trunk_concat (.inr (by decide)), List.append_assoc]
    rfl

theorem credentialsUrl_eq {names : List String} (hb : Address.ofBase base = .ok u)
    (hu : u.isHttp = true) (hp : u.path = .segments names) (id : String) :
    a.credentialsUrl base id = .ok (u.withNames
      (trunk (addName .special (stem names ++ a.consumerNames) id) ++ ["jwt"])) := by
  have hk := kind_of_isHttp hu
  have hj (names : List String) : addName .special names "jwt" = trunk names ++ ["jwt"] :=
    addName_of_visible (by decide) (by decide) (by decide)
  have he : a.credentialsUrl base id = .ok (u.withNames (addName u.kind
      (addName u.kind (a.consumerNames.foldl (addName u.kind) (dropEmptyEnd names)) id) "jwt")) := by
    simp only [credentialsUrl, consumerUrl, Address.below, hb, bind, Except.bind, join?, mapNames?,
      hp, extend?, List.foldl_append, List.foldl_cons, List.foldl_nil]
    rfl
  rw [he, hk, foldl_consumerNames, hj, stem]

/-- Below an HTTP base every id has a URL for its credentials. That URL names the id if and only if
the id is plain, and names no other plain id then. -/
theorem credentialsUrl_names_iff (hb : Address.ofBase base = .ok u) (hu : u.isHttp = true)
    (id : String) : ∃ v, a.credentialsUrl base id = .ok v ∧ (a.Names u id v ↔ IsPlain id)
      ∧ ∀ id', IsPlain id → IsPlain id' → a.credentialsUrl base id' = .ok v → id' = id := by
  obtain ⟨names, hp⟩ := path_of_isHttp (mapError_eq_ok.1 hb) hu
  obtain ⟨front, hf⟩ := a.consumerNames_eq
  have hk : SchemeKind.special ≠ .file := by decide
  have hs : isDriveLetter "consumers" = false := by decide
  have hr := addName_readsBack_iff (stem names ++ front) hk hs (by decide)
  rw [List.append_assoc, ← hf] at hr
  refine ⟨_, a.credentialsUrl_eq hb hu hp id, ?_, ?_⟩
  · rw [← hr]
    constructor
    · rintro ⟨names', segment, hp', hd, hv⟩
      obtain rfl := Path.segments.inj (hp.symm.trans hp')
      exact ⟨segment, List.append_cancel_right (u.withNames_injective hv), hd⟩
    · rintro ⟨segment, hs, hd⟩
      exact ⟨names, segment, hp, hd, by rw [hs]⟩
  · intro id' hi hi' he
    obtain ⟨segment, hs, hd⟩ := (hr id).2 hi
    obtain ⟨segment', hs', hd'⟩ := (hr id').2 hi'
    rw [a.credentialsUrl_eq hb hu hp id', hs, hs', Except.ok.injEq] at he
    have hl := List.append_cancel_right (u.withNames_injective he)
    obtain rfl := List.singleton_inj.1 (List.append_cancel_left hl)
    exact utf8Bytes_injective (hd'.symm.trans hd)

/-- A gateway on the machine itself. -/
def ofLocalHost : Access := { base := "http://[::1]:8001/kong", token := none, plane := .admin }

/-- Where it is. -/
def localHost : Url where
  scheme := "http"
  authority := some { host := .ipv6 [0, 0, 0, 0, 0, 0, 0, 1], port := some 8001 }
  path := .segments ["kong"]
  query := none
  fragment := none

theorem credentialsUrl_names_slashed :
    Address.ofBase ofLocalHost.base = .ok localHost ∧ localHost.isHttp = true
    ∧ ∃ v, ofLocalHost.credentialsUrl ofLocalHost.base "a/../b" = .ok v
      ∧ ofLocalHost.Names localHost "a/../b" v := by
  have hb : Address.ofBase ofLocalHost.base = .ok localHost := by decide +kernel
  have hu : localHost.isHttp = true := by decide
  obtain ⟨v, hv, hn, -⟩ := credentialsUrl_names_iff ofLocalHost hb hu "a/../b"
  exact ⟨hb, hu, v, hv, hn.2 ⟨by simp [isIgnored], by decide, by decide⟩⟩

/-- An id with a tab shares its URL with another id, and one that hides dots behind a tab leads
above the consumers. -/
theorem credentialsUrl_confuses :
    ofLocalHost.credentialsUrl ofLocalHost.base "a\tb"
      = ofLocalHost.credentialsUrl ofLocalHost.base "ab"
    ∧ (ofLocalHost.credentialsUrl ofLocalHost.base "..").toOption.map Url.text
      = some "http://[::1]:8001/kong/consumers/jwt"
    ∧ (ofLocalHost.credentialsUrl ofLocalHost.base "\t..").toOption.map Url.text
      = some "http://[::1]:8001/kong//jwt" := by
  refine ⟨?_, ?_, ?_⟩ <;> decide +kernel

end Access
end SecretBroker
