import SecretBroker.Gateway.Access
import SecretBroker.Proofs.Sequence
import SecretBroker.Proofs.Text.Spelling

/-!
# The realm of a control plane

A control plane is known by the UUID at the end of its URL, and its realm has the first eight
characters of that end in its name. These are the first eight digits of the UUID, and so tell control
planes apart as their UUIDs do, where the URL spells them as digits without capitals
(`realm_names_iff`). Nothing makes sure of that: behind `urn:uuid:` all control planes share one
realm, and capitals give a control plane another one (`realm_confuses`).
-/

namespace SecretBroker

namespace ControlPlane

/-- The path of the URL ends, empty segments apart, in the name for control planes and this one. -/
def StandsAt (u : Url) (id : String) : Prop :=
  ∃ names before, u.pathNames? = some names
    ∧ names.filter (· != "") = before ++ ["control-planes", id]

theorem idOf?_eq_some_iff {u : Url} {id : String} :
    idOf? u = some id ↔ StandsAt u id ∧ Text.isUuid id = true := by
  unfold idOf? StandsAt
  rcases u.pathNames? with _ | names
  · simp
  simp only [Option.bind_eq_bind, Option.bind_some, Option.some.injEq, exists_and_left,
    exists_eq_left']
  constructor
  · intro h
    split at h
    · rename_i id' before hn
      split_ifs at h with hu
      · obtain rfl := Option.some.inj h
        refine ⟨⟨before.reverse, ?_⟩, hu⟩
        rw [← List.reverse_reverse (names.filter _), hn]
        simp
    · cases h
  · rintro ⟨⟨before, hn⟩, hu⟩
    rw [hn]
    simp [hu]

/-- The name of the realm for the UUID of these digits. -/
def realmFor (digits : List Char) : String := "auth-realm-" ++ String.ofList (digits.take 8)

/-- The id begins with eight digits that are no capitals. -/
def SpelledPlainly (p : ControlPlane) : Prop := ∀ c ∈ p.id.toList.take 8, Text.IsSmallHexDigit c

variable {p : ControlPlane} {digits : List Char}

theorem realmFor_inj {digits' : List Char} :
    realmFor digits = realmFor digits' ↔ digits.take 8 = digits'.take 8 := by
  unfold realmFor
  rw [← String.toList_inj, String.toList_append, String.toList_append, List.append_right_inj,
    String.toList_ofList, String.toList_ofList]

theorem realm_eq_realmFor (p : ControlPlane) : p.realm = realmFor p.id.toList := rfl

theorem realm_eq_iff (h : Text.SpellsUuid p.id.toList digits) :
    p.realm = realmFor digits ↔ p.SpelledPlainly := by
  rw [realm_eq_realmFor, realmFor_inj]
  exact h.take_eq_iff

end ControlPlane

namespace Access

variable {url : String} {token : Option String} {a : Access}

/-- At an accepted URL stands a control plane with a UUID. -/
theorem of_ofControlPlane (h : ofControlPlane url token = .ok a) :
    ∃ u p digits, Address.ofBase url = .ok u ∧ a.plane = .cloud p ∧ ControlPlane.StandsAt u p.id
      ∧ Text.SpellsUuid p.id.toList digits := by
  obtain ⟨u, hu, h⟩ := ok_of_bind h
  split at h
  · rename_i id hid
    obtain ⟨headers, -, h⟩ := ok_of_bind h
    cases h
    obtain ⟨hs, huuid⟩ := ControlPlane.idOf?_eq_some_iff.1 hid
    obtain ⟨digits, hd⟩ := Text.isUuid_iff.1 huuid
    exact ⟨u, _, digits, hu, rfl, hs, hd⟩
  · cases h

/-- The last name in the path of an accepted URL spells one UUID. The realm has its first eight digits
in its name if and only if the URL gives them as eight digits that are no capitals; two control planes
whose URLs do so share a realm if and only if their UUIDs share these digits. -/
theorem realm_names_iff (h : ofControlPlane url token = .ok a) :
    ∃ u p digits, Address.ofBase url = .ok u ∧ a.plane = .cloud p ∧ ControlPlane.StandsAt u p.id
      ∧ Text.SpellsUuid p.id.toList digits
      ∧ (∀ digits', Text.SpellsUuid p.id.toList digits' → digits' = digits)
      ∧ (p.realm = ControlPlane.realmFor digits ↔ p.SpelledPlainly)
      ∧ ∀ {url' token' a' p' digits'}, ofControlPlane url' token' = .ok a' →
        a'.plane = .cloud p' → Text.SpellsUuid p'.id.toList digits' →
        p.SpelledPlainly → p'.SpelledPlainly →
        (p'.realm = p.realm ↔ digits'.take 8 = digits.take 8) := by
  obtain ⟨u, p, digits, hu, hp, hs, hd⟩ := of_ofControlPlane h
  refine ⟨u, p, digits, hu, hp, hs, hd, fun digits' hd' => hd'.unique hd,
    ControlPlane.realm_eq_iff hd, ?_⟩
  intro url' token' a' p' digits' _ _ hd' hplain hplain'
  rw [(ControlPlane.realm_eq_iff hd).2 hplain, (ControlPlane.realm_eq_iff hd').2 hplain']
  exact ControlPlane.realmFor_inj

/-- Control planes at an address of their own, by their ids. -/
def atLocalHost (id : String) : String := "https://[::1]/v2/control-planes/" ++ id

/-- The control plane of that id. -/
def localPlane (id : String) : ControlPlane := { id, origin := "https://[::1]" }

theorem realm_names_plain :
    ∃ digits, Text.SpellsUuid "12345678-1234-1234-1234-123456789ABC".toList digits
      ∧ (localPlane "12345678-1234-1234-1234-123456789ABC").realm
        = ControlPlane.realmFor digits := by
  have h : ofControlPlane (atLocalHost "12345678-1234-1234-1234-123456789ABC") none
      = .ok {
        base := atLocalHost "12345678-1234-1234-1234-123456789ABC"
        token := none
        plane := .cloud (localPlane "12345678-1234-1234-1234-123456789ABC") } := by
    decide +kernel
  obtain ⟨u, p, digits, -, hp, -, hd, -, hr, -⟩ := realm_names_iff h
  have hid : p = localPlane "12345678-1234-1234-1234-123456789ABC" := (Plane.cloud.inj hp).symm
  subst hid
  refine ⟨digits, hd, hr.2 fun c hc => ?_⟩
  have hall : ("12345678-1234-1234-1234-123456789ABC".toList.take 8).all
      (fun c => Text.isHexDigit c && !c.isUpper) = true := by decide +kernel
  simpa only [Text.IsSmallHexDigit, Bool.and_eq_true, Bool.not_eq_true'] using
    List.all_eq_true.1 hall c hc

/-- Behind `urn:uuid:` two control planes share a realm though no digit of their UUIDs is the same,
and one of them has another realm where its UUID is spelled without that. -/
theorem realm_confuses :
    let ones := "urn:uuid:11111111-1111-1111-1111-111111111111"
    let twos := "urn:uuid:22222222-2222-2222-2222-222222222222"
    let plainOnes := "11111111-1111-1111-1111-111111111111"
    (∀ id ∈ [ones, twos, plainOnes],
      (ofControlPlane (atLocalHost id) none).toOption.map plane = some (.cloud (localPlane id)))
    ∧ Text.SpellsUuid ones.toList (List.replicate 32 '1')
    ∧ Text.SpellsUuid twos.toList (List.replicate 32 '2')
    ∧ Text.SpellsUuid plainOnes.toList (List.replicate 32 '1')
    ∧ (localPlane ones).realm = (localPlane twos).realm
    ∧ (localPlane ones).realm ≠ (localPlane plainOnes).realm := by
  intro ones twos plainOnes
  have hgroups (d : Char) (hd : Text.isHexDigit d = true) (hs : d.toLower = d) :
      Text.Hyphenates (['-'].intercalate (Text.uuidGroups.map (List.replicate · d)))
        (List.replicate 32 d) := by
    refine ⟨Text.uuidGroups.map (List.replicate · d), rfl, ?_, rfl, ?_⟩
    · intro g hg x hx
      obtain ⟨n, -, rfl⟩ := List.mem_map.1 hg
      rw [(List.mem_replicate.1 hx).2, hd]
    · conv_lhs => rw [← hs]
      rfl
  have hones : ones.toList = "urn:uuid:".toList
      ++ ['-'].intercalate (Text.uuidGroups.map (List.replicate · '1')) := by decide +kernel
  have htwos : twos.toList = "urn:uuid:".toList
      ++ ['-'].intercalate (Text.uuidGroups.map (List.replicate · '2')) := by decide +kernel
  have hplain : plainOnes.toList
      = ['-'].intercalate (Text.uuidGroups.map (List.replicate · '1')) := by decide +kernel
  refine ⟨by decide +kernel, ?_, ?_, ?_, by decide +kernel, by decide +kernel⟩
  · rw [hones]
    exact .urn (by decide) (hgroups '1' (by decide) (by decide))
  · rw [htwos]
    exact .urn (by decide) (hgroups '2' (by decide) (by decide))
  · rw [hplain]
    exact .hyphenated (hgroups '1' (by decide) (by decide))

end Access
end SecretBroker
