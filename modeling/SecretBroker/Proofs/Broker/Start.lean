import SecretBroker.Proofs.Broker.Recall
import SecretBroker.Proofs.Gateway.Finding
import SecretBroker.Proofs.Gateway.Realm
import SecretBroker.Proofs.Url.Trimming

/-!
# Starting with checked settings

A broker reads the gateway's URL in its own way, without the blanks around it and the slashes at its
end, yet no URL that the check of the settings accepts is refused for that
(`Address.exists_ofBase`). So a broker for checked settings starts, unless there is something wrong
that the check does not look at: a token that cannot stand in a header, or a URL in cloud mode that
is not that of a control plane (`Broker.starts_iff`). Such settings pass the check
(`Broker.checked_but_refused`).
-/

namespace SecretBroker

/-- The token, if there is one, may stand in a header. -/
def GatewaySettings.Showable (g : GatewaySettings) : Prop :=
  ∀ token ∈ g.token, ∀ c ∈ token.toList, Access.isHeaderChar c = true

/-- Checked settings have the URL of a base. -/
theorem Settings.exists_url_of_check {s : Settings} (h : s.check = .ok ()) :
    ∃ text u, s.gateway.url = some text ∧ Address.ofBase text = .ok u := by
  obtain ⟨_, h, -⟩ := ok_of_bind h
  obtain ⟨_, h, -⟩ := ok_of_bind h
  unfold GatewaySettings.checkUrl at h
  split at h
  · cases h
  · rename_i text ht
    split at h
    · cases h
    · rename_i u hu
      split_ifs at h with hh
      obtain ⟨v, hv⟩ := Address.exists_ofBase hu hh
      exact ⟨text, v, ht, hv⟩

namespace Access

variable {a : Access} {u : Url} {g : GatewaySettings} {p : Plane} {text : String} {e : GatewayError}

theorem exists_sensitive_iff (name value kind : String) :
    (∃ header, sensitive name value kind = .ok header)
      ↔ ∀ c ∈ value.toList, isHeaderChar c = true := by
  rw [← List.all_eq_true]
  by_cases hv : value.toList.all isHeaderChar = true
  · rw [sensitive, if_pos hv]
    exact iff_of_true ⟨_, rfl⟩ hv
  · rw [sensitive, if_neg hv]
    exact iff_of_false (fun h => nomatch h) hv

theorem exists_tokenHeader_iff (p : Plane) (token : String) :
    (∃ header, tokenHeader p token = .ok header)
      ↔ ∀ c ∈ token.toList, isHeaderChar c = true := by
  rcases p with _ | p
  · exact exists_sensitive_iff _ _ _
  · have hword : "Bearer ".toList.all isHeaderChar = true := by decide
    rw [tokenHeader, exists_sensitive_iff, String.toList_append, List.forall_mem_append,
      ← List.all_eq_true, and_iff_right hword]

/-- An access is usable if and only if its token may stand in a header. -/
theorem exists_usable_iff : (∃ a', a.usable = .ok a')
    ↔ ∀ token ∈ a.token, ∀ c ∈ token.toList, isHeaderChar c = true := by
  rw [usable, headers, headersFor]
  rcases a.token with _ | token
  · exact iff_of_true ⟨_, rfl⟩ (fun _ h => nomatch h)
  have hone : (∀ token' ∈ some token, ∀ c ∈ token'.toList, isHeaderChar c = true)
      ↔ ∀ c ∈ token.toList, isHeaderChar c = true := by simp
  by_cases hne : token = ""
  · subst hne
    exact iff_of_true ⟨_, rfl⟩ (by simp)
  · rw [hone, ← exists_tokenHeader_iff a.plane token, Option.filter_some,
      if_pos (bne_iff_ne.2 hne)]
    rcases hx : tokenHeader a.plane token with e | header <;>
      simp [hx, Except.map, bind, Except.bind, pure, Except.pure]

theorem exists_usable_atBase_iff : (∃ a, (atBase u g.token p).usable = .ok a) ↔ g.Showable := by
  rw [exists_usable_iff, GatewaySettings.Showable, atBase]
  rcases g.token with _ | token
  · rfl
  · by_cases hne : token = ""
    · subst hne
      exact iff_of_true (fun _ h => nomatch h) (by simp)
    · rw [Option.filter_some, if_pos (bne_iff_ne.2 hne)]

/-- Settings lead to an access at their URL if and only if their token may stand in a header and, in
cloud mode, a control plane stands there. -/
theorem exists_ofSettings_iff (hg : g.url = some text) (hu : Address.ofBase text = .ok u) :
    (∃ a, ofSettings g = .ok a) ↔ g.Showable
      ∧ (g.mode = .cloud → ∃ id, ControlPlane.StandsAt u id ∧ Text.isUuid id = true) := by
  unfold ofSettings
  rw [hg]
  rcases hm : g.mode with _ | _
  · simp only [ofAdmin, hu, bind, Except.bind, reduceCtorEq, false_implies, and_true]
    exact exists_usable_atBase_iff
  · simp only [ofControlPlane, hu, bind, Except.bind, forall_const]
    rcases hid : ControlPlane.idOf? u with _ | id
    · refine iff_of_false (fun h => nomatch h) fun h => ?_
      obtain ⟨id, hid'⟩ := h.2
      rw [ControlPlane.idOf?_eq_some_iff.2 hid'] at hid
      cases hid
    · dsimp only
      rw [exists_usable_atBase_iff, and_iff_left ⟨id, ControlPlane.idOf?_eq_some_iff.1 hid⟩]

theorem usable_error (h : a.usable = .error e) : e.IsConfiguration := by
  rcases error_of_bind h with h | ⟨_, -, h⟩
  · exact headers_error h
  · cases h

theorem ofSettings_error (h : ofSettings g = .error e) : e.IsConfiguration := by
  unfold ofSettings at h
  split at h
  · rcases error_of_bind h with h | ⟨u, -, h⟩
    · exact Address.ofBase_error h
    · exact usable_error h
  · exact ⟨_, (Except.error.inj h).symm⟩
  · rcases error_of_bind h with h | ⟨u, -, h⟩
    · exact Address.ofBase_error h
    · split at h
      · exact usable_error h
      · exact ⟨_, (Except.error.inj h).symm⟩
  · exact ⟨_, (Except.error.inj h).symm⟩

end Access

namespace Broker

variable {s : Settings}

/-- The broker for checked settings starts if and only if the token may stand in a header and, in
cloud mode, the path of the URL ends, empty segments apart, in the name for control planes and a
UUID. Otherwise the fault is one of configuration. -/
theorem starts_iff (h : s.check = .ok ()) :
    ∃ text u, s.gateway.url = some text ∧ Address.ofBase text = .ok u
      ∧ ((∃ b, ofSettings s = .ok b) ↔ s.gateway.Showable
        ∧ (s.gateway.mode = .cloud → ∃ id, ControlPlane.StandsAt u id ∧ Text.isUuid id = true))
      ∧ ∀ {e}, ofSettings s = .error e → e.IsConfiguration := by
  obtain ⟨text, u, hg, hu⟩ := s.exists_url_of_check h
  refine ⟨text, u, hg, hu, ?_, fun {e} he => ?_⟩
  · rw [← Access.exists_ofSettings_iff hg hu]
    constructor
    · rintro ⟨b, hb⟩
      obtain ⟨a, ha, -⟩ := ok_of_bind hb
      exact ⟨a, ha⟩
    · rintro ⟨a, ha⟩
      simp only [ofSettings, ofGateway, ha, bind, Except.bind]
      exact ⟨_, rfl⟩
  · rcases error_of_bind he with he | ⟨_, -, he⟩
    · exact Access.ofSettings_error he
    · cases he

/-- Settings for a gateway at a URL in a mode, and the token to show it. -/
def settingsAt (mode : GatewayMode) (url token : String) : Settings where
  gateway := match mode with
    | .admin => { mode, adminUrl := some url, adminToken := some token }
    | .cloud => { mode, controlPlaneUrl := some url, accessToken := some token }

theorem starts_at_plane : ∃ b, ofSettings (settingsAt .cloud
    " https://[::1]/control-planes/12345678-1234-1234-1234-123456789abc// " "t") = .ok b := by
  obtain ⟨text, u, hg, hu, hiff, -⟩ := starts_iff
    (s := settingsAt .cloud
      " https://[::1]/control-planes/12345678-1234-1234-1234-123456789abc// " "t")
    (by decide +kernel)
  obtain rfl := Option.some.inj hg
  have hread : (Address.ofBase
      " https://[::1]/control-planes/12345678-1234-1234-1234-123456789abc// ").toOption.bind
      ControlPlane.idOf? = some "12345678-1234-1234-1234-123456789abc" := by decide +kernel
  rw [hu] at hread
  have hword : "t".toList.all Access.isHeaderChar = true := by decide
  exact hiff.2 ⟨fun token ht => by cases ht; exact List.all_eq_true.1 hword,
    fun _ => ⟨_, ControlPlane.idOf?_eq_some_iff.1 hread⟩⟩

/-- Settings pass the check though their token cannot stand in a header, or their URL in cloud mode is
not that of a control plane, and no broker starts with them. -/
theorem checked_but_refused :
    let unshowable := settingsAt .admin "http://[::1]:8001" "a\nb"
    let planeless := settingsAt .cloud "http://[::1]:8001" "t"
    unshowable.check = .ok () ∧ planeless.check = .ok ()
    ∧ ofSettings unshowable
      = .error (.configuration "Invalid admin token: failed to parse header value")
    ∧ ofSettings planeless = .error (.configuration ("Invalid control-plane URL "
      ++ "'http://[::1]:8001': expected .../control-planes/\x7buuid\x7d")) := by
  decide +kernel

end Broker
end SecretBroker
