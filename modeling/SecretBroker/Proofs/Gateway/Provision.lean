import SecretBroker.Proofs.Gateway.Finding

/-!
# Making sure of the realm

A control plane's realm is asked for and, where it is missing, made. What the check and the creation
end in decides whether the realm is there (`ensureRealm_decides`). A reply
that another has made the realm in the meantime is as good as a creation, at whichever attempt it
comes: an earlier one may have made the realm and lost its answer.
-/

namespace SecretBroker

namespace Gateway

variable {g : Gateway} {p : ControlPlane} {call : Except GatewayError Call} {s : Session}
  {x y : Except GatewayError Response}

theorem put_attempts (g : Gateway) (call : Except GatewayError Call) (s : Session) :
    ∃ trips, s.Made trips (g.put call s).2 ∧ g.Attempts call trips := by
  rcases call with e | c
  · exact ⟨[], .refl s, .nil _⟩
  · rcases ha : g.ask c s with ⟨r, s'⟩
    obtain ⟨trips, hm, hat, -⟩ := ask_cases ha
    have hput : g.put (.ok c) s = (r, s') := ha
    rw [hput]
    exact ⟨trips, hm, hat⟩

theorem writing_error {op : Operation} {url : Except GatewayError Url} {body : Json.Value}
    {message : String} {repeatable : Bool} {e : GatewayError}
    (h : g.writing op url body message repeatable = .error e) :
    url = .error e ∨ e.IsConfiguration := by
  rcases error_of_bind h with hu | ⟨u, -, h⟩
  · exact .inl hu
  rcases error_of_bind h with hh | ⟨headers, -, h⟩
  · exact .inr (Access.headers_error hh)
  · cases h

theorem timeoutText_of_writing {op : Operation} {url : Except GatewayError Url} {body : Json.Value}
    {message : String} {repeatable : Bool} {c : Call}
    (h : g.writing op url body message repeatable = .ok c) : c.timeoutText = message := by
  obtain ⟨u, -, h⟩ := ok_of_bind h
  obtain ⟨headers, -, h⟩ := ok_of_bind h
  cases h
  rfl

theorem realmCheck_blames {e : GatewayError} (h : g.Ends (g.realmCheckCall p) s (.error e)) :
    e.IsConfiguration
      ∨ e.Blames Operation.realmCheck.name "Timeout checking realm existence" := by
  rcases h.blames with he | ⟨c, hc, hb⟩
  · exact .inl ((reading_error he).elim Address.below_error fun h => h)
  · rw [(of_reading hc).1, timeoutText_of_reading hc] at hb
    exact .inr hb

theorem realmCreate_blames {e : GatewayError} (h : g.Ends (g.realmCreateCall p) s (.error e)) :
    e.IsConfiguration ∨ e.Blames Operation.realmCreate.name "Timeout creating realm" := by
  rcases h.blames with he | ⟨c, hc, hb⟩
  · exact .inl ((writing_error he).elim Address.below_error fun h => h)
  · rw [(of_writing hc).1, timeoutText_of_writing hc] at hb
    exact .inr hb

/-- What a creation comes to after its call. -/
def created (p : ControlPlane) : Except GatewayError Response → Except GatewayError Unit
  | .ok r =>
    if realmExists r then .ok ()
    else .error (.configuration ("Failed to create realm " ++ p.realm ++ ": HTTP "
      ++ toString r.status ++ ": " ++ r.body))
  | .error e => .error e

variable (g p s)

theorem createRealm_apply : g.createRealm p s
    = ((g.put (g.realmCreateCall p) s).1.map (created p), (g.put (g.realmCreateCall p) s).2) := by
  have hr : g.createRealm p s = (do
      let call ← g.realmCreateCall p
      let r ← g.ask call
      if realmExists r then return ()
      else throw (.configuration ("Failed to create realm " ++ p.realm ++ ": HTTP "
        ++ toString r.status ++ ": " ++ r.body)) : Inquiry Unit) s := rfl
  rw [hr]
  rcases hc : g.realmCreateCall p with e | c
  · rfl
  have hput : g.put (.ok c) s = g.ask c s := rfl
  change (g.ask c >>= _ : Inquiry Unit) s = _
  rw [hput, inquiry_bind_apply]
  rcases g.ask c s with ⟨_ | e | r, s'⟩
  · rfl
  · rfl
  · simp only [Option.map_some, created]
    split <;> rfl

theorem ensureRealm_apply : g.ensureRealm p s = match g.put (g.realmCheckCall p) s with
    | (some (.ok r), s') =>
      if r.status = 200 then (some (.ok ()), s')
      else if r.status = 404 then g.createRealm p s'
      else (some (.error (r.unexpected Operation.realmCheck.name)), s')
    | (some (.error e), s') => (some (.error e), s')
    | (none, s') => (none, s') := by
  have hr : g.ensureRealm p s = (do
      let call ← g.realmCheckCall p
      let r ← g.ask call
      if r.status = 200 then return ()
      else if r.status = 404 then g.createRealm p
      else throw (r.unexpected Operation.realmCheck.name) : Inquiry Unit) s := rfl
  rw [hr]
  rcases hc : g.realmCheckCall p with e | c
  · rfl
  have hput : g.put (.ok c) s = g.ask c s := rfl
  change (g.ask c >>= _ : Inquiry Unit) s = _
  rw [hput, inquiry_bind_apply]
  rcases g.ask c s with ⟨_ | e | r, s'⟩
  · rfl
  · rfl
  · dsimp only
    by_cases h200 : r.status = 200
    · rw [if_pos h200, if_pos h200]
      rfl
    · rw [if_neg h200, if_neg h200]
      by_cases h404 : r.status = 404
      · rw [if_pos h404, if_pos h404]
      · rw [if_neg h404, if_neg h404]
        rfl

/-- What the two calls come to, of which the second is made if the first ends in 404. -/
def provided (p : ControlPlane) (check create : Option (Except GatewayError Response)) :
    Option (Except GatewayError Unit) :=
  match check with
  | some (.ok r) =>
    if r.status = 200 then some (.ok ())
    else if r.status = 404 then create.map (created p)
    else some (.error (r.unexpected Operation.realmCheck.name))
  | some (.error e) => some (.error e)
  | none => none

theorem ensureRealm_eq : (g.ensureRealm p s).1 = provided p (g.put (g.realmCheckCall p) s).1
    (g.put (g.realmCreateCall p) (g.put (g.realmCheckCall p) s).2).1 := by
  rw [ensureRealm_apply]
  rcases g.put (g.realmCheckCall p) s with ⟨_ | e | r, s'⟩
  · rfl
  · rfl
  · dsimp only [provided]
    split
    · rfl
    · split
      · rw [createRealm_apply]
      · rfl

/-- Nothing is made unless the check ends in 404. -/
theorem ensureRealm_snd (h : ∀ r, (g.put (g.realmCheckCall p) s).1 = some (.ok r) → r.status ≠ 404) :
    (g.ensureRealm p s).2 = (g.put (g.realmCheckCall p) s).2 := by
  rw [ensureRealm_apply]
  rcases hput : g.put (g.realmCheckCall p) s with ⟨_ | e | r, s'⟩
  · rfl
  · rfl
  · have h404 : r.status ≠ 404 := h r (by rw [hput])
    dsimp only
    split
    · rfl
    · rfl

variable {g p s}

/-- What the gateway answers to a creation when the realm is there afterwards. -/
def Provides (r : Response) : Prop :=
  (200 ≤ r.status ∧ r.status ≤ 299)
    ∨ r.status = 400 ∧ "realm name must be unique".toList <:+: r.body.toList

theorem realmExists_iff_provides (r : Response) : realmExists r = true ↔ Provides r := by
  rw [realmExists_iff, r.isSuccess_iff]
  rfl

theorem created_eq_ok_iff : created p x = .ok () ↔ ∃ r, x = .ok r ∧ Provides r := by
  rcases x with e | r
  · simp [created]
  · simp [created, ← realmExists_iff_provides]

theorem created_of_not_provides {r : Response} (h : ¬ Provides r) :
    created p (.ok r) = .error (.configuration ("Failed to create realm " ++ p.realm ++ ": HTTP "
      ++ toString r.status ++ ": " ++ r.body)) := by
  rw [← realmExists_iff_provides] at h
  exact if_neg h

section
variable {check create : Option (Except GatewayError Response)}

theorem provided_eq_ok_iff : provided p check create = some (.ok ()) ↔
    (∃ r, check = some (.ok r) ∧ r.status = 200)
    ∨ ∃ r r', check = some (.ok r) ∧ r.status = 404 ∧ create = some (.ok r') ∧ Provides r' := by
  rcases check with _ | e | r
  · simp [provided]
  · simp [provided]
  · by_cases h200 : r.status = 200
    · simp [provided, h200]
    · by_cases h404 : r.status = 404
      · simp [provided, h404, created_eq_ok_iff]
      · simp [provided, h200, h404]

theorem provided_of_404 {r : Response} (hr : check = some (.ok r)) (h404 : r.status = 404) :
    provided p check create = create.map (created p) := by
  subst hr
  simp [provided, h404]

theorem provided_of_ne {r : Response} (hr : check = some (.ok r)) (h200 : r.status ≠ 200)
    (h404 : r.status ≠ 404) :
    provided p check create = some (.error (r.unexpected Operation.realmCheck.name)) := by
  subst hr
  simp [provided, h200, h404]

end

theorem Ends.put_eq (hx : g.Ends call s x) (h : (g.put call s).1 ≠ none) :
    (g.put call s).1 = some x := by
  obtain ⟨y, hy⟩ := Option.ne_none_iff_exists'.1 h
  rw [hy, hx.unique (ends_of_put hy)]

/-- The check and the creation decide whether the realm is there. It is if the check ends in 200, or
in 404 and the creation in a status for success or in the reply that the name is taken. Any other
status is reported, one of the check without a creation; and what else keeps one of the two calls from
a response is returned as the error that it is, under the name of that call. -/
theorem ensureRealm_decides (g : Gateway) (p : ControlPlane) (s : Session) :
    let check := g.Ends (g.realmCheckCall p) s
    let checked := (g.put (g.realmCheckCall p) s).2
    let create := g.Ends (g.realmCreateCall p) checked
    let ensured := g.ensureRealm p s
    (s.deadline = none → ensured.1 ≠ none)
    ∧ (∃ trips, s.Made trips checked ∧ g.Attempts (g.realmCheckCall p) trips)
    ∧ ∀ result, ensured.1 = some result →
      (result = .ok () ↔ (∃ r, check (.ok r) ∧ r.status = 200)
        ∨ ∃ r r', check (.ok r) ∧ r.status = 404 ∧ create (.ok r') ∧ Provides r')
      ∧ (∀ r, check (.ok r) → r.status ≠ 200 → r.status ≠ 404 →
        (∃ body, result = .error (.unexpectedStatus "realm_check" r.status body))
          ∧ ensured.2 = checked)
      ∧ (∀ r r', check (.ok r) → r.status = 404 → create (.ok r') → ¬ Provides r' →
        result = .error (.configuration ("Failed to create realm " ++ p.realm ++ ": HTTP "
          ++ toString r'.status ++ ": " ++ r'.body)))
      ∧ (∀ e, check (.error e) → result = .error e ∧ ensured.2 = checked
        ∧ (e.IsConfiguration ∨ e.Blames "realm_check" "Timeout checking realm existence"))
      ∧ ∀ r e, check (.ok r) → r.status = 404 → create (.error e) → result = .error e
        ∧ (e.IsConfiguration ∨ e.Blames "realm_create" "Timeout creating realm") := by
  intro check checked create ensured
  refine ⟨fun hs => (g.returns_ensureRealm p s hs).1, g.put_attempts _ s, ?_⟩
  intro result hresult
  have hprovided : provided p (g.put (g.realmCheckCall p) s).1
      (g.put (g.realmCreateCall p) checked).1 = some result := by
    rw [← hresult]
    exact (g.ensureRealm_eq p s).symm
  have hcheck {x : Except GatewayError Response} (hx : check x) :
      (g.put (g.realmCheckCall p) s).1 = some x := by
    refine hx.put_eq fun hn => ?_
    rw [hn] at hprovided
    cases hprovided
  -- The creation has an end, too, where it is reached.
  have hcreate {r : Response} {y : Except GatewayError Response} (hr : check (.ok r))
      (h404 : r.status = 404) (hy : create y) :
      (g.put (g.realmCreateCall p) checked).1 = some y ∧ result = created p y := by
    rw [provided_of_404 (hcheck hr) h404] at hprovided
    obtain ⟨z, hz, hresult⟩ := Option.map_eq_some_iff.1 hprovided
    obtain rfl := hy.unique (ends_of_put hz)
    exact ⟨hz, hresult.symm⟩
  refine ⟨⟨?_, ?_⟩, fun r hr h200 h404 => ⟨?_, ?_⟩, fun r r' hr h404 hr' hp => ?_,
    fun e he => ⟨?_, ?_, realmCheck_blames he⟩, fun r e hr h404 he => ⟨?_, realmCreate_blames he⟩⟩
  · rintro rfl
    rcases provided_eq_ok_iff.1 hprovided with ⟨r, hr, h200⟩ | ⟨r, r', hr, h404, hr', hp⟩
    · exact .inl ⟨r, ends_of_put hr, h200⟩
    · exact .inr ⟨r, r', ends_of_put hr, h404, ends_of_put hr', hp⟩
  · rintro (⟨r, hr, h200⟩ | ⟨r, r', hr, h404, hr', hp⟩)
    · have hok : provided p (g.put (g.realmCheckCall p) s).1
          (g.put (g.realmCreateCall p) checked).1 = some (.ok ()) :=
        provided_eq_ok_iff.2 (.inl ⟨r, hcheck hr, h200⟩)
      exact Option.some.inj (hprovided.symm.trans hok)
    · rw [(hcreate hr h404 hr').2]
      exact created_eq_ok_iff.2 ⟨r', rfl, hp⟩
  · exact ⟨_, Option.some.inj (hprovided.symm.trans (provided_of_ne (hcheck hr) h200 h404))⟩
  · refine g.ensureRealm_snd p s fun r' hr' => ?_
    rw [hcheck hr] at hr'
    cases hr'
    exact h404
  · rw [(hcreate hr h404 hr').2]
    exact created_of_not_provides hp
  · rw [hcheck he] at hprovided
    exact (Option.some.inj hprovided).symm
  · refine g.ensureRealm_snd p s fun r' hr' => ?_
    rw [hcheck he] at hr'
    cases hr'
  · exact (hcreate hr h404 he).2

/-- The first creation loses its answer, and the second is told that the name is taken. -/
example : (({
      access := { base := "http://[::1]/cp", token := none, plane := .admin }, transport := {} } :
        Gateway).ensureRealm { id := "12345678", origin := "http://[::1]" }
      { script := [fun _ => .answer 404 "" .zero, fun _ => .silence,
        fun _ => .answer 400 "schema violation: realm name must be unique" .zero] }).1
    = some (.ok ()) := by
  decide +kernel

end Gateway
end SecretBroker
