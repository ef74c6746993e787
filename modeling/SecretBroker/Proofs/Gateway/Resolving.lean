import SecretBroker.Gateway.Resolution
import SecretBroker.Proofs.Gateway.Carriage

/-!
# The way to a consumer's id

Behind a control plane, what is sent to find a consumer's id goes in stages: the realm is asked for
and perhaps made, the consumer is looked up and perhaps searched for. A stage makes its attempts at
one call, and is reached by what the one before it brought (`Trail`, `resolve_trail`).
-/

namespace SecretBroker

namespace Gateway

variable (g : Gateway) (p : ControlPlane) (id : String)

/-- The trips are attempts at the call, and no more than it has. -/
def Attempts (call : Except GatewayError Call) (trips : List Trip) : Prop :=
  trips = [] ∨ ∃ c, call = .ok c ∧ trips.length ≤ g.transport.allowance c
    ∧ ∀ x ∈ trips, x.request = c.request g.transport.agent

/-- The last of the attempts at the call brought this response. -/
def Brought (call : Except GatewayError Call) (trips : List Trip) (r : Response) : Prop :=
  ∃ c a, call = .ok c ∧ trips.getLast? = some ⟨c.request g.transport.agent, a⟩
    ∧ g.transport.outcome c a = .ok r

/-- The call that asks for the realm of a control plane. -/
def realmCheckCall : Except GatewayError Call :=
  g.reading .realmCheck p.realmUrl "Timeout checking realm existence"

/-- The call that makes the realm of a control plane. -/
def realmCreateCall : Except GatewayError Call :=
  g.writing .realmCreate p.realmsUrl (realmBody p) "Timeout creating realm" true

/-- The call that asks for a consumer by its id. -/
def lookUpCall : Except GatewayError Call :=
  g.reading .consumerResolve (g.access.consumerUrl g.access.base id) (resolvingText id)

/-- The call that searches for a consumer by its name. -/
def searchCall : Except GatewayError Call :=
  g.reading .consumerSearch (g.access.searchUrl id) (resolvingText id)

/-- What is sent to find the id of a consumer behind a control plane, and why each stage of it is
reached. -/
structure Trail where
  check : List Trip
  create : List Trip
  lookUp : List Trip
  search : List Trip
  check_attempts : g.Attempts (g.realmCheckCall p) check
  create_attempts : g.Attempts (g.realmCreateCall p) create
  lookUp_attempts : g.Attempts (g.lookUpCall id) lookUp
  search_attempts : g.Attempts (g.searchCall id) search
  create_reached : create ≠ [] → ∃ r, g.Brought (g.realmCheckCall p) check r ∧ r.status = 404
  lookUp_reached : lookUp ≠ [] → (∃ r, g.Brought (g.realmCheckCall p) check r ∧ r.status = 200)
    ∨ ∃ r, g.Brought (g.realmCreateCall p) create r ∧ (r.isSuccess = true
      ∨ r.status = 400 ∧ realmExistsText.toList <:+: r.body.toList)
  search_reached : search ≠ [] → ∃ r, g.Brought (g.lookUpCall id) lookUp r ∧ r.status = 404

namespace Trail

variable {g p id}

/-- All trips of the trail, in order. -/
def trips (t : g.Trail p id) : List Trip := t.check ++ t.create ++ t.lookUp ++ t.search

/-- The trail leads to this id of the consumer. -/
def Gives (t : g.Trail p id) (consumer : String) : Prop :=
  (∃ r c, g.Brought (g.lookUpCall id) t.lookUp r ∧ r.status = 200
    ∧ r.decode Operation.consumerResolve.name Consumer.reader = .ok c ∧ c.id = consumer)
  ∨ ∃ r, g.Brought (g.searchCall id) t.search r ∧ r.status = 200
    ∧ hitIn? r.body id = some consumer

end Trail

theorem holds_iff (part : List Char) : ∀ l : List Char, holds part l = true ↔ part <:+: l
  | [] => by
    rw [holds, List.isEmpty_iff, List.infix_nil]
  | c :: cs => by
    rw [holds, Bool.or_eq_true, List.isPrefixOf_iff_prefix, holds_iff part cs, List.infix_cons_iff]

theorem realmExists_iff (r : Response) : realmExists r = true
    ↔ r.isSuccess = true ∨ r.status = 400 ∧ realmExistsText.toList <:+: r.body.toList := by
  rw [realmExists, Bool.or_eq_true, Bool.and_eq_true, beq_iff_eq, holds_iff]

variable {g p id} {s s' : Session}

theorem of_reading {op : Operation} {url : Except GatewayError Url} {message : String} {c : Call}
    (h : g.reading op url message = .ok c) :
    c.operation = op.name ∧ c.method = .get ∧ url = .ok c.url := by
  obtain ⟨u, hu, h⟩ := ok_of_bind h
  obtain ⟨headers, -, h⟩ := ok_of_bind h
  cases h
  exact ⟨rfl, rfl, hu⟩

theorem of_writing {op : Operation} {url : Except GatewayError Url} {body : Json.Value}
    {message : String} {repeatable : Bool} {c : Call}
    (h : g.writing op url body message repeatable = .ok c) :
    c.operation = op.name ∧ c.method = .post ∧ url = .ok c.url ∧ c.repeatable = repeatable := by
  obtain ⟨u, hu, h⟩ := ok_of_bind h
  obtain ⟨headers, -, h⟩ := ok_of_bind h
  cases h
  exact ⟨rfl, rfl, hu, rfl⟩

theorem Attempts.nil (call : Except GatewayError Call) : g.Attempts call [] := .inl rfl

theorem Attempts.request {call : Except GatewayError Call} {trips : List Trip} {x : Trip}
    (h : g.Attempts call trips) (hx : x ∈ trips) :
    ∃ c, call = .ok c ∧ x.request = c.request g.transport.agent := by
  rcases h with rfl | ⟨c, hc, -, hq⟩
  · cases hx
  · exact ⟨c, hc, hq x hx⟩

theorem Attempts.length_le {c : Call} {trips : List Trip} (h : g.Attempts (.ok c) trips) :
    trips.length ≤ g.transport.allowance c := by
  rcases h with rfl | ⟨c', hc, hl, -⟩
  · exact Nat.zero_le _
  · cases hc
    exact hl

theorem Attempts.length_le_max {call : Except GatewayError Call} {trips : List Trip}
    (h : g.Attempts call trips) : trips.length ≤ max g.transport.retry.maxAttempts 1 := by
  rcases h with rfl | ⟨c, -, hl, -⟩
  · exact Nat.zero_le _
  · exact Nat.le_trans hl (Transport.allowance_le _ c)

theorem ask_cases {c : Call} {r : Option (Except GatewayError Response)}
    (h : g.ask c s = (r, s')) :
    ∃ trips, s.Made trips s' ∧ g.Attempts (.ok c) trips
      ∧ (trips ≠ [] → (s.breakers.enter c.operation s.now).1 ≠ none)
      ∧ ∀ response, r = some (.ok response) → g.Brought (.ok c) trips response := by
  have hc := g.transport.carried c s
  have he : g.transport.execute c s = (r, s') := h
  rw [he] at hc
  obtain ⟨trips, hm, hl, hq, hb, hr⟩ := hc.made
  refine ⟨trips, hm, .inr ⟨c, rfl, hl, hq⟩, hb, ?_⟩
  intro response hresp
  obtain ⟨a, hlast, ha⟩ := hr response hresp
  exact ⟨c, a, rfl, hlast, ha⟩

/-- What begins with a call ends at it, without a value, or goes on from what the call brought. -/
theorem asked_cases {α : Type} {call : Except GatewayError Call} {f : Call → Response → Inquiry α}
    {r : Option (Except GatewayError α)}
    (h : (do let c ← liftM call; let response ← g.ask c; f c response : Inquiry α) s = (r, s')) :
    ∃ trips s₁, s.Made trips s₁ ∧ g.Attempts call trips
      ∧ ((s₁ = s' ∧ ∀ b, r ≠ some (.ok b))
        ∨ ∃ c response, call = .ok c ∧ g.Brought call trips response
          ∧ f c response s₁ = (r, s')) := by
  rcases inquiry_lift_cases h with ⟨rfl, hr⟩ | ⟨c, rfl, hc⟩
  · exact ⟨[], s', .refl s', .nil call, .inl ⟨rfl, hr⟩⟩
  rcases inquiry_bind_cases hc with ⟨r₀, ha, hr⟩ | ⟨response, s₁, ha, hf⟩
  · obtain ⟨trips, hm, hat, -, -⟩ := ask_cases ha
    exact ⟨trips, s', hm, hat, .inl ⟨rfl, hr⟩⟩
  · obtain ⟨trips, hm, hat, -, hb⟩ := ask_cases ha
    exact ⟨trips, s₁, hm, hat, .inr ⟨c, response, rfl, hb response rfl, hf⟩⟩

theorem createRealm_cases {r : Option (Except GatewayError Unit)}
    (h : g.createRealm p s = (r, s')) :
    ∃ create, s.Made create s' ∧ g.Attempts (g.realmCreateCall p) create
      ∧ (r = some (.ok ()) → ∃ response, g.Brought (g.realmCreateCall p) create response
        ∧ realmExists response = true) := by
  obtain ⟨create, s₁, hm, hat, ⟨rfl, hr⟩ | ⟨c, response, -, hb, hf⟩⟩ := asked_cases h
  · exact ⟨create, hm, hat, fun he => absurd he (hr ())⟩
  by_cases hx : realmExists response = true
  · rw [if_pos hx] at hf
    cases hf
    exact ⟨create, hm, hat, fun _ => ⟨response, hb, hx⟩⟩
  · rw [if_neg hx] at hf
    cases hf
    exact ⟨create, hm, hat, fun he => by cases he⟩

theorem ensureRealm_cases {r : Option (Except GatewayError Unit)}
    (h : g.ensureRealm p s = (r, s')) :
    ∃ check create, s.Made (check ++ create) s' ∧ g.Attempts (g.realmCheckCall p) check
      ∧ g.Attempts (g.realmCreateCall p) create
      ∧ (create ≠ [] → ∃ response, g.Brought (g.realmCheckCall p) check response
        ∧ response.status = 404)
      ∧ (r = some (.ok ()) → (∃ response, g.Brought (g.realmCheckCall p) check response
          ∧ response.status = 200)
        ∨ ∃ response, g.Brought (g.realmCreateCall p) create response
          ∧ realmExists response = true) := by
  obtain ⟨check, s₁, hm, hat, hcases⟩ := asked_cases h
  have halone : s.Made (check ++ []) s₁ := by rwa [List.append_nil]
  rcases hcases with ⟨rfl, hr⟩ | ⟨c, response, -, hb, hf⟩
  · exact ⟨check, [], halone, hat, .nil _, fun hne => absurd rfl hne,
      fun he => absurd he (hr ())⟩
  by_cases h200 : response.status = 200
  · rw [if_pos h200] at hf
    cases hf
    exact ⟨check, [], halone, hat, .nil _, fun hne => absurd rfl hne,
      fun _ => .inl ⟨response, hb, h200⟩⟩
  rw [if_neg h200] at hf
  by_cases h404 : response.status = 404
  · rw [if_pos h404] at hf
    obtain ⟨create, hm', hat', hr⟩ := createRealm_cases hf
    exact ⟨check, create, hm.trans hm', hat, hat', fun _ => ⟨response, hb, h404⟩,
      fun he => .inr (hr he)⟩
  · rw [if_neg h404] at hf
    cases hf
    exact ⟨check, [], halone, hat, .nil _, fun hne => absurd rfl hne, fun he => by cases he⟩

theorem search_cases {r : Option (Except GatewayError (Option String))}
    (h : g.search id s = (r, s')) :
    ∃ search, s.Made search s' ∧ g.Attempts (g.searchCall id) search
      ∧ ∀ consumer, r = some (.ok (some consumer)) →
        ∃ response, g.Brought (g.searchCall id) search response ∧ response.status = 200
          ∧ hitIn? response.body id = some consumer := by
  rcases inquiry_lift_cases h with ⟨rfl, hr⟩ | ⟨c, hcall, hc⟩
  · exact ⟨[], .refl s', .nil _, fun consumer he => absurd he (hr _)⟩
  have hcall : g.searchCall id = .ok c := hcall
  rw [hcall]
  rcases ha : g.ask c s with ⟨x, s₁⟩
  obtain ⟨search, hm, hat, -, hb⟩ := ask_cases ha
  have hx : (ExceptT.lift (g.transport.execute c) : Inquiry _) s = (x.map .ok, s₁) := by
    have he : g.transport.execute c s = (x, s₁) := ha
    rw [lift_apply, he]
  rcases inquiry_bind_cases hc with ⟨r₀, hl, hr⟩ | ⟨y, s₂, hl, hf⟩
  · obtain ⟨rfl, rfl⟩ := Prod.mk.inj (hx.symm.trans hl)
    exact ⟨search, hm, hat, fun consumer he => absurd he (hr _)⟩
  obtain ⟨hy, rfl⟩ := Prod.mk.inj (hx.symm.trans hl)
  obtain ⟨y', rfl, hyy⟩ := Option.map_eq_some_iff.1 hy
  obtain rfl := Except.ok.inj hyy
  split at hf
  · cases hf
    exact ⟨search, hm, hat, fun consumer he => by cases he⟩
  · cases hf
    exact ⟨search, hm, hat, fun consumer he => by cases he⟩
  · rename_i response
    cases hf
    refine ⟨search, hm, hat, fun consumer he => ?_⟩
    have he : (if response.status = 200 then hitIn? response.body id else none) = some consumer :=
      Except.ok.inj (Option.some.inj he)
    split at he
    · exact ⟨response, hb response rfl, ‹_›, he⟩
    · cases he

theorem lookUp_cases {r : Option (Except GatewayError (Option String))}
    (h : g.lookUp id s = (r, s')) :
    ∃ lookUp search, s.Made (lookUp ++ search) s' ∧ g.Attempts (g.lookUpCall id) lookUp
      ∧ g.Attempts (g.searchCall id) search
      ∧ (search ≠ [] → ∃ response, g.Brought (g.lookUpCall id) lookUp response
        ∧ response.status = 404)
      ∧ ∀ consumer, r = some (.ok (some consumer)) →
        (∃ response c, g.Brought (g.lookUpCall id) lookUp response ∧ response.status = 200
          ∧ response.decode Operation.consumerResolve.name Consumer.reader = .ok c
          ∧ c.id = consumer)
        ∨ ∃ response, g.Brought (g.searchCall id) search response ∧ response.status = 200
          ∧ hitIn? response.body id = some consumer := by
  obtain ⟨lookUp, s₁, hm, hat, hcases⟩ := asked_cases h
  have halone : s.Made (lookUp ++ []) s₁ := by rwa [List.append_nil]
  rcases hcases with ⟨rfl, hr⟩ | ⟨c, response, hcall, hb, hf⟩
  · exact ⟨lookUp, [], halone, hat, .nil _, fun hne => absurd rfl hne,
      fun consumer he => absurd he (hr _)⟩
  have hop : c.operation = Operation.consumerResolve.name := (of_reading hcall).1
  by_cases h200 : response.status = 200
  · rw [if_pos h200, hop] at hf
    have hdone : s' = s₁ ∧ ∀ consumer, r = some (.ok (some consumer)) → ∃ c,
        response.decode Operation.consumerResolve.name Consumer.reader = .ok c
          ∧ c.id = consumer := by
      rcases inquiry_lift_cases hf with ⟨rfl, hr⟩ | ⟨c, hc, hp⟩
      · exact ⟨rfl, fun consumer he => absurd he (hr _)⟩
      · cases hp
        exact ⟨rfl, fun consumer he => ⟨c, hc, by cases he; rfl⟩⟩
    obtain ⟨rfl, hd⟩ := hdone
    refine ⟨lookUp, [], halone, hat, .nil _, fun hne => absurd rfl hne, fun consumer he => ?_⟩
    obtain ⟨c, hc, hi⟩ := hd consumer he
    exact .inl ⟨response, c, hb, h200, hc, hi⟩
  rw [if_neg h200] at hf
  by_cases h404 : response.status = 404
  · rw [if_pos h404] at hf
    obtain ⟨search, hm', hat', hr⟩ := search_cases hf
    exact ⟨lookUp, search, hm.trans hm', hat, hat', fun _ => ⟨response, hb, h404⟩,
      fun consumer he => .inr (hr consumer he)⟩
  · rw [if_neg h404] at hf
    cases hf
    exact ⟨lookUp, [], halone, hat, .nil _, fun hne => absurd rfl hne,
      fun consumer he => by cases he⟩

/-- Behind a control plane, an id of a consumer is found by a trail that gives it. -/
theorem resolve_trail (hp : g.access.plane = .cloud p)
    {r : Option (Except GatewayError (Option String))} (h : g.resolve id s = (r, s')) :
    ∃ t : g.Trail p id, s.Made t.trips s'
      ∧ ∀ consumer, r = some (.ok (some consumer)) → t.Gives consumer := by
  simp only [resolve, hp] at h
  rcases inquiry_bind_cases h with ⟨r₀, he, hr⟩ | ⟨_, s₁, he, hl⟩
  · obtain ⟨check, create, hm, hcheck, hcreate, hreached, -⟩ := ensureRealm_cases he
    refine ⟨⟨check, create, [], [], hcheck, hcreate, .nil _, .nil _, hreached,
      fun hne => absurd rfl hne, fun hne => absurd rfl hne⟩, ?_,
      fun consumer he => absurd he (hr _)⟩
    simpa only [Trail.trips, List.append_nil] using hm
  · obtain ⟨check, create, hm, hcheck, hcreate, hreached, hrealm⟩ := ensureRealm_cases he
    obtain ⟨lookUp, search, hm', hlookUp, hsearch, hmissing, hgives⟩ := lookUp_cases hl
    refine ⟨⟨check, create, lookUp, search, hcheck, hcreate, hlookUp, hsearch, hreached,
      fun _ => ?_, hmissing⟩, ?_, hgives⟩
    · rcases hrealm rfl with hc | ⟨response, hb, hx⟩
      · exact .inl hc
      · exact .inr ⟨response, hb, (realmExists_iff response).1 hx⟩
    · have hall := hm.trans hm'
      rwa [← List.append_assoc] at hall

end Gateway
end SecretBroker
