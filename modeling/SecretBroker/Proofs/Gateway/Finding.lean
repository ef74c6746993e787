import SecretBroker.Proofs.Gateway.Patience

/-!
# Finding a consumer's id

Behind a control plane a consumer is looked up by its id and, where there is none, searched for by
its name. What a call ends in is settled by its breaker and by the arrivals of the script, through
all its attempts (`Ends`, `Ends.unique`), and what the two calls end in decides what is found
(`lookUp_decides`). That a consumer is not there is said only after a look-up that ended in 404 and
an answer to the search: no failure to get an answer passes for it, but for a search that ends in a
status of 500 or more.
-/

namespace SecretBroker

/-- The error says why a call brought no response; `text` is for a call that took too long. -/
inductive GatewayError.Blames (operation text : String) : GatewayError → Prop
  | late : Blames operation text (.timeout operation text)
  | broken (fault : Fault) : Blames operation text (.transport operation fault)
  | down {status : Nat} (out : 500 ≤ status) : Blames operation text (.unavailable operation status)
  | turnedAway : Blames operation text (.circuitOpen operation)

/-- It says that something is wrong with the settings. -/
def GatewayError.IsConfiguration (e : GatewayError) : Prop := ∃ problem, e = .configuration problem

theorem Address.ofBase_error {base : String} {e : GatewayError} (h : ofBase base = .error e) :
    e.IsConfiguration := by
  rw [ofBase] at h
  generalize Url.parse (withoutSlashes (Text.trimmed base)) = u at h
  rcases u with e' | u
  · exact ⟨_, (Except.error.inj h).symm⟩
  · cases h

theorem Address.below_error {base : String} {names : List String} {e : GatewayError}
    (h : below base names = .error e) : e.IsConfiguration := by
  rcases error_of_bind h with hb | ⟨u, -, hu⟩
  · exact ofBase_error hb
  · rcases hj : u.join? names with _ | u'
    · rw [hj] at hu
      exact ⟨_, (Except.error.inj hu).symm⟩
    · rw [hj] at hu
      cases hu

theorem Access.headers_error {a : Access} {e : GatewayError} (h : a.headers = .error e) :
    e.IsConfiguration := by
  have hs (name value kind : String) (h : sensitive name value kind = .error e) :
      e.IsConfiguration := by
    unfold sensitive at h
    split at h
    · cases h
    · exact ⟨_, (Except.error.inj h).symm⟩
  unfold headers headersFor at h
  split at h
  · rename_i token _
    have ht : tokenHeader a.plane token = .error e := by
      rcases hx : tokenHeader a.plane token with e' | header
      · rw [hx] at h
        cases h
        rfl
      · rw [hx] at h
        cases h
    unfold tokenHeader at ht
    split at ht
    · exact hs _ _ _ ht
    · exact hs _ _ _ ht
  · cases h

namespace Transport

variable {t : Transport} {c : Call} {s : Session} {e : GatewayError}

theorem blames_outcome {a : Arrival} (h : t.outcome c a = .error e) :
    e.Blames c.operation c.timeoutText := by
  rcases a with ⟨status, body, delay⟩ | _ | _ | _ | causes
  · dsimp only [outcome] at h
    split at h
    · cases h
      exact .late
    · split at h
      · cases h
        exact .down ‹_›
      · cases h
  · cases h
    exact .late
  · cases h
    exact .broken _
  · cases h
    exact .broken _
  · cases h
    exact .broken _

theorem blames_ending {i : Nat} (h : t.ending c s i = .error e) :
    e.Blames c.operation c.timeoutText := by
  unfold ending at h
  split at h
  · exact blames_outcome h
  · cases h
    exact .broken _

end Transport

namespace Gateway

/-- The call ends in this: it does not come about, or its breaker lets nobody in, or it is let in and
makes attempts until one ends in something definite or none is left. -/
inductive Ends (g : Gateway) (call : Except GatewayError Call) (s : Session) :
    Except GatewayError Response → Prop
  | unmade {e : GatewayError} (made : call = .error e) : Ends g call s (.error e)
  | turnedAway {c : Call} (made : call = .ok c)
    (entered : (s.breakers.enter c.operation s.now).1 = none) :
    Ends g call s (.error (.circuitOpen c.operation))
  | decided {c : Call} {n : Nat} (made : call = .ok c)
    (entered : (s.breakers.enter c.operation s.now).1 ≠ none)
    (pos : 0 < n) (le : n ≤ g.transport.allowance c)
    (indefinite : ∀ i, i + 1 < n →
      Transport.isIndefinite (g.transport.ending c s i) = true)
    (last : n = g.transport.allowance c
      ∨ Transport.isIndefinite (g.transport.ending c s (n - 1)) = false) :
    Ends g call s (g.transport.ending c s (n - 1))

variable {g : Gateway} {id : String} {call : Except GatewayError Call} {s : Session}
  {x y : Except GatewayError Response}

theorem ends_of_put (h : (g.put call s).1 = some x) : g.Ends call s x := by
  rcases call with e | c
  · cases h
    exact .unmade rfl
  have hcar := g.transport.carried c s
  have hx : (g.transport.execute c s).1 = some x := h
  rw [hx] at hcar
  generalize hr : some x = r at hcar
  generalize (g.transport.execute c s).2 = s' at hcar
  rcases hcar with he | ⟨he, ht, hl, -⟩ | _
  · cases hr
    exact .turnedAway rfl he
  · cases hr
    exact .decided rfl (by rw [he]; exact Option.some_ne_none _) ht.pos ht.le ht.indefinite hl
  · cases hr

theorem Ends.unique (hx : g.Ends call s x) (hy : g.Ends call s y) : x = y := by
  -- More attempts than `n` are made only if the last of these `n` brought nothing definite.
  have hle {c : Call} {n m : Nat} (hpos : 0 < n) (hm : m ≤ g.transport.allowance c)
      (hi : ∀ i, i + 1 < m → Transport.isIndefinite (g.transport.ending c s i) = true)
      (hl : n = g.transport.allowance c
        ∨ Transport.isIndefinite (g.transport.ending c s (n - 1)) = false) : m ≤ n := by
    rcases hl with rfl | hl
    · exact hm
    · by_contra hn
      rw [hi (n - 1) (by omega)] at hl
      cases hl
  rcases hx with hc | ⟨hc, he⟩ | @⟨c, n, hc, he, hpos, hn, hi, hl⟩
  · rcases hy with hc' | ⟨hc', -⟩ | ⟨hc', -⟩
    · cases hc.symm.trans hc'
      rfl
    · cases hc.symm.trans hc'
    · cases hc.symm.trans hc'
  · rcases hy with hc' | ⟨hc', -⟩ | ⟨hc', he', -⟩
    · cases hc.symm.trans hc'
    · cases hc.symm.trans hc'
      rfl
    · cases hc.symm.trans hc'
      exact absurd he he'
  · rcases hy with hc' | ⟨hc', he'⟩ | @⟨c', m, hc', he', hpos', hm, hi', hl'⟩
    · cases hc.symm.trans hc'
    · cases hc.symm.trans hc'
      exact absurd he' he
    · cases hc.symm.trans hc'
      rw [Nat.le_antisymm (hle hpos' hn hi hl') (hle hpos hm hi' hl)]

theorem Ends.blames {e : GatewayError} (h : g.Ends call s (.error e)) :
    call = .error e ∨ ∃ c, call = .ok c ∧ e.Blames c.operation c.timeoutText := by
  generalize hx : Except.error e = x at h
  rcases h with hc | ⟨hc, -⟩ | ⟨hc, -⟩
  · cases hx
    exact .inl hc
  · cases hx
    exact .inr ⟨_, hc, .turnedAway⟩
  · exact .inr ⟨_, hc, Transport.blames_ending hx.symm⟩

theorem reading_error {op : Operation} {url : Except GatewayError Url} {message : String}
    {e : GatewayError} (h : g.reading op url message = .error e) :
    url = .error e ∨ e.IsConfiguration := by
  rcases error_of_bind h with hu | ⟨u, -, h⟩
  · exact .inl hu
  rcases error_of_bind h with hh | ⟨headers, -, h⟩
  · exact .inr (Access.headers_error hh)
  · cases h

theorem timeoutText_of_reading {op : Operation} {url : Except GatewayError Url} {message : String}
    {c : Call} (h : g.reading op url message = .ok c) : c.timeoutText = message := by
  obtain ⟨u, -, h⟩ := ok_of_bind h
  obtain ⟨headers, -, h⟩ := ok_of_bind h
  cases h
  rfl

theorem lookUpCall_error {e : GatewayError} (h : g.lookUpCall id = .error e) :
    e.IsConfiguration :=
  (reading_error h).elim Address.below_error fun he => he

theorem searchCall_error {e : GatewayError} (h : g.searchCall id = .error e) :
    e.IsConfiguration := by
  rcases reading_error h with hu | he
  · unfold Access.searchUrl at hu
    rcases hb : Address.below g.access.base g.access.consumerNames with e' | u
    · rw [hb] at hu
      exact Address.below_error (hb.trans hu)
    · rw [hb] at hu
      cases hu
  · exact he

/-- A search's answer names this id: its first hit has the very name that was searched for. -/
def Hit (body name consumer : String) : Prop :=
  ∃ found first rest, Json.decode .any body = .ok found
    ∧ found.get? "data" = some (.array (first :: rest))
    ∧ first.get? "username" = some (.string name)
    ∧ first.get? "id" = some (.string consumer) ∧ consumer ≠ ""

theorem string?_eq_some_iff {v : Json.Value} {s : String} : v.string? = some s ↔ v = .string s := by
  cases v <;> simp [Json.Value.string?]

theorem array?_eq_some_iff {v : Json.Value} {items : List Json.Value} :
    v.array? = some items ↔ v = .array items := by
  cases v <;> simp [Json.Value.array?]

theorem hitIn?_eq_some_iff {body name consumer : String} :
    hitIn? body name = some consumer ↔ Hit body name consumer := by
  unfold hitIn? Hit
  rcases Json.decode .any body with _ | found
  · simp
  · dsimp only
    constructor
    · intro h
      simp only [firstHit?, Option.bind_eq_bind, Option.bind_eq_some_iff] at h
      obtain ⟨data, hdata, items, hitems, first, hfirst, v, hv, username, hu, w, hw, id, hid, h⟩ := h
      obtain ⟨rest, rfl⟩ := List.head?_eq_some_iff.1 hfirst
      rw [array?_eq_some_iff.1 hitems] at hdata
      rw [string?_eq_some_iff.1 hu] at hv
      rw [string?_eq_some_iff.1 hid] at hw
      split at h
      · rename_i hname
        obtain ⟨rfl, hne⟩ := hname
        obtain rfl := Option.some.inj h
        exact ⟨found, first, rest, rfl, hdata, hv, hw, hne⟩
      · cases h
    · rintro ⟨_, first, rest, hf, hdata, hname, hid, hne⟩
      obtain rfl := Except.ok.inj hf
      simp [firstHit?, hdata, hname, hid, hne, Json.Value.array?, Json.Value.string?]

variable (g id s)

/-- A call for reading that came about fails for a reason of its own. -/
theorem put_reading_blames {op : Operation} {url : Except GatewayError Url} {message : String}
    {e : GatewayError} (h : (g.put (g.reading op url message) s).1 = some (.error e)) :
    g.reading op url message = .error e ∨ e.Blames op.name message := by
  rcases (ends_of_put h).blames with he | ⟨c, hc, hb⟩
  · exact .inl he
  · rw [(of_reading hc).1, timeoutText_of_reading hc] at hb
    exact .inr hb

/-- What a search comes to after its call. -/
def searched (id : String) : Except GatewayError Response → Except GatewayError (Option String)
  | .error (.unavailable _ _) => .ok none
  | .error e => .error e
  | .ok r => .ok (if r.status = 200 then hitIn? r.body id else none)

theorem search_apply : g.search id s
    = ((g.put (g.searchCall id) s).1.map (searched id), (g.put (g.searchCall id) s).2) := by
  have hs : g.search id s = (do
      let call ← g.searchCall id
      match ← ExceptT.lift (g.transport.execute call) with
      | .error (.unavailable ..) => return none
      | .error e => throw e
      | .ok r => return if r.status = 200 then hitIn? r.body id else none :
        Inquiry (Option String)) s := rfl
  rw [hs]
  rcases hc : g.searchCall id with e | c
  · obtain ⟨problem, rfl⟩ := searchCall_error hc
    rfl
  have hput : g.put (.ok c) s = g.transport.execute c s := rfl
  change (ExceptT.lift (g.transport.execute c) >>= _ : Inquiry (Option String)) s = _
  rw [hput, inquiry_bind_apply, lift_apply]
  rcases g.transport.execute c s with ⟨_ | e | r, s'⟩
  · rfl
  · cases e <;> rfl
  · rfl

/-- What a look-up comes to after its call, when no search is needed. -/
def lookedUp (r : Response) : Except GatewayError (Option String) :=
  if r.status = 200 then
    (r.decode Operation.consumerResolve.name Consumer.reader).map fun c => some c.id
  else .error (r.unexpected Operation.consumerResolve.name)

theorem lookUp_apply : g.lookUp id s = match g.put (g.lookUpCall id) s with
    | (some (.ok r), s') =>
      if r.status = 404 then g.search id s' else (some (lookedUp r), s')
    | (some (.error e), s') => (some (.error e), s')
    | (none, s') => (none, s') := by
  have hl : g.lookUp id s = (do
      let call ← g.lookUpCall id
      let r ← g.ask call
      if r.status = 200 then return some (← r.decode call.operation Consumer.reader).id
      else if r.status = 404 then g.search id
      else throw (r.unexpected call.operation) : Inquiry (Option String)) s := rfl
  rw [hl]
  rcases hc : g.lookUpCall id with e | c
  · rfl
  have hop : c.operation = Operation.consumerResolve.name := (of_reading hc).1
  have hput : g.put (.ok c) s = g.ask c s := rfl
  change (g.ask c >>= _ : Inquiry (Option String)) s = _
  rw [hput, inquiry_bind_apply, hop]
  rcases g.ask c s with ⟨_ | e | r, s'⟩
  · rfl
  · rfl
  dsimp only
  by_cases h200 : r.status = 200
  · have h404 : ¬ r.status = 404 := by omega
    rw [if_pos h200, if_neg h404, lookedUp, if_pos h200]
    rcases r.decode Operation.consumerResolve.name Consumer.reader with e | c <;> rfl
  · rw [if_neg h200]
    by_cases h404 : r.status = 404
    · rw [if_pos h404, if_pos h404]
    · rw [if_neg h404, if_neg h404, lookedUp, if_neg h200]
      rfl

theorem lookedUp_eq_some_iff {r : Response} {consumer : String} :
    lookedUp r = .ok (some consumer) ↔ r.status = 200 ∧ ∃ c,
      r.decode Operation.consumerResolve.name Consumer.reader = .ok c ∧ c.id = consumer := by
  unfold lookedUp
  split
  · rename_i h200
    rw [map_eq_ok]
    simp [h200]
  · rename_i h200
    simp [h200]

theorem lookedUp_ne_none (r : Response) : lookedUp r ≠ .ok none := by
  unfold lookedUp
  split
  · rw [ne_eq, map_eq_ok]
    simp
  · simp

theorem searched_eq_some_iff {x : Except GatewayError Response} {consumer : String} :
    searched id x = .ok (some consumer)
      ↔ ∃ r, x = .ok r ∧ r.status = 200 ∧ Hit r.body id consumer := by
  rcases x with e | r
  · cases e <;> simp [searched]
  · by_cases h200 : r.status = 200 <;> simp [searched, h200, hitIn?_eq_some_iff]

theorem searched_eq_none_iff {x : Except GatewayError Response} :
    searched id x = .ok none ↔ (∃ op status, x = .error (.unavailable op status))
      ∨ ∃ r, x = .ok r ∧ ¬ (r.status = 200 ∧ ∃ consumer, Hit r.body id consumer) := by
  rcases x with e | r
  · cases e <;> simp [searched]
  · by_cases h200 : r.status = 200
    · simp [searched, h200, ← hitIn?_eq_some_iff, Option.eq_none_iff_forall_ne_some]
    · simp [searched, h200]

/-- What the two calls come to, of which the second is made if the first ends in 404. -/
def weighed (id : String) (direct search : Option (Except GatewayError Response)) :
    Option (Except GatewayError (Option String)) :=
  match direct with
  | some (.ok r) => if r.status = 404 then search.map (searched id) else some (lookedUp r)
  | some (.error e) => some (.error e)
  | none => none

theorem lookUp_eq : (g.lookUp id s).1 = weighed id (g.put (g.lookUpCall id) s).1
    (g.put (g.searchCall id) (g.put (g.lookUpCall id) s).2).1 := by
  rw [lookUp_apply]
  rcases g.put (g.lookUpCall id) s with ⟨_ | e | r, s'⟩
  · rfl
  · rfl
  · dsimp only [weighed]
    split
    · rw [search_apply]
    · rfl

section
variable {id} {direct search : Option (Except GatewayError Response)}

theorem weighed_eq_some_iff {consumer : String} :
    weighed id direct search = some (.ok (some consumer)) ↔
      (∃ r c, direct = some (.ok r) ∧ r.status = 200
        ∧ r.decode Operation.consumerResolve.name Consumer.reader = .ok c ∧ c.id = consumer)
      ∨ ∃ r r', direct = some (.ok r) ∧ r.status = 404 ∧ search = some (.ok r')
        ∧ r'.status = 200 ∧ Hit r'.body id consumer := by
  rcases direct with _ | e | r
  · simp [weighed]
  · simp [weighed]
  · by_cases h404 : r.status = 404
    · simp [weighed, h404, searched_eq_some_iff]
    · simp [weighed, h404, lookedUp_eq_some_iff]

theorem weighed_eq_none_iff : weighed id direct search = some (.ok none) ↔
    ∃ r, direct = some (.ok r) ∧ r.status = 404
      ∧ ((∃ op status, search = some (.error (.unavailable op status)))
        ∨ ∃ r', search = some (.ok r')
          ∧ ¬ (r'.status = 200 ∧ ∃ consumer, Hit r'.body id consumer)) := by
  rcases direct with _ | e | r
  · simp [weighed]
  · simp [weighed]
  · by_cases h404 : r.status = 404
    · rcases search with _ | x
      · simp [weighed, h404]
      · simp only [weighed, h404, ↓reduceIte, Option.map_some, Option.some.injEq,
          searched_eq_none_iff, Except.ok.injEq, exists_eq_left', true_and]
    · simp [weighed, h404, lookedUp_ne_none]

theorem weighed_eq_error {r : Response} {e : GatewayError} (hr : direct = some (.ok r))
    (h404 : r.status = 404) (he : search = some (.error e))
    (hne : ∀ op status, e ≠ .unavailable op status) :
    weighed id direct search = some (.error e) := by
  subst hr he
  simp only [weighed, h404, ↓reduceIte, Option.map_some]
  rcases e with _ | _ | ⟨op, status⟩ | _ | _ | _ | _
  case unavailable => exact absurd rfl (hne op status)
  all_goals rfl

end

/-- A gateway is out of order during a search if a status of 500 or more says so. -/
theorem search_unavailable {operation : String} {status : Nat}
    (h : (g.put (g.searchCall id) s).1 = some (.error (.unavailable operation status))) :
    operation = Operation.consumerSearch.name ∧ 500 ≤ status := by
  rcases g.put_reading_blames s h with he | hb
  · obtain ⟨problem, hp⟩ := searchCall_error he
    cases hp
  · cases hb
    exact ⟨rfl, ‹_›⟩

/-- The look-up and the search decide what is found. An id is found where the look-up ends in 200
with a body that gives the id, or in 404 and the search in 200 with a hit. Nothing is found where the
look-up ends in 404 and the search is answered without a hit, or with a status of 500 or more. What
else keeps one of the two calls from a response is returned as the error that it is, under the name of
that call. -/
theorem lookUp_decides (g : Gateway) (id : String) (s : Session) :
    let direct := g.put (g.lookUpCall id) s
    let search := g.put (g.searchCall id) direct.2
    let found := (g.lookUp id s).1
    let late := "Timeout resolving consumer: " ++ id
    (∀ x, direct.1 = some x → g.Ends (g.lookUpCall id) s x)
    ∧ (∀ x, search.1 = some x → g.Ends (g.searchCall id) direct.2 x)
    ∧ (∀ consumer, found = some (.ok (some consumer)) ↔
      (∃ r c, direct.1 = some (.ok r) ∧ r.status = 200
        ∧ r.decode "consumer_resolve" Consumer.reader = .ok c ∧ c.id = consumer)
      ∨ ∃ r r', direct.1 = some (.ok r) ∧ r.status = 404 ∧ search.1 = some (.ok r')
        ∧ r'.status = 200 ∧ Hit r'.body id consumer)
    ∧ (found = some (.ok none) ↔ ∃ r, direct.1 = some (.ok r) ∧ r.status = 404
      ∧ ((∃ status, 500 ≤ status
          ∧ search.1 = some (.error (.unavailable "consumer_search" status)))
        ∨ ∃ r', search.1 = some (.ok r')
          ∧ ¬ (r'.status = 200 ∧ ∃ consumer, Hit r'.body id consumer)))
    ∧ (∀ e, direct.1 = some (.error e) → found = some (.error e)
      ∧ (e.IsConfiguration ∨ e.Blames "consumer_resolve" late))
    ∧ (∀ r e, direct.1 = some (.ok r) → r.status = 404 → search.1 = some (.error e) →
      (∃ status, e = .unavailable "consumer_search" status)
      ∨ found = some (.error e) ∧ (e.IsConfiguration ∨ e.Blames "consumer_search" late))
    ∧ (s.deadline = none → found ≠ none) := by
  intro direct search found late
  have hfound : found = weighed id direct.1 search.1 := g.lookUp_eq id s
  have hout (operation : String) (status : Nat)
      (h : search.1 = some (.error (.unavailable operation status))) :
      operation = "consumer_search" ∧ 500 ≤ status :=
    g.search_unavailable id direct.2 h
  refine ⟨fun x => ends_of_put, fun x => ends_of_put, fun consumer => ?_, ?_, fun e he => ⟨?_, ?_⟩,
    fun r e hr h404 he => ?_, fun hd => (g.returns_lookUp id s hd).1⟩
  · rw [hfound]
    exact weighed_eq_some_iff
  · rw [hfound, weighed_eq_none_iff]
    constructor
    · rintro ⟨r, hr, h404, ⟨operation, status, hs⟩ | hs⟩
      · obtain ⟨rfl, h500⟩ := hout operation status hs
        exact ⟨r, hr, h404, .inl ⟨status, h500, hs⟩⟩
      · exact ⟨r, hr, h404, .inr hs⟩
    · rintro ⟨r, hr, h404, ⟨status, -, hs⟩ | hs⟩
      · exact ⟨r, hr, h404, .inl ⟨_, status, hs⟩⟩
      · exact ⟨r, hr, h404, .inr hs⟩
  · rw [hfound, he]
    rfl
  · exact (g.put_reading_blames s he).imp_left lookUpCall_error
  · by_cases hu : ∃ status, e = .unavailable "consumer_search" status
    · exact .inl hu
    · refine .inr ⟨?_, (g.put_reading_blames direct.2 he).imp_left searchCall_error⟩
      rw [hfound]
      refine weighed_eq_error hr h404 he fun operation status hs => hu ⟨status, ?_⟩
      rw [hs, (hout operation status (hs ▸ he)).1]

end Gateway
end SecretBroker
