import SecretBroker.Gateway.Transport
import SecretBroker.Proofs.Breaker.Count
import SecretBroker.Proofs.Gateway.Trips

/-!
# What becomes of a call

A call is turned away by its operation's breaker, or makes attempts until one ends in something
definite or none is left, and settles once with what the last one ends in (`Carried`). What an
attempt ends in can be said beforehand (`ending`): it is what the next arrival of the script is
worth (`outcome`), or the refusal of a client that takes no URL but HTTP ones. What each arrival is
worth is told by `Yields`, arrival by arrival.
-/

namespace SecretBroker

namespace Transport

variable (t : Transport) (c : Call)

/-- What an arrival is worth to the call. -/
def outcome : Arrival → Except GatewayError Response
  | .answer status body delay =>
    if t.timeout c.method < delay then .error (.timeout c.operation c.timeoutText)
    else if 500 ≤ status then .error (.unavailable c.operation status)
    else .ok { status, body := if status = 204 ∨ status = 304 then "" else body }
  | .silence => .error (.timeout c.operation c.timeoutText)
  | .lost =>
    .error (.transport c.operation
      { text := sendingText (c.request t.agent).url.textWithoutFragment })
  | .brokenOff => .error (.transport c.operation { text := "error decoding response body" })
  | .unreachable causes =>
    .error (.transport c.operation { text := sendingText (c.request t.agent).url.text, causes })

/-- What the client says of a scheme other than its own two. -/
def refusal : GatewayError :=
  .transport c.operation
    { text := "builder error for url (" ++ (c.request t.agent).url.text ++ ")"
      causes := ["URL scheme is not allowed"] }

/-- What attempt number `i` at the call ends in, the first being number zero. -/
def ending (s : Session) (i : Nat) : Except GatewayError Response :=
  if (c.request t.agent).url.isHttp then t.outcome c (s.arrival i (c.request t.agent))
  else .error (t.refusal c)

/-- The trips of `n` attempts at the call: one for each, if the client takes the URL. -/
def trips (s : Session) (n : Nat) : List Trip :=
  if (c.request t.agent).url.isHttp then
    (List.range n).map fun i => ⟨c.request t.agent, s.arrival i (c.request t.agent)⟩
  else []

/-- What an attempt comes to when this arrives, at a call of the operation that waits as long as `limit`
and says `text` if that was not long enough. -/
inductive Yields (operation text : String) (limit : Duration) :
    Arrival → Except GatewayError Response → Prop
  | response {status : Nat} {body : String} {delay : Duration} (time : delay ≤ limit)
    (well : status < 500) (filled : status ≠ 204 ∧ status ≠ 304) :
    Yields operation text limit (.answer status body delay) (.ok { status, body })
  | hollow {status : Nat} {body : String} {delay : Duration} (time : delay ≤ limit)
    (hollow : status = 204 ∨ status = 304) :
    Yields operation text limit (.answer status body delay) (.ok { status, body := "" })
  | unavailable {status : Nat} {body : String} {delay : Duration} (time : delay ≤ limit)
    (ill : 500 ≤ status) :
    Yields operation text limit (.answer status body delay) (.error (.unavailable operation status))
  | late {status : Nat} {body : String} {delay : Duration} (late : limit < delay) :
    Yields operation text limit (.answer status body delay) (.error (.timeout operation text))
  | silence : Yields operation text limit .silence (.error (.timeout operation text))
  | lost {fault : Fault} : Yields operation text limit .lost (.error (.transport operation fault))
  | brokenOff {fault : Fault} :
    Yields operation text limit .brokenOff (.error (.transport operation fault))
  | unreachable {causes : List String} {fault : Fault} :
    Yields operation text limit (.unreachable causes) (.error (.transport operation fault))

/-- How many attempts the call has. -/
def allowance : Nat := if c.repeatable then max t.retry.maxAttempts 1 else 1

/-- Whether nothing definite came of an attempt: no answer in time, or the network failed. -/
def isIndefinite : Except GatewayError Response → Bool
  | .error (.timeout ..) => true
  | .error (.transport ..) => true
  | _ => false

/-- From `s` to `s'`, `n` of at most `cap` attempts are made at the call, and only nothing definite
leads to a further one. -/
structure Tried (cap : Nat) (s : Session) (n : Nat) (s' : Session) : Prop where
  pos : 0 < n
  le : n ≤ cap
  indefinite : ∀ i, i + 1 < n → isIndefinite (t.ending c s i) = true
  made : s.Made (t.trips c s n) s'

/-- What becomes of the call: its result, none if it is abandoned, and where the session is then. -/
inductive Carried (s : Session) : Option (Except GatewayError Response) → Session → Prop
  | turnedAway (entered : (s.breakers.enter c.operation s.now).1 = none) :
    Carried s (some (.error (.circuitOpen c.operation))) s
  | settled {ticket : Breaker.Ticket} {breakers : Breaker.Registry} {n : Nat} {s' : Session}
    (entered : s.breakers.enter c.operation s.now = (some ticket, breakers))
    (tried : t.Tried c (t.allowance c) s n s')
    (last : n = t.allowance c ∨ isIndefinite (t.ending c s (n - 1)) = false)
    (left : s'.breakers
      = breakers.settle c.operation s'.now ticket (.of (t.ending c s (n - 1)))) :
    Carried s (some (t.ending c s (n - 1))) s'
  | abandoned {ticket : Breaker.Ticket} {breakers : Breaker.Registry} {n : Nat} {s' : Session}
    (deadline : s.deadline ≠ none)
    (entered : s.breakers.enter c.operation s.now = (some ticket, breakers))
    (tried : t.Tried c (t.allowance c) s n s')
    (left : s'.breakers = breakers.settle c.operation s'.now ticket .failure) :
    Carried s none s'

variable {t : Transport} {c : Call} {s s' s'' : Session}

theorem isIndefinite_error (e : GatewayError) : isIndefinite (.error e) = e.isRetryable := by
  cases e <;> rfl

theorem allowance_le (t : Transport) (c : Call) : t.allowance c ≤ max t.retry.maxAttempts 1 := by
  unfold allowance
  split
  · exact Nat.le_refl _
  · exact Nat.le_max_right _ _

theorem trips_of_isHttp (h : (c.request t.agent).url.isHttp = true) (s : Session) (n : Nat) :
    t.trips c s n
      = (List.range n).map fun i => ⟨c.request t.agent, s.arrival i (c.request t.agent)⟩ :=
  if_pos h

theorem trips_of_not_isHttp (h : ¬ (c.request t.agent).url.isHttp = true) (s : Session) (n : Nat) :
    t.trips c s n = [] :=
  if_neg h

theorem trips_length_le (s : Session) (n : Nat) : (t.trips c s n).length ≤ n := by
  by_cases hu : (c.request t.agent).url.isHttp = true
  · exact Nat.le_of_eq (by rw [trips_of_isHttp hu, List.length_map, List.length_range])
  · rw [trips_of_not_isHttp hu]
    exact Nat.zero_le n

/-- An attempt leaves the breakers and what will be drawn alone, makes its trip, and ends as said or is
abandoned. -/
theorem attempt_cases {r : Option (Except GatewayError Response)}
    (h : t.attempt c s = (r, s')) :
    (s'.breakers = s.breakers ∧ s'.draws = s.draws) ∧ s.Made (t.trips c s 1) s'
      ∧ (r = some (t.ending c s 0) ∨ r = none ∧ s.deadline ≠ none) := by
  unfold attempt at h
  dsimp only at h
  by_cases hu : (c.request t.agent).url.isHttp = true
  · rw [trips_of_isHttp hu, ending, if_pos hu]
    rw [hu, Bool.not_true, if_neg Bool.false_ne_true] at h
    rcases bind_cases h with ⟨hs, -⟩ | ⟨a, s₁, hs, h⟩
    · cases (Exchange.send_cases hs).1
    obtain ⟨hr, hb, hm⟩ := Exchange.send_cases hs
    cases hr
    -- Whatever arrived, all that is left is to let some time pass.
    have hw : (∃ now, s' = { s₁ with now })
        ∧ (r = some (t.outcome c (s.arrival 0 (c.request t.agent)))
          ∨ r = none ∧ s₁.deadline ≠ none) := by
      generalize s.arrival 0 (c.request t.agent) = a at h ⊢
      rcases a with ⟨status, body, delay⟩ | _ | _ | _ | causes
      · dsimp only [outcome] at h ⊢
        by_cases hd : t.timeout c.method < delay
        · rw [if_pos hd] at h ⊢
          exact Exchange.wait_then_cases h
        · rw [if_neg hd] at h ⊢
          exact Exchange.wait_then_cases h
      · exact Exchange.wait_then_cases h
      · cases h
        exact ⟨⟨_, rfl⟩, .inl rfl⟩
      · cases h
        exact ⟨⟨_, rfl⟩, .inl rfl⟩
      · cases h
        exact ⟨⟨_, rfl⟩, .inl rfl⟩
    obtain ⟨⟨now, rfl⟩, hr⟩ := hw
    rw [hm.deadline] at hr
    exact ⟨hb, hm.with_others now _ _, hr⟩
  · rw [ending, if_neg hu, trips_of_not_isHttp hu]
    rw [Bool.not_eq_true] at hu
    rw [hu, Bool.not_false, if_pos rfl] at h
    cases h
    exact ⟨⟨rfl, rfl⟩, .refl s, .inl rfl⟩

/-- Behind one attempt, the others are those of the session that it leaves. -/
theorem ending_succ (h : s.Made (t.trips c s 1) s') (i : Nat) :
    t.ending c s' i = t.ending c s (i + 1) := by
  by_cases hu : (c.request t.agent).url.isHttp = true
  · rw [trips_of_isHttp hu] at h
    rw [ending, ending, if_pos hu, if_pos hu, h.arrival_add, Nat.add_comm]
    rfl
  · rw [ending, ending, if_neg hu, if_neg hu]

theorem trips_succ (h : s.Made (t.trips c s 1) s') (n : Nat) :
    t.trips c s (n + 1) = t.trips c s 1 ++ t.trips c s' n := by
  by_cases hu : (c.request t.agent).url.isHttp = true
  · rw [trips_of_isHttp hu] at h
    have ha (i : Nat) :
        s'.arrival i (c.request t.agent) = s.arrival (i + 1) (c.request t.agent) := by
      rw [h.arrival_add, Nat.add_comm]
      rfl
    rw [trips_of_isHttp hu, trips_of_isHttp hu, trips_of_isHttp hu, List.range_succ_eq_map]
    simp only [List.map_cons, List.map_map, List.range_one, List.map_nil, List.singleton_append, ha]
    rfl
  · rw [trips_of_not_isHttp hu, trips_of_not_isHttp hu, trips_of_not_isHttp hu]
    rfl

theorem Tried.one (h : s.Made (t.trips c s 1) s') (cap : Nat) : t.Tried c (cap + 1) s 1 s' where
  pos := Nat.one_pos
  le := Nat.succ_le_succ cap.zero_le
  indefinite := by
    intro i hi
    omega
  made := h

theorem Tried.succ {cap n : Nat} (h : s.Made (t.trips c s 1) s')
    (hi : isIndefinite (t.ending c s 0) = true) (ht : t.Tried c cap s' n s'') :
    t.Tried c (cap + 1) s (n + 1) s'' where
  pos := n.succ_pos
  le := Nat.succ_le_succ ht.le
  indefinite := by
    intro i hn
    rcases i with _ | i
    · exact hi
    · rw [← ending_succ h]
      exact ht.indefinite i (Nat.lt_of_succ_lt_succ hn)
  made := by
    rw [trips_succ h]
    exact h.trans ht.made

/-- Up to `cap` attempts come to this: the breakers are left alone, and the result is the end of the
last attempt, which is definite or the only one left, unless the attempts are abandoned. -/
def Attempted (t : Transport) (c : Call) (cap : Nat) (s : Session)
    (r : Option (Except GatewayError Response)) (s' : Session) : Prop :=
  s'.breakers = s.breakers ∧ ∃ n, t.Tried c cap s n s'
    ∧ ((r = some (t.ending c s (n - 1)) ∧ (n = cap ∨ isIndefinite (t.ending c s (n - 1)) = false))
      ∨ (r = none ∧ s.deadline ≠ none))

theorem Attempted.again {cap : Nat} {r : Option (Except GatewayError Response)}
    (hm : s.Made (t.trips c s 1) s') (hb : s'.breakers = s.breakers)
    (hi : isIndefinite (t.ending c s 0) = true) (h : Attempted t c cap s' r s'') :
    Attempted t c (cap + 1) s r s'' := by
  obtain ⟨hb', n, ht, hr⟩ := h
  refine ⟨hb'.trans hb, n + 1, .succ hm hi ht, ?_⟩
  rw [ending_succ hm, Nat.sub_add_cancel ht.pos] at hr
  rw [Nat.add_sub_cancel]
  rcases hr with ⟨hr, hl⟩ | ⟨hr, hd⟩
  · refine .inl ⟨hr, ?_⟩
    rcases hl with hl | hl
    · exact .inl (congrArg (· + 1) hl)
    · exact .inr hl
  · exact .inr ⟨hr, hm.deadline ▸ hd⟩

/-- The induction is on the attempts that are left: one that ends in nothing definite is followed by a
pause, and by what the rest come to. -/
theorem attempted (p : RetryPolicy) {r : Option (Except GatewayError Response)} :
    ∀ (left k : Nat) {s : Session},
    p.attemptFrom (t.attempt c) Exchange.wait Exchange.draw left k s = (r, s') →
    Attempted t c (left + 1) s r s'
  | 0, k, s, h => by
    obtain ⟨⟨hb, -⟩, hm, hr⟩ := attempt_cases h
    refine ⟨hb, 1, .one hm 0, ?_⟩
    rcases hr with hr | hr
    · exact .inl ⟨hr, .inl rfl⟩
    · exact .inr hr
  | left + 1, k, s, h => by
    unfold RetryPolicy.attemptFrom at h
    rcases bind_cases h with ⟨ha, rfl⟩ | ⟨a, s₁, ha, hrest⟩
    · obtain ⟨⟨hb, -⟩, hm, hr | hr⟩ := attempt_cases ha
      · cases hr
      · exact ⟨hb, 1, .one hm _, .inr hr⟩
    obtain ⟨⟨hb, -⟩, hm, hr | ⟨hr, -⟩⟩ := attempt_cases ha
    swap
    · cases hr
    obtain rfl := Option.some.inj hr
    have definite (hi : isIndefinite (t.ending c s 0) = false)
        (hr : (r, s') = (some (t.ending c s 0), s₁)) : Attempted t c (left + 1 + 1) s r s' := by
      cases hr
      exact ⟨hb, 1, .one hm _, .inl ⟨rfl, .inr hi⟩⟩
    rcases he : t.ending c s 0 with e | x
    · rw [he] at hrest
      dsimp only at hrest
      have hi : isIndefinite (t.ending c s 0) = e.isRetryable := by rw [he, isIndefinite_error]
      by_cases hretry : e.isRetryable = true
      · rw [if_pos hretry] at hrest
        rcases bind_cases hrest with ⟨hw, rfl⟩ | ⟨_, s₂, hw, hmore⟩
        · obtain ⟨⟨now, draws, rfl⟩, hd⟩ := Exchange.rest_cases hw
          have hd : s.deadline ≠ none := by
            rcases hd with hd | ⟨-, hd⟩
            · cases hd
            · rwa [hm.deadline] at hd
          exact ⟨hb, 1, .one (hm.with_others now _ draws) _, .inr ⟨rfl, hd⟩⟩
        · obtain ⟨⟨now, draws, rfl⟩, -⟩ := Exchange.rest_cases hw
          exact .again (hm.with_others now s₁.breakers draws) hb (hi.trans hretry)
            (attempted p left (k + 1) hmore)
      · rw [if_neg hretry] at hrest
        refine definite (hi.trans (Bool.eq_false_iff.2 hretry)) ?_
        rw [he]
        exact hrest.symm
    · rw [he] at hrest
      refine definite (by rw [he]; rfl) ?_
      rw [he]
      exact hrest.symm

theorem Tried.of_with_breakers {cap n : Nat} {breakers : Breaker.Registry}
    (h : t.Tried c cap { s with breakers } n s') : t.Tried c cap s n s' where
  pos := h.pos
  le := h.le
  indefinite := h.indefinite
  made := h.made.of_with_breakers

theorem Tried.with_breakers {cap n : Nat} (h : t.Tried c cap s n s')
    (breakers : Breaker.Registry) : t.Tried c cap s n { s' with breakers } where
  pos := h.pos
  le := h.le
  indefinite := h.indefinite
  made := h.made.with_others s'.now breakers s'.draws

theorem carried (t : Transport) (c : Call) (s : Session) :
    t.Carried c s (t.execute c s).1 (t.execute c s).2 := by
  unfold execute Exchange.guarded
  rcases he : s.breakers.enter c.operation s.now with ⟨_ | ticket, breakers⟩
  · obtain rfl := Breaker.Registry.eq_of_enter_none he
    exact .turnedAway (by rw [he])
  dsimp only
  rcases hx : (if c.repeatable then t.retry else .once).execute (t.attempt c) Exchange.wait
    Exchange.draw { s with breakers } with ⟨r, s₁⟩
  have hcap : max (if c.repeatable then t.retry else .once).maxAttempts 1 - 1 + 1
      = t.allowance c := by
    unfold allowance
    split
    · omega
    · rfl
  obtain ⟨hb, n, ht, hr⟩ := attempted _ _ _ hx
  rw [hcap] at ht hr
  rcases hr with ⟨rfl, hl⟩ | ⟨rfl, hd⟩
  · refine .settled he (ht.of_with_breakers.with_breakers _) hl ?_
    dsimp only at hb ⊢
    rw [hb]
    rfl
  · refine .abandoned hd he (ht.of_with_breakers.with_breakers _) ?_
    dsimp only at hb ⊢
    rw [hb]

theorem request_of_mem_trips {x : Trip} {n : Nat} (hx : x ∈ t.trips c s n) :
    x.request = c.request t.agent := by
  by_cases hu : (c.request t.agent).url.isHttp = true
  · rw [trips_of_isHttp hu] at hx
    obtain ⟨i, -, rfl⟩ := List.mem_map.1 hx
    rfl
  · rw [trips_of_not_isHttp hu] at hx
    cases hx

/-- The last attempt brought what it ends in, if that is a response. -/
theorem getLast?_trips {n : Nat} {r : Response} (h : t.ending c s n = .ok r) :
    ∃ a, (t.trips c s (n + 1)).getLast? = some ⟨c.request t.agent, a⟩ ∧ t.outcome c a = .ok r := by
  unfold ending at h
  split at h
  · rename_i hu
    refine ⟨_, ?_, h⟩
    rw [trips_of_isHttp hu, List.range_succ, List.map_append, List.map_singleton,
      List.getLast?_concat]
  · cases h

/-- The trips of a carried call are attempts at it, no more than it has, and the last of them
brought the response if there is one. -/
theorem Carried.made {r : Option (Except GatewayError Response)} (h : t.Carried c s r s') :
    ∃ trips, s.Made trips s' ∧ trips.length ≤ t.allowance c
      ∧ (∀ x ∈ trips, x.request = c.request t.agent)
      ∧ (trips ≠ [] → (s.breakers.enter c.operation s.now).1 ≠ none)
      ∧ ∀ response, r = some (.ok response) →
        ∃ a, trips.getLast? = some ⟨c.request t.agent, a⟩ ∧ t.outcome c a = .ok response := by
  rcases h with he | ⟨he, ht, -, -⟩ | ⟨-, he, ht, -⟩
  · refine ⟨[], .refl s, Nat.zero_le _, by simp, fun h => absurd rfl h, ?_⟩
    intro response hr
    cases hr
  · rename_i n
    refine ⟨t.trips c s n, ht.made, Nat.le_trans (trips_length_le s n) ht.le,
      fun x hx => request_of_mem_trips hx, fun _ => by simp [he], ?_⟩
    intro response hr
    rw [← Nat.sub_add_cancel ht.pos]
    exact getLast?_trips (Option.some.inj hr)
  · rename_i n
    refine ⟨t.trips c s n, ht.made, Nat.le_trans (trips_length_le s n) ht.le,
      fun x hx => request_of_mem_trips hx, fun _ => by simp [he], ?_⟩
    intro response hr
    cases hr

theorem answer_of_outcome {a : Arrival} {r : Response} (h : t.outcome c a = .ok r) :
    ∃ body delay, a = .answer r.status body delay := by
  rcases a with ⟨status, body, delay⟩ | _ | _ | _ | causes
  · dsimp only [outcome] at h
    split at h
    · cases h
    · split at h
      · cases h
      · cases h
        exact ⟨body, delay, rfl⟩
  · cases h
  · cases h
  · cases h
  · cases h

theorem outcome_cases (a : Arrival) : isIndefinite (t.outcome c a) = true
    ∨ (∃ status, 500 ≤ status ∧ t.outcome c a = .error (.unavailable c.operation status))
    ∨ ∃ r, t.outcome c a = .ok r := by
  rcases a with ⟨status, body, delay⟩ | _ | _ | _ | causes
  · dsimp only [outcome]
    by_cases hd : t.timeout c.method < delay
    · rw [if_pos hd]
      exact .inl rfl
    rw [if_neg hd]
    by_cases hs : 500 ≤ status
    · rw [if_pos hs]
      exact .inr (.inl ⟨status, hs, rfl⟩)
    · rw [if_neg hs]
      exact .inr (.inr ⟨_, rfl⟩)
  · exact .inl rfl
  · exact .inl rfl
  · exact .inl rfl
  · exact .inl rfl

theorem ending_cases (s : Session) (i : Nat) : isIndefinite (t.ending c s i) = true
    ∨ (∃ status, 500 ≤ status ∧ t.ending c s i = .error (.unavailable c.operation status))
    ∨ ∃ r, t.ending c s i = .ok r := by
  unfold ending
  split
  · exact outcome_cases _
  · exact .inl rfl

theorem verdict_of_isIndefinite {x : Except GatewayError Response} (h : isIndefinite x = true) :
    Breaker.Verdict.of x = .failure := by
  rcases x with e | r
  · rw [isIndefinite_error] at h
    rw [Breaker.Verdict.of, if_pos (GatewayError.countsAsFailure_of_isRetryable h)]
  · cases h

/-- A carried call adds one to the count of its breaker if it fails or is abandoned, however many
attempts it made, and nothing otherwise. -/
theorem Carried.failures {r : Option (Except GatewayError Response)} (h : t.Carried c s r s') :
    (r.elim .failure .of = Breaker.Verdict.failure →
      (s'.breakers.get c.operation).failures
        = min ((s.breakers.get c.operation).failures + 1) Breaker.countLimit)
    ∧ (r.elim .failure .of = Breaker.Verdict.success →
      (s'.breakers.get c.operation).failures ≤ (s.breakers.get c.operation).failures) := by
  rcases h with _ | ⟨he, -, -, hl⟩ | ⟨-, he, -, hl⟩
  · refine ⟨fun hv => ?_, fun _ => Nat.le_refl _⟩
    cases hv
  · rw [hl]
    exact Breaker.Registry.failures_of_settle he _ _
  · rw [hl]
    exact Breaker.Registry.failures_of_settle he _ _

/-- Only an answer in time with a status below 500 does not speak against the gateway. -/
theorem Yields.verdict {operation text : String} {limit : Duration} {a : Arrival}
    {x : Except GatewayError Response} (h : Yields operation text limit a x) :
    Breaker.Verdict.of x = .failure ↔ ¬ ∃ status body delay,
      a = .answer status body delay ∧ delay ≤ limit ∧ status < 500 := by
  rcases h with ⟨htime, hwell, -⟩ | ⟨htime, hhollow⟩ | ⟨-, hill⟩ | hlate | _ | _ | _ | _
  · exact iff_of_false (by simp [Breaker.Verdict.of]) fun hn => hn ⟨_, _, _, rfl, htime, hwell⟩
  · rename_i status _ _
    have hwell : status < 500 := by omega
    exact iff_of_false (by simp [Breaker.Verdict.of]) fun hn => hn ⟨_, _, _, rfl, htime, hwell⟩
  · refine iff_of_true rfl ?_
    rintro ⟨_, _, _, ⟨⟩, -, hwell⟩
    exact Nat.not_le_of_lt hwell hill
  · refine iff_of_true rfl ?_
    rintro ⟨_, _, _, ⟨⟩, htime, -⟩
    exact Nat.not_le_of_lt hlate htime
  all_goals
    refine iff_of_true rfl ?_
    rintro ⟨_, _, _, ⟨⟩, -⟩

/-- The client takes URLs of two schemes. -/
theorem isHttp_iff (u : Url) : u.isHttp = true ↔ u.scheme = "http" ∨ u.scheme = "https" := by
  rw [Url.isHttp, Bool.or_eq_true, beq_iff_eq, beq_iff_eq]

end Transport
end SecretBroker
