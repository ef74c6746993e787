import SecretBroker.Proofs.Gateway.Alongside

/-!
# Disturbances that the retries make up for

A hiccup is an arrival that is worth nothing definite to the one who waits for it: nothing came, or
it came too late. As long as fewer hiccups than attempts come before an arrival, the call that waits
for it gets it all the same, and its breaker hears of nothing else (`carries_disturbed`).
-/

namespace SecretBroker

namespace Breaker

/-- What of a breaker has nothing to do with the time. -/
def tally (b : Breaker) : Phase × Nat × Bool := (b.phase, b.failures, b.trialOut)

theorem tally_settle (p : Policy) {b b' : Breaker} (h : b'.tally = b.tally) (now now' : Instant)
    (t : Ticket) (v : Verdict) : (b'.settle p now' t v).tally = (b.settle p now t v).tally := by
  rcases b with ⟨phase, failures, last, trialOut⟩
  rcases b' with ⟨phase', failures', last', trialOut'⟩
  simp only [tally, Prod.mk.injEq] at h
  obtain ⟨rfl, rfl, rfl⟩ := h
  rcases v with _ | _
  · rcases phase' with _ | _ | _ <;> rcases t with _ | _ <;> rfl
  · simp only [settle, fail]
    rcases phase' with _ | _ | _
    · dsimp only
      split
      · rfl
      · rfl
    · rfl
    · rcases t with _ | _ <;> rfl

namespace Registry

/-- The registries have the same breakers but for the instants of failures. -/
structure Tallies (r r' : Registry) : Prop where
  policy : r'.policy = r.policy
  tally : ∀ n, (r'.find? n).map tally = (r.find? n).map tally

namespace Tallies

variable {r r' : Registry}

theorem get_tally (h : Tallies r r') (n : String) : (r'.get n).tally = (r.get n).tally := by
  have hn := h.tally n
  rw [get, get]
  rcases hf : r.find? n with _ | b
  · rw [hf, Option.map_none, Option.map_eq_none_iff] at hn
    rw [hn]
  · rw [hf] at hn
    obtain ⟨b', hb, ht⟩ := Option.map_eq_some_iff.1 hn
    rw [hb]
    exact ht

theorem set (h : Tallies r r') (name : String) {b b' : Breaker} (hb : b'.tally = b.tally) :
    Tallies (r.set name b) (r'.set name b') where
  policy := h.policy
  tally := by
    intro n
    rw [find?_set, find?_set]
    split
    · exact congrArg some hb
    · exact h.tally n

end Tallies

/-- The registry in which a call through the closed breaker of a name has settled. -/
def settled (r : Registry) (name : String) (now : Instant) (v : Verdict) : Registry :=
  (r.set name (r.get name)).set name ((r.get name).settle r.policy now .normal v)

theorem get_settled_of_ne {name other : String} (h : other ≠ name) (r : Registry) (now : Instant)
    (v : Verdict) : (r.settled name now v).get other = r.get other := by
  rw [Registry.settled, get_set_of_ne _ h, get_set_of_ne _ h]

theorem Tallies.settled {r r' : Registry} (h : Tallies r r') (name : String) (now now' : Instant)
    (v : Verdict) : Tallies (r.settled name now v) (r'.settled name now' v) := by
  have hg := h.get_tally name
  have hs := tally_settle r.policy hg now now' .normal v
  rw [← h.policy] at hs
  rw [Registry.settled, Registry.settled, ← h.policy]
  exact (h.set name hg).set name hs

end Registry
end Breaker

namespace Transport

variable (t : Transport)

/-- Whether an arrival is worth nothing definite to a request: no answer in time. -/
def isHiccup (m : Method) : Arrival → Bool
  | .answer _ _ delay => t.timeout m < delay
  | _ => true

theorem isIndefinite_outcome (c : Call) (a : Arrival) :
    isIndefinite (t.outcome c a) = t.isHiccup c.method a := by
  rcases a with ⟨status, body, delay⟩ | _ | _ | _ | causes
  · rw [outcome, isHiccup]
    by_cases hd : t.timeout c.method < delay
    · rw [if_pos hd, decide_eq_true hd, isIndefinite]
    · rw [if_neg hd, decide_eq_false hd]
      split
      · rfl
      · rfl
  · rfl
  · rfl
  · rfl
  · rfl

/-- Whether a trip brought something definite. -/
def brings (x : Trip) : Bool := !t.isHiccup x.request.method x.arrival

/-- A gateway brings the trips' arrivals in turn, with fewer hiccups than `n` before each. -/
def Disturbed (n : Nat) (gateway : Nat → Request → Arrival) : List Trip → Prop
  | [] => True
  | x :: rest => ∃ k, k < n ∧ (∀ m, m < k → t.isHiccup x.request.method (gateway m x.request) = true)
    ∧ gateway k x.request = x.arrival ∧ Disturbed n (fun i => gateway (k + 1 + i)) rest

instance (n : Nat) : ∀ (gateway : Nat → Request → Arrival) (trips : List Trip),
    Decidable (t.Disturbed n gateway trips)
  | _, [] => isTrue trivial
  | gateway, _ :: rest =>
    have (k : Nat) : Decidable (t.Disturbed n (fun i => gateway (k + 1 + i)) rest) :=
      instDecidableDisturbed n _ rest
    inferInstanceAs (Decidable (∃ k, k < n ∧ _))

variable {t} {c : Call} {s s' : Session}

/-- A call through a closed breaker that nobody walks away from settles. -/
theorem Carried.of_closed {r : Option (Except GatewayError Response)} (h : t.Carried c s r s')
    (hd : s.deadline = none) (hc : (s.breakers.get c.operation).phase = .closed) :
    ∃ n, t.Tried c (t.allowance c) s n s'
      ∧ (n = t.allowance c ∨ isIndefinite (t.ending c s (n - 1)) = false)
      ∧ r = some (t.ending c s (n - 1))
      ∧ s'.breakers = s.breakers.settled c.operation s'.now (.of (t.ending c s (n - 1))) := by
  have hin : (s.breakers.get c.operation).enter s.breakers.policy s.now
      = some (.normal, s.breakers.get c.operation) := Breaker.enter_of_closed hc
  have henter := Breaker.Registry.enter_eq_some hin
  rcases h with he | ⟨he, ht, hl, hb⟩ | ⟨hdl, -, -, -⟩
  · rw [henter] at he
    cases he
  · rw [henter] at he
    cases he
    refine ⟨_, ht, hl, rfl, ?_⟩
    rw [hb, Breaker.Registry.settle, Breaker.Registry.get_set, Breaker.Registry.settled]
    rfl
  · exact absurd hd hdl

/-- The attempts stop at the first that ends in something definite. -/
theorem Tried.eq_succ {n k : Nat} (h : t.Tried c (t.allowance c) s n s')
    (hl : n = t.allowance c ∨ isIndefinite (t.ending c s (n - 1)) = false)
    (hi : ∀ i, i < k → isIndefinite (t.ending c s i) = true)
    (hd : isIndefinite (t.ending c s k) = false) (hk : k < t.allowance c) : n = k + 1 := by
  have hpos := h.pos
  have hle : n ≤ k + 1 := by
    by_contra hn
    rw [h.indefinite k (by omega)] at hd
    cases hd
  have hge : k < n := by
    by_contra hn
    rcases hl with hl | hl
    · omega
    · rw [hi (n - 1) (by omega)] at hl
      cases hl
  omega

end Transport

theorem Operation.name_injective : Function.Injective Operation.name := by
  intro op op' h
  cases op <;> cases op' <;> first | rfl | exact absurd h (by decide)

/-- The sessions have come from `s₀` and `s₀'`, to the same but for hiccups on the way of the second
and what the time does; and so it may go on with the trips `rest` of the first and breakers for the
operations `F`. -/
structure Session.Through (t : Transport) (s₀ s₀' : Session) (F : List Operation) (rest : List Trip)
    (s s' : Session) : Prop where
  deadline : s.deadline = none
  deadline' : s'.deadline = none
  closed : ∀ op ∈ F, (s.breakers.get op.name).phase = .closed
  repeatable : .secretCreate ∉ F
  tallies : s.breakers.Tallies s'.breakers
  brings : ∀ x ∈ rest, t.brings x = true
  disturbed : t.Disturbed (max t.retry.maxAttempts 1) s'.arrival rest
  made : ∃ trips, s₀.Made (trips.filter t.brings) s ∧ s₀'.Made trips s'

theorem Call.request_method (c : Call) (agent : Option String) :
    (c.request agent).method = c.method := by
  unfold request
  split
  rfl

section
variable {t : Transport} {c : Call} {s s' s₁ s₁' s₀ s₀' : Session} {op : Operation}
  {F : List Operation} {rest rest' trips : List Trip}

open Session

theorem Session.Through.settle (h : Through t s₀ s₀' (op :: F) rest' s s') (ho : op ∉ F)
    (hm : s.Made (trips.filter t.brings) s₁) (hm' : s'.Made trips s₁') {v : Breaker.Verdict}
    (hb : s₁.breakers = s.breakers.settled op.name s₁.now v)
    (hb' : s₁'.breakers = s'.breakers.settled op.name s₁'.now v)
    (hr : ∀ x ∈ rest, t.brings x = true)
    (hd : t.Disturbed (max t.retry.maxAttempts 1) s₁'.arrival rest) :
    Through t s₀ s₀' F rest s₁ s₁' where
  deadline := hm.deadline.trans h.deadline
  deadline' := hm'.deadline.trans h.deadline'
  closed := by
    intro o hF
    have hne : o.name ≠ op.name := fun he => ho (Operation.name_injective he ▸ hF)
    rw [hb, Breaker.Registry.get_settled_of_ne hne]
    exact h.closed o (List.mem_cons_of_mem _ hF)
  repeatable := fun hF => h.repeatable (List.mem_cons_of_mem _ hF)
  tallies := by
    rw [hb, hb']
    exact h.tallies.settled op.name _ _ v
  brings := hr
  disturbed := hd
  made := by
    obtain ⟨before, hbefore, hbefore'⟩ := h.made
    refine ⟨before ++ trips, ?_, hbefore'.trans hm'⟩
    rw [List.filter_append]
    exact hbefore.trans hm

theorem Session.Through.phase_eq (h : Through t s₀ s₀' F rest s s') (n : String) :
    (s'.breakers.get n).phase = (s.breakers.get n).phase :=
  congrArg (·.1) (h.tallies.get_tally n)

theorem Session.Made.arrival_eq (h : s.Made trips s₁) :
    s₁.arrival = fun i => s.arrival (trips.length + i) :=
  funext fun i => funext fun r => h.arrival_add i r

namespace Transport

theorem isIndefinite_ending (hu : (c.request t.agent).url.isHttp = true) (s : Session) (i : Nat) :
    isIndefinite (t.ending c s i)
      = t.isHiccup (c.request t.agent).method (s.arrival i (c.request t.agent)) := by
  rw [ending, if_pos hu, isIndefinite_outcome, c.request_method]

/-- The attempts in the one session and in the other end in the same. -/
theorem attempts_agree {n n' : Nat} (h : Through t s₀ s₀' F (t.trips c s n ++ rest) s s')
    (ht : t.Tried c (t.allowance c) s n s₁)
    (hl : n = t.allowance c ∨ isIndefinite (t.ending c s (n - 1)) = false)
    (ht' : t.Tried c (t.allowance c) s' n' s₁')
    (hl' : n' = t.allowance c ∨ isIndefinite (t.ending c s' (n' - 1)) = false)
    (hc : c.repeatable = true) :
    t.ending c s' (n' - 1) = t.ending c s (n - 1)
      ∧ (t.trips c s' n').filter t.brings = t.trips c s n
      ∧ t.Disturbed (max t.retry.maxAttempts 1) s₁'.arrival rest := by
  have hcap : t.allowance c = max t.retry.maxAttempts 1 := if_pos hc
  have hd := h.disturbed
  have harr := ht'.made.arrival_eq
  by_cases hu : (c.request t.agent).url.isHttp = true
  · -- The first attempt brings something definite where there are no hiccups, and is the only one.
    have hmem : ⟨c.request t.agent, s.arrival 0 (c.request t.agent)⟩ ∈ t.trips c s n ++ rest := by
      rw [trips_of_isHttp hu]
      exact List.mem_append_left _ (List.mem_map.2 ⟨0, List.mem_range.2 ht.pos, rfl⟩)
    have hfirst := h.brings _ hmem
    have h0 : isIndefinite (t.ending c s 0) = false := by
      rw [isIndefinite_ending hu]
      simpa only [Transport.brings, Bool.not_eq_true'] using hfirst
    obtain rfl := ht.eq_succ (k := 0) hl (fun i hi => absurd hi (Nat.not_lt_zero i)) h0
      (by omega)
    have hone : t.trips c s (0 + 1) = [⟨c.request t.agent, s.arrival 0 (c.request t.agent)⟩] := by
      rw [trips_of_isHttp hu]
      rfl
    rw [hone, List.singleton_append] at hd
    obtain ⟨k, hk, hhiccup, hlast, hrest⟩ := hd
    dsimp only at hhiccup hlast
    have hend : t.ending c s' k = t.ending c s 0 := by
      rw [ending, ending, if_pos hu, if_pos hu, hlast]
    obtain rfl := ht'.eq_succ hl'
      (fun i hi => (isIndefinite_ending hu s' i).trans (hhiccup i hi)) (hend ▸ h0) (by omega)
    refine ⟨hend, ?_, ?_⟩
    · have hnone : ((List.range k).map fun i =>
          (⟨c.request t.agent, s'.arrival i (c.request t.agent)⟩ : Trip)).filter t.brings = [] := by
        rw [List.filter_eq_nil_iff]
        intro x hx
        obtain ⟨i, hi, rfl⟩ := List.mem_map.1 hx
        rw [Transport.brings, hhiccup i (List.mem_range.1 hi)]
        exact Bool.false_ne_true
      rw [hone, trips_of_isHttp hu, List.range_succ, List.map_append, List.filter_append, hnone,
        List.nil_append, List.map_singleton, hlast, List.filter_cons_of_pos hfirst, List.filter_nil]
    · rw [harr, trips_of_isHttp hu, List.length_map, List.length_range]
      exact hrest
  · rw [trips_of_not_isHttp hu] at hd ⊢
    rw [trips_of_not_isHttp hu, ending, ending, if_neg hu, if_neg hu]
    refine ⟨rfl, rfl, ?_⟩
    rw [harr, trips_of_not_isHttp hu]
    simpa only [List.length_nil, Nat.zero_add, List.nil_append] using hd

/-- A call gets through hiccups to what it gets without them. -/
theorem carries_disturbed (t : Transport) (s₀ s₀' : Session) : Carries t (Through t s₀ s₀') where
  fewer hF rest s s' h :=
    { h with closed := fun op ho => h.closed op (hF ho), repeatable := fun ho => h.repeatable (hF ho) }
  execute := by
    intro op F c hc ho s
    have hcar := t.carried c s
    rcases hx : t.execute c s with ⟨r, s₁⟩
    rw [hx] at hcar
    by_cases hgood : s.deadline = none ∧ (s.breakers.get c.operation).phase = .closed
    swap
    · obtain ⟨trips, hm, -⟩ := hcar.made
      refine ⟨trips, hm, fun rest s' h => absurd ⟨h.deadline, ?_⟩ hgood⟩
      rw [hc.1]
      exact h.closed op List.mem_cons_self
    obtain ⟨n, ht, hl, rfl, hb⟩ := hcar.of_closed hgood.1 hgood.2
    refine ⟨t.trips c s n, ht.made, fun rest s' h => ?_⟩
    have hcar' := t.carried c s'
    rcases hx' : t.execute c s' with ⟨r', s₁'⟩
    rw [hx'] at hcar'
    obtain ⟨n', ht', hl', rfl, hb'⟩ := hcar'.of_closed h.deadline' ((h.phase_eq _).trans hgood.2)
    have hrep : c.repeatable = true := by
      rw [hc.repeatable, bne_iff_ne]
      rintro rfl
      exact h.repeatable List.mem_cons_self
    obtain ⟨hend, hfilter, hdist⟩ := attempts_agree h ht hl ht' hl' hrep
    rw [hc.1] at hb hb'
    rw [hend] at hb'
    refine ⟨congrArg some hend, h.settle ho (hfilter.symm ▸ ht.made) ht'.made hb hb' ?_ hdist⟩
    exact fun x hx => h.brings x (List.mem_append_right _ hx)

end Transport

/-- The requests with what comes of each when the gateway is asked for them in turn. -/
def Session.replies (s : Session) (out : List Request) : List Trip :=
  out.mapIdx fun i r => ⟨r, s.arrival i r⟩

/-- Where the gateway answers whatever it is asked, what was sent tells all trips. -/
theorem Session.Made.eq_replies
    (hs : ∀ i r, ∃ status body delay, s.arrival i r = .answer status body delay)
    (h : s.Made trips s₁) {out : List Request} (ho : s₁.sent = s.sent ++ out) :
    trips = s.replies out := by
  have hall : trips.filter Trip.wentOut = trips := by
    refine List.filter_eq_self.2 fun x hx => ?_
    obtain ⟨i, hi⟩ := List.mem_iff_getElem?.1 hx
    obtain ⟨status, body, delay, ha⟩ := hs i x.request
    rw [Trip.wentOut, h.arrival i x hi, ha]
  have hout : trips.map Trip.request = out := by
    have hsent := List.append_cancel_left (h.sent.symm.trans ho)
    rwa [Trip.sent, hall] at hsent
  refine List.ext_getElem? fun i => ?_
  rw [Session.replies, List.getElem?_mapIdx, ← hout, List.getElem?_map]
  rcases hi : trips[i]? with _ | x
  · rfl
  · rw [Option.map_some, Option.map_some, ← h.arrival i x hi]

/-- In `s'` the gateway sends back what it sends back from `s` to `s₁`, all of it in time, with
hiccups in between: fewer before each reply than a call has attempts. -/
def Session.Replays (t : Transport) (s s₁ s' : Session) : Prop :=
  ∃ out, s₁.sent = s.sent ++ out ∧ (∀ x ∈ s.replies out, t.brings x = true)
    ∧ t.Disturbed (max t.retry.maxAttempts 1) s'.arrival (s.replies out)

/-- Between `s'` and `s₁'` the same came of the same requests as between `s` and `s₁`, but for
hiccups, and the breakers heard the same. -/
structure Session.Repeats (t : Transport) (s s₁ s' s₁' : Session) : Prop where
  trips : ∃ trips, s.Made (trips.filter t.brings) s₁ ∧ s'.Made trips s₁'
  breakers : ∀ n, (s₁'.breakers.find? n).map (fun b => (b.phase, b.failures))
    = (s₁.breakers.find? n).map fun b => (b.phase, b.failures)

/-- At the beginning no breaker is open, nobody is going to walk away, and the gateway answers
whatever it is asked. -/
structure Session.Calm (s : Session) : Prop where
  closed : ∀ n, (s.breakers.get n).phase = .closed
  deadline : s.deadline = none
  answers : ∀ i r, ∃ status body delay, s.arrival i r = .answer status body delay

theorem Breaker.Registry.Tallies.refl (r : Breaker.Registry) : r.Tallies r := ⟨rfl, fun _ => rfl⟩

theorem Session.Through.repeats (h : Through t s s' F rest s₁ s₁') : s.Repeats t s₁ s' s₁' where
  trips := h.made
  breakers := by
    intro n
    have hn := congrArg (Option.map fun x : Breaker.Phase × Nat × Bool => (x.1, x.2.1))
      (h.tallies.tally n)
    rwa [Option.map_map, Option.map_map] at hn

/-- What comes to the same side by side comes to the same through hiccups. -/
theorem Session.Calm.alongside {α : Type} {x : Session → α × Session}
    {script : List (Request → Arrival)} {later : Request → Arrival} {draws : Nat → Draw} (h : s.Calm)
    (hx : Alongside (Through t s { s with script, later, draws } F)
      (Through t s { s with script, later, draws } []) x)
    (hF : .secretCreate ∉ F) (hr : s.Replays t (x s).2 { s with script, later, draws }) :
    (x { s with script, later, draws }).1 = (x s).1
      ∧ s.Repeats t (x s).2 { s with script, later, draws } (x { s with script, later, draws }).2 := by
  obtain ⟨trips, hm, hs⟩ := hx s
  obtain ⟨out, ho, hin, hd⟩ := hr
  rw [← hm.eq_replies h.answers ho] at hin hd
  obtain ⟨he, ht⟩ := hs [] { s with script, later, draws } {
    deadline := h.deadline
    deadline' := h.deadline
    closed := fun op _ => h.closed op.name
    repeatable := hF
    tallies := .refl s.breakers
    brings := by rwa [List.append_nil]
    disturbed := by rwa [List.append_nil]
    made := ⟨[], .refl s, .refl _⟩ }
  exact ⟨he, ht.repeats⟩

end
end SecretBroker
