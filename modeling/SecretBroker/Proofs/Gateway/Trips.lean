import SecretBroker.Gateway.Session
import SecretBroker.Proofs.Sequence

/-!
# What happens in a session

A trip is a request and what came of it. `Session.Made s trips s'` says that just these trips lie
between two moments of a session: they took their arrivals from the script one after the other, and
what went out is on record.
-/

namespace SecretBroker

/-- A request, and what came of it. -/
structure Trip where
  request : Request
  arrival : Arrival

namespace Trip

/-- Whether the request went out; without a connection it does not. -/
def wentOut (t : Trip) : Bool :=
  match t.arrival with
  | .unreachable _ => false
  | _ => true

/-- The requests that went out. -/
def sent (trips : List Trip) : List Request := (trips.filter wentOut).map request

theorem sent_append (l l' : List Trip) : sent (l ++ l') = sent l ++ sent l' := by
  simp only [sent, List.filter_append, List.map_append]

end Trip

namespace Session

variable {s s' s'' : Session} {l l' : List Trip}

/-- What comes of a request before which `i` others are made. -/
def arrival (s : Session) (i : Nat) (r : Request) : Arrival := (s.script[i]?.getD s.later) r

/-- These trips, and no others, lie between `s` and `s'`. -/
structure Made (s : Session) (trips : List Trip) (s' : Session) : Prop where
  script : s'.script = s.script.drop trips.length
  later : s'.later = s.later
  deadline : s'.deadline = s.deadline
  sent : s'.sent = s.sent ++ Trip.sent trips
  arrival : ∀ i t, trips[i]? = some t → t.arrival = s.arrival i t.request

theorem Made.refl (s : Session) : Made s [] s where
  script := rfl
  later := rfl
  deadline := rfl
  sent := (List.append_nil _).symm
  arrival := by simp

theorem Made.arrival_add (h : Made s l s') (i : Nat) (r : Request) :
    s'.arrival i r = s.arrival (l.length + i) r := by
  simp only [Session.arrival, h.script, h.later, List.getElem?_drop]

theorem Made.trans (h : Made s l s') (h' : Made s' l' s'') : Made s (l ++ l') s'' where
  script := by rw [h'.script, h.script, List.drop_drop, List.length_append]
  later := h'.later.trans h.later
  deadline := h'.deadline.trans h.deadline
  sent := by rw [h'.sent, h.sent, Trip.sent_append, List.append_assoc]
  arrival := by
    intro i t ht
    rcases Nat.lt_or_ge i l.length with hi | hi
    · rw [List.getElem?_append_left hi] at ht
      exact h.arrival i t ht
    · rw [List.getElem?_append_right hi] at ht
      have ha := h'.arrival _ t ht
      rwa [h.arrival_add, Nat.add_sub_cancel' hi] at ha

/-- Neither the time nor the breakers nor chance have a part in the trips. -/
theorem Made.with_others (h : Made s l s') (now : Instant) (breakers : Breaker.Registry)
    (draws : Nat → Draw) : Made s l { s' with now, breakers, draws } where
  script := h.script
  later := h.later
  deadline := h.deadline
  sent := h.sent
  arrival := h.arrival

theorem Made.of_with_breakers {breakers : Breaker.Registry}
    (h : Made { s with breakers } l s') : Made s l s' where
  script := h.script
  later := h.later
  deadline := h.deadline
  sent := h.sent
  arrival := h.arrival

end Session

namespace Exchange

variable {s s' : Session}

/-- Waiting moves the time only, and ends early at a deadline only. -/
theorem wait_cases {span : Duration} {r : Option Unit} (h : wait span s = (r, s')) :
    (∃ now, s' = { s with now }) ∧ (r = some () ∨ r = none ∧ s.deadline ≠ none) := by
  unfold wait at h
  rcases hd : s.deadline with _ | t
  · simp only [hd] at h
    cases h
    exact ⟨⟨_, rfl⟩, .inl rfl⟩
  · simp only [hd] at h
    split at h
    · cases h
      exact ⟨⟨_, rfl⟩, .inr ⟨rfl, by simp⟩⟩
    · cases h
      exact ⟨⟨_, rfl⟩, .inl rfl⟩

theorem wait_then_cases {α : Type} {span : Duration} {a : α} {r : Option α}
    (h : (do wait span; return a : Exchange α) s = (r, s')) :
    (∃ now, s' = { s with now }) ∧ (r = some a ∨ r = none ∧ s.deadline ≠ none) := by
  rcases bind_cases h with ⟨hw, rfl⟩ | ⟨_, s₁, hw, h⟩
  · obtain ⟨hs, hr⟩ := wait_cases hw
    refine ⟨hs, .inr ⟨rfl, ?_⟩⟩
    rcases hr with hr | ⟨-, hd⟩
    · cases hr
    · exact hd
  · cases h
    exact ⟨(wait_cases hw).1, .inl rfl⟩

/-- Before a retry one draw is made, and the delay that comes of it passes. -/
theorem rest_apply (p : RetryPolicy) (retry : Nat) (s : Session) : p.rest wait draw retry s
    = wait (p.delay retry (s.draws 0).value) { s with draws := fun i => s.draws (i + 1) } := rfl

theorem rest_cases {p : RetryPolicy} {retry : Nat} {r : Option Unit}
    (h : p.rest wait draw retry s = (r, s')) : (∃ now draws, s' = { s with now, draws })
      ∧ (r = some () ∨ r = none ∧ s.deadline ≠ none) := by
  rw [rest_apply] at h
  obtain ⟨⟨now, rfl⟩, hr⟩ := wait_cases h
  exact ⟨⟨now, _, rfl⟩, hr⟩

/-- Sending is one trip, whose arrival is next in the script. -/
theorem send_cases {request : Request} {r : Option Arrival} (h : send request s = (r, s')) :
    r = some (s.arrival 0 request) ∧ (s'.breakers = s.breakers ∧ s'.draws = s.draws)
      ∧ s.Made [⟨request, s.arrival 0 request⟩] s' := by
  have he : send request s = (some (s.arrival 0 request), { s with
      script := s.script.drop 1
      sent := s.sent ++ Trip.sent [⟨request, s.arrival 0 request⟩] }) := by
    unfold send Session.arrival
    rcases hs : s.script with _ | ⟨a, rest⟩
    · simp only [List.getElem?_nil, Option.getD_none, Trip.sent, Trip.wentOut, List.filter]
      cases s.later request <;> simp
    · simp only [List.getElem?_cons_zero, Option.getD_some, Trip.sent, Trip.wentOut, List.filter]
      cases a request <;> simp
  rw [he] at h
  cases h
  refine ⟨rfl, ⟨rfl, rfl⟩, rfl, rfl, rfl, rfl, ?_⟩
  intro i t ht
  rcases i with _ | i
  · cases ht
    rfl
  · cases ht

end Exchange
end SecretBroker
