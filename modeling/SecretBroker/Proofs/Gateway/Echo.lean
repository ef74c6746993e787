import SecretBroker.Proofs.Gateway.Elapsed
import SecretBroker.Proofs.Gateway.Rerun
import SecretBroker.Proofs.Gateway.Settlement

/-!
# Calls that differ in what they post

Two calls that differ in what they post only are let in or turned away together, and take the same
time where their answers come after the same delay. So if what arrives is the same but for the body of
an answer, both come to an error that says nothing of a body, or to responses with one status and the
two bodies (`execute_posting`). Nothing is repeated.
-/

namespace SecretBroker

namespace Arrival

/-- What arrives, without the body of an answer. -/
def bare : Arrival → Arrival
  | .answer status _ delay => .answer status "" delay
  | a => a

theorem bare_cases {a a' : Arrival} (h : a.bare = a'.bare) : a = a' ∨ ∃ status body body' delay,
    a = .answer status body delay ∧ a' = .answer status body' delay := by
  rcases a with ⟨status, body, delay⟩ | _ | _ | _ | causes
  · rcases a' with ⟨status', body', delay'⟩ | _ | _ | _ | _
    · obtain ⟨rfl, -, rfl⟩ := Arrival.answer.inj h
      exact .inr ⟨status, body, body', delay, rfl, rfl⟩
    all_goals cases h
  all_goals
    rcases a' with _ | _ | _ | _ | _
    all_goals
      cases h
    exact .inl rfl

end Arrival

namespace Call

/-- The call with this body. -/
def posting (c : Call) (body : Json.Value) : Call := { c with body := some body }

variable {c : Call}

theorem request_posting (agent : Option String) (v v' : Json.Value) :
    (c.posting v').request agent = { (c.posting v).request agent with body := some v' } := by
  simp only [request, posting, Option.isSome_some]

end Call

namespace Exchange

theorem wait_fst_congr {span : Duration} {s s' : Session} (hn : s'.now = s.now)
    (hd : s'.deadline = s.deadline) : (wait span s').1 = (wait span s).1 := by
  simp only [wait, hd, hn]
  rcases s.deadline with _ | t
  · rfl
  · dsimp only
    rw [apply_ite Prod.fst, apply_ite Prod.fst]

theorem wait_then_fst {α : Type} (span : Duration) (a : α) (s : Session) :
    ((do wait span; return a : Exchange α) s).1 = (wait span s).1.map fun _ => a := by
  rw [bind_apply]
  rcases wait span s with ⟨_ | u, s₁⟩ <;> rfl

end Exchange

namespace Transport

variable {t : Transport} {c : Call} {s : Session} {v v' : Json.Value}
  {x : Except GatewayError Response}

/-- How long an attempt waits for what arrives, if it waits at all. -/
def pause (t : Transport) (m : Method) : Arrival → Option Duration
  | .answer _ _ delay => some (if t.timeout m < delay then t.timeout m else delay)
  | .silence => some (t.timeout m)
  | .lost | .brokenOff | .unreachable _ => none

theorem pause_bare (m : Method) (a : Arrival) : t.pause m a.bare = t.pause m a := by
  cases a <;> rfl

/-- An attempt has its result as soon as what it waits for arrives, unless it is abandoned before. -/
theorem attempt_fst (hu : (c.request t.agent).url.isHttp = true) : (t.attempt c s).1
    = ((t.pause c.method (s.arrival 0 (c.request t.agent))).elim (some ())
        fun span => (Exchange.wait span s).1).map fun _ => t.ending c s 0 := by
  unfold attempt ending
  dsimp only
  rw [hu, Bool.not_true, if_neg Bool.false_ne_true, if_pos rfl, bind_apply]
  have hnow := Exchange.send_now (c.request t.agent) s
  rcases hs : Exchange.send (c.request t.agent) s with ⟨r, s₁⟩
  obtain ⟨rfl, -, hm⟩ := Exchange.send_cases hs
  rw [hs] at hnow
  have hwait (span : Duration) : (Exchange.wait span s₁).1 = (Exchange.wait span s).1 :=
    Exchange.wait_fst_congr hnow hm.deadline
  dsimp only
  generalize s.arrival 0 (c.request t.agent) = a
  rcases a with ⟨status, body, delay⟩ | _ | _ | _ | causes
  · dsimp only [pause, outcome]
    by_cases hd : t.timeout c.method < delay
    · rw [if_pos hd, if_pos hd, if_pos hd, Exchange.wait_then_fst, hwait]
      rfl
    · rw [if_neg hd, if_neg hd, if_neg hd, Exchange.wait_then_fst, hwait]
      rfl
  · dsimp only [pause, outcome]
    rw [Exchange.wait_then_fst, hwait]
    rfl
  · rfl
  · rfl
  · rfl

/-- What arrives is worth the same to both calls. -/
theorem outcome_posting (a : Arrival) :
    t.outcome (c.posting v') a = t.outcome (c.posting v) a := by
  have hurl : ((c.posting v').request t.agent).url = ((c.posting v).request t.agent).url := by
    rw [Call.request_posting t.agent v v']
  cases a <;> simp only [outcome, hurl] <;> rfl

/-- What arrives alike but for the body of an answer is worth the same, or it is two responses with one
status. -/
theorem outcome_bare {a a' : Arrival} (h : a.bare = a'.bare) : t.outcome c a' = t.outcome c a
    ∨ ∃ status body body',
      t.outcome c a = .ok ⟨status, body⟩ ∧ t.outcome c a' = .ok ⟨status, body'⟩ := by
  rcases Arrival.bare_cases h with rfl | ⟨status, body, body', delay, rfl, rfl⟩
  · exact .inl rfl
  rcases hx : t.outcome c (.answer status body delay) with e | r
  · rcases hx' : t.outcome c (.answer status body' delay) with e' | r'
    · left
      dsimp only [outcome] at hx hx'
      by_cases hlate : t.timeout c.method < delay
      · rw [if_pos hlate] at hx hx'
        exact hx'.symm.trans hx
      rw [if_neg hlate] at hx hx'
      by_cases hdown : 500 ≤ status
      · rw [if_pos hdown] at hx hx'
        exact hx'.symm.trans hx
      · rw [if_neg hdown] at hx
        cases hx
    · rw [(outcome_answer hx').2 body] at hx
      cases hx
  · obtain ⟨rfl, hother⟩ := outcome_answer hx
    exact .inr ⟨status, _, _, rfl, hother body'⟩

theorem execute_once {ticket : Breaker.Ticket} {breakers : Breaker.Registry}
    (hr : c.repeatable = false)
    (he : s.breakers.enter c.operation s.now = (some ticket, breakers)) :
    (t.execute c s).1 = (t.attempt c { s with breakers }).1 := by
  have hone : RetryPolicy.once.execute (t.attempt c) Exchange.wait Exchange.draw = t.attempt c := rfl
  rw [execute, hr, if_neg Bool.false_ne_true, hone, Exchange.guarded, he]
  dsimp only
  rcases t.attempt c { s with breakers } with ⟨_ | r, s₁⟩ <;> rfl

/-- Two calls that differ in what they post come to the same, or each is worth what arrives for it.
That they wait equally long is all that is asked of the arrivals. -/
theorem execute_posting (hr : c.repeatable = false) (s : Session) (v v' : Json.Value) :
    (t.execute (c.posting v') s).1 = (t.execute (c.posting v) s).1
    ∨ ((s.arrival 0 ((c.posting v).request t.agent)).bare
        = (s.arrival 0 ((c.posting v').request t.agent)).bare →
      (t.execute (c.posting v) s).1
          = some (t.outcome (c.posting v) (s.arrival 0 ((c.posting v).request t.agent)))
        ∧ (t.execute (c.posting v') s).1
          = some (t.outcome (c.posting v) (s.arrival 0 ((c.posting v').request t.agent)))) := by
  have hreq := Call.request_posting (c := c) t.agent v v'
  rcases he : s.breakers.enter c.operation s.now with ⟨_ | ticket, breakers⟩
  · have haway (v : Json.Value) : t.execute (c.posting v) s
        = (some (.error (.circuitOpen c.operation)), s) :=
      t.execute_of_turnedAway (congrArg Prod.fst he)
    rw [haway, haway]
    exact .inl rfl
  have honce (v : Json.Value) : (t.execute (c.posting v) s).1
      = (t.attempt (c.posting v) { s with breakers }).1 := execute_once hr he
  rw [honce, honce]
  by_cases hu : ((c.posting v).request t.agent).url.isHttp = true
  swap
  · -- The client says the same of the URL, whatever is posted there.
    have hu' : ¬ ((c.posting v').request t.agent).url.isHttp = true := by rwa [hreq]
    left
    simp only [attempt, hreq]
    rw [Bool.not_eq_true] at hu
    rw [hu, Bool.not_false, if_pos rfl, if_pos rfl]
    rfl
  have hu' : ((c.posting v').request t.agent).url.isHttp = true := by rwa [hreq]
  rw [attempt_fst hu, attempt_fst hu', ending, ending, if_pos hu, if_pos hu',
    outcome_posting (v := v)]
  by_cases hb : (s.arrival 0 ((c.posting v).request t.agent)).bare
      = (s.arrival 0 ((c.posting v').request t.agent)).bare
  swap
  · exact .inr fun h => absurd h hb
  have hpause : t.pause (c.posting v').method (s.arrival 0 ((c.posting v').request t.agent))
      = t.pause (c.posting v).method (s.arrival 0 ((c.posting v).request t.agent)) := by
    rw [← pause_bare, ← hb, pause_bare]
    rfl
  dsimp only [Session.arrival] at hpause ⊢
  rw [hpause]
  rcases (t.pause (c.posting v).method _).elim (some ()) _ with _ | u
  · exact .inl rfl
  · exact .inr fun _ => ⟨rfl, rfl⟩

end Transport
end SecretBroker
