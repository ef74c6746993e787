import SecretBroker.Proofs.Gateway.Alongside
import SecretBroker.Proofs.Gateway.Onward

/-!
# What a call depends on

A call depends on the clock, on what the gateway sends back, and on the breaker of its own operation
(`Session.Alike`): two sessions that have these in common carry it to the same end and have them in
common then, whatever the other breakers are (`carries_alike`).
-/

namespace SecretBroker

namespace Breaker.Registry

/-- The registries have the breakers under these names in common. -/
structure Alike (names : List String) (r r' : Registry) : Prop where
  policy : r'.policy = r.policy
  breakers : ∀ n ∈ names, r'.find? n = r.find? n

namespace Alike

variable {names : List String} {r r' : Registry} {name : String}

theorem get_eq (h : Alike names r r') (hn : name ∈ names) : r'.get name = r.get name := by
  rw [get, h.breakers name hn, get]

theorem set (h : Alike names r r') (name : String) (b : Breaker) :
    Alike names (r.set name b) (r'.set name b) where
  policy := h.policy
  breakers := by
    intro n hn
    rw [find?_set, find?_set, h.breakers n hn]

theorem enter (h : Alike names r r') (hn : name ∈ names) (now : Instant) :
    (r'.enter name now).1 = (r.enter name now).1
    ∧ Alike names (r.enter name now).2 (r'.enter name now).2 := by
  have hg := h.get_eq hn
  rcases he : (r.get name).enter r.policy now with _ | ⟨t, b⟩
  · have he' : (r'.get name).enter r'.policy now = none := by rw [hg, h.policy, he]
    rw [enter_eq_none he, enter_eq_none he', create, create, hg]
    exact ⟨rfl, h.set name _⟩
  · have he' : (r'.get name).enter r'.policy now = some (t, b) := by rw [hg, h.policy, he]
    rw [enter_eq_some he, enter_eq_some he']
    exact ⟨rfl, h.set name b⟩

theorem settle (h : Alike names r r') (hn : name ∈ names) (now : Instant) (t : Ticket)
    (v : Verdict) : Alike names (r.settle name now t v) (r'.settle name now t v) := by
  rw [Registry.settle, Registry.settle, h.get_eq hn, h.policy]
  exact h.set name _

end Alike
end Breaker.Registry

/-- The other session differs in what has been sent and in breakers under other names at most. -/
def Session.Alike (names : List String) (s s' : Session) : Prop :=
  ∃ breakers sent, s.breakers.Alike names breakers ∧ s' = { s with breakers, sent }

theorem Session.Alike.breakers {names : List String} {s s' : Session} (h : s.Alike names s') :
    s.breakers.Alike names s'.breakers := by
  obtain ⟨breakers, sent, hb, rfl⟩ := h
  exact hb

/-- What leaves breakers alone leaves them in common. -/
theorem Breaker.Registry.Alike.onward {names names' : List String} {r : Breaker.Registry}
    {s s' : Session} (h : r.Alike names s.breakers) (hs : s.Onward names' s')
    (hd : ∀ n ∈ names, n ∉ names') : r.Alike names s'.breakers where
  policy := hs.policy.trans h.policy
  breakers := fun n hn => (hs.others n (hd n hn)).trans (h.breakers n hn)

open Session

variable {names : List String}

/-- Sessions that are alike, whatever is still to come. -/
abbrev alike (names : List String) : Likeness := fun _ => Alike names

namespace Exchange

/-- How long to wait, and whether until the end, is for the clock and the deadline to say. -/
theorem wait_with (span : Duration) (s : Session) (breakers : Breaker.Registry)
    (sent : List Request) : wait span { s with breakers, sent }
      = ((wait span s).1, { (wait span s).2 with breakers, sent }) := by
  rcases hd : s.deadline with _ | t
  · simp only [wait, hd]
  · by_cases hl : t < s.now + span.toNanos
    · simp only [wait, hd, if_pos hl]
    · simp only [wait, hd, if_neg hl]

theorem alongside_wait (span : Duration) : Alongside (alike names) (alike names) (wait span) := by
  intro s
  rcases hw : wait span s with ⟨r, s₁⟩
  obtain ⟨⟨now, hs⟩, -⟩ := wait_cases hw
  refine ⟨[], hs ▸ (Made.refl s).with_others now s.breakers s.draws, ?_⟩
  rintro rest _ ⟨breakers, sent, hb, rfl⟩
  rw [wait_with, hw]
  refine ⟨rfl, breakers, sent, ?_, rfl⟩
  rwa [hs]

theorem alongside_draw : Alongside (alike names) (alike names) draw := by
  intro s
  refine ⟨[], (Made.refl s).with_others s.now s.breakers _, ?_⟩
  rintro rest _ ⟨breakers, sent, hb, rfl⟩
  exact ⟨rfl, breakers, sent, hb, rfl⟩

/-- What is drawn, and for how long to wait then, is the same in sessions that are alike. -/
theorem alongside_rest (p : RetryPolicy) (retry : Nat) :
    Alongside (alike names) (alike names) (p.rest wait draw retry) :=
  .bind alongside_draw (fun _ _ _ h => h) fun _ => alongside_wait _

theorem alongside_send (r : Request) : Alongside (alike names) (alike names) (send r) := by
  intro s
  obtain ⟨-, -, hm⟩ := send_cases (rfl : send r s = _)
  refine ⟨_, hm, ?_⟩
  rintro rest _ ⟨breakers, sent, hb, rfl⟩
  unfold send
  dsimp only
  rcases s.script with _ | ⟨a, script⟩
  · exact ⟨rfl, breakers, _, hb, rfl⟩
  · exact ⟨rfl, breakers, _, hb, rfl⟩

theorem alongside_guarded {α : Type} {operation : String} {body : Exchange (Except GatewayError α)}
    (ho : operation ∈ names) (hb : Alongside (alike names) (alike names) body) :
    Alongside (alike names) (alike names) (guarded operation body) := by
  intro s
  unfold guarded
  rcases he : s.breakers.enter operation s.now with ⟨_ | ticket, breakers⟩
  · refine ⟨[], (Made.refl s).with_others s.now breakers s.draws, ?_⟩
    rintro rest _ ⟨breakers', sent, ha, rfl⟩
    have h := ha.enter ho s.now
    dsimp only
    rcases he' : breakers'.enter operation s.now with ⟨r', after⟩
    rw [he, he'] at h
    obtain ⟨hr, ha⟩ := h
    obtain rfl : r' = none := hr
    exact ⟨rfl, after, sent, ha, rfl⟩
  · obtain ⟨trips, hm, hs⟩ := hb { s with breakers }
    dsimp only
    rcases hx : body { s with breakers } with ⟨r, s₁⟩
    rw [hx] at hm hs
    have hmade (breakers : Breaker.Registry) : s.Made trips { s₁ with breakers } :=
      hm.of_with_breakers.with_others s₁.now breakers s₁.draws
    refine ⟨trips, by rcases r <;> exact hmade _, ?_⟩
    rintro rest _ ⟨breakers', sent, ha, rfl⟩
    have h := ha.enter ho s.now
    dsimp only
    rcases he' : breakers'.enter operation s.now with ⟨r', after⟩
    rw [he, he'] at h
    obtain ⟨hr, ha⟩ := h
    obtain rfl : r' = some ticket := hr
    obtain ⟨hrun, h₁⟩ := hs rest _ ⟨after, sent, ha, rfl⟩
    dsimp only
    rcases hx' : body { s with breakers := after, sent } with ⟨r', s₁'⟩
    rw [hx'] at hrun h₁
    obtain rfl : r' = r := hrun
    obtain ⟨after', sent', ha', rfl⟩ := h₁
    have hset (v : Breaker.Verdict) := ha'.settle ho s₁.now ticket v
    rcases r' with _ | r
    · exact ⟨rfl, _, sent', hset _, rfl⟩
    · exact ⟨rfl, _, sent', hset _, rfl⟩

end Exchange

namespace Transport

variable (t : Transport) (c : Call)

theorem alongside_attempt : Alongside (alike names) (alike names) (t.attempt c) := by
  have hself (rest : List Trip) (s s' : Session) (h : alike names rest s s') :
      alike names rest s s' := h
  have hwait (span : Duration) (r : Except GatewayError Response) :
      Alongside (alike names) (alike names) (do Exchange.wait span; return r : Exchange _) :=
    .bind (Exchange.alongside_wait span) hself fun _ => .pure hself r
  unfold attempt
  dsimp only
  split
  · exact .pure hself _
  · refine .bind (Exchange.alongside_send _) hself fun a => ?_
    rcases a with ⟨status, body, delay⟩ | _ | _ | _ | causes
    · dsimp only
      split
      · exact hwait _ _
      · exact hwait _ _
    · exact hwait _ _
    · exact .pure hself _
    · exact .pure hself _
    · exact .pure hself _

theorem alongside_attemptFrom (p : RetryPolicy) : ∀ left n : Nat, Alongside (alike names)
    (alike names) (p.attemptFrom (t.attempt c) Exchange.wait Exchange.draw left n)
  | 0, _ => t.alongside_attempt c
  | left + 1, n => by
    refine .bind (t.alongside_attempt c) (fun _ _ _ h => h) fun r => ?_
    rcases r with e | r
    · dsimp only
      split
      · exact .bind (Exchange.alongside_rest p n) (fun _ _ _ h => h) fun _ =>
          alongside_attemptFrom p left (n + 1)
      · exact .pure (fun _ _ _ h => h) _
    · exact .pure (fun _ _ _ h => h) _

theorem alongside_execute (hc : c.operation ∈ names) :
    Alongside (alike names) (alike names) (t.execute c) :=
  Exchange.alongside_guarded hc (t.alongside_attemptFrom c _ _ _)

/-- A call finds in the one session what it finds in the other, if its breaker is among those that
they have in common. -/
theorem carries_alike (t : Transport) (names : List String) :
    Carries t fun F rest s s' => F.map Operation.name ⊆ names ∧ alike names rest s s' where
  fewer hF _ _ _ h := ⟨List.Subset.trans (List.map_subset _ hF) h.1, h.2⟩
  execute := by
    intro op F c hc ho s
    by_cases hn : c.operation ∈ names
    · obtain ⟨trips, hm, hs⟩ := t.alongside_execute c hn s
      refine ⟨trips, hm, fun rest s' h => ?_⟩
      obtain ⟨hr, ha⟩ := hs rest s' h.2
      exact ⟨hr, List.Subset.trans (List.subset_cons_self _ _) h.1, ha⟩
    · obtain ⟨trips, hm, -⟩ := (t.carried c s).made
      refine ⟨trips, hm, fun rest s' h => absurd ?_ hn⟩
      rw [hc.1]
      exact h.1 List.mem_cons_self

end Transport
end SecretBroker
