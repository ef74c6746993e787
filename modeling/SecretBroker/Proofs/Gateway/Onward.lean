import SecretBroker.Proofs.Gateway.Course

/-!
# What a call leaves alone

While something is asked of the gateway, time does not run backwards, and no breaker is touched but
those of the operations that are asked (`Session.Onward`): of a call, the one of its operation
(`onward_execute`), and so of all that is asked, those of the operations in it (`course_onward`).
-/

namespace SecretBroker

namespace Session

/-- From `s` to `s'` time goes on, and of the breakers those under `names` at most are touched. -/
structure Onward (names : List String) (s s' : Session) : Prop where
  now_le : s.now ≤ s'.now
  policy : s'.breakers.policy = s.breakers.policy
  others : ∀ n ∉ names, s'.breakers.find? n = s.breakers.find? n

namespace Onward

variable {names : List String} {s s' : Session}

instance : Std.Refl (Onward names) := ⟨fun _ => ⟨Nat.le_refl _, rfl, fun _ _ => rfl⟩⟩

instance : IsTrans Session (Onward names) where
  trans _ _ _ h h' := {
    now_le := Nat.le_trans h.now_le h'.now_le
    policy := h'.policy.trans h.policy
    others := fun n hn => (h'.others n hn).trans (h.others n hn) }

theorem mono {names' : List String} (h : Onward names s s') (hs : names ⊆ names') :
    Onward names' s s' :=
  { h with others := fun n hn => h.others n fun hm => hn (hs hm) }

theorem of_now {t : Instant} (h : s.now ≤ t) : Onward names s { s with now := t } :=
  ⟨h, rfl, fun _ _ => rfl⟩

variable {operation : String}

theorem set_breaker (h : Onward names s s') (ho : operation ∈ names) (b : Breaker) :
    Onward names s { s' with breakers := s'.breakers.set operation b } where
  now_le := h.now_le
  policy := h.policy
  others := by
    intro n hn
    have hne : n ≠ operation := fun he => hn (he ▸ ho)
    exact (s'.breakers.find?_set_of_ne hne b).trans (h.others n hn)

theorem enter (ho : operation ∈ names) (s : Session) :
    Onward names s { s with breakers := (s.breakers.enter operation s.now).2 } where
  now_le := Nat.le_refl _
  policy := s.breakers.enter_policy operation s.now
  others := by
    intro n hn
    have hne : n ≠ operation := fun he => hn (he ▸ ho)
    exact s.breakers.find?_enter_of_ne hne s.now

theorem get_eq (h : Onward names s s') {n : String} (hn : n ∉ names) :
    s'.breakers.get n = s.breakers.get n := by
  rw [Breaker.Registry.get, h.others n hn, Breaker.Registry.get]

end Onward
end Session

open Session

variable {names : List String}

namespace Exchange

theorem onward_wait (span : Duration) : Leads (Onward names) (wait span) := by
  intro s
  unfold wait
  dsimp only
  split
  · split
    · exact .of_now (Nat.le_max_left _ _)
    · exact .of_now (Nat.le_add_right _ _)
  · exact .of_now (Nat.le_add_right _ _)

theorem onward_draw : Leads (Onward names) draw := fun _ => ⟨Nat.le_refl _, rfl, fun _ _ => rfl⟩

theorem onward_rest (p : RetryPolicy) (retry : Nat) :
    Leads (Onward names) (p.rest wait draw retry) :=
  .bind onward_draw fun _ => onward_wait _

theorem onward_send (r : Request) : Leads (Onward names) (send r) := by
  intro s
  unfold send
  dsimp only
  split <;> exact ⟨Nat.le_refl _, rfl, fun _ _ => rfl⟩

theorem onward_guarded {α : Type} {operation : String} {body : Exchange (Except GatewayError α)}
    (ho : operation ∈ names) (hb : Leads (Onward names) body) :
    Leads (Onward names) (guarded operation body) := by
  intro s
  have hin := Onward.enter ho s
  unfold guarded
  rcases he : s.breakers.enter operation s.now with ⟨_ | ticket, breakers⟩
  · rw [he] at hin
    exact hin
  · rw [he] at hin
    have hs := IsTrans.trans _ _ _ hin (hb { s with breakers })
    dsimp only
    rcases hx : body { s with breakers } with ⟨_ | result, s₁⟩
    · rw [hx] at hs
      exact hs.set_breaker ho _
    · rw [hx] at hs
      exact hs.set_breaker ho _

end Exchange

namespace Transport

variable (t : Transport) (c : Call)

theorem onward_attempt : Leads (Onward names) (t.attempt c) := by
  unfold attempt
  dsimp only
  split
  · exact .pure _
  · refine .bind (Exchange.onward_send _) fun a => ?_
    rcases a with ⟨status, body, delay⟩ | _ | _ | _ | causes
    · dsimp only
      split
      · exact .bind (Exchange.onward_wait _) fun _ => .pure _
      · exact .bind (Exchange.onward_wait _) fun _ => .pure _
    · exact .bind (Exchange.onward_wait _) fun _ => .pure _
    · exact .pure _
    · exact .pure _
    · exact .pure _

theorem onward_attemptFrom (p : RetryPolicy) : ∀ left n : Nat,
    Leads (Onward names) (p.attemptFrom (t.attempt c) Exchange.wait Exchange.draw left n)
  | 0, _ => t.onward_attempt c
  | left + 1, n => by
    refine .bind (t.onward_attempt c) fun r => ?_
    rcases r with e | r
    · dsimp only
      split
      · exact .bind (Exchange.onward_rest p n) fun _ => onward_attemptFrom p left (n + 1)
      · exact .pure _
    · exact .pure _

theorem onward_execute (hc : c.operation ∈ names) : Leads (Onward names) (t.execute c) :=
  Exchange.onward_guarded hc (t.onward_attemptFrom c _ _ _)

end Transport

namespace Gateway

/-- The operations that are asked on the way to a consumer's id. -/
def resolving : Plane → List String
  | .admin => []
  | .cloud _ => [Operation.realmCheck, .realmCreate, .consumerResolve, .consumerSearch].map
      Operation.name

theorem map_stages (p : Plane) : (stages p).map Operation.name = resolving p := by
  rcases p with _ | p <;> rfl

/-- Of the breakers, those of the operations that are used are touched at most. -/
theorem course_onward (t : Transport) :
    Course t fun l => Onward (l.map Operation.name) where
  refl _ := Std.Refl.refl _
  trans h h' := by
    rw [List.map_append]
    exact IsTrans.trans _ _ _ (h.mono (List.subset_append_left _ _))
      (h'.mono (List.subset_append_right _ _))
  more hl h := h.mono (List.map_subset _ hl.subset)
  execute hc := t.onward_execute _ (hc.operation ▸ List.mem_singleton_self _)

end Gateway
end SecretBroker
