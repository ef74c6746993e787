import SecretBroker.Proofs.Gateway.Alongside
import SecretBroker.Proofs.Gateway.Disturbance
import SecretBroker.Proofs.Gateway.Patience

/-!
# The same once more

Where a gateway brings what it brought before, all that is asked of it comes to the same
(`carries_rerun`), and where only the body of the last answer differs, so does only what is read from
that body (`enquire_answered`). Nobody may walk away meanwhile, and the breakers must be closed as
before.
-/

namespace SecretBroker

/-- Asked for these trips in turn, the gateway brings what they brought. -/
def Session.Brings (s : Session) (trips : List Trip) : Prop :=
  ∀ i x, trips[i]? = some x → s.arrival i x.request = x.arrival

/-- Nobody is going to walk away, and the breakers of these operations let calls through. -/
structure Session.Ready (s : Session) (F : List Operation) : Prop where
  patient : s.Patient
  closed : ∀ op ∈ F, (s.breakers.get op.name).phase = .closed

/-- Both sessions are ready for the operations `F`, and the second brings the trips `rest`. -/
structure Session.Reruns (F : List Operation) (rest : List Trip) (s s' : Session) : Prop where
  ready : s.Ready F
  ready' : s'.Ready F
  brings : s'.Brings rest

section Trips
open Session

variable {s s' s₁ : Session} {l l' : List Trip}

theorem Session.Made.brings (h : s.Made l s') : s.Brings l :=
  fun i x hx => (h.arrival i x hx).symm

theorem Session.Brings.left (h : s.Brings (l ++ l')) : s.Brings l := by
  intro i x hx
  refine h i x ?_
  rw [List.getElem?_append_left (List.getElem?_eq_some_iff.1 hx).1]
  exact hx

theorem Session.Brings.right (h : s.Brings (l ++ l')) (hm : s.Made l s₁) : s₁.Brings l' := by
  intro i x hx
  rw [hm.arrival_add]
  refine h _ x ?_
  rw [List.getElem?_append_right (Nat.le_add_right _ _), Nat.add_sub_cancel_left]
  exact hx

theorem Session.Ready.fewer {F F' : List Operation} (h : s.Ready F) (hF : F' ⊆ F) : s.Ready F' where
  patient := h.patient
  closed := fun op ho => h.closed op (hF ho)

theorem Session.Ready.settle {op : Operation} {F : List Operation} {v : Breaker.Verdict}
    (h : s.Ready (op :: F)) (ho : op ∉ F) (hm : s.Made l s₁)
    (hb : s₁.breakers = s.breakers.settled op.name s₁.now v) : s₁.Ready F where
  patient := hm.deadline.trans h.patient
  closed := by
    intro o hF
    have hne : o.name ≠ op.name := fun he => ho (Operation.name_injective he ▸ hF)
    rw [hb, Breaker.Registry.get_settled_of_ne hne]
    exact h.closed o (List.mem_cons_of_mem _ hF)

end Trips

namespace Transport
open Session

variable {t : Transport} {c : Call} {s s' s₁ s₁' : Session} {n n' : Nat}

theorem ending_of_brings (h : s'.Brings (t.trips c s n)) {i : Nat} (hi : i < n) :
    t.ending c s' i = t.ending c s i := by
  unfold ending
  by_cases hu : (c.request t.agent).url.isHttp = true
  · rw [trips_of_isHttp hu] at h
    rw [if_pos hu, if_pos hu, h i ⟨c.request t.agent, s.arrival i (c.request t.agent)⟩]
    rw [List.getElem?_map, List.getElem?_range hi]
    rfl
  · rw [if_neg hu, if_neg hu]

theorem trips_of_brings (h : s'.Brings (t.trips c s n)) : t.trips c s' n = t.trips c s n := by
  by_cases hu : (c.request t.agent).url.isHttp = true
  · rw [trips_of_isHttp hu] at h ⊢
    rw [trips_of_isHttp hu]
    refine List.map_congr_left fun i hi => ?_
    rw [h i ⟨c.request t.agent, s.arrival i (c.request t.agent)⟩]
    rw [List.getElem?_map, List.getElem?_range (List.mem_range.1 hi)]
    rfl
  · rw [trips_of_not_isHttp hu, trips_of_not_isHttp hu]

/-- As many attempts are made where they end in the same. -/
theorem Tried.eq_of_ending (ht : t.Tried c (t.allowance c) s n s₁)
    (hl : n = t.allowance c ∨ isIndefinite (t.ending c s (n - 1)) = false)
    (ht' : t.Tried c (t.allowance c) s' n' s₁')
    (hl' : n' = t.allowance c ∨ isIndefinite (t.ending c s' (n' - 1)) = false)
    (he : ∀ i, i < n → t.ending c s' i = t.ending c s i) : n' = n := by
  have hpos := ht.pos
  have hpos' := ht'.pos
  have hle := ht.le
  have hle' := ht'.le
  rcases Nat.lt_trichotomy n' n with hlt | heq | hgt
  · rcases hl' with hl' | hl'
    · omega
    · rw [he _ (by omega), ht.indefinite (n' - 1) (by omega)] at hl'
      cases hl'
  · exact heq
  · rcases hl with hl | hl
    · omega
    · rw [← he _ (by omega), ht'.indefinite (n - 1) (by omega)] at hl
      cases hl

/-- A call comes to what it came to before. -/
theorem carries_rerun (t : Transport) : Carries t Reruns where
  fewer hF rest s s' h := ⟨h.ready.fewer hF, h.ready'.fewer hF, h.brings⟩
  execute := by
    intro op F c hc ho s
    have hcar := t.carried c s
    rcases hx : t.execute c s with ⟨r, s₁⟩
    rw [hx] at hcar
    by_cases hready : s.Ready (op :: F)
    swap
    · obtain ⟨trips, hm, -⟩ := hcar.made
      exact ⟨trips, hm, fun rest s' h => absurd h.ready hready⟩
    have hclosed {s : Session} (h : s.Ready (op :: F)) :
        (s.breakers.get c.operation).phase = .closed := by
      rw [hc.operation]
      exact h.closed op List.mem_cons_self
    obtain ⟨n, ht, hl, rfl, hb⟩ := hcar.of_closed hready.patient (hclosed hready)
    refine ⟨t.trips c s n, ht.made, fun rest s' h => ?_⟩
    have hcar' := t.carried c s'
    rcases hx' : t.execute c s' with ⟨r', s₁'⟩
    rw [hx'] at hcar'
    obtain ⟨n', ht', hl', rfl, hb'⟩ := hcar'.of_closed h.ready'.patient (hclosed h.ready')
    have hsame : ∀ i, i < n → t.ending c s' i = t.ending c s i :=
      fun i hi => ending_of_brings h.brings.left hi
    obtain rfl := ht.eq_of_ending hl ht' hl' hsame
    have hm' := ht'.made
    rw [trips_of_brings h.brings.left] at hm'
    rw [hc.operation] at hb hb'
    refine ⟨congrArg some (hsame _ ?_), hready.settle ho ht.made hb, h.ready'.settle ho hm' hb',
      h.brings.right hm'⟩
    exact Nat.sub_lt ht.pos Nat.one_pos

/-- The body of an answer with this status as it reaches whoever asked. -/
def bodyOf (status : Nat) (body : String) : String :=
  if status = 204 ∨ status = 304 then "" else body

/-- The body has no part in whether an answer is a response. -/
theorem outcome_answer {status : Nat} {body : String} {delay : Duration} {r : Response}
    (h : t.outcome c (.answer status body delay) = .ok r) :
    r = ⟨status, bodyOf status body⟩
      ∧ ∀ body', t.outcome c (.answer status body' delay) = .ok ⟨status, bodyOf status body'⟩ := by
  dsimp only [outcome] at h ⊢
  by_cases hlate : t.timeout c.method < delay
  · rw [if_pos hlate] at h
    cases h
  rw [if_neg hlate] at h
  by_cases hdown : 500 ≤ status
  · rw [if_pos hdown] at h
    cases h
  rw [if_neg hdown] at h
  refine ⟨(Except.ok.inj h).symm, fun body' => ?_⟩
  rw [if_neg hlate, if_neg hdown]
  rfl

/-- A call that was answered is answered with another body where the gateway brings that body. -/
theorem execute_answered {op : Operation} {r : Response} (hc : c.Belongs op) (hs : s.Ready [op])
    (h : t.execute c s = (some (.ok r), s₁)) :
    ∃ trips body delay,
      s.Made (trips ++ [⟨c.request t.agent, .answer r.status body delay⟩]) s₁
      ∧ r.body = bodyOf r.status body
      ∧ ∀ body' s', s'.Ready [op] →
        s'.Brings (trips ++ [⟨c.request t.agent, .answer r.status body' delay⟩]) →
        (t.execute c s').1 = some (.ok ⟨r.status, bodyOf r.status body'⟩) := by
  have hclosed {s : Session} (h : s.Ready [op]) :
      (s.breakers.get c.operation).phase = .closed := by
    rw [hc.operation]
    exact h.closed op List.mem_cons_self
  have hcar := t.carried c s
  rw [h] at hcar
  obtain ⟨n, ht, hl, hr, -⟩ := hcar.of_closed hs.patient (hclosed hs)
  obtain ⟨n, rfl⟩ := Nat.exists_eq_succ_of_ne_zero (Nat.ne_of_gt ht.pos)
  have hend : t.ending c s n = .ok r := (Option.some.inj hr).symm
  have hu : (c.request t.agent).url.isHttp = true := by
    by_contra hu
    rw [ending, if_neg hu] at hend
    cases hend
  rw [ending, if_pos hu] at hend
  obtain ⟨body, delay, ha⟩ := answer_of_outcome hend
  rw [ha] at hend
  obtain ⟨hbody, hother⟩ := outcome_answer hend
  have hmade := ht.made
  rw [trips_of_isHttp hu, List.range_succ, List.map_append, List.map_singleton, ha,
    ← trips_of_isHttp hu] at hmade
  refine ⟨t.trips c s n, body, delay, hmade, congrArg Response.body hbody, ?_⟩
  intro body' s' hs' hb
  have hlen : (t.trips c s n).length = n := by
    rw [trips_of_isHttp hu, List.length_map, List.length_range]
  have hlast : s'.arrival n (c.request t.agent) = .answer r.status body' delay := by
    refine hb n ⟨c.request t.agent, .answer r.status body' delay⟩ ?_
    rw [List.getElem?_append_right (Nat.le_of_eq hlen), hlen, Nat.sub_self]
    rfl
  have hend' : t.ending c s' n = .ok ⟨r.status, bodyOf r.status body'⟩ := by
    rw [ending, if_pos hu, hlast]
    exact hother body'
  have hcar' := t.carried c s'
  rcases hx' : t.execute c s' with ⟨r', s₁'⟩
  rw [hx'] at hcar'
  obtain ⟨n', ht', hl', rfl, -⟩ := hcar'.of_closed hs'.patient (hclosed hs')
  -- Before the answer nothing definite comes in either session.
  obtain rfl := ht'.eq_succ hl'
    (fun i hi => (ending_of_brings hb.left hi).symm ▸ ht.indefinite i (Nat.succ_lt_succ hi))
    (by rw [hend']; rfl) ht.le
  exact congrArg some hend'

end Transport

namespace Gateway
open Session

variable {g : Gateway} {op : Operation} {s s₁ : Session}

theorem enquire_of_answer {id consumer : String} {call : String → Except GatewayError Call}
    (read : String → Response → Except GatewayError (Option ConsumerSecret)) {c : Call} {r : Response}
    (hr : g.resolve id s = (some (.ok (some consumer)), s₁)) (hc : call consumer = .ok c)
    (ha : (g.transport.execute c s₁).1 = some (.ok r)) :
    (g.enquire id call read s).1 = some (read consumer r) := by
  have hput : (do let r ← g.ask (← call consumer); read consumer r : Inquiry _) s₁
      = (do let r ← g.ask c; read consumer r : Inquiry _) s₁ := by
    rw [hc]
    rfl
  rw [enquire, inquiry_bind_apply, hr]
  dsimp only
  rw [hput, inquiry_bind_apply]
  rcases hask : g.ask c s₁ with ⟨x, s₂⟩
  have hx : x = some (.ok r) := by
    rw [← ha]
    exact (congrArg Prod.fst hask).symm
  rw [hx]
  dsimp only
  rcases read consumer r with e | found
  · rfl
  · rfl

/-- Behind a secret that is found lies an answer whose body was read, and where another body comes in
its place, that body is read. -/
theorem enquire_answered {id : String} {call : String → Except GatewayError Call}
    {read : String → Response → Except GatewayError (Option ConsumerSecret)} {secret : ConsumerSecret}
    (hc : ∀ consumer c, call consumer = .ok c → c.Belongs op) (ho : op ∉ stages g.access.plane)
    (hs : s.Ready (stages g.access.plane ++ [op]))
    (h : g.enquire id call read s = (some (.ok (some secret)), s₁)) :
    ∃ consumer trips request status body delay,
      s.Made (trips ++ [⟨request, .answer status body delay⟩]) s₁
      ∧ read consumer ⟨status, Transport.bodyOf status body⟩ = .ok (some secret)
      ∧ ∀ body' s', s'.Ready (stages g.access.plane ++ [op]) →
        s'.Brings (trips ++ [⟨request, .answer status body' delay⟩]) →
        (g.enquire id call read s').1
          = some (read consumer ⟨status, Transport.bodyOf status body'⟩) := by
  rcases inquiry_bind_cases h with ⟨-, -, hr⟩ | ⟨found, s₂, hx, hf⟩
  · exact absurd rfl (hr _)
  rcases found with _ | consumer
  · cases hf
  rcases inquiry_lift_cases hf with ⟨-, hr⟩ | ⟨c, hcall, hf⟩
  · exact absurd rfl (hr _)
  rcases inquiry_bind_cases hf with ⟨-, -, hr⟩ | ⟨r, s₃, hask, hread⟩
  · exact absurd rfl (hr _)
  have hresponse : read consumer r = .ok (some secret) ∧ s₃ = s₁ := by
    rcases hx : read consumer r with e | found
    · rw [hx] at hread
      cases hread
    · rw [hx] at hread
      cases hread
      exact ⟨rfl, rfl⟩
  obtain ⟨hresponse, rfl⟩ := hresponse
  have hF : ∀ o ∈ stages g.access.plane, o ∉ [op] := by
    intro o hm hin
    rw [List.mem_singleton] at hin
    exact ho (hin ▸ hm)
  obtain ⟨trips, hmade, hsame⟩ :=
    alongside_resolve (Transport.carries_rerun g.transport) id hF s
  rw [hx] at hmade hsame
  have hready : s₂.Ready [op] := by
    obtain ⟨-, h₂⟩ := hsame [] s ⟨hs, hs, by rw [List.append_nil]; exact hmade.brings⟩
    exact h₂.ready
  obtain ⟨trips', body, delay, hmade', hbody, hother⟩ :=
    Transport.execute_answered (hc consumer c hcall) hready hask
  refine ⟨consumer, trips ++ trips', c.request g.transport.agent, r.status, body, delay, ?_, ?_, ?_⟩
  · rw [List.append_assoc]
    exact hmade.trans hmade'
  · rw [← hbody]
    exact hresponse
  intro body' s' hs' hb
  rw [List.append_assoc] at hb
  obtain ⟨he, h₂⟩ := hsame _ s' ⟨hs, hs', hb⟩
  have hanswer := hother body' _ h₂.ready' h₂.brings
  rcases hx' : g.resolve id s' with ⟨found, s₂'⟩
  rw [hx'] at he hanswer
  obtain rfl : found = some (.ok (some consumer)) := he
  exact enquire_of_answer read hx' hcall hanswer

end Gateway
end SecretBroker
