import SecretBroker.Proofs.Gateway.Course

/-!
# Two runs side by side

What is asked of the gateway in two sessions comes to the same if the sessions are enough alike. What
counts as alike is left open here: `R F rest` relates two sessions of which the first has the trips
`rest` before it and the breakers of the operations `F` still to use. If a family `R` carries each
call (`Carries`), it carries all that is asked of the gateway (`alongside_resolve`,
`alongside_enquire`), for every operation has its place there and none comes twice.
-/

namespace SecretBroker

/-- The relation between two sessions while these trips of the first are still to be made. -/
abbrev Likeness := List Trip → Session → Session → Prop

/-- Where `R` relates another session to the one in which `x` is done, `x` comes to the same there,
and `R'` relates the sessions then. -/
def Alongside {α : Type} (R R' : Likeness) (x : Session → α × Session) : Prop :=
  ∀ s, ∃ trips, s.Made trips (x s).2 ∧ ∀ rest s', R (trips ++ rest) s s' →
    (x s').1 = (x s).1 ∧ R' rest (x s).2 (x s').2

namespace Alongside

variable {α β ε : Type} {R R₁ R' : Likeness}

theorem pure (h : ∀ rest s s', R rest s s' → R' rest s s') (a : α) :
    Alongside R R' (Pure.pure a : Exchange α) :=
  fun s => ⟨[], .refl s, fun rest s' hs => ⟨rfl, h rest s s' hs⟩⟩

/-- If `x` ends without a result in one session, it does so in the other. -/
theorem bind {x : Exchange α} {f : α → Exchange β} (hx : Alongside R R₁ x)
    (hl : ∀ rest s s', R₁ rest s s' → R' rest s s') (hf : ∀ a, Alongside R₁ R' (f a)) :
    Alongside R R' (x >>= f : Exchange β) := by
  intro s
  obtain ⟨trips, hm, hs⟩ := hx s
  rw [bind_apply]
  rcases hr : x s with ⟨_ | a, s₁⟩
  · rw [hr] at hm hs
    refine ⟨trips, hm, fun rest s' h => ?_⟩
    obtain ⟨he, h₁⟩ := hs rest s' h
    rw [bind_apply]
    rcases hr' : x s' with ⟨r', s₁'⟩
    rw [hr'] at he h₁
    obtain rfl : r' = none := he
    exact ⟨rfl, hl _ _ _ h₁⟩
  · rw [hr] at hm hs
    obtain ⟨trips', hm', hs'⟩ := hf a s₁
    refine ⟨trips ++ trips', hm.trans hm', fun rest s' h => ?_⟩
    rw [List.append_assoc] at h
    obtain ⟨he, h₁⟩ := hs _ s' h
    rw [bind_apply]
    rcases hr' : x s' with ⟨r', s₁'⟩
    rw [hr'] at he h₁
    obtain rfl : r' = some a := he
    exact hs' rest s₁' h₁

theorem lift {x : Exchange α} (hx : Alongside R R' x) :
    Alongside R R' (ExceptT.lift x : ExceptT ε Exchange α) := by
  intro s
  obtain ⟨trips, hm, hs⟩ := hx s
  rw [lift_apply]
  refine ⟨trips, hm, fun rest s' h => ?_⟩
  rw [lift_apply]
  obtain ⟨he, h'⟩ := hs rest s' h
  exact ⟨congrArg (Option.map Except.ok) he, h'⟩

theorem of_except (hl : ∀ rest s s', R rest s s' → R' rest s s') (x : Except ε α) :
    Alongside R R' (liftM x : ExceptT ε Exchange α) := by
  rcases x with e | a
  · exact .pure hl _
  · exact .pure hl _

section
variable {f : α → ExceptT ε Exchange β}

theorem inquiry_bind {x : ExceptT ε Exchange α} (hx : Alongside R R₁ x)
    (hl : ∀ rest s s', R₁ rest s s' → R' rest s s') (hf : ∀ a, Alongside R₁ R' (f a)) :
    Alongside R R' (x >>= f : ExceptT ε Exchange β) := by
  refine bind (x := x) (f := ExceptT.bindCont f) hx hl fun r => ?_
  rcases r with e | a
  · exact .pure hl _
  · exact hf a

theorem inquiry_lift {x : Except ε α} (hl : ∀ rest s s', R rest s s' → R' rest s s')
    (hf : ∀ a, x = .ok a → Alongside R R' (f a)) :
    Alongside R R' (liftM x >>= f : ExceptT ε Exchange β) := by
  rcases x with e | a
  · exact .pure hl _
  · exact hf a rfl

end
end Alongside

/-- Each call comes to the same in two sessions that are alike, as long as its operation is still to
be used; and sessions that are alike with more operations to use are so with fewer. -/
structure Carries (t : Transport) (R : List Operation → Likeness) : Prop where
  fewer : ∀ {F F' : List Operation}, F' ⊆ F → ∀ rest s s', R F rest s s' → R F' rest s s'
  execute : ∀ {op : Operation} {F : List Operation} {c : Call}, c.Belongs op → op ∉ F →
    Alongside (R (op :: F)) (R F) (t.execute c)

namespace Gateway

variable {g : Gateway} {R : List Operation → Likeness} {F F' : List Operation} {op : Operation}

theorem alongside_asked (hR : Carries g.transport R) {α : Type} {call : Except GatewayError Call}
    {f : Call → Response → Inquiry α} (hc : ∀ c, call = .ok c → c.Belongs op) (ho : op ∉ F)
    (hF : F' ⊆ F) (hf : ∀ c response, Alongside (R F) (R F') (f c response)) :
    Alongside (R (op :: F)) (R F')
      (do let c ← liftM call; let response ← g.ask c; f c response : Inquiry α) :=
  .inquiry_lift (hR.fewer (List.subset_cons_of_subset op hF)) fun c h =>
    .inquiry_bind (hR.execute (hc c h) ho) (hR.fewer hF) (hf c)

theorem alongside_ask (hR : Carries g.transport R) {call : Except GatewayError Call}
    (hc : ∀ c, call = .ok c → c.Belongs op) (ho : op ∉ F) :
    Alongside (R (op :: F)) (R F) (do g.ask (← call) : Inquiry Response) :=
  .inquiry_lift (hR.fewer (List.subset_cons_self _ _)) fun c h => hR.execute (hc c h) ho

section
variable (hR : Carries g.transport R)
include hR

theorem alongside_createRealm (p : ControlPlane) (ho : .realmCreate ∉ F) :
    Alongside (R (.realmCreate :: F)) (R F) (g.createRealm p) := by
  refine alongside_asked hR (fun c hc => belongs_of_writing hc rfl) ho (List.Subset.refl F)
    fun c r => ?_
  split
  · exact .pure (fun _ _ _ h => h) _
  · exact .pure (fun _ _ _ h => h) _

theorem alongside_ensureRealm (p : ControlPlane) (hc : .realmCheck ∉ F) (ho : .realmCreate ∉ F) :
    Alongside (R (.realmCheck :: .realmCreate :: F)) (R F) (g.ensureRealm p) := by
  have hl := hR.fewer (List.subset_cons_self Operation.realmCreate F)
  refine alongside_asked hR (fun c hc => belongs_of_reading hc rfl) (by simp [hc])
    (List.subset_cons_self _ _) fun c r => ?_
  split
  · exact .pure hl _
  · split
    · exact alongside_createRealm hR p ho
    · exact .pure hl _

theorem alongside_search (name : String) (ho : .consumerSearch ∉ F) :
    Alongside (R (.consumerSearch :: F)) (R F) (g.search name) := by
  refine .inquiry_lift (hR.fewer (List.subset_cons_self _ _)) fun c hc => .inquiry_bind
    (.lift (hR.execute (belongs_of_reading hc rfl) ho)) (fun _ _ _ h => h) fun x => ?_
  split
  · exact .pure (fun _ _ _ h => h) _
  · exact .pure (fun _ _ _ h => h) _
  · exact .pure (fun _ _ _ h => h) _

theorem alongside_lookUp (id : String) (hr : .consumerResolve ∉ F) (ho : .consumerSearch ∉ F) :
    Alongside (R (.consumerResolve :: .consumerSearch :: F)) (R F) (g.lookUp id) := by
  have hl := hR.fewer (List.subset_cons_self Operation.consumerSearch F)
  refine alongside_asked hR (fun c hc => belongs_of_reading hc rfl) (by simp [hr])
    (List.subset_cons_self _ _) fun c r => ?_
  split
  · exact .inquiry_lift hl fun _ _ => .pure hl _
  · split
    · exact alongside_search hR id ho
    · exact .pure hl _

end

theorem alongside_resolve (hR : Carries g.transport R) (id : String)
    (hF : ∀ op ∈ stages g.access.plane, op ∉ F) :
    Alongside (R (stages g.access.plane ++ F)) (R F) (g.resolve id) := by
  unfold resolve
  rcases hp : g.access.plane with _ | p
  · exact .pure (fun _ _ _ h => h) _
  · rw [hp] at hF
    simp only [stages, List.forall_mem_cons] at hF
    obtain ⟨hcheck, hcreate, hlookUp, hsearch, -⟩ := hF
    refine .inquiry_bind (alongside_ensureRealm hR p (by simp [hcheck]) (by simp [hcreate]))
      (hR.fewer (List.Subset.trans (List.subset_cons_self _ _) (List.subset_cons_self _ _)))
      fun _ => ?_
    exact alongside_lookUp hR id hlookUp hsearch

theorem alongside_enquire (hR : Carries g.transport R) (id : String)
    {call : String → Except GatewayError Call} (hc : ∀ consumer c, call consumer = .ok c → c.Belongs op)
    (ho : op ∉ stages g.access.plane)
    (read : String → Response → Except GatewayError (Option ConsumerSecret)) :
    Alongside (R (stages g.access.plane ++ [op])) (R []) (g.enquire id call read) := by
  have hl := hR.fewer (List.nil_subset [op])
  refine .inquiry_bind (alongside_resolve hR id fun o hm => ?_) hl fun found => ?_
  · rw [List.mem_singleton]
    rintro rfl
    exact ho hm
  · rcases found with _ | consumer
    · exact .pure hl _
    · exact alongside_asked hR (hc consumer) List.not_mem_nil (List.Subset.refl []) fun c r =>
        .of_except (fun _ _ _ h => h) _

end Gateway
end SecretBroker
