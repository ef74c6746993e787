import SecretBroker.Proofs.Gateway.Course

/-!
# Waiting to the end

A call is given up at the deadline of the session only. Where there is none every call comes to a
result, and so does all that is made of calls. None of it sets a deadline.
-/

namespace SecretBroker

/-- Nobody walks away. -/
def Session.Patient (s : Session) : Prop := s.deadline = none

theorem Transport.returns_execute (t : Transport) (c : Call) :
    Returns Session.Patient (t.execute c) := by
  intro s hs
  have hc := t.carried c s
  rcases hx : t.execute c s with ⟨r, s'⟩
  rw [hx] at hc
  obtain ⟨trips, hm, -⟩ := hc.made
  refine ⟨?_, hm.deadline.trans hs⟩
  rintro rfl
  generalize hr : (none : Option (Except GatewayError Response)) = r at hc
  rcases hc with _ | _ | ⟨hdead, -, -, -⟩
  · cases hr
  · cases hr
  · exact hdead hs

namespace Gateway

variable (g : Gateway)

/-- What a call that may not have come about ends in. -/
def put (g : Gateway) (call : Except GatewayError Call) : Inquiry Response := do g.ask (← call)

theorem returns_ask (c : Call) : Returns Session.Patient (g.ask c) :=
  g.transport.returns_execute c

theorem returns_put (call : Except GatewayError Call) : Returns Session.Patient (g.put call) :=
  .inquiry_lift g.returns_ask

theorem returns_createRealm (p : ControlPlane) : Returns Session.Patient (g.createRealm p) := by
  refine .inquiry_lift fun c => .inquiry_bind (g.returns_ask c) fun r => ?_
  split
  · exact .pure _
  · exact .pure _

theorem returns_ensureRealm (p : ControlPlane) : Returns Session.Patient (g.ensureRealm p) := by
  refine .inquiry_lift fun c => .inquiry_bind (g.returns_ask c) fun r => ?_
  split
  · exact .pure _
  · split
    · exact g.returns_createRealm p
    · exact .pure _

theorem returns_search (name : String) : Returns Session.Patient (g.search name) := by
  refine .inquiry_lift fun c => .inquiry_bind (fun s hs => ?_) fun r => ?_
  · obtain ⟨hr, hs'⟩ := g.transport.returns_execute c s hs
    rw [lift_apply]
    exact ⟨mt Option.map_eq_none_iff.1 hr, hs'⟩
  · split
    · exact .pure _
    · exact .pure _
    · exact .pure _

theorem returns_lookUp (id : String) : Returns Session.Patient (g.lookUp id) := by
  refine .inquiry_lift fun c => .inquiry_bind (g.returns_ask c) fun r => ?_
  split
  · exact .inquiry_lift fun _ => .pure _
  · split
    · exact g.returns_search id
    · exact .pure _

theorem returns_resolve (id : String) : Returns Session.Patient (g.resolve id) := by
  unfold resolve
  rcases g.access.plane with _ | p
  · exact .pure _
  · exact .inquiry_bind (g.returns_ensureRealm p) fun _ => g.returns_lookUp id

theorem returns_enquire (id : String) (call : String → Except GatewayError Call)
    (read : String → Response → Except GatewayError (Option ConsumerSecret)) :
    Returns Session.Patient (g.enquire id call read) := by
  refine .inquiry_bind (g.returns_resolve id) fun found => ?_
  rcases found with _ | consumer
  · exact .pure _
  · refine .inquiry_lift fun c => .inquiry_bind (g.returns_ask c) fun r => ?_
    rcases read consumer r with e | secret
    · exact .pure _
    · exact .pure _

end Gateway
end SecretBroker
