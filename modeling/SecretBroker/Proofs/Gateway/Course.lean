import SecretBroker.Proofs.Gateway.Resolving

/-!
# The course of a question

All that is asked of the gateway are calls, each of an operation of its own, and on the way to a
consumer's id they come in a fixed order (`stages`). So what holds across each call, and across two
parts done in turn, holds across the whole way (`Course.resolve`). `R l` relates two moments of a
session between which no operations are used but `l`, each once and in this order.
-/

namespace SecretBroker

/-- What the calls of an operation do. -/
def Operation.method : Operation → Method
  | .realmCreate => .post
  | .secretCreate => .post
  | _ => .get

/-- The call is one of the operation. Only the making of a credential must not be repeated. -/
structure Call.Belongs (c : Call) (op : Operation) : Prop where
  operation : c.operation = op.name
  method : c.method = op.method
  repeatable : c.repeatable = (op != .secretCreate)

namespace Gateway

variable {g : Gateway} {op : Operation}

theorem belongs_of_reading {url : Except GatewayError Url} {message : String} {c : Call}
    (h : g.reading op url message = .ok c) (hm : op.method = .get) : c.Belongs op := by
  obtain ⟨u, -, h⟩ := ok_of_bind h
  obtain ⟨headers, -, h⟩ := ok_of_bind h
  cases h
  refine ⟨rfl, hm.symm, ?_⟩
  cases op
  case secretCreate => cases hm
  all_goals rfl

theorem belongs_of_writing {url : Except GatewayError Url} {body : Json.Value} {message : String}
    {c : Call} (h : g.writing op url body message (op != .secretCreate) = .ok c)
    (hm : op.method = .post) : c.Belongs op := by
  obtain ⟨hop, hpost, -, hr⟩ := of_writing h
  exact ⟨hop, hpost.trans hm.symm, hr⟩

/-- The operations on the way to a consumer's id, in order. -/
def stages : Plane → List Operation
  | .admin => []
  | .cloud _ => [.realmCheck, .realmCreate, .consumerResolve, .consumerSearch]

/-- On the way nothing is asked about credentials. -/
theorem not_mem_stages (p : Plane) : .secretGet ∉ stages p ∧ .secretCreate ∉ stages p := by
  rcases p with _ | p
  · simp [stages]
  · simp [stages]

/-- A question about a consumer as far as the gateway has part in it: the consumer's id is resolved,
and one call is made about that id. -/
def enquire (g : Gateway) (id : String) (call : String → Except GatewayError Call)
    (read : String → Response → Except GatewayError (Option ConsumerSecret)) :
    Inquiry (Option ConsumerSecret) := do
  match ← g.resolve id with
  | none => return none
  | some consumer =>
    let r ← g.ask (← call consumer)
    read consumer r

end Gateway

/-- `R` holds across nothing, across two parts in turn, across more than was done, and across each
call. -/
structure Course (t : Transport) (R : List Operation → Session → Session → Prop) : Prop where
  refl : ∀ s, R [] s s
  trans : ∀ {l l' : List Operation} {s s₁ s' : Session}, R l s s₁ → R l' s₁ s' → R (l ++ l') s s'
  more : ∀ {l l' : List Operation} {s s' : Session}, l.Sublist l' → R l s s' → R l' s s'
  execute : ∀ {op : Operation} {c : Call}, c.Belongs op → Leads (R [op]) (t.execute c)

namespace Course

variable {g : Gateway} {R : List Operation → Session → Session → Prop} {l l' : List Operation}
  {op : Operation} {α β : Type} (hR : Course g.transport R)
include hR

theorem pure (l : List Operation) (a : α) : Leads (R l) (Pure.pure a : Exchange α) :=
  fun s => hR.more (List.nil_sublist l) (hR.refl s)

theorem bind {x : Inquiry α} {f : α → Inquiry β} (hx : Leads (R l) x)
    (hf : ∀ a, Leads (R l') (f a)) : Leads (R (l ++ l')) (x >>= f) := by
  have hl (s s' : Session) (h : R l s s') : R (l ++ l') s s' :=
    hR.more (List.sublist_append_left l l') h
  have ht (s s₁ s' : Session) (h : R l s s₁) (h' : R l' s₁ s') : R (l ++ l') s s' := hR.trans h h'
  exact .inquiry_seq hl ht hx hf

theorem bind_end {x : Inquiry α} {f : α → Inquiry β} (hx : Leads (R l) x)
    (hf : ∀ a, Leads (R []) (f a)) : Leads (R l) (x >>= f) := by
  have h := hR.bind hx hf
  rwa [List.append_nil] at h

theorem lift {x : Except GatewayError α} {f : α → Inquiry β}
    (hf : ∀ a, x = .ok a → Leads (R l) (f a)) : Leads (R l) (liftM x >>= f : Inquiry β) := by
  rcases x with e | a
  · exact hR.pure l _
  · exact hf a rfl

/-- What begins with a call, and goes on from its response. -/
theorem asked {call : Except GatewayError Call} {f : Call → Response → Inquiry α}
    (hc : ∀ c, call = .ok c → c.Belongs op) (hf : ∀ c response, Leads (R l) (f c response)) :
    Leads (R (op :: l))
      (do let c ← liftM call; let response ← g.ask c; f c response : Inquiry α) :=
  hR.lift fun c h => hR.bind (l := [op]) (hR.execute (hc c h)) (hf c)

theorem createRealm (p : ControlPlane) : Leads (R [.realmCreate]) (g.createRealm p) := by
  refine hR.asked (fun c hc => Gateway.belongs_of_writing hc rfl) fun c r => ?_
  split
  · exact hR.pure [] _
  · exact hR.pure [] _

theorem ensureRealm (p : ControlPlane) :
    Leads (R [.realmCheck, .realmCreate]) (g.ensureRealm p) := by
  refine hR.asked (fun c hc => Gateway.belongs_of_reading hc rfl) fun c r => ?_
  split
  · exact hR.pure _ _
  · split
    · exact hR.createRealm p
    · exact hR.pure _ _

theorem search (name : String) : Leads (R [.consumerSearch]) (g.search name) := by
  refine hR.lift fun c hc => hR.bind_end (fun s => ?_) fun x => ?_
  · have hs := hR.execute (Gateway.belongs_of_reading hc rfl) s
    rwa [lift_apply]
  · split
    · exact hR.pure [] _
    · exact hR.pure [] _
    · exact hR.pure [] _

theorem lookUp (id : String) :
    Leads (R [.consumerResolve, .consumerSearch]) (g.lookUp id) := by
  refine hR.asked (fun c hc => Gateway.belongs_of_reading hc rfl) fun c r => ?_
  split
  · exact hR.lift fun _ _ => hR.pure _ _
  · split
    · exact hR.search id
    · exact hR.pure _ _

theorem resolve (id : String) : Leads (R (Gateway.stages g.access.plane)) (g.resolve id) := by
  unfold Gateway.resolve
  rcases g.access.plane with _ | p
  · exact hR.pure [] _
  · exact hR.bind (hR.ensureRealm p) fun _ => hR.lookUp id

theorem ask {call : Except GatewayError Call} (hc : ∀ c, call = .ok c → c.Belongs op) :
    Leads (R [op]) (do g.ask (← call) : Inquiry Response) :=
  hR.lift fun c h => hR.execute (hc c h)

theorem enquire (id : String) {call : String → Except GatewayError Call}
    (hc : ∀ consumer c, call consumer = .ok c → c.Belongs op)
    (read : String → Response → Except GatewayError (Option ConsumerSecret)) :
    Leads (R (Gateway.stages g.access.plane ++ [op])) (g.enquire id call read) := by
  refine hR.bind (hR.resolve id) fun found => ?_
  rcases found with _ | consumer
  · exact hR.pure _ _
  · refine hR.asked (hc consumer) fun c response => ?_
    rcases read consumer response with e | secret
    · exact hR.pure [] _
    · exact hR.pure [] _

end Course
end SecretBroker
