import SecretBroker.Proofs.Command.Masking
import SecretBroker.Proofs.Gateway.Echo

/-!
# What a failure tells of a new secret

A new secret is posted to the gateway, and what the gateway answers may have the secret in it. An
error quotes that answer: the start of a body that came with a status without use, or what the reader
of a body complains of (`Broker.quoted`). It tells nothing else of the secret. Where two secrets are
answered alike but for the body, the errors have the same text, and the command prints the same, if
and only if what is quoted is the same (`Invocation.failure_tells`). A gateway that echoes what is posted
has the secret printed, mask or no mask (`Invocation.echo_printed`).
-/

namespace SecretBroker

namespace Broker

/-- What an error quotes of the response to the creation of a credential, where it is an error. -/
def quoted : Except GatewayError Response → Option String
  | .error _ => none
  | .ok r =>
    if r.status = 404 then none
    else if r.isSuccess then
      match Json.decode ConsumerSecret.reader r.body with
      | .ok _ => none
      | .error c => some c.message
    else some (GatewayError.shortened r.body)

/-- The error that quotes this of a response. -/
def quoting (status : Nat) (text : String) : GatewayError :=
  if 200 ≤ status ∧ status ≤ 299 then .invalidResponse Operation.secretCreate.name text
  else .unexpectedStatus Operation.secretCreate.name status text

theorem quoting_injective {status : Nat} {text text' : String}
    (h : (quoting status text).message = (quoting status text').message) : text = text' := by
  by_cases hs : 200 ≤ status ∧ status ≤ 299
  · rw [quoting, quoting, if_pos hs, if_pos hs] at h
    exact (String.append_right_inj _).1 h
  · rw [quoting, quoting, if_neg hs, if_neg hs] at h
    exact (String.append_right_inj _).1 h

theorem createdIn_error_iff {r : Response} {consumer : String} {e : GatewayError} :
    createdIn r consumer = .error e
      ↔ ∃ text, quoted (.ok r) = some text ∧ quoting r.status text = e := by
  by_cases h404 : r.status = 404
  · rw [createdIn, quoted, if_pos h404, if_pos h404]
    simp only [reduceCtorEq, false_and, exists_false]
  by_cases hok : r.isSuccess = true
  · have hs : 200 ≤ r.status ∧ r.status ≤ 299 := r.isSuccess_iff.1 hok
    simp only [createdIn, quoted, if_neg h404, if_pos hok, Response.decode, quoting, if_pos hs]
    rcases Json.decode ConsumerSecret.reader r.body with c | secret
    · simp only [Except.mapError, Except.map, Except.error.injEq, Option.some.injEq,
        exists_eq_left']
    · simp only [Except.mapError, Except.map, reduceCtorEq, false_and, exists_false]
  · have hs : ¬ (200 ≤ r.status ∧ r.status ≤ 299) := mt r.isSuccess_iff.2 hok
    simp only [createdIn, quoted, if_neg h404, if_neg hok, quoting, if_neg hs, Response.unexpected,
      GatewayError.unexpected, Except.error.injEq, Option.some.injEq, exists_eq_left']

theorem createdIn_ok {r : Response} {consumer : String} {found : Option ConsumerSecret}
    (h : createdIn r consumer = .ok found) :
    quoted (.ok r) = none ∧ (if r.status = 404 then found = none else found ≠ none) := by
  constructor
  · rw [Option.eq_none_iff_forall_ne_some]
    intro text hq
    have he : createdIn r consumer = .error (quoting r.status text) :=
      createdIn_error_iff.2 ⟨text, hq, rfl⟩
    rw [h] at he
    cases he
  · unfold createdIn at h
    split at h
    · rw [if_pos ‹_›]
      exact (Except.ok.inj h).symm
    rw [if_neg ‹_›]
    split at h
    · obtain ⟨s, -, rfl⟩ := map_eq_ok.1 h
      exact Option.some_ne_none _
    · cases h

variable (b : Broker) (id : String)

/-- Two new credentials may be posted, each from the moment at which the consumer was found, by this
call or the same with the other in it, and these arrivals are next. -/
inductive Posts (s : Session) (fresh fresh' : NewCredential) : Call → Arrival → Arrival → Prop
  | intro {consumer : String} {mid : Session} {c : Call}
    (found : b.gateway.resolve id s = (some (.ok (some consumer)), mid))
    (made : b.createCall id fresh consumer = .ok c) :
    Posts s fresh fresh' c (mid.arrival 0 (c.request b.gateway.transport.agent))
      (mid.arrival 0 ((c.posting fresh'.toJson).request b.gateway.transport.agent))

variable {b id}

theorem createCall_posting {fresh : NewCredential} {consumer : String} {c : Call}
    (h : b.createCall id fresh consumer = .ok c) (fresh' : NewCredential) :
    c.repeatable = false ∧ c.posting fresh.toJson = c
      ∧ b.createCall id fresh' consumer = .ok (c.posting fresh'.toJson) := by
  unfold createCall Gateway.writing at h ⊢
  obtain ⟨url, hu, h⟩ := ok_of_bind h
  obtain ⟨headers, hh, h⟩ := ok_of_bind h
  cases h
  rw [hu, hh]
  exact ⟨rfl, rfl, rfl⟩

theorem createCall_error {fresh : NewCredential} {consumer : String} {e : GatewayError}
    (h : b.createCall id fresh consumer = .error e) (fresh' : NewCredential) :
    b.createCall id fresh' consumer = .error e := by
  unfold createCall Gateway.writing at h ⊢
  rcases error_of_bind h with hu | ⟨url, hu, h⟩
  · rw [hu]
    rfl
  rcases error_of_bind h with hh | ⟨headers, -, h⟩
  · rw [hu, hh]
    rfl
  · cases h

theorem asked_fst {g : Gateway} {c : Call} {α : Type} (read : Response → Except GatewayError α)
    (s : Session) : ((do let r ← g.ask c; read r : Inquiry α) s).1
      = (g.transport.execute c s).1.map (· >>= read) := by
  rw [inquiry_bind_apply]
  rcases hx : g.transport.execute c s with ⟨r, s'⟩
  have ha : g.ask c s = (r, s') := hx
  rw [ha]
  rcases r with _ | e | r
  · rfl
  · rfl
  · change ((liftM (read r) : Inquiry α) s').1 = some (read r)
    rcases read r with e | a <;> rfl

theorem create_fst (b : Broker) (id : String) (fresh : NewCredential) (s : State) :
    (b.create id fresh s).1
      = (b.gateway.enquire id (b.createCall id fresh) (fun consumer r => createdIn r consumer)
        s.session).1 := by
  rw [create_apply]
  rfl

theorem create_alike (s : State) (fresh fresh' : NewCredential) :
    (b.create id fresh' s).1 = (b.create id fresh s).1
    ∨ ∃ c a a', b.Posts id s.session fresh fresh' c a a' ∧ (a.bare = a'.bare →
      ∃ consumer, let read r := createdIn r consumer
        (b.create id fresh s).1 = some (b.gateway.transport.outcome c a >>= read)
        ∧ (b.create id fresh' s).1 = some (b.gateway.transport.outcome c a' >>= read)) := by
  rw [create_fst, create_fst, Gateway.enquire, Gateway.enquire, inquiry_bind_apply,
    inquiry_bind_apply]
  rcases hres : b.gateway.resolve id s.session with ⟨_ | e | _ | consumer, mid⟩
  · exact .inl rfl
  · exact .inl rfl
  · exact .inl rfl
  dsimp only
  rcases hc : b.createCall id fresh consumer with e | c
  · rw [createCall_error hc fresh']
    exact .inl rfl
  obtain ⟨hr, hp, hc'⟩ := createCall_posting hc fresh'
  rw [hc']
  have hasked (c : Call) : ((do
      let r ← b.gateway.ask (← (.ok c : Except GatewayError Call))
      createdIn r consumer : Inquiry (Option ConsumerSecret)) mid).1
      = (b.gateway.transport.execute c mid).1.map (· >>= fun r => createdIn r consumer) :=
    asked_fst (fun r => createdIn r consumer) mid
  rw [hasked, hasked]
  have hposted := b.gateway.transport.execute_posting hr mid fresh.toJson fresh'.toJson
  rw [hp] at hposted
  rcases hposted with hsame | hposted
  · left
    rw [hsame]
  · refine .inr ⟨c, _, _, .intro hres hc, fun hb => ⟨consumer, ?_⟩⟩
    obtain ⟨h, h'⟩ := hposted hb
    rw [h, h']
    exact ⟨rfl, rfl⟩

variable {t : Transport} {c : Call} {a a' : Arrival} {consumer : String} {e : GatewayError}

/-- What is read of two answers alike but for the body: the same error if the same is quoted, and if
not, no error with the same text. -/
theorem outcome_tells (hb : a.bare = a'.bare)
    (h : (t.outcome c a >>= fun r => createdIn r consumer) = .error e) :
    (quoted (t.outcome c a') = quoted (t.outcome c a) →
        (t.outcome c a' >>= fun r => createdIn r consumer) = .error e)
      ∧ ∀ e', (t.outcome c a' >>= fun r => createdIn r consumer) = .error e' →
        e'.message = e.message → quoted (t.outcome c a') = quoted (t.outcome c a) := by
  rcases Transport.outcome_bare hb with hsame | ⟨status, body, body', ho, ho'⟩
  · rw [hsame]
    exact ⟨fun _ => h, fun _ _ _ => rfl⟩
  rw [ho] at h
  rw [ho, ho']
  obtain ⟨text, hq, rfl⟩ := createdIn_error_iff.1 h
  rw [hq]
  refine ⟨fun hq' => createdIn_error_iff.2 ⟨text, hq', rfl⟩, fun e' h' hm => ?_⟩
  obtain ⟨text', hq', rfl⟩ := createdIn_error_iff.1 h'
  rw [hq', quoting_injective hm]

end Broker

namespace Report

theorem troubles_failed (f : Failure) : (failed f).troubles = f.told := by
  simp [troubles, failed]

end Report

namespace Invocation

variable {i : Invocation} {w : Surroundings} {consumer : String} {inClear : Bool}

theorem troubles_secretReport (asJson : Bool) (s : ConsumerSecret) :
    (secretReport asJson consumer inClear (some s)).troubles = "" := by
  rcases s with ⟨id, key, secret, _ | owner⟩ <;> rcases asJson with _ | _ <;> rfl

/-- What stands on the channel for troubles of a response to the creation of a credential. -/
theorem troubles_createdIn (asJson : Bool) (owner : String) (r : Response) :
    (answerTo asJson consumer (some (Broker.createdIn r owner))).troubles
      = match Broker.quoted (.ok r) with
        | some text => "Error: " ++ (Broker.quoting r.status text).message ++ "\n"
        | none => if r.status = 404 then (secretReport asJson consumer false none).troubles else "" := by
  rcases hx : Broker.createdIn r owner with e | found
  · obtain ⟨text, hq, rfl⟩ := Broker.createdIn_error_iff.1 hx
    have hcauses : (Broker.quoting r.status text).causes = [] := by
      unfold Broker.quoting
      split <;> rfl
    simp only [hq]
    change (Report.failed (Broker.quoting r.status text).toFailure).troubles = _
    rw [Report.troubles_failed, Failure.told, GatewayError.toFailure, hcauses, String.append_empty]
  · obtain ⟨hq, hfound⟩ := Broker.createdIn_ok hx
    simp only [hq]
    split at hfound
    · rw [if_pos ‹_›, hfound]
      rfl
    · rw [if_neg ‹_›]
      obtain ⟨s, rfl⟩ := Option.ne_none_iff_exists'.1 hfound
      exact troubles_secretReport asJson s

theorem run_create {settings : Settings} {b : Broker} (hc : i.command = .createSecret consumer false)
    (hp : i.prepare w = .ok (settings, b)) : (i.run w).1
      = answerTo i.asJson consumer (b.create consumer w.fresh (startState w settings)).1 := by
  rw [Broker.create_fst]
  exact congrArg Prod.fst (asks_create hc hp w.session)

/-- Where two responses have one status, the same stands on the channel for troubles if and only if
the same is quoted. -/
theorem troubles_createdIn_iff (asJson : Bool) (owner : String) {r r' : Response}
    (hs : r'.status = r.status) :
    (answerTo asJson consumer (some (Broker.createdIn r' owner))).troubles
        = (answerTo asJson consumer (some (Broker.createdIn r owner))).troubles
      ↔ Broker.quoted (.ok r') = Broker.quoted (.ok r) := by
  -- Something quoted is neither nothing nor what is said of a consumer who is not there.
  have hsaid {r : Response} {text : String} (hq : Broker.quoted (.ok r) = some text) (said : String) :
      (if r.status = 404 then said else "")
        ≠ "Error: " ++ (Broker.quoting r.status text).message ++ "\n" := by
    have h404 : r.status ≠ 404 := by
      intro h404
      rw [Broker.quoted, if_pos h404] at hq
      cases hq
    rw [if_neg h404]
    intro he
    have hlen := congrArg String.length he
    rw [String.length_append, String.length_append] at hlen
    have : "Error: ".length = 7 := rfl
    have : "".length = 0 := rfl
    omega
  rw [troubles_createdIn, troubles_createdIn]
  rcases hq : Broker.quoted (.ok r) with _ | text <;>
    rcases hq' : Broker.quoted (.ok r') with _ | text'
  · simp only [hs]
  · dsimp only
    rw [← hs]
    exact iff_of_false (hsaid hq' _).symm nofun
  · dsimp only
    rw [hs]
    exact iff_of_false (hsaid hq _) nofun
  · dsimp only
    rw [hs, Option.some.injEq]
    constructor
    · intro h
      exact Broker.quoting_injective
        ((String.append_right_inj _).1 ((String.append_left_inj _).1 h))
    · rintro rfl
      rfl

/-- What an error of a creation says, and what a command prints of its troubles with one, is the same
for another secret, unless both secrets were posted. Then, if what arrives is alike but for the body of
an answer, it is the same if and only if what is quoted is. -/
theorem failure_tells (consumer : String) (fresh' : NewCredential) :
    (∀ (b : Broker) (s : Broker.State) (fresh : NewCredential) (e : GatewayError),
      (b.create consumer fresh s).1 = some (.error e) →
      (b.create consumer fresh' s).1 = some (.error e)
      ∨ ∃ c a a', b.Posts consumer s.session fresh fresh' c a a' ∧ (a.bare = a'.bare →
        ((∃ e', (b.create consumer fresh' s).1 = some (.error e') ∧ e'.message = e.message)
          ↔ Broker.quoted (b.gateway.transport.outcome c a')
            = Broker.quoted (b.gateway.transport.outcome c a))))
    ∧ ∀ (i : Invocation) (w : Surroundings), i.command = .createSecret consumer false →
      (i.run { w with fresh := fresh' }).1 = (i.run w).1
      ∨ ∃ settings b c a a', i.prepare w = .ok (settings, b)
        ∧ b.Posts consumer (startState w settings).session w.fresh fresh' c a a'
        ∧ (a.bare = a'.bare →
          ((i.run { w with fresh := fresh' }).1.troubles = (i.run w).1.troubles
            ↔ Broker.quoted (b.gateway.transport.outcome c a')
              = Broker.quoted (b.gateway.transport.outcome c a))) := by
  refine ⟨fun b s fresh e h => ?_, fun i w hc => ?_⟩
  · rcases Broker.create_alike s fresh fresh' with hsame | ⟨c, a, a', hp, halike⟩
    · exact .inl (hsame.trans h)
    refine .inr ⟨c, a, a', hp, fun hb => ?_⟩
    obtain ⟨owner, hx, hx'⟩ := halike hb
    rw [h] at hx
    obtain ⟨hsame, hquoted⟩ := Broker.outcome_tells hb (Option.some.inj hx).symm
    rw [hx']
    constructor
    · rintro ⟨e', he', hm⟩
      exact hquoted e' (Option.some.inj he') hm
    · intro hq
      exact ⟨e, congrArg some (hsame hq), rfl⟩
  · have hv : i.command ≠ .validate := by simp [hc]
    rcases hp : i.prepare w with f | ⟨settings, b⟩
    · left
      rw [run_of_ne hv, run_of_ne hv, hp, show i.prepare { w with fresh := fresh' } = .error f from hp]
    have hp' : i.prepare { w with fresh := fresh' } = .ok (settings, b) := hp
    rw [run_create hc hp, run_create hc hp']
    rcases Broker.create_alike (startState w settings) w.fresh fresh' with
      hsame | ⟨c, a, a', hposts, halike⟩
    · left
      exact congrArg (answerTo i.asJson consumer) hsame
    refine .inr ⟨settings, b, c, a, a', rfl, hposts, fun hb => ?_⟩
    obtain ⟨owner, hx, hx'⟩ := halike hb
    rw [hx, show startState { w with fresh := fresh' } settings = startState w settings from rfl, hx']
    rcases Transport.outcome_bare hb with hsame | ⟨status, body, body', ho, ho'⟩
    · rw [hsame]
      exact iff_of_true rfl rfl
    · rw [ho, ho']
      exact troubles_createdIn_iff i.asJson owner rfl

/-- A gateway that refuses what is posted, and gives it back. -/
def echoing : Session where
  later r := .answer 400 ((r.body.map Json.Value.compact).getD "") .zero

/-- The broker in front of the gateway at the address of `nobodyKnown`. -/
def echoed : Broker where
  gateway := {
    access := { base := "http://[::1]:8001", token := none, plane := .admin }
    transport := {} }

/-- A new secret to be made, and not to be shown. -/
def askForNewSecret : Invocation where
  command := .createSecret "alice" false

/-- What is echoed is in the error and on the channel for troubles, as it was posted. -/
theorem echo_printed :
    let fresh (c : Char) : NewCredential :=
      { key := "k", secret := String.ofList (List.replicate 64 c) }
    let echo (c : Char) : String :=
      "\x7b\"key\":\"k\",\"secret\":\"" ++ (fresh c).secret ++ "\"\x7d"
    (∀ c ∈ ['0', '1'],
      (echoed.create "alice" (fresh c) { session := echoing }).1
        = some (.error (.unexpectedStatus "consumer_secret_create" 400 (echo c)))
      ∧ (askForNewSecret.run { nobodyKnown with session := echoing, fresh := fresh c }).1.troubles
        = "Error: Unexpected HTTP 400 during consumer_secret_create: " ++ echo c ++ "\n")
    ∧ echo '0' ≠ echo '1' := by
  intro fresh echo
  refine ⟨?_, fun h => ?_⟩
  · simp only [List.forall_mem_cons]
    refine ⟨⟨?_, ?_⟩, ⟨?_, ?_⟩, List.forall_mem_nil _⟩
    all_goals decide +kernel
  · have hsecret := (String.append_right_inj _).1 ((String.append_left_inj _).1 h)
    exact absurd (String.ofList_injective hsecret) (by decide)

end Invocation
end SecretBroker
