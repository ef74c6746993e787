import SecretBroker.Proofs.Command.Verdict
import SecretBroker.Proofs.Gateway.Rerun

/-!
# What masked secrets show

Two secrets look the same under a mask if and only if both are hidden altogether or they share length
and first characters (`masked_eq_iff`). A command that shows a credential with its secret masked tells
no more of the secret than that: had the gateway delivered the credential with a secret that looks the
same, whatever else its body says, all that the command leaves behind would be the same
(`run_masks`).
-/

namespace SecretBroker

namespace Credential

/-- Both secrets are hidden altogether, or they share length and first characters. -/
def Resembles (s s' : String) : Prop :=
  (s.toList.length ≤ hiddenLength ∧ s'.toList.length ≤ hiddenLength)
    ∨ s.toList.length = s'.toList.length
      ∧ s.toList.take shownLength = s'.toList.take shownLength

theorem masked_length (s : String) :
    (masked s).toList.length = max s.toList.length hiddenLength := by
  unfold masked
  by_cases hs : s.toList.length ≤ hiddenLength
  · simp [hs]
  · have hlong : hiddenLength < s.toList.length := Nat.lt_of_not_le hs
    simp only [hs, if_false, String.toList_ofList, List.length_append, List.length_take,
      List.length_replicate]
    simp only [hiddenLength, shownLength] at hlong ⊢
    omega

theorem masked_take {s : String} (hs : hiddenLength < s.toList.length) :
    (masked s).toList.take shownLength = s.toList.take shownLength := by
  have hlen : (s.toList.take shownLength).length = shownLength := by
    rw [List.length_take]
    simp only [hiddenLength, shownLength] at hs ⊢
    omega
  rw [masked, if_neg (Nat.not_le_of_lt hs), String.toList_ofList, List.take_left' hlen]

/-- A mask shows the length of a secret that is not hidden altogether and its first characters, and
nothing else. -/
theorem masked_eq_iff {s s' : String} : masked s = masked s' ↔ Resembles s s' := by
  constructor
  · intro h
    have hlen : max s.toList.length hiddenLength = max s'.toList.length hiddenLength := by
      rw [← masked_length, h, masked_length]
    by_cases hs : s.toList.length ≤ hiddenLength
    · exact .inl ⟨hs, by omega⟩
    · refine .inr ⟨by omega, ?_⟩
      rw [← masked_take (by omega), h, masked_take (by omega)]
  · rintro (⟨hs, hs'⟩ | ⟨hlen, htake⟩)
    · rw [masked_of_short hs, masked_of_short hs']
    · simp only [masked, hlen, htake]

end Credential

/-- The body delivers the credential to whoever gave the command. -/
def Command.Delivers : Command → String → ConsumerSecret → Prop
  | .getSecret _ _, body, s =>
    ∃ l, Json.decode CredentialList.reader body = .ok l ∧ l.first? = some s
  | .createSecret _ _, body, s => Json.decode ConsumerSecret.reader body = .ok s
  | _, _, _ => False

/-- From a response that has a secret in it a credential is read that its body delivers, and another
secret in that credential makes no difference but for itself. The credential may have an owner that
the body does not name. -/
structure Command.Reads (command : Command)
    (read : String → Response → Except GatewayError (Option ConsumerSecret)) : Prop where
  empty : ∀ s, ¬ command.Delivers "" s
  delivered : ∀ {consumer r s}, read consumer r = .ok (some s) →
    ∃ owner delivered, command.Delivers r.body delivered ∧ s = { delivered with owner }
      ∧ ∀ body secret, command.Delivers body { delivered with secret } →
        read consumer ⟨r.status, body⟩ = .ok (some { delivered with owner, secret })

section Reads
variable {consumer : String} {inClear : Bool}

theorem decode_ok {α : Type} {r : Response} {operation : String} {reader : Json.Reader α} {a : α} :
    r.decode operation reader = .ok a ↔ Json.decode reader r.body = .ok a :=
  mapError_eq_ok

theorem reads_get : (Command.getSecret consumer inClear).Reads fun _ => Broker.secretIn where
  empty := by
    rintro s ⟨l, hl, -⟩
    have he : (Json.decode CredentialList.reader "").toOption = none := by decide +kernel
    rw [hl] at he
    cases he
  delivered := by
    intro consumer r s h
    unfold Broker.secretIn at h ⊢
    by_cases h404 : r.status = 404
    · rw [if_pos h404] at h
      cases h
    rw [if_neg h404] at h
    by_cases hok : r.isSuccess = true
    · rw [if_pos hok] at h
      obtain ⟨l, hl, hfirst⟩ := map_eq_ok.1 h
      refine ⟨s.owner, s, ⟨l, decode_ok.1 hl, hfirst⟩, rfl, ?_⟩
      rintro body secret ⟨l', hl', hfirst'⟩
      have hok' : (⟨r.status, body⟩ : Response).isSuccess = true := hok
      rw [if_neg h404, if_pos hok', map_eq_ok]
      exact ⟨l', decode_ok.2 hl', hfirst'⟩
    · rw [if_neg hok] at h
      cases h

theorem reads_create :
    (Command.createSecret consumer inClear).Reads fun consumer r => Broker.createdIn r consumer where
  empty := by
    intro s hs
    have he : (Json.decode ConsumerSecret.reader "").toOption = none := by decide +kernel
    rw [show Json.decode ConsumerSecret.reader "" = .ok s from hs] at he
    cases he
  delivered := by
    intro consumer r s h
    unfold Broker.createdIn at h ⊢
    by_cases h404 : r.status = 404
    · rw [if_pos h404] at h
      cases h
    rw [if_neg h404] at h
    by_cases hok : r.isSuccess = true
    · rw [if_pos hok] at h
      obtain ⟨delivered, hd, hs⟩ := map_eq_ok.1 h
      obtain rfl := Option.some.inj hs
      refine ⟨some (delivered.owner.getD consumer), delivered, decode_ok.1 hd, rfl, ?_⟩
      intro body secret hbody
      have hok' : (⟨r.status, body⟩ : Response).isSuccess = true := hok
      rw [if_neg h404, if_pos hok', map_eq_ok]
      exact ⟨_, decode_ok.2 hbody, rfl⟩
    · rw [if_neg hok] at h
      cases h

end Reads

namespace Invocation

variable {i : Invocation} {w : Surroundings} {consumer : String}

/-- A masked credential is told in the same way whatever secret that looks the same it has. -/
theorem secretReport_masked (asJson : Bool) (consumer : String) (s : ConsumerSecret)
    {secret : String} (h : Credential.Resembles s.secret secret) :
    secretReport asJson consumer false (some { s with secret })
      = secretReport asJson consumer false (some s) := by
  have hshown : shown false secret = shown false s.secret := (Credential.masked_eq_iff.2 h).symm
  simp only [secretReport, secretJson, hshown]

/-- What is said of a question to the broker. -/
def answerTo (asJson : Bool) (consumer : String) (r : Broker.Result) : Report :=
  (r.map (attemptReport (secretReport asJson consumer false))).getD {}

theorem answerTo_eq {asJson : Bool} {r : Broker.Result} {s : ConsumerSecret}
    (h : answerTo asJson consumer r = secretReport asJson consumer false (some s)) :
    ∃ found, r = some (.ok (some found)) := by
  have hwell := congrArg Report.failure h
  rcases r with _ | e | _ | found
  · have hlines := congrArg Report.lines h
    rcases asJson with _ | _ <;> cases hlines
  · cases hwell
  · cases hwell
  · exact ⟨found, rfl⟩

/-- The command puts this question to the gateway, once settings and broker are there. -/
def Asks (i : Invocation) (w : Surroundings) (b : Broker) (policy : Breaker.Policy) (consumer : String)
    (call : String → Except GatewayError Call)
    (read : String → Response → Except GatewayError (Option ConsumerSecret)) : Prop :=
  ∀ session : Session,
    let asked := b.gateway.enquire consumer call read { session with breakers := { policy } }
    i.run { w with session } = (answerTo i.asJson consumer asked.1, asked.2)

section Asks
variable {settings : Settings} {b : Broker}

theorem asks_get (hc : i.command = .getSecret consumer false)
    (hp : i.prepare w = .ok (settings, b)) :
    i.Asks w b (Broker.breakerPolicy settings.resilience) consumer (b.getCall consumer)
      (fun _ => Broker.secretIn) := by
  intro session asked
  have hp' : i.prepare { w with session } = .ok (settings, b) := hp
  rw [run_of_ne (by rw [hc]; simp), hp']
  dsimp only
  have hmiss : ((startState { w with session } settings).cache.get consumer
      (startState { w with session } settings).session.now).1 = none := rfl
  unfold consult
  rw [hc]
  dsimp only
  rw [reported_apply, Broker.get_of_miss hmiss, Broker.fetch_apply]
  rfl

theorem asks_create (hc : i.command = .createSecret consumer false)
    (hp : i.prepare w = .ok (settings, b)) :
    i.Asks w b (Broker.breakerPolicy settings.resilience) consumer (b.createCall consumer w.fresh)
      (fun consumer r => Broker.createdIn r consumer) := by
  intro session asked
  have hp' : i.prepare { w with session } = .ok (settings, b) := hp
  rw [run_of_ne (by rw [hc]; simp), hp']
  dsimp only
  unfold consult
  rw [hc]
  dsimp only
  rw [reported_apply, Broker.create_apply]
  rfl

/-- What the command leaves behind when it shows a credential is told of no more than the mask of its
secret. There is a last answer, which delivered the credential. Had the gateway brought all that it
brought before that answer, and then an answer that delivered the credential with another secret that
looks the same, the same would stand on both channels, and the exit status would be the same. -/
def Masks (i : Invocation) (w : Surroundings) (consumer : String) : Prop :=
  ∃ trips request status body delay owner delivered,
    w.session.Made (trips ++ [⟨request, .answer status body delay⟩]) (i.run w).2
    ∧ i.command.Delivers body delivered
    ∧ (i.run w).1 = secretReport i.asJson consumer false (some { delivered with owner })
    ∧ ∀ session body' secret, session.deadline = none →
      session.Brings (trips ++ [⟨request, .answer status body' delay⟩]) →
      i.command.Delivers body' { delivered with secret } →
      Credential.Resembles delivered.secret secret →
      let other := (i.run { w with session }).1
      other.answers = (i.run w).1.answers ∧ other.troubles = (i.run w).1.troubles
        ∧ other.exitStatus = (i.run w).1.exitStatus

/-- A body that delivers a credential is no empty one, so that it reaches whoever asked. -/
theorem bodyOf_of_delivers {command : Command}
    {read : String → Response → Except GatewayError (Option ConsumerSecret)}
    (hr : command.Reads read) {status : Nat} {body : String} {s : ConsumerSecret}
    (h : command.Delivers (Transport.bodyOf status body) s) :
    ∀ body', Transport.bodyOf status body' = body' := by
  intro body'
  unfold Transport.bodyOf at h ⊢
  split at h
  · exact absurd h (hr.empty s)
  · rw [if_neg ‹_›]

theorem masks_of_asks (op : Operation) {policy : Breaker.Policy}
    {call : String → Except GatewayError Call}
    {read : String → Response → Except GatewayError (Option ConsumerSecret)}
    (ha : i.Asks w b policy consumer call read) (hr : i.command.Reads read)
    (hc : ∀ consumer c, call consumer = .ok c → c.Belongs op)
    (ho : op ∉ Gateway.stages b.gateway.access.plane) (hd : w.session.deadline = none)
    {cred : ConsumerSecret}
    (hp : (i.run w).1 = secretReport i.asJson consumer false (some cred)) :
    i.Masks w consumer := by
  have hready {session : Session} (hs : session.deadline = none) :
      Session.Ready { session with breakers := { policy } }
        (Gateway.stages b.gateway.access.plane ++ [op]) :=
    ⟨hs, fun _ _ => rfl⟩
  have hrun : i.run w = _ := ha w.session
  rw [hrun] at hp
  obtain ⟨found, hfound⟩ := answerTo_eq hp
  rcases hx : b.gateway.enquire consumer call read { w.session with breakers := { policy } }
    with ⟨r, s₁⟩
  rw [hx] at hfound hrun
  obtain rfl : r = some (.ok (some found)) := hfound
  obtain ⟨id, trips, request, status, body, delay, hmade, hread, hother⟩ :=
    Gateway.enquire_answered hc ho (hready hd) hx
  obtain ⟨owner, delivered, hdel, rfl, hsame⟩ := hr.delivered hread
  have hbody := bodyOf_of_delivers hr hdel
  rw [hbody] at hdel
  refine ⟨trips, request, status, body, delay, owner, delivered, ?_, hdel, ?_, ?_⟩
  · rw [hrun]
    exact hmade.of_with_breakers
  · rw [hrun]
    rfl
  intro session body' secret hd' hb hdel' hlike other
  have hasked := hother body' { session with breakers := { policy } } (hready hd') hb
  rw [hbody, hsame body' secret hdel'] at hasked
  have hrun' : other = answerTo i.asJson consumer (some (.ok (some { delivered with owner, secret }))) := by
    have h := congrArg Prod.fst (ha session)
    dsimp only at h
    rw [hasked] at h
    exact h
  have hreport : other = (i.run w).1 := by
    rw [hrun', hrun]
    exact secretReport_masked i.asJson consumer { delivered with owner } hlike
  rw [hreport]
  exact ⟨rfl, rfl, rfl⟩

end Asks

/-- A command that shows a credential with its secret masked reveals no more of the secret than its
mask. -/
theorem run_masks (hc : i.command = .getSecret consumer false
      ∨ i.command = .createSecret consumer false)
    (hd : w.session.deadline = none) {cred : ConsumerSecret}
    (hp : (i.run w).1 = secretReport i.asJson consumer false (some cred)) :
    i.Masks w consumer := by
  have hv : i.command ≠ .validate := by
    rcases hc with hc | hc <;> simp [hc]
  rcases hprep : i.prepare w with f | ⟨settings, b⟩
  · rw [run_of_ne hv, hprep] at hp
    cases congrArg Report.failure hp
  rcases hc with hc | hc
  · refine masks_of_asks .secretGet (asks_get hc hprep) ?_
      (fun _ _ h => Gateway.belongs_of_reading h rfl) (Gateway.not_mem_stages _).1 hd hp
    rw [hc]
    exact reads_get
  · refine masks_of_asks .secretCreate (asks_create hc hprep) ?_
      (fun _ _ h => Gateway.belongs_of_writing h rfl) (Gateway.not_mem_stages _).2 hd hp
    rw [hc]
    exact reads_create

/-- What a gateway answers about its only consumer, whose credential has this secret. -/
def credentialsWith (secret : String) : String :=
  "\x7b\"data\": [\x7b\"id\": \"1\", \"key\": \"k\", \"secret\": \"" ++ secret
    ++ "\"\x7d]\x7d"

/-- A gateway that gives this answer to everything. -/
def secretKnown (secret : String) : Surroundings :=
  { nobodyKnown with
    session := { later := fun _ => .answer 200 (credentialsWith secret) .zero } }

theorem run_masks_known :
    (askForSecret.run (secretKnown "0123456789")).1
      = secretReport true "alice" false (some { id := "1", key := "k", secret := "0123456789" })
    ∧ (askForSecret.run (secretKnown "0123abcdef")).1.answers
      = (askForSecret.run (secretKnown "0123456789")).1.answers := by
  have hshows : (askForSecret.run (secretKnown "0123456789")).1
      = secretReport true "alice" false (some { id := "1", key := "k", secret := "0123456789" }) := by
    decide +kernel
  refine ⟨hshows, ?_⟩
  obtain ⟨trips, request, status, body, delay, owner, delivered, hmade, hdel, -, hother⟩ :=
    run_masks (.inl rfl) rfl hshows
  have hlast : Arrival.answer status body delay
      = .answer 200 (credentialsWith "0123456789") .zero :=
    hmade.arrival trips.length ⟨request, .answer status body delay⟩ (by simp)
  obtain ⟨rfl, rfl, rfl⟩ := Arrival.answer.inj hlast
  -- One request is sent, so that nothing comes before the answer.
  have hone : (askForSecret.run (secretKnown "0123456789")).2.sent.length = 1 := by decide +kernel
  have hlen := congrArg List.length
    (hmade.eq_replies (fun _ _ => ⟨_, _, _, rfl⟩) (List.nil_append _).symm)
  rw [Session.replies, List.length_mapIdx, hone, List.length_append, List.length_singleton] at hlen
  obtain rfl : trips = [] := List.eq_nil_of_length_eq_zero (by omega)
  obtain ⟨l, hl, hfirst⟩ := hdel
  have hdecoded : Json.decode CredentialList.reader (credentialsWith "0123456789")
      = .ok { data := [{ id := "1", key := "k", secret := "0123456789" }] } := by decide +kernel
  obtain rfl := Except.ok.inj (hl.symm.trans hdecoded)
  obtain rfl := Option.some.inj hfirst
  refine (hother (secretKnown "0123abcdef").session (credentialsWith "0123abcdef") "0123abcdef" rfl
    ?_ ⟨{ data := [{ id := "1", key := "k", secret := "0123abcdef" }] }, by decide +kernel, rfl⟩
    (.inr ⟨by decide, by decide⟩)).1
  intro n x hx
  rcases n with _ | n
  · obtain rfl := Option.some.inj hx
    rfl
  · cases hx

end Invocation
end SecretBroker
