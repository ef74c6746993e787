import SecretBroker.Proofs.Broker.Usage
import SecretBroker.Proofs.Gateway.Badge

/-!
# Whom the broker shows its token

A broker that was given an HTTP URL and a token can always show the token, shows it with every
request, and sends none but to the scheme, host and port of that URL (`token_shown`). No id and no
answer leads it elsewhere.
-/

namespace SecretBroker.Broker

variable {b : Broker} {u : Url} {token id : String} {s s' : State}

theorem faithful_of_resolved (ha : b.gateway.access.Shows token u)
    {call : String → Except GatewayError Call} (hc : ∀ consumer, b.gateway.Proper u (call consumer))
    {read : String → Response → Except GatewayError (Option ConsumerSecret)} {r : Result}
    (h : (do
      match ← asking (b.gateway.resolve id) with
      | none => return none
      | some consumer =>
        let response ← b.ask (call consumer)
        let secret ← read consumer response
        keep id secret
        return secret : Attempt (Option ConsumerSecret)) s = (r, s')) :
    b.gateway.Faithful token u s.session s'.session := by
  obtain ⟨found, mid, last, hres, hm, hreached, -⟩ := resolved_cases call read h
  have hway := Gateway.resolve_faithful ha id s.session
  rw [hres] at hway
  refine hway.trans ⟨last, hm, fun x hx => ?_⟩
  obtain ⟨consumer, c, -, hcall, hat, -⟩ := hreached (List.ne_nil_of_mem hx)
  rw [← hcall] at hat
  exact hat.faithful ha (hc consumer) x hx

section
variable (ha : b.gateway.access.Shows token u)
include ha

theorem get_faithful (id : String) (s : State) :
    b.gateway.Faithful token u s.session (b.get id s).2.session := by
  rcases get_cases b id s with hs | ⟨cache, hf⟩
  · rw [hs]
    exact .refl _
  · rw [hf]
    exact faithful_of_resolved (s := { s with cache }) ha
      (fun _ => Gateway.proper_reading fun _ hv => ha.site_credentialsUrl hv)
      (rfl : b.fetch id { s with cache } = _)

theorem create_faithful (id : String) (fresh : NewCredential) (s : State) :
    b.gateway.Faithful token u s.session (b.create id fresh s).2.session :=
  faithful_of_resolved ha
    (fun _ => Gateway.proper_writing fun _ hv => ha.site_credentialsUrl hv)
    (rfl : b.create id fresh s = _)

theorem health_faithful (s : State) :
    b.gateway.Faithful token u s.session (b.health s).2.session := by
  rw [health_snd]
  obtain ⟨trips, -, hm, hat, -⟩ := ask_cases (rfl : b.ask b.healthCall s = _)
  exact ⟨trips, hm, hat.faithful ha (Gateway.proper_reading fun _ hv => ha.site_healthUrl hv)⟩

/-- Whatever is asked of the broker, what is on record then was so before or shows the token. -/
theorem step_faithful (s : State) (m : Move) {r : Request}
    (hr : r ∈ (b.step s m).session.sent) : r ∈ s.session.sent
      ∨ r.Faithful (b.gateway.access.mode.badge token) u := by
  rcases m with id | ⟨id, fresh⟩ | _ | _ | _ | _ | _ | _
  · exact (get_faithful ha id s).of_mem_sent hr
  · exact (create_faithful ha id fresh s).of_mem_sent hr
  · exact (health_faithful ha s).of_mem_sent hr
  all_goals exact .inl hr

/-- The induction is on the history: the broker begins with nothing sent. -/
theorem run_faithful (settings : Settings) : ∀ (h : List Move) {r : Request},
    r ∈ (b.run settings h).session.sent → r.Faithful (b.gateway.access.mode.badge token) u
  | [], r, hr => by cases hr
  | m :: past, r, hr => (step_faithful ha _ m hr).elim (run_faithful settings past) id

end

section
variable {g : GatewaySettings} {retry : RetryPolicy} {agent : Option String} {text : String}

theorem shows_of_ofGateway (hb : ofGateway (some g) retry agent = .ok b) (hg : g.url = some text)
    (hu : Address.ofBase text = .ok u) (hh : u.isHttp = true) (hr : Url.parse u.text = .ok u)
    (ht : g.token = some token) (hne : token ≠ "") :
    b.gateway.access.Shows token u ∧ b.gateway.access.mode = g.mode := by
  obtain ⟨access, ha, hb⟩ := ok_of_bind hb
  cases hb
  exact ⟨Access.shows_of_ofSettings ha hg hu hh hr ht hne, (Access.of_ofSettings ha hg hu).2.2.1⟩

/-- A broker that was built from an HTTP URL and a token that is not empty always has the one header
that shows the token in its mode. Whatever it is asked and whatever the gateway answers, each
attempt at a request shows the token by that header, and goes to the scheme, host and port of the
URL; so all that was ever sent did. -/
theorem token_shown (hb : ofGateway (some g) retry agent = .ok b) (hg : g.url = some text)
    (hu : Address.ofBase text = .ok u) (hh : u.isHttp = true) (hr : Url.parse u.text = .ok u)
    (ht : g.token = some token) (hne : token ≠ "") :
    b.gateway.access.headers = .ok [g.mode.badge token]
    ∧ (∀ (s : State) (id : String) (fresh : NewCredential),
      ∀ s' ∈ [(b.get id s).2, (b.create id fresh s).2, (b.health s).2], ∃ trips,
        s.session.Made trips s'.session
        ∧ ∀ x ∈ trips, x.request.Faithful (g.mode.badge token) u)
    ∧ ∀ (settings : Settings) (h : List Move), ∀ r ∈ (b.run settings h).session.sent,
      r.Faithful (g.mode.badge token) u := by
  obtain ⟨ha, hm⟩ := shows_of_ofGateway hb hg hu hh hr ht hne
  rw [← hm]
  refine ⟨ha.headers, fun s id fresh s' hs => ?_, fun settings h r => run_faithful ha settings h⟩
  simp only [List.mem_cons, List.not_mem_nil, or_false] at hs
  rcases hs with rfl | rfl | rfl
  · exact get_faithful ha id s
  · exact create_faithful ha id fresh s
  · exact health_faithful ha s

end

/-- The control plane on the machine itself, reached by a name and a password and with a token. -/
def localCloud : GatewaySettings where
  mode := .cloud
  controlPlaneUrl := some
    "http://a:b@[::1]:8080/v2/control-planes/0b5bd3c1-7d5e-4b55-8a0e-0e4b0f4d5e11/"
  accessToken := some "t"

/-- Where it is. -/
def localCloudUrl : Url where
  scheme := "http"
  authority := some {
    username := "a"
    password := some "b"
    host := .ipv6 [0, 0, 0, 0, 0, 0, 0, 1]
    port := some 8080 }
  path := .segments ["v2", "control-planes", "0b5bd3c1-7d5e-4b55-8a0e-0e4b0f4d5e11"]
  query := none
  fragment := none

/-- The broker in front of it. -/
def ofLocalCloud : Broker where
  gateway := {
    access := {
      base := "http://a:b@[::1]:8080/v2/control-planes/0b5bd3c1-7d5e-4b55-8a0e-0e4b0f4d5e11"
      token := some "t"
      plane := .cloud {
        id := "0b5bd3c1-7d5e-4b55-8a0e-0e4b0f4d5e11"
        origin := "http://[::1]:8080" } }
    transport := {} }

theorem token_shown_unknown :
    let asked : List Move := [.get "//x@y/..",
      .turn unknown.session.script unknown.session.later unknown.session.deadline]
    ofGateway (some localCloud) {} none = .ok ofLocalCloud
    ∧ (ofLocalCloud.run {} asked).session.sent.length = 4
    ∧ ∀ r ∈ (ofLocalCloud.run {} asked).session.sent,
      r.Faithful (GatewayMode.badge "t" .cloud) localCloudUrl := by
  intro asked
  have hb : ofGateway (some localCloud) {} none = .ok ofLocalCloud := by decide +kernel
  have h := token_shown hb rfl (u := localCloudUrl) (by decide +kernel) (by decide)
    (by decide +kernel) rfl (by decide)
  exact ⟨hb, by decide +kernel, h.2.2 {} asked⟩

end SecretBroker.Broker
