import SecretBroker.Proofs.Gateway.Resolving
import SecretBroker.Proofs.Url.Site

/-!
# The token goes to the gateway alone

Each call shows the gateway's token in the header of the mode (`GatewayMode.badge`), and its URL is
built anew from the text of the base or of the origin, with ids that come from whoever asks or from
the gateway itself. Such a name adds to the path at most, so every request goes to the site of the
gateway's URL (`Request.Faithful`): on the way to a consumer's id (`resolve_faithful`) as at the end
of it.
-/

namespace SecretBroker

/-- The header that shows a token in a mode. -/
def GatewayMode.badge (token : String) : GatewayMode → Header
  | .admin => { name := "kong-admin-token", value := token, sensitive := true }
  | .cloud => { name := "authorization", value := "Bearer " ++ token, sensitive := true }

/-- The request shows this header, in no other form, and goes to the site of the URL. -/
structure Request.Faithful (badge : Header) (u : Url) (r : Request) : Prop where
  headers : r.headers.filter (·.name == badge.name) = [badge]
  site : r.url.site = u.site

section Names

variable {u v : Url} {names : List String} {base : String}

theorem Url.site_of_mapNames? {change : List String → List String}
    (h : v.mapNames? change = some u) : u.site = v.site := by
  unfold mapNames? at h
  split at h
  · cases h
  · cases h
    rfl

theorem Url.site_addQuery (v : Url) (name value : String) :
    (v.addQuery name value).site = v.site := rfl

/-- What is below a base is of its site, whatever the names are. -/
theorem Address.site_of_below (h : u.Heads base) (hh : u.isHttp = true)
    (hr : Url.parse u.text = .ok u) (hv : Address.below base names = .ok v) : v.site = u.site := by
  obtain ⟨w, hw, hv⟩ := ok_of_bind hv
  split at hv
  · rename_i hj
    cases hv
    exact (Url.site_of_mapNames? hj).trans (Address.site_of_ofBase h hh hr hw)
  · cases hv

end Names

namespace Access

variable {a : Access} {g : GatewaySettings} {u v : Url} {text token id : String}

/-- The access shows the token, and what it is built from begins with the site of an HTTP URL that
is read again from its own text. -/
structure Shows (a : Access) (token : String) (u : Url) : Prop where
  isHttp : u.isHttp = true
  rereads : Url.parse u.text = .ok u
  base : u.Heads a.base
  origin : ∀ p, a.plane = .cloud p → u.Heads p.origin
  headers : a.headers = .ok [a.mode.badge token]

/-- Settings lead to the access at their URL, which holds their token and can show it. -/
theorem of_ofSettings (h : ofSettings g = .ok a) (hg : g.url = some text)
    (hu : Address.ofBase text = .ok u) : a.base = Address.withoutSlashes u.text
      ∧ a.token = g.token.filter (· != "") ∧ a.mode = g.mode
      ∧ (∀ p, a.plane = .cloud p → p.origin = u.originText)
      ∧ ∃ headers, a.headers = .ok headers := by
  have husable {a' : Access} (h : a'.usable = .ok a) : a' = a ∧ ∃ headers, a.headers = .ok headers := by
    obtain ⟨headers, hh, h⟩ := ok_of_bind h
    cases h
    exact ⟨rfl, headers, hh⟩
  unfold ofSettings at h
  rw [hg] at h
  rcases hm : g.mode with _ | _
  · rw [hm] at h
    obtain ⟨u', hu', h⟩ := ok_of_bind h
    obtain rfl := Except.ok.inj (hu'.symm.trans hu)
    obtain ⟨rfl, hh⟩ := husable h
    refine ⟨rfl, rfl, rfl, fun p hp => ?_, hh⟩
    cases hp
  · rw [hm] at h
    obtain ⟨u', hu', h⟩ := ok_of_bind h
    obtain rfl := Except.ok.inj (hu'.symm.trans hu)
    split at h
    · obtain ⟨rfl, hh⟩ := husable h
      refine ⟨rfl, rfl, rfl, fun p hp => ?_, hh⟩
      cases hp
      rfl
    · cases h

/-- If there are headers to show a token that is not empty, there is its badge and nothing else. -/
theorem headers_eq_badge {headers : List Header} (h : a.headers = .ok headers)
    (ht : a.token = some token) (hne : token ≠ "") : headers = [a.mode.badge token] := by
  have hsensitive {name value kind : String} {b : Header} (h : sensitive name value kind = .ok b) :
      b = { name, value, sensitive := true } := by
    unfold sensitive at h
    split at h
    · exact (Except.ok.inj h).symm
    · cases h
  have hf : a.token.filter (· != "") = some token := by
    rw [ht, Option.filter_some, if_pos (bne_iff_ne.2 hne)]
  rw [Access.headers, headersFor, hf] at h
  obtain ⟨b, hb, rfl⟩ := map_eq_ok.1 h
  rcases hp : a.plane with _ | p
  · rw [hp] at hb
    rw [hsensitive hb, mode, hp]
    rfl
  · rw [hp] at hb
    rw [hsensitive hb, mode, hp]
    rfl

theorem shows_of_ofSettings (h : ofSettings g = .ok a) (hg : g.url = some text)
    (hu : Address.ofBase text = .ok u) (hh : u.isHttp = true) (hr : Url.parse u.text = .ok u)
    (ht : g.token = some token) (hne : token ≠ "") : a.Shows token u := by
  obtain ⟨hb, hat, -, ho, headers, hheaders⟩ := of_ofSettings h hg hu
  rw [ht, Option.filter_some, if_pos (bne_iff_ne.2 hne)] at hat
  refine ⟨hh, hr, ?_, fun p hp => ?_, ?_⟩
  · rw [hb]
    exact (Url.heads_text hr hh).withoutSlashes
  · rw [ho p hp]
    exact Url.heads_originText hr hh
  · rw [hheaders, headers_eq_badge hheaders hat hne]

namespace Shows

theorem site_consumerUrl (ha : a.Shows token u) (hv : a.consumerUrl a.base id = .ok v) :
    v.site = u.site :=
  Address.site_of_below ha.base ha.isHttp ha.rereads hv

theorem site_credentialsUrl (ha : a.Shows token u) (hv : a.credentialsUrl a.base id = .ok v) :
    v.site = u.site := by
  obtain ⟨w, hw, hv⟩ := ok_of_bind hv
  split at hv
  · rename_i he
    cases hv
    exact (Url.site_of_mapNames? he).trans (ha.site_consumerUrl hw)
  · cases hv

theorem site_healthUrl (ha : a.Shows token u) (hv : a.healthUrl a.base = .ok v) :
    v.site = u.site := by
  rw [healthUrl] at hv
  split at hv
  · exact Address.site_of_below ha.base ha.isHttp ha.rereads hv
  · exact Address.site_of_ofBase ha.base ha.isHttp ha.rereads hv

theorem site_searchUrl (ha : a.Shows token u) (hv : a.searchUrl id = .ok v) :
    v.site = u.site := by
  obtain ⟨w, hw, rfl⟩ := map_eq_ok.1 hv
  rw [Url.site_addQuery]
  exact Address.site_of_below ha.base ha.isHttp ha.rereads hw

variable {p : ControlPlane}

theorem site_realmUrl (ha : a.Shows token u) (hp : a.plane = .cloud p)
    (hv : p.realmUrl = .ok v) : v.site = u.site :=
  Address.site_of_below (ha.origin p hp) ha.isHttp ha.rereads hv

theorem site_realmsUrl (ha : a.Shows token u) (hp : a.plane = .cloud p)
    (hv : p.realmsUrl = .ok v) : v.site = u.site :=
  Address.site_of_below (ha.origin p hp) ha.isHttp ha.rereads hv

end Shows
end Access

namespace Call

variable {c : Call} {u : Url} {badge : Header}

theorem site_withoutCredentials (u : Url) : (withoutCredentials u).site = u.site := by
  rw [withoutCredentials, Url.site, Url.site, Option.map_map]
  rfl

theorem site_request (c : Call) (agent : Option String) :
    (c.request agent).url.site = c.url.site := by
  unfold request
  rcases credentials? c.url with _ | ⟨user, password⟩
  · rfl
  · exact site_withoutCredentials c.url

/-- The header that says how a body is written. -/
def bodyHeader : Header where
  name := "content-type"
  value := "application/json"

/-- The header by which the client names itself. -/
def agentHeader (agent : String) : Header where
  name := "user-agent"
  value := agent

/-- The badge is the only header of its name: that of a user and a password in the URL gives way to
it, and the others have other names. -/
theorem headers_request (hc : c.headers = [badge]) (hn : badge.name ≠ "content-type")
    (ha : badge.name ≠ "user-agent") (agent : Option String) :
    (c.request agent).headers.filter (·.name == badge.name) = [badge] := by
  obtain ⟨basic, hb⟩ : ∃ basic : List Header, (c.request agent).headers
      = (basic.filter fun h => !c.headers.any (·.name == h.name)) ++ c.headers
        ++ (if c.body.isSome then [bodyHeader] else []) ++ (agent.map agentHeader).toList := by
    unfold request
    rcases credentials? c.url with _ | ⟨user, password⟩
    · exact ⟨_, rfl⟩
    · exact ⟨_, rfl⟩
  have hown : (basic.filter fun h => !c.headers.any (·.name == h.name)).filter
      (·.name == badge.name) = [] := by
    rw [List.filter_filter, List.filter_eq_nil_iff, hc]
    intro h _
    simpa using Eq.symm
  have hbody : (if c.body.isSome then [bodyHeader] else []).filter (·.name == badge.name) = [] := by
    split
    · simp [bodyHeader, hn.symm]
    · rfl
  have hagent : (agent.map agentHeader).toList.filter (·.name == badge.name) = [] := by
    rcases agent with _ | a
    · rfl
    · simp [agentHeader, ha.symm]
  rw [hb, List.filter_append, List.filter_append, List.filter_append, hown, hbody, hagent, hc,
    List.nil_append, List.append_nil, List.append_nil, List.filter_singleton, beq_self_eq_true]
  rfl

end Call

theorem GatewayMode.badge_name (token : String) (m : GatewayMode) :
    (m.badge token).name ≠ "content-type" ∧ (m.badge token).name ≠ "user-agent" := by
  rcases m with _ | _
  · simp [badge]
  · simp [badge]

namespace Gateway

variable {g : Gateway} {u : Url} {token id : String} {trips : List Trip} {s s' : Session}
  {call : Except GatewayError Call}

theorem headers_of_reading {op : Operation} {url : Except GatewayError Url} {message : String}
    {c : Call} (h : g.reading op url message = .ok c) : g.access.headers = .ok c.headers := by
  obtain ⟨u, -, h⟩ := ok_of_bind h
  obtain ⟨headers, hh, h⟩ := ok_of_bind h
  cases h
  exact hh

theorem headers_of_writing {op : Operation} {url : Except GatewayError Url} {body : Json.Value}
    {message : String} {repeatable : Bool} {c : Call}
    (h : g.writing op url body message repeatable = .ok c) :
    g.access.headers = .ok c.headers := by
  obtain ⟨u, -, h⟩ := ok_of_bind h
  obtain ⟨headers, hh, h⟩ := ok_of_bind h
  cases h
  exact hh

/-- A call that shows what headers the access has, at the site of the URL. -/
def Proper (g : Gateway) (u : Url) (call : Except GatewayError Call) : Prop :=
  ∀ c, call = .ok c → g.access.headers = .ok c.headers ∧ c.url.site = u.site

theorem proper_reading {op : Operation} {url : Except GatewayError Url} {message : String}
    (hu : ∀ v, url = .ok v → v.site = u.site) : g.Proper u (g.reading op url message) :=
  fun c hc => ⟨headers_of_reading hc, hu c.url (of_reading hc).2.2⟩

theorem proper_writing {op : Operation} {url : Except GatewayError Url} {body : Json.Value}
    {message : String} {repeatable : Bool} (hu : ∀ v, url = .ok v → v.site = u.site) :
    g.Proper u (g.writing op url body message repeatable) :=
  fun c hc => ⟨headers_of_writing hc, hu c.url (of_writing hc).2.2.1⟩

theorem Attempts.faithful (ha : g.access.Shows token u) (hat : g.Attempts call trips)
    (hc : g.Proper u call) :
    ∀ x ∈ trips, x.request.Faithful (g.access.mode.badge token) u := by
  intro x hx
  obtain ⟨c, hcall, hr⟩ := hat.request hx
  obtain ⟨hheaders, hsite⟩ := hc c hcall
  have hbadge : c.headers = [g.access.mode.badge token] :=
    Except.ok.inj (hheaders.symm.trans ha.headers)
  obtain ⟨hn, hn'⟩ := GatewayMode.badge_name token g.access.mode
  rw [hr]
  exact ⟨Call.headers_request hbadge hn hn' _, (c.site_request _).trans hsite⟩

/-- These trips are made, and each with a request that shows the token, to the site of the URL. -/
def Faithful (g : Gateway) (token : String) (u : Url) (s s' : Session) : Prop :=
  ∃ trips, s.Made trips s' ∧ ∀ x ∈ trips, x.request.Faithful (g.access.mode.badge token) u

theorem Faithful.refl (s : Session) : g.Faithful token u s s := ⟨[], .refl s, by simp⟩

theorem Faithful.trans {s₁ : Session} (h : g.Faithful token u s s₁)
    (h' : g.Faithful token u s₁ s') : g.Faithful token u s s' := by
  obtain ⟨trips, hm, hf⟩ := h
  obtain ⟨trips', hm', hf'⟩ := h'
  refine ⟨trips ++ trips', hm.trans hm', fun x hx => ?_⟩
  exact (List.mem_append.1 hx).elim (hf x) (hf' x)

/-- What is on record then is from before, or was sent so. -/
theorem Faithful.of_mem_sent (h : g.Faithful token u s s') {r : Request} (hr : r ∈ s'.sent) :
    r ∈ s.sent ∨ r.Faithful (g.access.mode.badge token) u := by
  obtain ⟨trips, hm, hf⟩ := h
  rw [hm.sent, List.mem_append] at hr
  refine hr.imp_right fun hr => ?_
  obtain ⟨x, hx, rfl⟩ := List.mem_map.1 hr
  exact hf x (List.mem_filter.1 hx).1

/-- Whatever the id is and whatever the gateway answers, on the way to a consumer's id every request
shows the token, to the gateway's own site. -/
theorem resolve_faithful (ha : g.access.Shows token u) (id : String) (s : Session) :
    g.Faithful token u s (g.resolve id s).2 := by
  rcases hp : g.access.plane with _ | p
  · rw [resolve, hp]
    exact .refl s
  · obtain ⟨t, hm, -⟩ := resolve_trail hp (rfl : g.resolve id s = _)
    refine ⟨t.trips, hm, fun x hx => ?_⟩
    simp only [Trail.trips, List.mem_append] at hx
    rcases hx with ((hx | hx) | hx) | hx
    · exact t.check_attempts.faithful ha (proper_reading fun _ hv => ha.site_realmUrl hp hv) x hx
    · exact t.create_attempts.faithful ha (proper_writing fun _ hv => ha.site_realmsUrl hp hv) x hx
    · exact t.lookUp_attempts.faithful ha (proper_reading fun _ hv => ha.site_consumerUrl hv) x hx
    · exact t.search_attempts.faithful ha (proper_reading fun _ hv => ha.site_searchUrl hv) x hx

end Gateway
end SecretBroker
