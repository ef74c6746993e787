import Mathlib.Data.List.ReduceOption
import SecretBroker.Proofs.Sequence
import SecretBroker.Settings.Loader

/-!
# Settings and what the environment says

Nine settings can be said by the environment, each by a variable of its own, and what is said is one
value or a complaint (`Environment.Sets`, `Environment.fault?`). So settings are merged with the
environment field by field (`withEnvironment_ok_iff`), or the first complaint is all that comes of
them (`withEnvironment_error_iff`). Loading merges what a file has and then looks for faults
(`load_merges`); to merge again changes nothing.
-/

namespace SecretBroker.Settings

variable {α : Type}

/-- The mode that the value of a variable means. -/
def modeIn (text : String) : Except String GatewayMode :=
  (GatewayMode.ofWord text).mapError GatewayMode.unknownMessage

/-- The number of 64 bits that the value of a variable means. -/
def numberIn (text : String) : Except String Nat :=
  (Text.natural (2 ^ 64) (Text.trimmed text)).mapError Text.NaturalError.message

/-- The time that the value of a variable means, in seconds. -/
def secondsIn (text : String) : Except String Duration := (numberIn text).map Duration.ofSecs

/-- The log format that the value of a variable means. -/
def formatIn (text : String) : Except String LogFormat :=
  (LogFormat.ofWord text).mapError LogFormat.unknownMessage

namespace Environment

/-- A setting is what its variable means, or what it was if the variable is unset or blank. -/
def Sets (env : Environment) (name : String) (meaning : String → Except String α)
    (before after : α) : Prop :=
  match env name with
  | none => after = before
  | some text =>
    if text.toList.all Text.isBlank then after = before else meaning text = .ok after

/-- The complaint about a variable that is neither unset nor blank and means nothing. -/
def fault? (env : Environment) (name : String) (meaning : String → Except String α) :
    Option BadVariable :=
  match env name with
  | none => none
  | some text =>
    if text.toList.all Text.isBlank then none
    else match meaning text with
      | .error problem => some { name, problem }
      | .ok _ => none

/-- The complaints about an environment. -/
def faults (env : Environment) : List BadVariable :=
  [env.fault? "ISSUER_GATEWAY_MODE" modeIn,
    env.fault? "ISSUER_CACHE_TTL_SECONDS" secondsIn,
    env.fault? "ISSUER_CACHE_MAX_ENTRIES" numberIn,
    env.fault? "ISSUER_LOG_FORMAT" formatIn].reduceOption

/-- The settings `s'` are `s` but for what the environment says. -/
structure Merges (env : Environment) (s s' : Settings) : Prop where
  mode : env.Sets "ISSUER_GATEWAY_MODE" modeIn s.gateway.mode s'.gateway.mode
  adminUrl : env.Sets "ISSUER_GATEWAY_ADMIN_URL" (.ok ∘ some) s.gateway.adminUrl s'.gateway.adminUrl
  adminToken :
    env.Sets "ISSUER_GATEWAY_ADMIN_TOKEN" (.ok ∘ some) s.gateway.adminToken s'.gateway.adminToken
  controlPlaneUrl : env.Sets "ISSUER_CONTROL_PLANE_URL" (.ok ∘ some)
    s.gateway.controlPlaneUrl s'.gateway.controlPlaneUrl
  accessToken :
    env.Sets "ISSUER_ACCESS_TOKEN" (.ok ∘ some) s.gateway.accessToken s'.gateway.accessToken
  defaultTtl :
    env.Sets "ISSUER_CACHE_TTL_SECONDS" secondsIn s.cache.defaultTtl s'.cache.defaultTtl
  maxEntries : env.Sets "ISSUER_CACHE_MAX_ENTRIES" numberIn s.cache.maxEntries s'.cache.maxEntries
  level : env.Sets "ISSUER_LOG_LEVEL" .ok s.logging.level s'.logging.level
  format : env.Sets "ISSUER_LOG_FORMAT" formatIn s.logging.format s'.logging.format
  readTimeout : s'.gateway.readTimeout = s.gateway.readTimeout
  writeTimeout : s'.gateway.writeTimeout = s.gateway.writeTimeout
  resilience : s'.resilience = s.resilience

/-- A setting as one variable leaves it. -/
def told (env : Environment) (name : String) (meaning : String → Except String α) (before : α) :
    Except BadVariable α :=
  match env.value? name with
  | none => .ok before
  | some text => (meaning text).mapError fun problem => { name, problem }

variable {env : Environment} {name : String} {meaning : String → Except String α}
  {before after : α} {b : BadVariable} {s s' : Settings}

theorem value?_cases (env : Environment) (name : String) :
    (env.value? name = none ∧ ∀ text ∈ env name, text.toList.all Text.isBlank = true)
    ∨ ∃ text, env.value? name = some text ∧ env name = some text
      ∧ ¬ text.toList.all Text.isBlank = true := by
  unfold value? Text.isBlankText
  rcases env name with _ | text
  · exact .inl ⟨rfl, nofun⟩
  rcases hblank : text.toList.all Text.isBlank with _ | _
  · refine .inr ⟨text, ?_, rfl, Bool.eq_false_iff.1 hblank⟩
    rw [Option.filter_some, hblank]
    rfl
  · refine .inl ⟨?_, ?_⟩
    · rw [Option.filter_some, hblank]
      rfl
    · rintro _ ⟨⟩
      exact hblank

theorem told_ok_iff : env.told name meaning before = .ok after
    ↔ env.Sets name meaning before after := by
  unfold told Sets
  rcases env.value?_cases name with ⟨hv, hblank⟩ | ⟨text, hv, he, hblank⟩
  · rw [hv, Except.ok.injEq, eq_comm]
    rcases he : env name with _ | text
    · exact Iff.rfl
    · dsimp only
      rw [if_pos (hblank text he)]
  · rw [hv, he]
    dsimp only
    rw [if_neg hblank]
    exact mapError_eq_ok

theorem told_cases (env : Environment) (name : String) (meaning : String → Except String α)
    (before : α) : (∃ b, env.told name meaning before = .error b ∧ env.fault? name meaning = some b)
      ∨ ∃ a, env.told name meaning before = .ok a ∧ env.fault? name meaning = none := by
  unfold told fault?
  rcases env.value?_cases name with ⟨hv, hblank⟩ | ⟨text, hv, he, hblank⟩
  · rw [hv]
    refine .inr ⟨before, rfl, ?_⟩
    rcases he : env name with _ | text
    · rfl
    · exact if_pos (hblank text he)
  · rw [hv, he]
    dsimp only
    rw [if_neg hblank]
    rcases meaning text with problem | a
    · exact .inl ⟨_, rfl, rfl⟩
    · exact .inr ⟨a, rfl, rfl⟩

theorem exists_told (env : Environment) (name : String) (before : α) (f : String → α) :
    ∃ a, env.told name (.ok ∘ f) before = .ok a := by
  unfold told
  split <;> exact ⟨_, rfl⟩

theorem Sets.again (h : env.Sets name meaning before after) :
    env.Sets name meaning after after := by
  unfold Sets at h ⊢
  rcases he : env name with _ | text
  · dsimp only
  · rw [he] at h
    dsimp only at h ⊢
    split at h
    · rename_i hblank
      rw [if_pos hblank]
    · rename_i hblank
      rwa [if_neg hblank]

theorem Merges.again (h : env.Merges s s') : env.Merges s' s' where
  mode := h.mode.again
  adminUrl := h.adminUrl.again
  adminToken := h.adminToken.again
  controlPlaneUrl := h.controlPlaneUrl.again
  accessToken := h.accessToken.again
  defaultTtl := h.defaultTtl.again
  maxEntries := h.maxEntries.again
  level := h.level.again
  format := h.format.again
  readTimeout := rfl
  writeTimeout := rfl
  resilience := rfl

end Environment

variable {env : Environment} {s s' : Settings} {b : BadVariable}

/-- A variable that says the setting `get` and leaves the others as they are. -/
theorem foldlM_cons_eq {o : Override} (meaning : String → Except String α) (get : Settings → α)
    (set : Settings → α → Settings) (ho : ∀ text s, o.apply text s = (meaning text).map (set s))
    (hs : ∀ s, set s (get s) = s) (env : Environment) (os : List Override) (s : Settings) :
    (o :: os).foldlM (Override.run env) s
      = env.told o.name meaning (get s) >>= fun a => os.foldlM (Override.run env) (set s a) := by
  rw [List.foldlM_cons]
  unfold Override.run Environment.told
  rcases env.value? o.name with _ | text
  · exact congrArg (os.foldlM (Override.run env)) (hs s).symm
  · simp only [ho]
    rcases meaning text with problem | a <;> rfl

theorem apply_number (name : String) (set : Settings → Nat → Settings) (text : String)
    (s : Settings) : (Override.number name set).apply text s = (numberIn text).map (set s) := by
  simp only [Override.number, numberIn]
  rcases Text.natural (2 ^ 64) (Text.trimmed text) with e | n <;> rfl

/-- The variables one after the other. -/
theorem withEnvironment_eq (env : Environment) (s : Settings) : s.withEnvironment env = (do
    let mode ← env.told "ISSUER_GATEWAY_MODE" modeIn s.gateway.mode
    let adminUrl ← env.told "ISSUER_GATEWAY_ADMIN_URL" (.ok ∘ some) s.gateway.adminUrl
    let adminToken ← env.told "ISSUER_GATEWAY_ADMIN_TOKEN" (.ok ∘ some) s.gateway.adminToken
    let controlPlaneUrl ←
      env.told "ISSUER_CONTROL_PLANE_URL" (.ok ∘ some) s.gateway.controlPlaneUrl
    let accessToken ← env.told "ISSUER_ACCESS_TOKEN" (.ok ∘ some) s.gateway.accessToken
    let defaultTtl ← env.told "ISSUER_CACHE_TTL_SECONDS" secondsIn s.cache.defaultTtl
    let maxEntries ← env.told "ISSUER_CACHE_MAX_ENTRIES" numberIn s.cache.maxEntries
    let level ← env.told "ISSUER_LOG_LEVEL" .ok s.logging.level
    let format ← env.told "ISSUER_LOG_FORMAT" formatIn s.logging.format
    .ok { s with
      gateway := { s.gateway with mode, adminUrl, adminToken, controlPlaneUrl, accessToken }
      cache := { defaultTtl, maxEntries }
      logging := { level, format } }) := by
  unfold withEnvironment overrides
  refine (foldlM_cons_eq modeIn (·.gateway.mode)
    (fun s mode => { s with gateway.mode := mode })
    ?mode (fun _ => rfl) ..).trans <| bind_congr fun mode => ?_
  case mode =>
    intro text s
    dsimp only [modeIn]
    rcases GatewayMode.ofWord text with word | mode <;> rfl
  refine (foldlM_cons_eq (.ok ∘ some) (·.gateway.adminUrl)
    (fun s url => { s with gateway.adminUrl := url })
    (fun _ _ => rfl) (fun _ => rfl) ..).trans <| bind_congr fun adminUrl => ?_
  refine (foldlM_cons_eq (.ok ∘ some) (·.gateway.adminToken)
    (fun s token => { s with gateway.adminToken := token })
    (fun _ _ => rfl) (fun _ => rfl) ..).trans <| bind_congr fun adminToken => ?_
  refine (foldlM_cons_eq (.ok ∘ some) (·.gateway.controlPlaneUrl)
    (fun s url => { s with gateway.controlPlaneUrl := url })
    (fun _ _ => rfl) (fun _ => rfl) ..).trans <| bind_congr fun controlPlaneUrl => ?_
  refine (foldlM_cons_eq (.ok ∘ some) (·.gateway.accessToken)
    (fun s token => { s with gateway.accessToken := token })
    (fun _ _ => rfl) (fun _ => rfl) ..).trans <| bind_congr fun accessToken => ?_
  refine (foldlM_cons_eq secondsIn (·.cache.defaultTtl)
    (fun s ttl => { s with cache.defaultTtl := ttl })
    ?ttl (fun _ => rfl) ..).trans <| bind_congr fun defaultTtl => ?_
  case ttl =>
    intro text s
    rw [apply_number, secondsIn]
    rcases numberIn text with e | n <;> rfl
  refine (foldlM_cons_eq numberIn (·.cache.maxEntries)
    (fun s n => { s with cache.maxEntries := n })
    (apply_number _ _) (fun _ => rfl) ..).trans <| bind_congr fun maxEntries => ?_
  refine (foldlM_cons_eq .ok (·.logging.level)
    (fun s level => { s with logging.level := level })
    (fun _ _ => rfl) (fun _ => rfl) ..).trans <| bind_congr fun level => ?_
  refine (foldlM_cons_eq formatIn (·.logging.format)
    (fun s format => { s with logging.format := format })
    ?format (fun _ => rfl) ..).trans <| bind_congr fun format => rfl
  intro text s
  dsimp only [formatIn]
  rcases LogFormat.ofWord text with word | format <;> rfl

theorem withEnvironment_ok_iff : s.withEnvironment env = .ok s' ↔ env.Merges s s' := by
  simp only [withEnvironment_eq]
  constructor
  · intro h
    obtain ⟨mode, hmode, h⟩ := ok_of_bind h
    obtain ⟨adminUrl, hadminUrl, h⟩ := ok_of_bind h
    obtain ⟨adminToken, hadminToken, h⟩ := ok_of_bind h
    obtain ⟨controlPlaneUrl, hcontrolPlaneUrl, h⟩ := ok_of_bind h
    obtain ⟨accessToken, haccessToken, h⟩ := ok_of_bind h
    obtain ⟨defaultTtl, hdefaultTtl, h⟩ := ok_of_bind h
    obtain ⟨maxEntries, hmaxEntries, h⟩ := ok_of_bind h
    obtain ⟨level, hlevel, h⟩ := ok_of_bind h
    obtain ⟨format, hformat, h⟩ := ok_of_bind h
    cases h
    exact ⟨Environment.told_ok_iff.1 hmode, Environment.told_ok_iff.1 hadminUrl,
      Environment.told_ok_iff.1 hadminToken, Environment.told_ok_iff.1 hcontrolPlaneUrl,
      Environment.told_ok_iff.1 haccessToken, Environment.told_ok_iff.1 hdefaultTtl,
      Environment.told_ok_iff.1 hmaxEntries, Environment.told_ok_iff.1 hlevel,
      Environment.told_ok_iff.1 hformat, rfl, rfl, rfl⟩
  · rintro ⟨hmode, hadminUrl, hadminToken, hcontrolPlaneUrl, haccessToken, hdefaultTtl,
      hmaxEntries, hlevel, hformat, hreadTimeout, hwriteTimeout, hresilience⟩
    rw [Environment.told_ok_iff.2 hmode, Environment.told_ok_iff.2 hadminUrl,
      Environment.told_ok_iff.2 hadminToken, Environment.told_ok_iff.2 hcontrolPlaneUrl,
      Environment.told_ok_iff.2 haccessToken, Environment.told_ok_iff.2 hdefaultTtl,
      Environment.told_ok_iff.2 hmaxEntries, Environment.told_ok_iff.2 hlevel,
      Environment.told_ok_iff.2 hformat]
    rcases s' with ⟨gateway', cache', resilience', logging'⟩
    obtain rfl : resilience' = s.resilience := hresilience
    obtain ⟨mode, adminUrl, adminToken, controlPlaneUrl, accessToken, readTimeout, writeTimeout⟩ :=
      gateway'
    obtain rfl : readTimeout = s.gateway.readTimeout := hreadTimeout
    obtain rfl : writeTimeout = s.gateway.writeTimeout := hwriteTimeout
    rfl

theorem withEnvironment_error_iff :
    s.withEnvironment env = .error b ↔ env.faults.head? = some b := by
  obtain ⟨adminUrl, hadminUrl⟩ := env.exists_told "ISSUER_GATEWAY_ADMIN_URL" s.gateway.adminUrl some
  obtain ⟨adminToken, hadminToken⟩ :=
    env.exists_told "ISSUER_GATEWAY_ADMIN_TOKEN" s.gateway.adminToken some
  obtain ⟨controlPlaneUrl, hcontrolPlaneUrl⟩ :=
    env.exists_told "ISSUER_CONTROL_PLANE_URL" s.gateway.controlPlaneUrl some
  obtain ⟨accessToken, haccessToken⟩ :=
    env.exists_told "ISSUER_ACCESS_TOKEN" s.gateway.accessToken some
  obtain ⟨level, hlevel⟩ := env.exists_told "ISSUER_LOG_LEVEL" s.logging.level id
  rw [Function.comp_id] at hlevel
  simp only [withEnvironment_eq, Environment.faults, hadminUrl, hadminToken, hcontrolPlaneUrl,
    haccessToken, hlevel]
  -- Of the four that can be complained about, the first complaint ends the merging.
  rcases env.told_cases "ISSUER_GATEWAY_MODE" modeIn s.gateway.mode with
    ⟨b', ht, hf⟩ | ⟨mode, ht, hf⟩
  · simp [ht, hf, bind, Except.bind]
  simp only [ht, hf, List.reduceOption_cons_of_none]
  rcases env.told_cases "ISSUER_CACHE_TTL_SECONDS" secondsIn s.cache.defaultTtl with
    ⟨b', ht, hf⟩ | ⟨ttl, ht, hf⟩
  · simp [ht, hf, bind, Except.bind]
  simp only [ht, hf, List.reduceOption_cons_of_none]
  rcases env.told_cases "ISSUER_CACHE_MAX_ENTRIES" numberIn s.cache.maxEntries with
    ⟨b', ht, hf⟩ | ⟨maxEntries, ht, hf⟩
  · simp [ht, hf, bind, Except.bind]
  simp only [ht, hf, List.reduceOption_cons_of_none]
  rcases env.told_cases "ISSUER_LOG_FORMAT" formatIn s.logging.format with
    ⟨b', ht, hf⟩ | ⟨format, ht, hf⟩
  · simp [ht, hf, bind, Except.bind]
  · simp [ht, hf, bind, Except.bind]

theorem faults_eq_nil_of_merges (h : env.Merges s s') : env.faults = [] := by
  rw [← List.head?_eq_none_iff, Option.eq_none_iff_forall_ne_some]
  intro b hb
  rw [← withEnvironment_error_iff (s := s), withEnvironment_ok_iff.2 h] at hb
  cases hb

/-- An environment without complaints says what settings are to be. -/
theorem faults_eq_nil_iff : env.faults = [] ↔ ∃! s', env.Merges s s' := by
  constructor
  · intro hf
    rcases h : s.withEnvironment env with b | s'
    · rw [withEnvironment_error_iff, hf] at h
      cases h
    · exact ⟨s', withEnvironment_ok_iff.1 h, fun t ht =>
        Except.ok.inj ((withEnvironment_ok_iff.2 ht).symm.trans h)⟩
  · rintro ⟨s', hs, -⟩
    exact faults_eq_nil_of_merges hs

/-- The settings before the environment is asked. -/
def base (read : FileReader) : Option String → Except SettingsError Settings
  | some path => ofFile read path
  | none => .ok {}

theorem checked_ok_iff : s.checked = .ok s' ↔ s' = s ∧ s.check = .ok () := by
  unfold checked
  split
  · rename_i hc
    rw [Except.ok.injEq, and_iff_left hc, eq_comm]
  · rename_i hc
    simp only [hc, reduceCtorEq, and_false]

section
variable {read : FileReader} {file : Option String}

theorem load_eq (hb : base read file = .ok s) : load read file (some env)
    = (s.withEnvironment env).mapError .badVariable >>= checked := by
  rcases file with _ | path
  · cases hb
    rfl
  · exact congrArg (· >>= fun s => (s.withEnvironment env).mapError .badVariable >>= checked) hb

theorem load_of_base_error {e : SettingsError} (hb : base read file = .error e) :
    load read file (some env) = .error e := by
  rcases file with _ | path
  · cases hb
  · exact congrArg (· >>= fun s => (s.withEnvironment env).mapError .badVariable >>= checked) hb

theorem load_of_merges (hb : base read file = .ok s) (h : env.Merges s s') :
    load read file (some env) = s'.checked := by
  rw [load_eq hb, withEnvironment_ok_iff.2 h]
  rfl

theorem load_of_fault (hb : base read file = .ok s) (h : env.faults.head? = some b) :
    load read file (some env) = .error (.badVariable b) := by
  rw [load_eq hb, withEnvironment_error_iff.2 h]
  rfl

theorem load_ok_iff (hb : base read file = .ok s) :
    load read file (some env) = .ok s' ↔ env.Merges s s' ∧ s'.check = .ok () := by
  constructor
  · intro h
    rcases hw : s.withEnvironment env with b | t
    · rw [load_of_fault hb (withEnvironment_error_iff.1 hw)] at h
      cases h
    · rw [load_of_merges hb (withEnvironment_ok_iff.1 hw), checked_ok_iff] at h
      obtain ⟨rfl, hc⟩ := h
      exact ⟨withEnvironment_ok_iff.1 hw, hc⟩
  · rintro ⟨hm, hc⟩
    rw [load_of_merges hb hm, checked_ok_iff]
    exact ⟨rfl, hc⟩

end

/-- Loading ends in what the environment and the settings before it make together, if the
environment is without complaint and the outcome without fault; otherwise in the first complaint,
whatever else is wrong, or in the fault. -/
theorem load_merges (read : FileReader) (file : Option String) (env : Environment) :
    (∀ e, base read file = .error e → load read file (some env) = .error e)
    ∧ ∀ s, base read file = .ok s →
      ((∃ s', load read file (some env) = .ok s') ↔
        env.faults = [] ∧ ∃ s', env.Merges s s' ∧ s'.check = .ok ())
      ∧ (env.faults = [] ↔ ∃! s', env.Merges s s')
      ∧ (∀ s', load read file (some env) = .ok s' → env.Merges s s')
      ∧ (∀ s', s.withEnvironment env = .ok s' → s'.withEnvironment env = .ok s')
      ∧ (∀ b, env.faults.head? = some b → load read file (some env) = .error (.badVariable b))
      ∧ ∀ s' fault, env.Merges s s' → s'.check = .error fault →
        load read file (some env) = .error (.invalid fault) := by
  refine ⟨fun e he => load_of_base_error he, fun s hs => ⟨?_, faults_eq_nil_iff,
    fun s' h => ((load_ok_iff hs).1 h).1, fun s' h => ?_, fun b hb => load_of_fault hs hb,
    fun s' fault hm hc => ?_⟩⟩
  · have hfaults (h : ∃ s', env.Merges s s' ∧ s'.check = .ok ()) : env.faults = [] := by
      obtain ⟨s', hm, -⟩ := h
      exact faults_eq_nil_of_merges hm
    simp only [load_ok_iff hs]
    exact ⟨fun h => ⟨hfaults h, h⟩, fun h => h.2⟩
  · exact withEnvironment_ok_iff.2 (withEnvironment_ok_iff.1 h).again
  · rw [load_of_merges hs hm, checked, hc]

/-- The format is no word for one either, and no URL is given. -/
example : load (fun _ => .error "no file") none (some fun name =>
    if name = "ISSUER_CACHE_TTL_SECONDS" then some " soon "
    else if name = "ISSUER_LOG_FORMAT" then some "xml"
    else none)
    = .error (.badVariable {
      name := "ISSUER_CACHE_TTL_SECONDS"
      problem := "invalid digit found in string" }) := by
  decide +kernel

end SecretBroker.Settings
