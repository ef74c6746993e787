import Mathlib.Data.Set.List
import SecretBroker.Command.Journal
import SecretBroker.Command.Usage
import SecretBroker.Proofs.Broker.Sessionwise
import SecretBroker.Proofs.Gateway.Patience

/-!
# Verdicts

Where JSON is asked for, a command answers with one document or with none. The document has the
command's verdict as one of its entries, and the exit status says the same: it is zero where there
is a document whose verdict is good, and nowhere else (`run_agrees`). Whoever reads only one of the
two is not misled. The lines of the log, which stand around the answer on the same channel, are no
part of it: a healthy gateway is told by the last of several documents there (`health_logged`).
-/

namespace SecretBroker

/-- The entry that has the verdict in what a command answers. -/
def Command.verdictName : Command → String
  | .health => "healthy"
  | .getSecret _ _ | .createSecret _ _ => "success"
  | .validate => "valid"

namespace Report

/-- The report answers with these documents and says nothing else, and its exit status agrees with
the verdict in them. -/
structure Agrees (r : Report) (verdict : String) (documents : List Json.Value) : Prop where
  lines : r.lines = documents.map Report.json
  well : r.exitStatus = 0 ↔ ∃ v, documents = [v] ∧ v.get? verdict = some (.bool true)
  ill : r.exitStatus ≠ 0 →
    documents = [] ∨ ∃ v, documents = [v] ∧ v.get? verdict = some (.bool false)

variable {r : Report} {verdict : String}

theorem exitStatus_eq_zero_iff : r.exitStatus = 0 ↔ r.failure.isNone = true := by
  unfold exitStatus
  split
  · rename_i h
    simp [h]
  · rename_i h
    simp [h]

theorem agrees_document {v : Json.Value} {good : Bool} (hl : r.lines = [Report.json v])
    (hv : v.get? verdict = some (.bool good)) (hf : r.failure.isNone = good) :
    r.Agrees verdict [v] where
  lines := hl
  well := by
    rw [exitStatus_eq_zero_iff, hf]
    constructor
    · rintro rfl
      exact ⟨v, rfl, hv⟩
    · rintro ⟨v', hv', hgood⟩
      cases hv'
      rw [hv] at hgood
      cases hgood
      rfl
  ill := by
    rw [ne_eq, exitStatus_eq_zero_iff, hf, Bool.not_eq_true]
    rintro rfl
    exact .inr ⟨v, rfl, hv⟩

theorem agrees_failed (f : Failure) (verdict : String) : (failed f).Agrees verdict [] where
  lines := rfl
  well := by simp [failed, exitStatus]
  ill _ := .inl rfl

theorem answers_of_lines {documents : List Json.Value} (h : r.lines = documents.map Report.json) :
    r.answers = "".intercalate (documents.map fun v => v.pretty ++ "\n") := by
  rw [answers, h, List.filterMap_map, ← List.filterMap_eq_map]
  rfl

end Report

namespace Invocation

theorem validation_agrees (loaded : Except SettingsError Settings) :
    ∃ documents, (validation true loaded).Agrees "valid" documents := by
  rcases loaded with e | s
  · exact ⟨_, Report.agrees_document rfl rfl rfl⟩
  · refine ⟨_, Report.agrees_document rfl ?_ rfl⟩
    rcases s.gateway.url with _ | url
    · rfl
    · rfl

theorem healthReport_agrees (mode : GatewayMode) (breakers : Breaker.Registry) (h : Health) :
    ∃ documents, (healthReport true mode breakers h).Agrees "healthy" documents := by
  have hv : h.toJson.get? "healthy" = some (.bool h.healthy) := by
    rcases h with ⟨healthy, millis, _ | e⟩
    · rfl
    · rfl
  have hf : (healthReport true mode breakers h).failure.isNone = h.healthy := by
    rcases h with ⟨_ | _, millis, error⟩
    · rfl
    · rfl
  exact ⟨_, Report.agrees_document rfl hv hf⟩

theorem secretReport_agrees (consumer : String) (inClear : Bool) (found : Option ConsumerSecret) :
    ∃ documents, (secretReport true consumer inClear found).Agrees "success" documents := by
  rcases found with _ | secret
  · exact ⟨_, Report.agrees_document rfl rfl rfl⟩
  · exact ⟨_, Report.agrees_document rfl rfl rfl⟩

theorem attemptReport_agrees (consumer : String) (inClear : Bool)
    (r : Except GatewayError (Option ConsumerSecret)) :
    ∃ documents,
      (attemptReport (secretReport true consumer inClear) r).Agrees "success" documents := by
  rcases r with e | found
  · exact ⟨[], Report.agrees_failed e.toFailure _⟩
  · exact secretReport_agrees consumer inClear found

end Invocation

namespace Broker

variable (b : Broker) {s : State}

theorem health_ne_none (hs : s.session.Patient) : (b.health s).1 ≠ none := by
  have h := (b.gateway.returns_put b.healthCall s.session hs).1
  rw [health_apply]
  exact mt Option.map_eq_none_iff.1 h

theorem get_ne_none (id : String) (hs : s.session.Patient) : (b.get id s).1 ≠ none := by
  rw [get_apply]
  rcases s.cache.get id s.session.now with ⟨_ | secret, cache⟩
  · dsimp only
    rw [fetch_apply]
    exact (b.gateway.returns_enquire id _ _ s.session hs).1
  · exact Option.some_ne_none _

theorem create_ne_none (id : String) (fresh : NewCredential) (hs : s.session.Patient) :
    (b.create id fresh s).1 ≠ none := by
  rw [create_apply]
  exact (b.gateway.returns_enquire id _ _ s.session hs).1

end Broker

namespace Invocation

variable {i : Invocation} {b : Broker} {fresh : NewCredential} {s : Broker.State}

theorem consult_health (hc : i.command = .health) : (i.consult b fresh s).1
    = (b.health s).1.map (healthReport i.asJson b.mode (b.health s).2.session.breakers) := by
  unfold consult
  rw [hc]
  dsimp only
  rw [bind_apply]
  rcases b.health s with ⟨_ | h, s'⟩
  · rfl
  · rfl

theorem reported_apply {α : Type} (x : Broker.Attempt α) (report : α → Report) (s : Broker.State) :
    (do return attemptReport report (← x.run) : Broker.Task Report) s
      = ((x s).1.map (attemptReport report), (x s).2) := by
  rw [bind_apply, ExceptT.run]
  rcases x s with ⟨_ | r, s'⟩
  · rfl
  · rfl

theorem agrees_of_map {α : Type} {x : Option α} {report : α → Report} {verdict : String}
    (hx : x ≠ none) (h : ∀ a, ∃ documents, (report a).Agrees verdict documents) :
    ∃ r documents, x.map report = some r ∧ r.Agrees verdict documents := by
  obtain ⟨a, rfl⟩ := Option.ne_none_iff_exists'.1 hx
  obtain ⟨documents, hd⟩ := h a
  exact ⟨report a, documents, rfl, hd⟩

theorem consult_agrees (b : Broker) (fresh : NewCredential) (hj : i.asJson = true)
    (hc : i.command ≠ .validate) (hs : s.session.Patient) : ∃ r documents,
      (i.consult b fresh s).1 = some r ∧ r.Agrees i.command.verdictName documents := by
  rcases hi : i.command with _ | ⟨consumer, inClear⟩ | ⟨consumer, inClear⟩ | _
  · rw [consult_health hi, hj]
    exact agrees_of_map (b.health_ne_none hs) fun h => healthReport_agrees _ _ h
  · unfold consult
    rw [hi, hj]
    dsimp only
    rw [reported_apply]
    exact agrees_of_map (b.get_ne_none consumer hs) fun r => attemptReport_agrees _ _ r
  · unfold consult
    rw [hi, hj]
    dsimp only
    rw [reported_apply]
    exact agrees_of_map (b.create_ne_none consumer fresh hs) fun r => attemptReport_agrees _ _ r
  · exact absurd hi hc

theorem run_validate {w : Surroundings} (hc : i.command = .validate) :
    i.run w = (validation i.asJson (i.settings w), w.session) := by
  unfold run
  rw [hc]

theorem run_of_ne {w : Surroundings} (hc : i.command ≠ .validate) :
    i.run w = match i.prepare w with
      | .error f => (.failed f, w.session)
      | .ok (settings, b) => ((i.consult b w.fresh (startState w settings)).1.getD {},
        (i.consult b w.fresh (startState w settings)).2.session) := by
  unfold run
  split
  · exact absurd ‹_› hc
  · rcases i.prepare w with f | ⟨settings, b⟩
    · rfl
    · rfl

theorem agrees_of_patient {w : Surroundings} (hj : i.asJson = true) (hd : w.session.Patient) :
    ∃ documents, (i.run w).1.Agrees i.command.verdictName documents := by
  by_cases hc : i.command = .validate
  · rw [run_validate hc, hc, hj]
    exact validation_agrees (i.settings w)
  rw [run_of_ne hc]
  rcases i.prepare w with f | ⟨settings, b⟩
  · exact ⟨[], Report.agrees_failed f _⟩
  · -- The empty report stands for a command that was abandoned, and this one is not.
    have hs : (startState w settings).session.Patient := hd
    obtain ⟨r, documents, hr, h⟩ := consult_agrees b w.fresh hj hc hs
    dsimp only
    rw [hr]
    exact ⟨documents, h⟩

theorem exists_of_mem_lines {layer : Log.Layer} {setup : Log.Setup} {first : Nat}
    {events : List Log.Event} {line : String} (h : line ∈ layer.lines setup first events) :
    ∃ n e, layer setup n e = some line := by
  obtain ⟨⟨e, n⟩, -, hline⟩ := List.mem_filterMap.1 h
  exact ⟨n, e, hline⟩

theorem exists_of_mem_logLines {layer : Log.Layer} {others : OtherEvents} {w : Surroundings}
    {line : String}
    (h : line ∈ (i.logLines layer others w).1 ∨ line ∈ (i.logLines layer others w).2) :
    ∃ setup n e, layer setup n e = some line := by
  unfold logLines at h
  rcases hj : i.journal w with _ | ⟨setup, own⟩
  · rw [hj] at h
    rcases h with h | h
    · cases h
    · cases h
  · rw [hj] at h
    rcases h with h | h
    · exact ⟨setup, exists_of_mem_lines h⟩
    · exact ⟨setup, exists_of_mem_lines h⟩

theorem logLines_snd {layer : Log.Layer} {others : OtherEvents} {w : Surroundings}
    (h : others.behind = []) : (i.logLines layer others w).2 = [] := by
  unfold logLines
  rcases i.journal w with _ | ⟨setup, own⟩
  · rfl
  · dsimp only
    rw [h]
    rfl

theorem logLines_of_validate {layer : Log.Layer} {others : OtherEvents} {w : Surroundings}
    (hc : i.command = .validate) : i.logLines layer others w = ([], []) := by
  unfold logLines journal
  rw [hc]

/-- Whoever validates settings asks the gateway nothing. Where JSON is asked for and nobody walks
away, a command answers with one document or none, and its exit status says what the verdict does.
On the channel for answers the lines of the log stand around that, and nothing else; a command that
validates settings keeps no log. -/
theorem run_agrees (i : Invocation) (layer : Log.Layer) (others : OtherEvents) (w : Surroundings) :
    (i.command = .validate → (i.run w).2.sent = w.session.sent)
    ∧ (i.asJson = true → w.session.deadline = none → ∃ documents before behind,
      (i.run w).1.Agrees i.command.verdictName documents
      ∧ i.output layer others w = "".intercalate before
        ++ "".intercalate (documents.map fun v => v.pretty ++ "\n") ++ "".intercalate behind
      ∧ (∀ line, line ∈ before ∨ line ∈ behind → ∃ setup n e, layer setup n e = some line)
      ∧ (i.command = .validate → before = [] ∧ behind = [])) := by
  refine ⟨fun hc => ?_, fun hj hd => ?_⟩
  · rw [run_validate hc]
  · obtain ⟨documents, h⟩ := agrees_of_patient hj hd
    refine ⟨documents, (i.logLines layer others w).1, (i.logLines layer others w).2, h, ?_,
      fun line => exists_of_mem_logLines, fun hc => ?_⟩
    · rw [output, Report.answers_of_lines h.lines]
    · rw [logLines_of_validate hc]
      exact ⟨rfl, rfl⟩

/-- A gateway's own interface on the machine itself, which knows nobody. -/
def nobodyKnown : Surroundings where
  read _ := .error "No such file or directory (os error 2)"
  env name := if name = "ISSUER_GATEWAY_ADMIN_URL" then some "http://[::1]:8001" else none
  session := {}
  fresh := { key := "", secret := "" }

/-- A question for a secret, with the answer wanted as JSON. -/
def askForSecret : Invocation where
  command := .getSecret "alice" false
  asJson := true

/-- Settings to be validated, with the answer wanted as JSON. -/
def askForFaults : Invocation where
  command := .validate
  asJson := true

/-- An event as a document of the log, as it is told at the turn of a year. -/
def document (e : Log.Event) : Json.Value :=
  .object [("timestamp", .string "2024-01-01T00:00:00.000000Z"), ("level", .string e.level.name),
    ("fields", .object (("message", .string e.message) :: e.fields)), ("target", .string e.target)]

/-- A log layer that writes documents and whose filter lets through what is no detail. -/
def infoLines : Log.Layer := fun setup _ e =>
  if setup.filter = "info" ∧ setup.format = .json ∧ e.level ∈ [.error, .warn, .info] then
    some ((document e).compact ++ "\n")
  else none

theorem run_agrees_unknown :
    (askForSecret.run nobodyKnown).1.exitStatus = 1
    ∧ (∃ documents before behind, (askForSecret.run nobodyKnown).1.Agrees "success" documents
      ∧ askForSecret.output infoLines {} nobodyKnown = "".intercalate before
        ++ "".intercalate (documents.map fun v => v.pretty ++ "\n") ++ "".intercalate behind)
    ∧ (askForFaults.run nobodyKnown).1.exitStatus = 0
    ∧ (askForFaults.run nobodyKnown).2.sent = []
    ∧ ∃ documents, (askForFaults.run nobodyKnown).1.Agrees "valid" documents
      ∧ askForFaults.output infoLines {} nobodyKnown
        = "".intercalate (documents.map fun v => v.pretty ++ "\n") := by
  obtain ⟨documents, before, behind, hagrees, hout, -⟩ :=
    (run_agrees askForSecret infoLines {} nobodyKnown).2 rfl rfl
  obtain ⟨hsent, hfaults⟩ := run_agrees askForFaults infoLines {} nobodyKnown
  obtain ⟨documents', before', behind', hagrees', hout', -, hnone⟩ := hfaults rfl rfl
  obtain ⟨rfl, rfl⟩ := hnone rfl
  exact ⟨by decide +kernel, ⟨documents, before, behind, hagrees, hout⟩, by decide +kernel,
    hsent rfl, documents', hagrees', hout'.trans (String.empty_append.trans String.append_empty)⟩

/-- A check of the gateway's health, with the answer wanted as JSON. -/
def askForHealth : Invocation where
  command := .health
  asJson := true

/-- The same interface, in good health. -/
def inGoodHealth : Surroundings :=
  { nobodyKnown with session := { later := fun _ => .answer 200 "" .zero } }

/-- The exit status may be zero where there is more than one document or none: a healthy gateway is
reported behind three lines of the log, which are documents of their own, and whoever asks for help
gets that and no document. -/
theorem health_logged :
    ofWords ["--json", "health"] none = .ok askForHealth
    ∧ (askForHealth.run inGoodHealth).1.exitStatus = 0
    ∧ (∃ (logged : List Json.Value) (report : Json.Value), logged.length = 3
      ∧ askForHealth.output infoLines {} inGoodHealth
        = "".intercalate (logged.map fun v => v.compact ++ "\n") ++ (report.pretty ++ "\n"))
    ∧ ofWords ["--json", "--help"] none = .error .helpAsked
    ∧ UsageFault.helpAsked.exitStatus = 0 := by
  have hstatus : (askForHealth.run inGoodHealth).1.exitStatus = 0 := by decide +kernel
  refine ⟨by decide +kernel, hstatus, ?_, by decide +kernel, rfl⟩
  obtain ⟨documents, h⟩ := agrees_of_patient (i := askForHealth) (w := inGoodHealth) rfl rfl
  obtain ⟨report, rfl, -⟩ := h.well.1 hstatus
  have hdocuments : (askForHealth.logLines infoLines {} inGoodHealth).1
      ∈ Set.range (List.map fun v : Json.Value => v.compact ++ "\n") := by
    rw [Set.range_list_map]
    intro line hline
    obtain ⟨setup, n, e, he⟩ := exists_of_mem_logLines (.inl hline)
    unfold infoLines at he
    split at he
    · exact ⟨document e, Option.some.inj he⟩
    · cases he
  obtain ⟨logged, hlogged⟩ := hdocuments
  refine ⟨logged, report, ?_, ?_⟩
  · rw [← List.length_map (fun v : Json.Value => v.compact ++ "\n"), hlogged]
    decide +kernel
  · rw [output]
    dsimp only
    rw [← hlogged, logLines_snd rfl, Report.answers_of_lines h.lines]
    exact String.append_empty

end Invocation
end SecretBroker
