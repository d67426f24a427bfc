import ThingsboardMqtt.Library.Trace
import ThingsboardMqtt.Ota.Outcomes

set_option autoImplicit false

/-! # The order of state reports

A device reports `fw_state` telemetry and calls `on_ota_updated`. `reportLaw` is the law of these
reports as a monitor: a download starts with `DOWNLOADING`, goes through `DOWNLOADED`, `VERIFIED`
and `UPDATING`, and is concluded by `UPDATED` with `on_ota_updated(true)` or by `FAILED` with
`on_ota_updated(false)`; outside of a download only `FAILED` is reported.

No state of the code says where in this order it is. The invariant is that between two events the
monitor is in `downloading` while the session has a request id and in `idle` otherwise. Two kinds
of events break it: a shared-attribute message during a download, which resets the session without
a conclusion or reports a failure of a download that goes on, and a chunk response with request id
zero, which concludes a session that never started. `OrderlyEvent` excludes them. -/

namespace ThingsboardMqtt

open Execution ListWalk Trace

/-! ## The law -/

/-- What the server and the application get to see of an update. -/
inductive OtaReport
  | downloading
  | downloaded
  | verified
  | updating
  | updated
  | failed
  | concluded (success : Bool)
  deriving DecidableEq, Repr

/-- The report a value of `fw_state` is. -/
def fwStateReport (value : String) : Option OtaReport :=
  if value = "DOWNLOADING" then some .downloading
  else if value = "DOWNLOADED" then some .downloaded
  else if value = "VERIFIED" then some .verified
  else if value = "UPDATING" then some .updating
  else if value = "UPDATED" then some .updated
  else if value = "FAILED" then some .failed
  else none

def OtaAction.report : OtaAction → Option OtaReport
  | .telemetry _ payload =>
    (Cjson.getStringValue (payload.getObjectItem (otaKeys .fw).state)).bind fwStateReport
  | .otaUpdated _ success => some (.concluded success)
  | _ => none

/-- Where in an update the reports are; `succeeded` and `failed` wait for `on_ota_updated`. -/
inductive ReportPhase
  | idle
  | downloading
  | downloaded
  | verified
  | updating
  | succeeded
  | failed
  deriving DecidableEq, Repr

/-- The law of the reports. -/
def reportLaw : Monitor ReportPhase OtaReport where
  next
    | .idle, .downloading => some .downloading
    | .idle, .failed => some .idle
    | .downloading, .downloaded => some .downloaded
    | .downloading, .failed => some .failed
    | .downloaded, .verified => some .verified
    | .downloaded, .failed => some .failed
    | .verified, .updating => some .updating
    | .verified, .failed => some .failed
    | .updating, .updated => some .succeeded
    | .updating, .failed => some .failed
    | .succeeded, .concluded true => some .idle
    | .failed, .concluded false => some .idle
    | _, _ => none

def reports (trace : List OtaAction) : List OtaReport := trace.filterMap OtaAction.report

/-- The reports follow the law, and the only download without a conclusion is one in progress. -/
def Orderly (world : OtaWorld) : Prop :=
  reportLaw.read .idle (reports world.dev.trace) = some .idle ∨
    reportLaw.read .idle (reports world.dev.trace) = some .downloading

/-- No update is announced during a download, and no chunk response has the request id of idle
    sessions. -/
def OrderlyEvent (world : OtaWorld) : OtaEvent → Prop
  | .sharedAttributes object _ =>
    announcedTitle object ≠ none → ∀ session ∈ world.otaupdateList, session.state.requestId = 0
  | .chunkData requestId _ _ _ =>
    ∀ session ∈ addressedSession requestId world, requestId ≠ 0
  | _ => True

instance (world : OtaWorld) : Decidable (Orderly world) := inferInstanceAs (Decidable (_ ∨ _))

instance (world : OtaWorld) : ∀ event : OtaEvent, Decidable (OrderlyEvent world event)
  | .sharedAttributes object _ =>
    match h : announcedTitle object with
    | none => .isTrue fun htitle => absurd h htitle
    | some _ => decidable_of_iff (∀ session ∈ world.otaupdateList, session.state.requestId = 0)
        ⟨fun hall _ => hall, fun hall => hall (by simp [h])⟩
  | .chunkData requestId _ _ _ =>
    inferInstanceAs (Decidable (∀ session ∈ addressedSession requestId world, requestId ≠ 0))
  | .checkTimeout _ => inferInstanceAs (Decidable True)
  | .disconnected => inferInstanceAs (Decidable True)
  | .environment _ => inferInstanceAs (Decidable True)

/-! ## The reports of the parts -/

theorem reports_append (trace actions : List OtaAction) :
    reports (trace ++ actions) = reports trace ++ reports actions := List.filterMap_append

theorem reports_cons {action : OtaAction} {report : OtaReport} (h : action.report = some report)
    (rest : List OtaAction) : reports (action :: rest) = report :: reports rest := by
  rw [reports, List.filterMap_cons, h]
  rfl

theorem reports_cons_silent {action : OtaAction} (h : action.report = none)
    (rest : List OtaAction) : reports (action :: rest) = reports rest := by
  rw [reports, List.filterMap_cons, h]
  rfl

theorem report_stateStatus (who : Option Nat) (title version : Option String) (value : String) :
    (OtaAction.telemetry who (stateStatus .fw title version value)).report
      = fwStateReport value := by
  have htitle : strcaseEq "fw_state" "current_fw_title" = false := by decide
  have hversion : strcaseEq "fw_state" "current_fw_version" = false := by decide
  have hstate : strcaseEq "fw_state" "fw_state" = true := by decide
  -- the members of the title and the version may be absent; the look-up passes over them
  cases title <;> cases version <;>
    simp [OtaAction.report, stateStatus, otaKeys, Cjson.addStringToObject, Cjson.getObjectItem,
      Cjson.getStringValue, htitle, hversion, hstate]

theorem report_failedStatus (who : Option Nat) (text : String) :
    (OtaAction.telemetry who (failedStatus .fw (some text))).report = some .failed := by
  have hstate : strcaseEq "fw_state" "fw_state" = true := by decide
  simp [OtaAction.report, failedStatus, otaKeys, Cjson.addStringToObject, Cjson.getObjectItem,
    Cjson.getStringValue, hstate, fwStateReport]

section Session

variable {session : Otaupdate} (hfw : session.config.otaType = .fw)

include hfw

theorem report_goingTelemetry (value : String) (answers : OtaAnswers) :
    (goingTelemetry session value answers).report = fwStateReport value := by
  rw [goingTelemetry, hfw, report_stateStatus]

theorem report_failedTelemetry (text : String) :
    (failedTelemetry session text).report = some .failed := by
  rw [failedTelemetry, hfw, report_failedStatus]

theorem report_earlyFailedTelemetry (text : String) :
    (earlyFailedTelemetry session text).report = some .failed := by
  rw [earlyFailedTelemetry, hfw, report_failedStatus]

theorem reports_failure (text : String) (next : Otaupdate) :
    reports (failedTelemetry session text :: failureActions next)
      = [.failed, .concluded false] := by
  rw [reports_cons (report_failedTelemetry hfw text), failureActions]
  cases next.busy <;> rfl

theorem reports_verifiedActions (answers : OtaAnswers) :
    reports (verifiedActions session answers) = [.downloaded, .verified, .updating] := by
  rw [verifiedActions, reports_cons (report_goingTelemetry hfw "DOWNLOADED" answers),
    reports_cons (report_goingTelemetry hfw "VERIFIED" answers),
    reports_cons (report_goingTelemetry hfw "UPDATING" answers)]
  rfl

theorem reports_successActions :
    reports (successActions session) = [.updated, .concluded true] := by
  rw [successActions, hfw, reports_cons (report_stateStatus _ _ _ "UPDATED")]
  rfl

end Session

/-! ## One event -/

/-- The phase that goes with a session. -/
def Otaupdate.reportPhase (session : Otaupdate) : ReportPhase :=
  if 0 < session.state.requestId then .downloading else .idle

/-- One F/W session, and the reports are where it is. -/
structure InPhase (world : OtaWorld) (session : Otaupdate) : Prop where
  list : world.otaupdateList = [session]
  fw : session.config.otaType = .fw
  read : reportLaw.read .idle (reports world.dev.trace) = some session.reportPhase

def FollowsLaw (world : OtaWorld) : Prop := ∃ session, InPhase world session

theorem read_reports_append {trace actions : List OtaAction} {phase : ReportPhase}
    (h : reportLaw.read .idle (reports trace) = some phase) :
    reportLaw.read .idle (reports (trace ++ actions)) = reportLaw.read phase (reports actions) := by
  rw [reports_append]
  exact Monitor.read_append_of_eq h

/-- A chunk for an active session moves on in the law. -/
theorem ChunkOutcome.read {crc : CrcRoutine} {chunkId : Nat} {payload : List UInt8}
    {answers : OtaAnswers} {session session' : Otaupdate} {writer writer' : FwWriter}
    {actions : List OtaAction} (hfw : session.config.otaType = .fw)
    (hactive : 0 < session.state.requestId)
    (houtcome : ChunkOutcome crc chunkId payload answers session writer session' writer'
      actions) :
    reportLaw.read .downloading (reports actions) = some session'.reportPhase := by
  cases houtcome with
  | refused text hfeeds =>
    rw [reports_failure hfw]
    rfl
  | writeFailed text written writer₁ hfeeds hwrite hfail =>
    rw [reports_cons_silent rfl, reports_failure hfw]
    rfl
  | requested text timestamp written writer₁ next hfeeds hwrite hok hnext hmore =>
    subst hnext
    exact congrArg some (if_pos hactive).symm
  | requestFailed text written writer₁ next hfeeds hwrite hok hnext hmore =>
    rw [reports_cons_silent rfl, reports_cons_silent rfl, reports_failure hfw]
    rfl
  | corrupted written writer₁ next hfeeds hwrite hok hnext hall hchecksum =>
    rw [reports_cons_silent rfl, reports_cons (report_goingTelemetry hfw "DOWNLOADED" answers),
      reports_failure hfw]
    rfl
  | updated written ended writer₁ writer₂ next hfeeds hwrite hok hnext hall hchecksum hbusy hend
      hended =>
    have hnextfw : next.config.otaType = .fw := hnext ▸ hfw
    rw [reports_append, reports_cons_silent rfl, reports_verifiedActions hfw,
      reports_cons_silent rfl, reports_successActions hnextfw]
    rfl
  | endFailed text written ended writer₁ writer₂ next hfeeds hwrite hok hnext hall hchecksum
      hbusy hend hended =>
    rw [reports_append, reports_cons_silent rfl, reports_verifiedActions hfw,
      reports_cons_silent rfl, reports_failure hfw]
    rfl
  | unguarded written writer₁ next hfeeds hwrite hok hnext hall hchecksum hidle =>
    have hnextfw : next.config.otaType = .fw := hnext ▸ hfw
    rw [reports_append, reports_cons_silent rfl, reports_verifiedActions hfw,
      reports_successActions hnextfw]
    rfl

/-- A negotiation with an idle session starts a download or leaves it idle. -/
theorem NegotiationOutcome.read {algorithm : Option String} {answers : OtaAnswers}
    {session session' : Otaupdate} {actions : List OtaAction}
    (hfw : session.config.otaType = .fw) (hidle : session.state.requestId = 0)
    (houtcome : NegotiationOutcome algorithm answers session session' actions) :
    reportLaw.read .idle (reports actions) = some session'.reportPhase := by
  cases houtcome with
  | unsupported text halg =>
    rw [reports_cons_silent rfl, reports_cons (report_earlyFailedTelemetry hfw text),
      Otaupdate.reportPhase, hidle]
    rfl
  | alreadyUpdated halg => rfl
  | rejected text result hresult halg =>
    rw [reports_cons_silent rfl, reports_cons_silent rfl,
      reports_cons (report_earlyFailedTelemetry hfw text)]
    rfl
  | started text cached requestId timestamp halg hid =>
    rw [reports_cons_silent rfl, reports_cons_silent rfl,
      reports_cons (report_goingTelemetry hfw "DOWNLOADING" answers), reports_cons_silent rfl]
    exact congrArg some (if_pos hid).symm
  | unsent text cached requestId halg =>
    rw [reports_cons_silent rfl, reports_cons_silent rfl,
      reports_cons (report_goingTelemetry hfw "DOWNLOADING" answers), reports_cons_silent rfl,
      reports_cons (report_earlyFailedTelemetry hfw _)]
    rfl

/-- The timeout sweep concludes an active session. -/
theorem TimeoutOutcome.read {session session' : Otaupdate} {writer writer' : FwWriter}
    {actions : List OtaAction} (hfw : session.config.otaType = .fw)
    (houtcome : TimeoutOutcome session writer session' writer' actions) :
    reportLaw.read session.reportPhase (reports actions) = some session'.reportPhase := by
  cases houtcome with
  | kept => rfl
  | expired hactive =>
    rw [Otaupdate.reportPhase, if_pos hactive, reports_failure hfw]
    rfl

theorem FollowsLaw.checkTimeout {world : OtaWorld} (h : FollowsLaw world) (timestamp : Nat) :
    FollowsLaw (tbcmhOtaupdateOnChunkCheckTimeout timestamp world) := by
  refine checkTimeout_rule ?_ timestamp h
  intro world front back session session' dev' actions hworld hlist htrace houtcome
  obtain ⟨found, hphase⟩ := hworld
  obtain ⟨rfl, hfound, rfl⟩ := eq_of_singleton_eq_append_cons (hphase.list.symm.trans hlist)
  subst found
  refine ⟨session', rfl, houtcome.sameItem.config ▸ hphase.fw, ?_⟩
  rw [htrace, read_reports_append hphase.read, houtcome.read hphase.fw]

/-- Every step that is allowed follows the law. -/
theorem inPhase_step {crc : CrcRoutine} {world world' : OtaWorld} {event : OtaEvent}
    (h : FollowsLaw world)
    (hstep : within OrderlyEvent (Succeeds (otaHandle crc)) world event world') :
    FollowsLaw world' := by
  obtain ⟨session, hphase⟩ := h
  obtain ⟨hguard, hok⟩ := hstep
  cases event with
  | sharedAttributes object answers =>
    -- what is allowed to announce an update finds the session idle
    have hidle : announcedTitle object ≠ none → session.state.requestId = 0 := fun htitle =>
      hguard htitle session (by simp [hphase.list])
    have hread : announcedTitle object ≠ none →
        reportLaw.read .idle (reports world.dev.trace) = some .idle := fun htitle => by
      rw [hphase.read, Otaupdate.reportPhase, hidle htitle]
      rfl
    rcases otaupdateOnFwAttributesupdate_cases hok with ⟨-, rfl⟩ | ⟨htitle, -, rfl⟩ |
      ⟨front, found, back, session', actions, htitle, hfound, hlist, hlist', -, -, htrace, -,
        houtcome⟩
    · exact ⟨session, hphase⟩
    · refine ⟨session, hphase.list, hphase.fw, ?_⟩
      rw [otaupdatePublishEarlyFailedStatus, OtaDevice.log_trace,
        read_reports_append (hread htitle), reports_cons (report_failedStatus _ _),
        Otaupdate.reportPhase, hidle htitle]
      rfl
    · obtain ⟨rfl, rfl, rfl⟩ := eq_of_singleton_eq_append_cons (hphase.list.symm.trans hlist)
      refine ⟨session', hlist', houtcome.sameItem.config ▸ hphase.fw, ?_⟩
      rw [htrace, read_reports_append (hread htitle), houtcome.read hphase.fw (hidle htitle)]
  | chunkData requestId chunkId payload answers =>
    obtain rfl := Except.ok.inj hok
    rcases tbcmhOtaupdateOnChunkData_cases crc requestId chunkId payload answers world with
      ⟨-, hsame⟩ | ⟨front, found, back, session', dev', actions, hfound, hid, hlist, hworld,
        htrace, houtcome⟩
    · rw [hsame]
      exact ⟨session, hphase⟩
    · obtain ⟨rfl, rfl, rfl⟩ := eq_of_singleton_eq_append_cons (hphase.list.symm.trans hlist)
      have hactive : 0 < session.state.requestId :=
        Nat.pos_of_ne_zero (hid ▸ hguard session hfound)
      rw [hworld]
      refine ⟨session', rfl, houtcome.sameItem.config ▸ hphase.fw, ?_⟩
      have hread : reportLaw.read .idle (reports world.dev.trace) = some .downloading := by
        rw [hphase.read, Otaupdate.reportPhase, if_pos hactive]
      rw [htrace, read_reports_append hread, houtcome.read hphase.fw hactive]
  | checkTimeout timestamp =>
    obtain rfl := Except.ok.inj hok
    exact FollowsLaw.checkTimeout ⟨session, hphase⟩ timestamp
  | disconnected =>
    obtain rfl := Except.ok.inj hok
    exact FollowsLaw.checkTimeout ⟨session, hphase⟩ _
  | environment core =>
    obtain rfl := Except.ok.inj hok
    exact ⟨session, hphase.list, hphase.fw, hphase.read⟩

/-- In every run of allowed steps the reports follow the law. -/
theorem orderly_of_run {crc : CrcRoutine} {core : Core} {lastHandle : Nat}
    {otaDescription : String} {partitionSize : Nat} {events : List OtaEvent} {world : OtaWorld}
    (run : Run (within OrderlyEvent (Succeeds (otaHandle crc)))
      (.single core lastHandle otaDescription partitionSize) events world) : Orderly world := by
  have hinitial : FollowsLaw (.single core lastHandle otaDescription partitionSize) :=
    ⟨_, rfl, rfl, rfl⟩
  obtain ⟨session, hphase⟩ := run.invariant hinitial fun _ _ _ => inPhase_step
  rw [Orderly, hphase.read, Otaupdate.reportPhase]
  split
  · exact .inr rfl
  · exact .inl rfl

/-- A download that stops after its first chunk. -/
def abandonedUpdate : List OtaEvent :=
  [.sharedAttributes (some (sampleAttributes 20000 "0")) sampleAnswers,
    .chunkData 1 0 sampleImage sampleAnswers, .checkTimeout 1000]

/-- It is concluded by its timeout. -/
theorem orderly_of_run_abandonedUpdate :
    Orderly (abandonedUpdate.foldl (advance (otaHandle .crc32)) sampleWorld) ∧
      reports (abandonedUpdate.foldl (advance (otaHandle .crc32)) sampleWorld).dev.trace
        = [.downloading, .failed, .concluded false] :=
  ⟨orderly_of_run (run_of_allowed (by decide +kernel)), by decide +kernel⟩

/-- An update that is announced twice. -/
def repeatedAnnouncement : List OtaEvent :=
  [.sharedAttributes (some (sampleAttributes 20000 "0")) sampleAnswers,
    .sharedAttributes (some (sampleAttributes 20000 "0")) sampleAnswers]

/-- The second announcement starts a download before the first one was concluded. -/
theorem orderly_fails_repeatedAnnouncement :
    ¬ ∀ events world, Run (Succeeds (otaHandle .crc32)) sampleWorld events world →
      Orderly world := by
  intro hall
  have hrun := hall repeatedAnnouncement _ (run_of_succeeds (by decide +kernel))
  exact absurd hrun (by decide +kernel)

end ThingsboardMqtt
