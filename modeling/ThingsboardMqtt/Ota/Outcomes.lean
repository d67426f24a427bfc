import ThingsboardMqtt.Ota.System

set_option autoImplicit false

/-! # What one event does to one session

Each event runs one function on the sessions it concerns. `ChunkOutcome`, `NegotiationOutcome` and
`TimeoutOutcome` list everything these functions can do: the session and the writer they leave and
the actions they append to the trace. Every invariant of the OTA sessions is a case analysis of
these three relations. -/

namespace ThingsboardMqtt

open ListWalk

theorem Otaupdate.busy_iff {session : Otaupdate} : session.busy = true ↔
    0 < session.state.requestId ∧ 0 < session.state.receivedLen := by
  simp [Otaupdate.busy]

/-- The session is busy once the payload is counted: it has a request id, and `received_len` does
    not become zero by an overflow. -/
def Otaupdate.busyWith (session : Otaupdate) (payload : List UInt8) : Bool :=
  0 < session.state.requestId && (session.state.receivedLen + payload.length) % 2 ^ 32 ≠ 0

theorem otaupdateAdvance_busy (crc : CrcRoutine) (session : Otaupdate) (payload : List UInt8) :
    (otaupdateAdvance crc session payload).busy = session.busyWith payload := by
  simp only [Otaupdate.busy, Otaupdate.busyWith, otaupdateAdvance, Nat.pos_iff_ne_zero]

/-! ## Conclusions -/

/-- The actions of `otaupdateConcludeFailure`. -/
def failureActions (session : Otaupdate) : List OtaAction :=
  (if session.busy then [.otaAbort session.addr] else []) ++ [.otaUpdated session.addr false]

/-- The writer behind the guarded abort. -/
def abortedWriter (session : Otaupdate) (writer : FwWriter) : FwWriter :=
  if session.busy then otaFwupdateAbort writer else writer

@[simp] theorem OtaDevice.log_core (dev : OtaDevice) (action : OtaAction) :
    (dev.log action).core = dev.core := rfl

@[simp] theorem OtaDevice.log_writer (dev : OtaDevice) (action : OtaAction) :
    (dev.log action).writer = dev.writer := rfl

@[simp] theorem OtaDevice.log_trace (dev : OtaDevice) (action : OtaAction) :
    (dev.log action).trace = dev.trace ++ [action] := rfl

@[simp] theorem otaupdateDoUpdated_writer (session : Otaupdate) (success : Bool)
    (dev : OtaDevice) : (otaupdateDoUpdated session success dev).writer = dev.writer := rfl

@[simp] theorem otaupdateDoUpdated_trace (session : Otaupdate) (success : Bool)
    (dev : OtaDevice) : (otaupdateDoUpdated session success dev).trace
      = dev.trace ++ [.otaUpdated session.addr success] := rfl

@[simp] theorem otaupdateConcludeFailure_fst (session : Otaupdate) (dev : OtaDevice) :
    (otaupdateConcludeFailure session dev).1 = otaupdateReset session := rfl

@[simp] theorem otaupdateConcludeFailure_writer (session : Otaupdate) (dev : OtaDevice) :
    (otaupdateConcludeFailure session dev).2.writer = abortedWriter session dev.writer := by
  simp only [otaupdateConcludeFailure, otaupdateDoUpdated_writer, otaupdateDoAbort, abortedWriter]
  split <;> rfl

@[simp] theorem otaupdateConcludeFailure_trace (session : Otaupdate) (dev : OtaDevice) :
    (otaupdateConcludeFailure session dev).2.trace = dev.trace ++ failureActions session := by
  simp only [otaupdateConcludeFailure, otaupdateDoUpdated_trace, otaupdateDoAbort, failureActions]
  split <;> simp [otaupdateReset]

/-! ## Chunks -/

/-- The chunk gets as far as `on_ota_write`. -/
def Otaupdate.feeds (session : Otaupdate) (chunkId : Nat) (payload : List UInt8) : Prop :=
  chunkId = session.state.chunkId ∧ payload ≠ []

instance (session : Otaupdate) (chunkId : Nat) (payload : List UInt8) :
    Decidable (session.feeds chunkId payload) :=
  inferInstanceAs (Decidable (_ ∧ _))

/-- Telemetry of a state of the session, as `_otaupdate_publish_going_status` sends it. -/
def goingTelemetry (session : Otaupdate) (otaState : String) (answers : OtaAnswers) : OtaAction :=
  .telemetry (some session.addr) (stateStatus session.config.otaType
    (answers.currentTitle session.addr) (answers.currentVersion session.addr) otaState)

/-- Telemetry of a failure of the session. -/
def failedTelemetry (session : Otaupdate) (otaError : String) : OtaAction :=
  .telemetry (some session.addr) (failedStatus session.config.otaType (some otaError))

@[simp] theorem otaupdatePublishGoingStatus_writer (session : Otaupdate) (otaState : String)
    (answers : OtaAnswers) (dev : OtaDevice) :
    (otaupdatePublishGoingStatus session otaState answers dev).writer = dev.writer := rfl

@[simp] theorem otaupdatePublishGoingStatus_trace (session : Otaupdate) (otaState : String)
    (answers : OtaAnswers) (dev : OtaDevice) :
    (otaupdatePublishGoingStatus session otaState answers dev).trace
      = dev.trace ++ [goingTelemetry session otaState answers] := rfl

/-- The last chunk arrived and its checksum is right: telemetry up to `on_ota_end`. -/
def verifiedActions (session : Otaupdate) (answers : OtaAnswers) : List OtaAction :=
  [goingTelemetry session "DOWNLOADED" answers, goingTelemetry session "VERIFIED" answers,
    goingTelemetry session "UPDATING" answers]

/-- The conclusion of a session that succeeded. -/
def successActions (session : Otaupdate) : List OtaAction :=
  [.telemetry (some session.addr) (stateStatus session.config.otaType
      session.otaAttribute.otaTitle session.otaAttribute.otaVersion "UPDATED"),
    .otaUpdated session.addr true]

/-- What a chunk can do to the session it is for: `next` is the session with its counters
    advanced, `writer'` the writer behind a write that succeeded. -/
inductive ChunkOutcome (crc : CrcRoutine) (chunkId : Nat) (payload : List UInt8)
    (answers : OtaAnswers) (session : Otaupdate) (writer : FwWriter) :
    Otaupdate → FwWriter → List OtaAction → Prop
  | refused (text : String) (hfeeds : ¬ session.feeds chunkId payload) :
    ChunkOutcome crc chunkId payload answers session writer (otaupdateReset session)
      (abortedWriter session writer)
      (failedTelemetry session text :: failureActions session)
  | writeFailed (text : String) (written : OtaResult) (writer' : FwWriter)
      (hfeeds : session.feeds chunkId payload)
      (hwrite : otaFwupdateWrite writer payload otaErrorSize answers.fw = (written, writer'))
      (hfail : written.result ≠ 0) :
    ChunkOutcome crc chunkId payload answers session writer (otaupdateReset session)
      (abortedWriter session writer')
      (.otaWrite session.addr chunkId payload false :: failedTelemetry session text ::
        failureActions session)
  | requested (text : String) (timestamp : Nat) (written : OtaResult) (writer' : FwWriter)
      (next : Otaupdate) (hfeeds : session.feeds chunkId payload)
      (hwrite : otaFwupdateWrite writer payload otaErrorSize answers.fw = (written, writer'))
      (hok : written.result = 0) (hnext : next = otaupdateAdvance crc session payload)
      (hmore : next.state.receivedLen < next.otaAttribute.otaSize) :
    ChunkOutcome crc chunkId payload answers session writer
      { next with state := { next.state with timestamp := timestamp } } writer'
      [.otaWrite session.addr chunkId payload true,
        .chunkRequest session.addr session.state.requestId next.state.chunkId text true]
  | requestFailed (text : String) (written : OtaResult) (writer' : FwWriter)
      (next : Otaupdate) (hfeeds : session.feeds chunkId payload)
      (hwrite : otaFwupdateWrite writer payload otaErrorSize answers.fw = (written, writer'))
      (hok : written.result = 0) (hnext : next = otaupdateAdvance crc session payload)
      (hmore : next.state.receivedLen < next.otaAttribute.otaSize) :
    ChunkOutcome crc chunkId payload answers session writer (otaupdateReset session)
      (abortedWriter next writer')
      (.otaWrite session.addr chunkId payload true ::
        .chunkRequest session.addr session.state.requestId next.state.chunkId text false ::
        failedTelemetry session "Request OTA chunk failure!" :: failureActions next)
  | corrupted (written : OtaResult) (writer' : FwWriter)
      (next : Otaupdate) (hfeeds : session.feeds chunkId payload)
      (hwrite : otaFwupdateWrite writer payload otaErrorSize answers.fw = (written, writer'))
      (hok : written.result = 0) (hnext : next = otaupdateAdvance crc session payload)
      (hall : next.otaAttribute.otaSize ≤ next.state.receivedLen)
      (hchecksum : otaupdateChecksumVerification next = false) :
    ChunkOutcome crc chunkId payload answers session writer (otaupdateReset session)
      (abortedWriter next writer')
      (.otaWrite session.addr chunkId payload true ::
        goingTelemetry session "DOWNLOADED" answers ::
        failedTelemetry session "Checksum verification failed!" :: failureActions next)
  | updated (written ended : OtaResult) (writer' writer'' : FwWriter)
      (next : Otaupdate) (hfeeds : session.feeds chunkId payload)
      (hwrite : otaFwupdateWrite writer payload otaErrorSize answers.fw = (written, writer'))
      (hok : written.result = 0) (hnext : next = otaupdateAdvance crc session payload)
      (hall : next.otaAttribute.otaSize ≤ next.state.receivedLen)
      (hchecksum : otaupdateChecksumVerification next = true) (hbusy : next.busy = true)
      (hend : otaFwupdateEnd writer' otaErrorSize answers.fw = (ended, writer''))
      (hended : ended.result = 0) :
    ChunkOutcome crc chunkId payload answers session writer (otaupdateReset session) writer''
      (.otaWrite session.addr chunkId payload true :: verifiedActions session answers ++
        .otaEnd session.addr (writer'.flash.image writer'.fwupdate.updateHandle) true ::
        successActions next)
  | endFailed (text : String) (written ended : OtaResult) (writer' writer'' : FwWriter)
      (next : Otaupdate) (hfeeds : session.feeds chunkId payload)
      (hwrite : otaFwupdateWrite writer payload otaErrorSize answers.fw = (written, writer'))
      (hok : written.result = 0) (hnext : next = otaupdateAdvance crc session payload)
      (hall : next.otaAttribute.otaSize ≤ next.state.receivedLen)
      (hchecksum : otaupdateChecksumVerification next = true) (hbusy : next.busy = true)
      (hend : otaFwupdateEnd writer' otaErrorSize answers.fw = (ended, writer''))
      (hended : ended.result ≠ 0) :
    ChunkOutcome crc chunkId payload answers session writer (otaupdateReset session)
      (abortedWriter next writer'')
      (.otaWrite session.addr chunkId payload true :: verifiedActions session answers ++
        .otaEnd session.addr (writer'.flash.image writer'.fwupdate.updateHandle) false ::
        failedTelemetry session text :: failureActions next)
  | unguarded (written : OtaResult) (writer' : FwWriter)
      (next : Otaupdate) (hfeeds : session.feeds chunkId payload)
      (hwrite : otaFwupdateWrite writer payload otaErrorSize answers.fw = (written, writer'))
      (hok : written.result = 0) (hnext : next = otaupdateAdvance crc session payload)
      (hall : next.otaAttribute.otaSize ≤ next.state.receivedLen)
      (hchecksum : otaupdateChecksumVerification next = true) (hidle : next.busy = false) :
    ChunkOutcome crc chunkId payload answers session writer (otaupdateReset session) writer'
      (.otaWrite session.addr chunkId payload true :: verifiedActions session answers ++
        successActions next)

/-- What no event changes of a session. -/
structure SameItem (session session' : Otaupdate) : Prop where
  addr : session'.addr = session.addr
  config : session'.config = session.config
  otaDescription : session'.otaDescription = session.otaDescription

theorem ChunkOutcome.sameItem {crc : CrcRoutine} {chunkId : Nat} {payload : List UInt8}
    {answers : OtaAnswers} {session session' : Otaupdate} {writer writer' : FwWriter}
    {actions : List OtaAction}
    (h : ChunkOutcome crc chunkId payload answers session writer session' writer' actions) :
    SameItem session session' := by
  cases h with
  | requested text timestamp written writer' next hfeeds hwrite hok hnext hmore =>
    subst hnext
    exact ⟨rfl, rfl, rfl⟩
  | _ => exact ⟨rfl, rfl, rfl⟩

/-- The three ways out of `_otaupdate_do_write`. -/
theorem otaupdateDoWrite_cases {crc : CrcRoutine} {chunkId : Nat} {payload : List UInt8}
    {answers : OtaAnswers} {session next : Otaupdate} {dev dev' : OtaDevice} {result : OtaResult}
    (h : otaupdateDoWrite crc session chunkId payload answers dev = (result, next, dev')) :
    (¬ session.feeds chunkId payload ∧ result.result = -1 ∧ next = session ∧ dev' = dev) ∨
      ∃ written writer', session.feeds chunkId payload ∧
        otaFwupdateWrite dev.writer payload otaErrorSize answers.fw = (written, writer') ∧
        ((written.result ≠ 0 ∧ result.result = -1 ∧ next = session ∧
            dev' = { dev with writer := writer' }.log
              (.otaWrite session.addr chunkId payload false)) ∨
          (written.result = 0 ∧ result.result = 0 ∧ next = otaupdateAdvance crc session payload ∧
            dev' = { dev with writer := writer' }.log
              (.otaWrite session.addr chunkId payload true))) := by
  -- both checks come before `on_ota_write`, so a chunk they refuse does not touch the writer
  unfold otaupdateDoWrite at h
  by_cases hid : chunkId ≠ session.state.chunkId
  · rw [if_pos hid] at h
    obtain ⟨rfl, rfl, rfl⟩ : _ = result ∧ session = next ∧ dev = dev' := by simpa using h
    exact .inl ⟨fun hf => hid hf.1, rfl, rfl, rfl⟩
  rw [if_neg hid] at h
  by_cases hdata : payload = []
  · rw [if_pos hdata] at h
    obtain ⟨rfl, rfl, rfl⟩ : _ = result ∧ session = next ∧ dev = dev' := by simpa using h
    exact .inl ⟨fun hf => hf.2 hdata, rfl, rfl, rfl⟩
  rw [if_neg hdata] at h
  have hfeeds : session.feeds chunkId payload := ⟨not_not.mp hid, hdata⟩
  cases hwrite : otaFwupdateWrite dev.writer payload otaErrorSize answers.fw with
  | mk written writer' =>
    simp only [hwrite] at h
    refine .inr ⟨written, writer', hfeeds, rfl, ?_⟩
    by_cases hok : written.result = 0
    · simp only [hok, ne_eq, not_true_eq_false, if_false, decide_true] at h
      obtain ⟨rfl, rfl, rfl⟩ : _ = result ∧ _ = next ∧ _ = dev' := by simpa using h
      exact .inr ⟨hok, rfl, rfl, rfl⟩
    · simp only [hok, ne_eq, not_false_eq_true, if_true, decide_false] at h
      obtain ⟨rfl, rfl, rfl⟩ : _ = result ∧ _ = next ∧ _ = dev' := by simpa using h
      exact .inl ⟨hok, rfl, rfl, rfl⟩

theorem otaupdateConcludeFailure_eq {session session' : Otaupdate} {dev dev' : OtaDevice}
    (h : otaupdateConcludeFailure session dev = (session', dev')) :
    session' = otaupdateReset session ∧ dev'.writer = abortedWriter session dev.writer ∧
      dev'.trace = dev.trace ++ failureActions session := by
  have hfst := congrArg Prod.fst h
  have hsnd := congrArg Prod.snd h
  dsimp only at hfst hsnd
  rw [← hfst, ← hsnd]
  exact ⟨rfl, otaupdateConcludeFailure_writer _ _, otaupdateConcludeFailure_trace _ _⟩

theorem otaupdateConcludeFailure_late {session session' : Otaupdate} {dev dev' : OtaDevice}
    {text : String} (h : otaupdateConcludeFailure session
      (otaupdatePublishLateFailedStatus session text dev) = (session', dev')) :
    session' = otaupdateReset session ∧ dev'.writer = abortedWriter session dev.writer ∧
      dev'.trace = dev.trace ++ failedTelemetry session text :: failureActions session := by
  obtain ⟨hsession, hwriter, htrace⟩ := otaupdateConcludeFailure_eq h
  refine ⟨hsession, hwriter, ?_⟩
  rw [htrace, otaupdatePublishLateFailedStatus, OtaDevice.log_trace, List.append_assoc]
  rfl

/-- What a session does whose last chunk was written. -/
theorem otaupdateComplete_cases {session session' : Otaupdate} {dev dev' : OtaDevice}
    {answers : OtaAnswers} (h : otaupdateComplete session answers dev = (session', dev')) :
    session' = otaupdateReset session ∧
      ((otaupdateChecksumVerification session = false ∧
          dev'.writer = abortedWriter session dev.writer ∧
          dev'.trace = dev.trace ++ goingTelemetry session "DOWNLOADED" answers ::
            failedTelemetry session "Checksum verification failed!" :: failureActions session) ∨
        (otaupdateChecksumVerification session = true ∧ session.busy = false ∧
          dev'.writer = dev.writer ∧
          dev'.trace = dev.trace ++ (verifiedActions session answers ++ successActions session)) ∨
        ∃ ended writer', otaupdateChecksumVerification session = true ∧ session.busy = true ∧
          otaFwupdateEnd dev.writer otaErrorSize answers.fw = (ended, writer') ∧
          ((ended.result = 0 ∧ dev'.writer = writer' ∧
              dev'.trace = dev.trace ++ (verifiedActions session answers ++
                .otaEnd session.addr (dev.writer.flash.image dev.writer.fwupdate.updateHandle)
                  true :: successActions session)) ∨
            (ended.result ≠ 0 ∧ dev'.writer = abortedWriter session writer' ∧
              ∃ text, dev'.trace = dev.trace ++ (verifiedActions session answers ++
                .otaEnd session.addr (dev.writer.flash.image dev.writer.fwupdate.updateHandle)
                  false :: failedTelemetry session text :: failureActions session)))) := by
  unfold otaupdateComplete at h
  cases hchecksum : otaupdateChecksumVerification session with
  | false =>
    simp only [hchecksum, Bool.false_eq_true, if_false] at h
    obtain ⟨hsession, hwriter, htrace⟩ := otaupdateConcludeFailure_late h
    refine ⟨hsession, .inl ⟨rfl, hwriter, ?_⟩⟩
    rw [htrace, otaupdatePublishGoingStatus_trace, List.append_assoc]
    rfl
  | true =>
    simp only [hchecksum, if_true, otaupdateDoEnd] at h
    -- the guard of `_otaupdate_do_end` counts as success when it skips `on_ota_end`
    cases hbusy : session.busy with
    | false =>
      simp only [hbusy, Bool.false_eq_true, if_false, if_true] at h
      obtain ⟨rfl, rfl⟩ := Prod.mk.inj h
      refine ⟨rfl, .inr (.inl ⟨rfl, rfl, rfl, ?_⟩)⟩
      simp [otaupdatePublishUpdatedStatus, verifiedActions, successActions, otaupdateReset]
    | true =>
      simp only [hbusy, if_true] at h
      cases hend : otaFwupdateEnd dev.writer otaErrorSize answers.fw with
      | mk ended writer' =>
      -- the telemetry in between leaves the writer as it was
      have hend' : otaFwupdateEnd (otaupdatePublishGoingStatus session "UPDATING" answers
          (otaupdatePublishGoingStatus session "VERIFIED" answers
            (otaupdatePublishGoingStatus session "DOWNLOADED" answers dev))).writer otaErrorSize
              answers.fw = (ended, writer') := hend
      simp only [hend'] at h
      refine ⟨?_, .inr (.inr ⟨ended, writer', rfl, rfl, rfl, ?_⟩)⟩
      all_goals by_cases hok : ended.result = 0
      · simp only [hok, if_true] at h
        exact (Prod.mk.inj h).1.symm
      · simp only [hok, if_false] at h
        exact (otaupdateConcludeFailure_late h).1
      · simp only [hok, if_true] at h
        obtain ⟨rfl, rfl⟩ := Prod.mk.inj h
        refine .inl ⟨hok, rfl, ?_⟩
        simp [otaupdatePublishUpdatedStatus, verifiedActions, successActions, otaupdateReset]
      · simp only [hok, if_false] at h
        obtain ⟨-, hwriter, htrace⟩ := otaupdateConcludeFailure_late h
        refine .inr ⟨hok, hwriter, otaErrorText ended.otaError, ?_⟩
        rw [htrace]
        simp [verifiedActions]

theorem otaupdateChunkRequest_next {session session' : Otaupdate} {dev dev' : OtaDevice}
    {answers : OtaAnswers} {sent : Bool}
    (h : otaupdateChunkRequest session false answers dev = (sent, session', dev')) :
    session' = { session with state := { session.state with timestamp := dev.core.now } } ∧
      dev'.writer = dev.writer ∧ ∃ text, dev'.trace = dev.trace ++
        [.chunkRequest session.addr session.state.requestId session.state.chunkId text sent] := by
  obtain ⟨rfl, rfl, rfl⟩ : _ = sent ∧ _ = session' ∧ _ = dev' := by
    simpa [otaupdateChunkRequest] using h
  exact ⟨rfl, rfl, _, rfl⟩

theorem otaupdateChunkRequest_first {session session' : Otaupdate} {dev dev' : OtaDevice}
    {answers : OtaAnswers} {sent : Bool}
    (h : otaupdateChunkRequest session true answers dev = (sent, session', dev')) :
    ∃ requestId timestamp, 0 < requestId ∧
      session' = { session with
        state := { session.state with
          requestId := requestId
          timestamp := timestamp } } ∧
      dev'.writer = dev.writer ∧ ∃ text, dev'.trace = dev.trace ++
        [.chunkRequest session.addr requestId session.state.chunkId text sent] := by
  simp only [otaupdateChunkRequest, if_true] at h
  obtain ⟨rfl, rfl, rfl⟩ : _ = sent ∧ _ = session' ∧ _ = dev' := by simpa using h
  exact ⟨_, _, tbcmhGetRequestId_pos dev.core, rfl, rfl, _, rfl⟩

/-- Everything a chunk does to the session it is for. -/
theorem otaupdateOnChunk_outcome {crc : CrcRoutine} {chunkId : Nat} {payload : List UInt8}
    {answers : OtaAnswers} {session session' : Otaupdate} {dev dev' : OtaDevice}
    (h : otaupdateOnChunk crc chunkId payload answers session dev = (session', dev')) :
    ∃ actions, dev'.trace = dev.trace ++ actions ∧
      ChunkOutcome crc chunkId payload answers session dev.writer session' dev'.writer actions := by
  -- the order of the source: the write, then the size, then the conclusion or the next request
  unfold otaupdateOnChunk at h
  cases hdo : otaupdateDoWrite crc session chunkId payload answers dev with
  | mk result rest =>
  obtain ⟨next, dev₁⟩ := rest
  simp only [hdo] at h
  rcases otaupdateDoWrite_cases hdo with ⟨hfeeds, hres, rfl, rfl⟩ |
    ⟨written, writer', hfeeds, hwrite, ⟨hfail, hres, rfl, rfl⟩ | ⟨hok, hres, hnext, rfl⟩⟩
  · rw [if_neg (by omega), if_pos hres] at h
    obtain ⟨rfl, hwriter, htrace⟩ := otaupdateConcludeFailure_late h
    rw [hwriter]
    exact ⟨_, htrace, .refused _ hfeeds⟩
  · rw [if_neg (by omega), if_pos hres] at h
    obtain ⟨rfl, hwriter, htrace⟩ := otaupdateConcludeFailure_late h
    rw [hwriter, htrace, OtaDevice.log_trace, List.append_assoc]
    exact ⟨_, rfl, .writeFailed _ written writer' hfeeds hwrite hfail⟩
  rw [if_pos hres] at h
  by_cases hall : next.otaAttribute.otaSize ≤ next.state.receivedLen
  · rw [if_pos hall] at h
    obtain ⟨rfl, ⟨hchecksum, hwriter, htrace⟩ | ⟨hchecksum, hidle, hwriter, htrace⟩ |
      ⟨ended, writer'', hchecksum, hbusy, hend, ⟨hended, hwriter, htrace⟩ |
        ⟨hended, hwriter, text, htrace⟩⟩⟩ := otaupdateComplete_cases h
    all_goals
      subst hnext
      rw [hwriter, htrace, OtaDevice.log_trace, List.append_assoc]
    · exact ⟨_, rfl, .corrupted written writer' _ hfeeds hwrite hok rfl hall hchecksum⟩
    · exact ⟨_, rfl, .unguarded written writer' _ hfeeds hwrite hok rfl hall hchecksum hidle⟩
    · exact ⟨_, rfl, .updated written ended writer' writer'' _ hfeeds hwrite hok rfl hall
        hchecksum hbusy hend hended⟩
    · exact ⟨_, rfl, .endFailed text written ended writer' writer'' _ hfeeds hwrite hok rfl hall
        hchecksum hbusy hend hended⟩
  · rw [if_neg hall] at h
    cases hreq : otaupdateChunkRequest next false answers ({ dev with writer := writer' }.log
      (.otaWrite session.addr chunkId payload true)) with
    | mk sent rest =>
    obtain ⟨requested, dev₂⟩ := rest
    simp only [hreq] at h
    obtain ⟨rfl, hwriter₂, text, htrace₂⟩ := otaupdateChunkRequest_next hreq
    subst hnext
    cases sent with
    | true =>
      simp only [if_true] at h
      obtain ⟨rfl, rfl⟩ := Prod.mk.inj h
      rw [hwriter₂, htrace₂, OtaDevice.log_trace, List.append_assoc]
      exact ⟨_, rfl, .requested text dev.core.now written writer' _ hfeeds hwrite hok rfl
        (Nat.lt_of_not_le hall)⟩
    | false =>
      simp only [Bool.false_eq_true, if_false] at h
      obtain ⟨rfl, hwriter, htrace⟩ := otaupdateConcludeFailure_late h
      rw [hwriter, htrace, hwriter₂, htrace₂, OtaDevice.log_trace, List.append_assoc,
        List.append_assoc]
      exact ⟨_, rfl, .requestFailed text written writer' (otaupdateAdvance crc session payload)
        hfeeds hwrite hok rfl (Nat.lt_of_not_le hall)⟩

/-! ## Negotiations -/

/-- The algorithm `_otaupdate_do_negotiate` goes on with. -/
def supportedAlgorithm : Option String → Bool
  | some algorithm => strcaseEq algorithm "crc32"
  | none => false

/-- Telemetry of a failure that names no session. -/
def earlyFailedTelemetry (session : Otaupdate) (otaError : String) : OtaAction :=
  .telemetry none (failedStatus session.config.otaType (some otaError))

/-- What a negotiation can do to the session it is for; the writer stays as it is. -/
inductive NegotiationOutcome (otaChecksumAlgorithm : Option String) (answers : OtaAnswers)
    (session : Otaupdate) : Otaupdate → List OtaAction → Prop
  | unsupported (text : String) (halg : supportedAlgorithm otaChecksumAlgorithm = false) :
    NegotiationOutcome otaChecksumAlgorithm answers session session
      [.negotiate session.addr, earlyFailedTelemetry session text]
  | alreadyUpdated (halg : supportedAlgorithm otaChecksumAlgorithm = true) :
    NegotiationOutcome otaChecksumAlgorithm answers session (otaupdateReset session)
      [.negotiate session.addr, .negotiated session.addr 0 .empty]
  | rejected (text : String) (result : Int) (hresult : result ≠ 1)
      (halg : supportedAlgorithm otaChecksumAlgorithm = true) :
    NegotiationOutcome otaChecksumAlgorithm answers session (otaupdateReset session)
      [.negotiate session.addr, .negotiated session.addr result .empty,
        earlyFailedTelemetry session text]
  | started (text : String) (cached : OtaupdateAttribute) (requestId timestamp : Nat)
      (halg : supportedAlgorithm otaChecksumAlgorithm = true) (hid : 0 < requestId) :
    NegotiationOutcome otaChecksumAlgorithm answers session
      { session with
        otaAttribute := cached
        state := { OtaupdateState.idle with
          requestId := requestId
          timestamp := timestamp } }
      [.negotiate session.addr, .negotiated session.addr 1 cached,
        goingTelemetry session "DOWNLOADING" answers,
        .chunkRequest session.addr requestId 0 text true]
  | unsent (text : String) (cached : OtaupdateAttribute) (requestId : Nat)
      (halg : supportedAlgorithm otaChecksumAlgorithm = true) :
    NegotiationOutcome otaChecksumAlgorithm answers session (otaupdateReset session)
      [.negotiate session.addr, .negotiated session.addr 1 cached,
        goingTelemetry session "DOWNLOADING" answers,
        .chunkRequest session.addr requestId 0 text false,
        earlyFailedTelemetry session "Request OTA chunk failure!",
        .otaUpdated session.addr false]

theorem NegotiationOutcome.sameItem {algorithm : Option String} {answers : OtaAnswers}
    {session session' : Otaupdate} {actions : List OtaAction}
    (h : NegotiationOutcome algorithm answers session session' actions) :
    SameItem session session' := by
  cases h <;> exact ⟨rfl, rfl, rfl⟩

/-- The ways out of `_otaupdate_do_negotiate`. -/
theorem otaupdateDoNegotiate_cases {otaTitle : String}
    {otaVersion otaChecksum otaChecksumAlgorithm : Option String} {otaSize : Nat}
    {answers : OtaAnswers} {session session' : Otaupdate} {dev dev' : OtaDevice}
    {negotiation : OtaResult}
    (h : otaupdateDoNegotiate session otaTitle otaVersion otaSize otaChecksum
      otaChecksumAlgorithm answers dev = .ok (negotiation, session', dev')) :
    ∃ algorithm, otaChecksumAlgorithm = some algorithm ∧
      ((strcaseEq algorithm "crc32" = false ∧ negotiation.result = -1 ∧
          session' = session ∧ dev' = dev.log (.negotiate session.addr)) ∨
        (strcaseEq algorithm "crc32" = true ∧
          otaFwupdateNegotiate dev.writer.fwupdate (answers.currentTitle session.addr)
            (answers.currentVersion session.addr) otaTitle otaVersion otaSize otaErrorSize
            = .ok negotiation ∧
          ((negotiation.result ≠ 1 ∧ session' = otaupdateReset session ∧
              dev' = (dev.log (.negotiate session.addr)).log
                (.negotiated session.addr negotiation.result .empty)) ∨
            ∃ cached, negotiation.result = 1 ∧ otaChecksum.isSome = true ∧
              cached.otaSize = otaSize ∧
              session' = { otaupdateReset session with otaAttribute := cached } ∧
              dev' = (dev.log (.negotiate session.addr)).log
                (.negotiated session.addr 1 cached)))) := by
  simp only [otaupdateDoNegotiate] at h
  cases otaChecksumAlgorithm with
  | none => simp at h
  | some algorithm =>
    refine ⟨algorithm, rfl, ?_⟩
    cases halg : strcaseEq algorithm "crc32" with
    | false =>
      simp only [halg, Bool.not_false, if_true, Except.ok.injEq, Prod.mk.injEq] at h
      obtain ⟨rfl, rfl, rfl⟩ := h
      exact .inl ⟨rfl, rfl, rfl, rfl⟩
    | true =>
      simp only [halg, Bool.not_true, Bool.false_eq_true, if_false] at h
      generalize hanswer : otaFwupdateNegotiate _ _ _ _ _ _ _ = answer at h
      cases answer with
      | error fault => simp [bind, Except.bind] at h
      | ok result =>
        simp only [bind, Except.bind] at h
        by_cases hone : result.result = 1
        · rw [if_pos hone] at h
          cases otaChecksum with
          | none => simp at h
          | some checksum =>
            simp only [Except.ok.injEq, Prod.mk.injEq] at h
            obtain ⟨rfl, rfl, rfl⟩ := h
            exact .inr ⟨rfl, hanswer, .inr ⟨_, hone, rfl, rfl, rfl, rfl⟩⟩
        · rw [if_neg hone] at h
          simp only [Except.ok.injEq, Prod.mk.injEq] at h
          obtain ⟨rfl, rfl, rfl⟩ := h
          exact .inr ⟨rfl, hanswer, .inl ⟨hone, rfl, rfl⟩⟩

/-- The device behind a negotiation that starts a download; `core` may have subscribed the topic of
    the responses. -/
def OtaDevice.negotiated (session : Otaupdate) (cached : OtaupdateAttribute) (core : Core)
    (dev : OtaDevice) : OtaDevice :=
  { (dev.log (.negotiate session.addr)).log (.negotiated session.addr 1 cached) with core := core }

/-- How `otaupdateOnNegotiation` goes on behind `_otaupdate_do_negotiate`, with what it leaves. -/
inductive NegotiationSteps (otaChecksumAlgorithm : Option String) (answers : OtaAnswers)
    (session next : Otaupdate) (dev : OtaDevice) (negotiation : OtaResult) :
    Otaupdate → OtaDevice → Prop
  | unsupported (halg : supportedAlgorithm otaChecksumAlgorithm = false)
      (hresult : negotiation.result = -1) :
    NegotiationSteps otaChecksumAlgorithm answers session next dev negotiation session
      (otaupdatePublishEarlyFailedStatus session.config.otaType
        (otaErrorText negotiation.otaError) (dev.log (.negotiate session.addr)))
  | alreadyUpdated (halg : supportedAlgorithm otaChecksumAlgorithm = true)
      (hresult : negotiation.result = 0) :
    NegotiationSteps otaChecksumAlgorithm answers session next dev negotiation (otaupdateReset session)
      ((dev.log (.negotiate session.addr)).log (.negotiated session.addr 0 .empty))
  | rejected (halg : supportedAlgorithm otaChecksumAlgorithm = true)
      (hresult : negotiation.result ≠ 1) :
    NegotiationSteps otaChecksumAlgorithm answers session next dev negotiation (otaupdateReset session)
      (otaupdatePublishEarlyFailedStatus session.config.otaType
        (otaErrorText negotiation.otaError) ((dev.log (.negotiate session.addr)).log
          (.negotiated session.addr negotiation.result .empty)))
  | started (cached : OtaupdateAttribute) (core : Core) {session' : Otaupdate} {dev' : OtaDevice}
      (halg : supportedAlgorithm otaChecksumAlgorithm = true) (hresult : negotiation.result = 1)
      (hnext : next = { otaupdateReset session with otaAttribute := cached })
      (hcore : core = dev.core ∨ core = tbcmSubscribe dev.core .fwResponse)
      (hrequest : otaupdateChunkRequest { otaupdateReset session with otaAttribute := cached } true
        answers (otaupdatePublishGoingStatus { otaupdateReset session with otaAttribute := cached }
          "DOWNLOADING" answers (dev.negotiated session cached core)) = (true, session', dev')) :
    NegotiationSteps otaChecksumAlgorithm answers session next dev negotiation session' dev'
  | unsent (cached : OtaupdateAttribute) (core : Core) (requested : Otaupdate) (dev₁ : OtaDevice)
      {session' : Otaupdate} {dev' : OtaDevice}
      (halg : supportedAlgorithm otaChecksumAlgorithm = true) (hresult : negotiation.result = 1)
      (hnext : next = { otaupdateReset session with otaAttribute := cached })
      (hcore : core = dev.core ∨ core = tbcmSubscribe dev.core .fwResponse)
      (hrequest : otaupdateChunkRequest { otaupdateReset session with otaAttribute := cached } true
        answers (otaupdatePublishGoingStatus { otaupdateReset session with otaAttribute := cached }
          "DOWNLOADING" answers (dev.negotiated session cached core)) = (false, requested, dev₁))
      (hconclude : otaupdateConcludeFailure requested (otaupdatePublishEarlyFailedStatus
        session.config.otaType "Request OTA chunk failure!" dev₁) = (session', dev')) :
    NegotiationSteps otaChecksumAlgorithm answers session next dev negotiation session' dev'

theorem otaupdateOnNegotiation_steps {otaTitle : String}
    {otaVersion otaChecksum otaChecksumAlgorithm : Option String} {otaSize : Nat}
    {answers : OtaAnswers} {session session' : Otaupdate} {dev dev' : OtaDevice}
    (h : otaupdateOnNegotiation otaTitle otaVersion otaSize otaChecksum otaChecksumAlgorithm
      answers session dev = .ok (session', dev')) :
    ∃ negotiation next dev₁, otaupdateDoNegotiate session otaTitle otaVersion otaSize otaChecksum
        otaChecksumAlgorithm answers dev = .ok (negotiation, next, dev₁) ∧
      NegotiationSteps otaChecksumAlgorithm answers session next dev negotiation session' dev' := by
  unfold otaupdateOnNegotiation at h
  cases hdo : otaupdateDoNegotiate session otaTitle otaVersion otaSize otaChecksum
      otaChecksumAlgorithm answers dev with
  | error fault => simp [hdo, bind, Except.bind] at h
  | ok result =>
  obtain ⟨negotiation, next, dev₁⟩ := result
  simp only [hdo, bind, Except.bind] at h
  refine ⟨negotiation, next, dev₁, rfl, ?_⟩
  obtain ⟨algorithm, rfl, ⟨halg, hres, rfl, rfl⟩ | ⟨halg, -, ⟨hres, rfl, rfl⟩ |
    ⟨cached, hres, -, -, rfl, rfl⟩⟩⟩ := otaupdateDoNegotiate_cases hdo
  · rw [if_neg (by omega), if_neg (by omega)] at h
    obtain ⟨rfl, rfl⟩ := Prod.mk.inj (Except.ok.inj h)
    exact .unsupported halg hres
  · rw [if_neg hres] at h
    by_cases hzero : negotiation.result = 0
    · rw [if_pos hzero] at h
      obtain ⟨rfl, rfl⟩ := Prod.mk.inj (Except.ok.inj h)
      rw [hzero]
      exact .alreadyUpdated halg hzero
    · rw [if_neg hzero] at h
      obtain ⟨rfl, rfl⟩ := Prod.mk.inj (Except.ok.inj h)
      exact .rejected halg hres
  · rw [if_pos hres] at h
    generalize hcore : (if tbcmhIsConnected ((dev.log (.negotiate session.addr)).log
        (.negotiated session.addr 1 cached)).core
      then tbcmSubscribe ((dev.log (.negotiate session.addr)).log
        (.negotiated session.addr 1 cached)).core .fwResponse
      else ((dev.log (.negotiate session.addr)).log
        (.negotiated session.addr 1 cached)).core) = core at h
    have hsubscribed : core = dev.core ∨ core = tbcmSubscribe dev.core .fwResponse := by
      rw [← hcore]
      split
      · exact .inr rfl
      · exact .inl rfl
    cases hrequest : otaupdateChunkRequest { otaupdateReset session with otaAttribute := cached }
        true answers (otaupdatePublishGoingStatus { otaupdateReset session with
          otaAttribute := cached } "DOWNLOADING" answers (dev.negotiated session cached core)) with
    | mk sent rest =>
    obtain ⟨requested, dev₂⟩ := rest
    have hmatch := hrequest
    rw [OtaDevice.negotiated] at hmatch
    simp only [hmatch] at h
    cases sent with
    | true =>
      rw [if_pos rfl] at h
      obtain ⟨rfl, rfl⟩ := Prod.mk.inj (Except.ok.inj h)
      exact .started cached core halg hres rfl hsubscribed hrequest
    | false =>
      rw [if_neg (by simp)] at h
      exact .unsent cached core requested dev₂ halg hres rfl hsubscribed hrequest (Except.ok.inj h)

/-- Everything a negotiation does to the session it is for. -/
theorem otaupdateOnNegotiation_outcome {otaTitle : String}
    {otaVersion otaChecksum otaChecksumAlgorithm : Option String} {otaSize : Nat}
    {answers : OtaAnswers} {session session' : Otaupdate} {dev dev' : OtaDevice}
    (h : otaupdateOnNegotiation otaTitle otaVersion otaSize otaChecksum otaChecksumAlgorithm
      answers session dev = .ok (session', dev')) :
    dev'.writer = dev.writer ∧ ∃ actions, dev'.trace = dev.trace ++ actions ∧
      NegotiationOutcome otaChecksumAlgorithm answers session session' actions := by
  obtain ⟨negotiation, next, -, -, hsteps⟩ := otaupdateOnNegotiation_steps h
  cases hsteps with
  | unsupported halg hresult =>
    refine ⟨rfl, _, ?_, .unsupported (otaErrorText negotiation.otaError) halg⟩
    simp [otaupdatePublishEarlyFailedStatus, earlyFailedTelemetry]
  | alreadyUpdated halg hresult => exact ⟨rfl, _, by simp, .alreadyUpdated halg⟩
  | rejected halg hresult =>
    refine ⟨rfl, _, ?_, .rejected (otaErrorText negotiation.otaError) _ hresult halg⟩
    simp [otaupdatePublishEarlyFailedStatus, earlyFailedTelemetry]
  | started cached core halg hresult hnext hcore hrequest =>
    obtain ⟨requestId, timestamp, hid, rfl, hwriter, text, htrace⟩ :=
      otaupdateChunkRequest_first hrequest
    refine ⟨hwriter, _, ?_, .started text cached requestId timestamp halg hid⟩
    rw [htrace]
    simp [OtaDevice.negotiated, goingTelemetry, otaupdateReset, OtaupdateState.idle]
  | unsent cached core requested dev₁ halg hresult hnext hcore hrequest hconclude =>
    obtain ⟨requestId, timestamp, hid, rfl, hwriter, text, htrace⟩ :=
      otaupdateChunkRequest_first hrequest
    obtain ⟨rfl, hwriter', htrace'⟩ := otaupdateConcludeFailure_eq hconclude
    -- the session was just reset, so the guarded abort behind the failed request does nothing
    have hidle : ∀ writer, abortedWriter { otaupdateReset session with
        otaAttribute := cached
        state := { (otaupdateReset session).state with
          requestId := requestId
          timestamp := timestamp } } writer = writer := by
      simp [abortedWriter, Otaupdate.busy, otaupdateReset, OtaupdateState.idle]
    refine ⟨(hwriter'.trans (hidle _)).trans hwriter, _, ?_, .unsent text cached requestId halg⟩
    rw [htrace', otaupdatePublishEarlyFailedStatus, OtaDevice.log_trace, htrace]
    simp [OtaDevice.negotiated, earlyFailedTelemetry, goingTelemetry, otaupdateReset,
      OtaupdateState.idle, failureActions, Otaupdate.busy]

/-! ## Timeouts -/

/-- What one round of the timeout sweep can do to a session. -/
inductive TimeoutOutcome (session : Otaupdate) (writer : FwWriter) :
    Otaupdate → FwWriter → List OtaAction → Prop
  | kept : TimeoutOutcome session writer session writer []
  | expired (hactive : 0 < session.state.requestId) :
    TimeoutOutcome session writer (otaupdateReset session) (abortedWriter session writer)
      (failedTelemetry session "OTA response timeout!" :: failureActions session)

theorem TimeoutOutcome.sameItem {session session' : Otaupdate} {writer writer' : FwWriter}
    {actions : List OtaAction} (h : TimeoutOutcome session writer session' writer' actions) :
    SameItem session session' := by
  cases h <;> exact ⟨rfl, rfl, rfl⟩

theorem otaupdateCheckTimeout_outcome {timestamp : Nat} {session session' : Otaupdate}
    {dev dev' : OtaDevice} (h : otaupdateCheckTimeout timestamp session dev = (session', dev')) :
    ∃ actions, dev'.trace = dev.trace ++ actions ∧
      TimeoutOutcome session dev.writer session' dev'.writer actions := by
  unfold otaupdateCheckTimeout at h
  by_cases hexpired : session.timedOut timestamp
  · rw [if_pos hexpired] at h
    obtain ⟨rfl, hwriter, htrace⟩ := otaupdateConcludeFailure_late h
    have hactive : 0 < session.state.requestId := by
      simp only [Otaupdate.timedOut, Bool.and_eq_true, decide_eq_true_eq] at hexpired
      exact hexpired.1.1
    rw [hwriter, htrace]
    exact ⟨_, rfl, .expired hactive⟩
  · rw [if_neg hexpired] at h
    obtain ⟨rfl, rfl⟩ := Prod.mk.inj h
    exact ⟨[], by simp, .kept⟩

/-- A property that every round of the timeout sweep keeps holds behind the sweep. In the middle of
    it the list holds the sessions visited, as they are now, and those to come. -/
theorem checkTimeout_rule {P : OtaWorld → Prop}
    (hvisit : ∀ (world : OtaWorld) (front back : List Otaupdate) (session session' : Otaupdate)
      (dev' : OtaDevice) (actions : List OtaAction), P world →
      world.otaupdateList = front ++ session :: back →
      dev'.trace = world.dev.trace ++ actions →
      TimeoutOutcome session world.dev.writer session' dev'.writer actions →
      P { world with
        otaupdateList := front ++ session' :: back
        dev := dev' })
    (timestamp : Nat) {world : OtaWorld} (h : P world) :
    P (tbcmhOtaupdateOnChunkCheckTimeout timestamp world) := by
  let inv (done rest : List Otaupdate) (dev : OtaDevice) : Prop :=
    P { world with
      otaupdateList := done ++ rest
      dev := dev }
  have hround : ∀ done session rest dev, inv done (session :: rest) dev →
      inv (done ++ [(otaupdateCheckTimeout timestamp session dev).1]) rest
        (otaupdateCheckTimeout timestamp session dev).2 := by
    intro done session rest dev hinv
    generalize hcheck : otaupdateCheckTimeout timestamp session dev = result
    obtain ⟨session', dev'⟩ := result
    obtain ⟨actions, htrace, houtcome⟩ := otaupdateCheckTimeout_outcome hcheck
    have hnext := hvisit _ done rest session session' dev' actions hinv rfl htrace houtcome
    simpa [inv] using hnext
  have hall := foreachSafe_rule hround world.otaupdateList [] world.dev h
  simpa [inv, tbcmhOtaupdateOnChunkCheckTimeout] using hall

/-! ## Events on the list -/

/-- The title a shared-attribute message announces: it carries all five attributes and the title
    is a string. -/
def announcedTitle (object : Option Cjson) : Option String :=
  object.bind fun object =>
    if hasOtaAttributes (otaAttributeKeys .fw) object then
      Cjson.getStringValue (object.getObjectItem (otaAttributeKeys .fw).title)
    else none

/-- The checksum algorithm a shared-attribute message names. -/
def announcedAlgorithm (object : Option Cjson) : Option String :=
  object.bind fun object =>
    Cjson.getStringValue (object.getObjectItem (otaAttributeKeys .fw).checksumAlg)

/-- The session a shared-attribute message is for. -/
def announcedSession (object : Option Cjson) (answers : OtaAnswers) (world : OtaWorld) :
    Option Otaupdate :=
  (announcedTitle object).bind fun otaTitle =>
    (splitFirst (·.matchesTitle .fw otaTitle answers) world.otaupdateList).map (·.2.1)

/-- The session a chunk response is for. -/
def addressedSession (requestId : Nat) (world : OtaWorld) : Option Otaupdate :=
  (splitFirst (fun session => session.state.requestId = requestId) world.otaupdateList).map (·.2.1)

/-- A shared-attribute message leaves the sessions alone, or negotiates with one of them. -/
theorem otaupdateOnAttributesupdate_negotiates {otaType : TbcmhOtaupdateType}
    {object : Option Cjson} {answers : OtaAnswers} {world world' : OtaWorld}
    (h : otaupdateOnAttributesupdate otaType object answers world = .ok world') :
    (world' = world ∨ world' = { world with
        dev := otaupdatePublishEarlyFailedStatus otaType "Device code is error!" world.dev }) ∨
      ∃ front session back session' dev' otaTitle otaVersion otaSize otaChecksum
          otaChecksumAlgorithm,
        world.otaupdateList = front ++ session :: back ∧
        otaupdateOnNegotiation otaTitle otaVersion otaSize otaChecksum otaChecksumAlgorithm answers
          session world.dev = .ok (session', dev') ∧
        world' = { world with
          otaupdateList := front ++ session' :: back
          dev := dev' } := by
  cases object with
  | none => exact .inl (.inl (Except.ok.inj h).symm)
  | some object =>
    simp only [otaupdateOnAttributesupdate] at h
    split at h
    · unfold otaupdateOnSharedattributes at h
      split at h
      · exact .inl (.inl (Except.ok.inj h).symm)
      split at h
      · exact .inl (.inr (Except.ok.inj h).symm)
      rename_i front session back hsplit
      generalize hneg : otaupdateOnNegotiation _ _ _ _ _ _ _ _ = answer at h
      cases answer with
      | error fault => simp [bind, Except.bind] at h
      | ok result =>
        obtain ⟨session', dev'⟩ := result
        obtain rfl := Except.ok.inj h
        exact .inr ⟨front, session, back, session', dev', _, _, _, _, _,
          (splitFirst_eq_some hsplit).1, hneg, rfl⟩
    · exact .inl (.inl (Except.ok.inj h).symm)

/-- A shared-attribute message is dropped, or answered with a failure, or negotiates with the
    session it is for. -/
theorem otaupdateOnFwAttributesupdate_cases {object : Option Cjson} {answers : OtaAnswers}
    {world world' : OtaWorld}
    (h : otaupdateOnFwAttributesupdate object answers world = .ok world') :
    (announcedTitle object = none ∧ world' = world) ∨
      (announcedTitle object ≠ none ∧ announcedSession object answers world = none ∧
        world' = { world with
          dev := otaupdatePublishEarlyFailedStatus .fw "Device code is error!" world.dev }) ∨
      ∃ front session back session' actions,
        announcedTitle object ≠ none ∧ announcedSession object answers world = some session ∧
        world.otaupdateList = front ++ session :: back ∧
        world'.otaupdateList = front ++ session' :: back ∧ world'.nextAddr = world.nextAddr ∧
        world'.dev.writer = world.dev.writer ∧
        world'.dev.trace = world.dev.trace ++ actions ∧
        session.config.otaType = .fw ∧
        NegotiationOutcome (announcedAlgorithm object) answers session session' actions := by
  cases object with
  | none => exact .inl ⟨rfl, (Except.ok.inj h).symm⟩
  | some object =>
    simp only [otaupdateOnFwAttributesupdate, otaupdateOnAttributesupdate] at h
    by_cases hkeys : hasOtaAttributes (otaAttributeKeys .fw) object = true
    · rw [if_pos hkeys] at h
      have htitle : announcedTitle (some object)
          = Cjson.getStringValue (object.getObjectItem (otaAttributeKeys .fw).title) := by
        simp [announcedTitle, hkeys]
      cases hvalue : Cjson.getStringValue (object.getObjectItem (otaAttributeKeys .fw).title) with
      | none =>
        simp only [hvalue, otaupdateOnSharedattributes] at h
        exact .inl ⟨htitle.trans hvalue, (Except.ok.inj h).symm⟩
      | some otaTitle =>
        rw [hvalue] at htitle
        simp only [hvalue, otaupdateOnSharedattributes] at h
        refine .inr ?_
        cases hsplit : splitFirst (·.matchesTitle .fw otaTitle answers) world.otaupdateList with
        | none =>
          simp only [hsplit] at h
          refine .inl ⟨by simp [htitle], by simp [announcedSession, htitle, hsplit], ?_⟩
          exact (Except.ok.inj h).symm
        | some parts =>
          obtain ⟨front, session, back⟩ := parts
          simp only [hsplit] at h
          obtain ⟨hlist, hmatch, -⟩ := splitFirst_eq_some hsplit
          -- a `NULL` string is a fault of the device and leaves no world behind
          generalize hneg : otaupdateOnNegotiation _ _ _ _ _ _ _ _ = answer at h
          cases answer with
          | error fault => simp [bind, Except.bind] at h
          | ok result =>
            obtain ⟨session', dev⟩ := result
            obtain ⟨hwriter, actions, htrace, houtcome⟩ := otaupdateOnNegotiation_outcome hneg
            simp only [bind, Except.bind, Except.ok.injEq] at h
            subst h
            refine .inr ⟨front, session, back, session', actions, by simp [htitle],
              by simp [announcedSession, htitle, hsplit], hlist, rfl, rfl, hwriter, htrace, ?_,
              houtcome⟩
            simp only [Otaupdate.matchesTitle, Bool.and_eq_true, decide_eq_true_eq] at hmatch
            exact hmatch.1
    · rw [if_neg hkeys] at h
      exact .inl ⟨by simp [announcedTitle, hkeys], (Except.ok.inj h).symm⟩

/-- A chunk response is dropped or handled by the session it is for. -/
theorem tbcmhOtaupdateOnChunkData_cases (crc : CrcRoutine) (requestId chunkId : Nat)
    (payload : List UInt8) (answers : OtaAnswers) (world : OtaWorld) :
    (addressedSession requestId world = none ∧
        tbcmhOtaupdateOnChunkData crc requestId chunkId payload answers world = world) ∨
      ∃ front session back session' dev' actions,
        addressedSession requestId world = some session ∧ session.state.requestId = requestId ∧
        world.otaupdateList = front ++ session :: back ∧
        tbcmhOtaupdateOnChunkData crc requestId chunkId payload answers world
          = { world with
              otaupdateList := front ++ session' :: back
              dev := dev' } ∧
        dev'.trace = world.dev.trace ++ actions ∧
        ChunkOutcome crc chunkId payload answers session world.dev.writer session' dev'.writer
          actions := by
  unfold tbcmhOtaupdateOnChunkData
  cases hsplit : splitFirst (fun session => session.state.requestId = requestId)
      world.otaupdateList with
  | none => exact .inl ⟨by simp [addressedSession, hsplit], rfl⟩
  | some parts =>
    obtain ⟨front, session, back⟩ := parts
    obtain ⟨hlist, hid, -⟩ := splitFirst_eq_some hsplit
    cases hchunk : otaupdateOnChunk crc chunkId payload answers session world.dev with
    | mk session' dev' =>
      obtain ⟨actions, htrace, houtcome⟩ := otaupdateOnChunk_outcome hchunk
      refine .inr ⟨front, session, back, session', dev', actions,
        by simp [addressedSession, hsplit], of_decide_eq_true hid, hlist, ?_, htrace, houtcome⟩
      simp only [hchunk]

end ThingsboardMqtt
