import ThingsboardMqtt.Library.Trace
import ThingsboardMqtt.Ota.Outcomes
import ThingsboardMqtt.Ota.WriterLaws

set_option autoImplicit false

/-! # Image integrity

Whenever `ota_fwupdate_end` switches the boot partition, the image is what the session accepted
since its last successful negotiation, and its checksum is the negotiated one. `lastDownload` reads
off the trace what was accepted.

The invariant ties three places together: the trace, the counters of the session and the bytes in
flash. It breaks when a negotiation resets a session that has received bytes, because
`_otaupdate_do_negotiate` does not abort the writer: the bytes stay in the open handle and the
next image is appended to them. It also breaks when a chunk with request id zero is written for an
idle session, which no abort takes back. `IntactInput` excludes these steps, and the
two overflows of the counters. -/

namespace ThingsboardMqtt

open Execution ListWalk Trace

/-! ## What was accepted -/

/-- A successful negotiation and the chunks accepted since, with their chunk ids. -/
structure Download where
  negotiated : OtaupdateAttribute
  chunks : List (Nat × List UInt8)
  deriving DecidableEq

def Download.bytes (download : Download) : List UInt8 := download.chunks.flatMap (·.2)

/-- One action of a trace read for the session at `owner`. -/
def readDownload (owner : Nat) (download : Option Download) : OtaAction → Option Download
  | .negotiated who result cached =>
    if who = owner ∧ result = 1 then some ⟨cached, []⟩ else download
  | .otaWrite who chunkId data ok =>
    if who = owner ∧ ok = true then
      download.map fun download => { download with chunks := download.chunks ++ [(chunkId, data)] }
    else download
  | _ => download

/-- The last download of the session at `owner`. -/
def lastDownload (owner : Nat) (trace : List OtaAction) : Option Download :=
  trace.foldl (readDownload owner) none

/-- The image an action switches the boot partition to, and whose it is. -/
def OtaAction.switched : OtaAction → Option (Nat × List UInt8)
  | .otaEnd owner image true => some (owner, image)
  | _ => none

/-- An image that boots is made of the chunks `0, .., n - 1` of the last download, in order, and
    has the checksum that was negotiated. -/
def ImageIntegrity (crc : CrcRoutine) (past : List OtaAction) (action : OtaAction) : Prop :=
  ∀ owner image, action.switched = some (owner, image) →
    ∃ download, lastDownload owner past = some download ∧
      image = download.bytes ∧
      download.chunks.map (·.1) = List.range download.chunks.length ∧
      reverseBytes (crc.run 0 image) = hexValue download.negotiated.otaChecksum

/-- Negotiating does not meet received bytes. A chunk that the flash takes makes its session busy and
    does not overflow `chunk_id`. -/
def IntactInput (world : OtaWorld) : OtaEvent → Prop
  | .sharedAttributes object answers =>
    ∀ session ∈ announcedSession object answers world,
      supportedAlgorithm (announcedAlgorithm object) = true → session.state.receivedLen = 0
  | .chunkData requestId chunkId payload answers =>
    ∀ session ∈ addressedSession requestId world, session.feeds chunkId payload →
      world.dev.writer.Takes payload answers.fw →
        session.busyWith payload = true ∧ chunkId + 1 < 2 ^ 32
  | _ => True

instance (world : OtaWorld) : ∀ event : OtaEvent, Decidable (IntactInput world event)
  | .sharedAttributes object answers =>
    inferInstanceAs (Decidable (∀ session ∈ announcedSession object answers world, _ → _))
  | .chunkData requestId _ _ _ =>
    inferInstanceAs (Decidable (∀ session ∈ addressedSession requestId world, _ → _))
  | .checkTimeout _ => inferInstanceAs (Decidable True)
  | .disconnected => inferInstanceAs (Decidable True)
  | .environment _ => inferInstanceAs (Decidable True)

/-! ## Reading a trace -/

@[simp] theorem lastDownload_append (owner : Nat) (trace actions : List OtaAction) :
    lastDownload owner (trace ++ actions)
      = actions.foldl (readDownload owner) (lastDownload owner trace) := by
  rw [lastDownload, List.foldl_append]
  rfl

theorem imageIntegrity_append {crc : CrcRoutine} {trace actions : List OtaAction}
    (h : Always (ImageIntegrity crc) trace) (hno : ∀ a ∈ actions, a.switched = none) :
    Always (ImageIntegrity crc) (trace ++ actions) := by
  refine h.append ?_
  intro a ha past owner image hswitched
  rw [hno a ha] at hswitched
  exact absurd hswitched (by simp)

/-- An action other than a successful end switches nothing. -/
theorem switched_of_mem_failureActions {session : Otaupdate} {a : OtaAction}
    (h : a ∈ failureActions session) : a.switched = none := by
  cases hbusy : session.busy <;> simp [failureActions, hbusy] at h
  · rw [h]; rfl
  · rcases h with rfl | rfl <;> rfl

theorem switched_of_mem_verifiedActions {session : Otaupdate} {answers : OtaAnswers}
    {a : OtaAction} (h : a ∈ verifiedActions session answers) : a.switched = none := by
  simp [verifiedActions] at h
  rcases h with rfl | rfl | rfl <;> rfl

theorem switched_of_mem_successActions {session : Otaupdate} {a : OtaAction}
    (h : a ∈ successActions session) : a.switched = none := by
  simp [successActions] at h
  rcases h with rfl | rfl <;> rfl

/-! ## The invariant -/

/-- The counters of an active session agree with what it accepted, and so does the flash. -/
structure Downloading (crc : CrcRoutine) (session : Otaupdate) (trace : List OtaAction)
    (bytes : List UInt8) : Prop where
  exists_download : ∃ download, lastDownload session.addr trace = some download ∧
    session.otaAttribute = download.negotiated ∧ bytes = download.bytes ∧
    download.chunks.map (·.1) = List.range download.chunks.length ∧
    session.state.chunkId = download.chunks.length
  checksum : session.state.checksum = crc.run 0 bytes

/-- One session, the trace so far and the bytes in flash. -/
structure Intact (crc : CrcRoutine) (world : OtaWorld) (session : Otaupdate)
    (bytes : List UInt8) : Prop where
  list : world.otaupdateList = [session]
  trace : Always (ImageIntegrity crc) world.dev.trace
  holds : world.dev.writer.Holds bytes
  nothing : session.state.receivedLen = 0 → bytes = []
  idle : session.state.requestId = 0 → session.state = .idle
  active : 0 < session.state.requestId → Downloading crc session world.dev.trace bytes

def IntactWorld (crc : CrcRoutine) (world : OtaWorld) : Prop :=
  ∃ session bytes, Intact crc world session bytes

/-- Behind the guarded abort of a session nothing is held. -/
theorem abortedWriter_holds {session : Otaupdate} {writer : FwWriter} {bytes : List UInt8}
    (hholds : writer.Holds bytes) (hnothing : session.busy = false → bytes = []) :
    (abortedWriter session writer).Holds [] := by
  unfold abortedWriter
  cases hbusy : session.busy with
  | true => exact (otaFwupdateAbort_clean hholds).toClosed.holds
  | false =>
    obtain rfl := hnothing hbusy
    exact hholds

theorem abortedWriter_of_open {session : Otaupdate} {writer : FwWriter} {bytes : List UInt8}
    (hopen : writer.Open bytes) (hbusy : session.busy = true) :
    (abortedWriter session writer).Holds [] :=
  abortedWriter_holds (.inl hopen) fun hidle => absurd (hbusy.symm.trans hidle) (by simp)

theorem Intact.nothing_of_not_busy {crc : CrcRoutine} {world : OtaWorld} {session : Otaupdate}
    {bytes : List UInt8} (h : Intact crc world session bytes) (hbusy : session.busy = false) :
    bytes = [] := by
  by_cases hid : session.state.requestId = 0
  · exact h.nothing (by rw [h.idle hid]; rfl)
  by_cases hlen : session.state.receivedLen = 0
  · exact h.nothing hlen
  · have hbusy' := Otaupdate.busy_iff.mpr ⟨Nat.pos_of_ne_zero hid, Nat.pos_of_ne_zero hlen⟩
    exact absurd hbusy' (by simp [hbusy])

/-- A session that was reset is intact when nothing is held. -/
theorem intact_reset {crc : CrcRoutine} {world : OtaWorld} {session : Otaupdate}
    (hlist : world.otaupdateList = [otaupdateReset session])
    (htrace : Always (ImageIntegrity crc) world.dev.trace) (hholds : world.dev.writer.Holds []) :
    Intact crc world (otaupdateReset session) [] where
  list := hlist
  trace := htrace
  holds := hholds
  nothing _ := rfl
  idle _ := rfl
  active h := absurd h (Nat.lt_irrefl 0)

/-! ## One chunk -/

theorem Downloading.advance {crc : CrcRoutine} {session : Otaupdate} {trace : List OtaAction}
    {bytes payload : List UInt8} {chunkId : Nat} (h : Downloading crc session trace bytes)
    (hid : chunkId = session.state.chunkId) (hfit : chunkId + 1 < 2 ^ 32) :
    Downloading crc (otaupdateAdvance crc session payload)
      (trace ++ [.otaWrite session.addr chunkId payload true]) (bytes ++ payload) := by
  obtain ⟨⟨download, hlast, hattr, hbytes, hids, hcount⟩, hchecksum⟩ := h
  refine ⟨⟨{ download with chunks := download.chunks ++ [(chunkId, payload)] }, ?_, hattr, ?_, ?_,
    ?_⟩, ?_⟩
  · simp [otaupdateAdvance, hlast, readDownload]
  · simp [Download.bytes, hbytes]
  · simp [hids, hid, hcount, List.range_succ]
  · simp only [otaupdateAdvance, List.length_append, List.length_singleton]
    omega
  · simp [otaupdateAdvance, hchecksum, crc.run_append]

theorem Downloading.frame {crc : CrcRoutine} {session : Otaupdate} {trace actions : List OtaAction}
    {bytes : List UInt8} (h : Downloading crc session trace bytes)
    (hframe : ∀ download, actions.foldl (readDownload session.addr) download = download) :
    Downloading crc session (trace ++ actions) bytes := by
  obtain ⟨⟨download, hlast, hrest⟩, hchecksum⟩ := h
  exact ⟨⟨download, by rw [lastDownload_append, hframe, hlast], hrest⟩, hchecksum⟩

theorem Downloading.requested {crc : CrcRoutine} {session : Otaupdate} {trace : List OtaAction}
    {bytes : List UInt8} (h : Downloading crc session trace bytes) (timestamp : Nat)
    {owner requestId chunkId : Nat} {text : String} {sent : Bool} :
    Downloading crc { session with state := { session.state with timestamp := timestamp } }
      (trace ++ [.chunkRequest owner requestId chunkId text sent]) bytes := by
  obtain ⟨⟨download, hlast, hrest⟩, hchecksum⟩ := h
  exact ⟨⟨download, by rw [lastDownload_append, ← hlast]; rfl, hrest⟩, hchecksum⟩

/-- The image that is ended behind the last chunk is the download. -/
theorem Downloading.imageIntegrity {crc : CrcRoutine} {session : Otaupdate}
    {past : List OtaAction} {bytes : List UInt8} {owner : Nat}
    (h : Downloading crc session past bytes) (howner : owner = session.addr)
    (hchecksum : otaupdateChecksumVerification session = true) (switched : Bool) :
    ImageIntegrity crc past (.otaEnd owner bytes switched) := by
  obtain ⟨⟨download, hlast, hattr, hbytes, hids, -⟩, hsum⟩ := h
  intro who image hswitched
  cases switched with
  | false => exact absurd hswitched (by simp [OtaAction.switched])
  | true =>
    obtain ⟨rfl, rfl⟩ : owner = who ∧ bytes = image := by
      simpa [OtaAction.switched] using hswitched
    refine ⟨download, howner ▸ hlast, hbytes, hids, ?_⟩
    rw [otaupdateChecksumVerification, hsum, hattr] at hchecksum
    exact of_decide_eq_true hchecksum

section Chunk

variable {crc : CrcRoutine} {chunkId : Nat} {payload : List UInt8} {answers : OtaAnswers}
  {world : OtaWorld} {session : Otaupdate} {dev' : OtaDevice} {bytes : List UInt8}
  {actions : List OtaAction}

/-- Where most outcomes end: the session was reset, nothing is held and nothing was switched. -/
theorem Intact.afterReset (h : Intact crc world session bytes)
    (htrace : dev'.trace = world.dev.trace ++ actions) (hno : ∀ a ∈ actions, a.switched = none)
    (hholds : dev'.writer.Holds []) :
    ∃ bytes', Intact crc
      { world with
        otaupdateList := [otaupdateReset session]
        dev := dev' } (otaupdateReset session) bytes' := by
  refine ⟨[], intact_reset rfl ?_ hholds⟩
  rw [htrace]
  exact imageIntegrity_append h.trace hno

/-- What a write that succeeded leaves: an open image, and a session that is still busy. -/
theorem Intact.written {written : OtaResult} {writer' : FwWriter}
    (h : Intact crc world session bytes)
    (hguard : session.feeds chunkId payload → world.dev.writer.Takes payload answers.fw →
      session.busyWith payload = true ∧ chunkId + 1 < 2 ^ 32)
    (hfeeds : session.feeds chunkId payload)
    (hwrite : otaFwupdateWrite world.dev.writer payload otaErrorSize answers.fw
      = (written, writer'))
    (hok : written.result = 0) :
    writer'.Open (bytes ++ payload) ∧ (otaupdateAdvance crc session payload).busy = true ∧
      Downloading crc (otaupdateAdvance crc session payload)
        (world.dev.trace ++ [.otaWrite session.addr chunkId payload true]) (bytes ++ payload) := by
  obtain ⟨hbusy, hchunk⟩ := hguard hfeeds (takes_of_otaFwupdateWrite hfeeds.2 hwrite hok)
  rw [← otaupdateAdvance_busy crc] at hbusy
  rcases otaFwupdateWrite_holds h.holds hfeeds.2 hwrite with ⟨-, -, hopen⟩ | ⟨hfail, -⟩
  · exact ⟨hopen, hbusy, (h.active (Otaupdate.busy_iff.mp hbusy).1).advance hfeeds.1 hchunk⟩
  · exact absurd hok hfail

/-- A write that failed leaves what was held, and the abort gives it up. -/
theorem Intact.abortedWriter_writeFailed {written : OtaResult} {writer' : FwWriter}
    (h : Intact crc world session bytes) (hfeeds : session.feeds chunkId payload)
    (hwrite : otaFwupdateWrite world.dev.writer payload otaErrorSize answers.fw
      = (written, writer'))
    (hfail : written.result ≠ 0) : (abortedWriter session writer').Holds [] := by
  have hholds : writer'.Holds bytes := by
    rcases otaFwupdateWrite_holds h.holds hfeeds.2 hwrite with ⟨hok, -⟩ | ⟨-, hholds⟩
    · exact absurd hok hfail
    · exact hholds
  exact abortedWriter_holds hholds h.nothing_of_not_busy

/-- The next chunk was requested: the download goes on. -/
theorem Intact.requested {text : String} (h : Intact crc world session bytes)
    (htrace : dev'.trace = world.dev.trace ++ [.otaWrite session.addr chunkId payload true,
      .chunkRequest session.addr session.state.requestId
        (otaupdateAdvance crc session payload).state.chunkId text true])
    (hopen : dev'.writer.Open (bytes ++ payload))
    (hbusy : (otaupdateAdvance crc session payload).busy = true)
    (hdown : Downloading crc (otaupdateAdvance crc session payload)
      (world.dev.trace ++ [.otaWrite session.addr chunkId payload true]) (bytes ++ payload))
    (timestamp : Nat) {session' : Otaupdate}
    (hsession' : session' = { otaupdateAdvance crc session payload with
      state := { (otaupdateAdvance crc session payload).state with timestamp := timestamp } }) :
    Intact crc
      { world with
        otaupdateList := [session']
        dev := dev' } session' (bytes ++ payload) := by
  subst hsession'
  obtain ⟨hid, hlen⟩ := Otaupdate.busy_iff.mp hbusy
  refine ⟨rfl, ?_, .inl hopen, ?_, ?_, ?_⟩
  · rw [htrace]
    refine imageIntegrity_append h.trace ?_
    simp [OtaAction.switched]
  · intro h0
    exact absurd h0 (Nat.ne_of_gt hlen)
  · intro h0
    exact absurd h0 (Nat.ne_of_gt hid)
  · intro _
    rw [htrace, ← List.singleton_append, ← List.append_assoc]
    exact hdown.requested timestamp

/-- The one action that switches ends the download so far, whose checksum was verified. -/
theorem Intact.imageIntegrity_updated {next : Otaupdate} (h : Intact crc world session bytes)
    (hnext : next = otaupdateAdvance crc session payload)
    (hdown : Downloading crc next
      (world.dev.trace ++ [.otaWrite session.addr chunkId payload true]) (bytes ++ payload))
    (hchecksum : otaupdateChecksumVerification next = true) :
    Always (ImageIntegrity crc) (world.dev.trace ++
      (.otaWrite session.addr chunkId payload true :: verifiedActions session answers ++
        .otaEnd session.addr (bytes ++ payload) true :: successActions next)) := by
  have hverified : Always (ImageIntegrity crc) (world.dev.trace ++
      .otaWrite session.addr chunkId payload true :: verifiedActions session answers) :=
    imageIntegrity_append h.trace
      (List.forall_mem_cons.mpr ⟨rfl, fun _ => switched_of_mem_verifiedActions⟩)
  have hdown' : Downloading crc next (world.dev.trace ++
      .otaWrite session.addr chunkId payload true :: verifiedActions session answers)
      (bytes ++ payload) := by
    rw [← List.singleton_append, ← List.append_assoc]
    exact hdown.frame fun _ => rfl
  have haddr : session.addr = next.addr := by
    rw [hnext]
    rfl
  have hended : Always (ImageIntegrity crc) (world.dev.trace ++
      .otaWrite session.addr chunkId payload true :: verifiedActions session answers ++
      [.otaEnd session.addr (bytes ++ payload) true]) :=
    always_snoc hverified (hdown'.imageIntegrity haddr hchecksum true)
  have hafter : Always (ImageIntegrity crc) (world.dev.trace ++
      .otaWrite session.addr chunkId payload true :: verifiedActions session answers ++
      [.otaEnd session.addr (bytes ++ payload) true] ++ successActions next) :=
    imageIntegrity_append hended fun a => switched_of_mem_successActions
  simpa using hafter

/-- The telemetry around an `ota_end` that failed switches nothing. -/
theorem switched_of_endFailed {image : List UInt8} {text : String} {next : Otaupdate} :
    ∀ a ∈ .otaWrite session.addr chunkId payload true :: verifiedActions session answers ++
        .otaEnd session.addr image false :: failedTelemetry session text :: failureActions next,
      a.switched = none := by
  intro a ha
  rcases List.mem_append.mp ha with ha | ha
  · rcases List.mem_cons.mp ha with rfl | ha
    · rfl
    · exact switched_of_mem_verifiedActions ha
  · simp only [List.mem_cons] at ha
    rcases ha with rfl | rfl | ha
    · rfl
    · rfl
    · exact switched_of_mem_failureActions ha

/-- What a chunk keeps of an intact session. -/
theorem ChunkOutcome.intact {session' : Otaupdate} (h : Intact crc world session bytes)
    (hguard : session.feeds chunkId payload → world.dev.writer.Takes payload answers.fw →
      session.busyWith payload = true ∧ chunkId + 1 < 2 ^ 32)
    (htrace : dev'.trace = world.dev.trace ++ actions)
    (houtcome : ChunkOutcome crc chunkId payload answers session world.dev.writer session'
      dev'.writer actions) :
    ∃ bytes', Intact crc
      { world with
        otaupdateList := [session']
        dev := dev' } session' bytes' := by
  generalize hwriter' : dev'.writer = writer₁ at houtcome
  cases houtcome with
  | refused text hfeeds =>
    have hholds := abortedWriter_holds h.holds h.nothing_of_not_busy
    refine h.afterReset htrace ?_ (hwriter' ▸ hholds)
    exact List.forall_mem_cons.mpr ⟨rfl, fun _ => switched_of_mem_failureActions⟩
  | writeFailed text written writer' hfeeds hwrite hfail =>
    have hholds := h.abortedWriter_writeFailed hfeeds hwrite hfail
    refine h.afterReset htrace ?_ (hwriter' ▸ hholds)
    simp only [List.forall_mem_cons]
    exact ⟨rfl, rfl, fun _ => switched_of_mem_failureActions⟩
  | requested text timestamp written writer' next hfeeds hwrite hok hnext hmore =>
    subst hnext
    obtain ⟨hopen, hbusy, hdown⟩ := h.written hguard hfeeds hwrite hok
    exact ⟨_, h.requested htrace (hwriter' ▸ hopen) hbusy hdown timestamp rfl⟩
  | requestFailed text written writer' next hfeeds hwrite hok hnext hmore =>
    subst hnext
    obtain ⟨hopen, hbusy, -⟩ := h.written hguard hfeeds hwrite hok
    have hholds := abortedWriter_of_open hopen hbusy
    refine h.afterReset htrace ?_ (hwriter' ▸ hholds)
    simp only [List.forall_mem_cons]
    exact ⟨rfl, rfl, rfl, fun _ => switched_of_mem_failureActions⟩
  | corrupted written writer' next hfeeds hwrite hok hnext hall hchecksum =>
    subst hnext
    obtain ⟨hopen, hbusy, -⟩ := h.written hguard hfeeds hwrite hok
    have hholds := abortedWriter_of_open hopen hbusy
    refine h.afterReset htrace ?_ (hwriter' ▸ hholds)
    simp only [List.forall_mem_cons]
    exact ⟨rfl, rfl, rfl, fun _ => switched_of_mem_failureActions⟩
  | updated written ended writer' writer'' next hfeeds hwrite hok hnext hall hchecksum hbusy hend
      hended =>
    obtain ⟨hopen, -, hdown⟩ := h.written hguard hfeeds hwrite hok
    rw [← hnext] at hdown
    have hclean : writer₁.Clean := by
      rcases otaFwupdateEnd_open hopen hend with ⟨-, hclean⟩ | ⟨hfail, -⟩
      · exact hclean
      · exact absurd hended hfail
    refine ⟨[], intact_reset rfl ?_ (hwriter' ▸ hclean.toClosed.holds)⟩
    rw [htrace, hopen.image]
    exact h.imageIntegrity_updated hnext hdown hchecksum
  | endFailed text written ended writer' writer'' next hfeeds hwrite hok hnext hall hchecksum
      hbusy hend hended =>
    obtain ⟨hopen, -, -⟩ := h.written hguard hfeeds hwrite hok
    have hclean : (abortedWriter next writer'').Clean := by
      rcases otaFwupdateEnd_open hopen hend with ⟨hok, -⟩ | ⟨-, hclean⟩
      · exact absurd hok hended
      · rw [abortedWriter, if_pos hbusy]
        exact hclean
    exact h.afterReset htrace switched_of_endFailed (hwriter' ▸ hclean.toClosed.holds)
  | unguarded written writer' next hfeeds hwrite hok hnext hall hchecksum hidle =>
    subst hnext
    obtain ⟨-, hbusy, -⟩ := h.written hguard hfeeds hwrite hok
    exact absurd hbusy (by simp [hidle])

end Chunk

/-! ## One event -/

theorem NegotiationOutcome.switched {algorithm : Option String} {answers : OtaAnswers}
    {session session' : Otaupdate} {actions : List OtaAction}
    (h : NegotiationOutcome algorithm answers session session' actions) :
    ∀ a ∈ actions, a.switched = none := by
  cases h <;> simp [OtaAction.switched, goingTelemetry, earlyFailedTelemetry]

/-- What a negotiation keeps of an intact session. -/
theorem NegotiationOutcome.intact {crc : CrcRoutine} {algorithm : Option String}
    {answers : OtaAnswers} {world world' : OtaWorld} {session session' : Otaupdate}
    {bytes : List UInt8} {actions : List OtaAction} (h : Intact crc world session bytes)
    (hguard : supportedAlgorithm algorithm = true → session.state.receivedLen = 0)
    (hlist : world'.otaupdateList = [session']) (hwriter : world'.dev.writer = world.dev.writer)
    (htrace : world'.dev.trace = world.dev.trace ++ actions)
    (houtcome : NegotiationOutcome algorithm answers session session' actions) :
    ∃ bytes', Intact crc world' session' bytes' := by
  have hkeep : Always (ImageIntegrity crc) world'.dev.trace := by
    rw [htrace]
    exact imageIntegrity_append h.trace houtcome.switched
  -- the writer is not aborted, so what it holds has to be empty already
  have hempty : supportedAlgorithm algorithm = true → world'.dev.writer.Holds [] := by
    intro halg
    rw [hwriter, ← h.nothing (hguard halg)]
    exact h.holds
  cases houtcome with
  | unsupported text halg =>
    refine ⟨bytes, hlist, hkeep, hwriter ▸ h.holds, h.nothing,
      h.idle, ?_⟩
    intro hactive
    rw [htrace]
    exact (h.active hactive).frame fun _ => rfl
  | alreadyUpdated halg =>
    exact ⟨[], intact_reset hlist hkeep (hempty halg)⟩
  | rejected text result hresult halg =>
    exact ⟨[], intact_reset hlist hkeep (hempty halg)⟩
  | started text cached requestId timestamp halg hid =>
    refine ⟨[], hlist, hkeep, hempty halg, fun _ => rfl,
      fun h0 => absurd h0 (Nat.ne_of_gt hid), ?_⟩
    intro _
    refine ⟨⟨⟨cached, []⟩, ?_, rfl, rfl, rfl, rfl⟩, (crc.run_nil 0).symm⟩
    simp [htrace, readDownload, goingTelemetry]
  | unsent text cached requestId halg =>
    exact ⟨[], intact_reset hlist hkeep (hempty halg)⟩

theorem IntactWorld.checkTimeout {crc : CrcRoutine} {world : OtaWorld} (h : IntactWorld crc world)
    (timestamp : Nat) : IntactWorld crc (tbcmhOtaupdateOnChunkCheckTimeout timestamp world) := by
  refine checkTimeout_rule ?_ timestamp h
  intro world front back session session' dev' actions hworld hlist htrace houtcome
  obtain ⟨found, bytes, hintact⟩ := hworld
  obtain ⟨rfl, hfound, rfl⟩ := eq_of_singleton_eq_append_cons (hintact.list.symm.trans hlist)
  subst found
  generalize hwriter' : dev'.writer = writer₁ at houtcome
  cases houtcome with
  | kept =>
    rw [List.append_nil] at htrace
    exact ⟨session, bytes, rfl, htrace ▸ hintact.trace, hwriter' ▸ hintact.holds,
      hintact.nothing, hintact.idle, fun hactive => htrace ▸ hintact.active hactive⟩
  | expired hactive =>
    refine ⟨_, [], intact_reset rfl ?_ ?_⟩
    · rw [htrace]
      refine imageIntegrity_append hintact.trace ?_
      intro a ha
      rcases List.mem_cons.mp ha with rfl | ha
      · rfl
      · exact switched_of_mem_failureActions ha
    · exact hwriter' ▸ abortedWriter_holds hintact.holds hintact.nothing_of_not_busy

/-- Every step that is allowed keeps the session intact. -/
theorem intact_step {crc : CrcRoutine} {world world' : OtaWorld} {event : OtaEvent}
    (h : IntactWorld crc world)
    (hstep : within IntactInput (Succeeds (otaHandle crc)) world event world') :
    IntactWorld crc world' := by
  obtain ⟨session, bytes, hintact⟩ := h
  obtain ⟨hguard, hhandle⟩ := hstep
  cases event with
  | sharedAttributes object answers =>
    rcases otaupdateOnFwAttributesupdate_cases hhandle with ⟨-, rfl⟩ | ⟨-, -, rfl⟩ |
      ⟨front, found, back, session', actions, -, hfound, hlist, hlist', -, hwriter, htrace, -,
        houtcome⟩
    · exact ⟨session, bytes, hintact⟩
    · exact ⟨session, bytes, hintact.list, imageIntegrity_append hintact.trace
        (by simp [OtaAction.switched]), hintact.holds, hintact.nothing, hintact.idle,
        fun hactive => (hintact.active hactive).frame fun _ => rfl⟩
    · obtain ⟨rfl, rfl, rfl⟩ := eq_of_singleton_eq_append_cons (hintact.list.symm.trans hlist)
      exact ⟨session', houtcome.intact hintact (hguard session hfound) hlist' hwriter htrace⟩
  | chunkData requestId chunkId payload answers =>
    obtain rfl := Except.ok.inj hhandle
    rcases tbcmhOtaupdateOnChunkData_cases crc requestId chunkId payload answers world with
      ⟨-, hsame⟩ | ⟨front, found, back, session', dev', actions, hfound, hid, hlist, hworld,
        htrace, houtcome⟩
    · rw [hsame]
      exact ⟨session, bytes, hintact⟩
    · obtain ⟨rfl, rfl, rfl⟩ := eq_of_singleton_eq_append_cons (hintact.list.symm.trans hlist)
      rw [hworld]
      exact ⟨session', houtcome.intact hintact (hguard session hfound) htrace⟩
  | checkTimeout timestamp =>
    obtain rfl := Except.ok.inj hhandle
    exact IntactWorld.checkTimeout ⟨session, bytes, hintact⟩ timestamp
  | disconnected =>
    obtain rfl := Except.ok.inj hhandle
    exact IntactWorld.checkTimeout ⟨session, bytes, hintact⟩ _
  | environment core =>
    obtain rfl := Except.ok.inj hhandle
    exact ⟨session, bytes, hintact.list, hintact.trace, hintact.holds, hintact.nothing,
      hintact.idle, hintact.active⟩

theorem intact_single (crc : CrcRoutine) (core : Core) (lastHandle : Nat)
    (otaDescription : String) (partitionSize : Nat) :
    IntactWorld crc (OtaWorld.single core lastHandle otaDescription partitionSize) :=
  ⟨_, [], rfl, always_nil _, .inr ⟨⟨rfl, rfl⟩, rfl⟩, fun _ => rfl, fun _ => rfl,
    fun h => absurd h (Nat.lt_irrefl 0)⟩

/-- In every run of allowed steps, whatever boots is the download. -/
theorem imageIntegrity_of_run {crc : CrcRoutine} {core : Core} {lastHandle : Nat}
    {otaDescription : String} {partitionSize : Nat} {events : List OtaEvent} {world : OtaWorld}
    (run : Run (within IntactInput (Succeeds (otaHandle crc)))
      (.single core lastHandle otaDescription partitionSize) events world) :
    Always (ImageIntegrity crc) world.dev.trace := by
  obtain ⟨session, bytes, hintact⟩ := run.invariant
    (intact_single crc core lastHandle otaDescription partitionSize)
    (fun _ _ _ => intact_step)
  exact hintact.trace

/-- A download whose first chunk the flash refuses, and a second download of one byte, which the
    header check does not look at any more. -/
def retriedUpdate : List OtaEvent :=
  [.sharedAttributes (some (sampleAttributes 288 "0")) sampleAnswers,
    .chunkData 1 0 sampleImage
      { sampleAnswers with fw := { sampleAnswers.fw with otaWrite := some "ESP_FAIL" } },
    .sharedAttributes (some (sampleAttributes 1 "8def02d2")) sampleAnswers,
    .chunkData 2 0 [0] sampleAnswers]

/-- The second download boots, and boots what it downloaded. -/
theorem imageIntegrity_of_run_retriedUpdate :
    Always (ImageIntegrity .crc32)
        (retriedUpdate.foldl (advance (otaHandle .crc32)) sampleWorld).dev.trace ∧
      (retriedUpdate.foldl (advance (otaHandle .crc32)) sampleWorld).dev.trace.filterMap
        OtaAction.switched = [(0, [0])] :=
  ⟨imageIntegrity_of_run (run_of_allowed (by decide +kernel)), by decide +kernel⟩

/-- A download that is negotiated anew after its first chunk, now as an image of one byte. -/
def renegotiatedUpdate : List OtaEvent :=
  [.sharedAttributes (some (sampleAttributes 20000 "0")) sampleAnswers,
    .chunkData 1 0 sampleImage sampleAnswers,
    .sharedAttributes (some (sampleAttributes 1 "8def02d2")) sampleAnswers,
    .chunkData 2 0 [0] sampleAnswers]

/-- The 289 bytes that boot in the end are not the one byte the last negotiation was about. -/
theorem imageIntegrity_fails_renegotiatedUpdate :
    ¬ ∀ events world, Run (Succeeds (otaHandle .crc32)) sampleWorld events world →
      Always (ImageIntegrity .crc32) world.dev.trace := by
  intro hall
  have hrun := hall renegotiatedUpdate _ (run_of_succeeds (by decide +kernel))
  generalize hdone : (renegotiatedUpdate.foldl (advance (otaHandle .crc32)) sampleWorld).dev.trace
    = done at hrun
  -- entry 14 is the end of the second download
  have hswitched : (done[14]?.bind OtaAction.switched).map (fun e => (e.1, e.2.length))
      = some (0, 289) := by
    rw [← hdone]
    decide +kernel
  have hdownload : (lastDownload 0 (done.take 14)).map (·.bytes.length) = some 1 := by
    rw [← hdone]
    decide +kernel
  obtain ⟨⟨owner, image⟩, hend, hshape⟩ := Option.map_eq_some_iff.mp hswitched
  obtain ⟨rfl, hlength⟩ := Prod.mk.inj hshape
  obtain ⟨action, haction, hend⟩ := Option.bind_eq_some_iff.mp hend
  obtain ⟨download, hlast, himage, -⟩ := hrun.get haction 0 image hend
  rw [hlast, Option.map_some, Option.some.injEq, ← himage, hlength] at hdownload
  exact absurd hdownload (by decide)

end ThingsboardMqtt
