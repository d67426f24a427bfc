import ThingsboardMqtt.Ota.ChunkAnswers
import ThingsboardMqtt.Ota.HonestServer

set_option autoImplicit false

/-! # Repeated answers to a chunk request

A chunk request may be answered more than once. An answer with a chunk id that the session has
accepted before is refused like any other wrong chunk id: the session is concluded as failed. From
then on no session has the request id, so a run of answers to one request ends where the first of
them repeats an accepted chunk (`untilRepeated`). -/

namespace ThingsboardMqtt

open Execution ListWalk

/-! ## Runs of answers -/

/-- An answer reaches the device. -/
def deliver (crc : CrcRoutine) (world : OtaWorld) (response : ChunkResponse × OtaAnswers) :
    OtaWorld :=
  tbcmhOtaupdateOnChunkData crc response.1.requestId response.1.chunkId response.1.payload
    response.2 world

/-- The session that an answer is for has accepted its chunk before. -/
def repeatsChunk (world : OtaWorld) (response : ChunkResponse) : Bool :=
  match addressedSession response.requestId world with
  | some session => response.chunkId < session.state.chunkId
  | none => false

/-- The answers up to the first one that repeats an accepted chunk. -/
def untilRepeated (crc : CrcRoutine) : OtaWorld → List (ChunkResponse × OtaAnswers) →
    List (ChunkResponse × OtaAnswers)
  | _, [] => []
  | world, response :: rest =>
    if repeatsChunk world response.1 then [response]
    else response :: untilRepeated crc (deliver crc world response) rest

/-- The session and the writer are as before, nothing is published and nothing requested. -/
def Unharmed (world world' : OtaWorld) : Prop :=
  world'.otaupdateList = world.otaupdateList ∧ world'.dev.writer = world.dev.writer ∧
    ∃ actions, world'.dev.trace = world.dev.trace ++ actions ∧ ∀ a ∈ actions,
      (∀ owner payload, a ≠ .telemetry owner payload) ∧ a.requested = none

/-- The session is reset, its writer aborted, and the failure is published and concluded without a
    further request. -/
structure EndedBy (otaError : String) (session : Otaupdate) (world world' : OtaWorld) : Prop where
  sessions : ∃ front back, world.otaupdateList = front ++ session :: back ∧
    world'.otaupdateList = front ++ otaupdateReset session :: back
  writer : world'.dev.writer
    = if session.busy then otaFwupdateAbort world.dev.writer else world.dev.writer
  trace : world'.dev.trace = world.dev.trace ++ failedTelemetry session otaError ::
    (if session.busy then [.otaAbort session.addr] else []) ++ [.otaUpdated session.addr false]

/-! ## One answer -/

/-- A wrong chunk id concludes the session. -/
theorem otaupdateOnChunk_wrongId (crc : CrcRoutine) {chunkId : Nat} (payload : List UInt8)
    (answers : OtaAnswers) {session : Otaupdate} (dev : OtaDevice)
    (hid : chunkId ≠ session.state.chunkId) :
    otaupdateOnChunk crc chunkId payload answers session dev
      = otaupdateConcludeFailure session
          (otaupdatePublishLateFailedStatus session "Chunk ID is error!" dev) := by
  have htext : otaErrorText "Chunk ID is error!" = "Chunk ID is error!" := by decide +kernel
  unfold otaupdateOnChunk otaupdateDoWrite
  rw [if_pos hid]
  simp only [show ¬ (-1 : Int) = 0 by decide, if_false, if_true, htext]

/-- So does an answer that repeats an accepted chunk. -/
theorem endedBy_of_repeated (crc : CrcRoutine) {world : OtaWorld} {session : Otaupdate}
    {requestId chunkId : Nat} (payload : List UInt8) (answers : OtaAnswers)
    (hsession : addressedSession requestId world = some session)
    (hchunk : chunkId < session.state.chunkId) :
    EndedBy "Chunk ID is error!" session world
      (tbcmhOtaupdateOnChunkData crc requestId chunkId payload answers world) := by
  obtain ⟨⟨front, found, back⟩, hsplit, rfl⟩ := Option.map_eq_some_iff.mp hsession
  have hconclude := otaupdateOnChunk_wrongId crc payload answers world.dev (Nat.ne_of_lt hchunk)
  have hworld : tbcmhOtaupdateOnChunkData crc requestId chunkId payload answers world
      = { world with
          otaupdateList := front ++ otaupdateReset found :: back
          dev := (otaupdateConcludeFailure found
            (otaupdatePublishLateFailedStatus found "Chunk ID is error!" world.dev)).2 } := by
    unfold tbcmhOtaupdateOnChunkData
    rw [hsplit]
    simp only [hconclude, otaupdateConcludeFailure_fst]
  refine ⟨⟨front, back, (splitFirst_eq_some hsplit).1, by rw [hworld]⟩, ?_, ?_⟩
  · rw [hworld]
    exact otaupdateConcludeFailure_writer _ _
  · rw [hworld]
    show (otaupdateConcludeFailure found _).2.trace = _
    rw [otaupdateConcludeFailure_trace, otaupdatePublishLateFailedStatus, OtaDevice.log_trace,
      List.append_assoc, List.append_assoc]
    rfl

/-! ## All answers to one request -/

/-- How many sessions wait under a request id. -/
def waitingUnder (requestId : Nat) (world : OtaWorld) : Nat :=
  world.otaupdateList.countP (·.state.requestId = requestId)

theorem addressedSession_eq_none {requestId : Nat} {world : OtaWorld}
    (h : waitingUnder requestId world = 0) : addressedSession requestId world = none := by
  cases hsplit : splitFirst (fun session => session.state.requestId = requestId)
      world.otaupdateList with
  | none => rw [addressedSession, hsplit, Option.map_none]
  | some parts =>
    obtain ⟨front, session, back⟩ := parts
    obtain ⟨hlist, hid, -⟩ := splitFirst_eq_some hsplit
    have hmem : session ∈ world.otaupdateList := hlist ▸ List.mem_append_right _ List.mem_cons_self
    exact absurd hid (List.countP_eq_zero.mp h session hmem)

theorem foldl_deliver_of_none (crc : CrcRoutine) {requestId : Nat} {world : OtaWorld}
    (h : addressedSession requestId world = none) {responses : List (ChunkResponse × OtaAnswers)}
    (hcarry : ∀ response ∈ responses, response.1.requestId = requestId) :
    responses.foldl (deliver crc) world = world := by
  induction responses with
  | nil => rfl
  | cons response rest ih =>
    have hdrop : deliver crc world response = world := by
      unfold deliver
      rw [hcarry response List.mem_cons_self]
      rcases tbcmhOtaupdateOnChunkData_cases crc requestId response.1.chunkId response.1.payload
        response.2 world with ⟨-, hsame⟩ | ⟨_, session, _, _, _, _, hsome, -⟩
      · exact hsame
      · rw [h] at hsome
        exact absurd hsome (by simp)
    rw [List.foldl_cons, hdrop]
    exact ih fun later hlater => hcarry later (List.mem_cons_of_mem _ hlater)

theorem waitingUnder_deliver_le (crc : CrcRoutine) {requestId : Nat} (world : OtaWorld)
    {response : ChunkResponse × OtaAnswers} (hcarry : response.1.requestId = requestId) :
    waitingUnder requestId (deliver crc world response) ≤ waitingUnder requestId world := by
  unfold deliver
  rw [hcarry]
  rcases tbcmhOtaupdateOnChunkData_cases crc requestId response.1.chunkId response.1.payload
    response.2 world with ⟨-, hsame⟩ | ⟨front, session, back, session', dev', actions, -, hid,
    hlist, hworld, -⟩
  · rw [hsame]
  · rw [hworld]
    simp only [waitingUnder, hlist, List.countP_append, List.countP_cons]
    rw [if_pos (decide_eq_true hid)]
    split <;> omega

/-- Behind a repetition no session waits any more. -/
theorem waitingUnder_of_endedBy {otaError : String} {session : Otaupdate} {world world' : OtaWorld}
    (h : EndedBy otaError session world world') (hactive : session.state.requestId ≠ 0)
    (hone : waitingUnder session.state.requestId world ≤ 1) :
    waitingUnder session.state.requestId world' = 0 := by
  obtain ⟨front, back, hlist, hlist'⟩ := h.sessions
  have hreset : ¬ decide ((otaupdateReset session).state.requestId = session.state.requestId)
      = true := by
    simp only [decide_eq_true_eq]
    exact fun heq => hactive heq.symm
  simp only [waitingUnder, hlist, List.countP_append, List.countP_cons, decide_true,
    if_true] at hone
  simp only [waitingUnder, hlist', List.countP_append, List.countP_cons, if_neg hreset]
  omega

/-- A run of answers to one request ends where it first repeats an accepted chunk. -/
theorem foldl_deliver_untilRepeated (crc : CrcRoutine) {requestId : Nat} (hactive : requestId ≠ 0)
    {responses : List (ChunkResponse × OtaAnswers)}
    (hcarry : ∀ response ∈ responses, response.1.requestId = requestId) {world : OtaWorld}
    (hone : waitingUnder requestId world ≤ 1) :
    responses.foldl (deliver crc) world
      = (untilRepeated crc world responses).foldl (deliver crc) world := by
  induction responses generalizing world with
  | nil => rfl
  | cons response rest ih =>
    have hfirst := hcarry response List.mem_cons_self
    have hrest : ∀ later ∈ rest, later.1.requestId = requestId :=
      fun later hlater => hcarry later (List.mem_cons_of_mem _ hlater)
    unfold untilRepeated
    by_cases hrepeated : repeatsChunk world response.1 = true
    · rw [if_pos hrepeated, List.foldl_cons, List.foldl_cons, List.foldl_nil]
      unfold repeatsChunk at hrepeated
      cases hsession : addressedSession response.1.requestId world with
      | none => simp [hsession] at hrepeated
      | some session =>
        simp only [hsession, decide_eq_true_eq] at hrepeated
        have hended : EndedBy "Chunk ID is error!" session world (deliver crc world response) :=
          endedBy_of_repeated crc response.1.payload response.2 hsession hrepeated
        have hid : session.state.requestId = requestId := by
          obtain ⟨⟨front, found, back⟩, hsplit, rfl⟩ := Option.map_eq_some_iff.mp hsession
          exact (of_decide_eq_true (splitFirst_eq_some hsplit).2.1).trans hfirst
        have hnone := waitingUnder_of_endedBy hended (hid ▸ hactive) (hid ▸ hone)
        exact foldl_deliver_of_none crc (addressedSession_eq_none (hid ▸ hnone)) hrest
    · rw [if_neg hrepeated, List.foldl_cons, List.foldl_cons]
      exact ih hrest ((waitingUnder_deliver_le crc world hfirst).trans hone)

/-- An answer that repeats an accepted chunk ends its session as failed without a request, and a run
    of answers to one request ends exactly like the run that is cut behind its first repetition. -/
theorem repeatedAnswer_endsSession (crc : CrcRoutine) (world : OtaWorld) {requestId : Nat}
    (hactive : requestId ≠ 0) :
    (∀ session ∈ addressedSession requestId world, ∀ chunkId < session.state.chunkId,
      ∀ payload answers, EndedBy "Chunk ID is error!" session world
        (tbcmhOtaupdateOnChunkData crc requestId chunkId payload answers world)) ∧
      ∀ responses : List (ChunkResponse × OtaAnswers),
        (∀ response ∈ responses, response.1.requestId = requestId) →
        waitingUnder requestId world ≤ 1 →
        responses.foldl (deliver crc) world
          = (untilRepeated crc world responses).foldl (deliver crc) world :=
  ⟨fun _ hsession _ hchunk payload answers => endedBy_of_repeated crc payload answers hsession hchunk,
    fun _ hcarry hone => foldl_deliver_untilRepeated crc hactive hcarry hone⟩

/-- An update whose first chunk was accepted. -/
def acceptedChunk : List OtaInput :=
  announcedUpdate ++ [.event (.chunkData 1 0 sampleImage sampleAnswers)]

/-- The answer to the first request once more. -/
def repeatedAnswer : ChunkResponse where
  requestId := 1
  chunkId := 0
  payload := sampleImage

/-- The run of the repeated answer and one to the next request is cut behind the first. -/
theorem repeatedAnswer_endsSession_acceptedChunk :
    [(repeatedAnswer, sampleAnswers), ({ repeatedAnswer with chunkId := 1 }, sampleAnswers)].foldl
        (deliver .crc32) (acceptedChunk.foldl (advance (otaStep .crc32)) (.initial sampleCore 0))
      = deliver .crc32 (acceptedChunk.foldl (advance (otaStep .crc32)) (.initial sampleCore 0))
          (repeatedAnswer, sampleAnswers) := by
  have hcut := (repeatedAnswer_endsSession .crc32
    (acceptedChunk.foldl (advance (otaStep .crc32)) (.initial sampleCore 0))
    (by decide : 1 ≠ 0)).2
    [(repeatedAnswer, sampleAnswers), ({ repeatedAnswer with chunkId := 1 }, sampleAnswers)]
    (by simp [repeatedAnswer]) (by decide +kernel)
  have hrepeats : repeatsChunk (acceptedChunk.foldl (advance (otaStep .crc32))
      (.initial sampleCore 0)) repeatedAnswer = true := by decide +kernel
  rw [hcut, untilRepeated, if_pos hrepeats, List.foldl_cons, List.foldl_nil]

/-- The repeated answer resets the session. -/
theorem unharmed_fails_acceptedChunk :
    ¬ ∀ inputs world response answers,
      Run (Succeeds (otaStep .crc32)) (.initial sampleCore 0) inputs world →
      response.requestId ≠ 0 → repeatsChunk world response = true →
      Unharmed world (deliver .crc32 world (response, answers)) := by
  intro hall
  have hunharmed := hall acceptedChunk _ repeatedAnswer sampleAnswers
    (run_of_succeeds (by decide +kernel)) (by decide) (by decide +kernel)
  exact absurd (congrArg (List.map (·.state.requestId)) hunharmed.1) (by decide +kernel)

end ThingsboardMqtt
