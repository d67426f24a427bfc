import ThingsboardMqtt.Ota.Outcomes
import ThingsboardMqtt.Wapper.TopicBounds

set_option autoImplicit false

/-! # Chunk requests and their answers

A chunk response may act only for the session whose own chunk request with that id is outstanding.
`progress` reads off the trace which request, if any, a session waits for; the invariant is that the
request id of a session says the same (`Tracked`).

The response is looked up by its id alone, and an idle session has the id zero, which is also what
the topic parser makes of an id that is no number. And the topic is no terminated string, so `sscanf`
may read on behind it. So a response acts for an outstanding request exactly when no session has the
id that is read, or this id is the topic's own and not zero. -/

namespace ThingsboardMqtt

open CHeap CString Execution ListWalk Scanf

/-! ## What a session waits for -/

/-- Whose action it is. -/
def OtaAction.owner : OtaAction → Option Nat
  | .telemetry owner _ => owner
  | .negotiate owner => some owner
  | .negotiated owner _ _ => some owner
  | .chunkRequest owner _ _ _ _ => some owner
  | .otaWrite owner _ _ _ => some owner
  | .otaEnd owner _ _ => some owner
  | .otaAbort owner => some owner
  | .otaUpdated owner _ => some owner

/-- How far an update has come: `negotiated`, and with a chunk request on its way or not. -/
inductive ChunkProgress
  | idle
  | negotiated
  | waiting (requestId : Nat)
  deriving DecidableEq, Repr

/-- One action of a trace read for the session at `owner`. -/
def readProgress (owner : Nat) (progress : ChunkProgress) (action : OtaAction) : ChunkProgress :=
  if action.owner = some owner then
    match action with
    | .negotiated _ result _ => if result = 1 then .negotiated else .idle
    | .chunkRequest _ requestId _ _ sent =>
      if progress = .idle then .idle else if sent then .waiting requestId else .negotiated
    | .otaUpdated _ _ => .idle
    | _ => progress
  else progress

/-- What the session at `owner` waits for. -/
def progress (owner : Nat) (trace : List OtaAction) : ChunkProgress :=
  trace.foldl (readProgress owner) .idle

/-- What the event of a received message does for the updates. -/
def onFwEvent (crc : CrcRoutine) (payload : List UInt8) (answers : OtaAnswers) (world : OtaWorld)
    (event : TbcmRxData) : OtaWorld :=
  match event.topic with
  | .fwResponse => tbcmhOtaupdateOnChunkData crc event.requestId.toNat event.chunkId.toNat payload
      answers world
  | _ => world

/-- What a message does whose topic is followed by `following` in memory. -/
def onFwResponse (crc : CrcRoutine) (topic : RxTopic) (following : Memory) (payload : List UInt8)
    (answers : OtaAnswers) (world : OtaWorld) : Except MemFault OtaWorld := do
  let events ← topic.handle following (some (payload.map some)) payload.length
  .ok (events.foldl (onFwEvent crc payload answers) world)

/-- The request id the topic's own characters spell. -/
def RxTopic.ownRequestId (topic : RxTopic) : Option UInt32 :=
  scanDec (String.ofList (topic.bytes.drop fwResponsePrefix.toList.length))

/-- The session waits for the response with this id. -/
def Outstanding (requestId : Option UInt32) (world : OtaWorld) (session : Otaupdate) : Prop :=
  ∃ id, requestId = some id ∧ progress session.addr world.dev.trace = .waiting id.toNat

/-- A response with the id `requestId`, which turns `world` into `world'`, acts for sessions whose
    request of that id is outstanding only: what it does is done for such a session, it leaves idle
    sessions as they are, and it does nothing when there is no such session. -/
structure AnswersOutstanding (requestId : Option UInt32) (world world' : OtaWorld) : Prop where
  owned : ∃ actions, world'.dev.trace = world.dev.trace ++ actions ∧
    ∀ action ∈ actions, ∃ session ∈ world.otaupdateList, action.owner = some session.addr ∧
      Outstanding requestId world session
  idle : ∀ session ∈ world.otaupdateList, session.state.requestId = 0 →
    session ∈ world'.otaupdateList
  silent : (∀ session ∈ world.otaupdateList, ¬ Outstanding requestId world session) →
    world' = world

/-- The message is handled within memory, and acts for outstanding requests with its own id only. -/
def RightlyAnswered (crc : CrcRoutine) (topic : RxTopic) (following : Memory)
    (payload : List UInt8) (answers : OtaAnswers) (world : OtaWorld) : Prop :=
  ∃ world', onFwResponse crc topic following payload answers world = .ok world' ∧
    AnswersOutstanding topic.ownRequestId world world'

/-! ## Reading a trace -/

theorem progress_append (owner : Nat) (trace actions : List OtaAction) :
    progress owner (trace ++ actions)
      = actions.foldl (readProgress owner) (progress owner trace) := by
  rw [progress, List.foldl_append]
  rfl

theorem readProgress_of_ne {owner : Nat} {action : OtaAction} (h : action.owner ≠ some owner)
    (before : ChunkProgress) : readProgress owner before action = before := if_neg h

theorem foldl_readProgress_of_other {owner : Nat} {actions : List OtaAction}
    (h : ∀ action ∈ actions, action.owner ≠ some owner) (before : ChunkProgress) :
    actions.foldl (readProgress owner) before = before := by
  induction actions with
  | nil => rfl
  | cons action rest ih =>
    rw [List.foldl_cons, readProgress_of_ne (h action List.mem_cons_self)]
    exact ih fun a ha => h a (List.mem_cons_of_mem _ ha)

theorem foldl_readProgress_concluded (owner : Nat) (actions : List OtaAction) (success : Bool)
    (before : ChunkProgress) :
    (actions ++ [OtaAction.otaUpdated owner success]).foldl (readProgress owner) before
      = .idle := by
  simp [List.foldl_append, readProgress, OtaAction.owner]

/-! ## Owners of the actions of an event -/

theorem owner_of_mem_failureActions {session : Otaupdate} {action : OtaAction}
    (h : action ∈ failureActions session) : action.owner = some session.addr := by
  cases hbusy : session.busy <;> simp [failureActions, hbusy] at h
  · rw [h]; rfl
  · rcases h with rfl | rfl <;> rfl

/-- A chunk either concludes the session or requests the next chunk. -/
theorem ChunkOutcome.concluded_or_requested {crc : CrcRoutine} {chunkId : Nat}
    {payload : List UInt8} {answers : OtaAnswers} {session session' : Otaupdate}
    {writer writer' : FwWriter} {actions : List OtaAction}
    (h : ChunkOutcome crc chunkId payload answers session writer session' writer' actions) :
    (session' = otaupdateReset session ∧
        ∃ before success, actions = before ++ [.otaUpdated session.addr success]) ∨
      (session'.state.requestId = session.state.requestId ∧ ∃ chunk text,
        actions = [.otaWrite session.addr chunkId payload true,
          .chunkRequest session.addr session.state.requestId chunk text true]) := by
  cases h with
  | requested text timestamp written writer₁ next hfeeds hwrite hok hnext hmore =>
    subst hnext
    exact .inr ⟨rfl, _, text, rfl⟩
  | refused text hfeeds => exact .inl ⟨rfl, _ :: _, false, rfl⟩
  | writeFailed text written writer₁ hfeeds hwrite hfail =>
    exact .inl ⟨rfl, _ :: _ :: _, false, rfl⟩
  | requestFailed text written writer₁ next hfeeds hwrite hok hnext hmore =>
    subst hnext
    exact .inl ⟨rfl, _ :: _ :: _ :: _, false, rfl⟩
  | corrupted written writer₁ next hfeeds hwrite hok hnext hall hchecksum =>
    subst hnext
    exact .inl ⟨rfl, _ :: _ :: _ :: _, false, rfl⟩
  | updated written ended writer₁ writer₂ next hfeeds hwrite hok hnext hall hchecksum hbusy hend
      hended =>
    subst hnext
    exact .inl ⟨rfl, [_, _, _, _, _, _], true, rfl⟩
  | endFailed text written ended writer₁ writer₂ next hfeeds hwrite hok hnext hall hchecksum
      hbusy hend hended =>
    subst hnext
    exact .inl ⟨rfl, _ :: _ :: _ :: _ :: _ :: _ :: _, false, rfl⟩
  | unguarded written writer₁ next hfeeds hwrite hok hnext hall hchecksum hidle =>
    subst hnext
    exact .inl ⟨rfl, [_, _, _, _, _], true, rfl⟩

/-- All a chunk does is done for the session it is for. -/
theorem ChunkOutcome.owner {crc : CrcRoutine} {chunkId : Nat}
    {payload : List UInt8} {answers : OtaAnswers} {session session' : Otaupdate}
    {writer writer' : FwWriter} {actions : List OtaAction}
    (h : ChunkOutcome crc chunkId payload answers session writer session' writer' actions) :
    ∀ action ∈ actions, action.owner = some session.addr := by
  have hfailure : ∀ next : Otaupdate, next.addr = session.addr →
      ∀ action ∈ failureActions next, action.owner = some session.addr :=
    fun next haddr action hmem => haddr ▸ owner_of_mem_failureActions hmem
  have hadvance : (otaupdateAdvance crc session payload).addr = session.addr := rfl
  intro action hmem
  cases h with
  | refused text hfeeds =>
    rcases List.mem_cons.mp hmem with rfl | hmem
    · rfl
    · exact hfailure _ rfl _ hmem
  | writeFailed text written writer₁ hfeeds hwrite hfail =>
    simp only [List.mem_cons] at hmem
    rcases hmem with rfl | rfl | hmem
    · rfl
    · rfl
    · exact hfailure _ rfl _ hmem
  | requested text timestamp written writer₁ next hfeeds hwrite hok hnext hmore =>
    simp only [List.mem_cons, List.not_mem_nil, or_false] at hmem
    rcases hmem with rfl | rfl <;> rfl
  | requestFailed text written writer₁ next hfeeds hwrite hok hnext hmore =>
    simp only [List.mem_cons] at hmem
    rcases hmem with rfl | rfl | rfl | hmem
    · rfl
    · rfl
    · rfl
    · exact hfailure _ (hnext ▸ hadvance) _ hmem
  | corrupted written writer₁ next hfeeds hwrite hok hnext hall hchecksum =>
    simp only [List.mem_cons] at hmem
    rcases hmem with rfl | rfl | rfl | hmem
    · rfl
    · rfl
    · rfl
    · exact hfailure _ (hnext ▸ hadvance) _ hmem
  | updated written ended writer₁ writer₂ next hfeeds hwrite hok hnext hall hchecksum hbusy hend
      hended =>
    subst hnext
    simp only [verifiedActions, successActions, List.mem_append, List.mem_cons,
      List.not_mem_nil, or_false] at hmem
    rcases hmem with (rfl | rfl | rfl | rfl) | rfl | rfl | rfl <;> rfl
  | endFailed text written ended writer₁ writer₂ next hfeeds hwrite hok hnext hall hchecksum
      hbusy hend hended =>
    simp only [verifiedActions, List.mem_append, List.mem_cons, List.not_mem_nil,
      or_false] at hmem
    rcases hmem with (rfl | rfl | rfl | rfl) | rfl | rfl | hmem
    any_goals rfl
    exact hfailure _ (hnext ▸ hadvance) _ hmem
  | unguarded written writer₁ next hfeeds hwrite hok hnext hall hchecksum hidle =>
    subst hnext
    simp only [verifiedActions, successActions, List.mem_append, List.mem_cons,
      List.not_mem_nil, or_false] at hmem
    rcases hmem with (rfl | rfl | rfl | rfl) | rfl | rfl <;> rfl

/-- What a negotiation does is done for the session it is for, or for none. -/
theorem NegotiationOutcome.owner {algorithm : Option String} {answers : OtaAnswers}
    {session session' : Otaupdate} {actions : List OtaAction}
    (h : NegotiationOutcome algorithm answers session session' actions) :
    ∀ action ∈ actions, action.owner = some session.addr ∨ action.owner = none := by
  cases h <;> simp [OtaAction.owner, goingTelemetry, earlyFailedTelemetry]

/-! ## The invariant -/

/-- What the request id of a session says it waits for. -/
def Otaupdate.progress (session : Otaupdate) : ChunkProgress :=
  if session.state.requestId = 0 then .idle else .waiting session.state.requestId

/-- Every session waits for what its request id says, and addresses are used once. -/
structure Tracked (world : OtaWorld) : Prop where
  nodup : (world.otaupdateList.map Otaupdate.addr).Nodup
  allocated : ∀ session ∈ world.otaupdateList, session.addr < world.nextAddr
  unused : ∀ owner, world.nextAddr ≤ owner → progress owner world.dev.trace = .idle
  tracked : ∀ session ∈ world.otaupdateList,
    progress session.addr world.dev.trace = session.progress

/-- An address is used once, so all items beside the one that is replaced keep theirs. -/
theorem mem_of_mem_replaced {front back : List Otaupdate} {session session' item : Otaupdate}
    (hnodup : ((front ++ session :: back).map Otaupdate.addr).Nodup)
    (hitem : item ∈ front ++ session' :: back) :
    item = session' ∨ (item ∈ front ++ session :: back ∧ item.addr ≠ session.addr) := by
  rw [List.map_append, List.map_cons] at hnodup
  obtain ⟨-, hback, hdisjoint⟩ := List.nodup_append.mp hnodup
  obtain ⟨hnotback, -⟩ := List.nodup_cons.mp hback
  rcases List.mem_append.mp hitem with hfront | hitem
  · exact .inr ⟨List.mem_append_left _ hfront,
      hdisjoint _ (List.mem_map_of_mem hfront) _ List.mem_cons_self⟩
  rcases List.mem_cons.mp hitem with rfl | hrest
  · exact .inl rfl
  · refine .inr ⟨List.mem_append_right _ (List.mem_cons_of_mem _ hrest), ?_⟩
    intro heq
    exact hnotback (heq ▸ List.mem_map_of_mem hrest)

theorem Tracked.replace {world world' : OtaWorld} {front back : List Otaupdate}
    {session session' : Otaupdate} {actions : List OtaAction} (h : Tracked world)
    (hlist : world.otaupdateList = front ++ session :: back)
    (hlist' : world'.otaupdateList = front ++ session' :: back) (hsame : SameItem session session')
    (hnext : world'.nextAddr = world.nextAddr)
    (htrace : world'.dev.trace = world.dev.trace ++ actions)
    (howner : ∀ action ∈ actions, action.owner = some session.addr ∨ action.owner = none)
    (hread : actions.foldl (readProgress session.addr) session.progress = session'.progress) :
    Tracked world' := by
  -- nobody else reads anything from what this session did
  have hother : ∀ owner, owner ≠ session.addr →
      progress owner world'.dev.trace = progress owner world.dev.trace := by
    intro owner hne
    rw [htrace, progress_append]
    refine foldl_readProgress_of_other ?_ _
    intro action hmem heq
    rcases howner action hmem with hsome | hnone
    · exact hne (Option.some.inj (heq.symm.trans hsome))
    · exact absurd (heq.symm.trans hnone) (by simp)
  have hmem : session ∈ world.otaupdateList := hlist ▸ List.mem_append_right _ List.mem_cons_self
  have hown : progress session.addr world'.dev.trace = session'.progress := by
    rw [htrace, progress_append, h.tracked session hmem, hread]
  have hsplit : ∀ item ∈ world'.otaupdateList,
      item = session' ∨ (item ∈ world.otaupdateList ∧ item.addr ≠ session.addr) := by
    have hnodup := h.nodup
    rw [hlist] at hnodup
    rw [hlist, hlist']
    exact fun item => mem_of_mem_replaced hnodup
  refine ⟨?_, ?_, ?_, ?_⟩
  · have hnodup := h.nodup
    rw [hlist, List.map_append, List.map_cons] at hnodup
    rw [hlist', List.map_append, List.map_cons, hsame.addr]
    exact hnodup
  · intro item hitem
    rw [hnext]
    rcases hsplit item hitem with rfl | ⟨hitem, -⟩
    · exact hsame.addr ▸ h.allocated session hmem
    · exact h.allocated item hitem
  · intro owner howned
    rw [hnext] at howned
    have hlt := h.allocated session hmem
    rw [hother owner (by omega)]
    exact h.unused owner howned
  · intro item hitem
    rcases hsplit item hitem with rfl | ⟨hitem, hne⟩
    · rw [hsame.addr]
      exact hown
    · rw [hother _ hne]
      exact h.tracked item hitem

/-- A chunk keeps the session's progress and its request id together. -/
theorem ChunkOutcome.progress {crc : CrcRoutine} {chunkId : Nat} {payload : List UInt8}
    {answers : OtaAnswers} {session session' : Otaupdate} {writer writer' : FwWriter}
    {actions : List OtaAction}
    (h : ChunkOutcome crc chunkId payload answers session writer session' writer' actions) :
    actions.foldl (readProgress session.addr) session.progress = session'.progress := by
  rcases h.concluded_or_requested with ⟨rfl, before, success, rfl⟩ | ⟨hid, chunk, text, rfl⟩
  · exact foldl_readProgress_concluded session.addr before success session.progress
  · simp only [Otaupdate.progress, hid, List.foldl_cons, List.foldl_nil, readProgress,
      OtaAction.owner, if_true]
    by_cases hidle : session.state.requestId = 0 <;> simp [hidle]

theorem NegotiationOutcome.progress {algorithm : Option String} {answers : OtaAnswers}
    {session session' : Otaupdate} {actions : List OtaAction}
    (h : NegotiationOutcome algorithm answers session session' actions) :
    actions.foldl (readProgress session.addr) session.progress = session'.progress := by
  cases h with
  | unsupported text halg =>
    simp [readProgress, OtaAction.owner, earlyFailedTelemetry]
  | alreadyUpdated halg =>
    simp [readProgress, OtaAction.owner, Otaupdate.progress, otaupdateReset, OtaupdateState.idle]
  | rejected text result hresult halg =>
    simp [readProgress, OtaAction.owner, earlyFailedTelemetry, hresult, Otaupdate.progress,
      otaupdateReset, OtaupdateState.idle]
  | started text cached requestId timestamp halg hid =>
    have hne : requestId ≠ 0 := by omega
    simp [readProgress, OtaAction.owner, goingTelemetry, Otaupdate.progress, hne]
  | unsent text cached requestId halg =>
    simp [readProgress, OtaAction.owner, goingTelemetry, earlyFailedTelemetry,
      Otaupdate.progress, otaupdateReset, OtaupdateState.idle]

theorem TimeoutOutcome.progress {session session' : Otaupdate} {writer writer' : FwWriter}
    {actions : List OtaAction} (h : TimeoutOutcome session writer session' writer' actions) :
    (∀ action ∈ actions, action.owner = some session.addr) ∧
      actions.foldl (readProgress session.addr) session.progress = session'.progress := by
  cases h with
  | kept => exact ⟨by simp, rfl⟩
  | expired hactive =>
    constructor
    · intro action hmem
      rcases List.mem_cons.mp hmem with rfl | hmem
      · rfl
      · exact owner_of_mem_failureActions hmem
    · exact foldl_readProgress_concluded session.addr (_ :: _) false session.progress

theorem Tracked.checkTimeout {world : OtaWorld} (h : Tracked world) (timestamp : Nat) :
    Tracked (tbcmhOtaupdateOnChunkCheckTimeout timestamp world) := by
  refine checkTimeout_rule ?_ timestamp h
  intro world front back session session' dev' actions htracked hlist htrace houtcome
  obtain ⟨howner, hread⟩ := houtcome.progress
  exact htracked.replace hlist rfl houtcome.sameItem rfl htrace
    (fun action hmem => .inl (howner action hmem)) hread

theorem Tracked.subscribe {world : OtaWorld} (h : Tracked world) (otaDescription : String)
    (otaType : TbcmhOtaupdateType) (nextUpdatePartition : Option Nat) :
    Tracked (tbcmhOtaupdateSubscribe otaDescription otaType nextUpdatePartition world).2 := by
  cases otaType with
  | sw => exact h
  | fw =>
    cases nextUpdatePartition with
    | none => exact ⟨h.nodup, h.allocated, h.unused, h.tracked⟩
    | some size =>
      refine ⟨?_, ?_, ?_, ?_⟩
      · simp only [tbcmhOtaupdateSubscribe, otaupdateCreate, otaFwupdateInit, Option.isSome,
          if_true, List.map_append, List.map_cons, List.map_nil]
        refine List.nodup_append.mpr ⟨h.nodup, List.pairwise_singleton _ _, ?_⟩
        intro addr hmem new hnew
        obtain ⟨item, hitem, rfl⟩ := List.mem_map.mp hmem
        rw [List.mem_singleton.mp hnew]
        exact Nat.ne_of_lt (h.allocated item hitem)
      · intro item hitem
        rcases List.mem_append.mp hitem with hitem | hitem
        · exact Nat.lt_succ_of_lt (h.allocated item hitem)
        · rw [List.mem_singleton.mp hitem]
          exact Nat.lt_succ_self _
      · intro owner howner
        exact h.unused owner (Nat.le_of_succ_le howner)
      · intro item hitem
        rcases List.mem_append.mp hitem with hitem | hitem
        · exact h.tracked item hitem
        · rw [List.mem_singleton.mp hitem]
          exact h.unused world.nextAddr (Nat.le_refl _)

theorem Tracked.unsubscribe {world : OtaWorld} (h : Tracked world) (otaDescription : String) :
    Tracked (tbcmhOtaupdateUnsubscribe otaDescription world).2 := by
  obtain ⟨otaupdateList, hsublist, hworld⟩ :=
    tbcmhOtaupdateUnsubscribe_sublist otaDescription world
  rw [hworld]
  exact ⟨h.nodup.sublist (hsublist.map _),
    fun item hitem => h.allocated item (hsublist.subset hitem), h.unused,
    fun item hitem => h.tracked item (hsublist.subset hitem)⟩

theorem Tracked.sharedAttributes {world world' : OtaWorld} (h : Tracked world)
    {object : Option Cjson} {answers : OtaAnswers}
    (hok : otaupdateOnFwAttributesupdate object answers world = .ok world') :
    Tracked world' := by
  rcases otaupdateOnFwAttributesupdate_cases hok with ⟨-, rfl⟩ | ⟨-, -, rfl⟩ |
    ⟨front, session, back, session', actions, -, -, hlist, hlist', hnext, -, htrace, -, houtcome⟩
  · exact h
  · have hkeep : ∀ owner, progress owner (otaupdatePublishEarlyFailedStatus .fw
        "Device code is error!" world.dev).trace = progress owner world.dev.trace := by
      intro owner
      rw [otaupdatePublishEarlyFailedStatus, OtaDevice.log_trace, progress_append]
      exact foldl_readProgress_of_other (by simp [OtaAction.owner]) _
    exact ⟨h.nodup, h.allocated, fun owner howner => (hkeep owner).trans (h.unused owner howner),
      fun item hitem => (hkeep item.addr).trans (h.tracked item hitem)⟩
  · exact h.replace hlist hlist' houtcome.sameItem hnext htrace houtcome.owner houtcome.progress

theorem Tracked.chunkData {world : OtaWorld} (h : Tracked world) (crc : CrcRoutine)
    (requestId chunkId : Nat) (payload : List UInt8) (answers : OtaAnswers) :
    Tracked (tbcmhOtaupdateOnChunkData crc requestId chunkId payload answers world) := by
  rcases tbcmhOtaupdateOnChunkData_cases crc requestId chunkId payload answers world with
    ⟨-, hsame⟩ | ⟨front, session, back, session', dev', actions, -, -, hlist, hworld, htrace,
      houtcome⟩
  · rw [hsame]
    exact h
  · rw [hworld]
    exact h.replace hlist rfl houtcome.sameItem rfl htrace
      (fun action hmem => .inl (houtcome.owner action hmem)) houtcome.progress

/-- Every step keeps the sessions tracked. -/
theorem tracked_step {crc : CrcRoutine} {world world' : OtaWorld} {input : OtaInput}
    (h : Tracked world) (hok : Succeeds (otaStep crc) world input world') : Tracked world' := by
  cases input with
  | subscribe otaDescription otaType nextUpdatePartition =>
    obtain rfl := Except.ok.inj hok
    exact h.subscribe otaDescription otaType nextUpdatePartition
  | unsubscribe otaDescription =>
    obtain rfl := Except.ok.inj hok
    exact h.unsubscribe otaDescription
  | event event =>
    cases event with
    | sharedAttributes object answers => exact h.sharedAttributes hok
    | chunkData requestId chunkId payload answers =>
      obtain rfl := Except.ok.inj hok
      exact h.chunkData crc requestId chunkId payload answers
    | checkTimeout timestamp =>
      obtain rfl := Except.ok.inj hok
      exact h.checkTimeout timestamp
    | disconnected =>
      obtain rfl := Except.ok.inj hok
      exact h.checkTimeout _
    | environment core =>
      obtain rfl := Except.ok.inj hok
      exact ⟨h.nodup, h.allocated, h.unused, h.tracked⟩

theorem ChunkOutcome.actions_ne_nil {crc : CrcRoutine} {chunkId : Nat} {payload : List UInt8}
    {answers : OtaAnswers} {session session' : Otaupdate} {writer writer' : FwWriter}
    {actions : List OtaAction}
    (h : ChunkOutcome crc chunkId payload answers session writer session' writer' actions) :
    actions ≠ [] := by
  rcases h.concluded_or_requested with ⟨-, before, success, rfl⟩ | ⟨-, chunk, text, rfl⟩
  · simp
  · simp

theorem tracked_initial (core : Core) (lastHandle : Nat) : Tracked (.initial core lastHandle) :=
  ⟨List.nodup_nil, fun _ h => absurd h List.not_mem_nil, fun _ _ => rfl,
    fun _ h => absurd h List.not_mem_nil⟩

/-- The id that is read finds no session, or it is the message's own and no idle session's. -/
def FindsItsOwn (own : Option UInt32) (requestId : UInt32) (world : OtaWorld) : Prop :=
  (∀ session ∈ world.otaupdateList, session.state.requestId ≠ requestId.toNat) ∨
    (own = some requestId ∧ requestId ≠ 0)

/-- A response acts for outstanding requests only, exactly when it finds none but its own. -/
theorem Tracked.outstanding_iff {world : OtaWorld} (htracked : Tracked world) (crc : CrcRoutine)
    (own : Option UInt32) (requestId : UInt32) (chunkId : Nat) (payload : List UInt8)
    (answers : OtaAnswers) :
    AnswersOutstanding own world
        (tbcmhOtaupdateOnChunkData crc requestId.toNat chunkId payload answers world) ↔
      FindsItsOwn own requestId world := by
  rcases tbcmhOtaupdateOnChunkData_cases crc requestId.toNat chunkId payload answers world with
    ⟨hnone, hsame⟩ | ⟨front, session, back, session', dev', actions, -, hid, hlist, hworld,
      htrace, houtcome⟩
  · -- no session has the id, so the message is dropped
    rw [hsame]
    refine ⟨fun _ => .inl ?_, fun _ => ⟨⟨[], by simp, by simp⟩, fun _ hmem _ => hmem, fun _ => rfl⟩⟩
    intro session hmem
    exact of_decide_eq_false (splitFirst_eq_none (Option.map_eq_none_iff.mp hnone) session hmem)
  · have hmem : session ∈ world.otaupdateList :=
      hlist ▸ List.mem_append_right _ List.mem_cons_self
    have hprogress := htracked.tracked session hmem
    have htrace' : (tbcmhOtaupdateOnChunkData crc requestId.toNat chunkId payload answers
        world).dev.trace = world.dev.trace ++ actions := by rw [hworld]; exact htrace
    constructor
    · -- something is done for the session found, so it waits for the message's own id
      rintro ⟨⟨owned, howned, howners⟩, -, -⟩
      obtain rfl : owned = actions := List.append_cancel_left (howned.symm.trans htrace')
      obtain ⟨action, haction⟩ := List.exists_mem_of_ne_nil _ houtcome.actions_ne_nil
      obtain ⟨other, -, howner, id, hown, hwaiting⟩ := howners action haction
      have haddr : other.addr = session.addr :=
        Option.some.inj (howner.symm.trans (houtcome.owner action haction))
      rw [haddr, hprogress, Otaupdate.progress, hid] at hwaiting
      split at hwaiting
      · exact absurd hwaiting (by simp)
      · rename_i hne
        obtain rfl : requestId = id := UInt32.toNat_inj.mp (ChunkProgress.waiting.inj hwaiting)
        exact .inr ⟨hown, fun hzero => hne (by simp [hzero])⟩
    · rintro (hnone | ⟨rfl, hne⟩)
      · exact absurd hid (hnone session hmem)
      · have hpositive : requestId.toNat ≠ 0 := fun hzero => hne (UInt32.toNat_inj.mp hzero)
        have hwaiting : progress session.addr world.dev.trace = .waiting requestId.toNat := by
          rw [hprogress, Otaupdate.progress, hid, if_neg hpositive]
        have houtstanding : Outstanding (some requestId) world session :=
          ⟨requestId, rfl, hwaiting⟩
        refine ⟨⟨actions, htrace', fun action haction =>
          ⟨session, hmem, houtcome.owner action haction, houtstanding⟩⟩, ?_,
          fun hsilent => absurd houtstanding (hsilent session hmem)⟩
        intro other hother hidle
        rw [hworld]
        rw [hlist] at hother
        rcases List.mem_append.mp hother with hfront | hother
        · exact List.mem_append_left _ hfront
        rcases List.mem_cons.mp hother with rfl | hback
        · exact absurd (hid.symm.trans hidle) hpositive
        · exact List.mem_append_right _ (List.mem_cons_of_mem _ hback)

/-- A message on a chunk response topic is one event, with the ids that are read. -/
theorem onFwResponse_eq {topic : RxTopic} (htopic : TbcmRxTopic.fwResponse.literal <+: topic.bytes)
    (crc : CrcRoutine) (following : Memory) (payload : List UInt8) (answers : OtaAnswers)
    (world : OtaWorld) : onFwResponse crc topic following payload answers world =
      (topicIds (topic.bytes ++ following) topic.bytes.length .fwResponse).map fun ids =>
        tbcmhOtaupdateOnChunkData crc ids.1.toNat ids.2.toNat payload answers world := by
  have hfirst : firstTopic (topic.bytes ++ following) rxTopics = .ok (some .fwResponse) :=
    (firstTopic_eq_some_iff (by decide)).mpr (htopic.trans (List.prefix_append _ _))
  rw [onFwResponse, RxTopic.handle]
  simp only [onMqttDataHandle, hfirst, Bind.bind, Except.bind]
  cases topicIds (topic.bytes ++ following) topic.bytes.length .fwResponse with
  | error fault => rfl
  | ok ids => rfl

/-- One item, and an update that was announced to it. -/
def announcedUpdate : List OtaInput :=
  [.subscribe "F/W" .fw (some 1000000),
    .event (.sharedAttributes (some (sampleAttributes 20000 "0")) sampleAnswers)]

/-- The topic of the first chunk. -/
def firstChunkTopic : RxTopic := ⟨"v2/fw/response/1/chunk/0".toList, by decide⟩

/-- A request id that is no number. -/
def malformedChunkTopic : RxTopic := ⟨"v2/fw/response/x/chunk/0".toList, by decide⟩

end ThingsboardMqtt
