import ThingsboardMqtt.Helper.Sweeps

set_option autoImplicit false

/-! # Nobody waits for long

`__on_tbcm_check_timeout` sweeps the tables of requests and the OTA items when the last sweep is 32
seconds old, and a sweep takes out what has waited for 30. So whoever waits behind a sweep was sent less
than 30 seconds before it (`Prompt`), and while the timer events are handled at intervals of `gap`
seconds at most, nobody waits for more than `60 + gap` (`waits_le_of_run`), which a request can come
to.

`Kept` is what everything but such a sweep does: it adds to those who wait at the time it runs, and it
leaves the time of the last sweep alone. -/

namespace ThingsboardMqtt

open Relation Execution ListWalk

variable {conduct : Conduct}

/-! ## What adds to those who wait -/

/-- An OTA item waits for a chunk. -/
def Otaupdate.waits (session : Otaupdate) : Prop := 0 < session.state.requestId

/-- No item waits but those that did, and those that send a request now. -/
def KeptSessions (now : Nat) (sessions sessions' : List Otaupdate) : Prop :=
  ∀ session ∈ sessions', session.waits → session ∈ sessions ∨ now ≤ session.state.timestamp

/-- The last sweep is the same, and whoever waits did so before or does since now. -/
structure Kept (client client' : Client) : Prop where
  lastCheck : client'.lastCheckTimestamp = client.lastCheckTimestamp
  now : client.core.now ≤ client'.core.now
  requests : ∀ table, ∀ request ∈ client'.requestList table,
    request ∈ client.requestList table ∨ client.core.now ≤ request.timestamp
  sessions : KeptSessions client.core.now client.ota.otaupdateList client'.ota.otaupdateList

namespace Kept

variable {client client' client'' : Client}

theorem of_eq (hlast : client'.lastCheckTimestamp = client.lastCheckTimestamp)
    (hnow : client'.core.now = client.core.now) (hlist : client'.requestList = client.requestList)
    (hsessions : client'.ota.otaupdateList = client.ota.otaupdateList) : Kept client client' where
  lastCheck := hlast
  now := Nat.le_of_eq hnow.symm
  requests _ _ hmem := .inl (hlist ▸ hmem)
  sessions _ hmem _ := .inl (hsessions ▸ hmem)

theorem refl (client : Client) : Kept client client := of_eq rfl rfl rfl rfl

theorem trans (h : Kept client client') (h' : Kept client' client'') : Kept client client'' where
  lastCheck := h'.lastCheck.trans h.lastCheck
  now := Nat.le_trans h.now h'.now
  requests table request hmem := by
    rcases h'.requests table request hmem with hmem | hnew
    · exact h.requests table request hmem
    · exact .inr (Nat.le_trans h.now hnew)
  sessions session hmem hwaits := by
    rcases h'.sessions session hmem hwaits with hmem | hnew
    · exact h.sessions session hmem hwaits
    · exact .inr (Nat.le_trans h.now hnew)

theorem send (client : Client) (packets : List Packet) : Kept client (client.send packets) :=
  of_eq rfl rfl rfl rfl

theorem log (client : Client) (action : HelperAction) : Kept client (client.log action) :=
  of_eq rfl rfl rfl rfl

theorem setRequests (client : Client) (table : RequestTable) {requests : List Request}
    (hfewer : requests ⊆ client.requestList table) : Kept client (client.setRequests table requests)
    where
  lastCheck := rfl
  now := Nat.le_refl _
  requests other request hmem := by
    rw [Client.setRequests_requestList] at hmem
    split at hmem
    · rename_i heq
      exact .inl (heq ▸ hfewer hmem)
    · exact .inl hmem
  sessions session hmem _ := .inl hmem

theorem unsubscribeEmptied (client : Client) (table : RequestTable) (isEmptyBefore : Bool) :
    Kept client (unsubscribeEmptied table isEmptyBefore client) := by
  rw [unsubscribeEmptied_eq]
  exact send _ _

theorem request {call : RequestCall} {hasOnTimeout : Bool} {answers : RequestAnswers}
    (outcome : RequestOutcome call hasOnTimeout answers client client') : Kept client client' := by
  cases outcome with
  | refused | unpublished | uncreated => exact of_eq rfl rfl rfl rfl
  | accepted hconnected hok nextRequestId request huid htimestamp hcallback =>
    refine ⟨rfl, Nat.le_refl _, ?_, fun session hmem _ => .inl hmem⟩
    intro other sent hmem
    rw [Client.log_requestList, Client.setRequests_requestList] at hmem
    split at hmem
    · rename_i heq
      rcases List.mem_append.mp hmem with hold | hnew
      · exact .inl (heq ▸ hold)
      · rw [List.mem_singleton.mp hnew, htimestamp]
        exact .inr (Nat.le_refl _)
    · exact .inl hmem

theorem bridgeSend (event : TbcmEvent) (client : Client) :
    Kept client (bridgeSend event client) := by
  unfold ThingsboardMqtt.bridgeSend
  split
  · exact of_eq rfl rfl rfl rfl
  · exact refl client

theorem attributesSubscribe (reader : Reader) (keys : List String) (client : Client) :
    Kept client (tbcmhAttributesSubscribe reader keys client).2 := by
  simp only [tbcmhAttributesSubscribe, subscribeFilled_eq]
  exact of_eq rfl rfl rfl rfl

theorem otaupdateSubscribe (otaDescription : String) (otaType : TbcmhOtaupdateType)
    (nextUpdatePartition : Option Nat) (client : Client) :
    Kept client { client with
      ota := (tbcmhOtaupdateSubscribe otaDescription otaType nextUpdatePartition client.ota).2 } := by
  cases otaType with
  | sw => exact refl client
  | fw =>
    cases nextUpdatePartition with
    | none => exact of_eq rfl rfl rfl rfl
    | some size =>
      refine ⟨rfl, Nat.le_refl _, fun table request hmem => .inl hmem, ?_⟩
      intro session hmem hwaits
      rcases List.mem_append.mp hmem with hold | hnew
      · exact .inl hold
      · rw [List.mem_singleton.mp hnew] at hwaits
        exact absurd hwaits (Nat.lt_irrefl 0)

theorem act (act : Act) (client : Client) : Kept client (act.run client) := by
  cases act with
  | connack =>
    simp only [Act.run, onMqttConnected]
    split
    · have hconnected : Kept client (client.setCore { client.core with
          state := .connected
          sent := client.core.sent ++ [.connack] }) := of_eq rfl rfl rfl rfl
      exact hconnected.trans (bridgeSend _ _)
    · exact refl client
  | connectionLost =>
    simp only [Act.run, onMqttDisconnected]
    split
    · have hlost : Kept client (client.setCore { client.core with
          state := .disconnected }) := of_eq rfl rfl rfl rfl
      exact hlost.trans (bridgeSend _ _)
    · exact refl client
  | receive data => exact bridgeSend _ _
  | responseTimer => exact bridgeSend _ _
  | tick seconds =>
    exact ⟨rfl, Nat.le_add_right _ _, fun _ _ hmem => .inl hmem, fun _ hmem _ => .inl hmem⟩
  | request call hasOnTimeout answers => exact request (tbcmhRequest_outcome _ _ _ _ _)
  | attributesSubscribe keys => exact attributesSubscribe _ _ _
  | attributesUnsubscribe _ | serverrpcSubscribe _ | serverrpcUnsubscribe _ =>
    simp only [Act.run, tbcmhAttributesUnsubscribe, tbcmhServerrpcSubscribe,
      tbcmhServerrpcUnsubscribe, subscribeFilled_eq, unsubscribeDrained_eq]
    exact of_eq rfl rfl rfl rfl
  | otaupdateSubscribe otaDescription otaType nextUpdatePartition =>
    exact otaupdateSubscribe _ _ _ _
  | otaupdateUnsubscribe otaDescription =>
    obtain ⟨otaupdateList, hsublist, hworld⟩ :=
      tbcmhOtaupdateUnsubscribe_sublist otaDescription client.ota
    refine ⟨rfl, ?_, fun _ _ hmem => .inl hmem, ?_⟩
    · simp only [Act.run, hworld]
      exact Nat.le_refl _
    · intro session hmem _
      simp only [Act.run, hworld] at hmem
      exact .inl (hsublist.subset hmem)

theorem acts {site : Option Site} (acts : ReflTransGen (ActStep conduct site) client client') :
    Kept client client' := by
  induction acts with
  | refl => exact refl client
  | tail _ hact ih =>
    obtain ⟨act, -, rfl⟩ := hact
    exact ih.trans (Kept.act act _)

end Kept

/-! ## OTA items -/

theorem KeptSessions.refl (now : Nat) (sessions : List Otaupdate) :
    KeptSessions now sessions sessions := fun _ hmem _ => .inl hmem

theorem KeptSessions.replace {now : Nat} {sessions front back : List Otaupdate}
    {session session' : Otaupdate} (hlist : sessions = front ++ session :: back)
    (hnew : session'.waits → session' = session ∨ now ≤ session'.state.timestamp) :
    KeptSessions now sessions (front ++ session' :: back) := by
  subst hlist
  intro item hmem hwaits
  rcases List.mem_append.mp hmem with hfront | hmem
  · exact .inl (List.mem_append_left _ hfront)
  rcases List.mem_cons.mp hmem with rfl | hback
  · rcases hnew hwaits with rfl | htime
    · exact .inl (List.mem_append_right _ List.mem_cons_self)
    · exact .inr htime
  · exact .inl (List.mem_append_right _ (List.mem_cons_of_mem _ hback))

theorem not_waits_conclude (session : Otaupdate) (dev : OtaDevice) :
    ¬ (otaupdateConcludeFailure session dev).1.waits := Nat.lt_irrefl 0

theorem not_waits_complete (session : Otaupdate) (answers : OtaAnswers) (dev : OtaDevice) :
    ¬ (otaupdateComplete session answers dev).1.waits := by
  simp only [otaupdateComplete]
  split
  · split
    · exact Nat.lt_irrefl 0
    · exact not_waits_conclude _ _
  · exact not_waits_conclude _ _

/-- A timeout leaves an item as it is or ends its download. -/
theorem TimeoutOutcome.waits {session session' : Otaupdate} {writer writer' : FwWriter}
    {actions : List OtaAction} (h : TimeoutOutcome session writer session' writer' actions)
    (hwaits : session'.waits) : session' = session := by
  cases h with
  | kept => rfl
  | expired => exact absurd hwaits (Nat.lt_irrefl 0)

theorem otaupdateChunkRequest_timestamp (session : Otaupdate) (isFirstChunk : Bool)
    (answers : OtaAnswers) (dev : OtaDevice) :
    (otaupdateChunkRequest session isFirstChunk answers dev).2.1.state.timestamp = dev.core.now := by
  cases isFirstChunk <;> rfl

/-- Behind a chunk, an item that waits for the next one has just asked for it. -/
theorem otaupdateOnChunk_timestamp (crc : CrcRoutine) (chunkId : Nat) (payload : List UInt8)
    (answers : OtaAnswers) (session : Otaupdate) (dev : OtaDevice)
    (hwaits : (otaupdateOnChunk crc chunkId payload answers session dev).1.waits) :
    (otaupdateOnChunk crc chunkId payload answers session dev).1.state.timestamp
      = dev.core.now := by
  unfold otaupdateOnChunk at hwaits ⊢
  cases hwrite : otaupdateDoWrite crc session chunkId payload answers dev with
  | mk written rest =>
  obtain ⟨session₁, dev₁⟩ := rest
  have hcore : dev₁.core = dev.core := by
    rw [← congrArg (·.2.2.core) hwrite]
    exact otaupdateDoWrite_core _ _ _ _ _ _
  simp only [hwrite] at hwaits ⊢
  split at hwaits
  · rename_i hzero
    rw [if_pos hzero]
    split at hwaits
    · exact absurd hwaits (not_waits_complete _ _ _)
    · rename_i hmore
      rw [if_neg hmore]
      have htimestamp := otaupdateChunkRequest_timestamp session₁ false answers dev₁
      cases hrequest : otaupdateChunkRequest session₁ false answers dev₁ with
      | mk sent rest =>
        obtain ⟨session₂, dev₂⟩ := rest
        rw [hrequest] at htimestamp
        simp only [hrequest] at hwaits ⊢
        cases sent with
        | true => exact htimestamp.trans (congrArg Core.now hcore)
        | false => exact absurd hwaits (not_waits_conclude _ _)
  · split at hwaits
    · exact absurd hwaits (not_waits_conclude _ _)
    · exact absurd hwaits (not_waits_conclude _ _)

/-- Behind a negotiation, an item that waits did so before, or has just asked for its first chunk. -/
theorem otaupdateOnNegotiation_timestamp {otaTitle : String}
    {otaVersion otaChecksum otaChecksumAlgorithm : Option String} {otaSize : Nat}
    {answers : OtaAnswers} {session session' : Otaupdate} {dev dev' : OtaDevice}
    (h : otaupdateOnNegotiation otaTitle otaVersion otaSize otaChecksum otaChecksumAlgorithm
      answers session dev = .ok (session', dev')) (hwaits : session'.waits) :
    session' = session ∨ dev.core.now ≤ session'.state.timestamp := by
  obtain ⟨negotiation, next, -, -, hsteps⟩ := otaupdateOnNegotiation_steps h
  cases hsteps with
  | unsupported halg hresult => exact .inl rfl
  | alreadyUpdated halg hresult => exact absurd hwaits (Nat.lt_irrefl 0)
  | rejected halg hresult => exact absurd hwaits (Nat.lt_irrefl 0)
  | started cached core halg hresult hnext hcore hrequest =>
    have htimestamp := congrArg (·.2.1.state.timestamp) hrequest
    dsimp only at htimestamp
    rw [otaupdateChunkRequest_timestamp] at htimestamp
    have hnow : core.now = dev.core.now := by rcases hcore with rfl | rfl <;> rfl
    exact .inr (Nat.le_of_eq (hnow.symm.trans htimestamp))
  | unsent cached core requested dev₁ halg hresult hnext hcore hrequest hconclude =>
    have hidle := not_waits_conclude requested (otaupdatePublishEarlyFailedStatus
      session.config.otaType "Request OTA chunk failure!" dev₁)
    rw [hconclude] at hidle
    exact absurd hwaits hidle

namespace KeptSessions

theorem onAttributesupdate {otaType : TbcmhOtaupdateType} {object : Option Cjson}
    {answers : OtaAnswers} {world world' : OtaWorld}
    (h : otaupdateOnAttributesupdate otaType object answers world = .ok world') :
    KeptSessions world.dev.core.now world.otaupdateList world'.otaupdateList := by
  rcases otaupdateOnAttributesupdate_negotiates h with (rfl | rfl) |
    ⟨front, session, back, session', dev', _, _, _, _, _, hlist, hneg, rfl⟩
  · exact .refl _ _
  · exact .refl _ _
  · exact .replace hlist (otaupdateOnNegotiation_timestamp hneg)

theorem onChunkData (crc : CrcRoutine) (requestId chunkId : Nat) (payload : List UInt8)
    (answers : OtaAnswers) (world : OtaWorld) :
    KeptSessions world.dev.core.now world.otaupdateList
      (tbcmhOtaupdateOnChunkData crc requestId chunkId payload answers world).otaupdateList := by
  unfold tbcmhOtaupdateOnChunkData
  cases hsplit : splitFirst (fun session => session.state.requestId = requestId)
      world.otaupdateList with
  | none => exact .refl _ _
  | some parts =>
    obtain ⟨front, session, back⟩ := parts
    refine .replace (splitFirst_eq_some hsplit).1 fun hwaits => .inr ?_
    exact Nat.le_of_eq (otaupdateOnChunk_timestamp _ _ _ _ _ _ hwaits).symm

theorem onChunkCheckTimeout (now timestamp : Nat) (world : OtaWorld) :
    KeptSessions now world.otaupdateList
      (tbcmhOtaupdateOnChunkCheckTimeout timestamp world).otaupdateList := by
  refine checkTimeout_rule (P := fun world' =>
    KeptSessions now world.otaupdateList world'.otaupdateList) ?_ timestamp (.refl _ _)
  intro world' front back session session' dev' actions hkept hlist htrace houtcome item hmem hwaits
  have hstep : KeptSessions now world'.otaupdateList (front ++ session' :: back) :=
    .replace hlist fun hwaits' => .inl (houtcome.waits hwaits')
  rcases hstep item hmem hwaits with hold | hnew
  · exact hkept item hold hwaits
  · exact .inr hnew

end KeptSessions

/-- Behind a sweep no item waits that has waited for 30 seconds. -/
theorem lt_of_waits_onChunkCheckTimeout {timestamp : Nat} {world : OtaWorld}
    (hclock : ∀ session ∈ world.otaupdateList, session.waits → 0 < session.state.timestamp) :
    ∀ session ∈ (tbcmhOtaupdateOnChunkCheckTimeout timestamp world).otaupdateList,
      session.waits → timestamp < session.state.timestamp + tbMqttTimeout := by
  let inv (done rest : List Otaupdate) (_ : OtaDevice) : Prop :=
    (∀ session ∈ done, session.waits → timestamp < session.state.timestamp + tbMqttTimeout) ∧
      ∀ session ∈ rest, session.waits → 0 < session.state.timestamp
  have hvisit : ∀ done session rest dev, inv done (session :: rest) dev →
      inv (done ++ [(otaupdateCheckTimeout timestamp session dev).1]) rest
        (otaupdateCheckTimeout timestamp session dev).2 := by
    rintro done session rest dev ⟨hdone, hrest⟩
    refine ⟨?_, fun item hmem => hrest item (List.mem_cons_of_mem _ hmem)⟩
    intro item hmem hwaits
    rcases List.mem_append.mp hmem with hmem | hmem
    · exact hdone item hmem hwaits
    · obtain rfl := List.mem_singleton.mp hmem
      unfold otaupdateCheckTimeout at hwaits ⊢
      split at hwaits
      · exact absurd hwaits (not_waits_conclude _ _)
      · rename_i hyoung
        rw [if_neg hyoung]
        have hpos := hrest session List.mem_cons_self hwaits
        have hid : 0 < session.state.requestId := hwaits
        simp only [Otaupdate.timedOut, hpos, hid, decide_true, Bool.true_and,
          decide_eq_true_eq] at hyoung
        exact Nat.lt_of_not_le hyoung
  have hend := foreachSafe_rule hvisit world.otaupdateList [] world.dev ⟨by simp, hclock⟩
  exact hend.1

/-! ## Events -/

namespace Kept

variable {client client' : Client}

theorem ota {ota : OtaWorld} (hquiet : Quiet client.ota.dev.core ota.dev.core)
    (hsessions : KeptSessions client.core.now client.ota.otaupdateList ota.otaupdateList) :
    Kept client { client with ota := ota } where
  lastCheck := rfl
  now := Nat.le_of_eq hquiet.now.symm
  requests _ _ hmem := .inl hmem
  sessions := hsessions

theorem chunkCheckTimeout (client : Client) (timestamp : Nat) :
    Kept client { client with ota := tbcmhOtaupdateOnChunkCheckTimeout timestamp client.ota } :=
  .ota (tbcmhOtaupdateOnChunkCheckTimeout_quiet _ _) (.onChunkCheckTimeout _ _ _)

theorem attributesupdate {otaType : TbcmhOtaupdateType} {object : Option Cjson}
    {answers : OtaAnswers} {ota : OtaWorld}
    (h : otaupdateOnAttributesupdate otaType object answers client.ota = .ok ota) :
    Kept client { client with ota := ota } :=
  .ota (otaupdateOnAttributesupdate_otaQuiet h).core (.onAttributesupdate h)

theorem dealTimeout (callbacks : Callbacks conduct) (sweep : Sweep) (table : RequestTable)
    (timeoutList : List Request) : ∀ (clientIsValid : Bool) (client : Client), Kept client
      (dealTimeout table (callbacks.onTimeout sweep table) clientIsValid timeoutList client) := by
  induction timeoutList with
  | nil => exact fun _ client => refl client
  | cons request rest ih =>
    intro clientIsValid client
    simp only [ThingsboardMqtt.dealTimeout]
    split
    · have hcalled := (log client (.onTimeout table request.uid)).trans
        (acts ((callbacks ⟨sweep, table⟩ request).acts _))
      exact hcalled.trans (ih _ _)
    · exact ih clientIsValid client

theorem moveTimedOut (client : Client) (table : RequestTable) (timestamp : Nat) :
    Kept client (moveTimedOut table timestamp client).2 :=
  (setRequests client table List.filter_sublist.subset).trans (unsubscribeEmptied _ _ _)

theorem onCheckTimeout (callbacks : Callbacks conduct) (sweep : Sweep) (table : RequestTable)
    (timestamp : Nat) (client : Client) : Kept client
      (tbcmhRequestOnCheckTimeout table (callbacks.onTimeout sweep table) timestamp client) :=
  (moveTimedOut client table timestamp).trans (dealTimeout callbacks sweep table _ true _)

theorem onDisconnected (callbacks : Callbacks conduct) (table : RequestTable) (client : Client) :
    Kept client
      (tbcmhRequestOnDisconnected table (callbacks.onTimeout .disconnected table) client) :=
  (onCheckTimeout callbacks .disconnected table _ client).trans
    (setRequests _ table (List.nil_subset _))

theorem onTbcmDisonnected (callbacks : Callbacks conduct) (client : Client) :
    Kept client (onTbcmDisonnected callbacks client) :=
  (((onDisconnected callbacks .attributesrequest client).trans
    (onDisconnected callbacks .clientrpc _)).trans
    (onDisconnected callbacks .provision _)).trans (chunkCheckTimeout _ _)

theorem onTbcmDataHandle {data : TbcmPublishData} {answers : EventAnswers}
    (h : onTbcmDataHandle data answers client = .ok client') : Kept client client' := by
  cases data with
  | response table requestId object =>
    rcases tbcmhRequestOnData_outcome h with rfl | ⟨object, front, request, back, hlist, -, hresponse⟩
    · exact refl _
    have htaken : Kept client
        (ThingsboardMqtt.unsubscribeEmptied table false
          (client.setRequests table (front ++ back))) := by
      refine (setRequests client table ?_).trans (unsubscribeEmptied _ _ _)
      rw [hlist]
      exact (List.Sublist.append_left (List.sublist_cons_self _ _) front).subset
    refine htaken.trans ?_
    rcases doResponse_outcome hresponse with ⟨ota, rfl | ⟨otaType, hupdate⟩, rfl⟩ | ⟨-, rfl⟩
    · exact log _ _
    · exact (log _ _).trans (attributesupdate hupdate)
    · exact log _ _
  | sharedAttributes object =>
    refine sharedAttributes_rule (P := Kept client) ?_ h (refl client)
    intro client ota otaType object answers h hupdate
    exact h.trans (attributesupdate hupdate)
  | serverrpcRequest requestId object =>
    rcases tbcmhServerrpcOnData_outcome h with rfl | ⟨method, rfl⟩
    · exact refl _
    · exact log _ _
  | fwResponse requestId chunkId payload =>
    obtain rfl := Except.ok.inj h
    exact ota (tbcmhOtaupdateOnChunkData_quiet _ _ _ _ _ _) (.onChunkData _ _ _ _ _ _)

theorem otaupdateItemOnConnected (otaType : TbcmhOtaupdateType) (answers : EventAnswers)
    (client : Client) : Kept client (otaupdateItemOnConnected otaType answers client) := by
  unfold ThingsboardMqtt.otaupdateItemOnConnected
  split
  · exact refl client
  · rename_i otaupdate hitem
    have hpublished : Kept client (publishEarlyCurrentVersion otaupdate answers.ota client) :=
      of_eq rfl rfl rfl rfl
    exact (hpublished.trans (attributesSubscribe _ _ _)).trans
      (request (tbcmhRequest_outcome _ _ _ _ _))

theorem onTbcmConnected (answers : EventAnswers) (client : Client) :
    Kept client (onTbcmConnected answers client) := by
  have hlogged := log client (.connected ((client.firstItem .fw).map (·.addr)))
  simp only [ThingsboardMqtt.onTbcmConnected, tbcmhOtaupdateOnConnected, tbcmhServerrpcOnConnected,
    tbcmhAttributessubscribeOnConnected, resubscribe_eq]
  exact (((hlogged.trans (send _ _)).trans (send _ _)).trans
    (otaupdateItemOnConnected .fw answers _)).trans (otaupdateItemOnConnected .sw answers _)

theorem tbcmhOnDestroy (client : Client) : Kept client (tbcmhOnDestroy client) where
  lastCheck := rfl
  now := Nat.le_refl _
  requests _ _ hmem := absurd hmem List.not_mem_nil
  sessions _ hmem _ := absurd hmem List.not_mem_nil

end Kept

/-! ## Sweeps -/

/-- Whoever waits was sent less than 30 seconds before the last sweep, or since. -/
structure Prompt (client : Client) : Prop where
  clock : 0 < client.core.now ∧ client.lastCheckTimestamp ≤ client.core.now
  requests : ∀ table, ∀ request ∈ client.requestList table,
    client.lastCheckTimestamp < request.timestamp + tbMqttTimeout
  sessions : ∀ session ∈ client.ota.otaupdateList, session.waits →
    0 < session.state.timestamp ∧ client.lastCheckTimestamp < session.state.timestamp + tbMqttTimeout

/-- What is not a sweep leaves nobody waiting for longer. -/
theorem Prompt.kept {client client' : Client} (h : Prompt client) (hkept : Kept client client') :
    Prompt client' := by
  have hlast := hkept.lastCheck
  have hnow := hkept.now
  obtain ⟨⟨hpos, hclock⟩, hrequests, hsessions⟩ := h
  refine ⟨⟨by omega, by omega⟩, ?_, ?_⟩
  · intro table request hmem
    rw [hlast]
    rcases hkept.requests table request hmem with hold | hnew
    · exact hrequests table request hold
    · simp only [tbMqttTimeout]
      omega
  · intro session hmem hwaits
    rw [hlast]
    rcases hkept.sessions session hmem hwaits with hold | hnew
    · exact hsessions session hold hwaits
    · simp only [tbMqttTimeout]
      omega

/-- No request of a table has waited for 30 seconds at a time. -/
def YoungAt (timestamp : Nat) (table : RequestTable) (client : Client) : Prop :=
  ∀ request ∈ client.requestList table, timestamp < request.timestamp + tbMqttTimeout

theorem YoungAt.kept {timestamp : Nat} {table : RequestTable} {client client' : Client}
    (h : YoungAt timestamp table client) (htime : timestamp ≤ client.core.now)
    (hkept : Kept client client') : YoungAt timestamp table client' := by
  intro request hmem
  rcases hkept.requests table request hmem with hold | hnew
  · exact h request hold
  · simp only [tbMqttTimeout]
    omega

theorem youngAt_onCheckTimeout (callbacks : Callbacks conduct) (sweep : Sweep)
    (table : RequestTable) {timestamp : Nat} {client : Client}
    (htime : timestamp ≤ client.core.now) : YoungAt timestamp table
      (tbcmhRequestOnCheckTimeout table (callbacks.onTimeout sweep table) timestamp client) := by
  have hmoved : YoungAt timestamp table (moveTimedOut table timestamp client).2 := by
    intro request hmem
    rw [moveTimedOut_requestList, if_pos rfl] at hmem
    have hyoung := (List.mem_filter.mp hmem).2
    simp only [Request.timedOut, Bool.not_eq_true', decide_eq_false_iff_not] at hyoung
    exact Nat.lt_of_not_le hyoung
  refine hmoved.kept ?_ (Kept.dealTimeout callbacks sweep table _ true _)
  rw [moveTimedOut_now]
  exact htime

/-- A check sweeps, unless the last sweep is recent. -/
theorem prompt_onTbcmCheckTimeout (callbacks : Callbacks conduct) {client : Client}
    (h : Prompt client) : Prompt (onTbcmCheckTimeout callbacks client) ∧
      client.core.now ≤ (onTbcmCheckTimeout callbacks client).lastCheckTimestamp
        + tbMqttTimeout + 1 := by
  rw [onTbcmCheckTimeout]
  split
  · rename_i hrecent
    refine ⟨h, ?_⟩
    simp only [tbMqttTimeout] at hrecent ⊢
    omega
  · let checked := { client with lastCheckTimestamp := client.core.now }
    let swept (table : RequestTable) (client' : Client) : Client := tbcmhRequestOnCheckTimeout table
      (callbacks.onTimeout .checkTimeout table) client.core.now client'
    let first := swept .attributesrequest checked
    let second := swept .clientrpc first
    let third := swept .provision second
    have hfirst : Kept checked first := .onCheckTimeout callbacks _ _ _ _
    have hsecond : Kept first second := .onCheckTimeout callbacks _ _ _ _
    have hthird : Kept second third := .onCheckTimeout callbacks _ _ _ _
    have hlast : Kept third _ := .chunkCheckTimeout third client.core.now
    have hall := ((hfirst.trans hsecond).trans hthird).trans hlast
    have htime₁ : client.core.now ≤ first.core.now := hfirst.now
    have htime₂ : client.core.now ≤ second.core.now := Nat.le_trans htime₁ hsecond.now
    have htime₃ : client.core.now ≤ third.core.now := Nat.le_trans htime₂ hthird.now
    -- each table is young behind its own sweep, and stays so
    have hyoung₁ : YoungAt client.core.now .attributesrequest first :=
      youngAt_onCheckTimeout callbacks .checkTimeout _ (Nat.le_refl checked.core.now)
    have hyoung₂ : YoungAt client.core.now .clientrpc second :=
      youngAt_onCheckTimeout callbacks .checkTimeout _ htime₁
    have hyoung₃ : YoungAt client.core.now .provision third :=
      youngAt_onCheckTimeout callbacks .checkTimeout _ htime₂
    refine ⟨⟨⟨Nat.lt_of_lt_of_le h.clock.1 hall.now, ?_⟩, ?_, ?_⟩, ?_⟩
    · exact Nat.le_trans (Nat.le_of_eq hall.lastCheck) hall.now
    · intro table
      have hyoung : YoungAt client.core.now table third := by
        cases table with
        | attributesrequest => exact (hyoung₁.kept htime₁ hsecond).kept htime₂ hthird
        | clientrpc => exact hyoung₂.kept htime₂ hthird
        | provision => exact hyoung₃
      intro request hmem
      exact hall.lastCheck ▸ hyoung request hmem
    · -- the items of before the check, and those that asked for a chunk in a callback
      have hclock : ∀ session ∈ third.ota.otaupdateList, session.waits →
          0 < session.state.timestamp := by
        intro session hmem hwaits
        rcases ((hfirst.trans hsecond).trans hthird).sessions session hmem hwaits with hold | hnew
        · exact (h.sessions session hold hwaits).1
        · exact Nat.lt_of_lt_of_le h.clock.1 hnew
      intro session hmem hwaits
      refine ⟨?_, ?_⟩
      · rcases hlast.sessions session hmem hwaits with hold | hnew
        · exact hclock session hold hwaits
        · exact Nat.lt_of_lt_of_le (Nat.lt_of_lt_of_le h.clock.1 htime₃) hnew
      · rw [hall.lastCheck]
        exact lt_of_waits_onChunkCheckTimeout hclock session hmem hwaits
    · rw [hall.lastCheck]
      simp only [checked]
      omega

/-! ## Runs -/

/-- A client, and when the last `CHECK_TIMEOUT` event was handled. -/
structure TimedClient where
  client : Client
  checkedAt : Nat

def TimedClient.initial (now lastHandle : Nat) : TimedClient where
  client := tbcmhInit now lastHandle
  checkedAt := now

/-- The time of the last check behind an input. -/
def TimedClient.nextCheck (timed : TimedClient) : ClientInput conduct → Nat
  | .tbcmhRun _ _ =>
    match timed.client.queue with
    | .checkTimeout :: _ => timed.client.core.now
    | _ => timed.checkedAt
  | _ => timed.checkedAt

def timedStep (timed : TimedClient) (input : ClientInput conduct) : Except Halt TimedClient := do
  let client ← clientStep timed.client input
  .ok ⟨client, timed.nextCheck input⟩

/-- Behind the input, the last check is `gap` seconds old at most. -/
def OnTime (gap : Nat) (timed : TimedClient) (input : ClientInput conduct) : Prop :=
  ∀ timed', timedStep timed input = .ok timed' → timed'.client.core.now ≤ timed'.checkedAt + gap

/-- A permitted input behind which the last check is recent. -/
def PermittedOnTime (gap : Nat) (timed : TimedClient) (input : ClientInput conduct) : Prop :=
  Permitted timed.client input ∧ OnTime gap timed input

/-- The checks keep up with those who wait. -/
structure Timely (timed : TimedClient) : Prop where
  prompt : Prompt timed.client
  checked : timed.checkedAt ≤ timed.client.lastCheckTimestamp + tbMqttTimeout + 1

theorem Timely.kept {timed : TimedClient} {client' : Client} (h : Timely timed)
    (hkept : Kept timed.client client') : Timely ⟨client', timed.checkedAt⟩ where
  prompt := h.prompt.kept hkept
  checked := hkept.lastCheck ▸ h.checked

theorem timely_step {timed timed' : TimedClient} {input : ClientInput conduct}
    (h : Timely timed) (hok : timedStep timed input = .ok timed') : Timely timed' := by
  simp only [timedStep, bind, Except.bind] at hok
  cases hclient : clientStep timed.client input with
  | error halt => simp [hclient] at hok
  | ok client' =>
    rw [hclient] at hok
    obtain rfl := Except.ok.inj hok
    cases clientStep_outcome hclient with
    | act act => exact h.kept (.act act _)
    | connect => exact h.kept (.of_eq rfl rfl rfl rfl)
    | tbcmhRun callbacks answers event queue _ hqueue hevent =>
      have hdequeued : Kept timed.client { timed.client with queue := queue } :=
        .of_eq rfl rfl rfl rfl
      simp only [TimedClient.nextCheck, hqueue]
      cases event with
      | connected =>
        obtain rfl := Except.ok.inj hevent
        exact h.kept (hdequeued.trans (.onTbcmConnected answers _))
      | disconnected =>
        obtain rfl := Except.ok.inj hevent
        exact h.kept (hdequeued.trans (.onTbcmDisonnected callbacks _))
      | data data => exact h.kept (hdequeued.trans (.onTbcmDataHandle hevent))
      | checkTimeout =>
        obtain rfl := Except.ok.inj hevent
        obtain ⟨hprompt, hchecked⟩ :=
          prompt_onTbcmCheckTimeout callbacks (h.prompt.kept hdequeued)
        exact ⟨hprompt, hchecked⟩
    | disconnectEarly => exact h
    | disconnect => exact h.kept (.of_eq rfl rfl rfl rfl)
    | destroyEarly => exact h.kept (.tbcmhOnDestroy _)
    | destroy => exact h.kept (.of_eq rfl rfl rfl rfl)
    | emptied => exact h.kept (.of_eq rfl rfl rfl rfl)
    | stop => exact h.kept (.of_eq rfl rfl rfl rfl)
    | disconnected callbacks =>
      have hcontrol : Kept (onTbcmDisonnected callbacks timed.client)
          { onTbcmDisonnected callbacks timed.client with control := .application } :=
        .of_eq rfl rfl rfl rfl
      exact h.kept ((Kept.onTbcmDisonnected callbacks _).trans hcontrol)
    | destroyed callbacks =>
      exact h.kept ((Kept.onTbcmDisonnected callbacks _).trans (.tbcmhOnDestroy _))

theorem timely_initial {now : Nat} (hnow : 0 < now) (lastHandle : Nat) :
    Timely (.initial now lastHandle) where
  prompt :=
    { clock := ⟨hnow, Nat.le_refl _⟩
      requests := fun _ _ hmem => absurd hmem List.not_mem_nil
      sessions := fun _ hmem _ => absurd hmem List.not_mem_nil }
  checked := Nat.le_trans (Nat.le_add_right _ _) (Nat.le_succ _)

/-- While a check is handled every `gap` seconds, no request waits for its response, and no OTA item for
    a chunk, for more than `60 + gap`: in every state of every run, whatever the callbacks do. -/
theorem waits_le_of_run {gap now lastHandle : Nat} (hnow : 0 < now)
    {inputs : List (ClientInput conduct)} {timed : TimedClient}
    (run : Run (within (PermittedOnTime gap) (Succeeds timedStep)) (.initial now lastHandle) inputs
      timed) :
    (∀ table, ∀ request ∈ timed.client.requestList table,
        timed.client.core.now ≤ request.timestamp + 60 + gap) ∧
      ∀ session ∈ timed.client.ota.otaupdateList, session.waits →
        timed.client.core.now ≤ session.state.timestamp + 60 + gap := by
  have htimely : Timely timed :=
    run.invariant (timely_initial hnow lastHandle) fun _ _ _ h taken => timely_step h taken.2
  have hontime : timed.client.core.now ≤ timed.checkedAt + gap := by
    cases run with
    | nil => exact Nat.le_add_right _ _
    | snoc _ taken => exact taken.1.2 _ taken.2
  have hchecked := htimely.checked
  simp only [tbMqttTimeout] at hchecked
  refine ⟨?_, ?_⟩
  · intro table request hmem
    have hyoung := htimely.prompt.requests table request hmem
    simp only [tbMqttTimeout] at hyoung
    omega
  · intro session hmem hwaits
    have hyoung := (htimely.prompt.sessions session hmem hwaits).2
    simp only [tbMqttTimeout] at hyoung
    omega

/-! ## The longest wait -/

instance (gap : Nat) (timed : TimedClient) (input : ClientInput conduct) :
    Decidable (OnTime gap timed input) :=
  match h : timedStep timed input with
  | .error _ => .isTrue fun timed' hok => absurd (h.symm.trans hok) (by simp)
  | .ok timed' =>
    decidable_of_iff (timed'.client.core.now ≤ timed'.checkedAt + gap)
      ⟨fun hle other hok => by obtain rfl := Except.ok.inj (h.symm.trans hok); exact hle,
        fun hall => hall timed' h⟩

/-- A check is handled every 32 seconds at least. A request is sent 29 seconds before a sweep, and the
    next check comes one second before a sweep is due. -/
def longestWait : List (ClientInput .any) :=
  let check := ClientInput.tbcmhRun (fun _ _ => .silent trivial) sampleEventAnswers
  [.connect, .act .connack, check, .act (.tick 3),
    .act (.request (.twowayClientrpc (some "reboot")) true ⟨true, true⟩), .act (.tick 29),
    .act .responseTimer, check, .act (.tick 31), .act .responseTimer, check, .act (.tick 32)]

theorem waits_le_longestWait :
    ∃ timed, Run (within (PermittedOnTime 32) (Succeeds timedStep)) (.initial 1 0) longestWait
        timed ∧
      (∀ request ∈ timed.client.requestList .clientrpc,
        timed.client.core.now ≤ request.timestamp + 60 + 32) ∧
      (timed.client.requestList .clientrpc).map (·.timestamp + 60 + 32)
        = [timed.client.core.now] := by
  have hallowed : allowed (OnTime 32) timedStep (.initial 1 0) longestWait = true := by decide
  have run := (run_of_allowed hallowed).mono fun timed input _ hstep =>
    show within (PermittedOnTime 32) (Succeeds timedStep) timed input _ from
      ⟨⟨permitted_any _ _, hstep.1⟩, hstep.2⟩
  exact ⟨_, run, (waits_le_of_run (by decide) run).1 .clientrpc, by decide⟩

end ThingsboardMqtt
