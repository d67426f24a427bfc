import ThingsboardMqtt.Helper.RequestIds

set_option autoImplicit false

/-! # Runs of the client hand out ids in order

Whatever a run of the client does, callbacks in the middle of a sweep included, is a sequence of the
inputs of `IdInput`, so everything that is shown of those holds of the client (`idReached_of_run`). -/

namespace ThingsboardMqtt

open Relation Execution ListWalk Tickets

variable {conduct : Conduct} {now lastHandle : Nat}

/-- A client that is reached by inputs that draw and return ids. -/
def IdReached (now lastHandle : Nat) (client : Client) : Prop :=
  ∃ inputs desk, Run (within FittingIds (Succeeds idStep)) (.initial now lastHandle) inputs
    ⟨client, desk⟩

theorem SameIds.of_eq {client client' : Client} (hlist : client'.requestList = client.requestList)
    (huid : client'.lastUid = client.lastUid)
    (hitems : client'.ota.otaupdateList = client.ota.otaupdateList)
    (hnext : client'.ota.nextAddr = client.ota.nextAddr)
    (hcounter : client'.core.nextRequestId = client.core.nextRequestId)
    (htrace : client'.ota.dev.trace = client.ota.dev.trace) : SameIds client client' :=
  ⟨hlist, huid, hitems, hnext, hcounter, [], by rw [htrace, List.append_nil], rfl⟩

namespace IdReached

variable {client client' : Client}

theorem handle (h : IdReached now lastHandle client) (input : IdInput)
    (hfits : ∀ desk, FittingIds ⟨client, desk⟩ input) (hok : input.handle client = .ok client') :
    IdReached now lastHandle client' := by
  obtain ⟨inputs, desk, run⟩ := h
  have hstep : idStep ⟨client, desk⟩ input = .ok ⟨client', drawStarted
      (client'.ota.dev.trace.drop client.ota.dev.trace.length) (input.draw client desk)⟩ := by
    simp only [idStep, hok, bind, Except.bind]
  exact ⟨_, _, run.snoc ⟨hfits desk, hstep⟩⟩

theorem beside (h : IdReached now lastHandle client) (hsame : SameIds client client') :
    IdReached now lastHandle client' :=
  h.handle (.beside client') (fun _ => hsame) rfl

theorem request (h : IdReached now lastHandle client) (call : RequestCall) (reader : Reader)
    (hasOnTimeout : Bool) (answers : RequestAnswers) :
    IdReached now lastHandle (tbcmhRequest call reader hasOnTimeout answers client).2 :=
  h.handle (.request call reader hasOnTimeout answers) (fun _ => trivial) rfl

theorem send (h : IdReached now lastHandle client) (packets : List Packet) :
    IdReached now lastHandle (client.send packets) :=
  h.beside (.of_eq rfl rfl rfl rfl rfl rfl)

theorem log (h : IdReached now lastHandle client) (action : HelperAction) :
    IdReached now lastHandle (client.log action) :=
  h.beside (.of_eq rfl rfl rfl rfl rfl rfl)

theorem bridgeSend (h : IdReached now lastHandle client) (event : TbcmEvent) :
    IdReached now lastHandle (bridgeSend event client) := by
  unfold ThingsboardMqtt.bridgeSend
  split
  · exact h.beside (.of_eq rfl rfl rfl rfl rfl rfl)
  · exact h

theorem attributesSubscribe (h : IdReached now lastHandle client) (reader : Reader)
    (keys : List String) :
    IdReached now lastHandle (tbcmhAttributesSubscribe reader keys client).2 := by
  simp only [tbcmhAttributesSubscribe, subscribeFilled_eq]
  exact h.beside (.of_eq rfl rfl rfl rfl rfl rfl)

theorem act (h : IdReached now lastHandle client) (act : Act) :
    IdReached now lastHandle (act.run client) := by
  cases act with
  | connack =>
    simp only [Act.run, onMqttConnected]
    split
    · have hconnected : IdReached now lastHandle (client.setCore { client.core with
          state := .connected
          sent := client.core.sent ++ [.connack] }) := h.beside (.of_eq rfl rfl rfl rfl rfl rfl)
      exact hconnected.bridgeSend _
    · exact h
  | connectionLost =>
    simp only [Act.run, onMqttDisconnected]
    split
    · have hlost : IdReached now lastHandle (client.setCore { client.core with
          state := .disconnected }) := h.beside (.of_eq rfl rfl rfl rfl rfl rfl)
      exact hlost.bridgeSend _
    · exact h
  | receive data => exact h.bridgeSend _
  | responseTimer => exact h.bridgeSend _
  | tick seconds => exact h.beside (.of_eq rfl rfl rfl rfl rfl rfl)
  | request call hasOnTimeout answers => exact h.request call .application hasOnTimeout answers
  | attributesSubscribe keys => exact h.attributesSubscribe .application keys
  | attributesUnsubscribe _ | serverrpcSubscribe _ | serverrpcUnsubscribe _ =>
    simp only [Act.run, tbcmhAttributesUnsubscribe, tbcmhServerrpcSubscribe,
      tbcmhServerrpcUnsubscribe, subscribeFilled_eq, unsubscribeDrained_eq]
    exact h.beside (.of_eq rfl rfl rfl rfl rfl rfl)
  | otaupdateSubscribe otaDescription otaType nextUpdatePartition =>
    exact h.handle (.otaupdateSubscribe otaDescription otaType nextUpdatePartition)
      (fun _ => trivial) rfl
  | otaupdateUnsubscribe otaDescription =>
    exact h.handle (.otaupdateUnsubscribe otaDescription) (fun _ => trivial) rfl

/-! ## Sweeps -/

theorem acts {site : Option Site} (h : IdReached now lastHandle client)
    (acts : ReflTransGen (ActStep conduct site) client client') :
    IdReached now lastHandle client' := by
  induction acts with
  | refl => exact h
  | tail _ hact ih =>
    obtain ⟨act, -, rfl⟩ := hact
    exact ih.act act

theorem dealTimeout (callbacks : Callbacks conduct) (sweep : Sweep) (table : RequestTable)
    (timeoutList : List Request) : ∀ (clientIsValid : Bool) {client : Client},
      IdReached now lastHandle client → IdReached now lastHandle
        (dealTimeout table (callbacks.onTimeout sweep table) clientIsValid timeoutList client) := by
  induction timeoutList with
  | nil => exact fun _ _ h => h
  | cons request rest ih =>
    intro clientIsValid client h
    simp only [ThingsboardMqtt.dealTimeout]
    split
    · have hlogged := h.log (.onTimeout table request.uid)
      exact ih _ (hlogged.acts ((callbacks ⟨sweep, table⟩ request).acts _))
    · exact ih clientIsValid h

theorem onCheckTimeout (h : IdReached now lastHandle client) (callbacks : Callbacks conduct)
    (sweep : Sweep) (table : RequestTable) (timestamp : Nat) :
    IdReached now lastHandle
      (tbcmhRequestOnCheckTimeout table (callbacks.onTimeout sweep table) timestamp client) :=
  dealTimeout callbacks sweep table _ true
    (h.handle (.checkTimeout table timestamp) (fun _ => trivial) rfl)

theorem onDisconnected (h : IdReached now lastHandle client) (callbacks : Callbacks conduct)
    (table : RequestTable) :
    IdReached now lastHandle
      (tbcmhRequestOnDisconnected table (callbacks.onTimeout .disconnected table) client) :=
  (h.onCheckTimeout callbacks .disconnected table _).handle (.clear table) (fun _ => trivial) rfl

theorem onTbcmDisonnected (h : IdReached now lastHandle client) (callbacks : Callbacks conduct) :
    IdReached now lastHandle (onTbcmDisonnected callbacks client) :=
  (((h.onDisconnected callbacks .attributesrequest).onDisconnected callbacks
    .clientrpc).onDisconnected callbacks .provision).handle (.chunkCheckTimeout _)
    (fun _ => trivial) rfl

theorem onTbcmCheckTimeout (h : IdReached now lastHandle client) (callbacks : Callbacks conduct) :
    IdReached now lastHandle (onTbcmCheckTimeout callbacks client) := by
  rw [ThingsboardMqtt.onTbcmCheckTimeout]
  split
  · exact h
  · have hchecked : IdReached now lastHandle
        { client with lastCheckTimestamp := client.core.now } :=
      h.beside (.of_eq rfl rfl rfl rfl rfl rfl)
    exact (((hchecked.onCheckTimeout callbacks .checkTimeout .attributesrequest _).onCheckTimeout
      callbacks .checkTimeout .clientrpc _).onCheckTimeout callbacks .checkTimeout .provision
      _).handle (.chunkCheckTimeout _) (fun _ => trivial) rfl

/-! ## Messages and connections -/

theorem onTbcmDataHandle (h : IdReached now lastHandle client) {data : TbcmPublishData}
    {answers : EventAnswers} (hok : onTbcmDataHandle data answers client = .ok client') :
    IdReached now lastHandle client' := by
  cases data with
  | response table requestId object =>
    exact h.handle (.response table requestId object answers.ota) (fun _ => trivial) hok
  | sharedAttributes object =>
    refine sharedAttributes_rule (P := IdReached now lastHandle) ?_ hok h
    intro client ota otaType object answers h hupdate
    refine h.handle (.attributesupdate otaType (some object) answers) (fun _ => trivial) ?_
    simp only [IdInput.handle, hupdate, bind, Except.bind]
  | serverrpcRequest requestId object =>
    rcases tbcmhServerrpcOnData_outcome hok with rfl | ⟨method, rfl⟩
    · exact h
    · exact h.log _
  | fwResponse requestId chunkId payload =>
    exact h.handle (.chunkData requestId chunkId payload answers.ota) (fun _ => trivial) hok

theorem otaupdateItemOnConnected (h : IdReached now lastHandle client)
    (otaType : TbcmhOtaupdateType) (answers : EventAnswers) :
    IdReached now lastHandle (otaupdateItemOnConnected otaType answers client) := by
  unfold ThingsboardMqtt.otaupdateItemOnConnected
  split
  · exact h
  · rename_i otaupdate hitem
    -- the telemetry of the current version draws no id
    have hpublished : IdReached now lastHandle
        (publishEarlyCurrentVersion otaupdate answers.ota client) :=
      h.beside ⟨rfl, rfl, rfl, rfl, rfl, _, rfl, rfl⟩
    exact (hpublished.attributesSubscribe _ _).request _ _ _ _

theorem onTbcmConnected (h : IdReached now lastHandle client) (answers : EventAnswers) :
    IdReached now lastHandle (onTbcmConnected answers client) := by
  have hlogged := h.log (.connected ((client.firstItem .fw).map (·.addr)))
  simp only [ThingsboardMqtt.onTbcmConnected, tbcmhOtaupdateOnConnected, tbcmhServerrpcOnConnected,
    tbcmhAttributessubscribeOnConnected, resubscribe_eq]
  exact (((hlogged.send _).send _).otaupdateItemOnConnected .fw answers).otaupdateItemOnConnected
    .sw answers

theorem onTbcmEventHandle (h : IdReached now lastHandle client) {event : TbcmEvent}
    {callbacks : Callbacks conduct} {answers : EventAnswers}
    (hok : onTbcmEventHandle event callbacks answers client = .ok client') :
    IdReached now lastHandle client' := by
  cases event with
  | connected =>
    obtain rfl := Except.ok.inj hok
    exact h.onTbcmConnected answers
  | disconnected =>
    obtain rfl := Except.ok.inj hok
    exact h.onTbcmDisonnected callbacks
  | data data => exact h.onTbcmDataHandle hok
  | checkTimeout =>
    obtain rfl := Except.ok.inj hok
    exact h.onTbcmCheckTimeout callbacks

/-! ## Inputs and runs -/

theorem clientStep (h : IdReached now lastHandle client) {input : ClientInput conduct}
    (hok : clientStep client input = .ok client') : IdReached now lastHandle client' := by
  have hcontrol : ∀ (client : Client) control, IdReached now lastHandle client →
      IdReached now lastHandle { client with control := control } :=
    fun _ _ h => h.beside (.of_eq rfl rfl rfl rfl rfl rfl)
  have hdestroy : ∀ client : Client, IdReached now lastHandle client →
      IdReached now lastHandle (tbcmhOnDestroy client) :=
    fun _ h => h.handle .destroy (fun _ => trivial) rfl
  cases clientStep_outcome hok with
  | act act => exact h.act act
  | connect => exact h.beside (.of_eq rfl rfl rfl rfl rfl rfl)
  | tbcmhRun callbacks answers event queue _ hqueue hevent =>
    have hdequeued : IdReached now lastHandle { client with queue := queue } :=
      h.beside (.of_eq rfl rfl rfl rfl rfl rfl)
    exact hdequeued.onTbcmEventHandle hevent
  | disconnectEarly => exact h
  | disconnect => exact hcontrol _ _ h
  | destroyEarly => exact hdestroy _ h
  | destroy => exact hcontrol _ _ h
  | emptied => exact hcontrol _ _ h
  | stop => exact h.beside (.of_eq rfl rfl rfl rfl rfl rfl)
  | disconnected callbacks => exact hcontrol _ _ (h.onTbcmDisonnected callbacks)
  | destroyed callbacks => exact hdestroy _ (h.onTbcmDisonnected callbacks)

end IdReached

/-- Whatever a run of the client reaches is reached by inputs that draw and return ids. -/
theorem idReached_of_run {inputs : List (ClientInput conduct)} {client : Client}
    (run : Run (within Permitted (Succeeds clientStep)) (tbcmhInit now lastHandle) inputs client) :
    IdReached now lastHandle client :=
  run.invariant ⟨[], .empty, .nil⟩ fun _ _ _ h taken => h.clientStep taken.2

end ThingsboardMqtt
