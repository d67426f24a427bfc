import Mathlib.Logic.Relation
import ThingsboardMqtt.Helper.Requests
import ThingsboardMqtt.Helper.Subscriptions
import ThingsboardMqtt.Library.Execution

set_option autoImplicit false

/-! # Events and runs of the client

`tbc_mqtt_helper.c`. The MQTT task changes the connection state, sends packets and puts events into
the queue; the user task calls the client and, in `tbcmh_run` and `tbcmh_disconnect`, takes the
events out. `Act` is what may happen at any moment: a step of the MQTT task or a call of the
application. An `on_timeout` may call the client too, in the middle of a sweep, so it is a sequence
of acts. The callbacks behind which an event is finished (`on_response`, `on_request`,
`on_connected`, `on_disconnected`) need no such treatment: what they call is the next input of the
run.

A run has one MQTT client at a time, its queue has room for every event, and stopping it succeeds.
`Conduct` says what the application and the network may do in a run, so that a result about all
runs and a result about some runs share their proofs. -/

namespace ThingsboardMqtt

open Execution

/-! ## Acts -/

/-- A step of the MQTT task, or a call of the application. -/
inductive Act
  | connack
  | connectionLost
  | receive (data : TbcmPublishData)
  | responseTimer
  | tick (seconds : Nat)
  | request (call : RequestCall) (hasOnTimeout : Bool) (answers : RequestAnswers)
  | attributesSubscribe (keys : List String)
  | attributesUnsubscribe (subscribeId : Nat)
  | serverrpcSubscribe (method : String)
  | serverrpcUnsubscribe (method : String)
  | otaupdateSubscribe (otaDescription : String) (otaType : TbcmhOtaupdateType)
      (nextUpdatePartition : Option Nat)
  | otaupdateUnsubscribe (otaDescription : String)

/-- `_on_tbcm_event_bridge_send`, the `on_event` while there is an MQTT client. (The response timer is
    not stopped with it; when it fires without one, the C code calls `NULL`.) -/
def bridgeSend (event : TbcmEvent) (client : Client) : Client :=
  if client.hasMqttHandle then { client with queue := client.queue ++ [event] } else client

/-- `_on_mqtt_event_handle` for `MQTT_EVENT_CONNECTED`, which starts a clean session. -/
def onMqttConnected (client : Client) : Client :=
  if client.hasMqttHandle && !tbcmhIsConnected client.core then
    bridgeSend .connected (client.setCore { client.core with
      state := .connected
      sent := client.core.sent ++ [.connack] })
  else client

/-- `_on_mqtt_event_handle` for `MQTT_EVENT_DISCONNECTED`. -/
def onMqttDisconnected (client : Client) : Client :=
  if client.hasMqttHandle then
    bridgeSend .disconnected (client.setCore { client.core with state := .disconnected })
  else client

def Act.run : Act → Client → Client
  | .connack, client => onMqttConnected client
  | .connectionLost, client => onMqttDisconnected client
  | .receive data, client => bridgeSend (.data data) client
  | .responseTimer, client => bridgeSend .checkTimeout client
  | .tick seconds, client =>
    client.setCore { client.core with now := client.core.now + seconds }
  | .request call hasOnTimeout answers, client =>
    (tbcmhRequest call .application hasOnTimeout answers client).2
  | .attributesSubscribe keys, client => (tbcmhAttributesSubscribe .application keys client).2
  | .attributesUnsubscribe subscribeId, client => tbcmhAttributesUnsubscribe subscribeId client
  | .serverrpcSubscribe method, client => tbcmhServerrpcSubscribe method client
  | .serverrpcUnsubscribe method, client => tbcmhServerrpcUnsubscribe method client
  | .otaupdateSubscribe otaDescription otaType nextUpdatePartition, client =>
    { client with
      ota := (tbcmhOtaupdateSubscribe otaDescription otaType nextUpdatePartition client.ota).2 }
  | .otaupdateUnsubscribe otaDescription, client =>
    { client with ota := (tbcmhOtaupdateUnsubscribe otaDescription client.ota).2 }

/-! ## Conduct -/

/-- Which sweep a callback is invoked by. -/
inductive Sweep
  | checkTimeout
  | disconnected
  deriving DecidableEq, Repr

/-- The sweep of one table. -/
structure Site where
  sweep : Sweep
  table : RequestTable
  deriving DecidableEq, Repr

/-- What the environment answers while one event is handled. -/
structure EventAnswers where
  ota : OtaAnswers
  update : UpdateAnswers
  request : RequestAnswers

/-- What may happen in a run: an act in a state, in the middle of a sweep or not; a result of an
    `on_timeout`; the handling of a `CONNECTED` event; and `tbcmh_destroy`, always when no request is
    left. -/
structure Conduct where
  act : Option Site → Client → Act → Prop
  result : Int → Prop
  connected : Client → EventAnswers → Prop
  destroy : Client → Prop
  destroy_of_empty : ∀ client : Client, (∀ table, client.requestList table = []) → destroy client

/-- Everything may happen. -/
def Conduct.any : Conduct where
  act _ _ _ := True
  result _ := True
  connected _ _ := True
  destroy _ := True
  destroy_of_empty _ _ := trivial

/-- An act that is allowed at a site. -/
def ActStep (conduct : Conduct) (site : Option Site) (client client' : Client) : Prop :=
  ∃ act, conduct.act site client act ∧ client' = act.run client

/-- An `on_timeout` of the application: whatever it does is a sequence of acts. -/
structure Routine (conduct : Conduct) (site : Site) where
  run : Client → Int × Client
  acts : ∀ client, Relation.ReflTransGen (ActStep conduct (some site)) client (run client).2
  result : ∀ client, conduct.result (run client).1

/-- The callbacks of the requests that time out while one event is handled. -/
abbrev Callbacks (conduct : Conduct) := (site : Site) → Request → Routine conduct site

/-- The callback of one sweep. -/
def Callbacks.onTimeout {conduct : Conduct} (callbacks : Callbacks conduct) (sweep : Sweep)
    (table : RequestTable) : OnTimeout :=
  fun request client => (callbacks ⟨sweep, table⟩ request).run client

/-! ## Handling an event -/

/-- The keys of a type, in the order of the calls. -/
def OtaAttributeKeys.toList (keys : OtaAttributeKeys) : List String :=
  [keys.title, keys.version, keys.size, keys.checksum, keys.checksumAlg]

/-- The first item of a type. -/
def Client.firstItem (otaType : TbcmhOtaupdateType) (client : Client) : Option Otaupdate :=
  client.ota.otaupdateList.find? fun otaupdate => otaupdate.config.otaType = otaType

/-- `_otaupdate_publish_early_current_version`, for an item of the client -/
def publishEarlyCurrentVersion (otaupdate : Otaupdate) (answers : OtaAnswers) (client : Client) :
    Client :=
  { client with
    ota := { client.ota with
      dev := otaupdatePublishEarlyCurrentVersion otaupdate answers client.ota.dev } }

/-- One of the two loops of `_tbcmh_otaupdate_on_connected`. -/
def otaupdateItemOnConnected (otaType : TbcmhOtaupdateType) (answers : EventAnswers)
    (client : Client) : Client :=
  match client.firstItem otaType with
  | none => client
  | some otaupdate =>
    let reader := Reader.otaupdate otaType otaupdate.addr
    let keys := (otaAttributeKeys otaType).toList
    let client := publishEarlyCurrentVersion otaupdate answers.ota client
    let client := (tbcmhAttributesSubscribe reader keys client).2
    (tbcmhRequest (.sharedattributes keys) reader false answers.request client).2

/-- `_tbcmh_otaupdate_on_connected` -/
def tbcmhOtaupdateOnConnected (answers : EventAnswers) (client : Client) : Client :=
  otaupdateItemOnConnected .sw answers (otaupdateItemOnConnected .fw answers client)

/-- `__on_tbcm_connected` -/
def onTbcmConnected (answers : EventAnswers) (client : Client) : Client :=
  tbcmhOtaupdateOnConnected answers
    (tbcmhServerrpcOnConnected
      (tbcmhAttributessubscribeOnConnected
        (client.log (.connected ((client.firstItem .fw).map (·.addr))))))

/-- The parts of the helper that are told of a disconnection, in the order of
    `__on_tbcm_disonnected` and `tbcmh_disconnect`. -/
def onTbcmDisonnected {conduct : Conduct} (callbacks : Callbacks conduct) (client : Client) :
    Client :=
  let client := tbcmhRequestOnDisconnected .attributesrequest
    (callbacks.onTimeout .disconnected .attributesrequest) client
  let client := tbcmhRequestOnDisconnected .clientrpc
    (callbacks.onTimeout .disconnected .clientrpc) client
  let client := tbcmhRequestOnDisconnected .provision
    (callbacks.onTimeout .disconnected .provision) client
  { client with ota := tbcmhOtaupdateOnDisconnected client.ota }

/-- `__on_tbcm_data_handle` -/
def onTbcmDataHandle (data : TbcmPublishData) (answers : EventAnswers) (client : Client) :
    Except Fault Client :=
  match data with
  | .response table requestId object =>
    tbcmhRequestOnData table requestId object answers.ota client
  | .sharedAttributes object => do
    let (_, client) ← tbcmhAttributessubscribeOnData object answers.update client
    .ok client
  | .serverrpcRequest requestId object => tbcmhServerrpcOnData requestId object client
  | .fwResponse requestId chunkId payload =>
    .ok { client with
      ota := tbcmhOtaupdateOnChunkData .crc32 requestId chunkId payload answers.ota client.ota }

/-- `__on_tbcm_check_timeout` -/
def onTbcmCheckTimeout {conduct : Conduct} (callbacks : Callbacks conduct) (client : Client) :
    Client :=
  let timestamp := client.core.now
  if timestamp < client.lastCheckTimestamp + tbMqttTimeout + 2 then client
  else
    let client := { client with lastCheckTimestamp := timestamp }
    let client := tbcmhRequestOnCheckTimeout .attributesrequest
      (callbacks.onTimeout .checkTimeout .attributesrequest) timestamp client
    let client := tbcmhRequestOnCheckTimeout .clientrpc
      (callbacks.onTimeout .checkTimeout .clientrpc) timestamp client
    let client := tbcmhRequestOnCheckTimeout .provision
      (callbacks.onTimeout .checkTimeout .provision) timestamp client
    { client with ota := tbcmhOtaupdateOnChunkCheckTimeout timestamp client.ota }

/-- `_on_tbcm_event_handle` -/
def onTbcmEventHandle {conduct : Conduct} (event : TbcmEvent) (callbacks : Callbacks conduct)
    (answers : EventAnswers) (client : Client) : Except Fault Client :=
  match event with
  | .connected => .ok (onTbcmConnected answers client)
  | .disconnected => .ok (onTbcmDisonnected callbacks client)
  | .data data => onTbcmDataHandle data answers client
  | .checkTimeout => .ok (onTbcmCheckTimeout callbacks client)

/-! ## Connecting, disconnecting, destroying -/

/-- `tbcmh_init` -/
def tbcmhInit (now : Nat) (lastHandle : Nat) : Client where
  ota := .initial ⟨.disconnected, 0, now, []⟩ lastHandle
  requestList _ := []
  attributessubscribeList := []
  lastSubscribeId := 0
  serverrpcList := []
  queue := []
  lastCheckTimestamp := now
  hasMqttHandle := false
  control := .application
  lastUid := 0
  history := []

/-- `tbcm_connect`, called when there is no MQTT client -/
def tbcmConnect (client : Client) : Client :=
  { client.setCore { client.core with state := .connecting } with hasMqttHandle := true }

/-- `tbcm_disconnect` -/
def tbcmDisconnect (client : Client) : Client :=
  { client.setCore { client.core with state := .disconnected } with hasMqttHandle := false }

/-- The `on_destroy` of the parts of the helper, and what follows it in `tbcmh_destroy`. -/
def tbcmhOnDestroy (client : Client) : Client :=
  { tbcmDisconnect client with
    attributessubscribeList := []
    requestList := fun _ => []
    serverrpcList := []
    ota := { (tbcmDisconnect client).ota with otaupdateList := [] }
    queue := []
    control := .destroyed }

/-! ## Runs -/

/-- What the run may take next. `tbcmhRun` handles one event. `emptied` is the end of a loop of
    `tbcmh_disconnect` that found the queue empty, and `stop` is the `tbcm_disconnect` between the
    two loops, up to which the MQTT task may fill the queue again. -/
inductive ClientInput (conduct : Conduct)
  | act (act : Act)
  | connect
  | tbcmhRun (callbacks : Callbacks conduct) (answers : EventAnswers)
  | disconnect
  | destroy
  | emptied (callbacks : Callbacks conduct)
  | stop

/-- Why an input is not taken: it does not fit where the user task is, or it ends in a fault. -/
inductive Halt
  | disabled
  | fault (fault : Fault)

/-- `tbcmh_disconnect`, also where `tbcmh_destroy` calls it, up to its first loop. -/
def tbcmhDisconnect (destroy : Bool) (client : Client) : Client :=
  if client.core.state = .disconnected then
    if destroy then tbcmhOnDestroy client else client
  else { client with control := .emptying destroy }

/-- What `tbcmh_disconnect` does behind each of its loops. -/
def tbcmhDisconnectEmptied {conduct : Conduct} (callbacks : Callbacks conduct) (client : Client) :
    Except Halt Client :=
  match client.control with
  | .emptying destroy => .ok { client with control := .stopping destroy }
  | .stopped destroy =>
    let client := onTbcmDisonnected callbacks client
    .ok (if destroy then tbcmhOnDestroy client else { client with control := .application })
  | _ => .error .disabled

def clientStep {conduct : Conduct} (client : Client) : ClientInput conduct → Except Halt Client
  | .act act =>
    if client.control = .destroyed then .error .disabled else .ok (act.run client)
  | .connect =>
    if client.control = .application && client.core.state = .disconnected &&
        !client.hasMqttHandle then .ok (tbcmConnect client)
    else .error .disabled
  | .tbcmhRun callbacks answers =>
    if client.control.handlesEvents then
      match client.queue with
      | [] => .error .disabled
      | event :: queue =>
        match onTbcmEventHandle event callbacks answers { client with queue := queue } with
        | .ok client => .ok client
        | .error fault => .error (.fault fault)
    else .error .disabled
  | .disconnect =>
    if client.control = .application then .ok (tbcmhDisconnect false client) else .error .disabled
  | .destroy =>
    if client.control = .application then .ok (tbcmhDisconnect true client) else .error .disabled
  | .emptied callbacks =>
    if client.queue.isEmpty then tbcmhDisconnectEmptied callbacks client else .error .disabled
  | .stop =>
    match client.control with
    | .stopping destroy => .ok { tbcmDisconnect client with control := .stopped destroy }
    | _ => .error .disabled

/-- Everything an input can do. -/
inductive StepOutcome {conduct : Conduct} (client : Client) : ClientInput conduct → Client → Prop
  | act (act : Act) (hcontrol : client.control ≠ .destroyed) :
    StepOutcome client (.act act) (act.run client)
  | connect (hcontrol : client.control = .application) (hstate : client.core.state = .disconnected)
      (hhandle : client.hasMqttHandle = false) :
    StepOutcome client .connect (tbcmConnect client)
  | tbcmhRun (callbacks : Callbacks conduct) (answers : EventAnswers) (event : TbcmEvent)
      (queue : List TbcmEvent) (client' : Client) (hqueue : client.queue = event :: queue)
      (hevent : onTbcmEventHandle event callbacks answers { client with queue := queue }
        = .ok client') :
    StepOutcome client (.tbcmhRun callbacks answers) client'
  | disconnectEarly (hcontrol : client.control = .application)
      (hstate : client.core.state = .disconnected) : StepOutcome client .disconnect client
  | disconnect (hcontrol : client.control = .application) :
    StepOutcome client .disconnect { client with control := .emptying false }
  | destroyEarly (hcontrol : client.control = .application)
      (hstate : client.core.state = .disconnected) :
    StepOutcome client .destroy (tbcmhOnDestroy client)
  | destroy (hcontrol : client.control = .application) :
    StepOutcome client .destroy { client with control := .emptying true }
  | emptied (callbacks : Callbacks conduct) (destroy : Bool)
      (hcontrol : client.control = .emptying destroy) :
    StepOutcome client (.emptied callbacks) { client with control := .stopping destroy }
  | stop (destroy : Bool) (hcontrol : client.control = .stopping destroy) :
    StepOutcome client .stop { tbcmDisconnect client with control := .stopped destroy }
  | disconnected (callbacks : Callbacks conduct) (hcontrol : client.control = .stopped false) :
    StepOutcome client (.emptied callbacks)
      { onTbcmDisonnected callbacks client with control := .application }
  | destroyed (callbacks : Callbacks conduct) (hcontrol : client.control = .stopped true) :
    StepOutcome client (.emptied callbacks) (tbcmhOnDestroy (onTbcmDisonnected callbacks client))

theorem clientStep_outcome {conduct : Conduct} {input : ClientInput conduct}
    {client client' : Client} (hok : clientStep client input = .ok client') :
    StepOutcome client input client' := by
  cases input with
  | act act =>
    simp only [clientStep] at hok
    split at hok
    · exact absurd hok (by simp)
    · rename_i hcontrol
      obtain rfl := Except.ok.inj hok
      exact .act act hcontrol
  | connect =>
    simp only [clientStep] at hok
    split at hok
    · rename_i hcontrol
      obtain rfl := Except.ok.inj hok
      simp only [Bool.and_eq_true, decide_eq_true_eq, Bool.not_eq_true'] at hcontrol
      exact .connect hcontrol.1.1 hcontrol.1.2 hcontrol.2
    · exact absurd hok (by simp)
  | tbcmhRun callbacks answers =>
    simp only [clientStep] at hok
    split at hok
    · split at hok
      · exact absurd hok (by simp)
      · rename_i event queue hqueue
        split at hok
        · rename_i hevent
          obtain rfl := Except.ok.inj hok
          exact .tbcmhRun callbacks answers event queue _ hqueue hevent
        · exact absurd hok (by simp)
    · exact absurd hok (by simp)
  | disconnect =>
    simp only [clientStep, tbcmhDisconnect] at hok
    split at hok
    · rename_i hcontrol
      obtain rfl := Except.ok.inj hok
      split
      · rename_i hstate
        exact .disconnectEarly hcontrol hstate
      · exact .disconnect hcontrol
    · exact absurd hok (by simp)
  | destroy =>
    simp only [clientStep, tbcmhDisconnect] at hok
    split at hok
    · rename_i hcontrol
      obtain rfl := Except.ok.inj hok
      split
      · rename_i hstate
        exact .destroyEarly hcontrol hstate
      · exact .destroy hcontrol
    · exact absurd hok (by simp)
  | emptied callbacks =>
    simp only [clientStep, tbcmhDisconnectEmptied] at hok
    split at hok
    · split at hok
      · rename_i destroy hcontrol
        obtain rfl := Except.ok.inj hok
        exact .emptied callbacks destroy hcontrol
      · rename_i destroy hcontrol
        obtain rfl := Except.ok.inj hok
        cases destroy with
        | true => exact .destroyed callbacks hcontrol
        | false => exact .disconnected callbacks hcontrol
      · exact absurd hok (by simp)
    · exact absurd hok (by simp)
  | stop =>
    simp only [clientStep] at hok
    split at hok
    · rename_i destroy hcontrol
      obtain rfl := Except.ok.inj hok
      exact .stop destroy hcontrol
    · exact absurd hok (by simp)

/-- `tbcmh_run` handles the first event of the queue. -/
theorem handled_of_tbcmhRun {conduct : Conduct} {callbacks : Callbacks conduct}
    {answers : EventAnswers} {client client' : Client} {event : TbcmEvent}
    {queue : List TbcmEvent} (hqueue : client.queue = event :: queue)
    (hok : clientStep client (.tbcmhRun callbacks answers) = .ok client') :
    onTbcmEventHandle event callbacks answers { client with queue := queue } = .ok client' := by
  cases clientStep_outcome hok with
  | tbcmhRun _ _ first rest _ hfirst hevent =>
    obtain ⟨rfl, rfl⟩ := List.cons.inj (hqueue.symm.trans hfirst)
    exact hevent

/-- The inputs that a conduct allows. -/
def Permitted {conduct : Conduct} (client : Client) : ClientInput conduct → Prop
  | .act act => conduct.act none client act
  | .tbcmhRun _ answers =>
    match client.queue with
    | .connected :: _ => conduct.connected client answers
    | _ => True
  | .destroy => client.core.state = .disconnected → conduct.destroy client
  | _ => True

theorem permitted_any (client : Client) (input : ClientInput .any) : Permitted client input := by
  cases input with
  | tbcmhRun callbacks answers =>
    simp only [Permitted]
    split <;> trivial
  | destroy => exact fun _ => trivial
  | act | connect | disconnect | emptied | stop => trivial

theorem run_of_any {inputs : List (ClientInput .any)} {client : Client}
    (h : allowed (fun _ _ => True) clientStep client inputs = true) :
    Run (within Permitted (Succeeds clientStep)) client inputs
      (inputs.foldl (advance clientStep) client) :=
  (run_of_succeeds h).mono fun client input _ hstep => ⟨permitted_any client input, hstep⟩

/-! ## A sample run -/

/-- A callback that does nothing. -/
def Routine.silent {conduct : Conduct} {site : Site} (h : conduct.result 0) :
    Routine conduct site where
  run client := (0, client)
  acts _ := .refl
  result _ := h

/-- Every call of the environment succeeds. -/
def sampleEventAnswers : EventAnswers where
  ota := sampleAnswers
  update :=
    { result := fun _ => 0
      ota := fun _ => sampleAnswers }
  request := ⟨true, true⟩

/-- The client connects, and the application sends a client-side RPC. -/
def sampleRequest {conduct : Conduct} (h : conduct.result 0) : List (ClientInput conduct) :=
  [.connect, .act .connack, .tbcmhRun (fun _ _ => .silent h) sampleEventAnswers,
    .act (.request (.twowayClientrpc (some "reboot")) true ⟨true, true⟩)]

end ThingsboardMqtt
