import Mathlib.Logic.Function.Basic
import ThingsboardMqtt.Library.Session
import ThingsboardMqtt.Ota.System

set_option autoImplicit false

/-! # The client of the helper

`Client` is `tbcmh_client` with the MQTT client under it: the tables of requests that wait for a
response, the two lists of standing subscriptions, the OTA items and the queue through which the
MQTT task hands its events to the user task. `history` records what the helper does for the
application, and every request that is published has a number of its own, `uid`; the code has
neither.

The broker forgets its subscriptions with every new session, so what it knows is read off the
packets since the last `connack` (`Client.session`). -/

namespace ThingsboardMqtt

/-! ## Requests and subscriptions -/

/-- Whose callback reads an answer: the application's, or that of the OTA item whose address is the
    context of the callback. -/
inductive Reader
  | application
  | otaupdate (otaType : TbcmhOtaupdateType) (context : Nat)
  deriving DecidableEq, Repr

/-- `attributesrequest_t`, `clientrpc_t` and `provision_t`: `reader` stands for `on_response`, and
    `hasOnTimeout` says that `on_timeout` is not `NULL`. -/
structure Request where
  uid : Nat
  requestId : Nat
  timestamp : Nat
  reader : Reader
  hasOnTimeout : Bool
  deriving DecidableEq, Repr

/-- `attributessubscribe_t`; `reader` stands for `on_update`. -/
structure Attributessubscribe where
  subscribeId : Nat
  keyList : List String
  reader : Reader
  deriving DecidableEq, Repr

/-! ## Events -/

/-- `tbcm_publish_data_t` by topic; `object` is what `cJSON_ParseWithLength` makes of the payload. -/
inductive TbcmPublishData
  | response (table : RequestTable) (requestId : Nat) (object : Option Cjson)
  | sharedAttributes (object : Option Cjson)
  | serverrpcRequest (requestId : Nat) (object : Option Cjson)
  | fwResponse (requestId chunkId : Nat) (payload : List UInt8)

/-- `tbcm_event_t`, without the events that are only logged. -/
inductive TbcmEvent
  | connected
  | disconnected
  | data (data : TbcmPublishData)
  | checkTimeout

/-- What is done for the application: a request call returns `ESP_OK`, a callback of a request is
    invoked, a server-side RPC is handed over. `connected` is the handling of a `CONNECTED` event,
    with the address of the F/W item it finds, and `unsubscribed` is a call of
    `tbcmh_attributes_unsubscribe`, with the reader of the entry it finds. -/
inductive HelperAction
  | accepted (table : RequestTable) (request : Request)
  | onResponse (table : RequestTable) (uid requestId : Nat)
  | onTimeout (table : RequestTable) (uid : Nat)
  | onRequest (requestId : Nat) (method : String)
  | connected (fwItem : Option Nat)
  | unsubscribed (reader : Option Reader)
  deriving DecidableEq, Repr

/-- A callback of the request `uid` is invoked. -/
def HelperAction.calls (uid : Nat) : HelperAction → Bool
  | .onResponse _ uid' _ => uid' = uid
  | .onTimeout _ uid' => uid' = uid
  | _ => false

/-! ## The client -/

/-- Where the user task is: in the application, in `tbcmh_disconnect` or behind `tbcmh_destroy`.
    `tbcmh_disconnect` empties the queue, stops the MQTT client and empties the queue again;
    `destroy` says that `tbcmh_destroy` made the call. -/
inductive Control
  | application
  | emptying (destroy : Bool)
  | stopping (destroy : Bool)
  | stopped (destroy : Bool)
  | destroyed
  deriving DecidableEq, Repr

/-- The user task handles events there. -/
def Control.handlesEvents : Control → Bool
  | .application | .emptying _ | .stopped _ => true
  | .stopping _ | .destroyed => false

structure Client where
  ota : OtaWorld
  requestList : RequestTable → List Request
  attributessubscribeList : List Attributessubscribe
  lastSubscribeId : Nat
  serverrpcList : List String
  queue : List TbcmEvent
  lastCheckTimestamp : Nat
  hasMqttHandle : Bool
  control : Control
  lastUid : Nat
  history : List HelperAction

namespace Client

/-- The MQTT client under the helper. -/
def core (client : Client) : Core := client.ota.dev.core

def setCore (client : Client) (core : Core) : Client :=
  { client with ota := { client.ota with dev := { client.ota.dev with core := core } } }

def setRequests (client : Client) (table : RequestTable) (requests : List Request) : Client :=
  { client with requestList := Function.update client.requestList table requests }

def log (client : Client) (action : HelperAction) : Client :=
  { client with history := client.history ++ [action] }

/-- The packets are handed to the network. -/
def send (client : Client) (packets : List Packet) : Client :=
  client.setCore { client.core with sent := client.core.sent ++ packets }

/-- The packets of the current session. -/
def session (client : Client) : List Packet :=
  Session.current (fun packet => packet = .connack) client.core.sent

/-- The broker holds a subscription of the topic. -/
def brokerHolds (client : Client) (topic : Topic) : Bool :=
  Session.isOn (fun packet => packet = .subscribe topic) (fun packet => packet = .unsubscribe topic)
    client.session

section Fields

variable (client : Client) (newCore : Core) (table other : RequestTable) (requests : List Request)
  (packets : List Packet) (action : HelperAction)

@[simp] theorem setCore_core : (client.setCore newCore).core = newCore := rfl
@[simp] theorem setCore_requestList :
    (client.setCore newCore).requestList = client.requestList := rfl
@[simp] theorem setCore_attributessubscribeList :
    (client.setCore newCore).attributessubscribeList = client.attributessubscribeList := rfl
@[simp] theorem setCore_serverrpcList :
    (client.setCore newCore).serverrpcList = client.serverrpcList := rfl
@[simp] theorem setCore_queue : (client.setCore newCore).queue = client.queue := rfl
@[simp] theorem setCore_hasMqttHandle :
    (client.setCore newCore).hasMqttHandle = client.hasMqttHandle := rfl
@[simp] theorem setCore_control : (client.setCore newCore).control = client.control := rfl
@[simp] theorem setCore_lastUid : (client.setCore newCore).lastUid = client.lastUid := rfl
@[simp] theorem setCore_history : (client.setCore newCore).history = client.history := rfl

@[simp] theorem setRequests_core : (client.setRequests table requests).core = client.core := rfl
@[simp] theorem setRequests_requestList_self :
    (client.setRequests table requests).requestList table = requests := by
  simp [setRequests]
@[simp] theorem setRequests_attributessubscribeList :
    (client.setRequests table requests).attributessubscribeList
      = client.attributessubscribeList := rfl
@[simp] theorem setRequests_serverrpcList :
    (client.setRequests table requests).serverrpcList = client.serverrpcList := rfl
@[simp] theorem setRequests_queue : (client.setRequests table requests).queue = client.queue := rfl
@[simp] theorem setRequests_hasMqttHandle :
    (client.setRequests table requests).hasMqttHandle = client.hasMqttHandle := rfl
@[simp] theorem setRequests_control :
    (client.setRequests table requests).control = client.control := rfl
@[simp] theorem setRequests_lastUid :
    (client.setRequests table requests).lastUid = client.lastUid := rfl
@[simp] theorem setRequests_history :
    (client.setRequests table requests).history = client.history := rfl

theorem setRequests_requestList :
    (client.setRequests table requests).requestList other
      = if other = table then requests else client.requestList other := by
  simp [setRequests, Function.update_apply]

@[simp] theorem send_sent : (client.send packets).core.sent = client.core.sent ++ packets := rfl
@[simp] theorem send_state : (client.send packets).core.state = client.core.state := rfl
@[simp] theorem send_now : (client.send packets).core.now = client.core.now := rfl
@[simp] theorem send_isConnected :
    tbcmhIsConnected (client.send packets).core = tbcmhIsConnected client.core := rfl
@[simp] theorem send_requestList : (client.send packets).requestList = client.requestList := rfl
@[simp] theorem send_attributessubscribeList :
    (client.send packets).attributessubscribeList = client.attributessubscribeList := rfl
@[simp] theorem send_serverrpcList : (client.send packets).serverrpcList = client.serverrpcList := rfl
@[simp] theorem send_queue : (client.send packets).queue = client.queue := rfl
@[simp] theorem send_hasMqttHandle :
    (client.send packets).hasMqttHandle = client.hasMqttHandle := rfl
@[simp] theorem send_control : (client.send packets).control = client.control := rfl
@[simp] theorem send_lastUid : (client.send packets).lastUid = client.lastUid := rfl
@[simp] theorem send_history : (client.send packets).history = client.history := rfl

theorem send_nil : client.send [] = client := by
  simp [send, setCore, core]

@[simp] theorem log_core : (client.log action).core = client.core := rfl
@[simp] theorem log_requestList : (client.log action).requestList = client.requestList := rfl
@[simp] theorem log_attributessubscribeList :
    (client.log action).attributessubscribeList = client.attributessubscribeList := rfl
@[simp] theorem log_serverrpcList : (client.log action).serverrpcList = client.serverrpcList := rfl
@[simp] theorem log_queue : (client.log action).queue = client.queue := rfl
@[simp] theorem log_hasMqttHandle : (client.log action).hasMqttHandle = client.hasMqttHandle := rfl
@[simp] theorem log_control : (client.log action).control = client.control := rfl
@[simp] theorem log_lastUid : (client.log action).lastUid = client.lastUid := rfl
@[simp] theorem log_history : (client.log action).history = client.history ++ [action] := rfl

end Fields

theorem session_append {client client' : Client} {packets : List Packet}
    (hsent : client'.core.sent = client.core.sent ++ packets) (hpackets : .connack ∉ packets) :
    client'.session = client.session ++ packets := by
  rw [session, hsent]
  refine Session.current_append fun packet hmem => decide_eq_false ?_
  rintro rfl
  exact hpackets hmem

theorem session_connack {client client' : Client}
    (hsent : client'.core.sent = client.core.sent ++ [.connack]) : client'.session = [] := by
  rw [session, hsent]
  exact Session.current_append_start (decide_eq_true rfl)

/-- The connection, the queue and the place of the user task are left alone. -/
structure SameLink (client client' : Client) : Prop where
  state : client'.core.state = client.core.state
  now : client'.core.now = client.core.now
  queue : client'.queue = client.queue
  handle : client'.hasMqttHandle = client.hasMqttHandle
  control : client'.control = client.control

theorem SameLink.refl (client : Client) : SameLink client client := ⟨rfl, rfl, rfl, rfl, rfl⟩

theorem SameLink.trans {client₁ client₂ client₃ : Client} (h : SameLink client₁ client₂)
    (h' : SameLink client₂ client₃) : SameLink client₁ client₃ :=
  ⟨h'.state.trans h.state, h'.now.trans h.now, h'.queue.trans h.queue, h'.handle.trans h.handle,
    h'.control.trans h.control⟩

theorem SameLink.isConnected {client client' : Client} (h : SameLink client client') :
    tbcmhIsConnected client'.core = tbcmhIsConnected client.core := by
  simp [tbcmhIsConnected, h.state]

end Client

end ThingsboardMqtt
