import ThingsboardMqtt.Helper.Client

set_option autoImplicit false

/-! # Standing subscriptions

`attributes_subscribe.c` and the subscriptions of `server_rpc.c`: two lists, each with a topic that
is subscribed while its list is not empty. An `on_update` of the application is told not to call the
client, except for a call it reports by a result of 1 or 2, behind which the loop ends; what it
calls then is the next thing the application does. -/

namespace ThingsboardMqtt

open ListWalk

/-! ## Lists with a topic -/

/-- "Subscript topic: empty -> non-empty" -/
def subscribeFilled (topic : Topic) (isEmptyBefore isEmpty : Bool) (client : Client) : Client :=
  if tbcmhIsConnected client.core && isEmptyBefore && !isEmpty then
    client.setCore (tbcmSubscribe client.core topic)
  else client

/-- "Unsubscript topic: non-empty -> empty" -/
def unsubscribeDrained (topic : Topic) (isEmptyBefore isEmpty : Bool) (client : Client) : Client :=
  if tbcmhIsConnected client.core && !isEmptyBefore && isEmpty then
    client.setCore (tbcmUnsubscribe client.core topic)
  else client

/-- The subscription that is sent again for a new session. -/
def resubscribe (topic : Topic) (isEmpty : Bool) (client : Client) : Client :=
  if tbcmhIsConnected client.core && !isEmpty then
    client.setCore (tbcmSubscribe client.core topic)
  else client

section Packets

variable (topic : Topic) (isEmptyBefore isEmpty : Bool) (client : Client)

theorem subscribeFilled_eq : subscribeFilled topic isEmptyBefore isEmpty client
    = client.send (if tbcmhIsConnected client.core && isEmptyBefore && !isEmpty then
        [.subscribe topic] else []) := by
  unfold subscribeFilled
  split
  · rfl
  · rw [client.send_nil]

theorem unsubscribeDrained_eq : unsubscribeDrained topic isEmptyBefore isEmpty client
    = client.send (if tbcmhIsConnected client.core && !isEmptyBefore && isEmpty then
        [.unsubscribe topic] else []) := by
  unfold unsubscribeDrained
  split
  · rfl
  · rw [client.send_nil]

theorem resubscribe_eq : resubscribe topic isEmpty client
    = client.send (if tbcmhIsConnected client.core && !isEmpty then [.subscribe topic]
        else []) := by
  unfold resubscribe
  split
  · rfl
  · rw [client.send_nil]

end Packets

/-! ## Shared attributes -/

/-- `tbcmh_attributes_subscribe` and `tbcmh_attributes_subscribe_of_array`: the id they return, and
    the client. -/
def tbcmhAttributesSubscribe (reader : Reader) (keys : List String) (client : Client) :
    Nat × Client :=
  let attributessubscribe : Attributessubscribe :=
    { subscribeId := (client.lastSubscribeId + 1) % 2 ^ 32
      keyList := keys
      reader := reader }
  let isEmptyBefore := client.attributessubscribeList.isEmpty
  let client := { client with
    lastSubscribeId := attributessubscribe.subscribeId
    attributessubscribeList := client.attributessubscribeList ++ [attributessubscribe] }
  (attributessubscribe.subscribeId,
    subscribeFilled .sharedAttributes isEmptyBefore client.attributessubscribeList.isEmpty client)

/-- The list without the first entry that fits. -/
def removeFirst {α : Type} (p : α → Bool) (list : List α) : List α :=
  match splitFirst p list with
  | some (front, _, back) => front ++ back
  | none => list

/-- `tbcmh_attributes_unsubscribe` -/
def tbcmhAttributesUnsubscribe (subscribeId : Nat) (client : Client) : Client :=
  let fits (entry : Attributessubscribe) : Bool := entry.subscribeId = subscribeId
  let isEmptyBefore := client.attributessubscribeList.isEmpty
  let client := client.log
    (.unsubscribed ((splitFirst fits client.attributessubscribeList).map (·.2.1.reader)))
  let client := { client with
    attributessubscribeList := removeFirst fits client.attributessubscribeList }
  unsubscribeDrained .sharedAttributes isEmptyBefore client.attributessubscribeList.isEmpty client

theorem tbcmhAttributesSubscribe_sameLink (reader : Reader) (keys : List String)
    (client : Client) : client.SameLink (tbcmhAttributesSubscribe reader keys client).2 := by
  simp only [tbcmhAttributesSubscribe, subscribeFilled_eq]
  exact ⟨rfl, rfl, rfl, rfl, rfl⟩

/-- `_tbcmh_attributessubscribe_on_connected` -/
def tbcmhAttributessubscribeOnConnected (client : Client) : Client :=
  resubscribe .sharedAttributes client.attributessubscribeList.isEmpty client

/-- What the environment answers while one message of shared attributes is handled, for each entry
    of the list by its id: the result of an `on_update` of the application, and what an OTA item
    meets. -/
structure UpdateAnswers where
  result : Nat → Int
  ota : Nat → OtaAnswers

/-- `attributessubscribe->on_update(..)`: its result, and the client. -/
def onUpdate (entry : Attributessubscribe) (object : Cjson) (answers : UpdateAnswers)
    (client : Client) : Except Fault (Int × Client) :=
  match entry.reader with
  | .application => .ok (answers.result entry.subscribeId, client)
  | .otaupdate otaType _ => do
    let ota ← otaupdateOnAttributesupdate otaType (some object) (answers.ota entry.subscribeId)
      client.ota
    .ok (0, { client with ota := ota })

/-- The loop of `_tbcmh_attributessubscribe_on_data`. -/
def updateEntries (object : Cjson) (answers : UpdateAnswers) :
    List Attributessubscribe → Int → Client → Except Fault (Int × Client)
  | [], result, client => .ok (result, client)
  | entry :: rest, result, client =>
    if entry.keyList.isEmpty then do
      let (_, client) ← onUpdate entry object answers client
      updateEntries object answers rest result client
    else if entry.keyList.any object.hasObjectItem then do
      let (result, client) ← onUpdate entry object answers client
      if result = 2 then .ok (2, client)
      else if result = 1 then .ok (1, client)
      else updateEntries object answers rest result client
    else updateEntries object answers rest result client

/-- `_tbcmh_attributessubscribe_on_data` -/
def tbcmhAttributessubscribeOnData (object : Option Cjson) (answers : UpdateAnswers)
    (client : Client) : Except Fault (Int × Client) :=
  match object with
  | none => .ok (0, client)
  | some object => updateEntries object answers client.attributessubscribeList 0 client

/-! ## Server-side RPC -/

/-- `tbcmh_serverrpc_subscribe` -/
def tbcmhServerrpcSubscribe (method : String) (client : Client) : Client :=
  let isEmptyBefore := client.serverrpcList.isEmpty
  let client := { client with serverrpcList := client.serverrpcList ++ [method] }
  subscribeFilled .serverrpcRequest isEmptyBefore client.serverrpcList.isEmpty client

/-- `tbcmh_serverrpc_unsubscribe` -/
def tbcmhServerrpcUnsubscribe (method : String) (client : Client) : Client :=
  let isEmptyBefore := client.serverrpcList.isEmpty
  let client := { client with
    serverrpcList := removeFirst (fun entry => entry = method) client.serverrpcList }
  unsubscribeDrained .serverrpcRequest isEmptyBefore client.serverrpcList.isEmpty client

/-- `_tbcmh_serverrpc_on_connected` -/
def tbcmhServerrpcOnConnected (client : Client) : Client :=
  resubscribe .serverrpcRequest client.serverrpcList.isEmpty client

/-- `_tbcmh_serverrpc_on_data`; the method of a request is compared with those of the list, and one
    that is no string is a fault then. -/
def tbcmhServerrpcOnData (requestId : Nat) (object : Option Cjson) (client : Client) :
    Except Fault Client :=
  match object with
  | none => .ok client
  | some object =>
    if client.serverrpcList.isEmpty then .ok client
    else
      match Cjson.getStringValue (object.getObjectItem "method") with
      | none => .error .nullString
      | some method =>
        if method ∈ client.serverrpcList then .ok (client.log (.onRequest requestId method))
        else .ok client

end ThingsboardMqtt
