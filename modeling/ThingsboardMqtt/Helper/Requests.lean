import ThingsboardMqtt.Helper.Client

set_option autoImplicit false

/-! # Requests and their responses

`attributes_request.c`, the two-way part of `client_rpc.c` and `provision_request.c`. The three
files do the same to their own list, response topic and callbacks, so each function is one
definition with the table as its parameter; where a table does more or something else, the branch
says so. What the application's `on_timeout` does is a parameter: it may call the client again. -/

namespace ThingsboardMqtt

open ListWalk

/-! ## Sending a request -/

/-- A request call with the arguments it checks. -/
inductive RequestCall
  | attributes (clientKeys sharedKeys : Option String)
  | clientattributes (keys : List String)
  | sharedattributes (keys : List String)
  | twowayClientrpc (method : Option String)
  | provision

def RequestCall.table : RequestCall → RequestTable
  | .attributes _ _ | .clientattributes _ | .sharedattributes _ => .attributesrequest
  | .twowayClientrpc _ => .clientrpc
  | .provision => .provision

/-- The arguments pass the checks of the call. -/
def RequestCall.wellFormed : RequestCall → Bool
  | .attributes clientKeys sharedKeys => clientKeys.isSome || sharedKeys.isSome
  | .clientattributes keys | .sharedattributes keys => !keys.isEmpty
  | .twowayClientrpc method => method.isSome
  | .provision => true

/-- What the environment answers to a request call: the request can be published, and the item of
    the table can be created, which takes memory and an `on_response`. -/
structure RequestAnswers where
  published : Bool
  created : Bool
  deriving DecidableEq, Repr

/-- "It must subscribe response topic, then send request": the topic is subscribed when the table is
    empty. -/
def subscribeEmpty (table : RequestTable) (client : Client) : Client :=
  if (client.requestList table).isEmpty then
    client.setCore (tbcmSubscribe client.core table.responseTopic)
  else client

/-- The body the request calls share, behind the check of the arguments: whether it returns
    `ESP_OK`, and the client. -/
def sendRequest (table : RequestTable) (reader : Reader) (hasOnTimeout : Bool)
    (answers : RequestAnswers) (client : Client) : Bool × Client :=
  if !tbcmhIsConnected client.core then (false, client)
  else
    let client := subscribeEmpty table client
    match tbcmhGetRequestId client.core with
    | (requestId, core) =>
      if answers.published then
        let uid := client.lastUid + 1
        let client := { client.setCore { core with sent := core.sent ++ [.request table uid] } with
          lastUid := uid }
        if answers.created then
          let request : Request :=
            { uid := uid
              requestId := requestId
              timestamp := client.core.now
              reader := reader
              hasOnTimeout := hasOnTimeout }
          (true, (client.setRequests table (client.requestList table ++ [request])).log
            (.accepted table request))
        else (false, client)
      else (false, client.setCore core)

/-- `tbcmh_attributes_request`, `tbcmh_clientattributes_request`, `tbcmh_sharedattributes_request`,
    `tbcmh_twoway_clientrpc_request` and `_provision_request_with_params`. -/
def tbcmhRequest (call : RequestCall) (reader : Reader) (hasOnTimeout : Bool)
    (answers : RequestAnswers) (client : Client) : Bool × Client :=
  if call.wellFormed then sendRequest call.table reader hasOnTimeout answers client
  else (false, client)

/-- A request call returns `ESP_OK`. -/
def RequestCall.succeeds (call : RequestCall) (answers : RequestAnswers) (client : Client) : Bool :=
  tbcmhIsConnected client.core && (call.wellFormed && answers.published && answers.created)

/-- The subscription a request call sends first. -/
def emptySubscription (table : RequestTable) (client : Client) : List Packet :=
  if (client.requestList table).isEmpty then [.subscribe table.responseTopic] else []

/-- The client behind a request that was published. -/
def Client.published (client : Client) (table : RequestTable) (nextRequestId : UInt16) : Client :=
  { client.setCore { ((client.send (emptySubscription table client)).send
        [.request table (client.lastUid + 1)]).core with nextRequestId := nextRequestId } with
    lastUid := client.lastUid + 1 }

/-- What a request call does, by how far it comes. -/
inductive RequestOutcome (call : RequestCall) (hasOnTimeout : Bool) (answers : RequestAnswers)
    (client : Client) : Client → Prop
  | refused : RequestOutcome call hasOnTimeout answers client client
  | unpublished (hconnected : tbcmhIsConnected client.core = true) (nextRequestId : UInt16) :
    RequestOutcome call hasOnTimeout answers client
      (client.setCore { (client.send (emptySubscription call.table client)).core with
        nextRequestId := nextRequestId })
  | uncreated (hconnected : tbcmhIsConnected client.core = true) (nextRequestId : UInt16) :
    RequestOutcome call hasOnTimeout answers client (client.published call.table nextRequestId)
  | accepted (hconnected : tbcmhIsConnected client.core = true)
      (hok : (call.wellFormed && answers.published && answers.created) = true)
      (nextRequestId : UInt16) (request : Request) (huid : request.uid = client.lastUid + 1)
      (htimestamp : request.timestamp = client.core.now)
      (hcallback : request.hasOnTimeout = hasOnTimeout) :
    RequestOutcome call hasOnTimeout answers client
      (((client.published call.table nextRequestId).setRequests call.table
        (client.requestList call.table ++ [request])).log (.accepted call.table request))

theorem subscribeEmpty_eq (table : RequestTable) (client : Client) :
    subscribeEmpty table client = client.send (emptySubscription table client) := by
  simp only [subscribeEmpty, emptySubscription]
  split
  · rfl
  · rw [client.send_nil]

/-- A request call ends in one of these ways. -/
theorem tbcmhRequest_outcome (call : RequestCall) (reader : Reader) (hasOnTimeout : Bool)
    (answers : RequestAnswers) (client : Client) :
    RequestOutcome call hasOnTimeout answers client
      (tbcmhRequest call reader hasOnTimeout answers client).2 := by
  obtain ⟨published, created⟩ := answers
  simp only [tbcmhRequest, sendRequest, subscribeEmpty_eq, tbcmhGetRequestId]
  cases hwellFormed : call.wellFormed with
  | false => exact .refused
  | true =>
    rw [if_pos rfl]
    by_cases hconnected : tbcmhIsConnected client.core = true
    · rw [if_neg (by simp [hconnected])]
      cases published with
      | false => exact .unpublished hconnected _
      | true =>
        cases created with
        | false => exact .uncreated hconnected _
        | true =>
          exact .accepted hconnected (by simp [hwellFormed]) _
            ⟨client.lastUid + 1, _, client.core.now, reader, hasOnTimeout⟩ rfl rfl rfl
    · rw [if_pos (by simp [hconnected])]
      exact .refused

theorem RequestOutcome.sameLink {call : RequestCall} {hasOnTimeout : Bool}
    {answers : RequestAnswers} {client client' : Client}
    (h : RequestOutcome call hasOnTimeout answers client client') :
    client.SameLink client' := by
  cases h <;> exact ⟨rfl, rfl, rfl, rfl, rfl⟩

theorem tbcmhRequest_disconnected {client : Client} (h : tbcmhIsConnected client.core = false)
    (call : RequestCall) (reader : Reader) (hasOnTimeout : Bool) (answers : RequestAnswers) :
    (tbcmhRequest call reader hasOnTimeout answers client).2 = client := by
  simp only [tbcmhRequest, sendRequest, h]
  split <;> rfl

/-! ## Responses -/

/-- The search condition; "request_id is meaningless in provision". -/
def RequestTable.isAnswered (table : RequestTable) (requestId : Nat) (request : Request) : Bool :=
  table = .provision || request.requestId = requestId

/-- The topic is unsubscribed when the table became empty. -/
def unsubscribeEmptied (table : RequestTable) (isEmptyBefore : Bool) (client : Client) : Client :=
  if tbcmhIsConnected client.core && !isEmptyBefore && (client.requestList table).isEmpty then
    client.setCore (tbcmUnsubscribe client.core table.responseTopic)
  else client

/-- The packets of `unsubscribeEmptied`. -/
def emptiedUnsubscription (table : RequestTable) (isEmptyBefore : Bool) (client : Client) :
    List Packet :=
  if tbcmhIsConnected client.core && !isEmptyBefore && (client.requestList table).isEmpty then
    [.unsubscribe table.responseTopic]
  else []

theorem unsubscribeEmptied_eq (table : RequestTable) (isEmptyBefore : Bool) (client : Client) :
    unsubscribeEmptied table isEmptyBefore client
      = client.send (emptiedUnsubscription table isEmptyBefore client) := by
  simp only [unsubscribeEmptied, emptiedUnsubscription]
  split
  · rfl
  · rw [client.send_nil]

/-- The credentials a provision response carries. -/
inductive Credentials
  | accessToken (token : String)
  | basicMqtt (clientId username password : Option String)
  | x509 (token : String)
  deriving DecidableEq, Repr

/-- `__parse_string_item` -/
def parseStringItem (object : Cjson) (key : String) : Option String :=
  Cjson.getStringValue (object.getObjectItem key)

/-- `strcmp(cJSON_GetStringValue(item), "SUCCESS") == 0` for an item that is there. -/
def isSuccess (item : Option Cjson) : Except Fault Bool :=
  match item with
  | none => .ok false
  | some item =>
    match Cjson.getStringValue (some item) with
    | none => .error .nullString
    | some value => .ok (value = "SUCCESS")

/-- `__parse_provision_response`: the credentials where it returns `ESP_OK`. -/
def parseProvisionResponse (results : Cjson) : Except Fault (Option Credentials) := do
  let status ← isSuccess (results.getObjectItem "status")
  let deviceStatus ← isSuccess (results.getObjectItem "provisionDeviceStatus")
  if !(status || deviceStatus) then .ok none
  else
    match parseStringItem results "credentialsType" with
    | some "ACCESS_TOKEN" => .ok ((parseStringItem results "credentialsValue").map .accessToken)
    | some "MQTT_BASIC" =>
      .ok ((results.getObjectItem "credentialsValue").map fun credentialsValue =>
        .basicMqtt (parseStringItem credentialsValue "clientId")
          -- `cJSON_GetObjectItem` ignores case, so `userName` is found under `username` already
          ((parseStringItem credentialsValue "username").or
            (parseStringItem credentialsValue "userName"))
          (parseStringItem credentialsValue "password"))
    | some "X509_CERTIFICATE" => .ok ((parseStringItem results "credentialsValue").map .x509)
    | _ => .ok none

/-- The callback at the end of the three `on_data`: what becomes of a request that was taken from
    its table. An OTA item reads the shared attributes of the response. -/
def doResponse (table : RequestTable) (request : Request) (requestId : Nat) (object : Cjson)
    (answers : OtaAnswers) (client : Client) : Except Fault Client :=
  match table with
  | .attributesrequest =>
    let client := client.log (.onResponse table request.uid requestId)
    match request.reader with
    | .application => .ok client
    | .otaupdate otaType _ => do
      let ota ← otaupdateOnAttributesupdate otaType (object.getObjectItem "shared") answers
        client.ota
      .ok { client with ota := ota }
  | .clientrpc => .ok (client.log (.onResponse table request.uid requestId))
  | .provision => do
    match ← parseProvisionResponse object with
    | some _ => .ok (client.log (.onResponse table request.uid requestId))
    | none =>
      -- a response that reports a failure goes to `on_timeout`, which is not checked for `NULL`
      if request.hasOnTimeout then .ok (client.log (.onTimeout table request.uid))
      else .error .nullCallback

/-- `_tbcmh_attributesrequest_on_data`, `_tbcmh_clientrpc_on_data`, `_tbcmh_provision_on_data` -/
def tbcmhRequestOnData (table : RequestTable) (requestId : Nat) (object : Option Cjson)
    (answers : OtaAnswers) (client : Client) : Except Fault Client :=
  match object with
  | none => .ok client
  | some object =>
    match splitFirst (table.isAnswered requestId) (client.requestList table) with
    | none => .ok client
    | some (front, request, back) =>
      -- the table was not empty, since the request was in it
      doResponse table request requestId object answers
        (unsubscribeEmptied table false (client.setRequests table (front ++ back)))

/-! ## Timeouts -/

/-- What an `on_timeout` of the application does: its result, and the client it leaves. -/
abbrev OnTimeout := Request → Client → Int × Client

/-- The search condition of the sweep. -/
def Request.timedOut (timestamp : Nat) (request : Request) : Bool :=
  request.timestamp + tbMqttTimeout ≤ timestamp

/-- "Deal timeout": the loop over the local `timeout_list`. A result of 2 says that the client is
    gone, and no further callback is invoked. -/
def dealTimeout (table : RequestTable) (onTimeout : OnTimeout) :
    Bool → List Request → Client → Client
  | _, [], client => client
  | clientIsValid, request :: rest, client =>
    if clientIsValid && request.hasOnTimeout then
      match onTimeout request (client.log (.onTimeout table request.uid)) with
      | (result, client) => dealTimeout table onTimeout (result ≠ 2) rest client
    else dealTimeout table onTimeout clientIsValid rest client

/-- "Search & move timeout item to timeout_list", and unsubscribe. -/
def moveTimedOut (table : RequestTable) (timestamp : Nat) (client : Client) :
    List Request × Client :=
  ((client.requestList table).filter (·.timedOut timestamp),
    unsubscribeEmptied table (client.requestList table).isEmpty (client.setRequests table
      ((client.requestList table).filter fun request => !request.timedOut timestamp)))

/-- `_tbcmh_attributesrequest_on_check_timeout`, `_tbcmh_clientrpc_on_check_timeout`,
    `_tbcmh_provision_on_check_timeout` -/
def tbcmhRequestOnCheckTimeout (table : RequestTable) (onTimeout : OnTimeout) (timestamp : Nat)
    (client : Client) : Client :=
  match moveTimedOut table timestamp client with
  | (timeoutList, client) => dealTimeout table onTimeout true timeoutList client

/-- `_tbcmh_attributesrequest_on_disconnected`, `_tbcmh_clientrpc_on_disconnected`,
    `_tbcmh_provision_on_disconnected`: the sweep, then a `memset` of the list. -/
def tbcmhRequestOnDisconnected (table : RequestTable) (onTimeout : OnTimeout) (client : Client) :
    Client :=
  (tbcmhRequestOnCheckTimeout table onTimeout (client.core.now + tbMqttTimeout + 2)
    client).setRequests table []

end ThingsboardMqtt
