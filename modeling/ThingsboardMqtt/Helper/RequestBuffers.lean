import ThingsboardMqtt.Helper.KeyLists
import ThingsboardMqtt.Helper.Requests
import ThingsboardMqtt.Library.LiveBuffers

set_option autoImplicit false

/-! # The buffers of a request

The request calls once more, with what they take and give back: the lock of the client, and the buffers
of the request. The three wapper functions below them allocate a payload and a topic of their own. What
the buffers hold is left out, except for the keys, which decide whether there is anything to request.

With the buffers and the lock left out as well, a call is the one of `Requests`
(`requestOutcome_of_run`). -/

namespace ThingsboardMqtt

open CHeap CString LiveBuffers

/-! ## States -/

/-- The buffers that a request call may allocate, each at most once. -/
inductive Buffer
  | keys
  | paramsText
  | payload
  | topic
  | item
  | method
  | itemParams
  | params
  | member (key : String)
  deriving DecidableEq, Repr

/-- What the environment answers to a request call: whether the semaphore is taken before the timeout,
    which buffers can be allocated, and what `esp_mqtt_client_publish` returns. -/
structure RequestEnv where
  lockTaken : Bool
  allocates : Buffer → Bool
  messageId : Int

/-- What a call must not come to: a `NULL` that is followed, a `va_arg` behind the last argument, a key
    behind its buffer, or a buffer that was freed. -/
inductive RequestFault
  | null
  | missingArgument
  | keys (fault : MemFault)
  | buffer (fault : BufferFault)
  deriving DecidableEq, Repr

/-- The client, how often its `_lock` is taken by the task that calls, and the heap. -/
structure RequestWorld where
  client : Client
  lockDepth : Nat
  heap : Heap

/-- The arguments that the five calls have in common: whether the client and `on_response` are not
    `NULL`, and what is put into the item. -/
structure RequestArgs where
  hasClient : Bool
  hasOnResponse : Bool
  reader : Reader
  hasOnTimeout : Bool

/-- The packet of the next request is handed to the network. -/
def Client.publishRequest (table : RequestTable) (client : Client) : Client :=
  { client.setCore { client.core with
      sent := client.core.sent ++ [.request table (client.lastUid + 1)] } with
    lastUid := client.lastUid + 1 }

namespace RequestWorld

/-- `TBC_MALLOC` -/
def malloc (env : RequestEnv) (buffer : Buffer) (world : RequestWorld) :
    Option Nat × RequestWorld :=
  let (addr, heap) := world.heap.malloc (env.allocates buffer)
  (addr, { world with heap := heap })

/-- `TBC_FREE` -/
def free (addr : Option Nat) (world : RequestWorld) : Except RequestFault RequestWorld := do
  let heap ← (world.heap.free addr).mapError .buffer
  .ok { world with heap := heap }

/-- `xSemaphoreTakeRecursive` -/
def takeLock (env : RequestEnv) (world : RequestWorld) : Option RequestWorld :=
  if env.lockTaken then some { world with lockDepth := world.lockDepth + 1 } else none

/-- `xSemaphoreGiveRecursive` -/
def giveLock (world : RequestWorld) : RequestWorld :=
  { world with lockDepth := world.lockDepth - 1 }

def setClient (client : Client) (world : RequestWorld) : RequestWorld :=
  { world with client := client }

end RequestWorld

/-- A step of a call that returns a message id, which is negative when it fails. -/
abbrev Publisher := RequestWorld → Except RequestFault (Int × RequestWorld)

/-! ## The wapper -/

/-- `_tbcm_publish` -/
def tbcmPublish (env : RequestEnv) (table : RequestTable) (world : RequestWorld) :
    Int × RequestWorld :=
  if !world.client.hasMqttHandle then (-1, world)
  else if 0 ≤ env.messageId then
    (env.messageId, world.setClient (world.client.publishRequest table))
  else (env.messageId, world)

/-- A buffer is allocated in front of a step and freed behind it. -/
def withBuffer (env : RequestEnv) (buffer : Buffer) (body : Publisher) : Publisher := fun world =>
  match world.malloc env buffer with
  | (none, world) => .ok (-1, world)
  | (some addr, world) => do
    let (messageId, world) ← body world
    let world ← world.free (some addr)
    .ok (messageId, world)

/-- `tbcm_attributes_request` and `tbcm_clientrpc_request` -/
def tbcmTopicRequest (env : RequestEnv) (table : RequestTable) : Publisher := fun world =>
  if !world.client.hasMqttHandle then .ok (-1, world)
  else withBuffer env .topic (fun world => .ok (tbcmPublish env table world)) world

/-- `tbcm_attributes_request_ex`; the keys are `NULL` or a text. -/
def tbcmAttributesRequestEx (env : RequestEnv) (clientKeys sharedKeys : Option (List Char)) :
    Publisher := fun world =>
  let clientLen := (clientKeys.getD []).length
  let sharedLen := (sharedKeys.getD []).length
  if clientLen = 0 ∧ sharedLen = 0 then .ok (-1, world)
  else withBuffer env .payload (tbcmTopicRequest env .attributesrequest) world

/-- `tbcm_clientrpc_request_ex`; `hasParams` says that the params are not `NULL`. -/
def tbcmClientrpcRequestEx (env : RequestEnv) (hasParams : Bool) : Publisher := fun world =>
  if !hasParams then .error .null
  else withBuffer env .payload (tbcmTopicRequest env .clientrpc) world

/-- `tbcm_provision_request` -/
def tbcmProvisionRequest (env : RequestEnv) (hasPayload : Bool) : Publisher := fun world =>
  if !world.client.hasMqttHandle then .ok (-1, world)
  else if !hasPayload then .ok (-1, world)
  else .ok (tbcmPublish env .provision world)

/-! ## The items -/

/-- The item that is created. -/
def RequestArgs.item (args : RequestArgs) (requestId : Nat) (client : Client) : Request where
  uid := client.lastUid
  requestId := requestId
  timestamp := client.core.now
  reader := args.reader
  hasOnTimeout := args.hasOnTimeout

/-- What belongs to an item besides itself; the item does without it when it cannot be allocated. -/
def RequestWorld.mallocAlso (env : RequestEnv) (also : Option Buffer) (world : RequestWorld) :
    RequestWorld :=
  match also with
  | none => world
  | some buffer => (world.malloc env buffer).2

/-- The item of a list, with the buffers that belong to it. -/
def createRequest (env : RequestEnv) (args : RequestArgs) (also : Option Buffer) (requestId : Nat)
    (world : RequestWorld) : Option Request × RequestWorld :=
  if !args.hasOnResponse then (none, world)
  else
    match world.malloc env .item with
    | (none, world) => (none, world)
    | (some _, world) =>
      let world := world.mallocAlso env also
      (some (args.item requestId world.client), world)

/-- `_attributesrequest_create` -/
def attributesrequestCreate (env : RequestEnv) (args : RequestArgs) :=
  createRequest env args none

/-- `_clientrpc_create`, of a method that is not `NULL` -/
def clientrpcCreate (env : RequestEnv) (args : RequestArgs) :=
  createRequest env args (some .method)

/-- `_deviceprovision_create` -/
def deviceprovisionCreate (env : RequestEnv) (args : RequestArgs) :=
  createRequest env args (some .itemParams)

/-! ## The calls -/

/-- What the five calls do between the lock and its return, when the client is connected: whether an
    item is in the list behind it. -/
def requestConnected (table : RequestTable) (publish : Publisher)
    (create : Nat → RequestWorld → Option Request × RequestWorld) (world : RequestWorld) :
    Except RequestFault (Bool × RequestWorld) := do
  let client := subscribeEmpty table world.client
  let (requestId, core) := tbcmhGetRequestId client.core
  let (messageId, world) ← publish (world.setClient (client.setCore core))
  if messageId < 0 then .ok (false, world)
  else
    match create requestId world with
    | (none, world) => .ok (false, world)
    | (some request, world) =>
      .ok (true, world.setClient ((world.client.setRequests table
        (world.client.requestList table ++ [request])).log (.accepted table request)))

namespace RequestWorld

/-- A call whose exits all give the lock back and do nothing else. -/
def requestLocked (env : RequestEnv) (table : RequestTable) (publish : Publisher)
    (create : Nat → RequestWorld → Option Request × RequestWorld) (world : RequestWorld) :
    Except RequestFault (Bool × RequestWorld) :=
  match world.takeLock env with
  | none => .ok (false, world)
  | some world =>
    if !tbcmhIsConnected world.client.core then .ok (false, world.giveLock)
    else do
      let (accepted, world) ← requestConnected table publish create world
      .ok (accepted, world.giveLock)

/-- `tbcmh_attributes_request` -/
def tbcmhAttributesRequest (env : RequestEnv) (args : RequestArgs)
    (clientKeys sharedKeys : Option Key) (world : RequestWorld) :
    Except RequestFault (Bool × RequestWorld) :=
  if !args.hasClient then .ok (false, world)
  else if clientKeys.isNone && sharedKeys.isNone then .ok (false, world)
  else requestLocked env .attributesrequest
    (tbcmAttributesRequestEx env (clientKeys.map (·.chars)) (sharedKeys.map (·.chars)))
    (attributesrequestCreate env args) world

/-- `attributesrequest_of_client_fail` and `attributesrequest_of_shared_fail`: the keys are freed if
    they are `NULL`. -/
def keysRequestFail (keys : Option Nat) (world : RequestWorld) :
    Except RequestFault (Bool × RequestWorld) := do
  let world := world.giveLock
  let world ← if keys.isNone then world.free keys else .ok world
  .ok (false, world)

/-- The two calls that join the keys they request, behind the allocation of the buffer. -/
def requestJoinedKeys (env : RequestEnv) (args : RequestArgs) (request : List Char → KeysRequest)
    (count : Int) (keys : List Key) (buffer : Nat) (world : RequestWorld) :
    Except RequestFault (Bool × RequestWorld) :=
  if keys.length < count.toNat then .error .missingArgument
  else do
    let joinedKeys ← (copyKeys clearedKeys (keys.take count.toNat)).mapError .keys
    let chars ← (text joinedKeys).mapError .keys
    let sent := request chars
    let (accepted, world) ← requestConnected .attributesrequest
      (tbcmAttributesRequestEx env sent.clientKeys sent.sharedKeys)
      (attributesrequestCreate env args) world
    if accepted then do
      let world ← world.giveLock.free (some buffer)
      .ok (true, world)
    else world.keysRequestFail (some buffer)

/-- The two calls up to there. -/
def joinedKeysRequest (env : RequestEnv) (args : RequestArgs)
    (request : List Char → KeysRequest) (count : Int) (keys : List Key) (world : RequestWorld) :
    Except RequestFault (Bool × RequestWorld) :=
  if !args.hasClient then .ok (false, world)
  else if count ≤ 0 then .ok (false, world)
  else
    match world.takeLock env with
    | none => .ok (false, world)
    | some world =>
      if !tbcmhIsConnected world.client.core then world.keysRequestFail none
      else
        match world.malloc env .keys with
        | (none, world) => world.keysRequestFail none
        | (some buffer, world) => world.requestJoinedKeys env args request count keys buffer

/-- `tbcmh_clientattributes_request` -/
def tbcmhClientattributesRequest (env : RequestEnv) (args : RequestArgs) (count : Int)
    (keys : List Key) (world : RequestWorld) :=
  joinedKeysRequest env args (fun sent => ⟨some sent, none⟩) count keys world

/-- `tbcmh_sharedattributes_request` -/
def tbcmhSharedattributesRequest (env : RequestEnv) (args : RequestArgs) (count : Int)
    (keys : List Key) (world : RequestWorld) :=
  joinedKeysRequest env args (fun sent => ⟨none, some sent⟩) count keys world

/-- `cJSON_PrintUnformatted`, a step with the text, and `cJSON_free`. -/
def withPrinted (env : RequestEnv) (body : Bool → Publisher) : Publisher := fun world => do
  let (paramsText, world) := world.malloc env .paramsText
  let (messageId, world) ← body paramsText.isSome world
  let world ← world.free paramsText
  .ok (messageId, world)

/-- `tbcmh_twoway_clientrpc_request` -/
def tbcmhTwowayClientrpcRequest (env : RequestEnv) (args : RequestArgs) (method : Option String)
    (params : Option Cjson) (world : RequestWorld) : Except RequestFault (Bool × RequestWorld) :=
  if !args.hasClient then .ok (false, world)
  else if method.isNone then .ok (false, world)
  else requestLocked env .clientrpc
    (if params.isSome then withPrinted env (tbcmClientrpcRequestEx env)
      else tbcmClientrpcRequestEx env true)
    (clientrpcCreate env args) world

/-- `_provision_request_with_params`, of params that are not `NULL` -/
def provisionRequestWithParams (env : RequestEnv) (args : RequestArgs) (world : RequestWorld) :
    Except RequestFault (Bool × RequestWorld) :=
  if !args.hasClient then .ok (false, world)
  else requestLocked env .provision (withPrinted env (tbcmProvisionRequest env))
    (deviceprovisionCreate env args) world

end RequestWorld

/-! ## The params of a provision -/

/-- `tbc_provision_type_t` -/
inductive TbcProvisionType
  | none
  | serverGeneratesCredentials
  | deviceSuppliesAccessToken
  | deviceSuppliesBasicMqttCredentials
  | deviceSuppliesX509Credentials
  deriving DecidableEq, Repr

/-- `tbc_provision_config_t` -/
structure TbcProvisionConfig where
  provisionType : TbcProvisionType
  deviceName : Option String
  provisionDeviceKey : Option String
  provisionDeviceSecret : Option String
  token : Option String
  clientId : Option String
  username : Option String
  password : Option String
  hash : Option String
  deriving DecidableEq, Repr

/-- A member of the params: its key, and its value if there is one. -/
abbrev ParamsMember := String × Option String

namespace TbcProvisionConfig

variable (config : TbcProvisionConfig)

/-- The members that every type has. -/
def deviceMembers : List ParamsMember :=
  [("deviceName", config.deviceName), ("provisionDeviceKey", config.provisionDeviceKey),
    ("provisionDeviceSecret", config.provisionDeviceSecret)]

/-- What is checked for every type. -/
def hasDeviceKey : Bool :=
  config.provisionDeviceKey.isSome && config.provisionDeviceSecret.isSome

/-- `__params_of_credentials_generated_by_server` -/
def paramsOfCredentialsGeneratedByServer : Option (List ParamsMember) :=
  if config.hasDeviceKey then some config.deviceMembers else none

/-- `__params_of_devices_supplies_access_token` -/
def paramsOfDevicesSuppliesAccessToken : Option (List ParamsMember) :=
  if config.hasDeviceKey && config.token.isSome then
    some (config.deviceMembers ++
      [("credentialsType", some "ACCESS_TOKEN"), ("token", config.token)])
  else none

/-- `__params_of_devices_supplies_basic_mqtt_credentials` -/
def paramsOfDevicesSuppliesBasicMqttCredentials : Option (List ParamsMember) :=
  if config.hasDeviceKey && (config.clientId.isSome || config.username.isSome) then
    some (config.deviceMembers ++
      [("credentialsType", some "MQTT_BASIC"), ("clientId", config.clientId),
        ("username", config.username), ("password", config.password)])
  else none

/-- `__params_of_devices_supplies_x509_certificate` -/
def paramsOfDevicesSuppliesX509Certificate : Option (List ParamsMember) :=
  if config.hasDeviceKey && config.hash.isSome then
    some (config.deviceMembers ++
      [("credentialsType", some "X509_CERTIFICATE"), ("hash", config.hash)])
  else none

/-- The members that `tbcmh_provision_request` puts into the params, unless a check fails. -/
def members : Option (List ParamsMember) :=
  match config.provisionType with
  | .serverGeneratesCredentials => config.paramsOfCredentialsGeneratedByServer
  | .deviceSuppliesAccessToken => config.paramsOfDevicesSuppliesAccessToken
  | .deviceSuppliesBasicMqttCredentials => config.paramsOfDevicesSuppliesBasicMqttCredentials
  | .deviceSuppliesX509Credentials => config.paramsOfDevicesSuppliesX509Certificate
  | .none => none

end TbcProvisionConfig

namespace RequestWorld

/-- `cJSON_AddStringToObject` for the members with a value: `params` are the buffers of the object. -/
def addMembers (env : RequestEnv) :
    List ParamsMember → List Nat → RequestWorld → List Nat × RequestWorld
  | [], params, world => (params, world)
  | (_, none) :: rest, params, world => addMembers env rest params world
  | (key, some _) :: rest, params, world =>
    match world.malloc env (.member key) with
    | (none, world) => addMembers env rest params world
    | (some addr, world) => addMembers env rest (params ++ [addr]) world

/-- `cJSON_Delete` of an object with its members. -/
def cjsonDelete (params : List Nat) (world : RequestWorld) : Except RequestFault RequestWorld := do
  let heap ← (world.heap.freeAll params).mapError .buffer
  .ok { world with heap := heap }

/-- `tbcmh_provision_request` -/
def tbcmhProvisionRequest (env : RequestEnv) (args : RequestArgs)
    (config : Option TbcProvisionConfig) (world : RequestWorld) :
    Except RequestFault (Bool × RequestWorld) :=
  if !args.hasClient then .ok (false, world)
  else
    match world.malloc env .params with
    | (none, world) => .ok (false, world)
    | (some params, world) =>
      match config with
      | none => .error .null
      | some config =>
        match config.members with
        | none => do
          let world ← world.cjsonDelete [params]
          .ok (false, world)
        | some members => do
          let (params, world) := addMembers env members [params] world
          let (accepted, world) ← world.provisionRequestWithParams env args
          let world ← world.cjsonDelete params
          .ok (accepted, world)

end RequestWorld

/-- A request call with its own arguments. -/
inductive RequestFunction
  | attributes (clientKeys sharedKeys : Option Key)
  | clientattributes (count : Int) (keys : List Key)
  | sharedattributes (count : Int) (keys : List Key)
  | twowayClientrpc (method : Option String) (params : Option Cjson)
  | provision (config : Option TbcProvisionConfig)

/-- A call returns `ESP_OK` or not. -/
def RequestFunction.run (function : RequestFunction) (env : RequestEnv) (args : RequestArgs)
    (world : RequestWorld) : Except RequestFault (Bool × RequestWorld) :=
  match function with
  | .attributes clientKeys sharedKeys => world.tbcmhAttributesRequest env args clientKeys sharedKeys
  | .clientattributes count keys => world.tbcmhClientattributesRequest env args count keys
  | .sharedattributes count keys => world.tbcmhSharedattributesRequest env args count keys
  | .twowayClientrpc method params => world.tbcmhTwowayClientrpcRequest env args method params
  | .provision config => world.tbcmhProvisionRequest env args config

/-! ## What a step does -/

namespace RequestWorld

variable {env : RequestEnv} {world : RequestWorld}

theorem malloc_none {buffer : Buffer} (h : env.allocates buffer = false) :
    world.malloc env buffer = (none, world) := by
  simp [malloc, Heap.malloc, h]

theorem malloc_some (world : RequestWorld) {buffer : Buffer} (h : env.allocates buffer = true) :
    ∃ addr heap, world.malloc env buffer = (some addr, { world with heap := heap }) ∧
      Grows world.heap heap {addr} := by
  obtain ⟨addr, heap, hmalloc, hgrows⟩ := Grows.malloc world.heap
  refine ⟨addr, heap, ?_, hgrows⟩
  simp only [malloc, h, hmalloc]

theorem free_of_grows {heap : Heap} {owned : Finset Nat} (h : Grows heap world.heap owned)
    {addr : Nat} (hmem : addr ∈ owned) :
    ∃ heap', world.free (some addr) = .ok { world with heap := heap' } ∧
      Grows heap heap' (owned.erase addr) := by
  obtain ⟨heap', hfree, hgrows⟩ := h.free hmem
  refine ⟨heap', ?_, hgrows⟩
  rw [free, hfree]
  rfl

/-- What a step leaves that returned `messageId`: the packet is handed to the network unless that is
    negative. -/
def behind (table : RequestTable) (messageId : Int) (heap : Heap) (world : RequestWorld) :
    RequestWorld :=
  { world with
    client := if 0 ≤ messageId then world.client.publishRequest table else world.client
    heap := heap }

theorem free_behind {heap₁ heap₂ : Heap} {addr : Nat} (h : Grows world.heap heap₁ {addr})
    (hkept : Grows heap₁ heap₂ ∅) (table : RequestTable) (messageId : Int) :
    ∃ heap₃, free (some addr) (behind table messageId heap₂ { world with heap := heap₁ })
        = .ok (world.behind table messageId heap₃) ∧ Grows world.heap heap₃ ∅ := by
  have hbehind : Grows world.heap (behind table messageId heap₂ { world with heap := heap₁ }).heap
      {addr} := h.trans_empty hkept
  obtain ⟨heap₃, hfree, hgrows⟩ := free_of_grows hbehind (Finset.mem_singleton_self addr)
  rw [Finset.erase_singleton] at hgrows
  exact ⟨heap₃, hfree, hgrows⟩

end RequestWorld

/-- A step publishes the request or not, and it frees what it allocates. -/
def PublishesTo (table : RequestTable) (publish : Publisher) : Prop :=
  ∀ world messageId world', publish world = .ok (messageId, world') →
    ∃ heap, Grows world.heap heap ∅ ∧ world' = world.behind table messageId heap

/-- A step returns, and the message id says whether `succeeds`, a condition on the MQTT handle. -/
def ReturnsWhen (publish : Publisher) (succeeds : Bool → Bool) : Prop :=
  ∀ world, ∃ messageId world', publish world = .ok (messageId, world') ∧
    (0 ≤ messageId ↔ succeeds world.client.hasMqttHandle = true)

/-- A step that does nothing but fail. -/
theorem publishesTo_fail {table : RequestTable} {world world' : RequestWorld} {messageId : Int}
    (h : (.ok (-1, world) : Except RequestFault (Int × RequestWorld)) = .ok (messageId, world')) :
    ∃ heap, Grows world.heap heap ∅ ∧ world' = world.behind table messageId heap := by
  cases h
  exact ⟨world.heap, .refl _, rfl⟩

section Publishers

variable {env : RequestEnv} {table : RequestTable}

/-- What `_tbcm_publish` returns. -/
def RequestEnv.publishId (env : RequestEnv) (hasMqttHandle : Bool) : Int :=
  if hasMqttHandle then env.messageId else -1

theorem tbcmPublish_eq (env : RequestEnv) (table : RequestTable) (world : RequestWorld) :
    tbcmPublish env table world
      = (env.publishId world.client.hasMqttHandle,
          world.behind table (env.publishId world.client.hasMqttHandle) world.heap) := by
  unfold tbcmPublish RequestEnv.publishId
  cases world.client.hasMqttHandle with
  | false => rfl
  | true =>
    by_cases hid : 0 ≤ env.messageId
    · simp [hid, RequestWorld.behind, RequestWorld.setClient]
    · simp [hid, RequestWorld.behind]

theorem publishesTo_tbcmPublish :
    PublishesTo table fun world => .ok (tbcmPublish env table world) := by
  intro world messageId world' h
  simp only [tbcmPublish_eq] at h
  cases h
  exact ⟨world.heap, .refl _, rfl⟩

theorem returnsWhen_tbcmPublish (env : RequestEnv) (table : RequestTable) :
    ReturnsWhen (fun world => .ok (tbcmPublish env table world)) fun hasMqttHandle =>
      hasMqttHandle && decide (0 ≤ env.messageId) := by
  intro world
  refine ⟨_, _, congrArg Except.ok (tbcmPublish_eq env table world), ?_⟩
  cases hhandle : world.client.hasMqttHandle <;> simp [RequestEnv.publishId]

/-- A buffer around a step is freed whatever the step returns. -/
theorem publishesTo_withBuffer {buffer : Buffer} {body : Publisher} (hbody : PublishesTo table body) :
    PublishesTo table (withBuffer env buffer body) := by
  intro world messageId world' h
  cases hallocates : env.allocates buffer with
  | false =>
    rw [withBuffer, RequestWorld.malloc_none hallocates] at h
    exact publishesTo_fail h
  | true =>
    obtain ⟨addr, heap₁, hmalloc, hgrows⟩ := RequestWorld.malloc_some world hallocates
    simp only [withBuffer, hmalloc, bind, Except.bind] at h
    split at h
    · contradiction
    · rename_i result hresult
      obtain ⟨heap₂, hkept, hbehind⟩ := hbody _ _ _ hresult
      obtain ⟨heap₃, hfree, hfreed⟩ := RequestWorld.free_behind hgrows hkept table result.1
      rw [hbehind, hfree] at h
      cases h
      exact ⟨heap₃, hfreed, rfl⟩

theorem returnsWhen_withBuffer (env : RequestEnv) (buffer : Buffer) {body : Publisher}
    {succeeds : Bool → Bool} (hbody : PublishesTo table body) (hreturns : ReturnsWhen body succeeds) :
    ReturnsWhen (withBuffer env buffer body) fun hasMqttHandle =>
      env.allocates buffer && succeeds hasMqttHandle := by
  intro world
  cases hallocates : env.allocates buffer with
  | false =>
    refine ⟨-1, world, ?_, by simp⟩
    rw [withBuffer, RequestWorld.malloc_none hallocates]
  | true =>
    obtain ⟨addr, heap₁, hmalloc, hgrows⟩ := RequestWorld.malloc_some world hallocates
    obtain ⟨messageId, world₁, hrun, hid⟩ := hreturns { world with heap := heap₁ }
    obtain ⟨heap₂, hkept, hbehind⟩ := hbody _ _ _ hrun
    obtain ⟨heap₃, hfree, -⟩ := RequestWorld.free_behind hgrows hkept table messageId
    refine ⟨messageId, world.behind table messageId heap₃, ?_, by simpa using hid⟩
    simp only [withBuffer, hmalloc, bind, Except.bind, hrun, hbehind, hfree]

theorem publishesTo_tbcmTopicRequest : PublishesTo table (tbcmTopicRequest env table) := by
  intro world messageId world' h
  simp only [tbcmTopicRequest] at h
  split at h
  · exact publishesTo_fail h
  · exact publishesTo_withBuffer publishesTo_tbcmPublish world messageId world' h

theorem returnsWhen_tbcmTopicRequest (env : RequestEnv) (table : RequestTable) :
    ReturnsWhen (tbcmTopicRequest env table) fun hasMqttHandle =>
      hasMqttHandle && (env.allocates .topic && decide (0 ≤ env.messageId)) := by
  intro world
  cases hhandle : world.client.hasMqttHandle with
  | false => exact ⟨-1, world, by simp [tbcmTopicRequest, hhandle], by simp⟩
  | true =>
    obtain ⟨messageId, world', hrun, hid⟩ := returnsWhen_withBuffer env .topic
      publishesTo_tbcmPublish (returnsWhen_tbcmPublish env table) world
    refine ⟨messageId, world', ?_, by simpa [hhandle] using hid⟩
    rw [tbcmTopicRequest, hhandle]
    exact hrun

end Publishers

/-- The steps that a request of attributes takes to the network. -/
def RequestEnv.sends (env : RequestEnv) (hasMqttHandle : Bool) : Bool :=
  env.allocates .payload && (hasMqttHandle && (env.allocates .topic && decide (0 ≤ env.messageId)))

section Wapper

variable {env : RequestEnv}

theorem publishesTo_tbcmAttributesRequestEx (clientKeys sharedKeys : Option (List Char)) :
    PublishesTo .attributesrequest (tbcmAttributesRequestEx env clientKeys sharedKeys) := by
  intro world messageId world' h
  simp only [tbcmAttributesRequestEx] at h
  split at h
  · exact publishesTo_fail h
  · exact publishesTo_withBuffer publishesTo_tbcmTopicRequest world messageId world' h

/-- A request of attributes is published if there are keys in it and every step succeeds. -/
theorem returnsWhen_tbcmAttributesRequestEx (clientKeys sharedKeys : Option (List Char)) :
    ReturnsWhen (tbcmAttributesRequestEx env clientKeys sharedKeys) fun hasMqttHandle =>
      !((clientKeys.getD []).isEmpty && (sharedKeys.getD []).isEmpty) && env.sends hasMqttHandle := by
  intro world
  by_cases hempty : (clientKeys.getD []).length = 0 ∧ (sharedKeys.getD []).length = 0
  · refine ⟨-1, world, by simp only [tbcmAttributesRequestEx, if_pos hempty], ?_⟩
    rw [List.length_eq_zero_iff, List.length_eq_zero_iff] at hempty
    simp [hempty]
  · obtain ⟨messageId, world', hrun, hid⟩ := returnsWhen_withBuffer env .payload
      publishesTo_tbcmTopicRequest (returnsWhen_tbcmTopicRequest env .attributesrequest) world
    refine ⟨messageId, world', by simp only [tbcmAttributesRequestEx, if_neg hempty, hrun], ?_⟩
    have hkeys : ((clientKeys.getD []).isEmpty && (sharedKeys.getD []).isEmpty) = false := by
      rwa [Bool.eq_false_iff, ne_eq, Bool.and_eq_true, List.isEmpty_iff_length_eq_zero,
        List.isEmpty_iff_length_eq_zero]
    rw [hkeys]
    exact hid

theorem publishesTo_tbcmClientrpcRequestEx (hasParams : Bool) :
    PublishesTo .clientrpc (tbcmClientrpcRequestEx env hasParams) := by
  intro world messageId world' h
  simp only [tbcmClientrpcRequestEx] at h
  split at h
  · contradiction
  · exact publishesTo_withBuffer publishesTo_tbcmTopicRequest world messageId world' h

theorem publishesTo_tbcmProvisionRequest (hasPayload : Bool) :
    PublishesTo .provision (tbcmProvisionRequest env hasPayload) := by
  intro world messageId world' h
  simp only [tbcmProvisionRequest] at h
  split at h
  · exact publishesTo_fail h
  · split at h
    · exact publishesTo_fail h
    · exact publishesTo_tbcmPublish world messageId world' h

/-- The text of the params is freed, if there is one. -/
theorem publishesTo_withPrinted {table : RequestTable} {body : Bool → Publisher}
    (hbody : ∀ hasText, PublishesTo table (body hasText)) :
    PublishesTo table (RequestWorld.withPrinted env body) := by
  intro world messageId world' h
  cases hallocates : env.allocates .paramsText with
  | false =>
    simp only [RequestWorld.withPrinted, RequestWorld.malloc_none hallocates, Option.isSome_none,
      bind, Except.bind] at h
    split at h
    · contradiction
    · rename_i result hresult
      obtain ⟨heap₁, hkept, hbehind⟩ := hbody _ _ _ _ hresult
      rw [hbehind] at h
      cases h
      exact ⟨heap₁, hkept, rfl⟩
  | true =>
    obtain ⟨addr, heap₁, hmalloc, hgrows⟩ := RequestWorld.malloc_some world hallocates
    simp only [RequestWorld.withPrinted, hmalloc, Option.isSome_some, bind, Except.bind] at h
    split at h
    · contradiction
    · rename_i result hresult
      obtain ⟨heap₂, hkept, hbehind⟩ := hbody _ _ _ _ hresult
      obtain ⟨heap₃, hfree, hfreed⟩ := RequestWorld.free_behind hgrows hkept table result.1
      rw [hbehind, hfree] at h
      cases h
      exact ⟨heap₃, hfreed, rfl⟩

end Wapper

/-! ## What a call does -/

/-- An item can be created. -/
def RequestEnv.creates (env : RequestEnv) (args : RequestArgs) : Bool :=
  args.hasOnResponse && env.allocates .item

theorem RequestWorld.mallocAlso_eq (env : RequestEnv) (also : Option Buffer)
    (world : RequestWorld) :
    ∃ heap owned, Grows world.heap heap owned ∧
      world.mallocAlso env also = { world with heap := heap } := by
  cases also with
  | none => exact ⟨world.heap, ∅, .refl _, rfl⟩
  | some buffer =>
    cases hallocates : env.allocates buffer with
    | false => exact ⟨world.heap, ∅, .refl _, congrArg Prod.snd (malloc_none hallocates)⟩
    | true =>
      obtain ⟨addr, heap, hmalloc, hgrows⟩ := malloc_some world hallocates
      exact ⟨heap, {addr}, hgrows, congrArg Prod.snd hmalloc⟩

theorem createRequest_eq (env : RequestEnv) (args : RequestArgs) (also : Option Buffer)
    (requestId : Nat) (world : RequestWorld) :
    ∃ heap owned, Grows world.heap heap owned ∧ (env.creates args = false → owned = ∅) ∧
      createRequest env args also requestId world
        = (if env.creates args then some (args.item requestId world.client) else none,
            { world with heap := heap }) := by
  cases hresponse : args.hasOnResponse with
  | false =>
    exact ⟨world.heap, ∅, .refl _, by simp, by simp [createRequest, RequestEnv.creates, hresponse]⟩
  | true =>
    cases hitem : env.allocates .item with
    | false =>
      refine ⟨world.heap, ∅, .refl _, by simp, ?_⟩
      simp [createRequest, RequestEnv.creates, hresponse, hitem,
        RequestWorld.malloc_none hitem]
    | true =>
      obtain ⟨addr, heap₁, hmalloc, hgrows⟩ := RequestWorld.malloc_some world hitem
      obtain ⟨heap₂, owned, hgrows', halso⟩ := RequestWorld.mallocAlso_eq env also
        { world with heap := heap₁ }
      have hcreates : env.creates args = true := by simp [RequestEnv.creates, hresponse, hitem]
      refine ⟨heap₂, {addr} ∪ owned, hgrows.trans hgrows', by simp [hcreates], ?_⟩
      simp only [createRequest, hresponse, hmalloc, halso, hcreates]
      rfl

/-- What a call leaves: the lock as it was, nothing of its buffers if it fails, and the client as in
    `sendRequest`. -/
structure RequestEffect (table : RequestTable) (args : RequestArgs) (world : RequestWorld)
    (accepted : Bool) (world' : RequestWorld) : Prop where
  lockDepth : world'.lockDepth = world.lockDepth
  heap : ∃ owned, Grows world.heap world'.heap owned ∧ (accepted = false → owned = ∅)
  client : world'.client = world.client ∧ accepted = false ∨
    ∃ answers, sendRequest table args.reader args.hasOnTimeout answers world.client
      = (accepted, world'.client)

theorem RequestEffect.refused (table : RequestTable) (args : RequestArgs) (world : RequestWorld) :
    RequestEffect table args world false world :=
  ⟨rfl, ⟨∅, .refl _, fun _ => rfl⟩, .inl ⟨rfl, rfl⟩⟩

/-- The client when its request has an id. -/
def Client.numbered (table : RequestTable) (client : Client) : Client :=
  (subscribeEmpty table client).setCore (tbcmhGetRequestId (subscribeEmpty table client).core).2

/-- The client with an item in its list. -/
def Client.accept (table : RequestTable) (request : Request) (client : Client) : Client :=
  (client.setRequests table (client.requestList table ++ [request])).log (.accepted table request)

theorem sendRequest_of_connected {client : Client} (h : tbcmhIsConnected client.core = true)
    (table : RequestTable) (args : RequestArgs) (answers : RequestAnswers) :
    sendRequest table args.reader args.hasOnTimeout answers client
      = if answers.published then
          if answers.created then
            (true, ((client.numbered table).publishRequest table).accept table
              (args.item (tbcmhGetRequestId (subscribeEmpty table client).core).1
                ((client.numbered table).publishRequest table)))
          else (false, (client.numbered table).publishRequest table)
        else (false, client.numbered table) := by
  rw [sendRequest, h]
  rfl

theorem requestList_numbered (table : RequestTable) (client : Client) :
    (client.numbered table).requestList = client.requestList := by
  rw [Client.numbered, subscribeEmpty_eq]
  rfl

theorem requestList_of_sendRequest {table : RequestTable} {args : RequestArgs}
    {answers : RequestAnswers} {client client' : Client}
    (h : sendRequest table args.reader args.hasOnTimeout answers client = (false, client')) :
    client'.requestList = client.requestList := by
  cases hconnected : tbcmhIsConnected client.core with
  | false =>
    rw [sendRequest, hconnected] at h
    rw [← (Prod.mk.inj h).2]
  | true =>
    rw [sendRequest_of_connected hconnected] at h
    split at h
    · split at h
      · simp at h
      · rw [← (Prod.mk.inj h).2]
        exact requestList_numbered table client
    · rw [← (Prod.mk.inj h).2]
      exact requestList_numbered table client

theorem RequestEffect.requestList {table : RequestTable} {args : RequestArgs}
    {world world' : RequestWorld} (h : RequestEffect table args world false world') :
    world'.client.requestList = world.client.requestList := by
  obtain ⟨hclient, -⟩ | ⟨answers, hsend⟩ := h.client
  · rw [hclient]
  · exact requestList_of_sendRequest hsend

theorem RequestEffect.live {table : RequestTable} {args : RequestArgs}
    {world world' : RequestWorld} (h : RequestEffect table args world false world') :
    world'.heap.live = world.heap.live := by
  obtain ⟨owned, hgrows, hnone⟩ := h.heap
  obtain rfl := hnone rfl
  exact hgrows.live_eq

section Calls

variable {env : RequestEnv} {args : RequestArgs} {table : RequestTable} {publish : Publisher}
  {also : Option Buffer} {world world' : RequestWorld} {accepted : Bool}

/-- A call between the lock and its return. -/
theorem requestConnected_effect (hpublish : PublishesTo table publish)
    (hconnected : tbcmhIsConnected world.client.core = true)
    (hrun : requestConnected table publish (createRequest env args also) world
      = .ok (accepted, world')) :
    RequestEffect table args world accepted world' := by
  simp only [requestConnected, bind, Except.bind] at hrun
  split at hrun
  · contradiction
  · rename_i result hresult
    obtain ⟨heap₁, hkept, hbehind⟩ := hpublish _ _ _ hresult
    rw [hbehind] at hrun
    by_cases hid : result.1 < 0
    · rw [if_pos hid] at hrun
      cases hrun
      refine ⟨rfl, ⟨∅, hkept, fun _ => rfl⟩, .inr ⟨⟨false, false⟩, ?_⟩⟩
      rw [sendRequest_of_connected hconnected, RequestWorld.behind, if_neg (Int.not_le.mpr hid)]
      rfl
    · rw [if_neg hid] at hrun
      obtain ⟨heap₂, owned, hgrows, hnone, hcreate⟩ := createRequest_eq env args also
        (tbcmhGetRequestId (subscribeEmpty table world.client).core).1
        (RequestWorld.behind table result.1 heap₁ (world.setClient (world.client.numbered table)))
      have hall := hkept.trans hgrows
      rw [Finset.empty_union] at hall
      rw [Client.numbered] at hcreate
      rw [hcreate] at hrun
      have hpublished : ∀ client : Client, (if 0 ≤ result.1 then client.publishRequest table
          else client) = client.publishRequest table := fun _ => if_pos (Int.not_lt.mp hid)
      cases hcreates : env.creates args with
      | false =>
        rw [hcreates] at hrun
        cases hrun
        refine ⟨rfl, ⟨owned, hall, fun _ => hnone hcreates⟩, .inr ⟨⟨true, false⟩, ?_⟩⟩
        rw [sendRequest_of_connected hconnected]
        simp only [RequestWorld.behind, hpublished]
        rfl
      | true =>
        rw [hcreates] at hrun
        cases hrun
        refine ⟨rfl, ⟨owned, hall, by simp⟩, .inr ⟨⟨true, true⟩, ?_⟩⟩
        rw [sendRequest_of_connected hconnected]
        simp only [RequestWorld.behind, hpublished]
        rfl

/-- When it returns, an item is in the list if the request was published and the item created. -/
theorem requestConnected_returns (env : RequestEnv) (args : RequestArgs) (also : Option Buffer)
    {succeeds : Bool → Bool} (hreturns : ReturnsWhen publish succeeds)
    (hpublish : PublishesTo table publish) (world : RequestWorld) :
    ∃ world', requestConnected table publish (createRequest env args also) world
      = .ok (succeeds world.client.hasMqttHandle && env.creates args, world') := by
  have hhandle : (subscribeEmpty table world.client).hasMqttHandle = world.client.hasMqttHandle := by
    rw [subscribeEmpty_eq]
    rfl
  obtain ⟨messageId, world₁, hrun, hid⟩ := hreturns (world.setClient
    ((subscribeEmpty table world.client).setCore
      (tbcmhGetRequestId (subscribeEmpty table world.client).core).2))
  obtain ⟨heap₁, -, hbehind⟩ := hpublish _ _ _ hrun
  simp only [requestConnected, bind, Except.bind, hrun]
  change 0 ≤ messageId ↔ succeeds (subscribeEmpty table world.client).hasMqttHandle = true at hid
  rw [hhandle] at hid
  by_cases hneg : messageId < 0
  · have hfails : succeeds world.client.hasMqttHandle = false := by
      rw [Bool.eq_false_iff]
      intro hsucceeds
      exact absurd (hid.mpr hsucceeds) (Int.not_le.mpr hneg)
    rw [if_pos hneg, hfails]
    exact ⟨world₁, rfl⟩
  · rw [if_neg hneg, hid.mp (Int.not_lt.mp hneg)]
    obtain ⟨heap₂, owned, -, -, hcreate⟩ := createRequest_eq env args also
      (tbcmhGetRequestId (subscribeEmpty table world.client).core).1 world₁
    rw [hcreate]
    cases env.creates args with
    | false => exact ⟨_, rfl⟩
    | true => exact ⟨_, rfl⟩

/-- A call that gives the lock back on every exit. -/
theorem requestLocked_effect (hpublish : PublishesTo table publish)
    (hrun : world.requestLocked env table publish (createRequest env args also)
      = .ok (accepted, world')) :
    RequestEffect table args world accepted world' := by
  unfold RequestWorld.requestLocked RequestWorld.takeLock at hrun
  cases hlock : env.lockTaken with
  | false =>
    simp only [hlock] at hrun
    cases hrun
    exact .refused table args world
  | true =>
    simp only [hlock, if_true] at hrun
    cases hconnected : tbcmhIsConnected world.client.core with
    | false =>
      simp only [hconnected, Bool.not_false, if_true] at hrun
      cases hrun
      exact .refused table args world
    | true =>
      simp only [hconnected, Bool.not_true, Bool.false_eq_true, if_false, bind, Except.bind] at hrun
      split at hrun
      · contradiction
      · rename_i result hresult
        have hlocked : tbcmhIsConnected
            ({ world with lockDepth := world.lockDepth + 1 } : RequestWorld).client.core = true :=
          hconnected
        have heffect := requestConnected_effect hpublish hlocked hresult
        cases hrun
        refine ⟨?_, heffect.heap, heffect.client⟩
        exact congrArg (· - 1) heffect.lockDepth

end Calls

end ThingsboardMqtt
