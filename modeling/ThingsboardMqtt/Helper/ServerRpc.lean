import Mathlib.Algebra.Order.Group.Multiset
import ThingsboardMqtt.Helper.Cjson
import ThingsboardMqtt.Helper.Core
import ThingsboardMqtt.Library.Execution
import ThingsboardMqtt.Library.ListWalk
import ThingsboardMqtt.Library.LiveBuffers
import ThingsboardMqtt.Ota.Fwupdate
import ThingsboardMqtt.Wapper.PrintedTopics

set_option autoImplicit false

/-! # Server-side RPC

`server_rpc.c` once more, with the memory of the entries of `serverrpc_list` and with what
`Subscriptions` leaves out: the callback of a request, which may subscribe and unsubscribe methods, its
own included, and the reply to the value it returns.

That the entry is cloned before its callback is called is what keeps the callback apart from the list:
whatever it does to the list, its own arguments stay live. What can go wrong is a `NULL`: an entry is
listed without a method when there is no memory for the copy, and a search that comes upon it compares
`NULL` (`serverrpcOnData_cases`). -/

namespace ThingsboardMqtt

open CHeap CString Execution ListWalk LiveBuffers

/-! ## Data -/

/-- `serverrpc_t`: where it is, its `method` with the address of that copy, `none` where there was no
    memory for the copy, and `context` with `on_request`. -/
structure Serverrpc (κ : Type) where
  addr : Nat
  method : Option (Nat × String)
  onRequest : κ
  deriving DecidableEq, Repr

/-- The string that `method` points to. -/
def Serverrpc.name {κ : Type} (serverrpc : Serverrpc κ) : Option String := serverrpc.method.map (·.2)

/-- The buffers of an entry, in the order they are freed. -/
def Serverrpc.buffers {κ : Type} (serverrpc : Serverrpc κ) : List Nat :=
  (serverrpc.method.map (·.1)).toList ++ [serverrpc.addr]

@[simp] theorem Serverrpc.addr_mem_buffers {κ : Type} (serverrpc : Serverrpc κ) :
    serverrpc.addr ∈ serverrpc.buffers := by
  simp [buffers]

theorem Serverrpc.mem_buffers_of_method {κ : Type} {serverrpc : Serverrpc κ} {methodAddr : Nat}
    {method : String} (h : serverrpc.method = some (methodAddr, method)) :
    methodAddr ∈ serverrpc.buffers := by
  simp [buffers, h]

/-- What an `on_request` is called with. -/
structure RpcRequest where
  requestId : UInt32
  method : Option String
  params : Option Cjson

/-- A call of `esp_mqtt_client_publish`; a payload that is `NULL` has the length zero. -/
structure Publication where
  topic : String
  payload : Option String
  qos : Nat
  retain : Bool
  deriving DecidableEq, Repr

/-- The client, as far as server-side RPC goes: `called` are the calls of an `on_request`, and
    `published` those of `esp_mqtt_client_publish`, oldest first. -/
structure RpcClient (κ : Type) where
  core : Core
  hasMqttHandle : Bool
  logRxtxPackage : Bool
  serverrpcList : List (Serverrpc κ)
  heap : Heap
  called : List (κ × RpcRequest)
  published : List Publication

/-- What a call must not come to: a `NULL` that is given to `strcmp` or `strlen`, a buffer that was
    freed, or a topic that is left. -/
inductive RpcFault
  | nullString
  | buffer (fault : BufferFault)
  | topic (fault : MemFault)
  deriving DecidableEq, Repr

/-- `tbcmh_serverrpc_subscribe` and `tbcmh_serverrpc_unsubscribe` with their arguments, `none` for
    `NULL`; whether the semaphore is taken before the timeout; and whether the entry and the copy of its
    method can be allocated. -/
inductive RpcCall (κ : Type)
  | subscribe (lockTaken allocated allocatesMethod : Bool) (method : Option String)
    (onRequest : Option κ)
  | unsubscribe (lockTaken : Bool) (method : Option String)

/-- What a callback does: it calls the client, and then it returns a value or `NULL`. -/
structure RpcReaction (κ ρ : Type) where
  calls : List (RpcCall κ)
  result : Option ρ

/-- What the environment answers while a request is handled: whether the clone of the entry, the copy
    of its method, the text of the value and the topic of the reply can be allocated, and what the
    callback does. -/
structure RpcAnswers (κ ρ : Type) where
  allocatesCache : Bool
  allocatesMethod : Bool
  allocatesResponse : Bool
  allocatesTopic : Bool
  onRequest : κ → RpcRequest → RpcReaction κ ρ

/-- `cJSON_ParseWithLength`, and `cJSON_PrintUnformatted` of a value that a callback returns, where
    there is memory for the text; `none` for a value that it cannot print. -/
structure RpcJson (ρ : Type) where
  parseWithLength : Block → Option Cjson
  printUnformatted : ρ → Option String

variable {κ ρ : Type}

/-! ## Entries -/

/-- `_serverrpc_create`, of arguments that are not `NULL`. -/
def serverrpcCreate (allocated allocatesMethod : Bool) (method : String) (onRequest : κ)
    (heap : Heap) : Option (Serverrpc κ) × Heap :=
  match heap.malloc allocated with
  | (none, heap) => (none, heap)
  | (some addr, heap) =>
    let (methodAddr, heap) := heap.malloc allocatesMethod
    (some ⟨addr, methodAddr.map (·, method), onRequest⟩, heap)

/-- `serverrpc->method` as an argument of a string function. -/
def readMethod (heap : Heap) (serverrpc : Serverrpc κ) : Except RpcFault String :=
  match serverrpc.method with
  | none => .error .nullString
  | some (methodAddr, method) => do
    (heap.access methodAddr).mapError .buffer
    .ok method

/-- `_serverrpc_clone_wo_listentry` -/
def serverrpcCloneWoListentry (allocated allocatesMethod : Bool) (src : Serverrpc κ) (heap : Heap) :
    Except RpcFault (Option (Serverrpc κ) × Heap) :=
  match heap.malloc allocated with
  | (none, heap) => .ok (none, heap)
  | (some addr, heap) => do
    (heap.access src.addr).mapError .buffer
    let method ← readMethod heap src
    let (methodAddr, heap) := heap.malloc allocatesMethod
    .ok (some ⟨addr, methodAddr.map (·, method), src.onRequest⟩, heap)

/-- `_serverrpc_destroy` -/
def serverrpcDestroy (serverrpc : Serverrpc κ) (heap : Heap) : Except RpcFault Heap :=
  (heap.freeAll serverrpc.buffers).mapError .buffer

/-- `strcmp(method, other) == 0`, of which only `other` may be `NULL`. -/
def strcmpEq (method : String) (other : Option String) : Except RpcFault Bool :=
  match other with
  | some other => .ok (method = other)
  | none => .error .nullString

/-- `LIST_FOREACH` up to the first entry of a method: the entries in front of it, it, and those
    behind. -/
def searchServerrpc (heap : Heap) (method : Option String) :
    List (Serverrpc κ) →
      Except RpcFault (Option (List (Serverrpc κ) × Serverrpc κ × List (Serverrpc κ)))
  | [] => .ok none
  | serverrpc :: rest => do
    (heap.access serverrpc.addr).mapError .buffer
    if ← strcmpEq (← readMethod heap serverrpc) method then .ok (some ([], serverrpc, rest))
    else do
      let found ← searchServerrpc heap method rest
      .ok (found.map fun (front, found, back) => (serverrpc :: front, found, back))

namespace RpcClient

/-! ## Subscribing -/

/-- `tbcmh_serverrpc_subscribe`: whether it returns `ESP_OK`. -/
def tbcmhServerrpcSubscribe (lockTaken allocated allocatesMethod : Bool) (method : Option String)
    (onRequest : Option κ) (client : RpcClient κ) : Bool × RpcClient κ :=
  match lockTaken, method, onRequest with
  | true, some method, some onRequest =>
    match serverrpcCreate allocated allocatesMethod method onRequest client.heap with
    | (none, heap) => (false, { client with heap := heap })
    | (some serverrpc, heap) =>
      let isEmptyBefore := client.serverrpcList.isEmpty
      let serverrpcList := client.serverrpcList ++ [serverrpc]
      let core :=
        if tbcmhIsConnected client.core && isEmptyBefore && !serverrpcList.isEmpty then
          tbcmSubscribe client.core .serverrpcRequest
        else client.core
      (true, { client with
        core := core
        serverrpcList := serverrpcList
        heap := heap })
  | _, _, _ => (false, client)

/-- `tbcmh_serverrpc_unsubscribe`: whether it returns `ESP_OK`. -/
def tbcmhServerrpcUnsubscribe (lockTaken : Bool) (method : Option String) (client : RpcClient κ) :
    Except RpcFault (Bool × RpcClient κ) :=
  match lockTaken, method with
  | true, some method => do
    match ← searchServerrpc client.heap (some method) client.serverrpcList with
    | none => .ok (false, client) -- the list is what it was, and so is the topic
    | some (front, serverrpc, back) => do
      let heap ← serverrpcDestroy serverrpc client.heap
      let isEmptyBefore := client.serverrpcList.isEmpty
      let serverrpcList := front ++ back
      let core :=
        if tbcmhIsConnected client.core && !isEmptyBefore && serverrpcList.isEmpty then
          tbcmUnsubscribe client.core .serverrpcRequest
        else client.core
      .ok (true, { client with
        core := core
        serverrpcList := serverrpcList
        heap := heap })
  | _, _ => .ok (false, client)

/-- A call of a callback, whose result it may read. -/
def call (client : RpcClient κ) : RpcCall κ → Except RpcFault (Bool × RpcClient κ)
  | .subscribe lockTaken allocated allocatesMethod method onRequest =>
    .ok (client.tbcmhServerrpcSubscribe lockTaken allocated allocatesMethod method onRequest)
  | .unsubscribe lockTaken method => client.tbcmhServerrpcUnsubscribe lockTaken method

/-- The calls of a callback. -/
def runCalls (client : RpcClient κ) : List (RpcCall κ) → Except RpcFault (RpcClient κ)
  | [] => .ok client
  | call :: rest => do
    let (_, client) ← client.call call
    client.runCalls rest

/-! ## Answering -/

/-- `strlen(TB_MQTT_TOPIC_SERVERRPC_RESPONSE_PREFIX) + 20` -/
def responseTopicSize : Nat := "v1/devices/me/rpc/response/".length + 20

/-- `snprintf(topic, size - 1, TB_MQTT_TOPIC_SERVERRPC_RESPONSE_PATTERN, request_id)` -/
def responseTopic (requestId : UInt32) : String :=
  snprintf (responseTopicSize - 1) s!"v1/devices/me/rpc/response/{requestId.toNat}"

/-- `tbcm_serverrpc_response`, whose result is not read; the log prints `strlen(response)` characters
    of the response. -/
def tbcmServerrpcResponse (allocatesTopic : Bool) (requestId : UInt32) (response : Option String)
    (client : RpcClient κ) : Except RpcFault (RpcClient κ) :=
  if !client.hasMqttHandle then .ok client
  else
    match client.heap.malloc allocatesTopic with
    | (none, heap) => .ok { client with heap := heap }
    | (some topic, heap) => do
      if client.logRxtxPackage && response.isNone then .error .nullString
      else do
        let heap ← (heap.free (some topic)).mapError .buffer
        .ok { client with
          heap := heap
          published := client.published ++ [⟨responseTopic requestId, response, 1, false⟩] }

/-- An `on_request` is called. -/
def logCall (onRequest : κ) (request : RpcRequest) (client : RpcClient κ) : RpcClient κ :=
  { client with called := client.called ++ [(onRequest, request)] }

/-- "Do request": the callback is called with what the clone holds, and may read the method until it
    returns. -/
def doRequest (answers : RpcAnswers κ ρ) (cache : Serverrpc κ) (requestId : UInt32)
    (params : Option Cjson) (client : RpcClient κ) :
    Except RpcFault (Option ρ × RpcClient κ) := do
  (client.heap.access cache.addr).mapError .buffer
  let request : RpcRequest := ⟨requestId, cache.name, params⟩
  let reaction := answers.onRequest cache.onRequest request
  let client ← (client.logCall cache.onRequest request).runCalls reaction.calls
  match cache.method with
  | none => .ok (reaction.result, client)
  | some (methodAddr, _) => do
    (client.heap.access methodAddr).mapError .buffer
    .ok (reaction.result, client)

/-- `cJSON_PrintUnformatted(result)` -/
def printResult (json : RpcJson ρ) (answers : RpcAnswers κ ρ) (result : ρ) : Option String :=
  if answers.allocatesResponse then json.printUnformatted result else none

/-- "Send reply" -/
def sendReply (json : RpcJson ρ) (answers : RpcAnswers κ ρ) (requestId : UInt32)
    (result : Option ρ) (client : RpcClient κ) : Except RpcFault (RpcClient κ) :=
  match result with
  | none => .ok client
  | some result =>
    client.tbcmServerrpcResponse answers.allocatesTopic requestId (printResult json answers result)

/-- `_tbcmh_serverrpc_on_data` behind the clone: "Free serverrpc" is the last thing it does. -/
def answerRequest (json : RpcJson ρ) (answers : RpcAnswers κ ρ) (cache : Serverrpc κ)
    (requestId : UInt32) (params : Option Cjson) (client : RpcClient κ) :
    Except RpcFault (RpcClient κ) := do
  let (result, client) ← client.doRequest answers cache requestId params
  let client ← client.sendReply json answers requestId result
  let heap ← serverrpcDestroy cache client.heap
  .ok { client with heap := heap }

/-- The `method` of a request: `NULL` if there is no such member, or if it is no string. -/
def requestMethod (object : Cjson) : Option String :=
  if object.hasObjectItem "method" then Cjson.getStringValue (object.getObjectItem "method")
  else none

/-- `_tbcmh_serverrpc_on_data` -/
def tbcmhServerrpcOnData (json : RpcJson ρ) (answers : RpcAnswers κ ρ) (requestId : UInt32)
    (object : Option Cjson) (client : RpcClient κ) : Except RpcFault (RpcClient κ) :=
  match object with
  | none => .ok client
  | some object => do
    match ← searchServerrpc client.heap (requestMethod object) client.serverrpcList with
    | none => .ok client
    | some (_, serverrpc, _) => do
      match ← serverrpcCloneWoListentry answers.allocatesCache answers.allocatesMethod serverrpc
          client.heap with
      | (none, heap) => .ok { client with heap := heap }
      | (some cache, heap) =>
        ({ client with heap := heap } : RpcClient κ).answerRequest json answers cache requestId
          (object.getObjectItem "params")

/-- `__on_tbcm_data_handle` for an event of the topic; the queue holds a copy of the payload. -/
def onTbcmDataHandle (json : RpcJson ρ) (answers : RpcAnswers κ ρ) (event : TbcmRxData)
    (client : RpcClient κ) : Except RpcFault (RpcClient κ) :=
  match event.topic with
  | .serverrpcRequest =>
    client.tbcmhServerrpcOnData json answers event.requestId
      (json.parseWithLength (event.payload.take event.payloadLen))
  | _ => .ok client

/-- The events of a message are handled. -/
def handleEvents (json : RpcJson ρ) (answers : RpcAnswers κ ρ) (client : RpcClient κ) :
    List TbcmRxData → Except RpcFault (RpcClient κ)
  | [] => .ok client
  | event :: rest => do
    let client ← client.onTbcmDataHandle json answers event
    client.handleEvents json answers rest

/-- `_on_mqtt_data_handle` of a message, and what becomes of its event when the user task takes it out
    of the queue, in the state in which it does. -/
def onMessage (json : RpcJson ρ) (answers : RpcAnswers κ ρ) (topic : Memory) (topicLen : Nat)
    (payload : Block) (client : RpcClient κ) : Except RpcFault (RpcClient κ) := do
  let events ← (onMqttDataHandle (some topic) topicLen (some payload) payload.length).mapError .topic
  client.handleEvents json answers events

end RpcClient

/-! ## Runs -/

/-- A call of the application, a message of the topic, or a change of the connection, of which the rest
    of the helper knows more. -/
inductive RpcInput (κ ρ : Type)
  | call (call : RpcCall κ)
  | data (answers : RpcAnswers κ ρ) (requestId : UInt32) (payload : Block)
  | link (core : Core) (hasMqttHandle logRxtxPackage : Bool)

/-- `tbcmh_init` -/
def rpcInit (κ : Type) : RpcClient κ where
  core := ⟨.disconnected, 0, 0, []⟩
  hasMqttHandle := false
  logRxtxPackage := false
  serverrpcList := []
  heap := .empty
  called := []
  published := []

def rpcStep (json : RpcJson ρ) (client : RpcClient κ) :
    RpcInput κ ρ → Except RpcFault (RpcClient κ)
  | .call call => do
    let (_, client) ← client.call call
    .ok client
  | .data answers requestId payload =>
    client.onTbcmDataHandle json answers ⟨.serverrpcRequest, requestId, 0, payload, payload.length⟩
  | .link core hasMqttHandle logRxtxPackage => .ok { client with
      core := core
      hasMqttHandle := hasMqttHandle
      logRxtxPackage := logRxtxPackage }

/-! ## Entries and their buffers -/

theorem serverrpcCreate_false (allocatesMethod : Bool) (method : String) (onRequest : κ)
    (heap : Heap) : serverrpcCreate false allocatesMethod method onRequest heap = (none, heap) := rfl

theorem serverrpcCreate_true {heap : Heap} {owned : Multiset Nat} (h : Accounts heap owned)
    (allocatesMethod : Bool) (method : String) (onRequest : κ) :
    ∃ serverrpc heap', serverrpcCreate true allocatesMethod method onRequest heap
        = (some serverrpc, heap') ∧
      serverrpc.name = (if allocatesMethod then some method else none) ∧
      serverrpc.onRequest = onRequest ∧ Accounts heap' (↑serverrpc.buffers + owned) := by
  obtain ⟨addr, heap₁, hmalloc, haccounts⟩ := h.malloc
  cases allocatesMethod with
  | false =>
    refine ⟨⟨addr, none, onRequest⟩, heap₁, ?_, rfl, rfl, ?_⟩
    · simp only [serverrpcCreate, hmalloc]
      rfl
    · simpa [Serverrpc.buffers] using haccounts
  | true =>
    obtain ⟨methodAddr, heap₂, hmallocMethod, haccounts'⟩ := haccounts.malloc
    refine ⟨⟨addr, some (methodAddr, method), onRequest⟩, heap₂, ?_, rfl, rfl, ?_⟩
    · simp only [serverrpcCreate, hmalloc, hmallocMethod]
      rfl
    · simp only [Serverrpc.buffers, Option.map_some, Option.toList_some, List.singleton_append,
        ← Multiset.cons_coe, Multiset.coe_nil, Multiset.cons_add, Multiset.zero_add]
      exact haccounts'

theorem serverrpcDestroy_owned {serverrpc : Serverrpc κ} {heap : Heap} {others : Multiset Nat}
    (h : Accounts heap (↑serverrpc.buffers + others)) :
    ∃ heap', serverrpcDestroy serverrpc heap = .ok heap' ∧ Accounts heap' others := by
  obtain ⟨heap', hfreeAll, hothers⟩ := h.freeAll
  refine ⟨heap', ?_, hothers⟩
  rw [serverrpcDestroy, hfreeAll]
  rfl

/-- The buffers of an entry are live. -/
def Live (heap : Heap) (serverrpc : Serverrpc κ) : Prop :=
  ∀ addr ∈ serverrpc.buffers, heap.access addr = .ok ()

/-- The method of a live entry is read, unless it is `NULL`. -/
theorem readMethod_eq {heap : Heap} {serverrpc : Serverrpc κ} (hlive : Live heap serverrpc) :
    readMethod heap serverrpc = match serverrpc.name with
      | some method => .ok method
      | none => .error .nullString := by
  unfold readMethod Serverrpc.name
  cases hmethod : serverrpc.method with
  | none => rfl
  | some copy =>
    have haccess := hlive copy.1 (Serverrpc.mem_buffers_of_method hmethod)
    simp only [haccess]
    rfl

/-- A search for `method` among these methods compares none that is `NULL`. -/
def comparable (method : String) : List (Option String) → Bool
  | [] => true
  | none :: _ => false
  | some name :: rest => name = method || comparable method rest

/-- In a list of live entries, the search finds the first that fits, unless it comes upon a `NULL`. -/
theorem searchServerrpc_eq {heap : Heap} {list : List (Serverrpc κ)}
    (hlive : ∀ serverrpc ∈ list, Live heap serverrpc) (method : String) :
    searchServerrpc heap (some method) list = if comparable method (list.map (·.name)) then
        .ok (splitFirst (fun serverrpc => serverrpc.name = some method) list)
      else .error .nullString := by
  induction list with
  | nil => rfl
  | cons serverrpc rest ih =>
    rw [List.forall_mem_cons] at hlive
    have haddr := hlive.1 serverrpc.addr serverrpc.addr_mem_buffers
    rw [searchServerrpc, haddr, readMethod_eq hlive.1, splitFirst, List.map_cons]
    cases hname : serverrpc.name with
    | none => rfl
    | some name =>
      simp only [Except.mapError, strcmpEq, comparable, Bind.bind, Except.bind, ih hlive.2,
        Option.some.injEq, decide_eq_true_eq, Bool.or_eq_true]
      by_cases hfits : name = method
      · simp [hfits]
      · by_cases hrest : comparable method (rest.map (·.name)) = true
        · simp [hfits, hrest]
        · simp [hfits, hrest]

/-- A method that is `NULL` is compared with that of the first entry. -/
theorem searchServerrpc_null (heap : Heap) {list : List (Serverrpc κ)} (hne : list ≠ []) :
    ∃ fault, searchServerrpc heap none list = .error fault := by
  cases list with
  | nil => exact absurd rfl hne
  | cons serverrpc rest =>
    rw [searchServerrpc]
    cases heap.access serverrpc.addr with
    | error fault => exact ⟨_, rfl⟩
    | ok _ =>
      cases readMethod heap serverrpc with
      | error fault => exact ⟨_, rfl⟩
      | ok _ => exact ⟨_, rfl⟩

/-- The buffers of a list. -/
def listBuffers (list : List (Serverrpc κ)) : Multiset Nat := ↑(list.flatMap (·.buffers))

theorem listBuffers_append_cons (front : List (Serverrpc κ)) (serverrpc : Serverrpc κ)
    (back : List (Serverrpc κ)) : listBuffers (front ++ serverrpc :: back)
      = ↑serverrpc.buffers + listBuffers (front ++ back) := by
  simp only [listBuffers, List.flatMap_append, List.flatMap_cons, ← Multiset.coe_add]
  exact add_left_comm _ _ _

theorem listBuffers_concat (list : List (Serverrpc κ)) (serverrpc : Serverrpc κ) :
    listBuffers (list ++ [serverrpc]) = ↑serverrpc.buffers + listBuffers list := by
  rw [listBuffers_append_cons, List.append_nil]

theorem mem_listBuffers {list : List (Serverrpc κ)} {serverrpc : Serverrpc κ}
    (hmem : serverrpc ∈ list) {addr : Nat} (haddr : addr ∈ serverrpc.buffers) :
    addr ∈ listBuffers list :=
  Multiset.mem_coe.mpr (List.mem_flatMap.mpr ⟨serverrpc, hmem, haddr⟩)

/-! ## Methods that are NULL

Of the list, only the methods matter for the `NULL`s that the calls of a callback compare. -/

/-- What a call makes of the methods of the list. -/
def RpcCall.methodsAfter (methods : List (Option String)) : RpcCall κ → List (Option String)
  | .subscribe true true allocatesMethod (some method) (some _) =>
    methods ++ [if allocatesMethod then some method else none]
  | .unsubscribe true (some method) => methods.erase (some method)
  | _ => methods

/-- A call compares no method that is `NULL`. -/
def RpcCall.comparable (methods : List (Option String)) : RpcCall κ → Bool
  | .unsubscribe true (some method) => ThingsboardMqtt.comparable method methods
  | _ => true

/-- The calls of a callback compare no method that is `NULL`. -/
def callsComparable (methods : List (Option String)) : List (RpcCall κ) → Bool
  | [] => true
  | call :: rest => call.comparable methods && callsComparable (call.methodsAfter methods) rest

theorem map_name_erase {list front back : List (Serverrpc κ)} {serverrpc : Serverrpc κ}
    {method : String} (hsplit : splitFirst (fun serverrpc => serverrpc.name = some method) list
      = some (front, serverrpc, back)) :
    (front ++ back).map (·.name) = (list.map (·.name)).erase (some method) := by
  obtain ⟨hlist, hfits, hfront⟩ := splitFirst_eq_some hsplit
  have hname : serverrpc.name = some method := of_decide_eq_true hfits
  have hnot : some method ∉ front.map (·.name) := by
    intro hmem
    obtain ⟨earlier, hearlier, heq⟩ := List.mem_map.mp hmem
    exact absurd heq (of_decide_eq_false (hfront earlier hearlier))
  rw [hlist, List.map_append, List.map_append, List.map_cons, hname,
    List.erase_append_right _ hnot, List.erase_cons_head]

theorem not_mem_map_name {list : List (Serverrpc κ)} {method : String}
    (hsplit : splitFirst (fun serverrpc => serverrpc.name = some method) list = none) :
    some method ∉ list.map (·.name) := by
  intro hmem
  obtain ⟨serverrpc, hserverrpc, heq⟩ := List.mem_map.mp hmem
  exact absurd heq (of_decide_eq_false (splitFirst_eq_none hsplit serverrpc hserverrpc))

namespace RpcClient

/-- The methods of the entries. -/
def methods (client : RpcClient κ) : List (Option String) := client.serverrpcList.map (·.name)

/-! ## Who owns the buffers -/

/-- The live buffers are those of the entries, each of one, and `others`. -/
def Owns (others : Multiset Nat) (client : RpcClient κ) : Prop :=
  Accounts client.heap (others + listBuffers client.serverrpcList)

theorem owns_rpcInit : (rpcInit κ).Owns 0 := Accounts.empty

theorem Owns.live {others : Multiset Nat} {client : RpcClient κ} (h : client.Owns others) :
    ∀ serverrpc ∈ client.serverrpcList, Live client.heap serverrpc := by
  intro serverrpc hmem addr haddr
  exact h.access_of_mem (Multiset.mem_add.mpr (.inr (mem_listBuffers hmem haddr)))

theorem Owns.search {others : Multiset Nat} {client : RpcClient κ} (h : client.Owns others)
    (method : String) : searchServerrpc client.heap (some method) client.serverrpcList
      = if comparable method client.methods then
          .ok (splitFirst (fun serverrpc => serverrpc.name = some method) client.serverrpcList)
        else .error .nullString :=
  searchServerrpc_eq h.live method

/-- What a piece of code has done: the buffers are owned, with `others` besides the list, and these
    callbacks and publications have come behind the ones before. -/
structure Effect (others : Multiset Nat) (client client' : RpcClient κ)
    (called : List (κ × RpcRequest)) (published : List Publication) : Prop where
  owns : client'.Owns others
  hasMqttHandle : client'.hasMqttHandle = client.hasMqttHandle
  called : client'.called = client.called ++ called
  published : client'.published = client.published ++ published

namespace Effect

variable {others : Multiset Nat} {client client₁ client₂ : RpcClient κ}
  {called called' : List (κ × RpcRequest)} {published published' : List Publication}

theorem refl (h : client.Owns others) : Effect others client client [] [] :=
  ⟨h, rfl, (List.append_nil _).symm, (List.append_nil _).symm⟩

theorem trans (h : Effect others client client₁ called published)
    (h' : Effect others client₁ client₂ called' published') :
    Effect others client client₂ (called ++ called') (published ++ published') where
  owns := h'.owns
  hasMqttHandle := h'.hasMqttHandle.trans h.hasMqttHandle
  called := by rw [h'.called, h.called, List.append_assoc]
  published := by rw [h'.published, h.published, List.append_assoc]

/-- A call of the client changes the list, the connection and the heap only. -/
theorem of_list {core : Core} {list : List (Serverrpc κ)} {heap : Heap}
    (h : Accounts heap (others + listBuffers list)) :
    Effect others client
      { client with core := core, serverrpcList := list, heap := heap } [] [] where
  owns := h
  hasMqttHandle := rfl
  called := (List.append_nil _).symm
  published := (List.append_nil _).symm

end Effect

section Calls

variable {others : Multiset Nat} {client : RpcClient κ} (h : client.Owns others)

include h

theorem subscribe_effect (lockTaken allocated allocatesMethod : Bool) (method : Option String)
    (onRequest : Option κ) : Effect others client
        (client.tbcmhServerrpcSubscribe lockTaken allocated allocatesMethod method onRequest).2 [] [] ∧
      (client.tbcmhServerrpcSubscribe lockTaken allocated allocatesMethod method onRequest).2.methods
        = (RpcCall.subscribe lockTaken allocated allocatesMethod method onRequest).methodsAfter
            client.methods := by
  unfold tbcmhServerrpcSubscribe
  split
  · rename_i method onRequest
    cases allocated with
    | false => exact ⟨.refl h, rfl⟩
    | true =>
      obtain ⟨serverrpc, heap, hcreate, hname, -, haccounts⟩ :=
        serverrpcCreate_true h allocatesMethod method onRequest
      rw [hcreate]
      refine ⟨.of_list ?_, ?_⟩
      · rw [listBuffers_concat, add_left_comm]
        exact haccounts
      · simp [methods, RpcCall.methodsAfter, hname]
  · rename_i hnone
    refine ⟨.refl h, ?_⟩
    unfold RpcCall.methodsAfter
    split
    · rename_i heq
      simp only [RpcCall.subscribe.injEq] at heq
      obtain ⟨rfl, -, -, rfl, rfl⟩ := heq
      exact absurd rfl (hnone _ _ rfl rfl)
    · contradiction
    · rfl

theorem unsubscribe_cases (lockTaken : Bool) (method : Option String) :
    ((RpcCall.unsubscribe (κ := κ) lockTaken method).comparable client.methods = true ∧
        ∃ accepted client', client.tbcmhServerrpcUnsubscribe lockTaken method
            = .ok (accepted, client') ∧ Effect others client client' [] [] ∧
          client'.methods = (RpcCall.unsubscribe (κ := κ) lockTaken method).methodsAfter
            client.methods) ∨
      ((RpcCall.unsubscribe (κ := κ) lockTaken method).comparable client.methods = false ∧
        client.tbcmhServerrpcUnsubscribe lockTaken method = .error .nullString) := by
  unfold tbcmhServerrpcUnsubscribe
  split
  · rename_i method
    rw [h.search, RpcCall.comparable, RpcCall.methodsAfter]
    by_cases hcomparable : comparable method client.methods = true
    · rw [if_pos hcomparable]
      refine .inl ⟨hcomparable, ?_⟩
      cases hsplit : splitFirst (fun serverrpc => serverrpc.name = some method)
          client.serverrpcList with
      | none => exact ⟨false, client, rfl, .refl h, (List.erase_of_not_mem
          (not_mem_map_name hsplit)).symm⟩
      | some parts =>
        obtain ⟨front, serverrpc, back⟩ := parts
        have haccounts := h
        rw [Owns, (splitFirst_eq_some hsplit).1, listBuffers_append_cons, add_left_comm]
          at haccounts
        obtain ⟨heap, hdestroy, hrest⟩ := serverrpcDestroy_owned haccounts
        simp only [Bind.bind, Except.bind, hdestroy]
        exact ⟨true, _, rfl, .of_list hrest, map_name_erase hsplit⟩
    · rw [if_neg hcomparable]
      exact .inr ⟨Bool.eq_false_of_not_eq_true hcomparable, rfl⟩
  · rename_i hnone
    refine .inl ⟨?_, false, client, rfl, .refl h, ?_⟩
    · unfold RpcCall.comparable
      split
      · rename_i heq
        obtain ⟨rfl, rfl⟩ := RpcCall.unsubscribe.inj heq
        exact absurd rfl (hnone _ rfl)
      · rfl
    · unfold RpcCall.methodsAfter
      split
      · contradiction
      · rename_i heq
        obtain ⟨rfl, rfl⟩ := RpcCall.unsubscribe.inj heq
        exact absurd rfl (hnone _ rfl)
      · rfl

/-- A call goes through, and does to the methods what it says, unless it compares a `NULL`. -/
theorem call_cases (call : RpcCall κ) :
    (call.comparable client.methods = true ∧ ∃ accepted client',
        client.call call = .ok (accepted, client') ∧ Effect others client client' [] [] ∧
          client'.methods = call.methodsAfter client.methods) ∨
      (call.comparable client.methods = false ∧ client.call call = .error .nullString) := by
  cases call with
  | subscribe lockTaken allocated allocatesMethod method onRequest =>
    obtain ⟨heffect, hmethods⟩ :=
      subscribe_effect h lockTaken allocated allocatesMethod method onRequest
    exact .inl ⟨rfl, _, _, rfl, heffect, hmethods⟩
  | unsubscribe lockTaken method => exact unsubscribe_cases h lockTaken method

/-- Whatever a callback calls, nothing is called or published, and the buffers of others stay live. -/
theorem runCalls_cases (calls : List (RpcCall κ)) :
    (callsComparable client.methods calls = true ∧ ∃ client',
        client.runCalls calls = .ok client' ∧ Effect others client client' [] []) ∨
      (callsComparable client.methods calls = false ∧
        client.runCalls calls = .error .nullString) := by
  induction calls generalizing client with
  | nil => exact .inl ⟨rfl, client, rfl, .refl h⟩
  | cons call rest ih =>
    rw [callsComparable, runCalls]
    rcases call_cases h call with ⟨hcomparable, accepted, client₁, hcall, heffect, hmethods⟩ |
      ⟨hnull, hcall⟩
    · rw [hcomparable, hcall, ← hmethods, Bool.true_and]
      rcases ih heffect.owns with ⟨hrest, client₂, hrun, heffect'⟩ | ⟨hrest, hrun⟩
      · exact .inl ⟨hrest, client₂, hrun, heffect.trans heffect'⟩
      · exact .inr ⟨hrest, hrun⟩
    · rw [hnull, hcall]
      exact .inr ⟨rfl, rfl⟩

end Calls

/-! ## What a request comes to -/

theorem length_clientrpcResponse_le (requestId : UInt32) :
    (PrintedTopic.clientrpcResponse requestId).print.length ≤ 45 := by
  have hdigits := length_printU_le requestId
  have hliteral : TbcmRxTopic.clientrpcResponse.literal.length = 27 := by decide +kernel
  rw [print_clientrpcResponse, List.length_append, hliteral]
  omega

/-- The topic of a reply fits in its buffer. -/
theorem responseTopic_eq (requestId : UInt32) :
    responseTopic requestId = s!"v1/devices/me/rpc/response/{requestId.toNat}" := by
  have hsize : responseTopicSize = 47 := by decide +kernel
  have hshort : s!"v1/devices/me/rpc/response/{requestId.toNat}".toList.length ≤ 47 - 1 - 1 :=
    length_clientrpcResponse_le requestId
  rw [responseTopic, snprintf, hsize, List.take_of_length_le hshort, String.ofList_toList]

/-- The publication of the text of a value. -/
def reply (requestId : UInt32) (response : Option String) : Publication where
  topic := s!"v1/devices/me/rpc/response/{requestId.toNat}"
  payload := response
  qos := 1
  retain := false

/-- What is published for a result, if it can be, printed or not. -/
def replies (json : RpcJson ρ) (answers : RpcAnswers κ ρ) (canReply : Bool) (requestId : UInt32)
    (result : Option ρ) : List Publication :=
  if canReply then (result.map (reply requestId ∘ printResult json answers)).toList else []

/-- The value is published without a text. -/
def Unprinted (json : RpcJson ρ) (answers : RpcAnswers κ ρ) (canReply : Bool) (result : Option ρ) :
    Prop :=
  canReply = true ∧ ∃ value, result = some value ∧ printResult json answers value = none

theorem sendReply_cases {others : Multiset Nat} {client : RpcClient κ} (h : client.Owns others)
    (json : RpcJson ρ) (answers : RpcAnswers κ ρ) (requestId : UInt32) (result : Option ρ) :
    (∃ client', client.sendReply json answers requestId result = .ok client' ∧
        Effect others client client' [] (replies json answers
          (client.hasMqttHandle && answers.allocatesTopic) requestId result)) ∨
      (client.sendReply json answers requestId result = .error .nullString ∧
        Unprinted json answers (client.hasMqttHandle && answers.allocatesTopic) result) := by
  have hnone : ∀ canReply, replies json answers canReply requestId none = [] := by
    intro canReply
    cases canReply <;> rfl
  cases result with
  | none =>
    rw [hnone]
    exact .inl ⟨client, rfl, .refl h⟩
  | some result =>
    unfold sendReply tbcmServerrpcResponse
    dsimp only
    split
    · rename_i hhandle
      rw [Bool.not_eq_true'] at hhandle
      have hcannot : (client.hasMqttHandle && answers.allocatesTopic) = false := by
        rw [hhandle, Bool.false_and]
      rw [hcannot]
      exact .inl ⟨client, rfl, .refl h⟩
    · rename_i hhandle
      rw [Bool.not_eq_true', Bool.not_eq_false] at hhandle
      have hcan : (client.hasMqttHandle && answers.allocatesTopic) = answers.allocatesTopic := by
        rw [hhandle, Bool.true_and]
      rw [hcan]
      cases answers.allocatesTopic with
      | false => exact .inl ⟨client, rfl, .refl h⟩
      | true =>
        obtain ⟨addr, heap, hmalloc, haccounts⟩ := Accounts.malloc h
        obtain ⟨heap', hfree, hrest⟩ := haccounts.free
        simp only [hmalloc, hfree]
        split
        · rename_i hlog
          rw [Bool.and_eq_true, Option.isNone_iff_eq_none] at hlog
          exact .inr ⟨rfl, rfl, result, rfl, hlog.2⟩
        · refine .inl ⟨_, rfl, hrest, rfl, (List.append_nil _).symm, ?_⟩
          rw [responseTopic_eq]
          rfl

theorem sendReply_keeps {json : RpcJson ρ} {answers : RpcAnswers κ ρ} {requestId : UInt32}
    {result : Option ρ} {client client' : RpcClient κ}
    (hok : client.sendReply json answers requestId result = .ok client') :
    client'.core = client.core ∧ client'.serverrpcList = client.serverrpcList := by
  unfold sendReply tbcmServerrpcResponse at hok
  split at hok
  · obtain rfl := Except.ok.inj hok
    exact ⟨rfl, rfl⟩
  split at hok
  · obtain rfl := Except.ok.inj hok
    exact ⟨rfl, rfl⟩
  split at hok
  · obtain rfl := Except.ok.inj hok
    exact ⟨rfl, rfl⟩
  simp only [Bind.bind, Except.bind] at hok
  split at hok
  · contradiction
  split at hok
  · contradiction
  obtain rfl := Except.ok.inj hok
  exact ⟨rfl, rfl⟩

/-- The callback is called once, its value is published, and the clone is gone behind it. -/
theorem answerRequest_cases {cache : Serverrpc κ} {client : RpcClient κ}
    (h : client.Owns ↑cache.buffers) (json : RpcJson ρ) (answers : RpcAnswers κ ρ)
    (requestId : UInt32) (params : Option Cjson) {reaction : RpcReaction κ ρ}
    (hreaction : answers.onRequest cache.onRequest ⟨requestId, cache.name, params⟩ = reaction) :
    (∃ client', client.answerRequest json answers cache requestId params = .ok client' ∧
        Effect 0 client client' [(cache.onRequest, ⟨requestId, cache.name, params⟩)]
          (replies json answers (client.hasMqttHandle && answers.allocatesTopic) requestId
            reaction.result)) ∨
      (client.answerRequest json answers cache requestId params = .error .nullString ∧
        (callsComparable client.methods reaction.calls = false ∨ Unprinted json answers
          (client.hasMqttHandle && answers.allocatesTopic) reaction.result)) := by
  have hcalled : Effect ↑cache.buffers client
      (client.logCall cache.onRequest ⟨requestId, cache.name, params⟩)
      [(cache.onRequest, ⟨requestId, cache.name, params⟩)] [] :=
    ⟨h, rfl, rfl, (List.append_nil _).symm⟩
  have haddr : client.heap.access cache.addr = .ok () := Accounts.access_of_mem h (by simp)
  rcases runCalls_cases hcalled.owns reaction.calls with ⟨-, client₁, hcalls, heffect₁⟩ |
    ⟨hnull, hcalls⟩
  · -- the method of the clone outlives the calls
    have hdone : client.doRequest answers cache requestId params
        = .ok (reaction.result, client₁) := by
      simp only [doRequest, haddr, hreaction, hcalls, Except.mapError, Bind.bind, Except.bind]
      cases hmethod : cache.method with
      | none => rfl
      | some copy =>
        have haccess : client₁.heap.access copy.1 = .ok () := Accounts.access_of_mem heffect₁.owns
          (by simp [Serverrpc.mem_buffers_of_method hmethod])
        simp only [haccess]
    have hhandle := (hcalled.trans heffect₁).hasMqttHandle
    rcases sendReply_cases heffect₁.owns json answers requestId reaction.result with
      ⟨client₂, hsend, heffect₂⟩ | ⟨hsend, hunprinted⟩
    · obtain ⟨heap, hdestroy, hrest⟩ := serverrpcDestroy_owned heffect₂.owns
      have heffect := (hcalled.trans heffect₁).trans heffect₂
      refine .inl ⟨{ client₂ with heap := heap }, ?_, ?_, heffect.hasMqttHandle, heffect.called, ?_⟩
      · simp only [answerRequest, hdone, hsend, hdestroy, Bind.bind, Except.bind]
      · rw [Owns, Multiset.zero_add]
        exact hrest
      · rw [heffect.published, hhandle]
        rfl
    · rw [hhandle] at hunprinted
      refine .inr ⟨?_, .inr hunprinted⟩
      simp only [answerRequest, hdone, hsend, Bind.bind, Except.bind]
  · refine .inr ⟨?_, .inl hnull⟩
    simp only [answerRequest, doRequest, haddr, hreaction, hcalls, Except.mapError, Bind.bind,
      Except.bind]

/-- The callback that answers a method: that of the first entry. -/
def firstHandler (method : String) (client : RpcClient κ) : Option κ :=
  (client.serverrpcList.find? fun serverrpc => serverrpc.name = some method).map (·.onRequest)

theorem requestMethod_eq (object : Cjson) :
    requestMethod object = Cjson.getStringValue (object.getObjectItem "method") := by
  unfold requestMethod Cjson.hasObjectItem
  cases object.getObjectItem "method" <;> rfl

/-- A live entry with a method is cloned like a new entry is created. -/
theorem cloneWoListentry_eq {others : Multiset Nat} {client : RpcClient κ} (h : client.Owns others)
    {src : Serverrpc κ} (hmem : src ∈ client.serverrpcList) {method : String}
    (hname : src.name = some method) (allocated allocatesMethod : Bool) :
    serverrpcCloneWoListentry allocated allocatesMethod src client.heap
      = .ok (serverrpcCreate allocated allocatesMethod method src.onRequest client.heap) := by
  cases allocated with
  | false => rfl
  | true =>
    obtain ⟨addr, heap, hmalloc, haccounts⟩ := Accounts.malloc h
    have hlive : Live heap src := by
      intro addr' haddr'
      refine haccounts.access_of_mem (Multiset.mem_cons_of_mem (Multiset.mem_add.mpr (.inr ?_)))
      exact mem_listBuffers hmem haddr'
    have haddr := hlive src.addr src.addr_mem_buffers
    simp only [serverrpcCloneWoListentry, serverrpcCreate, hmalloc, haddr, readMethod_eq hlive,
      hname, Except.mapError, Bind.bind, Except.bind]

/-- What a callback is called with. -/
def handedRequest (answers : RpcAnswers κ ρ) (requestId : UInt32) (method : String)
    (params : Option Cjson) : RpcRequest :=
  ⟨requestId, if answers.allocatesMethod then some method else none, params⟩

theorem cloneWoListentry_owned {client : RpcClient κ} (h : client.Owns 0) {src : Serverrpc κ}
    (hmem : src ∈ client.serverrpcList) {method : String} (hname : src.name = some method)
    (answers : RpcAnswers κ ρ) (requestId : UInt32) (params : Option Cjson) :
    ∃ cache heap, serverrpcCloneWoListentry true answers.allocatesMethod src client.heap
        = .ok (some cache, heap) ∧
      ⟨requestId, cache.name, params⟩ = handedRequest answers requestId method params ∧
      cache.onRequest = src.onRequest ∧
      ({ client with heap := heap } : RpcClient κ).Owns ↑cache.buffers := by
  have haccounts := h
  rw [Owns, Multiset.zero_add] at haccounts
  obtain ⟨cache, heap, hcreate, hcache, honRequest, howned⟩ :=
    serverrpcCreate_true haccounts answers.allocatesMethod method src.onRequest
  refine ⟨cache, heap, ?_, ?_, honRequest, howned⟩
  · rw [cloneWoListentry_eq h hmem hname, hcreate]
  · rw [hcache, handedRequest]

/-- No `NULL` comes up: the entries that are compared with the method have one, and so have those that
    the callback's own calls are compared with; and the value that is published can be printed. -/
structure NoNull (json : RpcJson ρ) (answers : RpcAnswers κ ρ) (requestId : UInt32) (method : String)
    (params : Option Cjson) (client : RpcClient κ) : Prop where
  search : comparable method client.methods = true
  calls : answers.allocatesCache = true → ∀ onRequest, client.firstHandler method = some onRequest →
    callsComparable client.methods
      (answers.onRequest onRequest (handedRequest answers requestId method params)).calls = true
  value : answers.allocatesCache = true → ∀ onRequest, client.firstHandler method = some onRequest →
    ¬ Unprinted json answers (client.hasMqttHandle && answers.allocatesTopic)
      (answers.onRequest onRequest (handedRequest answers requestId method params)).result

/-- A request with a method is answered by the first entry of the method, as far as there is memory and
    an MQTT client, unless a `NULL` comes up. -/
theorem serverrpcOnData_cases {client : RpcClient κ} (h : client.Owns 0) (json : RpcJson ρ)
    (answers : RpcAnswers κ ρ) (requestId : UInt32) {object : Cjson} {method : String}
    (hmethod : requestMethod object = some method) {request : RpcRequest}
    (hrequest : handedRequest answers requestId method (object.getObjectItem "params") = request) :
    (∃ client', client.tbcmhServerrpcOnData json answers requestId (some object) = .ok client' ∧
        Effect 0 client client'
          (if answers.allocatesCache then (client.firstHandler method).toList.map (·, request)
            else [])
          (replies json answers
            (answers.allocatesCache && (client.hasMqttHandle && answers.allocatesTopic)) requestId
            ((client.firstHandler method).bind fun onRequest =>
              (answers.onRequest onRequest request).result))) ∨
      (client.tbcmhServerrpcOnData json answers requestId (some object) = .error .nullString ∧
        ¬ NoNull json answers requestId method (object.getObjectItem "params") client) := by
  have hfind := splitFirst_map_eq_find? (fun serverrpc : Serverrpc κ => serverrpc.name = some method)
    client.serverrpcList
  rw [tbcmhServerrpcOnData, hmethod, h.search]
  by_cases hcomparable : comparable method client.methods = true
  swap
  · rw [if_neg hcomparable]
    exact .inr ⟨rfl, fun hno => hcomparable hno.search⟩
  rw [if_pos hcomparable]
  cases hsplit : splitFirst (fun serverrpc => serverrpc.name = some method)
      client.serverrpcList with
  | none =>
    have hhandler : client.firstHandler method = none := by
      rw [firstHandler, ← hfind, hsplit]
      rfl
    rw [hhandler]
    refine .inl ⟨client, rfl, ?_⟩
    simpa [replies] using Effect.refl h
  | some parts =>
    obtain ⟨front, serverrpc, back⟩ := parts
    obtain ⟨hlist, hfits, -⟩ := splitFirst_eq_some hsplit
    have hmem : serverrpc ∈ client.serverrpcList := by simp [hlist]
    have hname : serverrpc.name = some method := of_decide_eq_true hfits
    have hhandler : client.firstHandler method = some serverrpc.onRequest := by
      rw [firstHandler, ← hfind, hsplit]
      rfl
    rw [hhandler]
    cases hcache : answers.allocatesCache with
    | false =>
      refine .inl ⟨client, ?_, ?_⟩
      · simp only [cloneWoListentry_eq h hmem hname, serverrpcCreate_false, Bind.bind, Except.bind]
      · simpa [replies] using Effect.refl h
    | true =>
      obtain ⟨cache, heap, hclone, hhanded, honRequest, howned⟩ :=
        cloneWoListentry_owned h hmem hname answers requestId (object.getObjectItem "params")
      rw [hrequest] at hhanded
      have hanswer := answerRequest_cases howned json answers requestId
        (object.getObjectItem "params") rfl
      rw [hhanded, honRequest] at hanswer
      simp only [hclone, Bind.bind, Except.bind]
      rcases hanswer with ⟨client', hok, heffect⟩ | ⟨hnull, hwhy⟩
      · refine .inl ⟨client', hok, heffect.owns, heffect.hasMqttHandle, heffect.called, ?_⟩
        rw [heffect.published]
        rfl
      · refine .inr ⟨hnull, ?_⟩
        intro hno
        rcases hwhy with hcalls | hunprinted
        · have hall := hno.calls hcache serverrpc.onRequest hhandler
          rw [hrequest] at hall
          exact absurd (hall.symm.trans hcalls) (by simp)
        · have hprinted := hno.value hcache serverrpc.onRequest hhandler
          rw [hrequest] at hprinted
          exact hprinted hunprinted

/-- A request without a method is looked at only if the list is not empty. -/
theorem serverrpcOnData_null {client : RpcClient κ} (json : RpcJson ρ)
    (answers : RpcAnswers κ ρ) (requestId : UInt32) {object : Cjson}
    (hmethod : requestMethod object = none) (hne : client.serverrpcList ≠ []) :
    ∃ fault, client.tbcmhServerrpcOnData json answers requestId (some object) = .error fault := by
  obtain ⟨fault, hsearch⟩ := searchServerrpc_null client.heap hne
  refine ⟨fault, ?_⟩
  rw [tbcmhServerrpcOnData, hmethod, hsearch]
  rfl

theorem serverrpcOnData_nil {client : RpcClient κ} (json : RpcJson ρ)
    (answers : RpcAnswers κ ρ) (requestId : UInt32) (object : Option Cjson)
    (hnil : client.serverrpcList = []) :
    client.tbcmhServerrpcOnData json answers requestId object = .ok client := by
  cases object with
  | none => rfl
  | some object =>
    rw [tbcmhServerrpcOnData, hnil]
    rfl

/-! ## Runs -/

theorem rpcStep_owns {json : RpcJson ρ} {client client' : RpcClient κ} {input : RpcInput κ ρ}
    (h : client.Owns 0) (hstep : rpcStep json client input = .ok client') : client'.Owns 0 := by
  cases input with
  | call call =>
    rw [rpcStep] at hstep
    rcases call_cases h call with ⟨-, accepted, client₁, hcall, heffect, -⟩ | ⟨-, hcall⟩
    · rw [hcall] at hstep
      obtain rfl := Except.ok.inj hstep
      exact heffect.owns
    · rw [hcall] at hstep
      contradiction
  | data answers requestId payload =>
    rw [rpcStep] at hstep
    unfold onTbcmDataHandle at hstep
    dsimp only at hstep
    cases hobject : json.parseWithLength (payload.take payload.length) with
    | none =>
      rw [hobject] at hstep
      obtain rfl := Except.ok.inj hstep
      exact h
    | some object =>
      rw [hobject] at hstep
      cases hmethod : requestMethod object with
      | some method =>
        rcases serverrpcOnData_cases h json answers requestId hmethod rfl with
          ⟨client₁, hdata, heffect⟩ | ⟨hdata, -⟩
        · rw [hdata] at hstep
          obtain rfl := Except.ok.inj hstep
          exact heffect.owns
        · rw [hdata] at hstep
          contradiction
      | none =>
        by_cases hnil : client.serverrpcList = []
        · rw [serverrpcOnData_nil json answers requestId _ hnil] at hstep
          obtain rfl := Except.ok.inj hstep
          exact h
        · obtain ⟨fault, hdata⟩ := serverrpcOnData_null json answers requestId hmethod hnil
          rw [hdata] at hstep
          contradiction
  | link core hasMqttHandle logRxtxPackage =>
    obtain rfl := Except.ok.inj hstep
    exact h

/-- Between the steps of a run, the live buffers are those of the entries. -/
theorem owns_of_run {json : RpcJson ρ} {inputs : List (RpcInput κ ρ)} {client : RpcClient κ}
    (run : Run (Succeeds (rpcStep json)) (rpcInit κ) inputs client) : client.Owns 0 :=
  run.invariant owns_rpcInit fun _ _ _ howns hstep => rpcStep_owns howns hstep

end RpcClient

end ThingsboardMqtt
