import ThingsboardMqtt.Helper.ServerRpc

set_option autoImplicit false

/-! # Answers to server-side RPC

A request whose payload has a method is answered by the first callback that is registered for it, under
the id of its topic. What is left to chance is the memory for the clone and for the topic of the reply,
and whether there still is an MQTT client to publish it: `tbcmh_disconnect` handles what is left in the
queue when it has destroyed that client. And an entry whose method could not be copied is compared as
`NULL`, and a value that cannot be printed is published as `NULL` (`answered_of_run`).

A request whose payload has no method is compared as `NULL` with the methods of the list, unless there
are none, or unless there is no JSON value at all (`ignored_iff`). -/

namespace ThingsboardMqtt

open CHeap CString Execution ListWalk LiveBuffers RpcClient

variable {κ ρ : Type}

/-! ## Every list -/

/-- A list of methods is registered by subscribing them, however often each of them is in it. -/
theorem exists_run_registers (json : RpcJson ρ) (registered : List (String × κ)) :
    ∃ inputs client, Run (Succeeds (rpcStep json)) (rpcInit κ) inputs client ∧
      client.serverrpcList.map (fun serverrpc => (serverrpc.name, serverrpc.onRequest))
        = registered.map fun (method, onRequest) => (some method, onRequest) := by
  induction registered using List.reverseRecOn with
  | nil => exact ⟨[], rpcInit κ, .nil, rfl⟩
  | append_singleton front last ih =>
    obtain ⟨inputs, client, run, hlist⟩ := ih
    have hsubscribed : Succeeds (rpcStep json) client
        (.call (.subscribe true true true (some last.1) (some last.2)))
        (client.tbcmhServerrpcSubscribe true true true (some last.1) (some last.2)).2 := rfl
    refine ⟨_, _, run.snoc hsubscribed, ?_⟩
    rw [List.map_append, ← hlist]
    exact List.map_append

/-! ## Requests with a method -/

/-- What the callback of a request returns, if there is one. -/
def rpcResult (answers : RpcAnswers κ ρ) (method : String) (request : RpcRequest)
    (client : RpcClient κ) : Option ρ :=
  (client.firstHandler method).bind fun onRequest => (answers.onRequest onRequest request).result

/-- A request for `method` is handled without a fault. If the method is registered, its first callback
    is called once, provided that it can be (`canCall`), and the value it returns is printed and
    published once, provided that it can be (`canReply`). Nothing else is called or published. -/
def RpcAnswered (canCall canReply : Bool) (json : RpcJson ρ) (answers : RpcAnswers κ ρ)
    (method : String) (request : RpcRequest) (client : RpcClient κ)
    (result : Except RpcFault (RpcClient κ)) : Prop :=
  ∃ client', result = .ok client' ∧
    client'.called = client.called ++ (if canCall then
      (client.firstHandler method).toList.map (·, request) else []) ∧
    client'.published = client.published ++ replies json answers (canCall && canReply)
      request.requestId (rpcResult answers method request client) ∧
    ¬ Unprinted json answers (canCall && canReply) (rpcResult answers method request client)

/-- The same without provisos. -/
def RpcAnsweredOnce (json : RpcJson ρ) (answers : RpcAnswers κ ρ) (method : String)
    (request : RpcRequest) (client : RpcClient κ) (result : Except RpcFault (RpcClient κ)) : Prop :=
  RpcAnswered true true json answers method request client result

/-- The message of a request: its topic with whatever stands behind it in memory, and its payload. -/
def onRpcRequest (json : RpcJson ρ) (answers : RpcAnswers κ ρ) (requestId : UInt32)
    (following : Memory) (payload : Block) (client : RpcClient κ) :
    Except RpcFault (RpcClient κ) :=
  client.onMessage json answers ((PrintedTopic.serverrpcRequest requestId).print ++ following)
    (PrintedTopic.serverrpcRequest requestId).print.length payload

theorem handleEvents_singleton (json : RpcJson ρ) (answers : RpcAnswers κ ρ) (client : RpcClient κ)
    (event : TbcmRxData) : client.handleEvents json answers [event]
      = client.onTbcmDataHandle json answers event := by
  rw [handleEvents]
  cases client.onTbcmDataHandle json answers event <;> rfl

/-- The topic is read, and the payload is parsed and handled. -/
theorem onRpcRequest_eq (json : RpcJson ρ) (answers : RpcAnswers κ ρ) (requestId : UInt32)
    (following : Memory) (payload : Block) (client : RpcClient κ) :
    onRpcRequest json answers requestId following payload client
      = client.tbcmhServerrpcOnData json answers requestId (json.parseWithLength payload) := by
  have hevents : onMqttDataHandle (some ((PrintedTopic.serverrpcRequest requestId).print ++ following))
      (PrintedTopic.serverrpcRequest requestId).print.length (some payload) payload.length
        = .ok [⟨.serverrpcRequest, requestId, 0, payload, payload.length⟩] := by
    simp only [onMqttDataHandle, firstTopic_printed, topicIds_printed, Bind.bind, Except.bind]
    rfl
  rw [onRpcRequest, onMessage, hevents]
  refine (handleEvents_singleton json answers client _).trans ?_
  rw [RpcClient.onTbcmDataHandle, List.take_length]

theorem not_answeredOnce {json : RpcJson ρ} {client : RpcClient κ} (h : client.Owns 0)
    {answers : RpcAnswers κ ρ} {requestId : UInt32} (following : Memory) {payload : Block}
    {object : Cjson} {method : String} (hobject : json.parseWithLength payload = some object)
    (hmethod : requestMethod object = some method) {request : RpcRequest}
    (hrequest : handedRequest answers requestId method (object.getObjectItem "params") = request)
    {result : ρ} (hresult : rpcResult answers method request client = some result)
    (hcannot : (answers.allocatesCache && (client.hasMqttHandle && answers.allocatesTopic)) = false) :
    ¬ RpcAnsweredOnce json answers method request client
      (onRpcRequest json answers requestId following payload client) := by
  rintro ⟨client₁, hok, -, hpublished, -⟩
  rw [onRpcRequest_eq, hobject] at hok
  rcases serverrpcOnData_cases h json answers requestId hmethod hrequest with
    ⟨client', hdata, heffect⟩ | ⟨hdata, -⟩
  · rw [hdata] at hok
    obtain rfl := Except.ok.inj hok
    have hreplies := List.append_cancel_left (heffect.published.symm.trans hpublished)
    rw [hcannot, hresult] at hreplies
    contradiction
  · rw [hdata] at hok
    contradiction

/-- In every state that a run reaches, a request with a method is answered by the first callback of that
    method, with its id and its params, whatever the callback subscribes and unsubscribes; provided that
    the clone and the topic can be allocated, that there is an MQTT client, and that no `NULL` comes
    up. -/
theorem answered_of_run {json : RpcJson ρ} {inputs : List (RpcInput κ ρ)} {client : RpcClient κ}
    (run : Run (Succeeds (rpcStep json)) (rpcInit κ) inputs client) (answers : RpcAnswers κ ρ)
    (requestId : UInt32) (following : Memory) {payload : Block} {object : Cjson} {method : String}
    (hobject : json.parseWithLength payload = some object)
    (hmethod : Cjson.getStringValue (object.getObjectItem "method") = some method)
    (hno : NoNull json answers requestId method (object.getObjectItem "params") client) :
    RpcAnswered answers.allocatesCache (client.hasMqttHandle && answers.allocatesTopic) json answers
      method (handedRequest answers requestId method (object.getObjectItem "params")) client
      (onRpcRequest json answers requestId following payload client) := by
  rw [← requestMethod_eq] at hmethod
  rw [onRpcRequest_eq, hobject]
  rcases serverrpcOnData_cases (owns_of_run run) json answers requestId hmethod rfl with
    ⟨client', hdata, heffect⟩ | ⟨-, hnull⟩
  · refine ⟨client', hdata, heffect.called, heffect.published, ?_⟩
    rintro ⟨hcan, value, hvalue, hprinted⟩
    rw [Bool.and_eq_true] at hcan
    obtain ⟨onRequest, hhandler, hresult⟩ := Option.bind_eq_some_iff.mp hvalue
    exact hno.value hcan.1 onRequest hhandler ⟨hcan.2, value, hresult, hprinted⟩
  · exact absurd hno hnull

/-- The bytes of a payload. -/
def payloadOf (text : String) : Block := text.toList.map fun c => some (UInt8.ofNat c.toNat)

def gpioPayload : Block := payloadOf r#"{"method":"setGpio","params":1}"#

def emptyPayload : Block := payloadOf "{}"

def gpioObject : Cjson := .object [("method", .string "setGpio"), ("params", .number 1)]

/-- A JSON library that reads these two. -/
def gpioJson : RpcJson Bool where
  parseWithLength payload :=
    if payload = gpioPayload then some gpioObject
    else if payload = emptyPayload then some (.object [])
    else none
  printUnformatted value := some (if value then "true" else "false")

theorem parse_gpioPayload : gpioJson.parseWithLength gpioPayload = some gpioObject := by
  simp [gpioJson]

def gpioRequest : RpcRequest := ⟨7, some "setGpio", some (.number 1)⟩

/-- The callback removes its own method and subscribes another. -/
def gpioAnswers (allocatesCache allocatesResponse allocatesTopic : Bool) : RpcAnswers Nat Bool where
  allocatesCache := allocatesCache
  allocatesMethod := true
  allocatesResponse := allocatesResponse
  allocatesTopic := allocatesTopic
  onRequest _ _ := ⟨[.unsubscribe true (some "setGpio"),
    .subscribe true true true (some "getGpio") (some 2)], some true⟩

/-- A method is registered twice; the client connects, or it is disconnected. -/
def gpioInputs (connected : Bool) : List (RpcInput Nat Bool) :=
  [.call (.subscribe true true true (some "setGpio") (some 0)),
    .call (.subscribe true true true (some "setGpio") (some 1)),
    .link ⟨if connected then .connected else .disconnected, 0, 0, []⟩ connected false]

def gpioClient (connected : Bool) : RpcClient Nat :=
  (gpioInputs connected).foldl (advance (rpcStep gpioJson)) (rpcInit Nat)

theorem run_gpioInputs (connected : Bool) :
    Run (Succeeds (rpcStep gpioJson)) (rpcInit Nat) (gpioInputs connected) (gpioClient connected) :=
  run_of_succeeds (by cases connected <;> decide +kernel)

theorem answered_of_run_gpioRequest :
    RpcAnsweredOnce gpioJson (gpioAnswers true true true) "setGpio" gpioRequest (gpioClient true)
      (onRpcRequest gpioJson (gpioAnswers true true true) 7 [] gpioPayload (gpioClient true)) := by
  have hcalls : callsComparable (gpioClient true).methods [.unsubscribe true (some "setGpio"),
      .subscribe true true true (some "getGpio") (some 2)] = true := by
    decide +kernel
  refine answered_of_run (run_gpioInputs true) (gpioAnswers true true true) 7 [] parse_gpioPayload
    (by decide +kernel) ⟨by decide +kernel, ?_, ?_⟩
  · exact fun _ _ _ => hcalls
  · rintro - onRequest - ⟨-, value, -, hunprinted⟩
    exact absurd hunprinted (by simp [printResult, gpioAnswers, gpioJson])

/-- There is no memory for the copy of the first method of the list. -/
def nullMethodInputs : List (RpcInput Nat Bool) :=
  .call (.subscribe true true false (some "getGpio") (some 2)) :: gpioInputs true

def nullMethodClient : RpcClient Nat :=
  nullMethodInputs.foldl (advance (rpcStep gpioJson)) (rpcInit Nat)

/-- The callback is called and its value is not published when the client is disconnected or the topic
    cannot be allocated; it is not called when the clone cannot. Without memory, the value is published
    as an empty message, and a method that is `NULL` is compared. -/
theorem answeredOnce_fails :
    ¬ RpcAnsweredOnce gpioJson (gpioAnswers true true true) "setGpio" gpioRequest (gpioClient false)
        (onRpcRequest gpioJson (gpioAnswers true true true) 7 [] gpioPayload (gpioClient false)) ∧
      ¬ RpcAnsweredOnce gpioJson (gpioAnswers true true false) "setGpio" gpioRequest
        (gpioClient true)
        (onRpcRequest gpioJson (gpioAnswers true true false) 7 [] gpioPayload (gpioClient true)) ∧
      ¬ RpcAnsweredOnce gpioJson (gpioAnswers false true true) "setGpio" gpioRequest
        (gpioClient true)
        (onRpcRequest gpioJson (gpioAnswers false true true) 7 [] gpioPayload (gpioClient true)) ∧
      ¬ RpcAnsweredOnce gpioJson (gpioAnswers true false true) "setGpio" gpioRequest
        (gpioClient true)
        (onRpcRequest gpioJson (gpioAnswers true false true) 7 [] gpioPayload (gpioClient true)) ∧
      ¬ RpcAnsweredOnce gpioJson (gpioAnswers true true true) "setGpio" gpioRequest nullMethodClient
        (onRpcRequest gpioJson (gpioAnswers true true true) 7 [] gpioPayload nullMethodClient) := by
  have howns : ∀ connected, (gpioClient connected).Owns 0 := fun connected =>
    owns_of_run (run_gpioInputs connected)
  have hmethod : requestMethod gpioObject = some "setGpio" := by decide +kernel
  have hresult : ∀ answers connected, answers ∈ [gpioAnswers true true true,
      gpioAnswers true true false, gpioAnswers false true true, gpioAnswers true false true] →
        rpcResult answers "setGpio" gpioRequest (gpioClient connected) = some true := by
    intro answers connected hmem
    have hregistered : (gpioClient connected).firstHandler "setGpio" = some 0 := by
      cases connected <;> decide +kernel
    simp only [List.mem_cons, List.not_mem_nil, or_false] at hmem
    rcases hmem with rfl | rfl | rfl | rfl <;> rw [rpcResult, hregistered] <;> rfl
  refine ⟨?_, ?_, ?_, ?_, ?_⟩
  · exact not_answeredOnce (howns false) [] parse_gpioPayload hmethod rfl
      (hresult _ _ (by simp)) rfl
  · exact not_answeredOnce (howns true) [] parse_gpioPayload hmethod rfl
      (hresult _ _ (by simp)) rfl
  · exact not_answeredOnce (howns true) [] parse_gpioPayload hmethod rfl
      (hresult _ _ (by simp)) rfl
  · rintro ⟨-, -, -, -, hprinted⟩
    exact hprinted ⟨rfl, true, hresult _ _ (by simp), rfl⟩
  · rintro ⟨client', hok, -⟩
    have hfault : nullMethodClient.tbcmhServerrpcOnData gpioJson (gpioAnswers true true true) 7
        (some gpioObject) = .error .nullString := rfl
    rw [onRpcRequest_eq, parse_gpioPayload, hfault] at hok
    contradiction

/-! ## Payloads without a method -/

/-- The `method` member of a payload, if there is a JSON value with such a member that is a string. -/
def stringMethod (object : Option Cjson) : Option String :=
  object.bind fun object => Cjson.getStringValue (object.getObjectItem "method")

/-- An event is handled without a fault, and nothing comes of it. -/
def Ignored (client : RpcClient κ) (result : Except RpcFault (RpcClient κ)) : Prop :=
  ∃ client', result = .ok client' ∧ client'.called = client.called ∧
    client'.published = client.published ∧ client'.serverrpcList = client.serverrpcList

theorem ignored_self (client : RpcClient κ) : Ignored client (.ok client) :=
  ⟨client, rfl, rfl, rfl, rfl⟩

/-- A payload without a string as its method is ignored exactly when it is no JSON value or no method is
    registered. -/
theorem ignored_iff (json : RpcJson ρ) (answers : RpcAnswers κ ρ) (client : RpcClient κ)
    (requestId chunkId : UInt32) (payload : Block) (payloadLen : Nat) :
    (stringMethod (json.parseWithLength (payload.take payloadLen)) = none →
      Ignored client (client.onTbcmDataHandle json answers
        ⟨.serverrpcRequest, requestId, chunkId, payload, payloadLen⟩)) ↔
      stringMethod (json.parseWithLength (payload.take payloadLen)) ≠ none ∨
        json.parseWithLength (payload.take payloadLen) = none ∨ client.serverrpcList = [] := by
  rw [RpcClient.onTbcmDataHandle]
  cases json.parseWithLength (payload.take payloadLen) with
  | none => exact ⟨fun _ => .inr (.inl rfl), fun _ _ => ignored_self client⟩
  | some object =>
    constructor
    · intro hignored
      by_contra hnot
      push Not at hnot
      obtain ⟨hmethod, -, hne⟩ := hnot
      obtain ⟨client', hok, -⟩ := hignored hmethod
      have hnull : requestMethod object = none := (requestMethod_eq object).trans hmethod
      obtain ⟨fault, hdata⟩ := serverrpcOnData_null json answers requestId hnull hne
      rw [hdata] at hok
      contradiction
    · rintro (hmethod | hparse | hnil) hnone
      · exact absurd hnone hmethod
      · contradiction
      · rw [serverrpcOnData_nil json answers requestId _ hnil]
        exact ignored_self client

/-- An object without a method, while one is registered: `strcmp` is called with `NULL`. -/
theorem ignored_fails_emptyObject :
    (gpioClient true).onTbcmDataHandle gpioJson (gpioAnswers true true true)
        ⟨.serverrpcRequest, 7, 0, emptyPayload, 2⟩ = .error .nullString ∧
      ¬ (stringMethod (gpioJson.parseWithLength (emptyPayload.take 2)) = none →
        Ignored (gpioClient true) ((gpioClient true).onTbcmDataHandle gpioJson
          (gpioAnswers true true true) ⟨.serverrpcRequest, 7, 0, emptyPayload, 2⟩)) := by
  have hfault : (gpioClient true).onTbcmDataHandle gpioJson (gpioAnswers true true true)
      ⟨.serverrpcRequest, 7, 0, emptyPayload, 2⟩ = .error .nullString := rfl
  refine ⟨hfault, ?_⟩
  intro hignored
  obtain ⟨client', hok, -⟩ := hignored (by decide +kernel)
  rw [hfault] at hok
  contradiction

end ThingsboardMqtt
