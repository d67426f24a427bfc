import ThingsboardMqtt.Helper.Events

set_option autoImplicit false

/-! # The memory of the client

`tbcmh_run` once more, with the memory of the client in sight. An `on_update` and an `on_timeout`
may call `tbcmh_destroy` when they return 2 then. The client is a `Slot` that `tbcmh_destroy`
empties, and a function that reads or writes the client of an empty slot is a `Crash`. The result of
2 ends the loops over the requests that timed out and over the keyed subscriptions, but nothing
hands it further: the next sweep, the next subscription and the loop of `tbcmh_run` go on with the
client.

The definitions of `Watched` are those of the helper with a slot for the client. -/

namespace ThingsboardMqtt

open ListWalk Relation

/-- Why a call does not come to its end: it uses a client that was destroyed, or a fault. -/
inductive Crash
  | deadClient
  | fault (fault : Fault)
  deriving DecidableEq, Repr

/-- The memory of the client, `none` when `tbcmh_destroy` has freed it. -/
abbrev Slot := Option Client

/-- A read or a write of the client. -/
def Slot.client (slot : Slot) : Except Crash Client :=
  match slot with
  | some client => .ok client
  | none => .error .deadClient

/-- The callbacks that destroy the client and return 2: an `on_update` by the id of its
    subscription, an `on_timeout` by the number of its request. -/
structure Destroyers where
  onUpdate : Nat → Bool
  onTimeout : RequestTable → Nat → Bool

/-- The destroying `on_update` of an entry. -/
def Destroyers.updates (destroyers : Destroyers) (entry : Attributessubscribe) : Bool :=
  entry.reader = .application && destroyers.onUpdate entry.subscribeId

/-- A fault of the part that does not see the slot. -/
def liftFault {α : Type} (result : Except Fault α) : Except Crash α := result.mapError .fault

namespace Watched

variable {conduct : Conduct} (destroyers : Destroyers)

/-! ## Timeouts -/

/-- "Deal timeout". The `timeout_list` is local; the callbacks use the client. -/
def dealTimeout (table : RequestTable) (onTimeout : OnTimeout) :
    Bool → List Request → Slot → Except Crash Slot
  | _, [], slot => .ok slot
  | clientIsValid, request :: rest, slot =>
    if clientIsValid && request.hasOnTimeout then do
      let client ← slot.client
      if destroyers.onTimeout table request.uid then dealTimeout table onTimeout false rest none
      else
        match onTimeout request (client.log (.onTimeout table request.uid)) with
        | (result, client) => dealTimeout table onTimeout (result ≠ 2) rest (some client)
    else dealTimeout table onTimeout clientIsValid rest slot

/-- `_tbcmh_attributesrequest_on_check_timeout`, `_tbcmh_clientrpc_on_check_timeout`,
    `_tbcmh_provision_on_check_timeout` -/
def tbcmhRequestOnCheckTimeout (table : RequestTable) (onTimeout : OnTimeout) (timestamp : Nat)
    (slot : Slot) : Except Crash Slot := do
  let client ← slot.client
  match moveTimedOut table timestamp client with
  | (timeoutList, client) => dealTimeout destroyers table onTimeout true timeoutList (some client)

/-- `_tbcmh_attributesrequest_on_disconnected`, `_tbcmh_clientrpc_on_disconnected`,
    `_tbcmh_provision_on_disconnected` -/
def tbcmhRequestOnDisconnected (table : RequestTable) (onTimeout : OnTimeout) (slot : Slot) :
    Except Crash Slot := do
  let client ← slot.client
  let slot ← tbcmhRequestOnCheckTimeout destroyers table onTimeout
    (client.core.now + tbMqttTimeout + 2) slot
  let client ← slot.client
  .ok (some (client.setRequests table []))

/-- `__on_tbcm_check_timeout` -/
def onTbcmCheckTimeout (callbacks : Callbacks conduct) (slot : Slot) : Except Crash Slot := do
  let client ← slot.client
  let timestamp := client.core.now
  if timestamp < client.lastCheckTimestamp + tbMqttTimeout + 2 then .ok (some client)
  else do
    let client := { client with lastCheckTimestamp := timestamp }
    let slot ← tbcmhRequestOnCheckTimeout destroyers .attributesrequest
      (callbacks.onTimeout .checkTimeout .attributesrequest) timestamp (some client)
    let slot ← tbcmhRequestOnCheckTimeout destroyers .clientrpc
      (callbacks.onTimeout .checkTimeout .clientrpc) timestamp slot
    let slot ← tbcmhRequestOnCheckTimeout destroyers .provision
      (callbacks.onTimeout .checkTimeout .provision) timestamp slot
    let client ← slot.client
    .ok (some { client with ota := tbcmhOtaupdateOnChunkCheckTimeout timestamp client.ota })

/-- `__on_tbcm_disonnected` -/
def onTbcmDisonnected (callbacks : Callbacks conduct) (slot : Slot) : Except Crash Slot := do
  let slot ← tbcmhRequestOnDisconnected destroyers .attributesrequest
    (callbacks.onTimeout .disconnected .attributesrequest) slot
  let slot ← tbcmhRequestOnDisconnected destroyers .clientrpc
    (callbacks.onTimeout .disconnected .clientrpc) slot
  let slot ← tbcmhRequestOnDisconnected destroyers .provision
    (callbacks.onTimeout .disconnected .provision) slot
  let client ← slot.client
  .ok (some { client with ota := tbcmhOtaupdateOnDisconnected client.ota })

/-! ## Shared attributes -/

/-- `attributessubscribe->on_update(..)` -/
def onUpdate (entry : Attributessubscribe) (object : Cjson) (answers : UpdateAnswers)
    (client : Client) : Except Crash (Int × Slot) :=
  if destroyers.updates entry then .ok (2, none)
  else do
    let (result, client) ← liftFault (ThingsboardMqtt.onUpdate entry object answers client)
    .ok (result, some client)

/-- The loop of `_tbcmh_attributessubscribe_on_data`. The entry is one of the client's list. -/
def updateEntries (object : Cjson) (answers : UpdateAnswers) :
    List Attributessubscribe → Int → Slot → Except Crash (Int × Slot)
  | [], result, slot => .ok (result, slot)
  | entry :: rest, result, slot => do
    let client ← slot.client
    if entry.keyList.isEmpty then do
      let (_, slot) ← onUpdate destroyers entry object answers client
      updateEntries object answers rest result slot
    else if entry.keyList.any object.hasObjectItem then do
      let (result, slot) ← onUpdate destroyers entry object answers client
      if result = 2 then .ok (2, slot)
      else if result = 1 then .ok (1, slot)
      else updateEntries object answers rest result slot
    else updateEntries object answers rest result slot

/-- `_tbcmh_attributessubscribe_on_data` -/
def tbcmhAttributessubscribeOnData (object : Option Cjson) (answers : UpdateAnswers) (slot : Slot) :
    Except Crash (Int × Slot) :=
  match object with
  | none => .ok (0, slot)
  | some object => do
    let client ← slot.client
    updateEntries destroyers object answers client.attributessubscribeList 0 slot

/-! ## Responses -/

/-- The callback of a provision response, where one that reports a failure goes to `on_timeout`. -/
def doProvisionResponse (request : Request) (requestId : Nat) (object : Cjson)
    (answers : OtaAnswers) (client : Client) : Except Crash Slot := do
  let credentials ← liftFault (parseProvisionResponse object)
  if credentials = none && request.hasOnTimeout && destroyers.onTimeout .provision request.uid then
    .ok none
  else do
    let client ← liftFault (doResponse .provision request requestId object answers client)
    .ok (some client)

/-- `_tbcmh_attributesrequest_on_data`, `_tbcmh_clientrpc_on_data`, `_tbcmh_provision_on_data` -/
def tbcmhRequestOnData (table : RequestTable) (requestId : Nat) (object : Option Cjson)
    (answers : OtaAnswers) (slot : Slot) : Except Crash Slot :=
  match object with
  | none => .ok slot
  | some object => do
    let client ← slot.client
    match splitFirst (table.isAnswered requestId) (client.requestList table) with
    | none => .ok (some client)
    | some (front, request, back) =>
      let client := unsubscribeEmptied table false (client.setRequests table (front ++ back))
      if table = .provision then
        doProvisionResponse destroyers request requestId object answers client
      else do
        let client ← liftFault (doResponse table request requestId object answers client)
        .ok (some client)

/-! ## Events -/

/-- `__on_tbcm_data_handle` -/
def onTbcmDataHandle (data : TbcmPublishData) (answers : EventAnswers) (slot : Slot) :
    Except Crash Slot :=
  match data with
  | .response table requestId object =>
    tbcmhRequestOnData destroyers table requestId object answers.ota slot
  | .sharedAttributes object => do
    let (_, slot) ← tbcmhAttributessubscribeOnData destroyers object answers.update slot
    .ok slot
  | .serverrpcRequest requestId object => do
    let client ← slot.client
    let client ← liftFault (tbcmhServerrpcOnData requestId object client)
    .ok (some client)
  | .fwResponse requestId chunkId payload => do
    let client ← slot.client
    .ok (some { client with
      ota := tbcmhOtaupdateOnChunkData .crc32 requestId chunkId payload answers.ota client.ota })

/-- `_on_tbcm_event_handle` -/
def onTbcmEventHandle (event : TbcmEvent) (callbacks : Callbacks conduct) (answers : EventAnswers)
    (slot : Slot) : Except Crash Slot :=
  match event with
  | .connected => do
    let client ← slot.client
    .ok (some (onTbcmConnected answers client))
  | .disconnected => onTbcmDisonnected destroyers callbacks slot
  | .data data => onTbcmDataHandle destroyers data answers slot
  | .checkTimeout => onTbcmCheckTimeout destroyers callbacks slot

end Watched

/-! ## Calls -/

/-- Acts, one after the other. -/
def runActs (acts : List Act) (client : Client) : Client :=
  acts.foldl (fun client act => act.run client) client

theorem runActs_acts (site : Option Site) (acts : List Act) (client : Client) :
    ReflTransGen (ActStep .any site) client (runActs acts client) := by
  induction acts generalizing client with
  | nil => exact .refl
  | cons act rest ih => exact .head ⟨act, trivial, rfl⟩ (ih (act.run client))

/-- What the environment does in one round of a call of `tbcmh_run`: the result of the `on_timeout`
    of a request, by its number, with what it calls before it returns; its answers to the rest; and
    what the other callbacks call and the MQTT task does until the next round. -/
structure Round where
  onTimeout : RequestTable → Nat → Int × List Act
  answers : EventAnswers
  behind : List Act

def Round.callbacks (round : Round) : Callbacks .any := fun site request =>
  { run := fun client =>
      ((round.onTimeout site.table request.uid).1,
        runActs (round.onTimeout site.table request.uid).2 client)
    acts := fun client => runActs_acts (some site) _ client
    result := fun _ => trivial }

/-- The handling of one event in the loop of `_on_tbcm_event_bridge_receive`. -/
def handleRound (destroyers : Destroyers) (round : Round) (event : TbcmEvent) (client : Client) :
    Except Crash Slot := do
  let slot ← Watched.onTbcmEventHandle destroyers event round.callbacks round.answers (some client)
  .ok (slot.map (runActs round.behind))

/-- The loop of `_on_tbcm_event_bridge_receive`, of which `n` rounds are left. -/
def bridgeReceive (destroyers : Destroyers) (rounds : Nat → Round) :
    Nat → Nat → Slot → Except Crash Slot
  | 0, _, slot => .ok slot
  | n + 1, i, slot => do
    let client ← slot.client
    match client.queue with
    | [] => .ok (some client)
    | event :: queue =>
      let slot ← handleRound destroyers (rounds i) event { client with queue := queue }
      bridgeReceive destroyers rounds n (i + 1) slot

/-- The rounds of one call: `i < 10`. -/
def bridgeRounds : Nat := 10

/-- `tbcmh_run` -/
def tbcmhRun (destroyers : Destroyers) (rounds : Nat → Round) (client : Client) :
    Except Crash Slot :=
  bridgeReceive destroyers rounds bridgeRounds 0 (some client)

end ThingsboardMqtt
