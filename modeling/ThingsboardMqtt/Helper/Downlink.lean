import Mathlib.Algebra.Ring.Nat
import ThingsboardMqtt.Helper.Client
import ThingsboardMqtt.Wapper.PrintedTopics
import ThingsboardMqtt.Wapper.Reassembly

set_option autoImplicit false

/-! # From the bytes of the server to the events of the helper

A message of the server goes through four pieces of code: the payload buffer puts its fragments
together, `_on_mqtt_data_handle` reads its topic, `_on_tbcm_event_bridge_send` copies the payload, and
`__on_tbcm_data_handle` parses the copy. `wireEvent` is all of them for one `MQTT_EVENT_DATA`.

A `Downlink` is a message as the server prints it, with the fragments of it that arrived. It becomes
the one event it was meant as, or none: none when a byte is missing, when it is too long, when some
`malloc` failed or when the queue stayed full (`wireAll_downlinks`). -/

namespace ThingsboardMqtt

open CHeap CString

/-! ## Messages of the server -/

/-- A topic of `tbc_mqtt_protocol.h` that is received. -/
inductive DownlinkTopic
  | printed (topic : PrintedTopic)
  | sharedAttributes
  | provisionResponse
  deriving DecidableEq, Repr

namespace DownlinkTopic

def print : DownlinkTopic → List Char
  | .printed topic => topic.print
  | .sharedAttributes => TbcmRxTopic.sharedAttributes.literal
  | .provisionResponse => TbcmRxTopic.provisionResponse.literal

def topic : DownlinkTopic → TbcmRxTopic
  | .printed topic => topic.topic
  | .sharedAttributes => .sharedAttributes
  | .provisionResponse => .provisionResponse

def requestId : DownlinkTopic → UInt32
  | .printed topic => topic.requestId
  | .sharedAttributes | .provisionResponse => 0

def chunkId : DownlinkTopic → UInt32
  | .printed topic => topic.chunkId
  | .sharedAttributes | .provisionResponse => 0

end DownlinkTopic

/-- Characters stand for bytes. -/
def charBytes (text : List Char) : List UInt8 := text.map fun c => UInt8.ofNat c.toNat

def byteChars (bytes : List UInt8) : Memory := bytes.map fun byte => Char.ofNat byte.toNat

/-- What the topic of an attributes response has behind the topic of the shared attributes. -/
def responseLevel : List Char := "/response/".toList

/-- The data of one `MQTT_EVENT_DATA`, with the memory that follows the topic while it is read, the
    answer to the `malloc` of `_on_tbcm_event_bridge_send`, and whether one of its twenty calls of
    `xQueueSend` succeeds. -/
structure WireFragment extends Fragment where
  following : Memory
  copied : Bool
  queued : Bool

/-- A message of the server and the fragments of it that reached the device. Behind the topic of the
    shared attributes, which ends within another one, stands nothing that would continue it. -/
structure Downlink where
  topic : DownlinkTopic
  payload : List UInt8
  fragments : List WireFragment
  contiguous : fragments.flatMap (·.bytes) <+: payload
  payload_ne_nil : payload ≠ []
  following : topic = .sharedAttributes →
    ∀ fragment ∈ fragments, mismatch responseLevel fragment.following = true

/-! ## The C functions -/

/-- A data event of esp-mqtt. -/
structure WireEvent where
  rxMsg : TbcmRxMsgInfo
  mallocs : FeedMallocs
  following : Memory
  copied : Bool
  queued : Bool

/-- Memory is left, or bytes are read that nothing has written. -/
inductive WireFault
  | memory (fault : MemFault)
  | unwritten
  deriving DecidableEq, Repr

/-- `__on_tbcm_data_handle` up to the handlers; `parse` is `cJSON_ParseWithLength`. -/
def TbcmRxData.publishData (parse : List UInt8 → Option Cjson) (data : TbcmRxData) :
    Except WireFault TbcmPublishData :=
  if data.payload.length < data.payloadLen then .error (.memory .outOfBounds)
  else
    match (data.payload.take data.payloadLen).mapM id with
    | none => .error .unwritten
    | some bytes =>
      .ok (match data.topic with
        | .attributesResponse => .response .attributesrequest data.requestId.toNat (parse bytes)
        | .sharedAttributes => .sharedAttributes (parse bytes)
        | .serverrpcRequest => .serverrpcRequest data.requestId.toNat (parse bytes)
        | .clientrpcResponse => .response .clientrpc data.requestId.toNat (parse bytes)
        | .fwResponse => .fwResponse data.requestId.toNat data.chunkId.toNat bytes
        | .provisionResponse => .response .provision data.requestId.toNat (parse bytes))

/-- `_on_tbcm_event_bridge_send` of the events of a call: those that get into the queue, and how many
    do not, for want of memory for their payload or of room in the queue. -/
def bridgeAll (parse : List UInt8 → Option Cjson) (copied queued : Bool) :
    List TbcmRxData → Except WireFault (List TbcmPublishData × Nat)
  | [] => .ok ([], 0)
  | data :: rest => do
    if 0 < data.payloadLen && !copied then
      let (received, failed) ← bridgeAll parse copied queued rest
      .ok (received, failed + 1)
    else
      let first ← data.publishData parse
      let (received, failed) ← bridgeAll parse copied queued rest
      .ok (if queued then (first :: received, failed) else (received, failed + 1))

/-- The calls of `on_payload_process`, which is `_on_mqtt_data_handle`. -/
def handOver (parse : List UInt8 → Option Cjson) (event : WireEvent) :
    List PayloadProcessCall → Except WireFault (List TbcmPublishData × Nat)
  | [] => .ok ([], 0)
  | call :: rest => do
    let emitted ← (onMqttDataHandle (some (byteChars call.topic ++ event.following)) call.topicLen
      call.payload call.payloadLen).mapError .memory
    let (first, failed) ← bridgeAll parse event.copied event.queued emitted
    let (received, failed') ← handOver parse event rest
    .ok (first ++ received, failed + failed')

/-- What a data event comes to: the events put into the queue, and how many calls failed, of `malloc` or
    all those of `xQueueSend` for an event. -/
structure WireResult where
  received : List TbcmPublishData
  failed : Nat

/-- `_on_mqtt_event_handle` for `MQTT_EVENT_DATA`. -/
def wireEvent (parse : List UInt8 → Option Cjson) (buffer : TbcmPayloadBuffer) (event : WireEvent) :
    Except WireFault (TbcmPayloadBuffer × WireResult) := do
  let result ← (tbcmPayloadBufferPocess buffer event.rxMsg event.mallocs).mapError .memory
  let (received, failed) ← handOver parse event result.calls
  .ok (result.buffer, ⟨received, result.failedMallocs + failed⟩)

/-- Data events one after the other. -/
def wireAll (parse : List UInt8 → Option Cjson) (buffer : TbcmPayloadBuffer) :
    List WireEvent → Except WireFault (TbcmPayloadBuffer × List WireResult)
  | [] => .ok (buffer, [])
  | event :: rest => do
    let (buffer, result) ← wireEvent parse buffer event
    let (buffer, results) ← wireAll parse buffer rest
    .ok (buffer, result :: results)

theorem wireAll_append {parse : List UInt8 → Option Cjson} {events events' : List WireEvent} :
    ∀ {buffer buffer' buffer'' : TbcmPayloadBuffer} {results results' : List WireResult},
      wireAll parse buffer events = .ok (buffer', results) →
      wireAll parse buffer' events' = .ok (buffer'', results') →
      wireAll parse buffer (events ++ events') = .ok (buffer'', results ++ results') := by
  induction events with
  | nil =>
    intro buffer buffer' buffer'' results results' hfirst hlast
    obtain ⟨rfl, rfl⟩ := Prod.mk.inj (Except.ok.inj hfirst)
    exact hlast
  | cons event rest ih =>
    intro buffer buffer' buffer'' results results' hfirst hlast
    simp only [wireAll, bind, Except.bind] at hfirst
    cases hevent : wireEvent parse buffer event with
    | error fault => simp [hevent] at hfirst
    | ok first =>
      cases hrest : wireAll parse first.1 rest with
      | error fault => simp [hevent, hrest] at hfirst
      | ok others =>
        simp only [hevent, hrest] at hfirst
        obtain ⟨rfl, rfl⟩ := Prod.mk.inj (Except.ok.inj hfirst)
        simp only [List.cons_append, wireAll, hevent, ih hrest hlast, bind, Except.bind]

/-! ## Events of a message -/

/-- The events of consecutive fragments, as in `fragmentEvents`. -/
def wireEvents (total : Nat) (topic : Option (List UInt8)) (offset : Nat) :
    List WireFragment → List WireEvent
  | [] => []
  | fragment :: rest =>
    ⟨⟨topic, fragment.data, total, offset⟩, fragment.mallocs, fragment.following,
        fragment.copied, fragment.queued⟩ ::
      wireEvents total none (offset + fragment.bytes.length) rest

theorem wireEvents_fragmentEvents (total : Nat) (topic : Option (List UInt8)) (offset : Nat)
    (fragments : List WireFragment) :
    (wireEvents total topic offset fragments).map (fun event => (event.rxMsg, event.mallocs))
      = fragmentEvents total topic offset (fragments.map (·.toFragment)) := by
  induction fragments generalizing topic offset with
  | nil => rfl
  | cons fragment rest ih =>
    simp only [wireEvents, List.map_cons, fragmentEvents, ih]

theorem following_wireEvents (total : Nat) (topic : Option (List UInt8)) (offset : Nat)
    (fragments : List WireFragment) :
    (wireEvents total topic offset fragments).map (·.following)
      = fragments.map (·.following) := by
  induction fragments generalizing topic offset with
  | nil => rfl
  | cons fragment rest ih => simp only [wireEvents, List.map_cons, ih]

theorem charBytes_ne_nil {text : List Char} (h : text ≠ []) : charBytes text ≠ [] := by
  simpa [charBytes] using h

theorem DownlinkTopic.print_ne_nil (topic : DownlinkTopic) : topic.print ≠ [] := by
  cases topic with
  | sharedAttributes | provisionResponse => decide +kernel
  | printed printed =>
    have hliteral : ∀ known : TbcmRxTopic, known.literal ≠ [] := by
      intro known
      cases known <;> decide +kernel
    have hprefix := (firstTopic_eq_some (firstTopic_printed printed [])).2
    rw [List.append_nil] at hprefix
    intro hnil
    rw [show printed.print = [] from hnil, List.prefix_nil] at hprefix
    exact hliteral printed.topic hprefix

namespace Downlink

def message (downlink : Downlink) : Message where
  topic := charBytes downlink.topic.print
  payload := downlink.payload
  topic_ne_nil := charBytes_ne_nil downlink.topic.print_ne_nil

def transfer (downlink : Downlink) : Transfer where
  message := downlink.message
  fragments := downlink.fragments.map (·.toFragment)
  contiguous := by
    rw [List.flatMap_map]
    exact downlink.contiguous

def events (downlink : Downlink) : List WireEvent :=
  wireEvents downlink.payload.length (some downlink.message.topic) 0 downlink.fragments

/-- All bytes of the payload arrived. -/
def Whole (downlink : Downlink) : Prop :=
  downlink.fragments.flatMap (·.bytes) = downlink.payload

instance (downlink : Downlink) : Decidable downlink.Whole :=
  inferInstanceAs (Decidable (_ = _))

/-- The event that the message is meant as. -/
def published (parse : List UInt8 → Option Cjson) (downlink : Downlink) : TbcmPublishData :=
  match downlink.topic with
  | .printed (.attributesResponse requestId) =>
    .response .attributesrequest requestId.toNat (parse downlink.payload)
  | .printed (.serverrpcRequest requestId) =>
    .serverrpcRequest requestId.toNat (parse downlink.payload)
  | .printed (.clientrpcResponse requestId) =>
    .response .clientrpc requestId.toNat (parse downlink.payload)
  | .printed (.fwResponse requestId chunkId) =>
    .fwResponse requestId.toNat chunkId.toNat downlink.payload
  | .sharedAttributes => .sharedAttributes (parse downlink.payload)
  | .provisionResponse => .response .provision 0 (parse downlink.payload)

end Downlink

/-! ## Reading the topic -/

theorem byteChars_charBytes {text : List Char} (h : ∀ c ∈ text, c.toNat < 256) :
    byteChars (charBytes text) = text := by
  rw [byteChars, charBytes, List.map_map, List.map_congr_left, List.map_id]
  intro c hc
  have hlt := h c hc
  simp only [Function.comp, UInt8.toNat_ofNat', id]
  rw [Nat.mod_eq_of_lt hlt, Char.ofNat_toNat]

theorem toNat_printU_lt (value : UInt32) : ∀ c ∈ printU value, c.toNat < 256 := by
  intro c hc
  obtain ⟨d, hd, rfl⟩ := Scanf.mem_toDigits (by decide) hc
  exact (by decide : ∀ d < 10, (Nat.digitChar d).toNat < 256) d hd

theorem toNat_lt_of_all {text : List Char} (h : text.all (fun c => c.toNat < 256) = true) :
    ∀ c ∈ text, c.toNat < 256 :=
  fun c hc => of_decide_eq_true (List.all_eq_true.mp h c hc)

theorem toNat_print_lt (topic : DownlinkTopic) : ∀ c ∈ topic.print, c.toNat < 256 := by
  have hliteral : ∀ known : TbcmRxTopic, ∀ c ∈ known.literal, c.toNat < 256 := by
    intro known
    refine toNat_lt_of_all ?_
    cases known <;> decide +kernel
  cases topic with
  | sharedAttributes => exact hliteral .sharedAttributes
  | provisionResponse => exact hliteral .provisionResponse
  | printed printed =>
    show ∀ c ∈ printed.print, c.toNat < 256
    cases printed with
    | attributesResponse requestId =>
      rw [print_attributesResponse, List.forall_mem_append]
      exact ⟨hliteral .attributesResponse, toNat_printU_lt requestId⟩
    | serverrpcRequest requestId =>
      rw [print_serverrpcRequest, List.forall_mem_append]
      exact ⟨hliteral .serverrpcRequest, toNat_printU_lt requestId⟩
    | clientrpcResponse requestId =>
      rw [print_clientrpcResponse, List.forall_mem_append]
      exact ⟨hliteral .clientrpcResponse, toNat_printU_lt requestId⟩
    | fwResponse requestId chunkId =>
      rw [print_fwResponse, fwHead, List.forall_mem_append, List.forall_mem_append,
        List.forall_mem_append]
      exact ⟨⟨⟨hliteral .fwResponse, toNat_printU_lt requestId⟩,
        toNat_lt_of_all (by decide +kernel)⟩,
        toNat_printU_lt chunkId⟩

theorem mismatch_append_left (text literal mem : List Char) :
    mismatch (text ++ literal) (text ++ mem) = mismatch literal mem := by
  induction text with
  | nil => rfl
  | cons c text ih => rw [List.cons_append, List.cons_append, mismatch, if_pos rfl, ih]

/-- A topic takes the branch it is meant for. -/
theorem firstTopic_downlink (topic : DownlinkTopic) {following : Memory}
    (hfollowing : topic = .sharedAttributes → mismatch responseLevel following = true) :
    firstTopic (topic.print ++ following) rxTopics = .ok (some topic.topic) := by
  cases topic with
  | printed printed => exact firstTopic_printed printed following
  | provisionResponse =>
    exact (firstTopic_eq_some_iff (by decide)).mpr (List.prefix_append _ _)
  | sharedAttributes =>
    have hlonger : TbcmRxTopic.attributesResponse.literal
        = TbcmRxTopic.sharedAttributes.literal ++ responseLevel := by decide +kernel
    have hsplit : rxTopics = [.attributesResponse] ++ .sharedAttributes ::
        [.serverrpcRequest, .clientrpcResponse, .fwResponse, .provisionResponse] := rfl
    rw [hsplit]
    refine firstTopic_of_isPrefix ?_ (List.prefix_append _ _)
    intro other hother
    rw [List.mem_singleton.mp hother, hlonger, DownlinkTopic.print, mismatch_append_left]
    exact hfollowing rfl

theorem topicIds_downlink (topic : DownlinkTopic) (following : Memory) :
    topicIds (topic.print ++ following) topic.print.length topic.topic
      = .ok (topic.requestId, topic.chunkId) := by
  cases topic with
  | printed printed => exact topicIds_printed printed following
  | sharedAttributes | provisionResponse => rfl

/-! ## One message -/

theorem mapM_id_map_some (bytes : List UInt8) : (bytes.map some).mapM id = some bytes := by
  induction bytes with
  | nil => rfl
  | cons byte rest ih => simp [ih]

/-- The topic and the payload of a message that `on_payload_process` is called with. -/
theorem onMqttDataHandle_carries (downlink : Downlink) {following : Memory}
    (hfollowing : downlink.topic = .sharedAttributes → mismatch responseLevel following = true)
    {call : PayloadProcessCall} (hcall : call.Carries downlink.message) :
    onMqttDataHandle (some (byteChars call.topic ++ following)) call.topicLen call.payload
        call.payloadLen
      = .ok [⟨downlink.topic.topic, downlink.topic.requestId, downlink.topic.chunkId,
          downlink.payload.map some, downlink.payload.length⟩] := by
  have hpayload : call.payload = some (downlink.payload.map some) := by
    have hgetD := hcall.payload
    cases hnone : call.payload with
    | none =>
      rw [hnone] at hgetD
      exact absurd (List.map_eq_nil_iff.mp hgetD.symm) downlink.payload_ne_nil
    | some block =>
      rw [hnone] at hgetD
      exact congrArg some hgetD
  have htopic : call.topic = charBytes downlink.topic.print := hcall.topic
  have hlen : call.topicLen = downlink.topic.print.length :=
    hcall.topicLen.trans (List.length_map _)
  have hpayloadLen : call.payloadLen = downlink.payload.length := hcall.payloadLen
  rw [htopic, hlen, hpayload, hpayloadLen, byteChars_charBytes (toNat_print_lt _)]
  simp only [onMqttDataHandle, firstTopic_downlink _ hfollowing, topicIds_downlink, bind,
    Except.bind]

/-- What the user task makes of the copy. -/
theorem publishData_downlink (parse : List UInt8 → Option Cjson) (downlink : Downlink) :
    TbcmRxData.publishData parse ⟨downlink.topic.topic, downlink.topic.requestId,
        downlink.topic.chunkId, downlink.payload.map some, downlink.payload.length⟩
      = .ok (downlink.published parse) := by
  have htake : (downlink.payload.map some).take downlink.payload.length
      = downlink.payload.map some := List.take_of_length_le (Nat.le_of_eq (List.length_map _))
  simp only [TbcmRxData.publishData, List.length_map, Nat.lt_irrefl, if_false, htake,
    mapM_id_map_some, Downlink.published]
  cases downlink.topic with
  | sharedAttributes | provisionResponse => rfl
  | printed topic => cases topic <;> rfl

/-- Its event gets into the queue. -/
def WireEvent.sends (event : WireEvent) : Bool := event.copied && event.queued

/-- Calls of `on_payload_process` with one message: its events, or none without memory for a copy or
    room in the queue. -/
theorem handOver_carries (parse : List UInt8 → Option Cjson) (downlink : Downlink)
    {event : WireEvent} (hfollowing : downlink.topic = .sharedAttributes →
      mismatch responseLevel event.following = true) {calls : List PayloadProcessCall}
    (hcalls : ∀ call ∈ calls, call.Carries downlink.message) :
    handOver parse event calls
      = .ok (if event.sends then List.replicate calls.length (downlink.published parse) else [],
          if event.sends then 0 else calls.length) := by
  have hpos : 0 < downlink.payload.length := List.length_pos_iff.mpr downlink.payload_ne_nil
  induction calls with
  | nil => cases hsends : event.sends <;> rfl
  | cons call rest ih =>
    rw [List.forall_mem_cons] at hcalls
    simp only [handOver, onMqttDataHandle_carries downlink hfollowing hcalls.1, ih hcalls.2,
      Except.mapError, bind, Except.bind]
    cases hcopied : event.copied with
    | false =>
      simp [WireEvent.sends, hcopied, bridgeAll, hpos, bind, Except.bind, Nat.add_comm]
    | true =>
      cases hqueued : event.queued with
      | true =>
        simp [WireEvent.sends, hcopied, hqueued, bridgeAll, publishData_downlink, bind, Except.bind,
          List.replicate_succ]
      | false =>
        simp [WireEvent.sends, hcopied, hqueued, bridgeAll, publishData_downlink, bind, Except.bind,
          Nat.add_comm]

/-- The events of one message: as many events in the queue as copies were queued. -/
theorem wireAll_of_pocessAll (parse : List UInt8 → Option Cjson) (downlink : Downlink)
    {events : List WireEvent} (hfollowing : downlink.topic = .sharedAttributes →
      ∀ event ∈ events, mismatch responseLevel event.following = true) :
    ∀ {buffer : TbcmPayloadBuffer} {result : PayloadBufferResult},
      pocessAll buffer (events.map fun event => (event.rxMsg, event.mallocs)) = .ok result →
      (∀ call ∈ result.calls, call.Carries downlink.message) →
      ∃ results copies lost, wireAll parse buffer events = .ok (result.buffer, results) ∧
        results.flatMap (·.received) = List.replicate copies (downlink.published parse) ∧
        (results.map (·.failed)).sum = result.failedMallocs + lost ∧
        copies + lost = result.calls.length := by
  induction events with
  | nil =>
    intro buffer result hresult _
    obtain rfl := Except.ok.inj hresult
    exact ⟨[], 0, 0, rfl, rfl, rfl, rfl⟩
  | cons event rest ih =>
    intro buffer result hresult hcalls
    simp only [List.map_cons, pocessAll, bind, Except.bind] at hresult
    cases hfirst : tbcmPayloadBufferPocess buffer event.rxMsg event.mallocs with
    | error fault => simp [hfirst] at hresult
    | ok first =>
      cases hrest : pocessAll first.buffer (rest.map fun event => (event.rxMsg, event.mallocs)) with
      | error fault => simp [hfirst, hrest] at hresult
      | ok others =>
        simp only [hfirst, hrest] at hresult
        obtain rfl := Except.ok.inj hresult
        rw [List.forall_mem_append] at hcalls
        obtain ⟨results, copies, lost, hwire, hreceived, hfailed, hcount⟩ :=
          ih (fun h e he => hfollowing h e (List.mem_cons_of_mem _ he)) hrest hcalls.2
        have hover := handOver_carries parse downlink
          (fun h => hfollowing h event List.mem_cons_self) hcalls.1
        simp only [wireAll, wireEvent, hfirst, hover, hwire, Except.mapError, bind, Except.bind]
        cases hsends : event.sends with
        | true =>
          refine ⟨_, first.calls.length + copies, lost, rfl, ?_, ?_, ?_⟩
          · simp only [List.flatMap_cons, hreceived, if_true, List.replicate_append_replicate]
          · simp [hfailed, Nat.add_assoc]
          · simp only [List.length_append]; omega
        | false =>
          refine ⟨_, copies, first.calls.length + lost, rfl, ?_, ?_, ?_⟩
          · simp [hreceived]
          · simp [hfailed]; omega
          · simp only [List.length_append]; omega

/-! ## Messages one after the other -/

/-- What the events of a message come to: the event that it is meant as when all of it arrived, it is
    not too long, no `malloc` failed and the queue had room, and nothing otherwise. -/
def Handed (parse : List UInt8 → Option Cjson) (downlink : Downlink) (results : List WireResult) :
    Prop :=
  results.flatMap (·.received)
    = if downlink.Whole ∧ downlink.payload.length ≤ maxTbcmRxMsgLength ∧
          (results.map (·.failed)).sum = 0
      then [downlink.published parse] else []

theorem wireAll_downlink (parse : List UInt8 → Option Cjson) (buffer : TbcmPayloadBuffer)
    (downlink : Downlink) :
    ∃ buffer' results, wireAll parse buffer downlink.events = .ok (buffer', results) ∧
      Handed parse downlink results := by
  obtain ⟨result, hresult, hexact, hdelivered, hsuppressed⟩ :=
    transfer_reassembled buffer downlink.transfer
  have hevents : downlink.events.map (fun event => (event.rxMsg, event.mallocs))
      = downlink.transfer.events := wireEvents_fragmentEvents _ _ _ _
  have hfollowing : downlink.topic = .sharedAttributes →
      ∀ event ∈ downlink.events, mismatch responseLevel event.following = true := by
    intro htopic event hevent
    have hmem := List.mem_map_of_mem (f := (·.following)) hevent
    rw [Downlink.events, following_wireEvents] at hmem
    obtain ⟨fragment, hfragment, heq⟩ := List.mem_map.mp hmem
    rw [← heq]
    exact downlink.following htopic fragment hfragment
  rw [← hevents] at hresult
  obtain ⟨results, copies, lost, hwire, hreceived, hfailed, hcount⟩ :=
    wireAll_of_pocessAll parse downlink hfollowing hresult hexact
  have hwhole : downlink.transfer.Whole ↔ downlink.Whole := by
    rw [Transfer.Whole, Downlink.Whole, Downlink.transfer, List.flatMap_map]
    rfl
  rw [hwhole] at hdelivered hsuppressed
  have hpos : 1 ≤ downlink.payload.length := List.length_pos_iff.mpr downlink.payload_ne_nil
  refine ⟨result.buffer, results, hwire, ?_⟩
  rw [Handed, hreceived, hfailed]
  by_cases hgood : downlink.Whole ∧ downlink.payload.length ≤ maxTbcmRxMsgLength ∧
      result.failedMallocs = 0
  · obtain ⟨hall, hmax, hnone⟩ := hgood
    obtain ⟨hone, -⟩ := hdelivered hall hpos hmax hnone
    -- the one call, whose event was queued or not
    rw [hone] at hcount
    rcases Nat.eq_zero_or_pos lost with hlost | hlost
    · obtain rfl : copies = 1 := by omega
      rw [if_pos ⟨hall, hmax, by omega⟩, List.replicate_one]
    · obtain rfl : copies = 0 := by omega
      rw [if_neg (by omega), List.replicate_zero]
  · have hnone : result.calls = [] := by
      apply hsuppressed
      by_cases hall : downlink.Whole
      · rcases Nat.lt_or_ge maxTbcmRxMsgLength downlink.payload.length with hlong | hmax
        · exact .inr (.inl hlong)
        · exact .inr (.inr (Nat.pos_of_ne_zero fun h => hgood ⟨hall, hmax, h⟩))
      · exact .inl hall
    rw [hnone, List.length_nil] at hcount
    obtain rfl : copies = 0 := by omega
    rw [if_neg fun h => hgood ⟨h.1, h.2.1, by omega⟩, List.replicate_zero]

/-- Messages one after the other, whatever the buffer holds: each is handed over once or not at all,
    and nothing else is. -/
theorem wireAll_downlinks (parse : List UInt8 → Option Cjson) (downlinks : List Downlink) :
    ∀ buffer : TbcmPayloadBuffer, ∃ buffer' results,
      wireAll parse buffer (downlinks.flatMap (·.events)) = .ok (buffer', results.flatten) ∧
      List.Forall₂ (Handed parse) downlinks results := by
  induction downlinks with
  | nil => exact fun buffer => ⟨buffer, [], rfl, .nil⟩
  | cons downlink rest ih =>
    intro buffer
    obtain ⟨buffer', first, hfirst, hhanded⟩ := wireAll_downlink parse buffer downlink
    obtain ⟨buffer'', others, hothers, hall⟩ := ih buffer'
    refine ⟨buffer'', first :: others, ?_, .cons hhanded hall⟩
    rw [List.flatMap_cons, List.flatten_cons]
    exact wireAll_append hfirst hothers

end ThingsboardMqtt
