import ThingsboardMqtt.Library.Memory

set_option autoImplicit false

/-! # The payload buffer (`tbc_mqtt_payload_buffer.c`)

esp-mqtt hands a long message over in several events; the payload buffer puts them together again
before the topic is parsed. `tbcmPayloadBufferPocess` is one call of `tbcm_payload_buffer_pocess`:
it returns the buffer afterwards, the calls of `on_payload_process` it made, and how many of its
`malloc` calls returned `NULL`. A pointer with its length is the list of the bytes it points to,
`none` standing for `NULL`. -/

namespace ThingsboardMqtt

open CHeap

/-- `MAX_TBCM_RX_MSG_LENGTH` -/
def maxTbcmRxMsgLength : Nat := 128 * 1024

/-- The fields of `esp_mqtt_event_t` that the buffer copies into its `tbcm_rx_msg_info`. -/
structure TbcmRxMsgInfo where
  topic : Option (List UInt8)
  payload : Option (List UInt8)
  totalPayloadLen : Nat
  currentPayloadOffset : Nat
  deriving DecidableEq, Repr

def TbcmRxMsgInfo.topicLen (rxMsg : TbcmRxMsgInfo) : Nat := (rxMsg.topic.getD []).length

def TbcmRxMsgInfo.payloadLen (rxMsg : TbcmRxMsgInfo) : Nat := (rxMsg.payload.getD []).length

/-- `tbcm_payload_buffer_t` -/
structure TbcmPayloadBuffer where
  topic : Option (List UInt8)
  payload : Option Block
  topicLen : Nat
  totalPayloadLen : Nat
  receivedLen : Nat
  deriving DecidableEq, Repr

/-- The buffer `tbcm_payload_buffer_init` and `_tbcm_payload_buffer_free` leave behind. -/
def TbcmPayloadBuffer.empty : TbcmPayloadBuffer where
  topic := none
  payload := none
  topicLen := 0
  totalPayloadLen := 0
  receivedLen := 0

/-- The allocator's answers to the two `malloc` calls of `_tbcm_payload_buffer_feed`. -/
structure FeedMallocs where
  topic : Bool
  payload : Bool
  deriving DecidableEq, Repr

/-- The arguments of one `on_payload_process` call. -/
structure PayloadProcessCall where
  topic : List UInt8
  topicLen : Nat
  payload : Option Block
  payloadLen : Nat
  deriving DecidableEq, Repr

/-- What one or more calls of `tbcm_payload_buffer_pocess` did. -/
structure PayloadBufferResult where
  buffer : TbcmPayloadBuffer
  calls : List PayloadProcessCall
  failedMallocs : Nat
  deriving DecidableEq, Repr

/-! ## The C functions -/

/-- `_tbcm_payload_buffer_free` -/
def tbcmPayloadBufferFree (_buffer : TbcmPayloadBuffer) : TbcmPayloadBuffer :=
  .empty

/-- The payload half of `_tbcm_payload_buffer_feed`. -/
def feedPayload (buffer : TbcmPayloadBuffer) (rxMsg : TbcmRxMsgInfo) (mallocOk : Bool) :
    Except MemFault (TbcmPayloadBuffer × Nat) :=
  match rxMsg.payload with
  | none => .ok (buffer, 0)
  | some data =>
    if 0 < data.length ∧ 0 < rxMsg.totalPayloadLen then
      match buffer.payload with
      | none =>
        match malloc rxMsg.totalPayloadLen mallocOk with
        | none => .ok ({ buffer with totalPayloadLen := 0, receivedLen := 0 }, 1)
        | some fresh => do
          let mem ← memcpy fresh rxMsg.currentPayloadOffset data
          .ok ({ buffer with
            payload := some mem
            totalPayloadLen := rxMsg.totalPayloadLen
            receivedLen := data.length }, 0)
      | some mem =>
        if buffer.totalPayloadLen ≠ rxMsg.totalPayloadLen then .ok (buffer, 0)
        else do
          let mem' ← memcpy mem rxMsg.currentPayloadOffset data
          .ok ({ buffer with
            payload := some mem'
            receivedLen := buffer.receivedLen + data.length }, 0)
    else .ok (buffer, 0)

/-- `_tbcm_payload_buffer_feed`; the second component counts the `malloc` calls that failed. -/
def tbcmPayloadBufferFeed (buffer : TbcmPayloadBuffer) (rxMsg : TbcmRxMsgInfo)
    (mallocs : FeedMallocs) : Except MemFault (TbcmPayloadBuffer × Nat) :=
  match rxMsg.topic with
  | none => feedPayload buffer rxMsg mallocs.payload
  | some topic =>
    if 0 < topic.length then
      -- the old topic is freed first; without memory the payload is not copied either
      if mallocs.topic then
        feedPayload { buffer with topic := some topic, topicLen := topic.length } rxMsg
          mallocs.payload
      else
        .ok ({ buffer with
          topic := none
          topicLen := if buffer.topic.isSome then 0 else buffer.topicLen }, 1)
    else feedPayload buffer rxMsg mallocs.payload

/-- `_tbcm_rx_msg_is_completion` -/
def tbcmRxMsgIsCompletion (rxMsg : TbcmRxMsgInfo) : Bool :=
  rxMsg.topic.isSome && decide (0 < rxMsg.topicLen) &&
    decide (rxMsg.totalPayloadLen ≤ rxMsg.payloadLen)

/-- `_tbcm_payload_buffer_is_completion` -/
def tbcmPayloadBufferIsCompletion (buffer : TbcmPayloadBuffer) : Bool :=
  buffer.topic.isSome && decide (0 < buffer.topicLen) && buffer.payload.isSome &&
    decide (buffer.totalPayloadLen ≤ buffer.receivedLen)

/-- `tbcm_payload_buffer_pocess` -/
def tbcmPayloadBufferPocess (buffer : TbcmPayloadBuffer) (rxMsg : TbcmRxMsgInfo)
    (mallocs : FeedMallocs) : Except MemFault PayloadBufferResult :=
  -- 1: too long, or an offset behind the end
  if maxTbcmRxMsgLength < rxMsg.totalPayloadLen then .ok ⟨buffer, [], 0⟩
  else if 0 < rxMsg.currentPayloadOffset ∧
      rxMsg.totalPayloadLen ≤ rxMsg.currentPayloadOffset then .ok ⟨buffer, [], 0⟩
  else
    -- 2: a topic starts a new message
    let cleared := if rxMsg.topic.isSome then tbcmPayloadBufferFree buffer else buffer
    -- 3: the event is a whole message
    if tbcmRxMsgIsCompletion rxMsg then
      .ok ⟨cleared, [{
        topic := rxMsg.topic.getD []
        topicLen := rxMsg.topicLen
        payload := rxMsg.payload.map (List.map some)
        payloadLen := rxMsg.payloadLen }], 0⟩
    else do
      -- 4, 5: accumulate, and deliver when everything is there
      let (fed, failed) ← tbcmPayloadBufferFeed cleared rxMsg mallocs
      if tbcmPayloadBufferIsCompletion fed then
        .ok ⟨tbcmPayloadBufferFree fed, [{
          topic := fed.topic.getD []
          topicLen := fed.topicLen
          payload := fed.payload
          payloadLen := fed.receivedLen }], failed⟩
      else .ok ⟨fed, [], failed⟩

/-- The calls of `tbcm_payload_buffer_pocess` for a sequence of events. -/
def pocessAll (buffer : TbcmPayloadBuffer) :
    List (TbcmRxMsgInfo × FeedMallocs) → Except MemFault PayloadBufferResult
  | [] => .ok ⟨buffer, [], 0⟩
  | (rxMsg, mallocs) :: rest => do
    let first ← tbcmPayloadBufferPocess buffer rxMsg mallocs
    let others ← pocessAll first.buffer rest
    .ok ⟨others.buffer, first.calls ++ others.calls, first.failedMallocs + others.failedMallocs⟩

end ThingsboardMqtt
