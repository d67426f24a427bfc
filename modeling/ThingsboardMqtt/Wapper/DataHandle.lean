import Mathlib.Algebra.Group.Int.Defs
import ThingsboardMqtt.Library.CString

set_option autoImplicit false

/-! # The topic of a received message

`_on_mqtt_data_handle` (`tbc_mqtt_wapper.c`) reads the class and the ids of a message off its topic.
The topic is no terminated string: behind its `topic_len` bytes stands what the receive buffer or the
heap holds there, the payload for one. So `onMqttDataHandle` takes the memory from the topic on, and
a string function that runs out of it, or out of the local `temp`, is a fault. -/

namespace ThingsboardMqtt

open CHeap CString Scanf

/-- `tbcm_rx_topic_t`, without the error value that no event carries. -/
inductive TbcmRxTopic
  | attributesResponse
  | sharedAttributes
  | serverrpcRequest
  | clientrpcResponse
  | fwResponse
  | provisionResponse
  deriving DecidableEq, Repr

/-- `TB_MQTT_TOPIC_FW_RESPONSE_PREFIX` -/
def fwResponsePrefix : String := "v2/fw/response/"

/-- The `TB_MQTT_TOPIC_..` a topic is compared with. -/
def TbcmRxTopic.text : TbcmRxTopic → String
  | .attributesResponse => "v1/devices/me/attributes/response/"
  | .sharedAttributes => "v1/devices/me/attributes"
  | .serverrpcRequest => "v1/devices/me/rpc/request/"
  | .clientrpcResponse => "v1/devices/me/rpc/response/"
  | .fwResponse => fwResponsePrefix
  | .provisionResponse => "/provision/response"

def TbcmRxTopic.literal (topic : TbcmRxTopic) : List Char := topic.text.toList

/-- The order of the comparisons. -/
def rxTopics : List TbcmRxTopic :=
  [.attributesResponse, .sharedAttributes, .serverrpcRequest, .clientrpcResponse, .fwResponse,
    .provisionResponse]

/-- `tbcm_publish_data_t`, what `on_event` is called with. -/
structure TbcmRxData where
  topic : TbcmRxTopic
  requestId : UInt32
  chunkId : UInt32
  payload : Block
  payloadLen : Nat
  deriving DecidableEq, Repr

/-! ## The C function -/

/-- The branch that is taken: the first comparison that succeeds. -/
def firstTopic (mem : Memory) : List TbcmRxTopic → Except MemFault (Option TbcmRxTopic)
  | [] => .ok none
  | topic :: rest => do
    if ← startsWith topic.literal mem then .ok (some topic) else firstTopic mem rest

/-- The level separator behind which the chunk id stands. -/
def chunkLevel : List Char := "/chunk/".toList

/-- `size_t` has 32 bits. -/
def sizeT (value : Int) : Nat := (value % 2 ^ 32).toNat

/-- Where the topic level starts that a branch copies to `temp`. -/
def levelOffset (mem : Memory) : TbcmRxTopic → Except MemFault (Option Nat)
  | .attributesResponse => .ok (some TbcmRxTopic.attributesResponse.literal.length)
  | .serverrpcRequest => .ok (some TbcmRxTopic.serverrpcRequest.literal.length)
  | .clientrpcResponse => .ok (some TbcmRxTopic.clientrpcResponse.literal.length)
  | .fwResponse => do
    match ← strstr chunkLevel mem with
    | some offset => .ok (some (offset + chunkLevel.length))
    | none => .ok none
  | .sharedAttributes | .provisionResponse => .ok none

/-- The length of the copy: `topic_len - strlen(..)`, or `topic_len - offset - strlen(..)`. -/
def copyLength (topicLen offset : Nat) : Nat := sizeT ((topicLen : Int) - offset)

/-- `sizeof(temp)` -/
def topicTempSize : Nat := 32

/-- `char temp[32] = {0}; strncpy(temp, topic + .., topic_len - ..)` -/
def levelTemp (mem : Memory) (topicLen offset : Nat) : Except MemFault (List Char) :=
  strncpy (List.replicate topicTempSize nul) (mem.drop offset) (copyLength topicLen offset)

/-- `uint32_t id = 0; sscanf(temp, "%u", &id);` -/
def levelId (mem : Memory) (topicLen offset : Nat) : Except MemFault UInt32 := do
  let temp ← levelTemp mem topicLen offset
  let level ← text temp
  .ok ((scanDec (String.ofList level)).getD 0)

/-- The id in the level that is copied, zero where none is. -/
def copiedId (mem : Memory) (topicLen : Nat) (topic : TbcmRxTopic) : Except MemFault UInt32 := do
  match ← levelOffset mem topic with
  | some offset => levelId mem topicLen offset
  | none => .ok 0

/-- The request id and the chunk id a branch reads. The request id of an F/W response is read from the
    topic itself, by `sscanf(topic, TB_MQTT_TOPIC_FW_RESPONSE_PATTERN, &request_id)`. -/
def topicIds (mem : Memory) (topicLen : Nat) : TbcmRxTopic → Except MemFault (UInt32 × UInt32)
  | .fwResponse => do
    let requestId ← sscanfU fwResponsePrefix.toList mem
    let chunkId ← copiedId mem topicLen .fwResponse
    .ok (requestId.getD 0, chunkId)
  | topic => do
    let requestId ← copiedId mem topicLen topic
    .ok (requestId, 0)

/-- `_on_mqtt_data_handle`: the events it emits. `topic` is the memory from the topic on, `none` is a
    `NULL` pointer. -/
def onMqttDataHandle (topic : Option Memory) (topicLen : Nat) (payload : Option Block)
    (payloadLen : Nat) : Except MemFault (List TbcmRxData) :=
  match topic, payload with
  | some mem, some payload => do
    match ← firstTopic mem rxTopics with
    | none => .ok []
    | some topic => do
      let (requestId, chunkId) ← topicIds mem topicLen topic
      .ok [⟨topic, requestId, chunkId, payload, payloadLen⟩]
  | _, _ => .ok []

/-! ## The branch taken -/

/-- A branch is taken when its comparison succeeds and all earlier ones fail. -/
theorem firstTopic_of_isPrefix {mem : Memory} {front back : List TbcmRxTopic} {topic : TbcmRxTopic}
    (hfront : ∀ other ∈ front, mismatch other.literal mem = true) (htopic : topic.literal <+: mem) :
    firstTopic mem (front ++ topic :: back) = .ok (some topic) := by
  induction front with
  | nil =>
    rw [List.nil_append, firstTopic, startsWith_eq_true_iff.mpr htopic]
    rfl
  | cons other front ih =>
    have hother := startsWith_eq_false_iff.mpr (hfront other List.mem_cons_self)
    rw [List.cons_append, firstTopic, hother]
    exact ih fun t ht => hfront t (List.mem_cons_of_mem _ ht)

/-- No branch is taken exactly when every comparison fails. -/
theorem firstTopic_eq_none_iff {mem : Memory} {topics : List TbcmRxTopic} :
    firstTopic mem topics = .ok none ↔ ∀ topic ∈ topics, mismatch topic.literal mem = true := by
  induction topics with
  | nil => simp [firstTopic]
  | cons topic rest ih =>
    rw [firstTopic, List.forall_mem_cons, ← ih, ← startsWith_eq_false_iff]
    cases hstarts : startsWith topic.literal mem with
    | error fault => simp [Bind.bind, Except.bind]
    | ok starts =>
      cases starts with
      | true => simp [Bind.bind, Except.bind]
      | false => simp [Bind.bind, Except.bind]

theorem firstTopic_eq_some {mem : Memory} {topics : List TbcmRxTopic} {topic : TbcmRxTopic}
    (h : firstTopic mem topics = .ok (some topic)) : topic ∈ topics ∧ topic.literal <+: mem := by
  induction topics with
  | nil => simp [firstTopic] at h
  | cons other rest ih =>
    rw [firstTopic] at h
    cases hstarts : startsWith other.literal mem with
    | error fault => simp [hstarts, Bind.bind, Except.bind] at h
    | ok starts =>
      cases starts with
      | true =>
        obtain rfl : other = topic := by
          simpa [hstarts, Bind.bind, Except.bind] using h
        exact ⟨List.mem_cons_self, startsWith_eq_true_iff.mp hstarts⟩
      | false =>
        rw [hstarts] at h
        exact (ih h).imp_left (List.mem_cons_of_mem _)

end ThingsboardMqtt
