import ThingsboardMqtt.Helper.ServerRpc
import ThingsboardMqtt.Ota.Otaupdate
import ThingsboardMqtt.Wapper.PrintedTopics

set_option autoImplicit false

/-! # The texts of requests

`tbc_mqtt_wapper.c` prints topics and payloads into buffers whose sizes are sums of the lengths that
go in and of a constant, and prints with the size less one. `PrintedText` is such a buffer with what
the format makes of its arguments; a C string is given by its characters. -/

namespace ThingsboardMqtt

open CHeap CString

/-! ## Buffers -/

/-- `int x = value;` for a `size_t` -/
def intOfSizeT (value : Nat) : Int :=
  if value % 2 ^ 32 < 2 ^ 31 then (value % 2 ^ 32 : Nat) else (value % 2 ^ 32 : Nat) - 2 ^ 32

/-- A buffer of `size` bytes, and the text that is printed into it. -/
structure PrintedText where
  size : Int
  text : List Char

namespace PrintedText

/-- `memset(.., 0x00, size)`, `snprintf(.., size - 1, ..)` -/
def buffer (printed : PrintedText) : Except MemFault (List Char) :=
  CString.snprintf (List.replicate printed.size.toNat nul) (printed.size - 1).toNat printed.text

/-- The size exceeds the length by two at least, and the whole text is in the buffer, with its end. -/
def Whole (printed : PrintedText) : Prop :=
  (printed.text.length : Int) + 2 ≤ printed.size ∧
    printed.buffer
      = .ok (printed.text ++ List.replicate (printed.size.toNat - printed.text.length) nul)

theorem whole_of_length {printed : PrintedText}
    (h : (printed.text.length : Int) + 2 ≤ printed.size) : printed.Whole := by
  refine ⟨h, ?_⟩
  rw [buffer, snprintf_of_lt (by omega) (by rw [List.length_replicate]; omega),
    List.drop_replicate, ← List.replicate_succ]
  congr 3
  omega

end PrintedText

/-! ## Attributes requests -/

/-- The topic that `tbcm_attributes_request` prints. -/
def tbcmAttributesRequest (requestId : UInt32) : PrintedText where
  size := intOfSizeT ("v1/devices/me/attributes/request/".length + 20)
  text := "v1/devices/me/attributes/request/".toList ++ printU requestId

/-- `client_len` and `shared_len` -/
def keysLen : Option (List Char) → Int
  | some keys => if 0 < keys.length then intOfSizeT keys.length else 0
  | none => 0

/-- The payload that `tbcm_attributes_request_ex` prints, unless there are no keys to request. -/
def tbcmAttributesRequestExPayload (clientKeys sharedKeys : Option (List Char)) : Option PrintedText :=
  let clientLen := keysLen clientKeys
  let sharedLen := keysLen sharedKeys
  if clientLen ≤ 0 ∧ sharedLen ≤ 0 then none
  else
    some
      { size := intOfSizeT
          (sizeT ("clientKeys".length + clientLen + "sharedKeys".length + sharedLen + 20))
        text :=
          if 0 < clientLen ∧ 0 < sharedLen then
            r#"{"clientKeys":""#.toList ++ clientKeys.getD [] ++ r#"", "sharedKeys":""#.toList ++
              sharedKeys.getD [] ++ r#""}"#.toList
          else if 0 < clientLen then
            r#"{"clientKeys":""#.toList ++ clientKeys.getD [] ++ r#""}"#.toList
          else r#"{"sharedKeys":""#.toList ++ sharedKeys.getD [] ++ r#""}"#.toList }

/-! ## RPC -/

/-- The topic that `tbcm_serverrpc_response` prints. -/
def tbcmServerrpcResponseTopic (requestId : UInt32) : PrintedText where
  size := intOfSizeT RpcClient.responseTopicSize
  text := "v1/devices/me/rpc/response/".toList ++ printU requestId

theorem tbcmServerrpcResponseTopic_text (requestId : UInt32) :
    (RpcClient.responseTopic requestId).toList = (tbcmServerrpcResponseTopic requestId).text := by
  rw [RpcClient.responseTopic_eq]
  exact print_clientrpcResponse requestId

/-- The topic that `tbcm_clientrpc_request` prints. -/
def tbcmClientrpcRequest (requestId : UInt32) : PrintedText where
  size := intOfSizeT ("v1/devices/me/rpc/request/".length + 20)
  text := "v1/devices/me/rpc/request/".toList ++ printU requestId

/-- The payload that `tbcm_clientrpc_request_ex` prints. -/
def tbcmClientrpcRequestExPayload (method params : List Char) : PrintedText where
  size := intOfSizeT ("method".length + method.length + "params".length + params.length + 20)
  text := r#"{"method":""#.toList ++ method ++ r#"","params":"#.toList ++ params ++ r#"}"#.toList

/-! ## Chunk requests -/

/-- The topic that `tbcm_otaupdate_chunk_request` prints. -/
def tbcmOtaupdateChunkRequest (requestId chunkId : UInt32) : PrintedText where
  size := intOfSizeT ("v2/fw/request/%u/chunk/%u".length + 20)
  text := "v2/fw/request/".toList ++ printU requestId ++ "/chunk/".toList ++ printU chunkId

/-- `char payload[20]` of `_otaupdate_chunk_request` -/
def chunkPayloadSize : Nat := 20

/-- What `_otaupdate_chunk_request` prints into it. -/
def otaupdateChunkPayload (otaSize chunkSize : UInt32) : List Char :=
  printU (if otaSize < chunkSize then 0 else chunkSize)

theorem otaupdateChunkRequest_payload {session : Otaupdate} {otaSize chunkSize : UInt32}
    (hota : session.otaAttribute.otaSize = otaSize.toNat)
    (hchunk : session.config.chunkSize = chunkSize.toNat) (isFirstChunk : Bool)
    (answers : OtaAnswers) (dev : OtaDevice) :
    ∃ requestId payload, (otaupdateChunkRequest session isFirstChunk answers dev).2.2.trace
        = dev.trace ++ [.chunkRequest session.addr requestId session.state.chunkId payload
          answers.chunkRequestSent] ∧
      payload.toList = otaupdateChunkPayload otaSize chunkSize := by
  refine ⟨_, _, rfl, ?_⟩
  rw [otaupdateChunkPayload, ← toList_toString, hota, hchunk]
  by_cases hsmall : otaSize < chunkSize
  · rw [if_pos hsmall, if_pos (UInt32.lt_iff_toNat_lt.mp hsmall)]
    rfl
  · rw [if_neg hsmall, if_neg fun h => hsmall (UInt32.lt_iff_toNat_lt.mpr h)]

/-! ## Everything is printed as a whole -/

/-- A text that is printed into a buffer of its own. -/
inductive Outgoing
  | attributesRequest (requestId : UInt32)
  | attributesRequestEx (clientKeys sharedKeys : Option (List Char))
  | serverrpcResponse (requestId : UInt32)
  | clientrpcRequest (requestId : UInt32)
  | clientrpcRequestEx (method params : List Char)
  | otaupdateChunkRequest (requestId chunkId : UInt32)
  deriving DecidableEq, Repr

namespace Outgoing

def printed : Outgoing → Option PrintedText
  | attributesRequest requestId => some (tbcmAttributesRequest requestId)
  | attributesRequestEx clientKeys sharedKeys => tbcmAttributesRequestExPayload clientKeys sharedKeys
  | serverrpcResponse requestId => some (tbcmServerrpcResponseTopic requestId)
  | clientrpcRequest requestId => some (tbcmClientrpcRequest requestId)
  | clientrpcRequestEx method params => some (tbcmClientrpcRequestExPayload method params)
  | otaupdateChunkRequest requestId chunkId => some (tbcmOtaupdateChunkRequest requestId chunkId)

/-- The sums of lengths are within `int`. -/
def InInt : Outgoing → Prop
  | attributesRequestEx clientKeys sharedKeys =>
    "clientKeys".length + (clientKeys.getD []).length + "sharedKeys".length +
      (sharedKeys.getD []).length + 20 < 2 ^ 31
  | clientrpcRequestEx method params =>
    "method".length + method.length + "params".length + params.length + 20 < 2 ^ 31
  | _ => True

end Outgoing

theorem intOfSizeT_of_lt {value : Nat} (h : value < 2 ^ 31) : intOfSizeT value = value := by
  rw [intOfSizeT, Nat.mod_eq_of_lt (by omega), if_pos h]

theorem whole_topic (size : Nat) {front : List Char} (hfront : front.length + 12 ≤ size)
    (hsize : size < 2 ^ 31) (requestId : UInt32) :
    PrintedText.Whole ⟨intOfSizeT size, front ++ printU requestId⟩ := by
  have hdigits := length_printU_le requestId
  refine PrintedText.whole_of_length ?_
  rw [intOfSizeT_of_lt hsize, List.length_append]
  simp only
  omega

theorem keysLen_of_lt (keys : Option (List Char)) (h : (keys.getD []).length < 2 ^ 31) :
    keysLen keys = (keys.getD []).length := by
  cases keys with
  | none => rfl
  | some keys =>
    rw [keysLen]
    split
    · exact intOfSizeT_of_lt h
    · rename_i hempty
      simp only [Option.getD_some]
      omega

/-- The members of an attributes request, of the keys that are not empty. -/
def attributesPayload (clientKeys sharedKeys : List Char) : List Char :=
  if clientKeys ≠ [] ∧ sharedKeys ≠ [] then
    r#"{"clientKeys":""#.toList ++ clientKeys ++ r#"", "sharedKeys":""#.toList ++ sharedKeys ++
      r#""}"#.toList
  else if clientKeys ≠ [] then r#"{"clientKeys":""#.toList ++ clientKeys ++ r#""}"#.toList
  else r#"{"sharedKeys":""#.toList ++ sharedKeys ++ r#""}"#.toList

theorem tbcmAttributesRequestExPayload_whole {clientKeys sharedKeys : Option (List Char)}
    (h : (Outgoing.attributesRequestEx clientKeys sharedKeys).InInt) :
    if clientKeys.getD [] = [] ∧ sharedKeys.getD [] = [] then
      tbcmAttributesRequestExPayload clientKeys sharedKeys = none
    else
      ∃ printed, tbcmAttributesRequestExPayload clientKeys sharedKeys = some printed ∧
        printed.text = attributesPayload (clientKeys.getD []) (sharedKeys.getD []) ∧
        printed.Whole := by
  have hclientName : "clientKeys".length = 10 := rfl
  have hsharedName : "sharedKeys".length = 10 := rfl
  simp only [Outgoing.InInt, hclientName, hsharedName] at h
  have hclient := keysLen_of_lt clientKeys (by omega)
  have hshared := keysLen_of_lt sharedKeys (by omega)
  have hpos : ∀ keys : List Char, (0 : Int) < keys.length ↔ keys ≠ [] := by
    intro keys
    rw [Int.natCast_pos, List.length_pos_iff]
  have hsize : sizeT ((10 : Nat) + ((clientKeys.getD []).length : Int) + (10 : Nat) +
      ((sharedKeys.getD []).length : Int) + 20)
        = 40 + (clientKeys.getD []).length + (sharedKeys.getD []).length := by
    unfold sizeT
    omega
  simp only [tbcmAttributesRequestExPayload, hclient, hshared, hclientName, hsharedName, hsize, hpos,
    ← Int.not_lt, not_ne_iff]
  split
  · rfl
  · refine ⟨_, rfl, rfl, PrintedText.whole_of_length ?_⟩
    simp only
    rw [intOfSizeT_of_lt (by omega)]
    split
    · simp
      omega
    · split
      · simp
        omega
      · simp
        omega

theorem tbcmClientrpcRequestExPayload_whole {method params : List Char}
    (h : (Outgoing.clientrpcRequestEx method params).InInt) :
    (tbcmClientrpcRequestExPayload method params).Whole := by
  have hmethod : "method".length = 6 := rfl
  have hparams : "params".length = 6 := rfl
  simp only [Outgoing.InInt, hmethod, hparams] at h
  refine PrintedText.whole_of_length ?_
  simp only [tbcmClientrpcRequestExPayload, hmethod, hparams]
  rw [intOfSizeT_of_lt (by omega)]
  simp
  omega

theorem tbcmOtaupdateChunkRequest_whole (requestId chunkId : UInt32) :
    (tbcmOtaupdateChunkRequest requestId chunkId).Whole := by
  have hrequest := length_printU_le requestId
  have hfront : ("v2/fw/request/".toList ++ printU requestId ++ "/chunk/".toList).length + 12
      ≤ 45 := by
    simp
    omega
  exact whole_topic 45 hfront (by decide) chunkId

/-- No text is cut: every buffer exceeds the length of its text by two at least, and the payload of a
    chunk request fits with its end. -/
theorem nothingTruncated :
    (∀ outgoing : Outgoing, outgoing.InInt →
      ∀ printed, outgoing.printed = some printed → printed.Whole) ∧
    ∀ otaSize chunkSize : UInt32,
      (otaupdateChunkPayload otaSize chunkSize).length < chunkPayloadSize := by
  constructor
  · intro outgoing hint printed hprinted
    cases outgoing with
    | attributesRequest requestId =>
      obtain rfl := Option.some.inj hprinted
      exact whole_topic 53 (by decide) (by decide) requestId
    | attributesRequestEx clientKeys sharedKeys =>
      have hwhole := tbcmAttributesRequestExPayload_whole hint
      rw [show tbcmAttributesRequestExPayload clientKeys sharedKeys = some printed from hprinted]
        at hwhole
      split at hwhole
      · contradiction
      · obtain ⟨_, hsame, -, hwhole⟩ := hwhole
        obtain rfl := Option.some.inj hsame
        exact hwhole
    | serverrpcResponse requestId =>
      obtain rfl := Option.some.inj hprinted
      exact whole_topic 47 (by decide) (by decide) requestId
    | clientrpcRequest requestId =>
      obtain rfl := Option.some.inj hprinted
      exact whole_topic 46 (by decide) (by decide) requestId
    | clientrpcRequestEx method params =>
      obtain rfl := Option.some.inj hprinted
      exact tbcmClientrpcRequestExPayload_whole hint
    | otaupdateChunkRequest requestId chunkId =>
      obtain rfl := Option.some.inj hprinted
      exact tbcmOtaupdateChunkRequest_whole requestId chunkId
  · intro otaSize chunkSize
    exact Nat.lt_of_le_of_lt (length_printU_le _) (by decide)

theorem nothingTruncated_getTime :
    (tbcmClientrpcRequestExPayload "getTime".toList "{}".toList).Whole :=
  nothingTruncated.1 (.clientrpcRequestEx "getTime".toList "{}".toList)
    (by unfold Outgoing.InInt; decide) _ rfl

end ThingsboardMqtt
