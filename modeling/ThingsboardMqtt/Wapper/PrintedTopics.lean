import ThingsboardMqtt.Wapper.DataHandle

set_option autoImplicit false

/-! # Printed topics are read back

The server prints its ids into the patterns of `tbc_mqtt_protocol.h`. Whatever stands behind such a
topic in memory, `_on_mqtt_data_handle` takes the branch of its class and reads the printed ids: the
earlier comparisons fail within the topic, the level that is copied is the number with at most ten
digits, and the `/` behind the request id of an F/W response ends the number there. -/

namespace ThingsboardMqtt

open CHeap CString Scanf

/-- A received topic with its ids: `TB_MQTT_TOPIC_ATTRIBUTES_RESPONSE_PATTERN`,
    `.._SERVERRPC_REQUEST_PATTERN`, `.._CLIENTRPC_RESPONSE_PATTERN` and `.._FW_RESPONSE_PATTERN` with
    the chunk id behind it. -/
inductive PrintedTopic
  | attributesResponse (requestId : UInt32)
  | serverrpcRequest (requestId : UInt32)
  | clientrpcResponse (requestId : UInt32)
  | fwResponse (requestId chunkId : UInt32)
  deriving DecidableEq, Repr

/-- `%u` -/
def printU (value : UInt32) : List Char := Nat.toDigits 10 value.toNat

namespace PrintedTopic

def topic : PrintedTopic → TbcmRxTopic
  | attributesResponse _ => .attributesResponse
  | serverrpcRequest _ => .serverrpcRequest
  | clientrpcResponse _ => .clientrpcResponse
  | fwResponse _ _ => .fwResponse

def requestId : PrintedTopic → UInt32
  | attributesResponse requestId | serverrpcRequest requestId | clientrpcResponse requestId
  | fwResponse requestId _ => requestId

def chunkId : PrintedTopic → UInt32
  | fwResponse _ chunkId => chunkId
  | _ => 0

/-- The pattern with the ids printed into it. -/
def text : PrintedTopic → String
  | attributesResponse requestId => s!"v1/devices/me/attributes/response/{requestId.toNat}"
  | serverrpcRequest requestId => s!"v1/devices/me/rpc/request/{requestId.toNat}"
  | clientrpcResponse requestId => s!"v1/devices/me/rpc/response/{requestId.toNat}"
  | fwResponse requestId chunkId => s!"v2/fw/response/{requestId.toNat}/chunk/{chunkId.toNat}"

/-- The bytes of the topic. -/
def print (printed : PrintedTopic) : List Char := printed.text.toList

end PrintedTopic

/-! ## Printed numbers -/

theorem length_printU_le (value : UInt32) : (printU value).length ≤ 10 := by
  rw [printU, Nat.length_toDigits_le_iff (by decide) (by decide)]
  have hlt := value.toNat_lt
  omega

theorem nul_not_mem_printU (value : UInt32) : nul ∉ printU value := by
  intro hmem
  obtain ⟨d, hd, heq⟩ := mem_toDigits (by decide) hmem
  exact absurd heq ((by decide : ∀ d < 10, nul ≠ Nat.digitChar d) d hd)

/-- A number at the end of a text, or in front of something that is no digit. -/
theorem scanDec_printU (value : UInt32) {rest : List Char}
    (hrest : ∀ c ∈ rest.head?, decDigit? c = none) :
    scanDec (String.ofList (printU value ++ rest)) = some value := by
  have hlt : value.toNat < 2 ^ 32 := value.toNat_lt
  rw [printU, scanDec_toDigits hlt hrest, UInt32.ofNat_toNat]

theorem behindNumber_printU (value : UInt32) {c : Char} (rest : List Char)
    (hc : decDigit? c = none) : behindNumber (printU value ++ c :: rest) = c :: rest := by
  obtain ⟨d, hd, more, hmore⟩ := exists_toDigits_eq_cons (by decide : 1 < 10) value.toNat
  obtain ⟨hspace, hminus, hplus, -⟩ := hexDigit?_plain (hexDigit?_digitChar d (by omega))
  have hdigits : ∀ e ∈ printU value, (decDigit? e).isSome = true := by
    intro e he
    obtain ⟨k, hk, rfl⟩ := mem_toDigits (by decide) he
    rw [decDigit?_digitChar k hk]
    rfl
  have hdrop : (printU value ++ c :: rest).dropWhile (fun e => (decDigit? e).isSome)
      = c :: rest := by
    rw [List.dropWhile_append_of_pos hdigits, List.dropWhile_cons, hc]
    rfl
  have hfirst : (printU value ++ c :: rest).dropWhile isSpace = printU value ++ c :: rest := by
    rw [printU, hmore, List.cons_append, List.dropWhile_cons, hspace]
    rfl
  rw [behindNumber, hfirst]
  rw [printU, hmore, List.cons_append] at hdrop ⊢
  rw [skipSign_of_ne hminus hplus]
  exact hdrop

/-! ## The level that is copied -/

theorem levelTemp_of_short (head : List Char) {level : List Char} (hlevel : nul ∉ level)
    (hshort : level.length < topicTempSize) (following : Memory) :
    levelTemp (head ++ level ++ following) (head.length + level.length) head.length
      = .ok (level ++ nul :: List.replicate (topicTempSize - 1 - level.length) nul) := by
  have hlength : copyLength (head.length + level.length) head.length = level.length := by
    unfold topicTempSize at hshort
    unfold copyLength sizeT
    omega
  have hdrop : (head ++ level ++ following).drop head.length = level ++ following := by
    rw [List.append_assoc, List.drop_left']
    rfl
  rw [levelTemp, hlength, hdrop, strncpy, if_pos (by rw [List.length_replicate]; omega),
    strntext_append hlevel]
  simp only [Except.bind, Bind.bind, Nat.sub_self, List.replicate_zero, List.append_nil,
    List.drop_replicate]
  rw [← List.replicate_succ]
  congr 3
  omega

theorem levelId_printU (head : List Char) (value : UInt32) (following : Memory) :
    levelId (head ++ printU value ++ following) (head ++ printU value).length head.length
      = .ok value := by
  have hshort : (printU value).length < topicTempSize :=
    Nat.lt_of_le_of_lt (length_printU_le value) (by decide)
  have hread : scanDec (String.ofList (printU value)) = some value := by
    have h := @scanDec_printU value [] (by simp)
    rwa [List.append_nil] at h
  rw [levelId, List.length_append, levelTemp_of_short head (nul_not_mem_printU value) hshort]
  simp only [Bind.bind, Except.bind, text_append_nul (nul_not_mem_printU value), hread,
    Option.getD_some]

/-! ## The F/W response -/

/-- The text up to the chunk id. -/
def fwHead (requestId : UInt32) : List Char := fwResponsePrefix.toList ++ printU requestId

theorem length_fwResponsePrefix : fwResponsePrefix.toList.length = 15 := by decide +kernel

theorem chunkLevel_append_ne_nil (back : Memory) : chunkLevel ++ back ≠ [] :=
  List.append_ne_nil_of_left_ne_nil (by decide +kernel) back

/-- `/chunk/` stands nowhere before the end of the request id. -/
theorem mismatch_fwHead (requestId : UInt32) (back : Memory) :
    ∀ k < (fwHead requestId).length,
      mismatch chunkLevel ((fwHead requestId).drop k ++ (chunkLevel ++ back)) = true := by
  intro k hk
  obtain ⟨d, hd, more, hmore⟩ := exists_toDigits_eq_cons (by decide : 1 < 10) requestId.toNat
  by_cases hhead : k < fwResponsePrefix.toList.length
  · -- within the literal, the last `/` of which stands before a digit
    have hdrop : (fwHead requestId).drop k = fwResponsePrefix.toList.drop k ++ printU requestId := by
      rw [fwHead, List.drop_append_of_le_length (by omega)]
    have hliteral : ∀ k < 15, ∀ d < 10,
        mismatch chunkLevel (fwResponsePrefix.toList.drop k ++ [Nat.digitChar d]) = true := by
      decide +kernel
    rw [length_fwResponsePrefix] at hhead
    have hdigit := mismatch_append (hliteral k hhead d hd) (more ++ (chunkLevel ++ back))
    rw [hdrop, printU, hmore]
    simpa using hdigit
  · -- within the number
    have hdrop : (fwHead requestId).drop k
        = (printU requestId).drop (k - fwResponsePrefix.toList.length) := by
      rw [fwHead, List.drop_append, List.drop_of_length_le (by omega), List.nil_append]
    rw [fwHead, List.length_append] at hk
    have hlt : k - fwResponsePrefix.toList.length < (printU requestId).length := by omega
    obtain ⟨e, he, hdigit⟩ := mem_toDigits (by decide : 1 < 10) (List.getElem_mem hlt)
    have hslash := (by decide +kernel : ∀ e < 10, mismatch chunkLevel [Nat.digitChar e] = true) e he
    rw [hdrop, List.drop_eq_getElem_cons hlt, hdigit]
    simpa using mismatch_append hslash _

theorem nul_not_mem_fwHead (requestId : UInt32) : nul ∉ fwHead requestId := by
  intro hmem
  rcases List.mem_append.mp hmem with hmem | hmem
  · exact absurd hmem (by decide +kernel)
  · exact nul_not_mem_printU requestId hmem

/-- `strstr` finds the separator behind the request id. -/
theorem strstr_fwHead (requestId : UInt32) (back : Memory) :
    strstr chunkLevel (fwHead requestId ++ (chunkLevel ++ back))
      = .ok (some (fwHead requestId).length) :=
  strstr_append (mismatch_fwHead requestId back) (nul_not_mem_fwHead requestId)
    (List.prefix_append _ _) (chunkLevel_append_ne_nil back)

/-- `sscanf` reads the request id, although the topic is not terminated. -/
theorem sscanfU_fwHead (requestId : UInt32) (back : Memory) :
    sscanfU fwResponsePrefix.toList (fwHead requestId ++ (chunkLevel ++ back))
      = .ok (some requestId) := by
  have hslash : decDigit? '/' = none := by decide
  have hchunk : ∃ rest, chunkLevel ++ back = '/' :: rest := by
    have hcons : chunkLevel = '/' :: "chunk/".toList := by decide +kernel
    exact ⟨"chunk/".toList ++ back, by rw [hcons, List.cons_append]⟩
  obtain ⟨rest, hrest⟩ := hchunk
  have hbehind : behindNumber (printU requestId ++ (chunkLevel ++ back)) = chunkLevel ++ back := by
    rw [hrest]
    exact behindNumber_printU requestId rest hslash
  have hread : scanDec (String.ofList (printU requestId ++ (chunkLevel ++ back)))
      = some requestId := by
    rw [hrest]
    exact scanDec_printU requestId (by simp [hslash])
  rw [fwHead, List.append_assoc, sscanfU, startsWith_append, List.drop_left' rfl]
  simp only [Bind.bind, Except.bind, if_true, hbehind, hread]
  rw [if_neg (chunkLevel_append_ne_nil back)]

/-- A number behind the prefix ends in front of `/chunk/` or at the end of a string. -/
theorem exists_stopsNumber {number : List Char}
    (h : chunkLevel <:+: fwResponsePrefix.toList ++ number ∨
      nul ∈ fwResponsePrefix.toList ++ number) : ∃ c ∈ number, stopsNumber c = true := by
  rcases h with hchunk | hnul
  · refine ⟨'k', ?_, by decide⟩
    have hmem : 'k' ∈ fwResponsePrefix.toList ++ number := hchunk.subset (by decide +kernel)
    exact (List.mem_append.mp hmem).resolve_left (by decide +kernel)
  · exact ⟨nul, (List.mem_append.mp hnul).resolve_left (by decide +kernel), by decide⟩

/-! ## Reading back -/

section Print

variable (requestId chunkId : UInt32)

theorem toList_toString (value : UInt32) : (toString value.toNat).toList = printU value := by
  rw [Nat.toString_eq_ofList_toDigits, String.toList_ofList, printU]

theorem print_attributesResponse : (PrintedTopic.attributesResponse requestId).print
    = TbcmRxTopic.attributesResponse.literal ++ printU requestId := by
  unfold PrintedTopic.print PrintedTopic.text TbcmRxTopic.literal TbcmRxTopic.text
  rw [String.toList_append, toList_toString]
  rfl

theorem print_serverrpcRequest : (PrintedTopic.serverrpcRequest requestId).print
    = TbcmRxTopic.serverrpcRequest.literal ++ printU requestId := by
  unfold PrintedTopic.print PrintedTopic.text TbcmRxTopic.literal TbcmRxTopic.text
  rw [String.toList_append, toList_toString]
  rfl

theorem print_clientrpcResponse : (PrintedTopic.clientrpcResponse requestId).print
    = TbcmRxTopic.clientrpcResponse.literal ++ printU requestId := by
  unfold PrintedTopic.print PrintedTopic.text TbcmRxTopic.literal TbcmRxTopic.text
  rw [String.toList_append, toList_toString]
  rfl

theorem print_fwResponse : (PrintedTopic.fwResponse requestId chunkId).print
    = fwHead requestId ++ chunkLevel ++ printU chunkId := by
  unfold PrintedTopic.print PrintedTopic.text fwHead fwResponsePrefix chunkLevel
  rw [String.toList_append, toList_toString, String.toList_append, String.toList_append,
    toList_toString]
  rfl

end Print

/-- The comparisons in front of a topic's own differ from its literal. -/
theorem firstTopic_literal (front : List TbcmRxTopic) {back : List TbcmRxTopic}
    (topic : TbcmRxTopic)
    (hsplit : rxTopics = front ++ topic :: back)
    (hfront : ∀ other ∈ front, mismatch other.literal topic.literal = true) (mem : Memory) :
    firstTopic (topic.literal ++ mem) rxTopics = .ok (some topic) := by
  rw [hsplit]
  exact firstTopic_of_isPrefix (fun other hother => mismatch_append (hfront other hother) mem)
    (List.prefix_append _ _)

/-- The branches but the second are taken by the memory that starts with their literal. -/
theorem firstTopic_eq_some_iff {known : TbcmRxTopic} (hshared : known ≠ .sharedAttributes)
    {mem : Memory} : firstTopic mem rxTopics = .ok (some known) ↔ known.literal <+: mem := by
  refine ⟨fun h => (firstTopic_eq_some h).2, ?_⟩
  rintro ⟨rest, rfl⟩
  cases known with
  | attributesResponse => exact firstTopic_literal [] .attributesResponse rfl (by simp) rest
  | sharedAttributes => exact absurd rfl hshared
  | serverrpcRequest =>
    exact firstTopic_literal [.attributesResponse, .sharedAttributes] .serverrpcRequest rfl
      (by decide +kernel) rest
  | clientrpcResponse =>
    exact firstTopic_literal [.attributesResponse, .sharedAttributes, .serverrpcRequest]
      .clientrpcResponse rfl (by decide +kernel) rest
  | fwResponse =>
    exact firstTopic_literal
      [.attributesResponse, .sharedAttributes, .serverrpcRequest, .clientrpcResponse] .fwResponse
      rfl (by decide +kernel) rest
  | provisionResponse =>
    exact firstTopic_literal
      [.attributesResponse, .sharedAttributes, .serverrpcRequest, .clientrpcResponse, .fwResponse]
      .provisionResponse rfl (by decide +kernel) rest

/-- A printed topic takes the branch of its class. -/
theorem firstTopic_printed (printed : PrintedTopic) (following : Memory) :
    firstTopic (printed.print ++ following) rxTopics = .ok (some printed.topic) := by
  have hshared : printed.topic ≠ .sharedAttributes := by
    cases printed <;> simp [PrintedTopic.topic]
  refine (firstTopic_eq_some_iff hshared).mpr ?_
  cases printed with
  | attributesResponse requestId =>
    rw [print_attributesResponse, List.append_assoc]
    exact List.prefix_append _ _
  | serverrpcRequest requestId =>
    rw [print_serverrpcRequest, List.append_assoc]
    exact List.prefix_append _ _
  | clientrpcResponse requestId =>
    rw [print_clientrpcResponse, List.append_assoc]
    exact List.prefix_append _ _
  | fwResponse requestId chunkId =>
    rw [print_fwResponse, fwHead, List.append_assoc, List.append_assoc, List.append_assoc]
    exact List.prefix_append _ _

theorem copiedId_literal (topic : TbcmRxTopic)
    (hoffset : ∀ mem, levelOffset mem topic = .ok (some topic.literal.length)) (value : UInt32)
    (following : Memory) :
    copiedId (topic.literal ++ printU value ++ following) (topic.literal ++ printU value).length
      topic = .ok value := by
  rw [copiedId, hoffset]
  exact levelId_printU topic.literal value following

theorem copiedId_fwResponse (requestId chunkId : UInt32) (following : Memory) :
    copiedId (fwHead requestId ++ chunkLevel ++ printU chunkId ++ following)
      (fwHead requestId ++ chunkLevel ++ printU chunkId).length .fwResponse = .ok chunkId := by
  have hid := levelId_printU (fwHead requestId ++ chunkLevel) chunkId following
  have hoffset : levelOffset (fwHead requestId ++ chunkLevel ++ printU chunkId ++ following)
      .fwResponse = .ok (some (fwHead requestId ++ chunkLevel).length) := by
    rw [levelOffset, List.append_assoc, List.append_assoc, strstr_fwHead, List.length_append]
    rfl
  rw [copiedId, hoffset]
  exact hid

theorem topicIds_printed (printed : PrintedTopic) (following : Memory) :
    topicIds (printed.print ++ following) printed.print.length printed.topic
      = .ok (printed.requestId, printed.chunkId) := by
  cases printed with
  | attributesResponse requestId =>
    simp only [print_attributesResponse, PrintedTopic.topic, topicIds,
      copiedId_literal .attributesResponse (fun _ => rfl), Bind.bind, Except.bind]
    rfl
  | serverrpcRequest requestId =>
    simp only [print_serverrpcRequest, PrintedTopic.topic, topicIds,
      copiedId_literal .serverrpcRequest (fun _ => rfl), Bind.bind, Except.bind]
    rfl
  | clientrpcResponse requestId =>
    simp only [print_clientrpcResponse, PrintedTopic.topic, topicIds,
      copiedId_literal .clientrpcResponse (fun _ => rfl), Bind.bind, Except.bind]
    rfl
  | fwResponse requestId chunkId =>
    have hrequest : sscanfU fwResponsePrefix.toList
        (fwHead requestId ++ chunkLevel ++ printU chunkId ++ following) = .ok (some requestId) := by
      rw [List.append_assoc, List.append_assoc]
      exact sscanfU_fwHead requestId _
    simp only [print_fwResponse, PrintedTopic.topic, topicIds, hrequest, copiedId_fwResponse,
      Bind.bind, Except.bind]
    rfl

/-- A printed topic is read back: one event of its class, with its ids and the payload. -/
theorem onMqttDataHandle_printed (printed : PrintedTopic) (following : Memory) (payload : Block)
    (payloadLen : Nat) :
    onMqttDataHandle (some (printed.print ++ following)) printed.print.length (some payload)
        payloadLen
      = .ok [⟨printed.topic, printed.requestId, printed.chunkId, payload, payloadLen⟩] := by
  simp only [onMqttDataHandle, firstTopic_printed, topicIds_printed, Bind.bind, Except.bind]

example : (PrintedTopic.fwResponse 17 4294967295).print
    = "v2/fw/response/17/chunk/4294967295".toList := by decide +kernel

end ThingsboardMqtt
