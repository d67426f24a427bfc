import ThingsboardMqtt.Wapper.PrintedTopics

set_option autoImplicit false

/-! # Where the topic parser leaves its grammar and its topic

`_on_mqtt_data_handle` compares prefixes, without regard to `topic_len`, and drops the result of
`sscanf`. Three consequences, each with the exact condition under which the parser is right
nevertheless:

* a topic outside the grammar of `tbc_mqtt_protocol.h` is rejected only when the memory at the topic
  differs from all six literals (`rejectsMalformed_iff`);
* what follows the topic decides a comparison or the search for `/chunk/` that the topic's own bytes
  leave open (`ownBytesDecide_iff`);
* the length of the copy to `temp` wraps when the literal ends behind the topic, and is too large for
  a long level (`copiesFit_iff`). -/

namespace ThingsboardMqtt

open CHeap CString Scanf

/-- A topic as it is handed over: `topic_len` is an `int`. -/
structure RxTopic where
  bytes : List Char
  length_lt : bytes.length < 2 ^ 31

/-- `_on_mqtt_data_handle` of a message whose topic is followed by `following` in memory. -/
def RxTopic.handle (topic : RxTopic) (following : Memory) (payload : Option Block)
    (payloadLen : Nat) : Except MemFault (List TbcmRxData) :=
  onMqttDataHandle (some (topic.bytes ++ following)) topic.bytes.length payload payloadLen

/-! ## Rejection -/

/-- A decimal numeral of a `uint32_t` value. -/
def isNumeral (level : List Char) : Bool :=
  level ≠ [] && level.all Char.isDigit && Nat.ofDigitChars 10 level 0 < 2 ^ 32

/-- The topics `tbc_mqtt_protocol.h` says are received. -/
inductive InGrammar : List Char → Prop
  | sharedAttributes : InGrammar TbcmRxTopic.sharedAttributes.literal
  | provisionResponse : InGrammar TbcmRxTopic.provisionResponse.literal
  | attributesResponse {id : List Char} (hid : isNumeral id = true) :
    InGrammar (TbcmRxTopic.attributesResponse.literal ++ id)
  | serverrpcRequest {id : List Char} (hid : isNumeral id = true) :
    InGrammar (TbcmRxTopic.serverrpcRequest.literal ++ id)
  | clientrpcResponse {id : List Char} (hid : isNumeral id = true) :
    InGrammar (TbcmRxTopic.clientrpcResponse.literal ++ id)
  | fwResponse {id chunk : List Char} (hid : isNumeral id = true) (hchunk : isNumeral chunk = true) :
    InGrammar (TbcmRxTopic.fwResponse.literal ++ id ++ chunkLevel ++ chunk)

/-- A topic outside the grammar emits no event. -/
def RejectsMalformed (topic : RxTopic) (following : Memory) (payload : Option Block)
    (payloadLen : Nat) : Prop :=
  ¬ InGrammar topic.bytes → topic.handle following payload payloadLen = .ok []

/-- No event is emitted exactly when no branch is taken. -/
theorem onMqttDataHandle_eq_nil_iff {mem : Memory} {topicLen : Nat} {payload : Block}
    {payloadLen : Nat} : onMqttDataHandle (some mem) topicLen (some payload) payloadLen = .ok [] ↔
      ∀ topic ∈ rxTopics, mismatch topic.literal mem = true := by
  rw [← firstTopic_eq_none_iff]
  simp only [onMqttDataHandle]
  cases hfirst : firstTopic mem rxTopics with
  | error fault => simp [Bind.bind, Except.bind]
  | ok found =>
    cases found with
    | none => simp [Bind.bind, Except.bind]
    | some topic =>
      cases hids : topicIds mem topicLen topic with
      | error fault => simp [hids, Bind.bind, Except.bind]
      | ok ids => simp [hids, Bind.bind, Except.bind]

/-- A topic outside the grammar is rejected exactly when, with what follows it, it differs from the
    six literals. -/
theorem rejectsMalformed_iff (topic : RxTopic) (following : Memory) (payload : Option Block)
    (payloadLen : Nat) :
    RejectsMalformed topic following payload payloadLen ↔
      InGrammar topic.bytes ∨ payload = none ∨
        ∀ known ∈ rxTopics, mismatch known.literal (topic.bytes ++ following) = true := by
  unfold RejectsMalformed RxTopic.handle
  cases payload with
  | none => simp [onMqttDataHandle]
  | some payload =>
    rw [onMqttDataHandle_eq_nil_iff]
    simp only [reduceCtorEq, false_or]
    exact or_iff_not_imp_left.symm

/-- An id that is no number. -/
def namedAttributesTopic : RxTopic := ⟨"v1/devices/me/attributes/response/abc".toList, by decide⟩

theorem not_inGrammar_namedAttributes : ¬ InGrammar namedAttributesTopic.bytes := by
  intro hgrammar
  generalize htopic : namedAttributesTopic.bytes = topic at hgrammar
  have hother : ∀ known ∈ [TbcmRxTopic.serverrpcRequest, .clientrpcResponse, .fwResponse],
      ¬ known.literal <+: namedAttributesTopic.bytes := by
    decide +kernel
  cases hgrammar with
  | sharedAttributes => exact absurd htopic (by decide +kernel)
  | provisionResponse => exact absurd htopic (by decide +kernel)
  | attributesResponse hid =>
    rename_i id
    have hlevel : id = "abc".toList := by
      refine @List.append_cancel_left _ TbcmRxTopic.attributesResponse.literal _ _ ?_
      rw [← htopic]
      decide +kernel
    rw [hlevel] at hid
    exact absurd hid (by decide +kernel)
  | serverrpcRequest hid =>
    exact hother .serverrpcRequest (by decide) ⟨_, htopic.symm⟩
  | clientrpcResponse hid =>
    exact hother .clientrpcResponse (by decide) ⟨_, htopic.symm⟩
  | fwResponse hid hchunk =>
    rw [List.append_assoc, List.append_assoc] at htopic
    exact hother .fwResponse (by decide) ⟨_, htopic.symm⟩

/-- The request id that is no number is dispatched as the request id zero. -/
theorem rejectsMalformed_fails_namedAttributes :
    namedAttributesTopic.handle [] (some []) 0 = .ok [⟨.attributesResponse, 0, 0, [], 0⟩] ∧
      ¬ RejectsMalformed namedAttributesTopic [] (some []) 0 := by
  have hhandle : namedAttributesTopic.handle [] (some []) 0
      = .ok [⟨.attributesResponse, 0, 0, [], 0⟩] := by
    decide +kernel
  refine ⟨hhandle, ?_⟩
  intro hrejects
  rw [hrejects not_inGrammar_namedAttributes] at hhandle
  exact absurd hhandle (by decide)

/-! ## What follows the topic -/

theorem firstTopic_append_right {mem : Memory} {topics : List TbcmRxTopic}
    {found : Option TbcmRxTopic} (h : firstTopic mem topics = .ok found) (following : Memory) :
    firstTopic (mem ++ following) topics = .ok found := by
  induction topics with
  | nil => exact h
  | cons topic rest ih =>
    rw [firstTopic] at h ⊢
    cases hstarts : startsWith topic.literal mem with
    | error fault => simp [hstarts, Bind.bind, Except.bind] at h
    | ok starts =>
      rw [hstarts] at h
      rw [startsWith_append_right hstarts following]
      cases starts with
      | true => exact h
      | false => exact ih h

/-- The comparisons are decided by a topic that ends within none of the literals. -/
theorem exists_firstTopic_eq {mem : Memory} {topics : List TbcmRxTopic}
    (h : ∀ topic ∈ topics, mem <+: topic.literal → mem = topic.literal) :
    ∃ found, firstTopic mem topics = .ok found := by
  induction topics with
  | nil => exact ⟨none, rfl⟩
  | cons topic rest ih =>
    obtain ⟨starts, hstarts⟩ := exists_startsWith_eq (h topic List.mem_cons_self)
    rw [firstTopic, hstarts]
    cases starts with
    | true => exact ⟨some topic, rfl⟩
    | false => exact ih fun t ht => h t (List.mem_cons_of_mem _ ht)

theorem copyLength_of_le {topicLen offset : Nat} (hoffset : offset ≤ topicLen)
    (hlen : topicLen < 2 ^ 32) : copyLength topicLen offset = topicLen - offset := by
  unfold copyLength sizeT
  omega

theorem levelId_append_right {mem : Memory} (hlen : mem.length < 2 ^ 32) {offset : Nat}
    (hoffset : offset ≤ mem.length) (following : Memory) :
    levelId (mem ++ following) mem.length offset = levelId mem mem.length offset := by
  have htemp : levelTemp (mem ++ following) mem.length offset
      = levelTemp mem mem.length offset := by
    unfold levelTemp
    rw [copyLength_of_le hoffset hlen, List.drop_append_of_le_length hoffset, strncpy, strncpy,
      strntext_append_right (by simp)]
  rw [levelId, levelId, htemp]

theorem length_le_of_strstr {part : List Char} {mem : Memory} {offset : Nat} (hne : part ≠ [])
    (h : strstr part mem = .ok (some offset)) : offset + part.length ≤ mem.length := by
  have hle := (strstr_eq_some h).length_le
  have hpos := List.length_pos_of_ne_nil hne
  rw [List.length_drop] at hle
  omega

theorem topicIds_append_right {mem : Memory} (hlen : mem.length < 2 ^ 32) {topic : TbcmRxTopic}
    (htopic : topic.literal <+: mem)
    (hchunk : topic = .fwResponse → chunkLevel <:+: mem ∨ nul ∈ mem) (following : Memory) :
    topicIds (mem ++ following) mem.length topic = topicIds mem mem.length topic := by
  have hcopied : ∀ offset, levelOffset mem topic = .ok (some offset) →
      levelOffset (mem ++ following) topic = .ok (some offset) → offset ≤ mem.length →
      copiedId (mem ++ following) mem.length topic = copiedId mem mem.length topic := by
    intro offset hmem hmemFollowing hoffset
    rw [copiedId, copiedId, hmem, hmemFollowing]
    exact levelId_append_right hlen hoffset following
  cases topic with
  | attributesResponse => rw [topicIds, topicIds, hcopied _ rfl rfl htopic.length_le] <;> simp
  | sharedAttributes => rfl
  | serverrpcRequest => rw [topicIds, topicIds, hcopied _ rfl rfl htopic.length_le] <;> simp
  | clientrpcResponse => rw [topicIds, topicIds, hcopied _ rfl rfl htopic.length_le] <;> simp
  | provisionResponse => rfl
  | fwResponse =>
    have hends := hchunk rfl
    obtain ⟨found, hfound⟩ := exists_strstr_eq (by decide +kernel) hends
    have hfound' := strstr_append_right (by decide +kernel) hfound following
    have hcopy : copiedId (mem ++ following) mem.length .fwResponse
        = copiedId mem mem.length .fwResponse := by
      cases found with
      | none => simp only [copiedId, levelOffset, hfound, hfound', Bind.bind, Except.bind]
      | some offset =>
        refine hcopied (offset + chunkLevel.length) ?_ ?_
          (length_le_of_strstr (by decide +kernel) hfound)
        · rw [levelOffset, hfound]
          rfl
        · rw [levelOffset, hfound']
          rfl
    have hscan : sscanfU fwResponsePrefix.toList (mem ++ following)
        = sscanfU fwResponsePrefix.toList mem := by
      obtain ⟨number, rfl⟩ := htopic
      have hscans := sscanfU_of_stops fwResponsePrefix.toList (exists_stopsNumber hends)
      have hshort := hscans []
      rw [List.append_nil] at hshort
      exact (hscans following).trans hshort.symm
    rw [topicIds, topicIds, hscan, hcopy]

/-- The topic ends within none of the literals, and an F/W topic holds `/chunk/` or the end of a
    string. -/
def DecidesItself (topic : List Char) : Prop :=
  (∀ known ∈ rxTopics, topic <+: known.literal → topic = known.literal) ∧
    (TbcmRxTopic.fwResponse.literal <+: topic → chunkLevel <:+: topic ∨ nul ∈ topic)

/-- A topic that decides itself is handled alike in front of any memory. -/
theorem handle_of_decidesItself {topic : RxTopic} (hdecides : DecidesItself topic.bytes)
    (following : Memory) (payload : Option Block) (payloadLen : Nat) :
    topic.handle following payload payloadLen = topic.handle [] payload payloadLen := by
  unfold RxTopic.handle
  rw [List.append_nil]
  cases payload with
  | none => rfl
  | some payload =>
    obtain ⟨found, hfound⟩ := exists_firstTopic_eq hdecides.1
    have hlen : topic.bytes.length < 2 ^ 32 := Nat.lt_trans topic.length_lt (by decide)
    simp only [onMqttDataHandle, hfound, firstTopic_append_right hfound following]
    cases found with
    | none => rfl
    | some known =>
      have hknown := (firstTopic_eq_some hfound).2
      have hids := topicIds_append_right hlen hknown (fun heq => hdecides.2 (heq ▸ hknown)) following
      simp only [hids, Bind.bind, Except.bind]

/-- A topic that ends within a literal: the comparison reads on. -/
theorem firstTopic_take : ∀ known ∈ rxTopics, ∀ k < known.literal.length,
    firstTopic (known.literal.take k) rxTopics = .error .outOfBounds ∧
      (firstTopic (known.literal.take k ++ [nul]) rxTopics = .ok none ∨
        firstTopic (known.literal.take k ++ [nul]) rxTopics = .ok (some .sharedAttributes)) := by
  decide +kernel

/-- What stands behind a topic that ends within a literal is compared with the literal. -/
theorem handle_within_literal {topic : RxTopic} {known : TbcmRxTopic} (hknown : known ∈ rxTopics)
    (hwithin : topic.bytes <+: known.literal) (hne : topic.bytes ≠ known.literal) (payload : Block)
    (payloadLen : Nat) : topic.handle [] (some payload) payloadLen
      ≠ topic.handle [nul] (some payload) payloadLen := by
  have htake : topic.bytes = known.literal.take topic.bytes.length :=
    List.prefix_iff_eq_take.mp hwithin
  have hshort : topic.bytes.length < known.literal.length := by
    refine Nat.lt_of_le_of_ne hwithin.length_le fun hlength => hne ?_
    exact hwithin.eq_of_length hlength
  obtain ⟨hends, hterminated⟩ := firstTopic_take known hknown _ hshort
  rw [← htake] at hends hterminated
  intro heq
  unfold RxTopic.handle at heq
  rw [List.append_nil] at heq
  simp only [onMqttDataHandle, hends, Bind.bind, Except.bind] at heq
  rcases hterminated with hnone | hshared
  · simp [hnone] at heq
  · simp [hshared, topicIds, copiedId, levelOffset, Bind.bind, Except.bind] at heq

/-- What stands behind an F/W topic without a chunk level is searched for one. -/
theorem handle_without_chunkLevel {topic : RxTopic}
    (hstarts : TbcmRxTopic.fwResponse.literal <+: topic.bytes)
    (hchunk : ¬ chunkLevel <:+: topic.bytes) (hnul : nul ∉ topic.bytes) (payload : Block)
    (payloadLen : Nat) : topic.handle [] (some payload) payloadLen
      ≠ topic.handle [nul] (some payload) payloadLen := by
  obtain ⟨number, hnumber⟩ := hstarts
  have hfirst : ∀ following, firstTopic (topic.bytes ++ following) rxTopics
      = .ok (some .fwResponse) := fun following =>
    (firstTopic_eq_some_iff (by decide)).mpr
      ⟨number ++ following, by rw [← hnumber, List.append_assoc]⟩
  have hends : copiedId (topic.bytes ++ []) topic.bytes.length .fwResponse
      = .error .outOfBounds := by
    rw [List.append_nil, copiedId, levelOffset, strstr_eq_error hchunk hnul]
    rfl
  have hterminated : copiedId (topic.bytes ++ [nul]) topic.bytes.length .fwResponse = .ok 0 := by
    rw [copiedId, levelOffset, strstr_eq_none (by decide +kernel) hchunk hnul]
    rfl
  have hscan : sscanfU fwResponsePrefix.toList (topic.bytes ++ [nul])
      = .ok (scanDec (String.ofList (number ++ [nul]))) := by
    have hstops : ∃ c ∈ number ++ [nul], stopsNumber c = true := ⟨nul, by simp, by decide⟩
    have hscans := sscanfU_of_stops fwResponsePrefix.toList hstops []
    rw [List.append_nil, ← List.append_assoc] at hscans
    rw [← hnumber]
    exact hscans
  intro heq
  unfold RxTopic.handle at heq
  simp only [onMqttDataHandle, hfirst, topicIds, hends, hterminated, hscan, Bind.bind,
    Except.bind] at heq
  cases hfirstScan : sscanfU fwResponsePrefix.toList (topic.bytes ++ []) with
  | error fault => simp only [hfirstScan, reduceCtorEq] at heq
  | ok requestId => simp only [hfirstScan, reduceCtorEq] at heq

/-- The memory behind a topic does not matter exactly when the topic decides itself. -/
theorem ownBytesDecide_iff (topic : RxTopic) (payload : Option Block) (payloadLen : Nat) :
    (∀ following following' : Memory,
        topic.handle following payload payloadLen = topic.handle following' payload payloadLen) ↔
      payload = none ∨ DecidesItself topic.bytes := by
  constructor
  · intro halike
    cases payload with
    | none => exact .inl rfl
    | some payload =>
      refine .inr ⟨?_, ?_⟩
      · intro known hknown hwithin
        by_contra hne
        exact handle_within_literal hknown hwithin hne payload payloadLen (halike [] [nul])
      · intro hstarts
        by_contra hneither
        obtain ⟨hchunk, hnul⟩ := not_or.mp hneither
        exact handle_without_chunkLevel hstarts hchunk hnul payload payloadLen (halike [] [nul])
  · rintro (rfl | hdecides) following following'
    · rfl
    · rw [handle_of_decidesItself hdecides following,
        handle_of_decidesItself hdecides following']

/-- The topic of the shared attributes, a prefix of that of the attribute responses. -/
def sharedAttributesTopic : RxTopic := ⟨"v1/devices/me/attributes".toList, by decide⟩

/-- The same topic and payload in front of two memories are two messages. -/
theorem ownBytesDecide_fails_sharedAttributes :
    ¬ ∀ following following' : Memory, sharedAttributesTopic.handle following (some []) 0
      = sharedAttributesTopic.handle following' (some []) 0 := by
  intro halike
  exact absurd (halike "{}".toList "/response/7".toList) (by decide +kernel)

/-! ## The copy to `temp` -/

/-- The subtraction does not wrap, and the copy stays within `temp` and leaves it terminated. -/
def CopyFits (mem : Memory) (topicLen offset : Nat) : Prop :=
  0 ≤ (topicLen : Int) - offset ∧ copyLength topicLen offset < topicTempSize ∧
    ∃ temp, levelTemp mem topicLen offset = .ok temp ∧ temp.length = topicTempSize ∧ nul ∈ temp

/-- Every copy the branch taken makes fits. -/
def CopiesFit (topic : RxTopic) (following : Memory) (payload : Option Block) : Prop :=
  ∀ known offset, payload ≠ none →
    firstTopic (topic.bytes ++ following) rxTopics = .ok (some known) →
    levelOffset (topic.bytes ++ following) known = .ok (some offset) →
    CopyFits (topic.bytes ++ following) topic.bytes.length offset

/-- The level that starts at `offset` is one of the topic and has at most 31 characters. -/
def LevelFits (topic : RxTopic) (offset : Nat) : Prop :=
  offset ≤ topic.bytes.length ∧ topic.bytes.length < offset + topicTempSize

/-- The topics with a level behind the literal. -/
def levelTopics : List TbcmRxTopic := [.attributesResponse, .serverrpcRequest, .clientrpcResponse]

/-- The condition on the topic and on what follows: a level behind a literal fits, and so does the
    level behind the first `/chunk/` of an F/W response. -/
def LevelsFit (topic : RxTopic) (following : Memory) : Prop :=
  (∀ known ∈ levelTopics, known.literal <+: topic.bytes ++ following →
      LevelFits topic known.literal.length) ∧
    (TbcmRxTopic.fwResponse.literal <+: topic.bytes ++ following →
      ∀ found, strstr chunkLevel (topic.bytes ++ following) = .ok (some found) →
        LevelFits topic (found + chunkLevel.length))

/-- A copy of fewer characters than `temp` has. -/
theorem levelTemp_of_fits {mem : Memory} {topicLen offset : Nat} (hmem : topicLen ≤ mem.length)
    (hoffset : offset ≤ topicLen) (hlen : topicLen < 2 ^ 32)
    (hshort : topicLen < offset + topicTempSize) :
    ∃ temp, levelTemp mem topicLen offset = .ok temp ∧ temp.length = topicTempSize ∧
      nul ∈ temp := by
  have hlt : topicLen - offset < topicTempSize := by omega
  have hbound : topicLen - offset ≤ (mem.drop offset).length := by
    rw [List.length_drop]
    omega
  obtain ⟨chars, hchars, hle⟩ := exists_strntext_eq hbound
  have htemp : levelTemp mem topicLen offset = .ok (chars
      ++ List.replicate (topicLen - offset - chars.length) nul
      ++ (List.replicate topicTempSize nul).drop (topicLen - offset)) := by
    rw [levelTemp, copyLength_of_le hoffset hlen, strncpy,
      if_pos (by rw [List.length_replicate]; omega), hchars]
    rfl
  refine ⟨_, htemp, ?_, ?_⟩
  · simp only [List.length_append, List.length_replicate, List.length_drop]
    omega
  · -- the last character of `temp` is not written
    refine List.mem_append_right _ ?_
    rw [List.drop_replicate, List.mem_replicate]
    exact ⟨by omega, rfl⟩

theorem copyFits_iff (topic : RxTopic) (following : Memory) (offset : Nat) :
    CopyFits (topic.bytes ++ following) topic.bytes.length offset ↔ LevelFits topic offset := by
  have hlen : topic.bytes.length < 2 ^ 32 := Nat.lt_trans topic.length_lt (by decide)
  constructor
  · rintro ⟨hnonneg, hshort, -⟩
    have hoffset : offset ≤ topic.bytes.length := by omega
    rw [copyLength_of_le hoffset hlen] at hshort
    exact ⟨hoffset, by omega⟩
  · rintro ⟨hoffset, hshort⟩
    refine ⟨by omega, ?_, levelTemp_of_fits (by simp) hoffset hlen hshort⟩
    rw [copyLength_of_le hoffset hlen]
    omega

/-- Where the level of a branch starts: behind the literal, or behind the first `/chunk/`. -/
theorem levelOffset_eq_some_iff {mem : Memory} {known : TbcmRxTopic} {offset : Nat} :
    levelOffset mem known = .ok (some offset) ↔
      (known ∈ levelTopics ∧ known.literal.length = offset) ∨ (known = .fwResponse ∧
        ∃ found, strstr chunkLevel mem = .ok (some found) ∧ found + chunkLevel.length = offset) := by
  cases known with
  | attributesResponse => simp [levelOffset, levelTopics]
  | sharedAttributes => simp [levelOffset, levelTopics]
  | serverrpcRequest => simp [levelOffset, levelTopics]
  | clientrpcResponse => simp [levelOffset, levelTopics]
  | provisionResponse => simp [levelOffset, levelTopics]
  | fwResponse =>
    rw [levelOffset]
    cases hfound : strstr chunkLevel mem with
    | error fault => simp [levelTopics, Bind.bind, Except.bind]
    | ok found =>
      cases found with
      | none => simp [levelTopics, Bind.bind, Except.bind]
      | some k => simp [levelTopics, Bind.bind, Except.bind]

/-- The copies fit exactly when the levels do. -/
theorem copiesFit_iff (topic : RxTopic) (following : Memory) (payload : Option Block) :
    CopiesFit topic following payload ↔ payload = none ∨ LevelsFit topic following := by
  have hnotShared : ∀ known ∈ levelTopics, known ≠ .sharedAttributes := by decide
  constructor
  · intro hcopies
    by_cases hpayload : payload = none
    · exact .inl hpayload
    · have hfits := fun known offset hne hstarts hoffset => (copyFits_iff topic following offset).mp
        (hcopies known offset hpayload ((firstTopic_eq_some_iff hne).mpr hstarts)
          (levelOffset_eq_some_iff.mpr hoffset))
      refine .inr ⟨?_, ?_⟩
      · intro known hknown hstarts
        exact hfits known _ (hnotShared known hknown) hstarts (.inl ⟨hknown, rfl⟩)
      · intro hstarts found hfound
        exact hfits .fwResponse _ (by decide) hstarts (.inr ⟨rfl, found, hfound, rfl⟩)
  · rintro (hnone | hlevels) known offset hpayload hfirst hoffset
    · exact absurd hnone hpayload
    · obtain ⟨-, hstarts⟩ := firstTopic_eq_some hfirst
      rw [copyFits_iff]
      rcases levelOffset_eq_some_iff.mp hoffset with ⟨hknown, rfl⟩ | ⟨rfl, found, hfound, rfl⟩
      · exact hlevels.1 known hknown hstarts
      · exact hlevels.2 hstarts found hfound

/-- A request id of forty digits. -/
def longRequestTopic : RxTopic :=
  ⟨"v1/devices/me/rpc/request/1234567890123456789012345678901234567890".toList, by decide +kernel⟩

/-- The copy of the long level leaves `temp`. -/
theorem copiesFit_fails_longRequest : ¬ CopiesFit longRequestTopic [] (some []) := by
  intro hcopies
  have hfits := hcopies .serverrpcRequest TbcmRxTopic.serverrpcRequest.literal.length (by simp)
    (by decide +kernel) rfl
  exact absurd hfits.2.1 (by decide +kernel)

end ThingsboardMqtt
