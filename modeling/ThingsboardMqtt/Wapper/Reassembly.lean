import ThingsboardMqtt.Wapper.PayloadBuffer

set_option autoImplicit false

/-! # Reassembly of fragmented messages

A `Transfer` is a message together with the fragments of it that reached the device: in order,
contiguous, the first one with the topic, possibly cut short by a lost connection. Whatever the
buffer held before, one transfer delivers its message exactly when all of its bytes arrived, it is
not too long and every `malloc` succeeded (`transferAll_reassembled`).

The proof follows one message through its fragments. `Part` says how the buffer relates to the
bytes that arrived: those it stored and those a failed `malloc` lost. A lost byte is never made up
for, which is why a message that met an allocation failure cannot complete any more. -/

namespace ThingsboardMqtt

open CHeap

/-! ## Messages, fragments, transfers -/

/-- An MQTT message; a topic name has at least one character. -/
structure Message where
  topic : List UInt8
  payload : List UInt8
  topic_ne_nil : topic ≠ []

/-- The data of one event and the allocator's answers while it is processed. -/
structure Fragment where
  data : Option (List UInt8)
  mallocs : FeedMallocs

def Fragment.bytes (fragment : Fragment) : List UInt8 := fragment.data.getD []

/-- The part of a message that reached the device: fragments whose data, put together, are the
    first bytes of the payload. -/
structure Transfer where
  message : Message
  fragments : List Fragment
  contiguous : fragments.flatMap Fragment.bytes <+: message.payload

/-- All bytes of the payload arrived. -/
def Transfer.Whole (transfer : Transfer) : Prop :=
  transfer.fragments.flatMap Fragment.bytes = transfer.message.payload

/-- The events of consecutive fragments: the first with `topic`, the others without one, each with
    the message's total length and its own offset. -/
def fragmentEvents (total : Nat) (topic : Option (List UInt8)) (offset : Nat) :
    List Fragment → List (TbcmRxMsgInfo × FeedMallocs)
  | [] => []
  | fragment :: rest =>
    (⟨topic, fragment.data, total, offset⟩, fragment.mallocs) ::
      fragmentEvents total none (offset + fragment.bytes.length) rest

def Transfer.events (transfer : Transfer) : List (TbcmRxMsgInfo × FeedMallocs) :=
  fragmentEvents transfer.message.payload.length (some transfer.message.topic) 0
    transfer.fragments

/-- The results of a sequence of transfers through one buffer, transfer by transfer. -/
def transferAll (buffer : TbcmPayloadBuffer) :
    List Transfer → Except MemFault (List PayloadBufferResult)
  | [] => .ok []
  | transfer :: rest => do
    let result ← pocessAll buffer transfer.events
    let results ← transferAll result.buffer rest
    .ok (result :: results)

/-- `on_payload_process` got exactly the topic and the payload of the message. -/
structure PayloadProcessCall.Carries (call : PayloadProcessCall) (message : Message) : Prop where
  topic : call.topic = message.topic
  topicLen : call.topicLen = message.topic.length
  payload : call.payload.getD [] = message.payload.map some
  payloadLen : call.payloadLen = message.payload.length

/-- What one transfer may do to the world. -/
structure Reassembled (transfer : Transfer) (result : PayloadBufferResult) : Prop where
  exact : ∀ call ∈ result.calls, call.Carries transfer.message
  delivered : transfer.Whole → 1 ≤ transfer.message.payload.length →
    transfer.message.payload.length ≤ maxTbcmRxMsgLength → result.failedMallocs = 0 →
    result.calls.length = 1 ∧ result.buffer = .empty
  suppressed : ¬ transfer.Whole ∨ maxTbcmRxMsgLength < transfer.message.payload.length ∨
    0 < result.failedMallocs → result.calls = []

/-! ## Feeding payload bytes -/

/-- `got` arrived so far, `lost` bytes of it were never stored, the rest is in the buffer. -/
def Part (total : Nat) (got : List UInt8) (lost : Nat) (buffer : TbcmPayloadBuffer) : Prop :=
  match buffer.payload with
  | none => lost = got.length
  | some mem =>
    mem.length = total ∧ buffer.totalPayloadLen = total ∧ buffer.receivedLen + lost = got.length ∧
      (lost = 0 → Block.Holds mem got)

theorem part_of_payload_none {total : Nat} {buffer : TbcmPayloadBuffer}
    (h : buffer.payload = none) : Part total [] 0 buffer := by
  simp [Part, h]

/-- The first bytes of a message go to a fresh block, or the allocation fails and they are lost. -/
theorem feedPayload_fresh {total lost : Nat} {got data : List UInt8} {buffer : TbcmPayloadBuffer}
    {rxMsg : TbcmRxMsgInfo} (mallocOk : Bool) (hpart : Part total got lost buffer)
    (hnone : buffer.payload = none) (hdata : rxMsg.payload = some data)
    (htotal : rxMsg.totalPayloadLen = total) (hoffset : rxMsg.currentPayloadOffset = got.length)
    (hfit : got.length + data.length ≤ total) (hpos : 0 < data.length) :
    ∃ buffer' failed lost', feedPayload buffer rxMsg mallocOk = .ok (buffer', failed) ∧
      buffer'.topic = buffer.topic ∧ buffer'.topicLen = buffer.topicLen ∧
      Part total (got ++ data) lost' buffer' ∧ lost ≤ lost' ∧
      (failed = 0 → lost' = lost) ∧ (0 < failed → 0 < lost') := by
  have hlost : lost = got.length := by simpa [Part, hnone] using hpart
  have hcond : 0 < data.length ∧ 0 < rxMsg.totalPayloadLen := ⟨hpos, by omega⟩
  cases mallocOk with
  | false =>
    refine ⟨{ buffer with totalPayloadLen := 0, receivedLen := 0 }, 1, lost + data.length,
      ?_, rfl, rfl, ?_, by omega, by simp, by omega⟩
    · simp only [feedPayload, hdata, if_pos hcond, hnone, malloc, Bool.false_eq_true, if_false]
    · simp [Part, hnone, hlost]
  | true =>
    have hlen : (List.replicate total none : Block).length = total := by simp
    have hcopy : ∃ mem, memcpy (List.replicate total none) got.length data = .ok mem ∧
        mem.length = total ∧ (lost = 0 → Block.Holds mem data) := by
      rcases got.eq_nil_or_concat with rfl | ⟨front, last, rfl⟩
      · obtain ⟨mem, hcpy, hmem, hholds⟩ := Block.holds_memcpy
          (Block.holds_nil (List.replicate total none)) data (by simpa using hfit)
        exact ⟨mem, hcpy, hmem.trans hlen, fun _ => hholds⟩
      · refine ⟨_, if_pos (by rw [hlen]; exact hfit), ?_, ?_⟩
        · simp only [List.length_append, List.length_take, List.length_map, List.length_drop, hlen]
          omega
        · intro h0
          simp [hlost] at h0
    obtain ⟨mem, hcpy, hmem, hholds⟩ := hcopy
    refine ⟨{ buffer with
        payload := some mem
        totalPayloadLen := total
        receivedLen := data.length }, 0, lost, ?_, rfl, rfl, ?_, Nat.le_refl _, fun _ => rfl,
      by omega⟩
    · rw [htotal] at hcond
      simp only [feedPayload, hdata, htotal, if_pos hcond, hnone, malloc, if_true, hoffset, hcpy]
      rfl
    · refine ⟨hmem, rfl, ?_, ?_⟩
      · simp only [List.length_append]; omega
      · intro h0
        have hgot : got = [] := List.length_eq_zero_iff.mp (by omega)
        simpa [hgot] using hholds h0

/-- Later bytes of the message are copied right behind those that are there. -/
theorem feedPayload_more {total lost : Nat} {got data : List UInt8} {buffer : TbcmPayloadBuffer}
    {mem : Block} {rxMsg : TbcmRxMsgInfo} (mallocOk : Bool) (hpart : Part total got lost buffer)
    (hsome : buffer.payload = some mem) (hdata : rxMsg.payload = some data)
    (htotal : rxMsg.totalPayloadLen = total) (hoffset : rxMsg.currentPayloadOffset = got.length)
    (hfit : got.length + data.length ≤ total) (hpos : 0 < data.length) :
    ∃ buffer', feedPayload buffer rxMsg mallocOk = .ok (buffer', 0) ∧
      buffer'.topic = buffer.topic ∧ buffer'.topicLen = buffer.topicLen ∧
      Part total (got ++ data) lost buffer' := by
  simp only [Part, hsome] at hpart
  obtain ⟨hmem, hbtotal, hrecv, hholds⟩ := hpart
  have hcond : 0 < data.length ∧ 0 < rxMsg.totalPayloadLen := ⟨hpos, by omega⟩
  have hcopy : ∃ mem', memcpy mem got.length data = .ok mem' ∧ mem'.length = total ∧
      (lost = 0 → Block.Holds mem' (got ++ data)) := by
    by_cases h0 : lost = 0
    · obtain ⟨mem', hcpy, hmem', hholds'⟩ :=
        Block.holds_memcpy (hholds h0) data (by omega)
      exact ⟨mem', hcpy, hmem'.trans hmem, fun _ => hholds'⟩
    · refine ⟨_, if_pos (by omega), ?_, fun h => absurd h h0⟩
      simp only [List.length_append, List.length_take, List.length_map, List.length_drop]
      omega
  obtain ⟨mem', hcpy, hmem', hholds'⟩ := hcopy
  refine ⟨{ buffer with
      payload := some mem'
      receivedLen := buffer.receivedLen + data.length }, ?_, rfl, rfl, hmem', hbtotal, ?_, hholds'⟩
  · have hsame : ¬ buffer.totalPayloadLen ≠ rxMsg.totalPayloadLen := by
      rw [hbtotal, htotal]; exact fun h => h rfl
    simp only [feedPayload, hdata, if_pos hcond, hsome, if_neg hsame, hoffset, hcpy]
    rfl
  · simp only [List.length_append]; omega

/-- Feeding the next fragment of a message keeps `Part`; bytes get lost only when `malloc` fails. -/
theorem feedPayload_part {total lost : Nat} {got : List UInt8} {buffer : TbcmPayloadBuffer}
    (rxMsg : TbcmRxMsgInfo) (mallocOk : Bool) (hpart : Part total got lost buffer)
    (htotal : rxMsg.totalPayloadLen = total) (hoffset : rxMsg.currentPayloadOffset = got.length)
    (hfit : got.length + rxMsg.payloadLen ≤ total) :
    ∃ buffer' failed lost', feedPayload buffer rxMsg mallocOk = .ok (buffer', failed) ∧
      buffer'.topic = buffer.topic ∧ buffer'.topicLen = buffer.topicLen ∧
      Part total (got ++ rxMsg.payload.getD []) lost' buffer' ∧ lost ≤ lost' ∧
      (failed = 0 → lost' = lost) ∧ (0 < failed → 0 < lost') := by
  cases hdata : rxMsg.payload with
  | none =>
    refine ⟨buffer, 0, lost, ?_, rfl, rfl, by simpa using hpart, Nat.le_refl _, fun _ => rfl, by omega⟩
    simp only [feedPayload, hdata]
  | some data =>
    simp only [TbcmRxMsgInfo.payloadLen, hdata, Option.getD_some] at hfit ⊢
    rcases Nat.eq_zero_or_pos data.length with hzero | hpos
    · have hnil : data = [] := List.length_eq_zero_iff.mp hzero
      have hcond : ¬ (0 < data.length ∧ 0 < rxMsg.totalPayloadLen) := by omega
      refine ⟨buffer, 0, lost, ?_, rfl, rfl, by simpa [hnil] using hpart, Nat.le_refl _, fun _ => rfl,
        by omega⟩
      simp only [feedPayload, hdata, if_neg hcond]
    · cases hmem : buffer.payload with
      | none => exact feedPayload_fresh mallocOk hpart hmem hdata htotal hoffset hfit hpos
      | some mem =>
        obtain ⟨buffer', hfeed, htopic, htlen, hpart'⟩ :=
          feedPayload_more mallocOk hpart hmem hdata htotal hoffset hfit hpos
        exact ⟨buffer', 0, lost, hfeed, htopic, htlen, hpart', Nat.le_refl _, fun _ => rfl, by omega⟩

/-! ## One message, fragment by fragment -/

/-- Where a message stands after the fragments whose bytes are `got`: delivered, or still pending
    in the buffer, complete or with bytes or the topic lost to a failed `malloc`. -/
inductive Reassembly (message : Message) (got : List UInt8) :
    TbcmPayloadBuffer → List PayloadProcessCall → Nat → Prop
  | delivered {call : PayloadProcessCall} (hcall : call.Carries message)
      (hall : got = message.payload) : Reassembly message got .empty [call] 0
  | pending {buffer : TbcmPayloadBuffer} {failed lost : Nat}
      (hpos : 0 < message.payload.length)
      (hpart : Part message.payload.length got lost buffer)
      (hlost : failed = 0 → lost = 0)
      (htopic : buffer.topic = some message.topic ∧ buffer.topicLen = message.topic.length ∧
          (0 < failed → 0 < lost) ∨ buffer.topic = none ∧ 0 < failed)
      (hopen : failed = 0 → got.length < message.payload.length) :
      Reassembly message got buffer [] failed

/-- A pending message is complete in the buffer exactly when all of its bytes are stored there. -/
theorem part_isCompletion {message : Message} {got : List UInt8} {lost : Nat}
    {buffer : TbcmPayloadBuffer} (hpart : Part message.payload.length got lost buffer)
    (hgot : got <+: message.payload)
    (hdone : tbcmPayloadBufferIsCompletion buffer = true) :
    lost = 0 ∧ got = message.payload ∧ buffer.payload = some (message.payload.map some) ∧
      buffer.receivedLen = message.payload.length := by
  simp only [tbcmPayloadBufferIsCompletion, Bool.and_eq_true, decide_eq_true_eq] at hdone
  obtain ⟨⟨⟨-, -⟩, hsome⟩, hle⟩ := hdone
  obtain ⟨mem, hmem⟩ := Option.isSome_iff_exists.mp hsome
  simp only [Part, hmem] at hpart
  obtain ⟨hlen, htotal, hrecv, hholds⟩ := hpart
  have hgotlen := hgot.length_le
  have hlost : lost = 0 := by omega
  have hall : got = message.payload := hgot.eq_of_length (by omega)
  subst hall
  exact ⟨hlost, rfl, by rw [hmem, (hholds hlost).eq_of_length (by omega)], by omega⟩

/-- The tail of `tbcm_payload_buffer_pocess`: deliver and free, or keep collecting. -/
theorem reassembly_of_part {message : Message} {got : List UInt8} {failed lost : Nat}
    {buffer : TbcmPayloadBuffer} (hpart : Part message.payload.length got lost buffer)
    (hgot : got <+: message.payload) (hlost : failed = 0 → lost = 0)
    (htopic : buffer.topic = some message.topic ∧ buffer.topicLen = message.topic.length ∧
      (0 < failed → 0 < lost) ∨ buffer.topic = none ∧ 0 < failed)
    (hpos : 0 < message.payload.length) :
    if tbcmPayloadBufferIsCompletion buffer then
      failed = 0 ∧ Reassembly message got .empty [{
        topic := buffer.topic.getD []
        topicLen := buffer.topicLen
        payload := buffer.payload
        payloadLen := buffer.receivedLen }] 0
    else Reassembly message got buffer [] failed := by
  split
  · rename_i hdone
    obtain ⟨h0, hall, hpayload, hrecv⟩ := part_isCompletion hpart hgot hdone
    rcases htopic with ⟨htop, htlen, hfail⟩ | ⟨htop, -⟩
    · have hfailed : failed = 0 := by omega
      refine ⟨hfailed, .delivered ⟨?_, htlen, ?_, hrecv⟩ hall⟩
      · simp [htop]
      · simp [hpayload]
    · simp [tbcmPayloadBufferIsCompletion, htop] at hdone
  · rename_i hopen
    refine .pending hpos hpart hlost htopic ?_
    intro hfailed
    by_contra hge
    apply hopen
    -- everything arrived and nothing was lost, so the completion test would have succeeded
    have hall : got = message.payload := hgot.eq_of_length (by have := hgot.length_le; omega)
    obtain ⟨htop, htlen, -⟩ | ⟨-, hfail⟩ := htopic
    · cases hmem : buffer.payload with
      | none =>
        simp only [Part, hmem, hlost hfailed] at hpart
        rw [hall] at hpart
        omega
      | some mem =>
        simp only [Part, hmem] at hpart
        have htne : 0 < message.topic.length := List.length_pos_iff.mpr message.topic_ne_nil
        have hl := hlost hfailed
        have hlen : buffer.totalPayloadLen ≤ buffer.receivedLen := by
          rw [hall] at hpart; omega
        simp [tbcmPayloadBufferIsCompletion, htop, hmem, htlen, htne, hlen]
    · omega

/-- The tail of `tbcm_payload_buffer_pocess` after the fragment was fed. -/
theorem pocess_of_feed {message : Message} {got : List UInt8} {failed' lost : Nat}
    {fed : TbcmPayloadBuffer} (failed : Nat) (buffer : TbcmPayloadBuffer) (rxMsg : TbcmRxMsgInfo)
    (mallocs : FeedMallocs) (hmax : rxMsg.totalPayloadLen ≤ maxTbcmRxMsgLength)
    (hoffset : ¬ (0 < rxMsg.currentPayloadOffset ∧
      rxMsg.totalPayloadLen ≤ rxMsg.currentPayloadOffset))
    (hopen : tbcmRxMsgIsCompletion rxMsg = false)
    (hfeed : tbcmPayloadBufferFeed
      (if rxMsg.topic.isSome then tbcmPayloadBufferFree buffer else buffer) rxMsg mallocs
        = .ok (fed, failed'))
    (hpart : Part message.payload.length got lost fed) (hgot : got <+: message.payload)
    (hlost : failed + failed' = 0 → lost = 0)
    (htopic : fed.topic = some message.topic ∧ fed.topicLen = message.topic.length ∧
      (0 < failed + failed' → 0 < lost) ∨ fed.topic = none ∧ 0 < failed + failed')
    (hpos : 0 < message.payload.length) :
    ∃ result, tbcmPayloadBufferPocess buffer rxMsg mallocs = .ok result ∧
      Reassembly message got result.buffer result.calls (failed + result.failedMallocs) := by
  have htail := reassembly_of_part hpart hgot hlost htopic hpos
  have hlong : ¬ maxTbcmRxMsgLength < rxMsg.totalPayloadLen := by omega
  unfold tbcmPayloadBufferPocess
  simp only [if_neg hlong, if_neg hoffset, hopen, Bool.false_eq_true, if_false, hfeed]
  split at htail
  · rename_i hdone
    obtain ⟨hnone, hdelivered⟩ := htail
    exact ⟨_, if_pos hdone, by simpa [hnone, tbcmPayloadBufferFree] using hdelivered⟩
  · rename_i hdone
    exact ⟨_, if_neg hdone, htail⟩

/-- The first fragment starts its message over, whatever the buffer held. -/
theorem pocess_first (buffer : TbcmPayloadBuffer) {message : Message} {fragment : Fragment}
    (hgot : fragment.bytes <+: message.payload)
    (hmax : message.payload.length ≤ maxTbcmRxMsgLength) :
    ∃ result, tbcmPayloadBufferPocess buffer
        ⟨some message.topic, fragment.data, message.payload.length, 0⟩ fragment.mallocs
          = .ok result ∧
      Reassembly message fragment.bytes result.buffer result.calls result.failedMallocs := by
  have htne : 0 < message.topic.length := List.length_pos_iff.mpr message.topic_ne_nil
  have hgotlen := hgot.length_le
  by_cases hall : message.payload.length ≤ fragment.bytes.length
  · -- the fast path: the fragment is the message
    have hbytes : fragment.bytes = message.payload := hgot.eq_of_length (by omega)
    have hdone : tbcmRxMsgIsCompletion
        ⟨some message.topic, fragment.data, message.payload.length, 0⟩ = true := by
      simp only [tbcmRxMsgIsCompletion, TbcmRxMsgInfo.topicLen, TbcmRxMsgInfo.payloadLen,
        Option.isSome_some, Option.getD_some, Bool.true_and, Bool.and_eq_true]
      exact ⟨decide_eq_true htne, decide_eq_true hall⟩
    have hlong : ¬ maxTbcmRxMsgLength < message.payload.length := by omega
    refine ⟨_, by simp only [tbcmPayloadBufferPocess, if_neg hlong, Nat.lt_irrefl, false_and,
      if_false, hdone, if_true]; rfl, .delivered ⟨rfl, rfl, ?_, ?_⟩ hbytes⟩
    · rw [← hbytes, Fragment.bytes]
      cases fragment.data <;> rfl
    · rw [← hbytes]; rfl
  · have hopen : tbcmRxMsgIsCompletion
        ⟨some message.topic, fragment.data, message.payload.length, 0⟩ = false := by
      simp only [tbcmRxMsgIsCompletion, Bool.and_eq_false_iff, decide_eq_false_iff_not]
      exact Or.inr hall
    let rxMsg : TbcmRxMsgInfo := ⟨some message.topic, fragment.data, message.payload.length, 0⟩
    cases htm : fragment.mallocs.topic with
    | false =>
      have hfeed : tbcmPayloadBufferFeed
          (if rxMsg.topic.isSome then tbcmPayloadBufferFree buffer else buffer) rxMsg
            fragment.mallocs = .ok (.empty, 1) := by
        simp [rxMsg, tbcmPayloadBufferFeed, htne, htm, tbcmPayloadBufferFree,
          TbcmPayloadBuffer.empty]
      have hpart : Part message.payload.length fragment.bytes fragment.bytes.length .empty := by
        simp [Part, TbcmPayloadBuffer.empty]
      obtain ⟨result, hres, hre⟩ := pocess_of_feed 0 buffer rxMsg fragment.mallocs hmax
        (by simp [rxMsg]) hopen hfeed hpart hgot (by simp) (Or.inr ⟨rfl, Nat.one_pos⟩) (by omega)
      exact ⟨result, hres, by simpa using hre⟩
    | true =>
      let started : TbcmPayloadBuffer :=
        { TbcmPayloadBuffer.empty with
          topic := some message.topic
          topicLen := message.topic.length }
      have hstarted : Part message.payload.length [] 0 started := part_of_payload_none rfl
      obtain ⟨fed, failed', lost', hfeed, htop, htlen, hpart, -, hkeep, hloss⟩ :=
        feedPayload_part rxMsg fragment.mallocs.payload hstarted rfl rfl
          (by simpa [rxMsg, TbcmRxMsgInfo.payloadLen, Fragment.bytes] using hgotlen)
      obtain ⟨result, hres, hre⟩ := pocess_of_feed 0 buffer rxMsg fragment.mallocs hmax
        (by simp [rxMsg]) hopen
        (by simpa [rxMsg, tbcmPayloadBufferFeed, htne, htm, tbcmPayloadBufferFree] using hfeed)
        (by simpa [rxMsg, Fragment.bytes] using hpart) hgot (by omega)
        (Or.inl ⟨htop, htlen, by omega⟩) (by omega)
      exact ⟨result, hres, by simpa using hre⟩

/-- Every later fragment takes its message one step further. -/
theorem pocess_next {message : Message} {got : List UInt8} {buffer : TbcmPayloadBuffer}
    {calls : List PayloadProcessCall} {failed : Nat} {fragment : Fragment}
    (h : Reassembly message got buffer calls failed)
    (hgot : got ++ fragment.bytes <+: message.payload)
    (hmax : message.payload.length ≤ maxTbcmRxMsgLength) :
    ∃ result, tbcmPayloadBufferPocess buffer
        ⟨none, fragment.data, message.payload.length, got.length⟩ fragment.mallocs = .ok result ∧
      Reassembly message (got ++ fragment.bytes) result.buffer (calls ++ result.calls)
        (failed + result.failedMallocs) := by
  have hlong : ¬ maxTbcmRxMsgLength < message.payload.length := by omega
  have hgotlen := hgot.length_le
  rw [List.length_append] at hgotlen
  by_cases hoffset : 0 < got.length ∧ message.payload.length ≤ got.length
  · -- nothing is left of the message: an empty fragment, which is dropped
    have hempty : fragment.bytes = [] := List.length_eq_zero_iff.mp (by omega)
    refine ⟨⟨buffer, [], 0⟩, ?_, by simpa [hempty] using h⟩
    simp only [tbcmPayloadBufferPocess, if_neg hlong, if_pos hoffset]
  · have hopen : tbcmRxMsgIsCompletion
        ⟨none, fragment.data, message.payload.length, got.length⟩ = false := rfl
    cases h with
    | delivered hcall hall =>
      have hzero : message.payload.length = 0 := by rw [hall] at hoffset; omega
      have hempty : fragment.bytes = [] := List.length_eq_zero_iff.mp (by omega)
      have hfeed : feedPayload .empty
          ⟨none, fragment.data, message.payload.length, got.length⟩ fragment.mallocs.payload
            = .ok (.empty, 0) := by
        unfold feedPayload
        cases fragment.data <;> simp [hzero]
      refine ⟨⟨.empty, [], 0⟩, ?_, by simpa [hempty] using .delivered hcall hall⟩
      simp only [tbcmPayloadBufferPocess, if_neg hlong, if_neg hoffset, hopen,
        Option.isSome_none, Bool.false_eq_true, if_false, tbcmPayloadBufferFeed, hfeed]
      rfl
    | @pending _ _ lost hpos hpart hlost htopic _ =>
      obtain ⟨fed, failed', lost', hfeed, htop, htlen, hpart', hle, hkeep, hloss⟩ :=
        feedPayload_part ⟨none, fragment.data, message.payload.length, got.length⟩
          fragment.mallocs.payload hpart rfl rfl hgotlen
      refine pocess_of_feed failed buffer _ fragment.mallocs hmax hoffset hopen
        (by simpa [tbcmPayloadBufferFeed] using hfeed) hpart' hgot (by omega) ?_ hpos
      rw [htop, htlen]
      rcases htopic with ⟨h1, h2, h3⟩ | ⟨h1, h2⟩
      · exact Or.inl ⟨h1, h2, by omega⟩
      · exact Or.inr ⟨h1, by omega⟩

/-! ## Whole transfers -/

theorem pocessAll_tooLong (buffer : TbcmPayloadBuffer) {total : Nat}
    (hlong : maxTbcmRxMsgLength < total) (fragments : List Fragment) :
    ∀ (topic : Option (List UInt8)) (offset : Nat),
      pocessAll buffer (fragmentEvents total topic offset fragments) = .ok ⟨buffer, [], 0⟩ := by
  induction fragments with
  | nil => intro topic offset; rfl
  | cons fragment rest ih =>
    intro topic offset
    simp only [fragmentEvents, pocessAll, tbcmPayloadBufferPocess, if_pos hlong]
    have hrest := ih none (offset + fragment.bytes.length)
    simp only [bind, Except.bind, hrest, List.append_nil, Nat.add_zero]

theorem pocessAll_next {message : Message}
    (hmax : message.payload.length ≤ maxTbcmRxMsgLength) (fragments : List Fragment) :
    ∀ {got : List UInt8} {buffer : TbcmPayloadBuffer} {calls : List PayloadProcessCall}
      {failed : Nat}, Reassembly message got buffer calls failed →
      got ++ fragments.flatMap Fragment.bytes <+: message.payload →
      ∃ result, pocessAll buffer
          (fragmentEvents message.payload.length none got.length fragments) = .ok result ∧
        Reassembly message (got ++ fragments.flatMap Fragment.bytes) result.buffer
          (calls ++ result.calls) (failed + result.failedMallocs) := by
  induction fragments with
  | nil =>
    intro got buffer calls failed h _
    exact ⟨⟨buffer, [], 0⟩, rfl, by simpa using h⟩
  | cons fragment rest ih =>
    intro got buffer calls failed h hgot
    rw [List.flatMap_cons, ← List.append_assoc] at hgot ⊢
    obtain ⟨first, hfirst, hre⟩ :=
      pocess_next h ((List.prefix_append _ _).trans hgot) hmax
    obtain ⟨others, hothers, hre'⟩ := ih hre hgot
    rw [List.length_append] at hothers
    refine ⟨⟨others.buffer, first.calls ++ others.calls,
      first.failedMallocs + others.failedMallocs⟩, ?_, ?_⟩
    · simp only [fragmentEvents, pocessAll, hfirst, hothers, bind, Except.bind]
    · simpa [List.append_assoc, Nat.add_assoc] using hre'

/-- What a message's reassembly says about the transfer that got that far. -/
theorem reassembled_of_reassembly {transfer : Transfer} {result : PayloadBufferResult}
    (hmax : transfer.message.payload.length ≤ maxTbcmRxMsgLength)
    (h : Reassembly transfer.message (transfer.fragments.flatMap Fragment.bytes) result.buffer
      result.calls result.failedMallocs) : Reassembled transfer result := by
  obtain ⟨buffer, calls, failed⟩ := result
  cases h with
  | delivered hcall hall =>
    refine ⟨?_, fun _ _ _ _ => ⟨rfl, rfl⟩, ?_⟩
    · intro c hc
      rw [List.mem_singleton.mp hc]; exact hcall
    · intro hlost
      rcases hlost with hpart | hlong | hfail
      · exact absurd hall hpart
      · exact absurd hmax (by omega)
      · exact absurd hfail (Nat.lt_irrefl 0)
  | pending _ _ _ _ hopen =>
    refine ⟨fun c hc => absurd hc (by simp), ?_, fun _ => rfl⟩
    intro hall _ _ hok
    have hlt := hopen hok
    unfold Transfer.Whole at hall
    rw [hall] at hlt
    exact absurd hlt (Nat.lt_irrefl _)

theorem transfer_reassembled (buffer : TbcmPayloadBuffer) (transfer : Transfer) :
    ∃ result, pocessAll buffer transfer.events = .ok result ∧ Reassembled transfer result := by
  rcases Nat.lt_or_ge maxTbcmRxMsgLength transfer.message.payload.length with hlong | hmax
  · refine ⟨⟨buffer, [], 0⟩, pocessAll_tooLong buffer hlong _ _ _, fun c hc => absurd hc (by simp),
      fun _ _ hmax _ => absurd hmax (by omega), fun _ => rfl⟩
  · obtain ⟨message, fragments, hcontiguous⟩ := transfer
    cases fragments with
    | nil =>
      refine ⟨⟨buffer, [], 0⟩, rfl, fun c hc => absurd hc (by simp), ?_,
        fun _ => rfl⟩
      intro hall hpos _ _
      have hnil : message.payload = [] := by simpa [Transfer.Whole] using hall.symm
      simp [hnil] at hpos
    | cons fragment rest =>
      rw [List.flatMap_cons] at hcontiguous
      obtain ⟨first, hfirst, hre⟩ :=
        pocess_first buffer ((List.prefix_append _ _).trans hcontiguous) hmax
      obtain ⟨others, hothers, hre'⟩ := pocessAll_next hmax rest hre hcontiguous
      refine ⟨⟨others.buffer, first.calls ++ others.calls,
        first.failedMallocs + others.failedMallocs⟩, ?_, reassembled_of_reassembly hmax hre'⟩
      simp only [Transfer.events, fragmentEvents, pocessAll, Nat.zero_add, hfirst, hothers, bind,
        Except.bind]

/-- **Reassembly over whole runs.** Any sequence of transfers, from any leftover buffer: no copy
    leaves its block, every call of `on_payload_process` carries the message whose fragment was
    just processed, a message that arrived whole without an allocation failure is delivered once
    and leaves the buffer empty, and every other message is never delivered. -/
theorem transferAll_reassembled (buffer : TbcmPayloadBuffer) (transfers : List Transfer) :
    ∃ results, transferAll buffer transfers = .ok results ∧
      List.Forall₂ Reassembled transfers results := by
  induction transfers generalizing buffer with
  | nil => exact ⟨[], rfl, .nil⟩
  | cons transfer rest ih =>
    obtain ⟨result, hresult, hre⟩ := transfer_reassembled buffer transfer
    obtain ⟨results, hresults, hall⟩ := ih result.buffer
    refine ⟨result :: results, ?_, .cons hre hall⟩
    simp only [transferAll, hresult, hresults, bind, Except.bind]

end ThingsboardMqtt
