import ThingsboardMqtt.Library.Execution
import ThingsboardMqtt.Wapper.PayloadBuffer

set_option autoImplicit false

/-! # Fragments in any order

`Reassembly` follows the fragments that a broker sends. Here the events come in any order, from any
messages, repeated and overlapping, and each is only well formed by itself. No copy leaves its block
(`pocess_ok`), but a message counts as complete when the lengths of its fragments add up. The sum is
the number of the bytes that were written as long as no fragment brings a byte that is there already
(`Counted`), and not any longer (`exists_miscounted`). -/

namespace ThingsboardMqtt

open CHeap Execution

/-! ## Events and their outcomes -/

/-- The data of the event are within the message. -/
def TbcmRxMsgInfo.WellFormed (rxMsg : TbcmRxMsgInfo) : Prop :=
  rxMsg.currentPayloadOffset + rxMsg.payloadLen ≤ rxMsg.totalPayloadLen

instance (rxMsg : TbcmRxMsgInfo) : Decidable rxMsg.WellFormed :=
  inferInstanceAs (Decidable (_ ≤ _))

/-- The payload is a block of the total length. -/
def TbcmPayloadBuffer.Fits (buffer : TbcmPayloadBuffer) : Prop :=
  ∀ mem, buffer.payload = some mem → mem.length = buffer.totalPayloadLen

/-- The bytes that go to the payload: those of a fragment that is not empty and of a message as long
    as the one that is there. -/
def TbcmPayloadBuffer.Takes (buffer : TbcmPayloadBuffer) (rxMsg : TbcmRxMsgInfo) (mem : Block) :
    Prop :=
  0 < rxMsg.payloadLen ∧ 0 < rxMsg.totalPayloadLen ∧
    (buffer.payload = some mem ∧ buffer.totalPayloadLen = rxMsg.totalPayloadLen ∨
      buffer.payload = none ∧ mem = List.replicate rxMsg.totalPayloadLen none)

/-- What `_tbcm_payload_buffer_feed` leaves of payload and lengths. -/
inductive Fed (buffer : TbcmPayloadBuffer) (rxMsg : TbcmRxMsgInfo) : TbcmPayloadBuffer → Prop
  | kept : Fed buffer rxMsg buffer
  | unallocated (hnone : buffer.payload = none) :
    Fed buffer rxMsg { buffer with
      totalPayloadLen := 0
      receivedLen := 0 }
  | copied {mem mem' : Block} {receivedLen : Nat} (htakes : buffer.Takes rxMsg mem)
      (hcopy : memcpy mem rxMsg.currentPayloadOffset (rxMsg.payload.getD []) = .ok mem')
      (hreceived : receivedLen
        = (if buffer.payload.isSome then buffer.receivedLen else 0) + rxMsg.payloadLen) :
    Fed buffer rxMsg { buffer with
      payload := some mem'
      totalPayloadLen := rxMsg.totalPayloadLen
      receivedLen := receivedLen }

theorem feedPayload_fed {buffer : TbcmPayloadBuffer} (hfits : buffer.Fits) {rxMsg : TbcmRxMsgInfo}
    (hwell : rxMsg.WellFormed) (mallocOk : Bool) :
    ∃ fed failed, feedPayload buffer rxMsg mallocOk = .ok (fed, failed) ∧ Fed buffer rxMsg fed := by
  unfold TbcmRxMsgInfo.WellFormed at hwell
  cases hdata : rxMsg.payload with
  | none => exact ⟨buffer, 0, by simp [feedPayload, hdata], .kept⟩
  | some data =>
    have hlen : rxMsg.payloadLen = data.length := by simp [TbcmRxMsgInfo.payloadLen, hdata]
    by_cases hcond : 0 < data.length ∧ 0 < rxMsg.totalPayloadLen
    · cases hpayload : buffer.payload with
      | none =>
        cases mallocOk with
        | false =>
          exact ⟨_, 1, by simp only [feedPayload, hdata, if_pos hcond, hpayload, malloc,
            Bool.false_eq_true, if_false], .unallocated hpayload⟩
        | true =>
          obtain ⟨mem', hcopy, -, -⟩ := @memcpy_written (List.replicate rxMsg.totalPayloadLen none)
            rxMsg.currentPayloadOffset data (by rw [List.length_replicate]; omega)
          refine ⟨_, 0, ?_, .copied ⟨hlen ▸ hcond.1, hcond.2, .inr ⟨hpayload, rfl⟩⟩
            (by rw [hdata]; exact hcopy) rfl⟩
          simp only [feedPayload, hdata, if_pos hcond, hpayload, malloc, if_true, hcopy, bind,
            Except.bind, Option.isSome_none, Bool.false_eq_true, if_false, Nat.zero_add, hlen]
      | some mem =>
        by_cases hsame : buffer.totalPayloadLen = rxMsg.totalPayloadLen
        · obtain ⟨mem', hcopy, -, -⟩ := @memcpy_written mem rxMsg.currentPayloadOffset data
            (by rw [hfits mem hpayload]; omega)
          refine ⟨_, 0, ?_, .copied ⟨hlen ▸ hcond.1, hcond.2, .inl ⟨hpayload, hsame⟩⟩
            (by rw [hdata]; exact hcopy) rfl⟩
          simp only [feedPayload, hdata, if_pos hcond, hpayload, hsame, ne_eq, not_true_eq_false,
            if_false, hcopy, bind, Except.bind, Option.isSome_some, if_true, hlen]
        · exact ⟨buffer, 0, by simp only [feedPayload, hdata, if_pos hcond, hpayload, ne_eq, hsame,
            not_false_eq_true, if_true], .kept⟩
    · exact ⟨buffer, 0, by simp only [feedPayload, hdata, if_neg hcond], .kept⟩

/-- The call that hands the accumulated message over. -/
def TbcmPayloadBuffer.delivery (buffer : TbcmPayloadBuffer) : PayloadProcessCall where
  topic := buffer.topic.getD []
  topicLen := buffer.topicLen
  payload := buffer.payload
  payloadLen := buffer.receivedLen

/-- The buffer that the data of an event go to: an empty one if the event has a topic. -/
structure Starts (buffer : TbcmPayloadBuffer) (rxMsg : TbcmRxMsgInfo) (start : TbcmPayloadBuffer) :
    Prop where
  topic : rxMsg.topic.isSome = true →
    start.payload = none ∧ start.receivedLen = 0 ∧ start.totalPayloadLen = 0
  next : rxMsg.topic = none → start = buffer

/-- What one call of `tbcm_payload_buffer_pocess` does. -/
inductive Pocessed (buffer : TbcmPayloadBuffer) (rxMsg : TbcmRxMsgInfo) : PayloadBufferResult → Prop
  | ignored : Pocessed buffer rxMsg ⟨buffer, [], 0⟩
  | whole (call : PayloadProcessCall) (hpayload : call.payload.getD []
      = (rxMsg.payload.getD []).map some) (hlen : call.payloadLen = rxMsg.payloadLen) :
    Pocessed buffer rxMsg ⟨.empty, [call], 0⟩
  | fed {start fed : TbcmPayloadBuffer} (failed : Nat)
      (hlong : rxMsg.totalPayloadLen ≤ maxTbcmRxMsgLength) (hstarts : Starts buffer rxMsg start)
      (hfed : Fed start rxMsg fed) :
    Pocessed buffer rxMsg
      (if tbcmPayloadBufferIsCompletion fed then ⟨.empty, [fed.delivery], failed⟩
      else ⟨fed, [], failed⟩)

/-- An event that is well formed is processed, and no copy leaves its block. -/
theorem pocess_ok {buffer : TbcmPayloadBuffer} (hfits : buffer.Fits) {rxMsg : TbcmRxMsgInfo}
    (hwell : rxMsg.WellFormed) (mallocs : FeedMallocs) :
    ∃ result, tbcmPayloadBufferPocess buffer rxMsg mallocs = .ok result ∧
      Pocessed buffer rxMsg result := by
  unfold tbcmPayloadBufferPocess
  by_cases hlong : maxTbcmRxMsgLength < rxMsg.totalPayloadLen
  · exact ⟨_, if_pos hlong, .ignored⟩
  by_cases hoffset : 0 < rxMsg.currentPayloadOffset ∧
      rxMsg.totalPayloadLen ≤ rxMsg.currentPayloadOffset
  · exact ⟨_, by rw [if_neg hlong, if_pos hoffset], .ignored⟩
  rw [if_neg hlong, if_neg hoffset]
  by_cases hdone : tbcmRxMsgIsCompletion rxMsg = true
  · have htopic : rxMsg.topic.isSome = true := by
      simp only [tbcmRxMsgIsCompletion, Bool.and_eq_true] at hdone
      exact hdone.1.1
    simp only [hdone, htopic, if_true]
    refine ⟨_, rfl, .whole _ ?_ rfl⟩
    cases rxMsg.payload with
    | none => rfl
    | some data => rfl
  · simp only [hdone, Bool.false_eq_true, if_false]
    have hfeed : ∃ start fed failed,
        tbcmPayloadBufferFeed (if rxMsg.topic.isSome then tbcmPayloadBufferFree buffer else buffer)
            rxMsg mallocs = .ok (fed, failed) ∧
          Starts buffer rxMsg start ∧ Fed start rxMsg fed := by
      have hempty : TbcmPayloadBuffer.Fits .empty := by simp [TbcmPayloadBuffer.Fits,
        TbcmPayloadBuffer.empty]
      unfold tbcmPayloadBufferFeed
      cases htopic : rxMsg.topic with
      | none =>
        obtain ⟨fed, failed, hfeed, hfed⟩ := feedPayload_fed hfits hwell mallocs.payload
        exact ⟨buffer, fed, failed, hfeed, ⟨by simp [htopic], fun _ => rfl⟩, hfed⟩
      | some topic =>
        have hstarts : ∀ start : TbcmPayloadBuffer, start.payload = none ∧ start.receivedLen = 0 ∧
            start.totalPayloadLen = 0 → Starts buffer rxMsg start :=
          fun start hstart => ⟨fun _ => hstart, fun hnone => by simp [htopic] at hnone⟩
        simp only [Option.isSome_some, if_true, tbcmPayloadBufferFree]
        by_cases hpos : 0 < topic.length
        · rw [if_pos hpos]
          cases mallocs.topic with
          | true =>
            obtain ⟨fed, failed, hfeed, hfed⟩ := @feedPayload_fed
              { TbcmPayloadBuffer.empty with
                topic := some topic
                topicLen := topic.length } hempty rxMsg hwell mallocs.payload
            exact ⟨_, fed, failed, hfeed, hstarts _ ⟨rfl, rfl, rfl⟩, hfed⟩
          | false => exact ⟨_, _, 1, rfl, hstarts _ ⟨rfl, rfl, rfl⟩, .kept⟩
        · rw [if_neg hpos]
          obtain ⟨fed, failed, hfeed, hfed⟩ := feedPayload_fed hempty hwell mallocs.payload
          exact ⟨_, fed, failed, hfeed, hstarts _ ⟨rfl, rfl, rfl⟩, hfed⟩
    obtain ⟨start, fed, failed, hfeed, hstarts, hfed⟩ := hfeed
    refine ⟨_, ?_, .fed failed (Nat.le_of_not_lt hlong) hstarts hfed⟩
    rw [hfeed]
    simp only [bind, Except.bind]
    split <;> rfl

/-! ## Counted bytes -/

/-- The length that was received is the number of the bytes that were written. -/
structure TbcmPayloadBuffer.Counted (buffer : TbcmPayloadBuffer) : Prop where
  fits : buffer.Fits
  short : buffer.totalPayloadLen ≤ maxTbcmRxMsgLength
  empty : buffer.payload = none → buffer.receivedLen = 0
  written : ∀ mem, buffer.payload = some mem → buffer.receivedLen = mem.written

/-- No byte that the event brings is there already. -/
def TbcmPayloadBuffer.Unwritten (buffer : TbcmPayloadBuffer) (rxMsg : TbcmRxMsgInfo) : Prop :=
  rxMsg.topic = none → buffer.totalPayloadLen = rxMsg.totalPayloadLen →
    ∀ mem ∈ buffer.payload, (mem.segment rxMsg.currentPayloadOffset rxMsg.payloadLen).written = 0

instance (buffer : TbcmPayloadBuffer) (rxMsg : TbcmRxMsgInfo) : Decidable (buffer.Unwritten rxMsg) :=
  inferInstanceAs (Decidable (_ → _ → ∀ mem ∈ buffer.payload, _))

/-- The bytes that are handed over were all written, and they are as many as the length says. -/
def PayloadProcessCall.Written (call : PayloadProcessCall) : Prop :=
  (call.payload.getD []).length = call.payloadLen ∧
    ∀ byte ∈ call.payload.getD [], byte.isSome = true

instance (call : PayloadProcessCall) : Decidable call.Written :=
  inferInstanceAs (Decidable (_ ∧ ∀ byte ∈ call.payload.getD [], _))

theorem counted_empty : TbcmPayloadBuffer.Counted .empty :=
  ⟨by simp [TbcmPayloadBuffer.Fits, TbcmPayloadBuffer.empty], Nat.zero_le _, fun _ => rfl,
    by simp [TbcmPayloadBuffer.empty]⟩

theorem TbcmPayloadBuffer.Counted.le_total {buffer : TbcmPayloadBuffer} (h : buffer.Counted) :
    buffer.receivedLen ≤ buffer.totalPayloadLen := by
  cases hpayload : buffer.payload with
  | none =>
    rw [h.empty hpayload]
    exact Nat.zero_le _
  | some mem =>
    rw [h.written mem hpayload, ← h.fits mem hpayload]
    exact mem.written_le_length

/-- A counted buffer that is complete was written as a whole. -/
theorem TbcmPayloadBuffer.Counted.delivery_written {buffer : TbcmPayloadBuffer} (h : buffer.Counted)
    (hdone : tbcmPayloadBufferIsCompletion buffer = true) : buffer.delivery.Written := by
  simp only [tbcmPayloadBufferIsCompletion, Bool.and_eq_true, decide_eq_true_eq] at hdone
  obtain ⟨⟨-, hsome⟩, hreceived⟩ := hdone
  obtain ⟨mem, hpayload⟩ := Option.isSome_iff_exists.mp hsome
  have hfits := h.fits mem hpayload
  have hwritten := h.written mem hpayload
  have hall : mem.written = mem.length := Nat.le_antisymm mem.written_le_length (by omega)
  have hdelivered : buffer.delivery.payload.getD [] = mem := by
    rw [TbcmPayloadBuffer.delivery, hpayload, Option.getD_some]
  unfold PayloadProcessCall.Written
  rw [hdelivered]
  exact ⟨by rw [← hall, ← hwritten]; rfl, Block.written_eq_length.mp hall⟩

/-- What a copy leaves of the block. -/
theorem TbcmPayloadBuffer.Takes.copy {buffer : TbcmPayloadBuffer} {rxMsg : TbcmRxMsgInfo}
    {mem mem' : Block} (htakes : buffer.Takes rxMsg mem) (hfits : buffer.Fits)
    (hwell : rxMsg.WellFormed)
    (hcopy : memcpy mem rxMsg.currentPayloadOffset (rxMsg.payload.getD []) = .ok mem') :
    mem'.length = rxMsg.totalPayloadLen ∧
      mem'.written + (mem.segment rxMsg.currentPayloadOffset rxMsg.payloadLen).written
        = mem.written + rxMsg.payloadLen := by
  have hlength : mem.length = rxMsg.totalPayloadLen := by
    rcases htakes.2.2 with ⟨hpayload, hsame⟩ | ⟨-, rfl⟩
    · rw [hfits mem hpayload, hsame]
    · rw [List.length_replicate]
  obtain ⟨mem'', hcopy', hlength', hwritten⟩ := @memcpy_written mem rxMsg.currentPayloadOffset
    (rxMsg.payload.getD []) (by rw [hlength]; exact hwell)
  obtain rfl : mem' = mem'' := Except.ok.inj (hcopy.symm.trans hcopy')
  exact ⟨hlength'.trans hlength, hwritten⟩

theorem Fed.fits {start fed : TbcmPayloadBuffer} {rxMsg : TbcmRxMsgInfo} (hfed : Fed start rxMsg fed)
    (hfits : start.Fits) (hwell : rxMsg.WellFormed) : fed.Fits := by
  cases hfed with
  | kept => exact hfits
  | unallocated hnone =>
    intro mem hmem
    exact absurd (hnone.symm.trans hmem) (by simp)
  | copied htakes hcopy _ =>
    intro mem hmem
    obtain rfl := Option.some.inj hmem
    exact (htakes.copy hfits hwell hcopy).1

theorem Fed.counted {start fed : TbcmPayloadBuffer} {rxMsg : TbcmRxMsgInfo}
    (hfed : Fed start rxMsg fed) (hcounted : start.Counted) (hwell : rxMsg.WellFormed)
    (hlong : rxMsg.totalPayloadLen ≤ maxTbcmRxMsgLength)
    (hunwritten : start.totalPayloadLen = rxMsg.totalPayloadLen → ∀ mem, start.payload = some mem →
      (mem.segment rxMsg.currentPayloadOffset rxMsg.payloadLen).written = 0) : fed.Counted := by
  refine ⟨hfed.fits hcounted.fits hwell, ?_, ?_, ?_⟩
  · cases hfed with
    | kept => exact hcounted.short
    | unallocated => exact Nat.zero_le _
    | copied => exact hlong
  · intro hnone
    cases hfed with
    | kept => exact hcounted.empty hnone
    | unallocated => rfl
    | copied => exact absurd hnone (by simp)
  · intro mem hmem
    cases hfed with
    | kept => exact hcounted.written mem hmem
    | unallocated hnone => exact absurd (hnone.symm.trans hmem) (by simp)
    | @copied old mem' receivedLen htakes hcopy hreceived =>
      obtain rfl := Option.some.inj hmem
      have hwritten := (htakes.copy hcounted.fits hwell hcopy).2
      rcases htakes.2.2 with ⟨hpayload, hsame⟩ | ⟨hpayload, rfl⟩
      · rw [hunwritten hsame old hpayload, Nat.add_zero] at hwritten
        rw [hpayload, Option.isSome_some, if_pos rfl, hcounted.written old hpayload] at hreceived
        exact hreceived.trans hwritten.symm
      · have hnew : Block.written (Block.segment (List.replicate rxMsg.totalPayloadLen none)
            rxMsg.currentPayloadOffset rxMsg.payloadLen) = 0 := by
          rw [Block.segment, List.drop_replicate, List.take_replicate, Block.written_replicate_none]
        rw [hnew, Block.written_replicate_none, Nat.add_zero, Nat.zero_add] at hwritten
        rw [hpayload, Option.isSome_none, if_neg (by simp), Nat.zero_add] at hreceived
        exact hreceived.trans hwritten.symm

theorem Starts.counted {buffer start : TbcmPayloadBuffer} {rxMsg : TbcmRxMsgInfo}
    (h : Starts buffer rxMsg start) (hcounted : buffer.Counted) : start.Counted := by
  cases htopic : rxMsg.topic with
  | none => exact h.next htopic ▸ hcounted
  | some topic =>
    obtain ⟨hnone, hzero, htotal⟩ := h.topic (by rw [htopic]; rfl)
    exact ⟨fun mem hmem => absurd (hnone.symm.trans hmem) (by simp),
      by rw [htotal]; exact Nat.zero_le _, fun _ => hzero,
      fun mem hmem => absurd (hnone.symm.trans hmem) (by simp)⟩

/-- An event that brings new bytes keeps the count, and what is handed over was written. -/
theorem Pocessed.counted {buffer : TbcmPayloadBuffer} {rxMsg : TbcmRxMsgInfo}
    {result : PayloadBufferResult} (h : Pocessed buffer rxMsg result) (hcounted : buffer.Counted)
    (hwell : rxMsg.WellFormed) (hunwritten : buffer.Unwritten rxMsg) :
    result.buffer.Counted ∧ ∀ call ∈ result.calls, call.Written := by
  cases h with
  | ignored => exact ⟨hcounted, fun _ hmem => absurd hmem List.not_mem_nil⟩
  | whole call hpayload hlen =>
    refine ⟨counted_empty, ?_⟩
    intro call' hmem
    obtain rfl := List.mem_singleton.mp hmem
    unfold PayloadProcessCall.Written
    rw [hpayload, hlen, List.length_map]
    exact ⟨rfl, by simp⟩
  | @fed start fed failed hlong hstarts hfed =>
    have hfedCounted : fed.Counted := by
      refine hfed.counted (hstarts.counted hcounted) hwell hlong ?_
      intro hsame mem hmem
      cases htopic : rxMsg.topic with
      | none =>
        obtain rfl := hstarts.next htopic
        exact hunwritten htopic hsame mem hmem
      | some topic =>
        have hnone := (hstarts.topic (by rw [htopic]; rfl)).1
        exact absurd (hnone.symm.trans hmem) (by simp)
    split
    · rename_i hdone
      refine ⟨counted_empty, ?_⟩
      intro call hmem
      rw [List.mem_singleton.mp hmem]
      exact hfedCounted.delivery_written hdone
    · exact ⟨hfedCounted, fun _ hmem => absurd hmem List.not_mem_nil⟩

theorem Starts.fits {buffer start : TbcmPayloadBuffer} {rxMsg : TbcmRxMsgInfo}
    (h : Starts buffer rxMsg start) (hfits : buffer.Fits) : start.Fits := by
  cases htopic : rxMsg.topic with
  | none => exact h.next htopic ▸ hfits
  | some topic =>
    have hnone := (h.topic (by rw [htopic]; rfl)).1
    exact fun mem hmem => absurd (hnone.symm.trans hmem) (by simp)

theorem Pocessed.fits {buffer : TbcmPayloadBuffer} {rxMsg : TbcmRxMsgInfo}
    {result : PayloadBufferResult} (h : Pocessed buffer rxMsg result) (hfits : buffer.Fits)
    (hwell : rxMsg.WellFormed) : result.buffer.Fits := by
  cases h with
  | ignored => exact hfits
  | whole => exact counted_empty.fits
  | fed failed hlong hstarts hfed =>
    split
    · exact counted_empty.fits
    · exact hfed.fits (hstarts.fits hfits) hwell

/-! ## Runs -/

/-- The buffer, and the calls of `on_payload_process` so far. -/
structure Receiver where
  buffer : TbcmPayloadBuffer
  calls : List PayloadProcessCall
  deriving DecidableEq

namespace Receiver

/-- `tbcm_payload_buffer_init` -/
def init : Receiver where
  buffer := .empty
  calls := []

/-- One event. -/
def pocess (receiver : Receiver) (event : TbcmRxMsgInfo × FeedMallocs) :
    Except MemFault Receiver := do
  let result ← tbcmPayloadBufferPocess receiver.buffer event.1 event.2
  .ok ⟨result.buffer, receiver.calls ++ result.calls⟩

/-- No more was received than the message has, and what was handed over was written. -/
def Right (receiver : Receiver) : Prop :=
  receiver.buffer.receivedLen ≤ receiver.buffer.totalPayloadLen ∧
    ∀ call ∈ receiver.calls, call.Written

instance (receiver : Receiver) : Decidable receiver.Right :=
  inferInstanceAs (Decidable (_ ∧ ∀ call ∈ receiver.calls, call.Written))

theorem pocess_eq {receiver : Receiver} {event : TbcmRxMsgInfo × FeedMallocs}
    {result : PayloadBufferResult}
    (h : tbcmPayloadBufferPocess receiver.buffer event.1 event.2 = .ok result) :
    receiver.pocess event = .ok ⟨result.buffer, receiver.calls ++ result.calls⟩ := by
  rw [pocess, h]
  rfl

/-- A step from a block of the right length. -/
theorem pocessed_of_pocess {receiver next : Receiver} {event : TbcmRxMsgInfo × FeedMallocs}
    (hfits : receiver.buffer.Fits) (hwell : event.1.WellFormed)
    (h : receiver.pocess event = .ok next) :
    ∃ result, Pocessed receiver.buffer event.1 result ∧ next.buffer = result.buffer ∧
      next.calls = receiver.calls ++ result.calls := by
  obtain ⟨result, hresult, hpocessed⟩ := pocess_ok hfits hwell event.2
  rw [pocess_eq hresult] at h
  obtain rfl := Except.ok.inj h
  exact ⟨result, hpocessed, rfl, rfl⟩

end Receiver

/-- Events that are well formed. -/
abbrev fragmentStep : Receiver → TbcmRxMsgInfo × FeedMallocs → Receiver → Prop :=
  within (fun _ event => event.1.WellFormed) (Succeeds Receiver.pocess)

/-- Events that are well formed and bring new bytes. -/
abbrev unwrittenStep : Receiver → TbcmRxMsgInfo × FeedMallocs → Receiver → Prop :=
  within (fun receiver event => event.1.WellFormed ∧ receiver.buffer.Unwritten event.1)
    (Succeeds Receiver.pocess)

namespace Receiver

/-- The block of the buffer is as long as the buffer says. -/
def Fits (receiver : Receiver) : Prop := receiver.buffer.Fits

/-- Every byte that was received is counted once. -/
structure Counted (receiver : Receiver) : Prop where
  buffer : receiver.buffer.Counted
  calls : ∀ call ∈ receiver.calls, call.Written

theorem Counted.right {receiver : Receiver} (h : receiver.Counted) : receiver.Right :=
  ⟨h.buffer.le_total, h.calls⟩

theorem counted_init : Counted init := ⟨counted_empty, fun _ hmem => absurd hmem List.not_mem_nil⟩

theorem Fits.step {receiver next : Receiver} {event : TbcmRxMsgInfo × FeedMallocs}
    (hfits : receiver.Fits) (hstep : fragmentStep receiver event next) : next.Fits := by
  obtain ⟨result, hpocessed, hbuffer, -⟩ := pocessed_of_pocess hfits hstep.1 hstep.2
  unfold Fits
  exact hbuffer ▸ hpocessed.fits hfits hstep.1

theorem Counted.step {receiver next : Receiver} {event : TbcmRxMsgInfo × FeedMallocs}
    (h : receiver.Counted) (hstep : unwrittenStep receiver event next) : next.Counted := by
  obtain ⟨⟨hwell, hunwritten⟩, hnext⟩ := hstep
  obtain ⟨result, hpocessed, hbuffer, hcalls⟩ := pocessed_of_pocess h.buffer.fits hwell hnext
  obtain ⟨hcounted, hwritten⟩ := hpocessed.counted h.buffer hwell hunwritten
  refine ⟨hbuffer ▸ hcounted, ?_⟩
  intro call hmem
  rw [hcalls, List.mem_append] at hmem
  exact hmem.elim (h.calls call) (hwritten call)

end Receiver

/-! ## Bytes that come again -/

theorem pocess_more {buffer : TbcmPayloadBuffer} {mem : Block} (hpayload : buffer.payload = some mem)
    (hlength : mem.length = buffer.totalPayloadLen)
    (hshort : buffer.totalPayloadLen ≤ maxTbcmRxMsgLength) {offset : Nat} {data : List UInt8}
    (hpos : 0 < data.length) (hwell : offset + data.length ≤ buffer.totalPayloadLen)
    (mallocs : FeedMallocs) :
    ∃ mem', mem'.length = mem.length ∧
      Block.written mem' + (mem.segment offset data.length).written
        = mem.written + data.length ∧
      tbcmPayloadBufferPocess buffer ⟨none, some data, buffer.totalPayloadLen, offset⟩ mallocs
        = .ok (
          let fed : TbcmPayloadBuffer := { buffer with
            payload := some mem'
            receivedLen := buffer.receivedLen + data.length }
          if tbcmPayloadBufferIsCompletion fed then ⟨.empty, [fed.delivery], 0⟩
          else ⟨fed, [], 0⟩) := by
  obtain ⟨mem', hcopy, hlength', hwritten⟩ := @memcpy_written mem offset data (by omega)
  refine ⟨mem', hlength', hwritten, ?_⟩
  have hlong : ¬ maxTbcmRxMsgLength < buffer.totalPayloadLen := Nat.not_lt.mpr hshort
  have hoffset : ¬ (0 < offset ∧ buffer.totalPayloadLen ≤ offset) := by omega
  have hopen : tbcmRxMsgIsCompletion ⟨none, some data, buffer.totalPayloadLen, offset⟩ = false := rfl
  have hcond : 0 < data.length ∧ 0 < buffer.totalPayloadLen := ⟨hpos, by omega⟩
  unfold tbcmPayloadBufferPocess
  simp only [hlong, hoffset, hopen, Bool.false_eq_true, if_false, Option.isSome_none,
    tbcmPayloadBufferFeed, feedPayload, if_pos hcond, hpayload, ne_eq, not_true_eq_false, hcopy,
    bind, Except.bind]
  split <;> rfl

/-- A buffer that counts bytes twice: it takes a message for complete that is not, or it counts more
    than there are. -/
structure Overcounted (buffer : TbcmPayloadBuffer) (mem : Block) : Prop where
  payload : buffer.payload = some mem
  length : mem.length = buffer.totalPayloadLen
  short : buffer.totalPayloadLen ≤ maxTbcmRxMsgLength
  written : mem.written < buffer.receivedLen

/-- A message that is handed over by a wrong count is wrong. -/
theorem Overcounted.not_written {buffer : TbcmPayloadBuffer} {mem : Block}
    (h : Overcounted buffer mem) : ¬ buffer.delivery.Written := by
  rintro ⟨hlength, hall⟩
  have hdelivered : buffer.delivery.payload.getD [] = mem := by
    rw [TbcmPayloadBuffer.delivery, h.payload, Option.getD_some]
  have hreceived : buffer.delivery.payloadLen = buffer.receivedLen := rfl
  rw [hdelivered] at hlength hall
  have hwritten := Block.written_eq_length.mpr hall
  have hlt := h.written
  omega

/-- A further fragment keeps the wrong count. -/
theorem Overcounted.pocess {buffer : TbcmPayloadBuffer} {mem : Block}
    (h : Overcounted buffer mem) {data : List UInt8} (hpos : 0 < data.length)
    (hwell : data.length ≤ buffer.totalPayloadLen) (mallocs : FeedMallocs) :
    ∃ mem', Overcounted { buffer with
        payload := some mem'
        receivedLen := buffer.receivedLen + data.length } mem' ∧
      tbcmPayloadBufferPocess buffer ⟨none, some data, buffer.totalPayloadLen, 0⟩ mallocs
        = .ok (
          let fed : TbcmPayloadBuffer := { buffer with
            payload := some mem'
            receivedLen := buffer.receivedLen + data.length }
          if tbcmPayloadBufferIsCompletion fed then ⟨.empty, [fed.delivery], 0⟩
          else ⟨fed, [], 0⟩) := by
  obtain ⟨mem', hlength, hwritten, hstep⟩ := pocess_more h.payload h.length h.short hpos
    (by rwa [Nat.zero_add]) mallocs
  have hlt := h.written
  exact ⟨mem', ⟨rfl, hlength.trans h.length, h.short, by simp only; omega⟩, hstep⟩

/-- From a wrong count on, one more event is enough for a message that is handed over wrongly, or
    counted beyond its end. -/
theorem Overcounted.misses {buffer : TbcmPayloadBuffer} {mem : Block} (h : Overcounted buffer mem)
    (hreceived : buffer.receivedLen ≤ buffer.totalPayloadLen) (calls : List PayloadProcessCall) :
    ∃ event last, fragmentStep ⟨buffer, calls⟩ event last ∧ ¬ last.Right := by
  have hlt := h.written
  have hdata : (List.replicate buffer.totalPayloadLen (0 : UInt8)).length = buffer.totalPayloadLen :=
    List.length_replicate
  have hwell : TbcmRxMsgInfo.WellFormed
      ⟨none, some (List.replicate buffer.totalPayloadLen 0), buffer.totalPayloadLen, 0⟩ := by
    simp [TbcmRxMsgInfo.WellFormed, TbcmRxMsgInfo.payloadLen]
  obtain ⟨mem', hover, hstep⟩ := h.pocess (by rw [hdata]; omega) (Nat.le_of_eq hdata) ⟨true, true⟩
  refine ⟨(_, _), _, ⟨hwell, @Receiver.pocess_eq ⟨buffer, calls⟩ (_, _) _ hstep⟩, ?_⟩
  simp only
  split
  · rintro ⟨-, hcalls⟩
    exact hover.not_written (hcalls _ (List.mem_append_right _ (List.mem_singleton_self _)))
  · rintro ⟨hle, -⟩
    simp only [hdata] at hle
    omega

/-- A fragment that brings a byte again is followed by events that go wrong. -/
theorem Receiver.Counted.misses {receiver : Receiver} (h : receiver.Counted)
    {event : TbcmRxMsgInfo × FeedMallocs} (hwell : event.1.WellFormed)
    (hagain : ¬ receiver.buffer.Unwritten event.1) :
    ∃ more last, Run fragmentStep receiver (event :: more) last ∧ ¬ last.Right := by
  obtain ⟨⟨topic, payload, total, offset⟩, mallocs⟩ := event
  simp only [TbcmPayloadBuffer.Unwritten, not_forall] at hagain
  obtain ⟨rfl, rfl, mem, hpayload, hsegment⟩ := hagain
  have hlength := h.buffer.fits mem hpayload
  -- the fragment is not empty, since it brings a byte again
  cases payload with
  | none => simp [TbcmRxMsgInfo.payloadLen, Block.segment, Block.written] at hsegment
  | some data =>
    have hpos : 0 < data.length := by
      rcases Nat.eq_zero_or_pos data.length with hzero | hpos
      · simp [TbcmRxMsgInfo.payloadLen, hzero, Block.segment, Block.written] at hsegment
      · exact hpos
    have hfit : offset + data.length ≤ receiver.buffer.totalPayloadLen := hwell
    obtain ⟨mem', hlength', hwritten, hstep⟩ := pocess_more hpayload hlength h.buffer.short hpos
      hfit mallocs
    have hcount := h.buffer.written mem hpayload
    have hagain : (mem.segment offset data.length).written ≠ 0 := hsegment
    have hover : Overcounted { receiver.buffer with
        payload := some mem'
        receivedLen := receiver.buffer.receivedLen + data.length } mem' :=
      ⟨rfl, hlength'.trans hlength, h.buffer.short, by simp only; omega⟩
    have hnext := @Receiver.pocess_eq receiver (_, mallocs) _ hstep
    simp only at hnext
    split at hnext
    · -- the message counts as complete
      refine ⟨[], _, Run.snoc .nil ⟨hwell, hnext⟩, ?_⟩
      rintro ⟨-, hcalls⟩
      exact hover.not_written (hcalls _ (List.mem_append_right _ (List.mem_singleton_self _)))
    · by_cases hle : receiver.buffer.receivedLen + data.length ≤ receiver.buffer.totalPayloadLen
      · obtain ⟨event, last, hmore, hwrong⟩ := hover.misses hle (receiver.calls ++ [])
        exact ⟨[event], last, Run.snoc (Run.snoc .nil ⟨hwell, hnext⟩) hmore, hwrong⟩
      · exact ⟨[], _, Run.snoc .nil ⟨hwell, hnext⟩, fun hright => hle hright.1⟩

/-! ## Any order -/

/-- Well-formed fragments in any order. No copy leaves its block. While no fragment brings a byte
    again, no more is received than the message has, and what is handed over is the whole block, every
    byte of which was written. A fragment that does bring a byte again can be followed so that this
    fails. -/
theorem fragments_of_run {events : List (TbcmRxMsgInfo × FeedMallocs)} {last : Receiver} :
    (Run fragmentStep .init events last →
      ∀ event, event.1.WellFormed → ∃ next, last.pocess event = .ok next) ∧
    (Run unwrittenStep .init events last → last.Right ∧
      ∀ event, event.1.WellFormed → ¬ last.buffer.Unwritten event.1 →
        ∃ more final, Run fragmentStep last (event :: more) final ∧ ¬ final.Right) := by
  constructor
  · intro run event hwell
    have hinit : Receiver.init.Fits := counted_empty.fits
    have hfits : last.Fits := run.invariant hinit fun _ _ _ h hstep => h.step hstep
    obtain ⟨result, hresult, -⟩ := pocess_ok hfits hwell event.2
    exact ⟨_, Receiver.pocess_eq hresult⟩
  · intro run
    have hcounted : last.Counted :=
      run.invariant Receiver.counted_init fun _ _ _ h hstep => h.step hstep
    exact ⟨hcounted.right, fun _ => hcounted.misses⟩

/-- The second half of a message in front of the first one. -/
def swappedHalves : List (TbcmRxMsgInfo × FeedMallocs) :=
  [(⟨some [0x74], some [0x63, 0x64], 4, 2⟩, ⟨true, true⟩),
    (⟨none, some [0x61, 0x62], 4, 0⟩, ⟨true, true⟩)]

theorem fragments_of_run_swappedHalves :
    (swappedHalves.foldl (advance Receiver.pocess) .init).Right :=
  (fragments_of_run.2 (show Run unwrittenStep .init swappedHalves _ from
    run_of_allowed (by decide))).1

/-- Three of four bytes come twice. -/
def repeatedFragment : List (TbcmRxMsgInfo × FeedMallocs) :=
  [(⟨some [0x74], some [0x61, 0x62, 0x63], 4, 0⟩, ⟨true, true⟩),
    (⟨none, some [0x61, 0x62, 0x63], 4, 0⟩, ⟨true, true⟩)]

/-- Six bytes are handed over, from a block of four. -/
theorem fragments_fails_repeatedFragment :
    ¬ ∀ events last, Run fragmentStep .init events last → last.Right := by
  intro h
  have hallowed : allowed (fun _ event => event.1.WellFormed) Receiver.pocess .init repeatedFragment
      = true := by decide
  exact absurd (h _ _ (run_of_allowed hallowed)) (by decide)

end ThingsboardMqtt
