import Mathlib.Data.List.Induction
import ThingsboardMqtt.Library.Slices
import ThingsboardMqtt.Ota.ImageIntegrity

set_option autoImplicit false

/-! # A download from an honest server

The device together with a server that answers every chunk request with the bytes it asks for
(`serve`). An image that is announced and that the device accepts is downloaded: its chunks are
requested one after the other, it is flashed, and the boot partition is switched.

What holds between two answers is `Midway`: the session and the writer hold the first slices of the
image, and one request is unanswered. -/

namespace ThingsboardMqtt

open ListWalk Slices

/-! ## The server -/

/-- An answer of the server. -/
structure ChunkResponse where
  requestId : Nat
  chunkId : Nat
  payload : List UInt8

/-- What an honest server answers to a chunk request that reaches it. A size of zero asks for the
    whole image. -/
def honestAnswer (image : List UInt8) : OtaAction → Option ChunkResponse
  | .chunkRequest _ requestId chunkId payload true =>
    (Scanf.scanDec payload).map fun (size : UInt32) =>
      { requestId := requestId
        chunkId := chunkId
        payload := if size = 0 then image else slice size.toNat image chunkId }
  | _ => none

/-- The device, and how many of its chunk requests were answered. -/
structure Served where
  world : OtaWorld
  answered : Nat

/-- The answers that are still to come. -/
def Served.pending (image : List UInt8) (served : Served) : List ChunkResponse :=
  (served.world.dev.trace.filterMap (honestAnswer image)).drop served.answered

/-- The server answers the oldest request it has not answered yet. -/
def serve (crc : CrcRoutine) (image : List UInt8) (served : Served) (answers : OtaAnswers) :
    Served :=
  match served.pending image with
  | [] => served
  | response :: _ =>
    { world := tbcmhOtaupdateOnChunkData crc response.requestId response.chunkId response.payload
        answers served.world
      answered := served.answered + 1 }

/-! ## What an update needs -/

/-- The shared attributes announce an image. -/
structure AnnouncesImage (crc : CrcRoutine) (image : List UInt8) (title version : String)
    (object : Cjson) : Prop where
  title : object.getObjectItem "fw_title" = some (.string title)
  version : object.getObjectItem "fw_version" = some (.string version)
  size : object.getObjectItem "fw_size" = some (.number image.length)
  checksum : ∃ text, object.getObjectItem "fw_checksum" = some (.string text) ∧
    Scanf.SpellsHex text (reverseBytes (crc.run 0 image)).toNat
  algorithm : ∃ text, object.getObjectItem "fw_checksum_algorithm" = some (.string text) ∧
    strcaseEq text "crc32" = true

/-- The calls of the device and the chunk request succeed, and the version in the header of the image
    is neither the running one nor the last invalid one. -/
structure Accepts (image : List UInt8) (answers : OtaAnswers) : Prop where
  otaBegin : answers.fw.otaBegin = none
  otaWrite : answers.fw.otaWrite = none
  otaEnd : answers.fw.otaEnd = none
  setBootPartition : answers.fw.setBootPartition = none
  chunkRequestSent : answers.chunkRequestSent = true
  runningVersion : newAppVersion image ≠ answers.fw.runningVersion
  lastInvalidVersion : answers.fw.lastInvalidVersion ≠ some (newAppVersion image)

/-- The F/W session with the announced title, its writer and its device are ready for the image. The
    session is found before the others, by its title and by the request id it is about to get. -/
structure ReadyFor (image : List UInt8) (title version : String) (answers : OtaAnswers)
    (front : List Otaupdate) (session : Otaupdate) (back : List Otaupdate)
    (world : OtaWorld) : Prop where
  sessions : world.otaupdateList = front ++ session :: back
  config : session.config = ⟨.fw, 16 * 1024⟩
  currentTitle : answers.currentTitle session.addr = some title
  currentVersion : ∃ current, answers.currentVersion session.addr = some current ∧
    version ≠ current
  otherTitles : ∀ other ∈ front, other.matchesTitle .fw title answers = false
  otherRequests : ∀ other ∈ front, other.state.requestId ≠ (tbcmhGetRequestId world.dev.core).1
  writer : world.dev.writer.Clean
  partition : ∃ size, world.dev.writer.fwupdate.updatePartition = some size ∧
    image.length ≤ size
  -- the announced size survives the conversion to `int` and back
  size : toUint32 (intOfDouble answers.undefinedInt (some image.length)) = image.length

/-! ## What an update does -/

/-- The request id and the chunk id of a chunk request. -/
def OtaAction.requested : OtaAction → Option (Nat × Nat)
  | .chunkRequest _ requestId chunkId _ _ => some (requestId, chunkId)
  | _ => none

/-- The bytes a write hands to the flash. -/
def OtaAction.written : OtaAction → Option (List UInt8)
  | .otaWrite _ _ data true => some data
  | _ => none

/-- A call of `on_ota_updated`. -/
def OtaAction.concluded : OtaAction → Option (Nat × Bool)
  | .otaUpdated owner success => some (owner, success)
  | _ => none

/-- The image was requested chunk by chunk, written and switched to, and everything is reset. -/
structure Downloaded (image : List UInt8) (front : List Otaupdate) (session : Otaupdate)
    (back : List Otaupdate) (actions : List OtaAction) (world : OtaWorld) : Prop where
  requests : ∃ requestId, actions.filterMap OtaAction.requested
    = (List.range (sliceCount (16 * 1024) image.length)).map fun chunkId => (requestId, chunkId)
  written : (actions.filterMap OtaAction.written).flatten = image
  switched : actions.filterMap OtaAction.switched = [(session.addr, image)]
  concluded : actions.filterMap OtaAction.concluded = [(session.addr, true)]
  sessions : world.otaupdateList = front ++ otaupdateReset session :: back
  writer : world.dev.writer.Clean

/-! ## A chunk that is written -/

/-- The size a chunk request asks for. -/
def Otaupdate.requestedSize (session : Otaupdate) : Nat :=
  if session.otaAttribute.otaSize < session.config.chunkSize then 0 else session.config.chunkSize

section

variable {crc : CrcRoutine} {session : Otaupdate} {dev : OtaDevice} {answers : OtaAnswers}
  {payload : List UInt8} {written : OtaResult} {writer' : FwWriter}

theorem otaupdateDoWrite_written (hpayload : payload ≠ [])
    (hwrite : otaFwupdateWrite dev.writer payload otaErrorSize answers.fw = (written, writer'))
    (hok : written.result = 0) :
    otaupdateDoWrite crc session session.state.chunkId payload answers dev
      = (⟨0, written.otaError⟩, otaupdateAdvance crc session payload,
          { dev with writer := writer' }.log
            (.otaWrite session.addr session.state.chunkId payload true)) := by
  unfold otaupdateDoWrite
  rw [if_neg (not_not.mpr rfl), if_neg hpayload]
  simp [hwrite, hok]

theorem otaupdateOnChunk_more (hpayload : payload ≠ [])
    (hwrite : otaFwupdateWrite dev.writer payload otaErrorSize answers.fw = (written, writer'))
    (hok : written.result = 0) (hsent : answers.chunkRequestSent = true)
    (hmore : ¬ session.otaAttribute.otaSize
      ≤ (otaupdateAdvance crc session payload).state.receivedLen) :
    ∃ dev', otaupdateOnChunk crc session.state.chunkId payload answers session dev
        = ({ otaupdateAdvance crc session payload with
              state := { (otaupdateAdvance crc session payload).state with
                timestamp := dev.core.now } }, dev') ∧
      dev'.writer = writer' ∧
      dev'.trace = dev.trace ++ [.otaWrite session.addr session.state.chunkId payload true,
        .chunkRequest session.addr session.state.requestId
          (otaupdateAdvance crc session payload).state.chunkId (toString session.requestedSize)
          true] := by
  unfold otaupdateOnChunk
  rw [otaupdateDoWrite_written hpayload hwrite hok]
  have hkeep : (otaupdateAdvance crc session payload).otaAttribute = session.otaAttribute := rfl
  simp only [if_true, hkeep, if_neg hmore, otaupdateChunkRequest, Bool.false_eq_true, if_false,
    hsent]
  refine ⟨_, rfl, rfl, ?_⟩
  rw [OtaDevice.log_trace, OtaDevice.log_trace, List.append_assoc]
  rfl

theorem otaupdateOnChunk_last (hpayload : payload ≠ [])
    (hwrite : otaFwupdateWrite dev.writer payload otaErrorSize answers.fw = (written, writer'))
    (hok : written.result = 0)
    (hall : session.otaAttribute.otaSize
      ≤ (otaupdateAdvance crc session payload).state.receivedLen) :
    otaupdateOnChunk crc session.state.chunkId payload answers session dev
      = otaupdateComplete (otaupdateAdvance crc session payload) answers
          ({ dev with writer := writer' }.log
            (.otaWrite session.addr session.state.chunkId payload true)) := by
  unfold otaupdateOnChunk
  rw [otaupdateDoWrite_written hpayload hwrite hok]
  have hkeep : (otaupdateAdvance crc session payload).otaAttribute = session.otaAttribute := rfl
  simp only [if_true, hkeep, if_pos hall]

end

/-! ## Slices for the writer -/

theorem pos_of_header {size : Nat} (h : imageHeadersSize + appDescSize ≤ size) : 0 < size :=
  Nat.lt_of_lt_of_le (by decide) h

theorem newAppVersion_take {image : List UInt8} {size : Nat}
    (hsize : imageHeadersSize + appDescSize ≤ size) :
    newAppVersion (image.take size) = newAppVersion image := by
  unfold newAppVersion
  rw [List.drop_take, List.take_take, Nat.min_eq_left]
  simp only [imageHeadersSize, appDescSize] at hsize ⊢
  omega

theorem Accepts.imageHeaderError {image data : List UInt8} {answers : OtaAnswers}
    (h : Accepts image answers) (hlength : imageHeadersSize + appDescSize ≤ data.length)
    (hversion : newAppVersion data = newAppVersion image) :
    imageHeaderError data answers.fw = none := by
  unfold ThingsboardMqtt.imageHeaderError
  rw [if_neg (Nat.not_lt.mpr hlength), hversion, if_neg h.lastInvalidVersion,
    if_neg h.runningVersion]

/-- The writer holds the first `k` slices. -/
def FwWriter.HoldsSlices (writer : FwWriter) (size : Nat) (image : List UInt8) (k : Nat) : Prop :=
  if k = 0 then writer.Clean else writer.Open (image.take (k * size))

theorem Accepts.write_slice {image : List UInt8} {answers : OtaAnswers} {writer : FwWriter}
    {size k : Nat} (h : Accepts image answers)
    (himage : imageHeadersSize + appDescSize ≤ image.length)
    (hsize : imageHeadersSize + appDescSize ≤ size) (hk : k * size < image.length)
    (hholds : writer.HoldsSlices size image k) :
    ∃ written writer', otaFwupdateWrite writer (slice size image k) otaErrorSize answers.fw
        = (written, writer') ∧ written.result = 0 ∧ writer'.HoldsSlices size image (k + 1) := by
  have hslice : slice size image k ≠ [] := slice_ne_nil (pos_of_header hsize) hk
  cases hwrite : otaFwupdateWrite writer (slice size image k) otaErrorSize answers.fw with
  | mk written writer' =>
  refine ⟨written, writer', rfl, ?_⟩
  have hopen : ∀ bytes, bytes ++ slice size image k = image.take ((k + 1) * size) →
      writer'.Open (bytes ++ slice size image k) → writer'.HoldsSlices size image (k + 1) := by
    intro bytes hbytes hopen
    rw [FwWriter.HoldsSlices, if_neg (Nat.succ_ne_zero k), ← hbytes]
    exact hopen
  unfold FwWriter.HoldsSlices at hholds
  by_cases hzero : k = 0
  · -- the first slice carries the whole header
    subst hzero
    rw [if_pos rfl] at hholds
    have hfirst : slice size image 0 = image.take size := by
      rw [slice, Nat.zero_mul, List.drop_zero]
    have hheader : ThingsboardMqtt.imageHeaderError (slice size image 0) answers.fw = none := by
      refine h.imageHeaderError ?_ (hfirst ▸ newAppVersion_take hsize)
      rw [hfirst, List.length_take]
      exact Nat.le_min.mpr ⟨hsize, himage⟩
    rcases otaFwupdateWrite_clean hholds hslice hwrite with ⟨hno, -⟩ | ⟨-, hno, -⟩ |
      ⟨-, -, hno, -⟩ | ⟨-, -, -, hok, hdata⟩
    · exact absurd hheader hno
    · exact absurd h.otaBegin hno
    · exact absurd h.otaWrite hno
    · exact ⟨hok, hopen [] (by simp [hfirst]) hdata⟩
  · rw [if_neg hzero] at hholds
    rcases otaFwupdateWrite_open hholds hslice hwrite with ⟨-, hok, hdata⟩ | ⟨hno, -⟩
    · exact ⟨hok, hopen _ (take_append_slice size image k) hdata⟩
    · exact absurd h.otaWrite hno

/-- The end of an image that is complete switches the boot partition. -/
theorem Accepts.finish {image bytes : List UInt8} {answers : OtaAnswers}
    {writer writer' : FwWriter} {ended : OtaResult} (h : Accepts image answers)
    (hopen : writer.Open bytes)
    (hend : otaFwupdateEnd writer otaErrorSize answers.fw = (ended, writer')) :
    ended.result = 0 ∧ writer'.Clean := by
  have hok : ended.result = 0 := by
    simp only [otaFwupdateEnd, EspOta.finish, hopen.isOpen, if_true, h.otaEnd,
      h.setBootPartition] at hend
    rw [← (Prod.mk.inj hend).1]
  rcases otaFwupdateEnd_open hopen hend with ⟨-, hclean⟩ | ⟨hno, -⟩
  · exact ⟨hok, hclean⟩
  · exact absurd hok hno

/-! ## The exchange -/

/-- What stays the same while an image is delivered: the sessions, the one that is served as its
    negotiation left it, its request id, and the trace up to its first request. -/
structure Delivery where
  image : List UInt8
  front : List Otaupdate
  session : Otaupdate
  back : List Otaupdate
  requestId : Nat
  past : List OtaAction

namespace Delivery

def size (delivery : Delivery) : Nat := delivery.session.config.chunkSize

def count (delivery : Delivery) : Nat := sliceCount delivery.size delivery.image.length

/-- What the negotiation made sure of. -/
structure Sound (crc : CrcRoutine) (delivery : Delivery) : Prop where
  image : imageHeadersSize + appDescSize ≤ delivery.image.length
  image_lt : delivery.image.length < 2 ^ 32
  size : imageHeadersSize + appDescSize ≤ delivery.size
  size_lt : delivery.size < 2 ^ 32
  otaSize : delivery.session.otaAttribute.otaSize = delivery.image.length
  checksum : reverseBytes (crc.run 0 delivery.image)
    = hexValue delivery.session.otaAttribute.otaChecksum
  requestId : 0 < delivery.requestId
  others : ∀ other ∈ delivery.front, other.state.requestId ≠ delivery.requestId

/-- The session behind `k` chunks. -/
def current (crc : CrcRoutine) (delivery : Delivery) (k timestamp : Nat) : Otaupdate :=
  { delivery.session with
    state :=
      { requestId := delivery.requestId
        receivedLen := k * delivery.size
        checksum := crc.run 0 (delivery.image.take (k * delivery.size))
        chunkId := k
        timestamp := timestamp } }

/-- The request for the chunk `k`. -/
def request (delivery : Delivery) (k : Nat) : OtaAction :=
  .chunkRequest delivery.session.addr delivery.requestId k
    (toString delivery.session.requestedSize) true

/-- The chunk `k` written. -/
def write (delivery : Delivery) (k : Nat) : OtaAction :=
  .otaWrite delivery.session.addr k (slice delivery.size delivery.image k) true

/-- What was done when the chunk `k` is requested. -/
def exchange (delivery : Delivery) (k : Nat) : List OtaAction :=
  delivery.request 0 :: (List.range k).flatMap fun i => [delivery.write i, delivery.request (i + 1)]

/-- The answer to the request for the chunk `k`. -/
def response (delivery : Delivery) (k : Nat) : ChunkResponse where
  requestId := delivery.requestId
  chunkId := k
  payload := if delivery.session.requestedSize = 0 then delivery.image
    else slice delivery.session.requestedSize delivery.image k

variable {crc : CrcRoutine} {delivery : Delivery}

theorem exchange_succ (delivery : Delivery) (k : Nat) :
    delivery.exchange (k + 1) = delivery.exchange k ++
      [delivery.write k, delivery.request (k + 1)] := by
  unfold exchange
  rw [List.range_succ, List.flatMap_append, List.flatMap_singleton, List.cons_append]

theorem mem_exchange {k : Nat} {a : OtaAction} (ha : a ∈ delivery.exchange k) :
    (∃ i, a = delivery.request i) ∨ ∃ i, a = delivery.write i := by
  rcases List.mem_cons.mp ha with rfl | ha
  · exact .inl ⟨0, rfl⟩
  · obtain ⟨i, -, ha⟩ := List.mem_flatMap.mp ha
    rcases List.mem_pair.mp ha with rfl | rfl
    · exact .inr ⟨i, rfl⟩
    · exact .inl ⟨i + 1, rfl⟩

theorem Sound.size_pos (h : delivery.Sound crc) : 0 < delivery.size :=
  pos_of_header h.size

theorem Sound.lt_count_iff (h : delivery.Sound crc) (k : Nat) :
    k < delivery.count ↔ k * delivery.size < delivery.image.length :=
  lt_sliceCount_iff h.size_pos (pos_of_header h.image) k

theorem Sound.honestAnswer_request (h : delivery.Sound crc) (k : Nat) :
    honestAnswer delivery.image (delivery.request k) = some (delivery.response k) := by
  have hlt : delivery.session.requestedSize < 2 ^ 32 := by
    unfold Otaupdate.requestedSize
    split
    · decide
    · exact h.size_lt
  have hscan := @Scanf.scanDec_toDigits _ hlt [] (by simp)
  rw [List.append_nil] at hscan
  show (Scanf.scanDec (String.ofList (Nat.toDigits 10 delivery.session.requestedSize))).map _ = _
  rw [hscan, Option.map_some]
  have hzero : UInt32.ofNat delivery.session.requestedSize = 0 ↔
      delivery.session.requestedSize = 0 := by
    rw [← UInt32.toNat_inj, UInt32.toNat_ofNat_of_lt' hlt]
    rfl
  simp only [hzero, UInt32.toNat_ofNat_of_lt' hlt, response]

/-- The answers to all requests so far. -/
theorem Sound.answers_exchange (h : delivery.Sound crc) (k : Nat) :
    (delivery.exchange k).filterMap (honestAnswer delivery.image)
      = (List.range (k + 1)).map delivery.response := by
  induction k with
  | zero =>
    simp only [exchange, List.range_zero, List.flatMap_nil, List.filterMap_cons,
      h.honestAnswer_request, List.filterMap_nil]
    rfl
  | succ k ih =>
    have hwrite : honestAnswer delivery.image (delivery.write k) = none := rfl
    rw [exchange_succ, List.filterMap_append, ih, List.range_succ (n := k + 1), List.map_append]
    simp only [List.filterMap_cons, hwrite, h.honestAnswer_request, List.filterMap_nil,
      List.map_cons, List.map_nil]

/-- The answer carries a slice, also when the whole image was asked for. -/
theorem Sound.response_payload (h : delivery.Sound crc) {k : Nat} (hk : k < delivery.count) :
    (delivery.response k).payload = slice delivery.size delivery.image k := by
  have hpos := h.size_pos
  unfold response Otaupdate.requestedSize
  rw [h.otaSize]
  by_cases hsmall : delivery.image.length < delivery.session.config.chunkSize
  · have hcount : delivery.count = 1 := sliceCount_of_le (Nat.le_of_lt hsmall)
    obtain rfl : k = 0 := by omega
    rw [if_pos hsmall, if_pos rfl]
    exact (slice_zero_of_le (Nat.le_of_lt hsmall)).symm
  · rw [if_neg hsmall]
    exact if_neg (Nat.ne_of_gt hpos)

/-! ## One answer -/

/-- Behind `k` chunks the request for the chunk `k` is unanswered. -/
structure Midway (crc : CrcRoutine) (delivery : Delivery) (k : Nat) (served : Served) : Prop where
  answered : served.answered
    = (delivery.past.filterMap (honestAnswer delivery.image)).length + k
  sessions : ∃ timestamp, served.world.otaupdateList
    = delivery.front ++ delivery.current crc k timestamp :: delivery.back
  writer : served.world.dev.writer.HoldsSlices delivery.size delivery.image k
  trace : served.world.dev.trace = delivery.past ++ delivery.exchange k

/-- What is done behind the last write. -/
def ending (delivery : Delivery) (answers : OtaAnswers) : List OtaAction :=
  verifiedActions delivery.session answers ++
    .otaEnd delivery.session.addr delivery.image true :: successActions delivery.session

/-- The image was delivered and no request is unanswered. -/
structure Finished (delivery : Delivery) (served : Served) : Prop where
  answered : served.answered
    = (delivery.past.filterMap (honestAnswer delivery.image)).length + delivery.count
  sessions : served.world.otaupdateList
    = delivery.front ++ otaupdateReset delivery.session :: delivery.back
  writer : served.world.dev.writer.Clean
  trace : ∃ k answers, k + 1 = delivery.count ∧ served.world.dev.trace
    = delivery.past ++ (delivery.exchange k ++ delivery.write k :: delivery.ending answers)

theorem Midway.pending {k : Nat} {served : Served} (hsound : delivery.Sound crc)
    (h : Midway crc delivery k served) :
    served.pending delivery.image = [delivery.response k] := by
  rw [Served.pending, h.trace, h.answered, List.filterMap_append, hsound.answers_exchange,
    List.drop_length_add_append, List.range_succ, List.map_append]
  exact List.drop_left' (by simp)

theorem Finished.pending {served : Served} (hsound : delivery.Sound crc)
    (h : Finished delivery served) : served.pending delivery.image = [] := by
  obtain ⟨k, answers, hk, htrace⟩ := h.trace
  have hending : (delivery.write k :: delivery.ending answers).filterMap
      (honestAnswer delivery.image) = [] := rfl
  rw [Served.pending, htrace, h.answered, List.filterMap_append, List.filterMap_append, hending,
    List.append_nil, hsound.answers_exchange, hk, List.drop_length_add_append]
  exact List.drop_eq_nil_of_le (by simp)

/-- The answer reaches the session that waits for it. -/
theorem Midway.serve_eq {k : Nat} {served : Served} (hsound : delivery.Sound crc)
    (h : Midway crc delivery k served) (hk : k < delivery.count) (answers : OtaAnswers) :
    ∃ timestamp, serve crc delivery.image served answers
      = { world := { served.world with
            otaupdateList := delivery.front ++ (otaupdateOnChunk crc k
              (slice delivery.size delivery.image k) answers (delivery.current crc k timestamp)
              served.world.dev).1 :: delivery.back
            dev := (otaupdateOnChunk crc k (slice delivery.size delivery.image k) answers
              (delivery.current crc k timestamp) served.world.dev).2 }
          answered := served.answered + 1 } := by
  obtain ⟨timestamp, hsessions⟩ := h.sessions
  refine ⟨timestamp, ?_⟩
  have hfound : splitFirst (fun session => session.state.requestId = delivery.requestId)
      served.world.otaupdateList
      = some (delivery.front, delivery.current crc k timestamp, delivery.back) := by
    rw [hsessions]
    exact splitFirst_append_cons (fun other hother => decide_eq_false (hsound.others other hother))
      (decide_eq_true rfl) delivery.back
  have hpayload := hsound.response_payload hk
  rw [serve, h.pending hsound]
  show Served.mk (tbcmhOtaupdateOnChunkData crc delivery.requestId k
    (delivery.response k).payload answers served.world) _ = _
  rw [hpayload, tbcmhOtaupdateOnChunkData, hfound]

/-- The flash takes the chunk, and the session counts it. -/
theorem Midway.written {k : Nat} {served : Served} {answers : OtaAnswers}
    (hsound : delivery.Sound crc) (haccepts : Accepts delivery.image answers)
    (h : Midway crc delivery k served) (hk : k < delivery.count) :
    slice delivery.size delivery.image k ≠ [] ∧
      ∃ written writer', otaFwupdateWrite served.world.dev.writer
          (slice delivery.size delivery.image k) otaErrorSize answers.fw = (written, writer') ∧
        written.result = 0 ∧ writer'.HoldsSlices delivery.size delivery.image (k + 1) := by
  have hinside := (hsound.lt_count_iff k).mp hk
  exact ⟨slice_ne_nil hsound.size_pos hinside,
    haccepts.write_slice hsound.image hsound.size hinside h.writer⟩

theorem Sound.advance (hsound : delivery.Sound crc) {k : Nat} (hk : k < delivery.count)
    (timestamp : Nat) :
    otaupdateAdvance crc (delivery.current crc k timestamp) (slice delivery.size delivery.image k)
      = { delivery.current crc (k + 1) timestamp with
          state := { (delivery.current crc (k + 1) timestamp).state with
            receivedLen := min ((k + 1) * delivery.size) delivery.image.length } } := by
  have hinside := (hsound.lt_count_iff k).mp hk
  have hle : k * 1 ≤ k * delivery.size := Nat.mul_le_mul_left k hsound.size_pos
  have hlt := hsound.image_lt
  have hchunk : (k + 1) % 2 ^ 32 = k + 1 := Nat.mod_eq_of_lt (by omega)
  have hlength : (k * delivery.size + (slice delivery.size delivery.image k).length) % 2 ^ 32
      = min ((k + 1) * delivery.size) delivery.image.length := by
    rw [slice_length, Nat.succ_mul, Nat.mod_eq_of_lt (by omega)]
    omega
  have hchecksum : crc.run (crc.run 0 (delivery.image.take (k * delivery.size)))
      (slice delivery.size delivery.image k)
      = crc.run 0 (delivery.image.take ((k + 1) * delivery.size)) := by
    rw [← crc.run_append, take_append_slice]
  simp only [otaupdateAdvance, current, hchunk, hlength, hchecksum]

/-- Before the last chunk the next one is requested. -/
theorem Midway.next {k : Nat} {served : Served} {answers : OtaAnswers}
    (hsound : delivery.Sound crc) (haccepts : Accepts delivery.image answers)
    (h : Midway crc delivery k served) (hk : k + 1 < delivery.count) :
    Midway crc delivery (k + 1) (serve crc delivery.image served answers) := by
  have hlast : k < delivery.count := Nat.lt_of_succ_lt hk
  obtain ⟨hslice, written, writer', hwrite, hok, hholds⟩ := h.written hsound haccepts hlast
  obtain ⟨timestamp, hserve⟩ := h.serve_eq hsound hlast answers
  have hinside := (hsound.lt_count_iff (k + 1)).mp hk
  have hadvance := hsound.advance hlast timestamp
  rw [Nat.min_eq_left (Nat.le_of_lt hinside)] at hadvance
  have hmore : ¬ (delivery.current crc k timestamp).otaAttribute.otaSize
      ≤ (otaupdateAdvance crc (delivery.current crc k timestamp)
        (slice delivery.size delivery.image k)).state.receivedLen := by
    rw [hadvance]
    show ¬ delivery.session.otaAttribute.otaSize ≤ (k + 1) * delivery.size
    rw [hsound.otaSize]
    exact Nat.not_le.mpr hinside
  obtain ⟨dev', hchunk, hwriter, htrace⟩ := otaupdateOnChunk_more hslice hwrite hok
    haccepts.chunkRequestSent hmore
  rw [hadvance] at hchunk htrace
  rw [hserve]
  have hchunk' : otaupdateOnChunk crc k (slice delivery.size delivery.image k) answers
      (delivery.current crc k timestamp) served.world.dev
      = (delivery.current crc (k + 1) served.world.dev.core.now, dev') := hchunk
  rw [hchunk']
  refine ⟨?_, ⟨_, rfl⟩, hwriter ▸ hholds, ?_⟩
  · show served.answered + 1 = _
    rw [h.answered, Nat.add_assoc]
  · show dev'.trace = _
    rw [htrace, h.trace, exchange_succ, List.append_assoc]
    rfl

/-- The last chunk completes the image, and the image boots. -/
theorem Midway.finish {k : Nat} {served : Served} {answers : OtaAnswers}
    (hsound : delivery.Sound crc) (haccepts : Accepts delivery.image answers)
    (h : Midway crc delivery k served) (hk : k + 1 = delivery.count) :
    Finished delivery (serve crc delivery.image served answers) := by
  have hlast : k < delivery.count := by omega
  obtain ⟨hslice, written, writer', hwrite, hok, hholds⟩ := h.written hsound haccepts hlast
  obtain ⟨timestamp, hserve⟩ := h.serve_eq hsound hlast answers
  have hwhole : delivery.image.length ≤ (k + 1) * delivery.size :=
    Nat.le_of_not_lt fun hlt => absurd ((hsound.lt_count_iff (k + 1)).mpr hlt) (by omega)
  have hadvance := hsound.advance hlast timestamp
  rw [Nat.min_eq_right hwhole] at hadvance
  have hopen : writer'.Open delivery.image := by
    rw [FwWriter.HoldsSlices, if_neg (Nat.succ_ne_zero k), List.take_of_length_le hwhole] at hholds
    exact hholds
  have hall : (delivery.current crc k timestamp).otaAttribute.otaSize
      ≤ (otaupdateAdvance crc (delivery.current crc k timestamp)
        (slice delivery.size delivery.image k)).state.receivedLen := by
    rw [hadvance]
    exact Nat.le_of_eq hsound.otaSize
  have hchunk : otaupdateOnChunk crc k (slice delivery.size delivery.image k) answers
      (delivery.current crc k timestamp) served.world.dev = _ :=
    otaupdateOnChunk_last hslice hwrite hok hall
  rw [hadvance] at hchunk
  have hverified : otaupdateChecksumVerification { delivery.current crc (k + 1) timestamp with
      state := { (delivery.current crc (k + 1) timestamp).state with
        receivedLen := delivery.image.length } } = true := by
    refine decide_eq_true ?_
    show reverseBytes (crc.run 0 (delivery.image.take ((k + 1) * delivery.size))) = _
    rw [List.take_of_length_le hwhole]
    exact hsound.checksum
  have hbusy : Otaupdate.busy { delivery.current crc (k + 1) timestamp with
      state := { (delivery.current crc (k + 1) timestamp).state with
        receivedLen := delivery.image.length } } = true :=
    Otaupdate.busy_iff.mpr ⟨hsound.requestId, pos_of_header hsound.image⟩
  rw [hserve, hchunk]
  generalize hcomplete : otaupdateComplete _ answers _ = result
  obtain ⟨session', dev'⟩ := result
  obtain ⟨hsession, ⟨hno, -⟩ | ⟨-, hno, -⟩ | ⟨ended, writer'', -, -, hend, hended⟩⟩ :=
    otaupdateComplete_cases hcomplete
  · exact absurd hverified (by simp [hno])
  · exact absurd hbusy (by simp [hno])
  obtain ⟨hsuccess, hclean⟩ := haccepts.finish hopen hend
  rcases hended with ⟨-, hwriter, htrace⟩ | ⟨hno, -⟩
  · refine ⟨?_, ?_, hwriter ▸ hclean, k, answers, hk, ?_⟩
    · show served.answered + 1 = _
      rw [h.answered, ← hk, Nat.add_assoc]
    · rw [hsession]
      rfl
    · show dev'.trace = _
      rw [htrace, OtaDevice.log_trace, OtaDevice.log_writer, hopen.image, h.trace]
      simp only [List.append_assoc]
      rfl
  · exact absurd hsuccess hno

/-! ## All answers -/

/-- As many chunks are delivered as there were answers, until the image is complete. -/
theorem Midway.rounds {served : Served} (hsound : delivery.Sound crc)
    (hstart : Midway crc delivery 0 served) {rounds : List OtaAnswers}
    (hrounds : ∀ answers ∈ rounds, Accepts delivery.image answers) :
    if rounds.length < delivery.count then
      Midway crc delivery rounds.length (rounds.foldl (serve crc delivery.image) served)
    else Finished delivery (rounds.foldl (serve crc delivery.image) served) := by
  induction rounds using List.reverseRecOn with
  | nil =>
    have hcount : 0 < delivery.count := sliceCount_pos _ _
    rw [List.length_nil, if_pos hcount]
    exact hstart
  | append_singleton rounds answers ih =>
    have hbefore := ih fun a ha => hrounds a (List.mem_append_left _ ha)
    have haccepts := hrounds answers (by simp)
    rw [List.foldl_append, List.foldl_cons, List.foldl_nil, List.length_append,
      List.length_singleton]
    split at hbefore
    · rename_i hmore
      by_cases hlast : rounds.length + 1 < delivery.count
      · rw [if_pos hlast]
        exact hbefore.next hsound haccepts hlast
      · rw [if_neg hlast]
        exact hbefore.finish hsound haccepts (by omega)
    · -- the server has nothing left to answer
      rename_i hdone
      rw [if_neg (by omega), serve, hbefore.pending hsound]
      exact hbefore

theorem Finished.downloaded {served : Served} (hsound : delivery.Sound crc)
    (hsize : delivery.size = 16 * 1024) (h : Finished delivery served) :
    ∃ actions, served.world.dev.trace = delivery.past ++ actions ∧
      Downloaded delivery.image delivery.front delivery.session delivery.back actions
        served.world := by
  obtain ⟨k, answers, hk, htrace⟩ := h.trace
  refine ⟨_, htrace, ⟨delivery.requestId, ?_⟩, ?_, ?_, ?_, h.sessions, h.writer⟩
  · have hexchange : ∀ n, (delivery.exchange n).filterMap OtaAction.requested
        = (List.range (n + 1)).map fun chunkId => (delivery.requestId, chunkId) := by
      intro n
      induction n with
      | zero => rfl
      | succ n ih =>
        rw [exchange_succ, List.filterMap_append, ih, List.range_succ (n := n + 1),
          List.map_append]
        rfl
    rw [List.filterMap_append, hexchange, hk, count, hsize]
    exact List.append_nil _
  · have hexchange : ∀ n, ((delivery.exchange n).filterMap OtaAction.written)
        = (List.range n).map (slice delivery.size delivery.image) := by
      intro n
      induction n with
      | zero => rfl
      | succ n ih =>
        rw [exchange_succ, List.filterMap_append, ih, List.range_succ, List.map_append]
        rfl
    have hwritten : (delivery.write k :: delivery.ending answers).filterMap OtaAction.written
        = [slice delivery.size delivery.image k] := rfl
    have himage := length_le_sliceCount_mul hsound.size_pos
      (Nat.lt_of_lt_of_le (by decide) hsound.image)
    rw [List.filterMap_append, hexchange, hwritten, ← List.map_singleton, ← List.map_append,
      ← List.range_succ, flatten_slices, ← Nat.add_one, hk]
    exact List.take_of_length_le himage
  · have hexchange : ∀ a ∈ delivery.exchange k, a.switched = none := by
      intro a ha
      rcases mem_exchange ha with ⟨i, rfl⟩ | ⟨i, rfl⟩ <;> rfl
    rw [List.filterMap_append, List.filterMap_eq_nil_iff.mpr hexchange]
    rfl
  · have hexchange : ∀ a ∈ delivery.exchange k, a.concluded = none := by
      intro a ha
      rcases mem_exchange ha with ⟨i, rfl⟩ | ⟨i, rfl⟩ <;> rfl
    rw [List.filterMap_append, List.filterMap_eq_nil_iff.mpr hexchange]
    rfl

end Delivery

/-! ## The announcement -/

/-- What the negotiation of an accepted update caches. -/
def announcedAttribute (title version : String) (size : Nat) (checksum algorithm : String) :
    OtaupdateAttribute where
  otaTitle := some title
  otaVersion := some version
  otaSize := size
  otaChecksum := some checksum
  otaChecksumAlgorithm := some algorithm

/-- What is done before the first chunk is requested. -/
def openingActions (session : Otaupdate) (cached : OtaupdateAttribute) (answers : OtaAnswers) :
    List OtaAction :=
  [.negotiate session.addr, .negotiated session.addr 1 cached,
    goingTelemetry session "DOWNLOADING" answers]

/-- A session whose first chunk was requested. -/
def Otaupdate.started (session : Otaupdate) (cached : OtaupdateAttribute)
    (requestId timestamp : Nat) : Otaupdate :=
  { session with
    otaAttribute := cached
    state := { OtaupdateState.idle with
      requestId := requestId
      timestamp := timestamp } }

section

variable {title version current algorithm : String} (checksum : String) {size partition : Nat}
  {answers : OtaAnswers} {session : Otaupdate} {dev : OtaDevice}

/-- An update that is not the current one and fits the partition is accepted. -/
theorem otaupdateDoNegotiate_accepted (htitle : answers.currentTitle session.addr = some title)
    (hversion : answers.currentVersion session.addr = some current) (hother : version ≠ current)
    (hpartition : dev.writer.fwupdate.updatePartition = some partition) (hsize : size ≤ partition)
    (halg : strcaseEq algorithm "crc32" = true) :
    otaupdateDoNegotiate session title (some version) size (some checksum) (some algorithm) answers
        dev
      = .ok (⟨1, ""⟩, { otaupdateReset session with
            otaAttribute := announcedAttribute title version size checksum algorithm },
          (dev.log (.negotiate session.addr)).log (.negotiated session.addr 1
            (announcedAttribute title version size checksum algorithm))) := by
  have haccepted : otaFwupdateNegotiate (dev.log (.negotiate session.addr)).writer.fwupdate
      (answers.currentTitle (otaupdateReset session).addr)
      (answers.currentVersion (otaupdateReset session).addr) title (some version) size
      otaErrorSize = .ok ⟨1, ""⟩ := by
    show otaFwupdateNegotiate dev.writer.fwupdate (answers.currentTitle session.addr)
      (answers.currentVersion session.addr) title (some version) size otaErrorSize = .ok ⟨1, ""⟩
    rw [htitle, hversion]
    simp [otaFwupdateNegotiate, hother, hpartition, Nat.not_lt.mpr hsize]
  simp only [otaupdateDoNegotiate, halg, Bool.not_true, Bool.false_eq_true, if_false, haccepted,
    bind, Except.bind, if_true]
  rfl

/-- An accepted update requests its first chunk under a new request id. -/
theorem otaupdateOnNegotiation_started (htitle : answers.currentTitle session.addr = some title)
    (hversion : answers.currentVersion session.addr = some current) (hother : version ≠ current)
    (hpartition : dev.writer.fwupdate.updatePartition = some partition) (hsize : size ≤ partition)
    (halg : strcaseEq algorithm "crc32" = true) (hsent : answers.chunkRequestSent = true) :
    ∃ timestamp dev', otaupdateOnNegotiation title (some version) size (some checksum)
        (some algorithm) answers session dev
        = .ok (session.started (announcedAttribute title version size checksum algorithm)
            (tbcmhGetRequestId dev.core).1 timestamp, dev') ∧
      dev'.writer = dev.writer ∧
      dev'.trace = dev.trace ++ (openingActions session
          (announcedAttribute title version size checksum algorithm) answers ++
        [.chunkRequest session.addr (tbcmhGetRequestId dev.core).1 0
          (toString (session.started (announcedAttribute title version size checksum algorithm)
            (tbcmhGetRequestId dev.core).1 timestamp).requestedSize) true]) := by
  -- a subscription does not touch the counter of request ids
  have hcore : (tbcmhGetRequestId (if tbcmhIsConnected dev.core = true
      then tbcmSubscribe dev.core .fwResponse else dev.core)).1
      = (tbcmhGetRequestId dev.core).1 := by
    split <;> rfl
  unfold otaupdateOnNegotiation
  rw [otaupdateDoNegotiate_accepted checksum htitle hversion hother hpartition hsize halg, ← hcore]
  simp only [bind, Except.bind, if_true, otaupdateChunkRequest, hsent]
  refine ⟨_, _, rfl, rfl, ?_⟩
  simp only [OtaDevice.log_trace, otaupdatePublishGoingStatus_trace, List.append_assoc]
  rfl

end

/-- The attributes that announce an image are handed on. -/
theorem AnnouncesImage.attributesupdate {crc : CrcRoutine} {image : List UInt8}
    {title version : String} {object : Cjson} {answers : OtaAnswers}
    (h : AnnouncesImage crc image title version object)
    (hsize : toUint32 (intOfDouble answers.undefinedInt (some image.length)) = image.length)
    (world : OtaWorld) :
    ∃ checksum algorithm,
      Scanf.SpellsHex checksum (reverseBytes (crc.run 0 image)).toNat ∧
      strcaseEq algorithm "crc32" = true ∧
      otaHandle crc world (.sharedAttributes (some object) answers)
        = otaupdateOnSharedattributes .fw (some title) (some version) image.length (some checksum)
            (some algorithm) answers world := by
  obtain ⟨checksum, hchecksum, hspells⟩ := h.checksum
  obtain ⟨algorithm, halgorithm, hcrc⟩ := h.algorithm
  refine ⟨checksum, algorithm, hspells, hcrc, ?_⟩
  simp [otaHandle, otaupdateOnFwAttributesupdate, otaupdateOnAttributesupdate, hasOtaAttributes,
    Cjson.hasObjectItem, otaAttributeKeys, h.title, h.version, h.size, hchecksum, halgorithm,
    Cjson.getStringValue, Cjson.getNumberValue, hsize]

/-- The announcement starts a delivery. -/
theorem AnnouncesImage.midway {crc : CrcRoutine} {image : List UInt8} {title version : String}
    {object : Cjson} {answers : OtaAnswers} {world : OtaWorld} {front back : List Otaupdate}
    {session : Otaupdate} (himage : imageHeadersSize + appDescSize ≤ image.length)
    (hannounces : AnnouncesImage crc image title version object)
    (hready : ReadyFor image title version answers front session back world)
    (haccepts : Accepts image answers) :
    ∃ started cached requestId timestamp delivery,
      otaHandle crc world (.sharedAttributes (some object) answers) = .ok started ∧
      delivery = { image := image
                   front := front
                   session := session.started cached requestId timestamp
                   back := back
                   requestId := requestId
                   past := world.dev.trace ++ openingActions session cached answers : Delivery } ∧
      delivery.Sound crc ∧
      delivery.Midway crc 0
        ⟨started, (world.dev.trace.filterMap (honestAnswer image)).length⟩ := by
  obtain ⟨checksum, algorithm, hspells, hcrc, hhandle⟩ :=
    hannounces.attributesupdate hready.size world
  obtain ⟨current, hcurrent, hother⟩ := hready.currentVersion
  obtain ⟨partition, hpartition, hfits⟩ := hready.partition
  obtain ⟨timestamp, dev, hnegotiation, hwriter, htrace⟩ :=
    otaupdateOnNegotiation_started checksum hready.currentTitle hcurrent hother
      hpartition hfits hcrc haccepts.chunkRequestSent
  have hfound : splitFirst (·.matchesTitle .fw title answers) world.otaupdateList
      = some (front, session, back) := by
    rw [hready.sessions]
    refine splitFirst_append_cons hready.otherTitles ?_ back
    simp [Otaupdate.matchesTitle, hready.config, hready.currentTitle]
  have hstarted : otaHandle crc world (.sharedAttributes (some object) answers) = .ok { world with
      otaupdateList := front ++ session.started (announcedAttribute title version image.length
        checksum algorithm) (tbcmhGetRequestId world.dev.core).1 timestamp :: back
      dev := dev } := by
    rw [hhandle, otaupdateOnSharedattributes]
    simp only [hfound, hnegotiation, bind, Except.bind]
  have hlt : image.length < 2 ^ 32 := by
    have hsize := hready.size
    simp only [toUint32] at hsize
    omega
  have hchunk : session.config.chunkSize = 16 * 1024 := by rw [hready.config]
  refine ⟨_, announcedAttribute title version image.length checksum algorithm,
    (tbcmhGetRequestId world.dev.core).1, timestamp, _, hstarted, rfl, ?_, ?_⟩
  · refine ⟨himage, hlt, ?_, ?_, rfl, ?_, tbcmhGetRequestId_pos _, hready.otherRequests⟩
    · show imageHeadersSize + appDescSize ≤ session.config.chunkSize
      rw [hchunk]
      decide
    · show session.config.chunkSize < 2 ^ 32
      rw [hchunk]
      decide
    · show reverseBytes (crc.run 0 image) = (Scanf.scanHex checksum).getD 0
      rw [Scanf.scanHex_of_spellsHex hspells (UInt32.toNat_lt _), Option.getD_some,
        UInt32.ofNat_toNat]
  · refine ⟨?_, ⟨timestamp, ?_⟩, ?_, ?_⟩
    · rw [List.filterMap_append]
      exact congrArg List.length (List.append_nil _).symm
    · rw [Delivery.current]
      simp only [Nat.zero_mul, List.take_zero, crc.run_nil]
      rfl
    · show FwWriter.HoldsSlices dev.writer _ _ 0
      rw [FwWriter.HoldsSlices, if_pos rfl, hwriter]
      exact hready.writer
    · show dev.trace = _
      rw [htrace, List.append_assoc]
      rfl

/-- An image that is announced and accepted is requested chunk by chunk from an honest server. No
    request is left exactly when as many were answered as the image has slices, and then the image is
    downloaded. -/
theorem downloaded_of_honestServer {crc : CrcRoutine} {image : List UInt8} {title version : String}
    {object : Cjson} {answers : OtaAnswers} {world : OtaWorld} {front back : List Otaupdate}
    {session : Otaupdate} (himage : imageHeadersSize + appDescSize ≤ image.length)
    (hannounces : AnnouncesImage crc image title version object)
    (hready : ReadyFor image title version answers front session back world)
    (haccepts : Accepts image answers) :
    ∃ started, otaHandle crc world (.sharedAttributes (some object) answers) = .ok started ∧
      ∀ rounds : List OtaAnswers, (∀ round ∈ rounds, Accepts image round) →
        ∀ served, served = rounds.foldl (serve crc image)
            ⟨started, (world.dev.trace.filterMap (honestAnswer image)).length⟩ →
          (served.pending image = [] ↔ sliceCount (16 * 1024) image.length ≤ rounds.length) ∧
          (served.pending image = [] → ∃ actions,
            served.world.dev.trace = world.dev.trace ++ actions ∧
            Downloaded image front session back actions served.world) := by
  obtain ⟨started, cached, requestId, timestamp, delivery, hstarted, hdelivery, hsound, hmidway⟩ :=
    hannounces.midway himage hready haccepts
  have hsize : delivery.size = 16 * 1024 := by
    rw [hdelivery]
    show session.config.chunkSize = _
    rw [hready.config]
  have himage' : delivery.image = image := by rw [hdelivery]
  have hcount : delivery.count = sliceCount (16 * 1024) image.length := by
    rw [Delivery.count, hsize, himage']
  refine ⟨started, hstarted, ?_⟩
  rintro rounds hrounds _ rfl
  have hdone := hmidway.rounds hsound (himage'.symm ▸ hrounds)
  rw [himage', hcount] at hdone
  by_cases hmore : rounds.length < sliceCount (16 * 1024) image.length
  · rw [if_pos hmore] at hdone
    have hpending := hdone.pending hsound
    rw [himage'] at hpending
    refine ⟨⟨fun hnil => absurd (hpending.symm.trans hnil) (by simp), fun hle => by omega⟩,
      fun hnil => absurd (hpending.symm.trans hnil) (by simp)⟩
  · rw [if_neg hmore] at hdone
    have hpending := hdone.pending hsound
    rw [himage'] at hpending
    refine ⟨⟨fun _ => Nat.le_of_not_lt hmore, fun _ => hpending⟩, ?_⟩
    intro _
    obtain ⟨actions, htrace, hdownloaded⟩ := hdone.downloaded hsound hsize
    subst hdelivery
    refine ⟨openingActions session cached answers ++ actions, ?_, ?_⟩
    · rw [htrace, List.append_assoc]
    · exact ⟨hdownloaded.requests, hdownloaded.written, hdownloaded.switched,
        hdownloaded.concluded, hdownloaded.sessions, hdownloaded.writer⟩

/-- An image of two slices. -/
def twoSlices : List UInt8 := sampleImage ++ List.replicate 20000 0

/-- Its checksum, printed. -/
def twoSlicesChecksum : String :=
  String.ofList (Nat.toDigits 16 (reverseBytes (CrcRoutine.crc32.run 0 twoSlices)).toNat)

/-- The session of the sample world. -/
def sampleSession : Otaupdate where
  addr := 0
  otaDescription := "F/W"
  config := ⟨.fw, 16 * 1024⟩
  otaAttribute := .empty
  state := .idle

theorem length_twoSlices : twoSlices.length = 20288 := by
  rw [twoSlices, sampleImage, List.length_append, List.length_cons, List.length_replicate,
    List.length_replicate]
  rfl

theorem accepts_twoSlices : Accepts twoSlices sampleAnswers :=
  ⟨rfl, rfl, rfl, rfl, rfl, by decide +kernel, by simp [sampleAnswers]⟩

theorem announces_twoSlices : AnnouncesImage .crc32 twoSlices "app" "1.1"
    (sampleAttributes twoSlices.length twoSlicesChecksum) where
  title := by simp [sampleAttributes, Cjson.getObjectItem, strcaseEq]
  version := by simp [sampleAttributes, Cjson.getObjectItem, strcaseEq]
  size := by simp [sampleAttributes, Cjson.getObjectItem, strcaseEq]
  checksum := ⟨twoSlicesChecksum, by simp [sampleAttributes, Cjson.getObjectItem, strcaseEq],
    Scanf.spellsHex_toDigits _⟩
  algorithm := ⟨"CRC32", by simp [sampleAttributes, Cjson.getObjectItem, strcaseEq],
    by simp [strcaseEq]⟩

theorem readyFor_twoSlices :
    ReadyFor twoSlices "app" "1.1" sampleAnswers [] sampleSession [] sampleWorld where
  sessions := rfl
  config := rfl
  currentTitle := rfl
  currentVersion := ⟨"1.0", rfl, by decide⟩
  otherTitles := by simp
  otherRequests := by simp
  writer := ⟨⟨rfl, rfl⟩, rfl⟩
  partition := ⟨1000000, rfl, by rw [length_twoSlices]; decide⟩
  size := toUint32_intOfDouble _ (by rw [length_twoSlices]; decide)

/-- Two answers deliver the image of two slices. -/
theorem downloaded_of_honestServer_twoSlices :
    ∃ started, otaHandle .crc32 sampleWorld (.sharedAttributes
        (some (sampleAttributes twoSlices.length twoSlicesChecksum)) sampleAnswers) = .ok started ∧
      ∃ served actions, served = [sampleAnswers, sampleAnswers].foldl (serve .crc32 twoSlices)
          ⟨started, 0⟩ ∧
        served.pending twoSlices = [] ∧
        served.world.dev.trace = sampleWorld.dev.trace ++ actions ∧
        Downloaded twoSlices [] sampleSession [] actions served.world := by
  obtain ⟨started, hstarted, hrounds⟩ := downloaded_of_honestServer
    (by rw [length_twoSlices]; decide) announces_twoSlices readyFor_twoSlices accepts_twoSlices
  obtain ⟨hpending, hdownloaded⟩ := hrounds [sampleAnswers, sampleAnswers]
    (by simp [accepts_twoSlices]) _ rfl
  have hdone := hpending.mpr (by rw [length_twoSlices]; decide)
  obtain ⟨actions, htrace, hactions⟩ := hdownloaded hdone
  exact ⟨started, hstarted, _, actions, rfl, hdone, htrace, hactions⟩

end ThingsboardMqtt
