import ThingsboardMqtt.Helper.Cjson
import ThingsboardMqtt.Helper.Core
import ThingsboardMqtt.Library.Crc
import ThingsboardMqtt.Library.Scanf
import ThingsboardMqtt.Ota.Fwupdate

set_option autoImplicit false

/-! # One OTA session

The functions of `ota_update.c` that work on one `otaupdate_t`. Each takes the session and the
device around it (`OtaDevice`: the client, the firmware writer and the trace of what was done) and
returns both. What the device, the user's callbacks and the network answer while one event is
handled is given in `OtaAnswers`; memory is assumed to be there. -/

namespace ThingsboardMqtt

/-- `tbcmh_otaupdate_type_t` -/
inductive TbcmhOtaupdateType
  | fw
  | sw
  deriving DecidableEq, Repr

/-! ## The session -/

/-- `otaupdate_config_t` without the callbacks, which are fixed: the user's by `OtaAnswers`, the
    writer's by `ota_type`. -/
structure OtaupdateConfig where
  otaType : TbcmhOtaupdateType
  chunkSize : Nat
  deriving DecidableEq, Repr

/-- `otaupdate_attribute_t` -/
structure OtaupdateAttribute where
  otaTitle : Option String
  otaVersion : Option String
  otaSize : Nat
  otaChecksum : Option String
  otaChecksumAlgorithm : Option String
  deriving DecidableEq, Repr

/-- `otaupdate_state_t` -/
structure OtaupdateState where
  requestId : Nat
  receivedLen : Nat
  checksum : UInt32
  chunkId : Nat
  timestamp : Nat
  deriving DecidableEq, Repr

/-- `otaupdate_t`; `addr` is its address. -/
structure Otaupdate where
  addr : Nat
  otaDescription : String
  config : OtaupdateConfig
  otaAttribute : OtaupdateAttribute
  state : OtaupdateState
  deriving DecidableEq, Repr

def OtaupdateAttribute.empty : OtaupdateAttribute where
  otaTitle := none
  otaVersion := none
  otaSize := 0
  otaChecksum := none
  otaChecksumAlgorithm := none

def OtaupdateState.idle : OtaupdateState where
  requestId := 0
  receivedLen := 0
  checksum := 0
  chunkId := 0
  timestamp := 0

/-! ## The device -/

/-- What is done for a session, in the order it is done. `owner` is the session's address; a
    telemetry that concerns none has no owner. -/
inductive OtaAction
  | telemetry (owner : Option Nat) (payload : Cjson)
  | negotiate (owner : Nat)
  | negotiated (owner : Nat) (result : Int) (cached : OtaupdateAttribute)
  | chunkRequest (owner requestId chunkId : Nat) (payload : String) (sent : Bool)
  | otaWrite (owner chunkId : Nat) (data : List UInt8) (ok : Bool)
  | otaEnd (owner : Nat) (image : List UInt8) (switched : Bool)
  | otaAbort (owner : Nat)
  | otaUpdated (owner : Nat) (success : Bool)

structure OtaDevice where
  core : Core
  writer : FwWriter
  trace : List OtaAction

def OtaDevice.log (dev : OtaDevice) (action : OtaAction) : OtaDevice :=
  { dev with trace := dev.trace ++ [action] }

/-- What the environment answers while one event is handled: `on_get_current_title` and
    `on_get_current_version` of the session at an address, the writer's device calls, whether the
    chunk request can be published, and the value of an undefined conversion to `int`. -/
structure OtaAnswers where
  currentTitle : Nat → Option String
  currentVersion : Nat → Option String
  fw : FwAnswers
  chunkRequestSent : Bool
  undefinedInt : Int

/-! ## Telemetry -/

/-- The four keys of a type, `current_title`, `current_version`, `state` and `error`. -/
structure OtaKeys where
  currentTitle : String
  currentVersion : String
  state : String
  error : String

def otaKeys : TbcmhOtaupdateType → OtaKeys
  | .fw => ⟨"current_fw_title", "current_fw_version", "fw_state", "fw_error"⟩
  | .sw => ⟨"current_sw_title", "current_sw_version", "sw_state", "sw_error"⟩

/-- `_otaupdate_publish_early_current_version` -/
def otaupdatePublishEarlyCurrentVersion (session : Otaupdate) (answers : OtaAnswers)
    (dev : OtaDevice) : OtaDevice :=
  let keys := otaKeys session.config.otaType
  let object := Cjson.object []
  let object := object.addStringToObject keys.currentTitle (answers.currentTitle session.addr)
  let object := object.addStringToObject keys.currentVersion (answers.currentVersion session.addr)
  dev.log (.telemetry (some session.addr) object)

/-- `{"fw_state": "FAILED", "fw_error": ..}` -/
def failedStatus (otaType : TbcmhOtaupdateType) (otaError : Option String) : Cjson :=
  let keys := otaKeys otaType
  let object := Cjson.object []
  let object := object.addStringToObject keys.state (some "FAILED")
  object.addStringToObject keys.error otaError

/-- `_otaupdate_publish_early_failed_status` -/
def otaupdatePublishEarlyFailedStatus (otaType : TbcmhOtaupdateType) (otaError : String)
    (dev : OtaDevice) : OtaDevice :=
  dev.log (.telemetry none (failedStatus otaType (some otaError)))

/-- `_otaupdate_publish_late_failed_status` -/
def otaupdatePublishLateFailedStatus (session : Otaupdate) (otaError : String)
    (dev : OtaDevice) : OtaDevice :=
  dev.log (.telemetry (some session.addr) (failedStatus session.config.otaType (some otaError)))

/-- `{"current_fw_title": .., "current_fw_version": .., "fw_state": ..}` -/
def stateStatus (otaType : TbcmhOtaupdateType) (title version : Option String)
    (otaState : String) : Cjson :=
  let keys := otaKeys otaType
  let object := Cjson.object []
  let object := object.addStringToObject keys.currentTitle title
  let object := object.addStringToObject keys.currentVersion version
  object.addStringToObject keys.state (some otaState)

/-- `_otaupdate_publish_going_status` -/
def otaupdatePublishGoingStatus (session : Otaupdate) (otaState : String) (answers : OtaAnswers)
    (dev : OtaDevice) : OtaDevice :=
  dev.log (.telemetry (some session.addr) (stateStatus session.config.otaType
    (answers.currentTitle session.addr) (answers.currentVersion session.addr) otaState))

/-- `_otaupdate_publish_updated_status` -/
def otaupdatePublishUpdatedStatus (session : Otaupdate) (dev : OtaDevice) : OtaDevice :=
  dev.log (.telemetry (some session.addr) (stateStatus session.config.otaType
    session.otaAttribute.otaTitle session.otaAttribute.otaVersion "UPDATED"))

/-! ## Checksum, reset, conclusion -/

/-- The checksum with its bytes in the opposite order. -/
def reverseBytes (checksumInt : UInt32) : UInt32 :=
  let a := (checksumInt &&& 0xFF000000) >>> 24
  let b := (checksumInt &&& 0x00FF0000) >>> 16
  let c := (checksumInt &&& 0x0000FF00) >>> 8
  let d := (checksumInt &&& 0x000000FF) >>> 0
  (d <<< 24) ||| (c <<< 16) ||| (b <<< 8) ||| a

/-- The value `sscanf` leaves in a variable that was zero; a `NULL` text is not scanned. -/
def hexValue (checksum : Option String) : UInt32 := (checksum.bind Scanf.scanHex).getD 0

/-- `_otaupdate_checksum_verification` -/
def otaupdateChecksumVerification (session : Otaupdate) : Bool :=
  reverseBytes session.state.checksum = hexValue session.otaAttribute.otaChecksum

/-- `_otaupdate_reset` -/
def otaupdateReset (session : Otaupdate) : Otaupdate :=
  { session with
    otaAttribute := .empty
    state := .idle }

/-- `_otaupdate_do_updated` -/
def otaupdateDoUpdated (session : Otaupdate) (success : Bool) (dev : OtaDevice) : OtaDevice :=
  let core := if tbcmhIsConnected dev.core then tbcmUnsubscribe dev.core .fwResponse else dev.core
  { dev with core := core }.log (.otaUpdated session.addr success)

/-! ## Negotiation -/

/-- `sizeof(ota_error) - 1` -/
def otaErrorSize : Nat := 127

/-- `_otaupdate_do_negotiate`; `NULL` among the strings that are compared or copied is a fault. -/
def otaupdateDoNegotiate (session : Otaupdate) (otaTitle : String) (otaVersion : Option String)
    (otaSize : Nat) (otaChecksum otaChecksumAlgorithm : Option String) (answers : OtaAnswers)
    (dev : OtaDevice) : Except Fault (OtaResult × Otaupdate × OtaDevice) := do
  let dev := dev.log (.negotiate session.addr)
  let some algorithm := otaChecksumAlgorithm | .error .nullString
  if !strcaseEq algorithm "crc32" then
    .ok (⟨-1, "Only support CRC checksum!"⟩, session, dev)
  else
    let session := otaupdateReset session
    let negotiation ← otaFwupdateNegotiate dev.writer.fwupdate
      (answers.currentTitle session.addr) (answers.currentVersion session.addr)
      otaTitle otaVersion otaSize otaErrorSize
    if negotiation.result = 1 then
      let some checksum := otaChecksum | .error .nullString
      let session := { session with
        otaAttribute :=
          { otaTitle := some otaTitle
            otaVersion := otaVersion
            otaSize := otaSize
            otaChecksum := some checksum
            otaChecksumAlgorithm := some algorithm } }
      .ok (negotiation, session, dev.log (.negotiated session.addr 1 session.otaAttribute))
    else
      .ok (negotiation, session,
        dev.log (.negotiated session.addr negotiation.result session.otaAttribute))

/-- `_otaupdate_chunk_request`: whether the request could be published. -/
def otaupdateChunkRequest (session : Otaupdate) (isFirstChunk : Bool) (answers : OtaAnswers)
    (dev : OtaDevice) : Bool × Otaupdate × OtaDevice :=
  let chunkSize :=
    if session.otaAttribute.otaSize < session.config.chunkSize then 0 else session.config.chunkSize
  let (requestId, core) :=
    if isFirstChunk then tbcmhGetRequestId dev.core else (session.state.requestId, dev.core)
  let session := { session with
    state := { session.state with
      requestId := requestId
      timestamp := core.now } }
  let dev := { dev with core := core }.log (.chunkRequest session.addr requestId
    session.state.chunkId (toString chunkSize) answers.chunkRequestSent)
  (answers.chunkRequestSent, session, dev)

/-! ## Chunks -/

/-- The counters behind a chunk that was written. -/
def otaupdateAdvance (crc : CrcRoutine) (session : Otaupdate) (otaData : List UInt8) : Otaupdate :=
  { session with
    state := { session.state with
      chunkId := (session.state.chunkId + 1) % 2 ^ 32
      receivedLen := (session.state.receivedLen + otaData.length) % 2 ^ 32
      checksum := crc.run session.state.checksum otaData } }

/-- `_otaupdate_do_write` -/
def otaupdateDoWrite (crc : CrcRoutine) (session : Otaupdate) (chunkId : Nat)
    (otaData : List UInt8) (answers : OtaAnswers) (dev : OtaDevice) :
    OtaResult × Otaupdate × OtaDevice :=
  if chunkId ≠ session.state.chunkId then (⟨-1, "Chunk ID is error!"⟩, session, dev)
  else if otaData = [] then (⟨-1, "OTA data is empty!"⟩, session, dev)
  else
    match otaFwupdateWrite dev.writer otaData otaErrorSize answers.fw with
    | (written, writer) =>
      let dev := { dev with writer := writer }.log
        (.otaWrite session.addr chunkId otaData (written.result = 0))
      if written.result ≠ 0 then (⟨-1, written.otaError⟩, session, dev)
      else (⟨0, written.otaError⟩, otaupdateAdvance crc session otaData, dev)

/-- The guard of `_otaupdate_do_end` and `_otaupdate_do_abort`. -/
def Otaupdate.busy (session : Otaupdate) : Bool :=
  0 < session.state.requestId && 0 < session.state.receivedLen

/-- `_otaupdate_do_end` -/
def otaupdateDoEnd (session : Otaupdate) (answers : OtaAnswers) (dev : OtaDevice) :
    OtaResult × OtaDevice :=
  if session.busy then
    let image := dev.writer.flash.image dev.writer.fwupdate.updateHandle
    match otaFwupdateEnd dev.writer otaErrorSize answers.fw with
    | (ended, writer) =>
      (⟨if ended.result = 0 then 0 else -1, ended.otaError⟩,
        { dev with writer := writer }.log (.otaEnd session.addr image (ended.result = 0)))
  else (⟨0, ""⟩, dev)

/-- `_otaupdate_do_abort` -/
def otaupdateDoAbort (session : Otaupdate) (dev : OtaDevice) : OtaDevice :=
  if session.busy then
    { dev with writer := otaFwupdateAbort dev.writer }.log (.otaAbort session.addr)
  else dev

/-- The four calls that conclude a session that failed, behind the telemetry that says why. -/
def otaupdateConcludeFailure (session : Otaupdate) (dev : OtaDevice) : Otaupdate × OtaDevice :=
  let dev := otaupdateDoAbort session dev
  let session := otaupdateReset session
  (session, otaupdateDoUpdated session false dev)

/-- `ota_error_`: the text a callee left, or the default. -/
def otaErrorText (otaError : String) : String :=
  if 0 < otaError.length then otaError else "Unknown error!"

/-- What `_tbcmh_otaupdate_on_chunk_data` does with a session whose last byte was written. -/
def otaupdateComplete (session : Otaupdate) (answers : OtaAnswers) (dev : OtaDevice) :
    Otaupdate × OtaDevice :=
  let dev := otaupdatePublishGoingStatus session "DOWNLOADED" answers dev
  if otaupdateChecksumVerification session then
    let dev := otaupdatePublishGoingStatus session "VERIFIED" answers dev
    let dev := otaupdatePublishGoingStatus session "UPDATING" answers dev
    match otaupdateDoEnd session answers dev with
    | (ended, dev) =>
      if ended.result = 0 then
        let dev := otaupdatePublishUpdatedStatus session dev
        let session := otaupdateReset session
        (session, otaupdateDoUpdated session true dev)
      else
        otaupdateConcludeFailure session
          (otaupdatePublishLateFailedStatus session (otaErrorText ended.otaError) dev)
  else
    otaupdateConcludeFailure session
      (otaupdatePublishLateFailedStatus session "Checksum verification failed!" dev)

/-- What `_tbcmh_otaupdate_on_chunk_data` does with the session it found. -/
def otaupdateOnChunk (crc : CrcRoutine) (chunkId : Nat) (payload : List UInt8)
    (answers : OtaAnswers) (session : Otaupdate) (dev : OtaDevice) : Otaupdate × OtaDevice :=
  match otaupdateDoWrite crc session chunkId payload answers dev with
  | (written, session, dev) =>
    if written.result = 0 then
      if session.otaAttribute.otaSize ≤ session.state.receivedLen then
        otaupdateComplete session answers dev
      else
        match otaupdateChunkRequest session false answers dev with
        | (sent, session, dev) =>
          if sent then (session, dev)
          else
            otaupdateConcludeFailure session
              (otaupdatePublishLateFailedStatus session "Request OTA chunk failure!" dev)
    else if written.result = -1 then
      otaupdateConcludeFailure session
        (otaupdatePublishLateFailedStatus session (otaErrorText written.otaError) dev)
    else
      otaupdateConcludeFailure session
        (otaupdatePublishLateFailedStatus session "Unknown error!" dev)

/-- The condition of the timeout sweep. -/
def Otaupdate.timedOut (timestamp : Nat) (session : Otaupdate) : Bool :=
  0 < session.state.requestId && 0 < session.state.timestamp &&
    session.state.timestamp + tbMqttTimeout ≤ timestamp

/-- One round of the loop of `_tbcmh_otaupdate_on_chunk_check_timeout`. -/
def otaupdateCheckTimeout (timestamp : Nat) (session : Otaupdate) (dev : OtaDevice) :
    Otaupdate × OtaDevice :=
  if session.timedOut timestamp then
    otaupdateConcludeFailure session
      (otaupdatePublishLateFailedStatus session "OTA response timeout!" dev)
  else (session, dev)

/-- What `__otaupdate_on_sharedattributes` does with the session it found. -/
def otaupdateOnNegotiation (otaTitle : String) (otaVersion : Option String) (otaSize : Nat)
    (otaChecksum otaChecksumAlgorithm : Option String) (answers : OtaAnswers)
    (session : Otaupdate) (dev : OtaDevice) : Except Fault (Otaupdate × OtaDevice) := do
  let otaType := session.config.otaType
  let (negotiation, session, dev) ← otaupdateDoNegotiate session otaTitle otaVersion otaSize
    otaChecksum otaChecksumAlgorithm answers dev
  if negotiation.result = 1 then
    let core := if tbcmhIsConnected dev.core then tbcmSubscribe dev.core .fwResponse else dev.core
    let dev := otaupdatePublishGoingStatus session "DOWNLOADING" answers { dev with core := core }
    match otaupdateChunkRequest session true answers dev with
    | (sent, session, dev) =>
      if sent then .ok (session, dev)
      else
        .ok (otaupdateConcludeFailure session
          (otaupdatePublishEarlyFailedStatus otaType "Request OTA chunk failure!" dev))
  else if negotiation.result = 0 then .ok (session, dev)
  else
    .ok (session,
      otaupdatePublishEarlyFailedStatus otaType (otaErrorText negotiation.otaError) dev)

end ThingsboardMqtt
