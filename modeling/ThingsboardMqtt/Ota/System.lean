import ThingsboardMqtt.Library.Execution
import ThingsboardMqtt.Library.ListWalk
import ThingsboardMqtt.Ota.Otaupdate

set_option autoImplicit false

/-! # All OTA sessions of a client

`otaupdate_list` with the operations that search and change it, and the events that reach them:
`OtaEvent` is what arrives at a client whose items are registered, `OtaInput` adds the two calls
that register and remove them. The S/W handler is modelled next to the F/W one but no event reaches
it, because an S/W item cannot be created. -/

namespace ThingsboardMqtt

open ListWalk

/-- The client as the OTA code sees it; `nextAddr` is the next address `malloc` gives out. -/
structure OtaWorld where
  otaupdateList : List Otaupdate
  nextAddr : Nat
  dev : OtaDevice

/-! ## Registration -/

/-- `_otaupdate_create`; an S/W item has no writer yet and is refused. -/
def otaupdateCreate (otaDescription : String) (otaType : TbcmhOtaupdateType)
    (nextUpdatePartition : Option Nat) (world : OtaWorld) : Option Otaupdate × OtaWorld :=
  match otaType with
  | .sw => (none, world)
  | .fw =>
    match otaFwupdateInit nextUpdatePartition with
    | (initialized, fwupdate) =>
      let dev := { world.dev with writer := { world.dev.writer with fwupdate := fwupdate } }
      if initialized then
        (some
          { addr := world.nextAddr
            otaDescription := otaDescription
            config := { otaType := otaType, chunkSize := 16 * 1024 }
            otaAttribute := .empty
            state := .idle },
          { world with
            nextAddr := world.nextAddr + 1
            dev := dev })
      else (none, { world with dev := dev })

/-- `tbcmh_otaupdate_subscribe`: whether it returns `ESP_OK`, and the list. -/
def tbcmhOtaupdateSubscribe (otaDescription : String) (otaType : TbcmhOtaupdateType)
    (nextUpdatePartition : Option Nat) (world : OtaWorld) : Bool × OtaWorld :=
  match otaupdateCreate otaDescription otaType nextUpdatePartition world with
  | (some otaupdate, world) =>
    (true, { world with otaupdateList := world.otaupdateList ++ [otaupdate] })
  | (none, world) => (false, world)

/-- `tbcmh_otaupdate_unsubscribe`: the item is removed and destroyed as it is. -/
def tbcmhOtaupdateUnsubscribe (otaDescription : String) (world : OtaWorld) : Bool × OtaWorld :=
  match splitFirst (fun session => session.otaDescription = otaDescription) world.otaupdateList with
  | some (front, _, back) => (true, { world with otaupdateList := front ++ back })
  | none => (false, world)

/-- One item leaves the list, or none. -/
theorem tbcmhOtaupdateUnsubscribe_sublist (otaDescription : String) (world : OtaWorld) :
    ∃ otaupdateList, otaupdateList.Sublist world.otaupdateList ∧
      (tbcmhOtaupdateUnsubscribe otaDescription world).2
        = { world with otaupdateList := otaupdateList } := by
  unfold tbcmhOtaupdateUnsubscribe
  split
  · rename_i front session back hsplit
    refine ⟨front ++ back, ?_, rfl⟩
    rw [(splitFirst_eq_some hsplit).1]
    exact (List.sublist_cons_self session back).append_left front
  · exact ⟨world.otaupdateList, .refl _, rfl⟩

/-! ## Shared attributes -/

/-- The search condition of `__otaupdate_on_sharedattributes`. -/
def Otaupdate.matchesTitle (otaType : TbcmhOtaupdateType) (otaTitle : String)
    (answers : OtaAnswers) (session : Otaupdate) : Bool :=
  session.config.otaType = otaType && answers.currentTitle session.addr = some otaTitle

/-- `__otaupdate_on_sharedattributes` -/
def otaupdateOnSharedattributes (otaType : TbcmhOtaupdateType)
    (otaTitle otaVersion : Option String) (otaSize : Nat)
    (otaChecksum otaChecksumAlgorithm : Option String) (answers : OtaAnswers)
    (world : OtaWorld) : Except Fault OtaWorld :=
  match otaTitle with
  | none => .ok world
  | some otaTitle =>
    match splitFirst (·.matchesTitle otaType otaTitle answers) world.otaupdateList with
    | none =>
      .ok { world with
        dev := otaupdatePublishEarlyFailedStatus otaType "Device code is error!" world.dev }
    | some (front, session, back) => do
      let (session, dev) ← otaupdateOnNegotiation otaTitle otaVersion otaSize otaChecksum
        otaChecksumAlgorithm answers session world.dev
      .ok { world with
        otaupdateList := front ++ session :: back
        dev := dev }

/-- The names of the five shared attributes of a type. -/
structure OtaAttributeKeys where
  title : String
  version : String
  size : String
  checksum : String
  checksumAlg : String

def otaAttributeKeys : TbcmhOtaupdateType → OtaAttributeKeys
  | .fw => ⟨"fw_title", "fw_version", "fw_size", "fw_checksum", "fw_checksum_algorithm"⟩
  | .sw => ⟨"sw_title", "sw_version", "sw_size", "sw_checksum", "sw_checksum_algorithm"⟩

/-- A message that carries all five attributes. -/
def hasOtaAttributes (keys : OtaAttributeKeys) (object : Cjson) : Bool :=
  object.hasObjectItem keys.title && object.hasObjectItem keys.version &&
    object.hasObjectItem keys.size && object.hasObjectItem keys.checksum &&
    object.hasObjectItem keys.checksumAlg

/-- The common body of the two `on_update` callbacks. -/
def otaupdateOnAttributesupdate (otaType : TbcmhOtaupdateType) (object : Option Cjson)
    (answers : OtaAnswers) (world : OtaWorld) : Except Fault OtaWorld :=
  let keys := otaAttributeKeys otaType
  match object with
  | none => .ok world
  | some object =>
    if hasOtaAttributes keys object then
      otaupdateOnSharedattributes otaType
        (Cjson.getStringValue (object.getObjectItem keys.title))
        (Cjson.getStringValue (object.getObjectItem keys.version))
        (toUint32 (intOfDouble answers.undefinedInt
          (Cjson.getNumberValue (object.getObjectItem keys.size))))
        (Cjson.getStringValue (object.getObjectItem keys.checksum))
        (Cjson.getStringValue (object.getObjectItem keys.checksumAlg)) answers world
    else .ok world

/-- `_otaupdate_on_fw_attributesupdate` -/
def otaupdateOnFwAttributesupdate (object : Option Cjson) (answers : OtaAnswers)
    (world : OtaWorld) : Except Fault OtaWorld :=
  otaupdateOnAttributesupdate .fw object answers world

/-- `_otaupdate_on_sw_attributesupdate` -/
def otaupdateOnSwAttributesupdate (object : Option Cjson) (answers : OtaAnswers)
    (world : OtaWorld) : Except Fault OtaWorld :=
  otaupdateOnAttributesupdate .sw object answers world

/-! ## Chunks and timeouts -/

/-- `_tbcmh_otaupdate_on_chunk_data` -/
def tbcmhOtaupdateOnChunkData (crc : CrcRoutine) (requestId chunkId : Nat) (payload : List UInt8)
    (answers : OtaAnswers) (world : OtaWorld) : OtaWorld :=
  match splitFirst (fun session => session.state.requestId = requestId) world.otaupdateList with
  | none => world
  | some (front, session, back) =>
    match otaupdateOnChunk crc chunkId payload answers session world.dev with
    | (session, dev) =>
      { world with
        otaupdateList := front ++ session :: back
        dev := dev }

/-- `_tbcmh_otaupdate_on_chunk_check_timeout` -/
def tbcmhOtaupdateOnChunkCheckTimeout (timestamp : Nat) (world : OtaWorld) : OtaWorld :=
  match foreachSafe (otaupdateCheckTimeout timestamp) world.otaupdateList world.dev with
  | (otaupdateList, dev) =>
    { world with
      otaupdateList := otaupdateList
      dev := dev }

/-- `_tbcmh_otaupdate_on_disconnected` -/
def tbcmhOtaupdateOnDisconnected (world : OtaWorld) : OtaWorld :=
  tbcmhOtaupdateOnChunkCheckTimeout (world.dev.core.now + 2 * tbMqttTimeout) world

/-! ## Events -/

/-- What reaches the registered items. `environment` is everything else the client does: it
    connects and disconnects, hands out request ids, and time passes. -/
inductive OtaEvent
  | sharedAttributes (object : Option Cjson) (answers : OtaAnswers)
  | chunkData (requestId chunkId : Nat) (payload : List UInt8) (answers : OtaAnswers)
  | checkTimeout (timestamp : Nat)
  | disconnected
  | environment (core : Core)

def otaHandle (crc : CrcRoutine) (world : OtaWorld) : OtaEvent → Except Fault OtaWorld
  | .sharedAttributes object answers => otaupdateOnFwAttributesupdate object answers world
  | .chunkData requestId chunkId payload answers =>
    .ok (tbcmhOtaupdateOnChunkData crc requestId chunkId payload answers world)
  | .checkTimeout timestamp => .ok (tbcmhOtaupdateOnChunkCheckTimeout timestamp world)
  | .disconnected => .ok (tbcmhOtaupdateOnDisconnected world)
  | .environment core => .ok { world with dev := { world.dev with core := core } }

/-- An event, or a call of the application. -/
inductive OtaInput
  | subscribe (otaDescription : String) (otaType : TbcmhOtaupdateType)
      (nextUpdatePartition : Option Nat)
  | unsubscribe (otaDescription : String)
  | event (event : OtaEvent)

def otaStep (crc : CrcRoutine) (world : OtaWorld) : OtaInput → Except Fault OtaWorld
  | .subscribe otaDescription otaType nextUpdatePartition =>
    .ok (tbcmhOtaupdateSubscribe otaDescription otaType nextUpdatePartition world).2
  | .unsubscribe otaDescription => .ok (tbcmhOtaupdateUnsubscribe otaDescription world).2
  | .event event => otaHandle crc world event

/-- A client on which no item was registered; no handle is open on its flash. -/
def OtaWorld.initial (core : Core) (lastHandle : Nat) : OtaWorld where
  otaupdateList := []
  nextAddr := 0
  dev :=
    { core := core
      writer :=
        { fwupdate :=
            { updatePartition := none
              updateHandle := 0
              imageHeaderWasChecked := false }
          flash := { lastHandle := lastHandle, images := [] } }
      trace := [] }

/-- A client on which one F/W item was registered; `partitionSize` is the size of its update
    partition. -/
def OtaWorld.single (core : Core) (lastHandle : Nat) (otaDescription : String)
    (partitionSize : Nat) : OtaWorld :=
  (tbcmhOtaupdateSubscribe otaDescription .fw (some partitionSize) (.initial core lastHandle)).2

/-! ## A sample update

An update of `app` from version `1.0` to `1.1` on a connected client, where every call of the
device succeeds; `sampleImage` is as long as the headers of an image, behind its magic byte. -/

def sampleCore : Core where
  state := .connected
  nextRequestId := 0
  now := 100
  sent := []

def sampleAnswers : OtaAnswers where
  currentTitle _ := some "app"
  currentVersion _ := some "1.0"
  fw :=
    { runningVersion := 1 :: List.replicate 31 0
      lastInvalidVersion := none
      otaBegin := none
      otaWrite := none
      otaEnd := none
      setBootPartition := none }
  chunkRequestSent := true
  undefinedInt := 0

/-- The shared attributes that announce the update. -/
def sampleAttributes (size : Int) (checksum : String) : Cjson :=
  .object [("fw_title", .string "app"), ("fw_version", .string "1.1"), ("fw_size", .number size),
    ("fw_checksum", .string checksum), ("fw_checksum_algorithm", .string "CRC32")]

def sampleImage : List UInt8 := 0xE9 :: List.replicate (imageHeadersSize + appDescSize - 1) 0

/-- A client with one F/W item, before anything happened. -/
def sampleWorld : OtaWorld := .single sampleCore 0 "F/W" 1000000

end ThingsboardMqtt
