import ThingsboardMqtt.Helper.Cjson
import ThingsboardMqtt.Library.ListWalk
import ThingsboardMqtt.Library.LiveBuffers

set_option autoImplicit false

/-! # Sets of time-series axes and of client attributes

`tbc_extension_timeseriesdata.c` and the sets of `tbc_extension_clientattributes.c`, which differ in
their names, in the topic and in `on_set`: a set is a list of items with a copy of their keys, and an
upload asks the items that it names for their values and publishes one object of them.

A copy of a key is `NULL` where its allocation failed, and the item is registered all the same: the
next search that comes to it compares with `NULL`. -/

namespace ThingsboardMqtt

open ListWalk LiveBuffers

/-! ## Data -/

/-- A copy of a key, at its address. -/
structure KeyCopy where
  addr : Nat
  text : String
  deriving DecidableEq, Repr

/-- `timeseriesaxis_t` and `clientattribute_t`: where it is, `key`, and `context` with `on_get` and with
    `on_set`, which an axis does not have. -/
structure DataItem (κ : Type) where
  addr : Nat
  key : Option KeyCopy
  onGet : κ
  onSet : Option κ
  deriving DecidableEq, Repr

/-- The buffers of an item, in the order they are freed. -/
def DataItem.buffers {κ : Type} (item : DataItem κ) : List Nat :=
  (item.key.map (·.addr)).toList ++ [item.addr]

/-- A call of `esp_mqtt_client_publish` with the text of an object. -/
structure Upload where
  topic : String
  object : Cjson

/-- The memory, with the values that were left to nobody, and what was published. -/
structure DataMemory where
  heap : Heap
  lost : List Nat
  published : List Upload

/-- The two kinds of sets. -/
inductive DataSetKind
  | timeseriesdata
  | clientattributes
  deriving DecidableEq, Repr

/-- `tbce_timeseriesdata_t` and `tbce_clientattributes_t` -/
structure DataSet (κ : Type) where
  kind : DataSetKind
  handle : Nat
  items : List (DataItem κ)

/-- All sets that were created; `returned` are the results of the calls: whether it was `ESP_OK`, or
    `true`, or not `NULL`. Destroying a set has no result, and notes whether there was one. -/
structure DataWorld (κ : Type) where
  memory : DataMemory
  sets : List (DataSet κ)
  returned : List Bool

/-- What a call must not come to: `NULL` that is given to `strcmp` or followed, or a buffer that was
    freed. -/
inductive DataFault
  | nullString
  | nullPointer
  | buffer (fault : BufferFault)
  deriving DecidableEq, Repr

/-- Whether an item and the copy of its key can be allocated. -/
structure ItemAllocation where
  item : Bool
  key : Bool
  deriving DecidableEq, Repr

/-- A key that an upload names, with what the environment answers for it: the value that `on_get`
    returns, `none` for `NULL`, and whether `cJSON_AddItemToObject` can allocate the name. -/
structure NamedKey (κ : Type) where
  key : Option String
  onGet : κ → Option Cjson
  allocatesName : Bool

/-- What the environment answers besides: whether the object and the text can be allocated, whether the
    semaphore is taken before the timeout, whether there is an MQTT client, and the message id of
    `esp_mqtt_client_publish`. -/
structure UploadAnswers where
  allocatesObject : Bool
  allocatesText : Bool
  lockTaken : Bool
  hasMqttHandle : Bool
  msgId : Int
  deriving DecidableEq, Repr

/-- A member of an object that is built: the item, and its name. -/
structure BuiltMember where
  name : String
  nameAddr : Nat
  value : Cjson
  valueAddr : Nat

/-- An object that is built; a value counts as one block. -/
structure BuiltObject where
  addr : Nat
  members : List BuiltMember

/-- The blocks of an object, in the order `cJSON_Delete` frees them. -/
def BuiltObject.buffers (object : BuiltObject) : List Nat :=
  object.members.flatMap (fun member => [member.nameAddr, member.valueAddr]) ++ [object.addr]

/-- The object, as it is printed. -/
def BuiltObject.json (object : BuiltObject) : Cjson :=
  .object (object.members.map fun member => (member.name, member.value))

variable {κ : Type}

/-! ## Items -/

def DataMemory.setHeap (heap : Heap) (memory : DataMemory) : DataMemory :=
  { memory with heap := heap }

/-- `_timeseriesaxis_create` and `_clientattribute_create` -/
def dataItemCreate (allocation : ItemAllocation) (key : Option String) (onGet onSet : Option κ)
    (memory : DataMemory) : Option (DataItem κ) × DataMemory :=
  match key, onGet with
  | some key, some onGet =>
    match memory.heap.malloc allocation.item with
    | (none, heap) => (none, memory.setHeap heap)
    | (some addr, heap) =>
      let (keyAddr, heap) := heap.malloc allocation.key
      (some ⟨addr, keyAddr.map fun keyAddr => ⟨keyAddr, key⟩, onGet, onSet⟩, memory.setHeap heap)
  | _, _ => (none, memory)

/-- `_timeseriesaxis_destroy` and `_clientattribute_destroy` -/
def dataItemDestroy (item : DataItem κ) (memory : DataMemory) : Except DataFault DataMemory := do
  let heap ← (memory.heap.freeAll item.buffers).mapError .buffer
  .ok (memory.setHeap heap)

/-- `LIST_FOREACH` to the end. -/
def visitItems (heap : Heap) : List (DataItem κ) → Except DataFault Unit
  | [] => .ok ()
  | item :: rest => do
    (heap.access item.addr).mapError .buffer
    visitItems heap rest

/-- `strcmp(item->key, key) == 0` -/
def strcmpKey (heap : Heap) (item : DataItem κ) (key : Option String) : Except DataFault Bool := do
  (heap.access item.addr).mapError .buffer
  match item.key, key with
  | some copy, some key => do
    (heap.access copy.addr).mapError .buffer
    .ok (copy.text = key)
  | _, _ => .error .nullString

/-- `LIST_FOREACH` up to the first item of a key: the items in front of it, it, and those behind. -/
def searchItem (heap : Heap) (key : Option String) : List (DataItem κ) →
    Except DataFault (Option (List (DataItem κ) × DataItem κ × List (DataItem κ)))
  | [] => .ok none
  | item :: rest => do
    if ← strcmpKey heap item key then .ok (some ([], item, rest))
    else do
      let found ← searchItem heap key rest
      .ok (found.map fun (front, found, back) => (item :: front, found, back))

/-! ## Calls on one set -/

/-- A call: from the items of a set and the memory to the result and both. -/
abbrev SetCall (κ : Type) : Type :=
  List (DataItem κ) → DataMemory → Except DataFault (Bool × List (DataItem κ) × DataMemory)

/-- The loop of `tbce_timeseriesdata_destroy` and of `tbce_clientattributes_destroy`, which leave the
    set itself allocated. -/
def destroyItems : SetCall κ
  | [], memory => .ok (true, [], memory)
  | item :: rest, memory => do
    (memory.heap.access item.addr).mapError .buffer
    let memory ← dataItemDestroy item memory
    destroyItems rest memory

/-- `_clientattribute_register`, and `tbce_timeseriesdata_register` behind its check. -/
def registerItem (allocation : ItemAllocation) (key : Option String) (onGet onSet : Option κ) :
    SetCall κ := fun items memory =>
  match dataItemCreate allocation key onGet onSet memory with
  | (none, memory) => .ok (false, items, memory)
  | (some item, memory) => do
    visitItems memory.heap items
    .ok (true, items ++ [item], memory)

/-- `tbce_timeseriesdata_unregister` and `tbce_clientattributes_unregister` behind their checks of the
    set. -/
def unregisterItem (key : Option String) : SetCall κ := fun items memory =>
  match key with
  | none => .ok (false, items, memory)
  | some key => do
    match ← searchItem memory.heap (some key) items with
    | none => .ok (false, items, memory)
    | some (front, item, back) => do
      let memory ← dataItemDestroy item memory
      .ok (true, front ++ back, memory)

/-- `tbce_clientattributes_is_contained` behind its check of the set. -/
def isContained (key : Option String) : SetCall κ := fun items memory =>
  match key with
  | none => .ok (false, items, memory)
  | some key => do
    let found ← searchItem memory.heap (some key) items
    .ok (found.isSome, items, memory)

/-! ## Uploads -/

/-- `cJSON_AddItemToObject`: a value that is not taken stays allocated. -/
def addItemToObject (allocatesName : Bool) (name : Option String) (value : Cjson) (valueAddr : Nat)
    (object : BuiltObject) (memory : DataMemory) : Bool × BuiltObject × DataMemory :=
  match name with
  | none => (false, object, { memory with lost := memory.lost ++ [valueAddr] })
  | some name =>
    match memory.heap.malloc allocatesName with
    | (none, heap) =>
      (false, object, { memory with heap := heap, lost := memory.lost ++ [valueAddr] })
    | (some nameAddr, heap) =>
      (true, { object with members := object.members ++ [⟨name, nameAddr, value, valueAddr⟩] },
        memory.setHeap heap)

/-- The loop of `tbce_timeseriesdata_upload` and of `tbce_clientattributes_update`, with `result` and the
    object as they are so far. -/
def gatherValues (items : List (DataItem κ)) : List (NamedKey κ) → Bool → BuiltObject → DataMemory →
    Except DataFault (Bool × BuiltObject × DataMemory)
  | [], result, object, memory => .ok (result, object, memory)
  | named :: rest, result, object, memory => do
    match ← searchItem memory.heap named.key items with
    | none => gatherValues items rest result object memory
    | some (_, item, _) =>
      -- a value that is not `NULL` was allocated by the callback
      match named.onGet item.onGet, memory.heap.malloc true with
      | some value, (some valueAddr, heap) =>
        let (added, object, memory) := addItemToObject named.allocatesName
          (item.key.map (·.text)) value valueAddr object (memory.setHeap heap)
        gatherValues items rest (result || added) object memory
      | _, _ => gatherValues items rest result object memory

/-- `tbcmh_telemetry_upload` and `tbcmh_attributes_update` of a text, down to
    `esp_mqtt_client_publish`: the message id. -/
def publishText (topic : String) (answers : UploadAnswers) (object : Cjson) (memory : DataMemory) :
    Int × DataMemory :=
  if answers.lockTaken && answers.hasMqttHandle then
    (answers.msgId, { memory with published := memory.published ++ [⟨topic, object⟩] })
  else (-1, memory)

/-- `tbcmh_telemetry_upload_ex` and `tbcmh_attributes_update_ex`: the text of the object is freed behind
    the call. -/
def publishObject (topic : String) (answers : UploadAnswers) (object : Cjson)
    (memory : DataMemory) : Except DataFault (Int × DataMemory) :=
  match memory.heap.malloc answers.allocatesText with
  | (none, heap) => .ok (-1, memory.setHeap heap)
  | (some text, heap) => do
    let (msgId, memory) := publishText topic answers object (memory.setHeap heap)
    let heap ← (memory.heap.free (some text)).mapError .buffer
    .ok (msgId, memory.setHeap heap)

/-- "send package...", if something was added to the object. -/
def publishGathered (topic : String) (answers : UploadAnswers) (result : Bool) (object : Cjson)
    (memory : DataMemory) : Except DataFault (Int × DataMemory) :=
  if result then publishObject topic answers object memory else .ok (-1, memory)

/-- `tbce_timeseriesdata_upload` and `tbce_clientattributes_update` behind their checks of the set. -/
def uploadItems (topic : String) (hasClient : Bool) (answers : UploadAnswers)
    (keys : List (NamedKey κ)) : SetCall κ := fun items memory =>
  if !hasClient || keys.isEmpty then .ok (false, items, memory)
  else
    match memory.heap.malloc answers.allocatesObject with
    | (none, heap) => .ok (false, items, memory.setHeap heap)
    | (some addr, heap) => do
      let (result, object, memory) ← gatherValues items keys false ⟨addr, []⟩ (memory.setHeap heap)
      let (msgId, memory) ← publishGathered topic answers result object.json memory
      let heap ← (memory.heap.freeAll object.buffers).mapError .buffer
      .ok (decide (-1 < msgId), items, memory.setHeap heap)

/-! ## The C functions -/

namespace DataWorld

/-- A result is noted. -/
def returns (result : Bool) (world : DataWorld κ) : DataWorld κ :=
  { world with returned := world.returned ++ [result] }

/-- `tbce_timeseriesdata_create` and `tbce_clientattributes_create` -/
def createSet (kind : DataSetKind) (allocated : Bool) (world : DataWorld κ) : DataWorld κ :=
  match world.memory.heap.malloc allocated with
  | (none, heap) => DataWorld.returns false { world with memory := world.memory.setHeap heap }
  | (some handle, heap) =>
    DataWorld.returns true
      { world with
        memory := world.memory.setHeap heap
        sets := world.sets ++ [⟨kind, handle, []⟩] }

/-- A call on the set at a handle; a handle that is `NULL` is refused. -/
def callSet (handle : Option Nat) (call : SetCall κ) (world : DataWorld κ) :
    Except DataFault (DataWorld κ) :=
  match handle with
  | none => .ok (world.returns false)
  | some handle =>
    match splitFirst (fun set => set.handle = handle) world.sets with
    | none => .error (.buffer .freed)
    | some (front, set, back) => do
      (world.memory.heap.access handle).mapError .buffer
      let (result, items, memory) ← call set.items world.memory
      .ok (DataWorld.returns result
        { world with
          memory := memory
          sets := front ++ { set with items := items } :: back })

def tbceTimeseriesdataCreate (allocated : Bool) : DataWorld κ → DataWorld κ :=
  createSet .timeseriesdata allocated

def tbceClientattributesCreate (allocated : Bool) : DataWorld κ → DataWorld κ :=
  createSet .clientattributes allocated

def tbceTimeseriesdataDestroy (handle : Option Nat) :
    DataWorld κ → Except DataFault (DataWorld κ) := callSet handle destroyItems

def tbceClientattributesDestroy (handle : Option Nat) :
    DataWorld κ → Except DataFault (DataWorld κ) := callSet handle destroyItems

def tbceTimeseriesdataRegister (handle : Option Nat) (allocation : ItemAllocation)
    (key : Option String) (onGet : Option κ) : DataWorld κ → Except DataFault (DataWorld κ) :=
  callSet handle (registerItem allocation key onGet none)

def tbceClientattributesRegister (handle : Option Nat) (allocation : ItemAllocation)
    (key : Option String) (onGet : Option κ) : DataWorld κ → Except DataFault (DataWorld κ) :=
  callSet handle (registerItem allocation key onGet none)

/-- `tbce_clientattributes_register_with_set` does not check the set: the item is created, and then its
    list is read. -/
def tbceClientattributesRegisterWithSet (handle : Option Nat) (allocation : ItemAllocation)
    (key : Option String) (onGet onSet : Option κ) (world : DataWorld κ) :
    Except DataFault (DataWorld κ) :=
  match handle, onSet with
  | _, none => .ok (world.returns false)
  | none, some onSet =>
    match dataItemCreate allocation key onGet (some onSet) world.memory with
    | (none, memory) => .ok (DataWorld.returns false { world with memory := memory })
    | (some _, _) => .error .nullPointer
  | some handle, some onSet =>
    world.callSet (some handle) (registerItem allocation key onGet (some onSet))

def tbceTimeseriesdataUnregister (handle : Option Nat) (key : Option String) :
    DataWorld κ → Except DataFault (DataWorld κ) := callSet handle (unregisterItem key)

def tbceClientattributesUnregister (handle : Option Nat) (key : Option String) :
    DataWorld κ → Except DataFault (DataWorld κ) := callSet handle (unregisterItem key)

def tbceClientattributesIsContained (handle : Option Nat) (key : Option String) :
    DataWorld κ → Except DataFault (DataWorld κ) := callSet handle (isContained key)

def tbceTimeseriesdataUpload (handle : Option Nat) (hasClient : Bool) (answers : UploadAnswers)
    (keys : List (NamedKey κ)) : DataWorld κ → Except DataFault (DataWorld κ) :=
  callSet handle (uploadItems "v1/devices/me/telemetry" hasClient answers keys)

def tbceClientattributesUpdate (handle : Option Nat) (hasClient : Bool) (answers : UploadAnswers)
    (keys : List (NamedKey κ)) : DataWorld κ → Except DataFault (DataWorld κ) :=
  callSet handle (uploadItems "v1/devices/me/attributes" hasClient answers keys)

end DataWorld

/-! ## Runs -/

/-- A call of the application. -/
inductive DataInput (κ : Type)
  | create (kind : DataSetKind) (allocated : Bool)
  | destroy (kind : DataSetKind) (handle : Option Nat)
  | register (kind : DataSetKind) (handle : Option Nat) (allocation : ItemAllocation)
    (key : Option String) (onGet : Option κ)
  | registerWithSet (handle : Option Nat) (allocation : ItemAllocation) (key : Option String)
    (onGet onSet : Option κ)
  | unregister (kind : DataSetKind) (handle : Option Nat) (key : Option String)
  | isContained (handle : Option Nat) (key : Option String)
  | upload (kind : DataSetKind) (handle : Option Nat) (hasClient : Bool) (answers : UploadAnswers)
    (keys : List (NamedKey κ))

/-- Before the first call. -/
def DataWorld.initial (κ : Type) : DataWorld κ where
  memory := ⟨.empty, [], []⟩
  sets := []
  returned := []

def dataStep (world : DataWorld κ) : DataInput κ → Except DataFault (DataWorld κ)
  | .create .timeseriesdata allocated => .ok (world.tbceTimeseriesdataCreate allocated)
  | .create .clientattributes allocated => .ok (world.tbceClientattributesCreate allocated)
  | .destroy .timeseriesdata handle => world.tbceTimeseriesdataDestroy handle
  | .destroy .clientattributes handle => world.tbceClientattributesDestroy handle
  | .register .timeseriesdata handle allocation key onGet =>
    world.tbceTimeseriesdataRegister handle allocation key onGet
  | .register .clientattributes handle allocation key onGet =>
    world.tbceClientattributesRegister handle allocation key onGet
  | .registerWithSet handle allocation key onGet onSet =>
    world.tbceClientattributesRegisterWithSet handle allocation key onGet onSet
  | .unregister .timeseriesdata handle key => world.tbceTimeseriesdataUnregister handle key
  | .unregister .clientattributes handle key => world.tbceClientattributesUnregister handle key
  | .isContained handle key => world.tbceClientattributesIsContained handle key
  | .upload .timeseriesdata handle hasClient answers keys =>
    world.tbceTimeseriesdataUpload handle hasClient answers keys
  | .upload .clientattributes handle hasClient answers keys =>
    world.tbceClientattributesUpdate handle hasClient answers keys

end ThingsboardMqtt
