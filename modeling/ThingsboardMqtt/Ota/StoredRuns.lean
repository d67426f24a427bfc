import ThingsboardMqtt.Library.Execution
import ThingsboardMqtt.Ota.StoredItems

set_option autoImplicit false

/-! # The memory of all OTA items

`otaupdate_list` with the memory of its items, over every run and with any `malloc` failing. The live
buffers are always those of the items, and a session that is not under way keeps no strings; what is
left to go wrong is an item whose description could not be copied, which `tbcmh_otaupdate_unsubscribe`
compares like any other (`otaMemory_of_run`).

With memory for all copies this is the client of `System`, run by run (`storedRun_iff`). -/

namespace ThingsboardMqtt

open Execution ListWalk LiveBuffers OwnedSlots

/-! ## Data -/

/-- The client as the OTA code sees it, with the memory of the items. -/
structure OtaMemory where
  otaupdateList : List StoredOtaupdate
  nextAddr : Nat
  blocks : Blocks
  dev : OtaDevice

namespace OtaMemory

/-- The client without the memory. -/
def forget (memory : OtaMemory) : OtaWorld where
  otaupdateList := memory.otaupdateList.map (·.session)
  nextAddr := memory.nextAddr
  dev := memory.dev

@[simp] theorem dev_forget (memory : OtaMemory) : memory.forget.dev = memory.dev := rfl

/-- `OtaWorld.initial` with its memory. -/
def initial (core : Core) (lastHandle : Nat) : OtaMemory where
  otaupdateList := []
  nextAddr := 0
  blocks := ⟨.empty, 0⟩
  dev := (OtaWorld.initial core lastHandle).dev

/-! ## Registration -/

/-- `_otaupdate_create` with its two `malloc`s. -/
def otaupdateCreate (otaDescription : String) (otaType : TbcmhOtaupdateType)
    (nextUpdatePartition : Option Nat) (allocatesItem allocatesDescription : Bool)
    (memory : OtaMemory) : Option StoredOtaupdate × OtaMemory :=
  match otaType with
  | .sw => (none, memory)
  | .fw =>
    match otaFwupdateInit nextUpdatePartition with
    | (initialized, fwupdate) =>
      let dev := { memory.dev with writer := { memory.dev.writer with fwupdate := fwupdate } }
      if initialized then
        match memory.blocks.heap.malloc allocatesItem with
        | (none, _) => (none, { memory with dev := dev })
        | (some block, heap) =>
          let (strings, blocks) := put .otaDescription (some otaDescription) allocatesDescription
            noStrings { memory.blocks with heap := heap }
          (some
            { addr := memory.nextAddr
              block := block
              config := { otaType := otaType, chunkSize := 16 * 1024 }
              otaSize := 0
              state := .idle
              strings := strings },
            { memory with
              nextAddr := memory.nextAddr + 1
              blocks := blocks
              dev := dev })
      else (none, { memory with dev := dev })

/-- `tbcmh_otaupdate_subscribe`: whether it returns `ESP_OK`, and the list. -/
def tbcmhOtaupdateSubscribe (otaDescription : String) (otaType : TbcmhOtaupdateType)
    (nextUpdatePartition : Option Nat) (allocatesItem allocatesDescription : Bool)
    (memory : OtaMemory) : Bool × OtaMemory :=
  match memory.otaupdateCreate otaDescription otaType nextUpdatePartition allocatesItem
    allocatesDescription with
  | (some item, memory) => (true, { memory with otaupdateList := memory.otaupdateList ++ [item] })
  | (none, memory) => (false, memory)

/-- `LIST_FOREACH` up to the first item that fits: the items in front of it, it, and those behind. -/
def search (heap : Heap) (fits : StoredOtaupdate → Except Fault Bool) :
    List StoredOtaupdate →
      Except StoredFault (Option (List StoredOtaupdate × StoredOtaupdate × List StoredOtaupdate))
  | [] => .ok none
  | item :: rest => do
    (heap.access item.block).mapError .buffer
    let found ← (fits item).mapError .code
    if found then .ok (some ([], item, rest))
    else do
      let found ← search heap fits rest
      .ok (found.map fun (front, found, back) => (item :: front, found, back))

/-- `strcmp(otaupdate->ota_description, ota_description)==0` -/
def isDescribed (otaDescription : String) (item : StoredOtaupdate) : Except Fault Bool :=
  match content item.strings .otaDescription with
  | none => .error .nullString
  | some description => .ok (description = otaDescription)

/-- `tbcmh_otaupdate_unsubscribe`: whether it returns `ESP_OK`. -/
def tbcmhOtaupdateUnsubscribe (otaDescription : String) (memory : OtaMemory) :
    Except StoredFault (Bool × OtaMemory) := do
  match ← search memory.blocks.heap (isDescribed otaDescription) memory.otaupdateList with
  | some (front, item, back) => do
    let blocks ← (item.destroy memory.blocks).mapError .buffer
    .ok (true, { memory with
      otaupdateList := front ++ back
      blocks := blocks })
  | none => .ok (false, memory)

/-- The loop of `_tbcmh_otaupdate_on_destroy`. -/
def destroyItems : List StoredOtaupdate → Blocks → Except BufferFault Blocks
  | [], blocks => .ok blocks
  | item :: rest, blocks => do
    blocks.heap.access item.block
    let blocks ← item.destroy blocks
    destroyItems rest blocks

/-- `_tbcmh_otaupdate_on_destroy` -/
def tbcmhOtaupdateOnDestroy (memory : OtaMemory) : Except BufferFault OtaMemory := do
  let blocks ← destroyItems memory.otaupdateList memory.blocks
  .ok { memory with
    otaupdateList := []
    blocks := blocks }

/-! ## Events -/

/-- `__otaupdate_on_sharedattributes` -/
def otaupdateOnSharedattributes (otaType : TbcmhOtaupdateType) (otaTitle otaVersion : Option String)
    (otaSize : Nat) (otaChecksum otaChecksumAlgorithm : Option String) (allocated : OtaString → Bool)
    (answers : OtaAnswers) (memory : OtaMemory) : Except StoredFault OtaMemory :=
  match otaTitle with
  | none => .ok memory
  | some otaTitle => do
    match ← search memory.blocks.heap
      (fun item => .ok (item.session.matchesTitle otaType otaTitle answers)) memory.otaupdateList with
    | none =>
      .ok { memory with
        dev := otaupdatePublishEarlyFailedStatus otaType "Device code is error!" memory.dev }
    | some (front, item, back) => do
      let (item, dev, blocks) ← item.onNegotiation otaTitle otaVersion otaSize otaChecksum
        otaChecksumAlgorithm allocated answers memory.dev memory.blocks
      .ok { memory with
        otaupdateList := front ++ item :: back
        blocks := blocks
        dev := dev }

/-- The common body of the two `on_update` callbacks. -/
def otaupdateOnAttributesupdate (otaType : TbcmhOtaupdateType) (object : Option Cjson)
    (allocated : OtaString → Bool) (answers : OtaAnswers) (memory : OtaMemory) :
    Except StoredFault OtaMemory :=
  let keys := otaAttributeKeys otaType
  match object with
  | none => .ok memory
  | some object =>
    if hasOtaAttributes keys object then
      memory.otaupdateOnSharedattributes otaType
        (Cjson.getStringValue (object.getObjectItem keys.title))
        (Cjson.getStringValue (object.getObjectItem keys.version))
        (toUint32 (intOfDouble answers.undefinedInt
          (Cjson.getNumberValue (object.getObjectItem keys.size))))
        (Cjson.getStringValue (object.getObjectItem keys.checksum))
        (Cjson.getStringValue (object.getObjectItem keys.checksumAlg)) allocated answers
    else .ok memory

/-- `_tbcmh_otaupdate_on_chunk_data` -/
def tbcmhOtaupdateOnChunkData (crc : CrcRoutine) (requestId chunkId : Nat) (payload : List UInt8)
    (answers : OtaAnswers) (memory : OtaMemory) : Except StoredFault OtaMemory := do
  match ← search memory.blocks.heap (fun item => .ok (item.state.requestId = requestId))
    memory.otaupdateList with
  | none => .ok memory
  | some (front, item, back) => do
    let (item, dev, blocks) ← (item.onChunk crc chunkId payload answers memory.dev
      memory.blocks).mapError .buffer
    .ok { memory with
      otaupdateList := front ++ item :: back
      blocks := blocks
      dev := dev }

/-- The loop of `_tbcmh_otaupdate_on_chunk_check_timeout`. -/
def checkTimeouts (timestamp : Nat) :
    List StoredOtaupdate → OtaDevice → Blocks →
      Except BufferFault (List StoredOtaupdate × OtaDevice × Blocks)
  | [], dev, blocks => .ok ([], dev, blocks)
  | item :: rest, dev, blocks => do
    blocks.heap.access item.block
    let (item, dev, blocks) ← item.checkTimeout timestamp dev blocks
    let (rest, dev, blocks) ← checkTimeouts timestamp rest dev blocks
    .ok (item :: rest, dev, blocks)

/-- `_tbcmh_otaupdate_on_chunk_check_timeout` -/
def tbcmhOtaupdateOnChunkCheckTimeout (timestamp : Nat) (memory : OtaMemory) :
    Except StoredFault OtaMemory := do
  let (otaupdateList, dev, blocks) ← (checkTimeouts timestamp memory.otaupdateList memory.dev
    memory.blocks).mapError .buffer
  .ok { memory with
    otaupdateList := otaupdateList
    blocks := blocks
    dev := dev }

/-- `_tbcmh_otaupdate_on_disconnected` -/
def tbcmhOtaupdateOnDisconnected (memory : OtaMemory) : Except StoredFault OtaMemory :=
  memory.tbcmhOtaupdateOnChunkCheckTimeout (memory.dev.core.now + 2 * tbMqttTimeout)

end OtaMemory

/-! ## Runs -/

/-- An `OtaInput` with the allocator's answers to the `malloc`s it leads to. -/
inductive StoredInput
  | subscribe (otaDescription : String) (otaType : TbcmhOtaupdateType)
      (nextUpdatePartition : Option Nat) (allocatesItem allocatesDescription : Bool)
  | unsubscribe (otaDescription : String)
  | event (allocated : OtaString → Bool) (event : OtaEvent)

/-- The input without the answers. -/
def StoredInput.plain : StoredInput → OtaInput
  | .subscribe otaDescription otaType nextUpdatePartition _ _ =>
    .subscribe otaDescription otaType nextUpdatePartition
  | .unsubscribe otaDescription => .unsubscribe otaDescription
  | .event _ otaEvent => .event otaEvent

/-- There is memory for all that an input copies. -/
def StoredInput.Allocates : StoredInput → Prop
  | .subscribe _ _ _ allocatesItem allocatesDescription =>
    allocatesItem = true ∧ allocatesDescription = true
  | .unsubscribe _ => True
  | .event allocated _ => StoredOtaupdate.AllAllocated allocated

def storedHandle (crc : CrcRoutine) (allocated : OtaString → Bool) (memory : OtaMemory) :
    OtaEvent → Except StoredFault OtaMemory
  | .sharedAttributes object answers =>
    memory.otaupdateOnAttributesupdate .fw object allocated answers
  | .chunkData requestId chunkId payload answers =>
    memory.tbcmhOtaupdateOnChunkData crc requestId chunkId payload answers
  | .checkTimeout timestamp => memory.tbcmhOtaupdateOnChunkCheckTimeout timestamp
  | .disconnected => memory.tbcmhOtaupdateOnDisconnected
  | .environment core => .ok { memory with dev := { memory.dev with core := core } }

def storedStep (crc : CrcRoutine) (memory : OtaMemory) :
    StoredInput → Except StoredFault OtaMemory
  | .subscribe otaDescription otaType nextUpdatePartition allocatesItem allocatesDescription =>
    .ok (memory.tbcmhOtaupdateSubscribe otaDescription otaType nextUpdatePartition allocatesItem
      allocatesDescription).2
  | .unsubscribe otaDescription => do
    let (_, memory) ← memory.tbcmhOtaupdateUnsubscribe otaDescription
    .ok memory
  | .event allocated event => storedHandle crc allocated memory event

namespace OtaMemory

/-! ## Who owns the buffers -/

/-- The buffers of some items: each item and its strings. -/
def buffersOf (items : List StoredOtaupdate) : Multiset Nat :=
  (items.map fun item => item.block ::ₘ owned item.strings itemStrings).sum

theorem buffersOf_append_cons (front : List StoredOtaupdate) (item : StoredOtaupdate)
    (back : List StoredOtaupdate) : buffersOf (front ++ item :: back)
      = owned item.strings itemStrings + (item.block ::ₘ buffersOf (front ++ back)) := by
  simp only [buffersOf, List.map_append, List.map_cons, List.sum_append, List.sum_cons,
    ← Multiset.singleton_add]
  abel

/-- The live buffers are those of the items, none is lost, and a session that is not under way keeps
    no strings. -/
structure Owns (memory : OtaMemory) : Prop where
  accounts : Accounts memory.blocks.heap (buffersOf memory.otaupdateList)
  lost : memory.blocks.lost = 0
  bare : ∀ item ∈ memory.otaupdateList, item.BareWhenIdle

/-- Every item has a copy of its description. -/
def Described (memory : OtaMemory) : Prop :=
  ∀ item ∈ memory.otaupdateList, (content item.strings .otaDescription).isSome = true

/-- What is done with memory fails as it does without, or the buffers are owned as before; where it is
    `faithful`, it does what is expected without memory. -/
def Follows (outcome : Except StoredFault OtaMemory) (faithful : Prop)
    (expected : Except Fault OtaWorld) : Prop :=
  (∃ fault, outcome = .error (.code fault) ∧ (faithful → expected = .error fault)) ∨
  ∃ memory', outcome = .ok memory' ∧ memory'.Owns ∧
    (faithful → memory'.Described ∧ expected = .ok memory'.forget)

theorem Follows.weaken {outcome : Except StoredFault OtaMemory} {faithful faithful' : Prop}
    {expected : Except Fault OtaWorld} (h : Follows outcome faithful expected)
    (hle : faithful' → faithful) : Follows outcome faithful' expected := by
  rcases h with ⟨fault, hfault, hsame⟩ | ⟨memory', hok, howns, hsame⟩
  · exact .inl ⟨fault, hfault, fun hfaithful => hsame (hle hfaithful)⟩
  · exact .inr ⟨memory', hok, howns, fun hfaithful => hsame (hle hfaithful)⟩

section

variable {memory : OtaMemory} {front back : List StoredOtaupdate} {item item' : StoredOtaupdate}

theorem Owns.holds (h : memory.Owns) (hlist : memory.otaupdateList = front ++ item :: back) :
    item.Holds memory.blocks (buffersOf (front ++ back)) := by
  have haccounts := h.accounts
  rw [hlist, buffersOf_append_cons] at haccounts
  refine ⟨?_, h.lost⟩
  rwa [Keeps, h.lost, Multiset.zero_add]

theorem Owns.live (h : memory.Owns) :
    ∀ item ∈ memory.otaupdateList, memory.blocks.heap.access item.block = .ok () := by
  intro item hmem
  obtain ⟨front, back, hlist⟩ := List.append_of_mem hmem
  have haccounts := h.accounts
  rw [hlist, buffersOf_append_cons] at haccounts
  exact haccounts.access_of_mem (Multiset.mem_add.mpr (.inr (Multiset.mem_cons_self _ _)))

theorem owns_of_holds {blocks : Blocks} (hholds : item.Holds blocks (buffersOf (front ++ back)))
    (hbare : ∀ other ∈ front ++ item :: back, other.BareWhenIdle) (nextAddr : Nat)
    (dev : OtaDevice) : Owns ⟨front ++ item :: back, nextAddr, blocks, dev⟩ := by
  refine ⟨?_, hholds.lost, hbare⟩
  have hkeeps := hholds.keeps
  rw [Keeps, hholds.lost, Multiset.zero_add] at hkeeps
  rwa [buffersOf_append_cons]

theorem Owns.replace (h : memory.Owns) (hlist : memory.otaupdateList = front ++ item :: back)
    {blocks : Blocks} (dev : OtaDevice) (hholds : item'.Holds blocks (buffersOf (front ++ back)))
    (hbare : item'.BareWhenIdle) :
    Owns { memory with otaupdateList := front ++ item' :: back, blocks := blocks, dev := dev } := by
  refine owns_of_holds hholds ?_ _ _
  have hall := h.bare
  rw [hlist, List.forall_mem_append, List.forall_mem_cons] at hall
  rw [List.forall_mem_append, List.forall_mem_cons]
  exact ⟨hall.1, hbare, hall.2.2⟩

theorem Described.replace (h : memory.Described)
    (hlist : memory.otaupdateList = front ++ item :: back) (hsame : item.SameItem item')
    (blocks : Blocks) (dev : OtaDevice) :
    Described { memory with
      otaupdateList := front ++ item' :: back
      blocks := blocks
      dev := dev } := by
  rw [Described, hlist, List.forall_mem_append, List.forall_mem_cons] at h
  rw [Described, List.forall_mem_append, List.forall_mem_cons, hsame.otaDescription]
  exact h

end

/-- A search over live items ends at the first that fits, at one that faults before, or at the end. -/
theorem search_cases {heap : Heap} (fits : StoredOtaupdate → Except Fault Bool)
    {items : List StoredOtaupdate} (hlive : ∀ item ∈ items, heap.access item.block = .ok ()) :
    (∃ fault front item back, items = front ++ item :: back ∧ fits item = .error fault ∧
      (∀ other ∈ front, fits other = .ok false) ∧ search heap fits items = .error (.code fault)) ∨
    (∃ front item back, items = front ++ item :: back ∧ fits item = .ok true ∧
      (∀ other ∈ front, fits other = .ok false) ∧
      search heap fits items = .ok (some (front, item, back))) ∨
    ((∀ item ∈ items, fits item = .ok false) ∧ search heap fits items = .ok none) := by
  induction items with
  | nil => exact .inr (.inr ⟨by simp, rfl⟩)
  | cons first rest ih =>
    rw [List.forall_mem_cons] at hlive
    simp only [search, hlive.1, Except.mapError, bind, Except.bind]
    cases hfirst : fits first with
    | error fault => exact .inl ⟨fault, [], first, rest, rfl, hfirst, by simp, rfl⟩
    | ok found =>
      cases found with
      | true => exact .inr (.inl ⟨[], first, rest, rfl, hfirst, by simp, rfl⟩)
      | false =>
        rcases ih hlive.2 with ⟨fault, front, item, back, rfl, hfits, hfront, hsearch⟩ |
          ⟨front, item, back, rfl, hfits, hfront, hsearch⟩ | ⟨hnone, hsearch⟩
        · refine .inl ⟨fault, first :: front, item, back, rfl, hfits, ?_, ?_⟩
          · exact List.forall_mem_cons.mpr ⟨hfirst, hfront⟩
          · simp [hsearch]
        · refine .inr (.inl ⟨first :: front, item, back, rfl, hfits, ?_, ?_⟩)
          · exact List.forall_mem_cons.mpr ⟨hfirst, hfront⟩
          · simp [hsearch]
        · refine .inr (.inr ⟨List.forall_mem_cons.mpr ⟨hfirst, hnone⟩, ?_⟩)
          simp [hsearch]

/-! ## One step -/

/-- What `_otaupdate_create` copies into a new item. -/
theorem put_otaDescription (otaDescription : String) (allocated : Bool) (blocks : Blocks) :
    content (put .otaDescription (some otaDescription) allocated noStrings blocks).1 .otaDescription
        = (if allocated then some otaDescription else none) ∧
      (∀ name ∈ attributeStrings,
        (put .otaDescription (some otaDescription) allocated noStrings blocks).1 name = none) ∧
      (put .otaDescription (some otaDescription) allocated noStrings blocks).2.lost = blocks.lost := by
  refine ⟨?_, ?_, Multiset.add_zero _⟩
  · cases allocated with
    | false => simp [put, content, Heap.malloc]
    | true => simp [put, content, Heap.malloc]
  · intro name hmem
    have hne : name ≠ .otaDescription := by
      rintro rfl
      exact absurd hmem (by decide)
    exact Function.update_of_ne hne _ noStrings

theorem session_created {addr block : Nat} {config : OtaupdateConfig} {otaDescription : String}
    {strings : Slots OtaString String}
    (hdescription : content strings .otaDescription = some otaDescription)
    (hbare : ∀ name ∈ attributeStrings, strings name = none) :
    StoredOtaupdate.session ⟨addr, block, config, 0, .idle, strings⟩
      = ⟨addr, otaDescription, config, .empty, .idle⟩ := by
  have hnone := StoredOtaupdate.content_of_bare hbare
  rw [StoredOtaupdate.session, hdescription, hnone _ (by decide), hnone _ (by decide),
    hnone _ (by decide), hnone _ (by decide)]
  rfl

theorem Owns.subscribe {memory : OtaMemory} (h : memory.Owns) (otaDescription : String)
    (otaType : TbcmhOtaupdateType) (nextUpdatePartition : Option Nat)
    (allocatesItem allocatesDescription : Bool) :
    Follows (.ok (memory.tbcmhOtaupdateSubscribe otaDescription otaType nextUpdatePartition
        allocatesItem allocatesDescription).2)
      ((allocatesItem = true ∧ allocatesDescription = true) ∧ memory.Described)
      (.ok (ThingsboardMqtt.tbcmhOtaupdateSubscribe otaDescription otaType nextUpdatePartition
        memory.forget).2) := by
  refine .inr ⟨_, rfl, ?_⟩
  cases otaType with
  | sw => exact ⟨h, fun hfaithful => ⟨hfaithful.2, rfl⟩⟩
  | fw =>
    cases nextUpdatePartition with
    | none => exact ⟨⟨h.accounts, h.lost, h.bare⟩, fun hfaithful => ⟨hfaithful.2, rfl⟩⟩
    | some size =>
      cases allocatesItem with
      | false =>
        exact ⟨⟨h.accounts, h.lost, h.bare⟩, fun hfaithful => absurd hfaithful.1.1 (by simp)⟩
      | true =>
        obtain ⟨block, heap, hmalloc, haccounts⟩ := h.accounts.malloc
        have hempty : Keeps itemStrings noStrings
            { memory.blocks with heap := heap } (block ::ₘ buffersOf memory.otaupdateList) := by
          have hnone : owned noStrings itemStrings = 0 := owned_eq_zero fun _ _ => rfl
          rw [Keeps, hnone, h.lost, Multiset.zero_add, Multiset.zero_add]
          exact haccounts
        have hkeeps := hempty.put StoredOtaupdate.nodup_itemStrings List.mem_cons_self (some otaDescription)
          allocatesDescription
        obtain ⟨hdescription, hbare, hlost⟩ := put_otaDescription otaDescription allocatesDescription
          { memory.blocks with heap := heap }
        simp only [tbcmhOtaupdateSubscribe, OtaMemory.otaupdateCreate, otaFwupdateInit,
          Option.isSome_some, if_true, hmalloc]
        generalize put .otaDescription (some otaDescription) allocatesDescription noStrings
          { memory.blocks with heap := heap } = copied at *
        obtain ⟨strings, blocks⟩ := copied
        refine ⟨owns_of_holds ⟨?_, hlost.trans h.lost⟩ ?_ _ _, ?_⟩
        · rwa [List.append_nil]
        · rw [List.forall_mem_append, List.forall_mem_singleton]
          exact ⟨h.bare, fun _ => hbare⟩
        · rintro ⟨⟨-, rfl⟩, hdescribed⟩
          rw [if_pos rfl] at hdescription
          refine ⟨?_, ?_⟩
          · rw [Described, List.forall_mem_append, List.forall_mem_singleton]
            refine ⟨hdescribed, ?_⟩
            dsimp only at hdescription ⊢
            rw [hdescription]
            rfl
          · simp only [forget, List.map_append, List.map_singleton]
            rw [session_created hdescription hbare]
            rfl

/-- What is compared is the description of the session. -/
theorem isDescribed_eq_ok {otaDescription : String} {item : StoredOtaupdate} {found : Bool}
    (h : isDescribed otaDescription item = .ok found) :
    decide (item.session.otaDescription = otaDescription) = found := by
  unfold isDescribed at h
  split at h
  · contradiction
  · rename_i description hdescription
    rw [StoredOtaupdate.session, hdescription]
    exact Except.ok.inj h

theorem Owns.unsubscribe {memory : OtaMemory} (h : memory.Owns) (otaDescription : String) :
    Follows (do
        let (_, memory) ← memory.tbcmhOtaupdateUnsubscribe otaDescription
        .ok memory)
      memory.Described
      (.ok (ThingsboardMqtt.tbcmhOtaupdateUnsubscribe otaDescription memory.forget).2) := by
  unfold tbcmhOtaupdateUnsubscribe ThingsboardMqtt.tbcmhOtaupdateUnsubscribe
  rcases search_cases (isDescribed otaDescription) h.live with
    ⟨fault, front, item, back, hlist, hfits, -, hsearch⟩ |
    ⟨front, item, back, hlist, hfits, hfront, hsearch⟩ | ⟨hnone, hsearch⟩
  · rw [hsearch]
    refine .inl ⟨fault, rfl, ?_⟩
    intro hdescribed
    rw [Described, hlist, List.forall_mem_append, List.forall_mem_cons] at hdescribed
    obtain ⟨description, hdescription⟩ := Option.isSome_iff_exists.mp hdescribed.2.1
    rw [isDescribed, hdescription] at hfits
    contradiction
  · obtain ⟨blocks, hdestroy, haccounts, hlost⟩ := (h.holds hlist).destroy
    have hsublist : (front ++ back).Sublist memory.otaupdateList := by
      rw [hlist]
      exact (List.sublist_cons_self item back).append_left front
    rw [hsearch]
    refine .inr ⟨{ memory with otaupdateList := front ++ back, blocks := blocks }, ?_,
      ⟨haccounts, hlost, fun other hmem => h.bare other (hsublist.subset hmem)⟩, ?_⟩
    · simp only [bind, Except.bind, hdestroy, Except.mapError]
    · intro hdescribed
      refine ⟨fun other hmem => hdescribed other (hsublist.subset hmem), ?_⟩
      have hsplit := splitFirst_append_cons
        (p := fun session : Otaupdate => decide (session.otaDescription = otaDescription))
        (List.forall_mem_map.mpr fun other hmem => isDescribed_eq_ok (hfront other hmem))
        (isDescribed_eq_ok hfits) (back.map (·.session))
      rw [← List.map_cons, ← List.map_append, ← hlist] at hsplit
      simp only [forget, hsplit, List.map_append]
  · rw [hsearch]
    refine .inr ⟨memory, rfl, h, ?_⟩
    intro hdescribed
    refine ⟨hdescribed, ?_⟩
    have hsplit : splitFirst (fun session : Otaupdate => decide (session.otaDescription = otaDescription))
        memory.forget.otaupdateList = none :=
      splitFirst_of_forall (List.forall_mem_map.mpr fun other hmem =>
        isDescribed_eq_ok (hnone other hmem))
    rw [hsplit]

theorem splitFirst_session {memory : OtaMemory} {front back : List StoredOtaupdate}
    {item : StoredOtaupdate} (p : Otaupdate → Bool)
    (hlist : memory.otaupdateList = front ++ item :: back) (hitem : p item.session = true)
    (hfront : ∀ other ∈ front, p other.session = false) :
    splitFirst p memory.forget.otaupdateList
      = some (front.map (·.session), item.session, back.map (·.session)) := by
  rw [forget, hlist, List.map_append, List.map_cons]
  exact splitFirst_append_cons (List.forall_mem_map.mpr hfront) hitem _

theorem splitFirst_session_none {memory : OtaMemory} (p : Otaupdate → Bool)
    (hnone : ∀ item ∈ memory.otaupdateList, p item.session = false) :
    splitFirst p memory.forget.otaupdateList = none :=
  splitFirst_of_forall (List.forall_mem_map.mpr hnone)

theorem Owns.sharedAttributes {memory : OtaMemory} (h : memory.Owns) (otaType : TbcmhOtaupdateType)
    (otaTitle otaVersion : Option String) (otaSize : Nat)
    (otaChecksum otaChecksumAlgorithm : Option String) (allocated : OtaString → Bool)
    (answers : OtaAnswers) :
    Follows (memory.otaupdateOnSharedattributes otaType otaTitle otaVersion otaSize otaChecksum
        otaChecksumAlgorithm allocated answers)
      (StoredOtaupdate.AllAllocated allocated ∧ memory.Described)
      (ThingsboardMqtt.otaupdateOnSharedattributes otaType otaTitle otaVersion otaSize otaChecksum
        otaChecksumAlgorithm answers memory.forget) := by
  cases otaTitle with
  | none => exact .inr ⟨memory, rfl, h, fun hfaithful => ⟨hfaithful.2, rfl⟩⟩
  | some otaTitle =>
    simp only [otaupdateOnSharedattributes, ThingsboardMqtt.otaupdateOnSharedattributes]
    rcases search_cases (fun item => .ok (item.session.matchesTitle otaType otaTitle answers)) h.live
      with ⟨fault, front, item, back, hlist, hfits, -⟩ |
      ⟨front, item, back, hlist, hfits, hfront, hsearch⟩ | ⟨hnone, hsearch⟩
    · contradiction
    · have hsplit := splitFirst_session (·.matchesTitle otaType otaTitle answers) hlist
        (Except.ok.inj hfits) fun other hmem => Except.ok.inj (hfront other hmem)
      rw [hsearch, hsplit]
      have hbare := h.bare item (by rw [hlist]; exact List.mem_append_right _ List.mem_cons_self)
      rcases (h.holds hlist).onNegotiation hbare otaTitle otaVersion otaSize otaChecksum
        otaChecksumAlgorithm allocated answers memory.dev with ⟨fault, hfault, hequal⟩ |
        ⟨item', dev', blocks', hok, hsame, hholds, hbare', hequal⟩
      · refine .inl ⟨fault, ?_, fun _ => ?_⟩
        · simp only [bind, Except.bind, hfault]
        · simp only [dev_forget, hequal, bind, Except.bind]
      · refine .inr ⟨_, ?_, h.replace hlist dev' hholds hbare', ?_⟩
        · simp only [bind, Except.bind, hok]
        · rintro ⟨hall, hdescribed⟩
          refine ⟨hdescribed.replace hlist hsame _ _, ?_⟩
          simp only [hequal hall, bind, Except.bind, forget, List.map_append,
            List.map_cons]
    · have hsplit := splitFirst_session_none (·.matchesTitle otaType otaTitle answers)
        fun item hmem => Except.ok.inj (hnone item hmem)
      rw [hsearch, hsplit]
      exact .inr ⟨_, rfl, ⟨h.accounts, h.lost, h.bare⟩, fun hfaithful => ⟨hfaithful.2, rfl⟩⟩

theorem Owns.chunkData {memory : OtaMemory} (h : memory.Owns) (crc : CrcRoutine)
    (requestId chunkId : Nat) (payload : List UInt8) (answers : OtaAnswers) :
    Follows (memory.tbcmhOtaupdateOnChunkData crc requestId chunkId payload answers)
      memory.Described
      (.ok (ThingsboardMqtt.tbcmhOtaupdateOnChunkData crc requestId chunkId payload answers
        memory.forget)) := by
  simp only [tbcmhOtaupdateOnChunkData, ThingsboardMqtt.tbcmhOtaupdateOnChunkData]
  rcases search_cases (fun item => .ok (item.state.requestId = requestId)) h.live
    with ⟨fault, front, item, back, hlist, hfits, -⟩ |
    ⟨front, item, back, hlist, hfits, hfront, hsearch⟩ | ⟨hnone, hsearch⟩
  · contradiction
  · have hsplit := splitFirst_session (fun session => decide (session.state.requestId = requestId))
      hlist (Except.ok.inj hfits) fun other hmem => Except.ok.inj (hfront other hmem)
    rw [hsearch, hsplit]
    have hbare := h.bare item (by rw [hlist]; exact List.mem_append_right _ List.mem_cons_self)
    obtain ⟨item', blocks', hok, hsession, hsame, hholds, hbare'⟩ :=
      (h.holds hlist).onChunk hbare crc chunkId payload answers memory.dev
    let written := otaupdateOnChunk crc chunkId payload answers item.session memory.dev
    refine .inr ⟨_, ?_, h.replace hlist written.2 hholds hbare', ?_⟩
    · simp only [bind, Except.bind, hok, Except.mapError, written]
    · intro hdescribed
      refine ⟨hdescribed.replace hlist hsame _ _, ?_⟩
      rw [forget, forget, List.map_append, List.map_cons, hsession]
  · have hsplit := splitFirst_session_none
      (fun session : Otaupdate => decide (session.state.requestId = requestId))
      fun item hmem => Except.ok.inj (hnone item hmem)
    rw [hsearch, hsplit]
    exact .inr ⟨memory, rfl, h, fun hdescribed => ⟨hdescribed, rfl⟩⟩

/-- The loop over the items that may have timed out, behind those it has visited. -/
theorem checkTimeouts_spec (timestamp : Nat) (todo : List StoredOtaupdate) :
    ∀ (done : List StoredOtaupdate) (dev : OtaDevice) (blocks : Blocks),
      (∀ nextAddr, Owns ⟨done ++ todo, nextAddr, blocks, dev⟩) →
      ∃ todo' dev' blocks', checkTimeouts timestamp todo dev blocks = .ok (todo', dev', blocks') ∧
        (∀ nextAddr, Owns ⟨done ++ todo', nextAddr, blocks', dev'⟩) ∧
        (todo'.map (·.session), dev')
          = foreachSafe (otaupdateCheckTimeout timestamp) (todo.map (·.session)) dev ∧
        todo'.map (fun item => content item.strings .otaDescription)
          = todo.map fun item => content item.strings .otaDescription := by
  induction todo with
  | nil => exact fun _ dev blocks h => ⟨[], dev, blocks, rfl, h, rfl, rfl⟩
  | cons item rest ih =>
    intro done dev blocks h
    have hfirst := h 0
    have hmem : item ∈ done ++ item :: rest := List.mem_append_right _ List.mem_cons_self
    obtain ⟨item', blocks₁, hcheck, hsession, hsame, hholds, hbare⟩ :=
      (hfirst.holds rfl).checkTimeout (hfirst.bare item hmem) timestamp dev
    have hnext : ∀ nextAddr, Owns ⟨done ++ [item'] ++ rest, nextAddr, blocks₁,
        (otaupdateCheckTimeout timestamp item.session dev).2⟩ := by
      intro nextAddr
      have hreplaced := (h nextAddr).replace rfl
        (otaupdateCheckTimeout timestamp item.session dev).2 hholds hbare
      rwa [List.append_assoc, List.singleton_append]
    obtain ⟨rest', dev', blocks', hrest, howns, hsessions, hdescriptions⟩ :=
      ih _ _ _ hnext
    refine ⟨item' :: rest', dev', blocks', ?_, ?_, ?_, ?_⟩
    · rw [checkTimeouts, hfirst.live item hmem]
      simp only [bind, Except.bind, hcheck, hrest]
    · intro nextAddr
      have hlast := howns nextAddr
      rwa [List.append_assoc, List.singleton_append] at hlast
    · simp only [List.map_cons, foreachSafe, ← hsessions, hsession]
    · rw [List.map_cons, List.map_cons, hdescriptions, hsame.otaDescription]

theorem Owns.checkTimeout {memory : OtaMemory} (h : memory.Owns) (timestamp : Nat) :
    Follows (memory.tbcmhOtaupdateOnChunkCheckTimeout timestamp) memory.Described
      (.ok (ThingsboardMqtt.tbcmhOtaupdateOnChunkCheckTimeout timestamp memory.forget)) := by
  obtain ⟨otaupdateList, dev, blocks, hloop, howns, hsessions, hdescriptions⟩ :=
    checkTimeouts_spec timestamp memory.otaupdateList [] memory.dev memory.blocks
      fun _ => ⟨h.accounts, h.lost, h.bare⟩
  refine .inr ⟨⟨otaupdateList, memory.nextAddr, blocks, dev⟩, ?_, howns _, ?_⟩
  · simp only [tbcmhOtaupdateOnChunkCheckTimeout, hloop, Except.mapError, bind, Except.bind]
  · intro hdescribed
    refine ⟨?_, ?_⟩
    · intro item hmem
      have hmapped := List.mem_map_of_mem (f := fun item => content item.strings .otaDescription) hmem
      rw [hdescriptions] at hmapped
      obtain ⟨other, hother, hequal⟩ := List.mem_map.mp hmapped
      rw [← hequal]
      exact hdescribed other hother
    · simp only [ThingsboardMqtt.tbcmhOtaupdateOnChunkCheckTimeout, forget, ← hsessions]

/-- An input with memory does what it does without. -/
theorem Owns.step {memory : OtaMemory} (h : memory.Owns) (crc : CrcRoutine) (input : StoredInput) :
    Follows (storedStep crc memory input) (input.Allocates ∧ memory.Described)
      (otaStep crc memory.forget input.plain) := by
  cases input with
  | subscribe otaDescription otaType nextUpdatePartition allocatesItem allocatesDescription =>
    exact h.subscribe otaDescription otaType nextUpdatePartition allocatesItem allocatesDescription
  | unsubscribe otaDescription =>
    exact (h.unsubscribe otaDescription).weaken And.right
  | event allocated otaEvent =>
    cases otaEvent with
    | sharedAttributes object answers =>
      cases object with
      | none => exact .inr ⟨memory, rfl, h, fun hfaithful => ⟨hfaithful.2, rfl⟩⟩
      | some object =>
        simp only [storedStep, storedHandle, otaupdateOnAttributesupdate, StoredInput.plain, otaStep,
          otaHandle, otaupdateOnFwAttributesupdate, ThingsboardMqtt.otaupdateOnAttributesupdate]
        split
        · exact h.sharedAttributes _ _ _ _ _ _ allocated answers
        · exact .inr ⟨memory, rfl, h, fun hfaithful => ⟨hfaithful.2, rfl⟩⟩
    | chunkData requestId chunkId payload answers =>
      exact (h.chunkData crc requestId chunkId payload answers).weaken And.right
    | checkTimeout timestamp => exact (h.checkTimeout timestamp).weaken And.right
    | disconnected => exact (h.checkTimeout _).weaken And.right
    | environment core =>
      exact .inr ⟨_, rfl, ⟨h.accounts, h.lost, h.bare⟩, fun hfaithful => ⟨hfaithful.2, rfl⟩⟩

/-- Destroying the client frees every item. -/
theorem destroyItems_spec (items : List StoredOtaupdate) :
    ∀ {blocks : Blocks}, Accounts blocks.heap (buffersOf items) → blocks.lost = 0 →
      ∃ blocks', destroyItems items blocks = .ok blocks' ∧ blocks'.heap.live = ∅ := by
  induction items with
  | nil => exact fun haccounts _ => ⟨_, rfl, Finset.val_eq_zero.mp haccounts⟩
  | cons item rest ih =>
    intro blocks haccounts hlost
    have haccounts' := haccounts
    rw [← List.nil_append (item :: rest), buffersOf_append_cons, List.nil_append] at haccounts'
    have hholds : item.Holds blocks (buffersOf rest) := by
      refine ⟨?_, hlost⟩
      rwa [Keeps, hlost, Multiset.zero_add]
    obtain ⟨blocks₁, hdestroy, hrest, hlost₁⟩ := hholds.destroy
    obtain ⟨blocks', hall, hnone⟩ := ih hrest hlost₁
    have haccess : blocks.heap.access item.block = .ok () :=
      haccounts'.access_of_mem (Multiset.mem_add.mpr (.inr (Multiset.mem_cons_self _ _)))
    refine ⟨blocks', ?_, hnone⟩
    rw [destroyItems, haccess]
    simp only [bind, Except.bind, hdestroy, hall]

/-- A search by description comes to an item that has none. -/
def HitsNull (otaDescription : String) (memory : OtaMemory) : Prop :=
  ∃ front item back, memory.otaupdateList = front ++ item :: back ∧
    content item.strings .otaDescription = none ∧
    ∀ other ∈ front, content other.strings .otaDescription ≠ some otaDescription

theorem search_null {heap : Heap} {otaDescription : String} {item : StoredOtaupdate}
    (hnull : content item.strings .otaDescription = none) (back : List StoredOtaupdate) :
    ∀ {front : List StoredOtaupdate},
      (∀ other ∈ front, content other.strings .otaDescription ≠ some otaDescription) →
      (∀ other ∈ front ++ item :: back, heap.access other.block = .ok ()) →
      search heap (isDescribed otaDescription) (front ++ item :: back)
        = .error (.code .nullString) := by
  intro front
  induction front with
  | nil =>
    intro _ hlive
    have hfits : isDescribed otaDescription item = .error .nullString := by rw [isDescribed, hnull]
    rw [List.nil_append, search, hlive item List.mem_cons_self, hfits]
    rfl
  | cons first rest ih =>
    intro hfront hlive
    rw [List.forall_mem_cons] at hfront
    rw [List.cons_append, List.forall_mem_cons] at hlive
    rw [List.cons_append, search, hlive.1]
    cases hfirst : content first.strings .otaDescription with
    | none =>
      have hfits : isDescribed otaDescription first = .error .nullString := by
        rw [isDescribed, hfirst]
      rw [hfits]
      rfl
    | some description =>
      have hne : description ≠ otaDescription := fun h => hfront.1 (hfirst.trans (congrArg some h))
      have hfits : isDescribed otaDescription first = .ok false := by
        rw [isDescribed, hfirst]
        exact congrArg Except.ok (decide_eq_false hne)
      rw [hfits]
      simp only [Except.mapError, bind, Except.bind, ih hfront.2 hlive.2, Bool.false_eq_true, if_false]

theorem Owns.unsubscribe_iff {memory : OtaMemory} (h : memory.Owns) (otaDescription : String) :
    memory.tbcmhOtaupdateUnsubscribe otaDescription = .error (.code .nullString) ↔
      memory.HitsNull otaDescription := by
  constructor
  · intro hfault
    rcases search_cases (isDescribed otaDescription) h.live with
      ⟨fault, front, item, back, hlist, hfits, hfront, -⟩ |
      ⟨front, item, back, hlist, hfits, hfront, hsearch⟩ | ⟨hnone, hsearch⟩
    · refine ⟨front, item, back, hlist, ?_, ?_⟩
      · cases hcontent : content item.strings .otaDescription with
        | none => rfl
        | some description => simp [isDescribed, hcontent] at hfits
      · intro other hmem hsome
        have hother := hfront other hmem
        simp [isDescribed, hsome] at hother
    · obtain ⟨blocks, hdestroy, -⟩ := (h.holds hlist).destroy
      rw [tbcmhOtaupdateUnsubscribe, hsearch] at hfault
      simp [bind, Except.bind, hdestroy, Except.mapError] at hfault
    · rw [tbcmhOtaupdateUnsubscribe, hsearch] at hfault
      contradiction
  · rintro ⟨front, item, back, hlist, hnull, hfront⟩
    have hlive := h.live
    rw [hlist] at hlive
    rw [tbcmhOtaupdateUnsubscribe, hlist, search_null hnull back hfront hlive]
    rfl

end OtaMemory

/-! ## Reachable states -/

/-- What holds of the items in a state, and of what is done with them next. -/
structure ItemsKept (crc : CrcRoutine) (memory : OtaMemory) : Prop where
  owns : memory.Owns
  steps : ∀ input, (∃ memory', storedStep crc memory input = .ok memory') ∨
    ∃ fault, storedStep crc memory input = .error (.code fault)
  unsubscribe : ∀ otaDescription,
    memory.tbcmhOtaupdateUnsubscribe otaDescription = .error (.code .nullString) ↔
      memory.HitsNull otaDescription
  destroyed : ∃ memory', memory.tbcmhOtaupdateOnDestroy = .ok memory' ∧
    memory'.blocks.heap.live = ∅

theorem owns_initial (core : Core) (lastHandle : Nat) : (OtaMemory.initial core lastHandle).Owns :=
  ⟨Accounts.empty, rfl, by simp [OtaMemory.initial]⟩

/-- **OTA items and their memory.** In every run, with any `malloc` failing, the live buffers are those
    of the items, each once; a session that is not under way keeps no strings; no step touches a freed
    buffer; and destroying the client frees everything. Unsubscribing compares a `NULL` description
    exactly when an item without one stands in front of the one that is searched. -/
theorem otaMemory_of_run {crc : CrcRoutine} {core : Core} {lastHandle : Nat}
    {inputs : List StoredInput} {memory : OtaMemory}
    (run : Run (Succeeds (storedStep crc)) (.initial core lastHandle) inputs memory) :
    ItemsKept crc memory := by
  have howns : memory.Owns := by
    refine run.invariant (owns_initial core lastHandle) ?_
    intro mid input next h hstep
    rcases h.step crc input with ⟨fault, hfault, -⟩ | ⟨memory', hok, howns, -⟩
    · rw [Succeeds, hfault] at hstep
      contradiction
    · obtain rfl := Except.ok.inj (hok.symm.trans hstep)
      exact howns
  refine ⟨howns, ?_, howns.unsubscribe_iff, ?_⟩
  · intro input
    rcases howns.step crc input with ⟨fault, hfault, -⟩ | ⟨memory', hok, -⟩
    · exact .inr ⟨fault, hfault⟩
    · exact .inl ⟨memory', hok⟩
  · obtain ⟨blocks, hdestroy, hnone⟩ :=
      OtaMemory.destroyItems_spec memory.otaupdateList howns.accounts howns.lost
    refine ⟨{ memory with otaupdateList := [], blocks := blocks }, ?_, hnone⟩
    rw [OtaMemory.tbcmhOtaupdateOnDestroy, hdestroy]
    rfl

/-- Two items, of which the first has no description, and a negotiation whose copy of the version
    fails. -/
def nullDescription : List StoredInput :=
  [.event (fun _ => true) (.environment sampleCore),
    .subscribe "F/W" .fw (some 1000000) true false,
    .subscribe "F/W" .fw (some 1000000) true true,
    .event (fun name => name ≠ .otaVersion)
      (.sharedAttributes (some (sampleAttributes 20000 "0")) sampleAnswers)]

theorem otaMemory_of_run_nullDescription :
    ItemsKept .crc32 (nullDescription.foldl (advance (storedStep .crc32)) (.initial sampleCore 0)) :=
  otaMemory_of_run (run_of_succeeds (by decide +kernel))

example : (storedStep .crc32
    (nullDescription.foldl (advance (storedStep .crc32)) (.initial sampleCore 0))
    (.unsubscribe "F/W")).isOk = false := by decide +kernel

/-! ## With memory for all copies -/

/-- A run with memory for all copies is one of the client without memory. -/
theorem run_forget {crc : CrcRoutine} {core : Core} {lastHandle : Nat} {inputs : List StoredInput}
    {memory : OtaMemory}
    (run : Run (Succeeds (storedStep crc)) (.initial core lastHandle) inputs memory)
    (hall : ∀ input ∈ inputs, input.Allocates) :
    memory.Owns ∧ memory.Described ∧
      Run (Succeeds (otaStep crc)) (.initial core lastHandle) (inputs.map (·.plain)) memory.forget := by
  induction run with
  | nil => exact ⟨owns_initial core lastHandle, by simp [OtaMemory.Described, OtaMemory.initial], .nil⟩
  | @snoc inputs input mid last run taken ih =>
    rw [List.forall_mem_append, List.forall_mem_singleton] at hall
    obtain ⟨howns, hdescribed, hrun⟩ := ih hall.1
    rcases howns.step crc input with ⟨fault, hfault, -⟩ | ⟨memory', hok, howns', hsame⟩
    · rw [Succeeds, hfault] at taken
      contradiction
    · obtain rfl := Except.ok.inj (hok.symm.trans taken)
      obtain ⟨hdescribed', hstep⟩ := hsame ⟨hall.2, hdescribed⟩
      rw [List.map_append, List.map_singleton]
      exact ⟨howns', hdescribed', .snoc hrun hstep⟩

/-- Every run of the client without memory is one with memory for all copies. -/
theorem exists_run {crc : CrcRoutine} {core : Core} {lastHandle : Nat} {plain : List OtaInput}
    {world : OtaWorld} (run : Run (Succeeds (otaStep crc)) (.initial core lastHandle) plain world) :
    ∀ {inputs : List StoredInput}, inputs.map (·.plain) = plain →
      (∀ input ∈ inputs, input.Allocates) →
      ∃ memory, Run (Succeeds (storedStep crc)) (.initial core lastHandle) inputs memory ∧
        memory.forget = world := by
  induction run with
  | nil =>
    intro inputs hplain _
    rw [List.map_eq_nil_iff] at hplain
    subst hplain
    exact ⟨_, .nil, rfl⟩
  | @snoc plain input mid last run taken ih =>
    intro inputs hplain hall
    obtain ⟨front, tail, rfl, hfront, htail⟩ := List.map_eq_append_iff.mp hplain
    obtain ⟨input', rfl, rfl⟩ := List.map_eq_singleton_iff.mp htail
    rw [List.forall_mem_append, List.forall_mem_singleton] at hall
    obtain ⟨memory, hrun, rfl⟩ := ih hfront hall.1
    obtain ⟨howns, hdescribed, -⟩ := run_forget hrun hall.1
    rcases howns.step crc input' with ⟨fault, hfault, hsame⟩ | ⟨memory', hok, -, hsame⟩
    · rw [Succeeds, hsame ⟨hall.2, hdescribed⟩] at taken
      contradiction
    · obtain ⟨-, hstep⟩ := hsame ⟨hall.2, hdescribed⟩
      exact ⟨memory', .snoc hrun hok, Except.ok.inj (hstep.symm.trans taken)⟩

/-- **With memory for all copies** the items with their memory and the sessions without it have the same
    runs: what holds of every run of `otaStep` holds of the code with its memory, and no fault comes of
    the memory. -/
theorem storedRun_iff {inputs : List StoredInput} (hall : ∀ input ∈ inputs, input.Allocates)
    (crc : CrcRoutine) (core : Core) (lastHandle : Nat) (world : OtaWorld) :
    (∃ memory, Run (Succeeds (storedStep crc)) (.initial core lastHandle) inputs memory ∧
      memory.forget = world) ↔
    Run (Succeeds (otaStep crc)) (.initial core lastHandle) (inputs.map (·.plain)) world := by
  constructor
  · rintro ⟨memory, run, rfl⟩
    exact (run_forget run hall).2.2
  · exact fun run => exists_run run rfl hall

/-- An update that is announced to the only item. -/
def allocatedUpdate : List StoredInput :=
  [.event (fun _ => true) (.environment sampleCore),
    .subscribe "F/W" .fw (some 1000000) true true,
    .event (fun _ => true) (.sharedAttributes (some (sampleAttributes 20000 "0")) sampleAnswers)]

theorem storedRun_iff_allocatedUpdate :
    (∃ memory, Run (Succeeds (storedStep .crc32)) (.initial sampleCore 0) allocatedUpdate memory ∧
      memory.forget = (allocatedUpdate.map (·.plain)).foldl (advance (otaStep .crc32))
        (.initial sampleCore 0)) ↔
    Run (Succeeds (otaStep .crc32)) (.initial sampleCore 0) (allocatedUpdate.map (·.plain))
      ((allocatedUpdate.map (·.plain)).foldl (advance (otaStep .crc32)) (.initial sampleCore 0)) :=
  storedRun_iff (by simp [allocatedUpdate, StoredInput.Allocates, StoredOtaupdate.AllAllocated])
    .crc32 sampleCore 0 _

end ThingsboardMqtt
