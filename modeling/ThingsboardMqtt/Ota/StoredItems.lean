import ThingsboardMqtt.Library.OwnedSlots
import ThingsboardMqtt.Ota.System

set_option autoImplicit false

/-! # The memory of an OTA item

The functions of `ota_update.c` on one `otaupdate_t` once more, with the memory of the item and of the
strings it keeps. Any `malloc` may fail; a string that could not be copied is `NULL`.

Each function does to the session what it does where memory is left alone (`Follows`), but for a
negotiation, which keeps the strings that could be copied (`onNegotiation_keeps`): it frees those of
the negotiation before, so that none is lost. -/

namespace ThingsboardMqtt

open LiveBuffers OwnedSlots

/-! ## Data -/

/-- The strings of an item: its description and those of `otaupdate_attribute_t`. -/
inductive OtaString
  | otaDescription
  | otaTitle
  | otaVersion
  | otaChecksum
  | otaChecksumAlgorithm
  deriving DecidableEq, Repr

/-- The strings of `otaupdate_attribute_t`, in the order they are copied and freed. -/
def attributeStrings : List OtaString := [.otaTitle, .otaVersion, .otaChecksum, .otaChecksumAlgorithm]

/-- The strings in the order `_otaupdate_destroy` frees them. -/
def itemStrings : List OtaString := .otaDescription :: attributeStrings

/-- The pointers of an item behind `memset`. -/
def noStrings : Slots OtaString String := fun _ => none

/-- `otaupdate_t` at the address `block`; `addr` is the name it has in an `OtaWorld`. -/
structure StoredOtaupdate where
  addr : Nat
  block : Nat
  config : OtaupdateConfig
  otaSize : Nat
  state : OtaupdateState
  strings : Slots OtaString String

/-- What must not happen: a buffer that was freed, or a fault of `ota_update.c` itself. -/
inductive StoredFault
  | buffer (fault : BufferFault)
  | code (fault : Fault)
  deriving DecidableEq, Repr

namespace StoredOtaupdate

/-- The session in an item. -/
def session (item : StoredOtaupdate) : Otaupdate where
  addr := item.addr
  otaDescription := (content item.strings .otaDescription).getD ""
  config := item.config
  otaAttribute :=
    { otaTitle := content item.strings .otaTitle
      otaVersion := content item.strings .otaVersion
      otaSize := item.otaSize
      otaChecksum := content item.strings .otaChecksum
      otaChecksumAlgorithm := content item.strings .otaChecksumAlgorithm }
  state := item.state

/-- What `_otaupdate_do_write` and `_otaupdate_chunk_request` change. -/
def withState (item : StoredOtaupdate) (session : Otaupdate) : StoredOtaupdate :=
  { item with state := session.state }

@[simp] theorem addr_session (item : StoredOtaupdate) : item.session.addr = item.addr := rfl

@[simp] theorem config_session (item : StoredOtaupdate) : item.session.config = item.config := rfl

@[simp] theorem otaSize_session (item : StoredOtaupdate) :
    item.session.otaAttribute.otaSize = item.otaSize := rfl

@[simp] theorem state_session (item : StoredOtaupdate) : item.session.state = item.state := rfl

/-! ## The C functions -/

/-- `_otaupdate_reset` -/
def reset (item : StoredOtaupdate) (blocks : Blocks) :
    Except BufferFault (StoredOtaupdate × Blocks) := do
  let (strings, blocks) ← clear attributeStrings item.strings blocks
  .ok ({ item with
    otaSize := 0
    state := .idle
    strings := strings }, blocks)

/-- `_otaupdate_destroy` -/
def destroy (item : StoredOtaupdate) (blocks : Blocks) : Except BufferFault Blocks := do
  let (_, blocks) ← clear itemStrings item.strings blocks
  let heap ← blocks.heap.free (some item.block)
  .ok { blocks with heap := heap }

/-- The four calls that conclude a session that failed. -/
def concludeFailure (item : StoredOtaupdate) (dev : OtaDevice) (blocks : Blocks) :
    Except BufferFault (StoredOtaupdate × OtaDevice × Blocks) := do
  let dev := otaupdateDoAbort item.session dev
  let (item, blocks) ← item.reset blocks
  .ok (item, otaupdateDoUpdated item.session false dev, blocks)

/-- What `_tbcmh_otaupdate_on_chunk_data` does with a session whose last byte was written. -/
def complete (item : StoredOtaupdate) (answers : OtaAnswers) (dev : OtaDevice) (blocks : Blocks) :
    Except BufferFault (StoredOtaupdate × OtaDevice × Blocks) :=
  let dev := otaupdatePublishGoingStatus item.session "DOWNLOADED" answers dev
  if otaupdateChecksumVerification item.session then
    let dev := otaupdatePublishGoingStatus item.session "VERIFIED" answers dev
    let dev := otaupdatePublishGoingStatus item.session "UPDATING" answers dev
    match otaupdateDoEnd item.session answers dev with
    | (ended, dev) =>
      if ended.result = 0 then do
        let dev := otaupdatePublishUpdatedStatus item.session dev
        let (item, blocks) ← item.reset blocks
        .ok (item, otaupdateDoUpdated item.session true dev, blocks)
      else
        item.concludeFailure
          (otaupdatePublishLateFailedStatus item.session (otaErrorText ended.otaError) dev) blocks
  else
    item.concludeFailure
      (otaupdatePublishLateFailedStatus item.session "Checksum verification failed!" dev) blocks

/-- What `_tbcmh_otaupdate_on_chunk_data` does with the session it found. -/
def onChunk (crc : CrcRoutine) (chunkId : Nat) (payload : List UInt8) (answers : OtaAnswers)
    (item : StoredOtaupdate) (dev : OtaDevice) (blocks : Blocks) :
    Except BufferFault (StoredOtaupdate × OtaDevice × Blocks) :=
  match otaupdateDoWrite crc item.session chunkId payload answers dev with
  | (written, session, dev) =>
    let item := item.withState session
    if written.result = 0 then
      if item.otaSize ≤ item.state.receivedLen then item.complete answers dev blocks
      else
        match otaupdateChunkRequest item.session false answers dev with
        | (sent, session, dev) =>
          let item := item.withState session
          if sent then .ok (item, dev, blocks)
          else
            item.concludeFailure
              (otaupdatePublishLateFailedStatus item.session "Request OTA chunk failure!" dev) blocks
    else if written.result = -1 then
      item.concludeFailure
        (otaupdatePublishLateFailedStatus item.session (otaErrorText written.otaError) dev) blocks
    else
      item.concludeFailure
        (otaupdatePublishLateFailedStatus item.session "Unknown error!" dev) blocks

/-- One round of the loop of `_tbcmh_otaupdate_on_chunk_check_timeout`. -/
def checkTimeout (timestamp : Nat) (item : StoredOtaupdate) (dev : OtaDevice) (blocks : Blocks) :
    Except BufferFault (StoredOtaupdate × OtaDevice × Blocks) :=
  if item.session.timedOut timestamp then
    item.concludeFailure
      (otaupdatePublishLateFailedStatus item.session "OTA response timeout!" dev) blocks
  else .ok (item, dev, blocks)

/-- What a negotiation copies. -/
def announced (otaTitle : String) (otaVersion : Option String)
    (otaChecksum otaChecksumAlgorithm : String) : OtaString → Option String
  | .otaDescription => none
  | .otaTitle => some otaTitle
  | .otaVersion => otaVersion
  | .otaChecksum => some otaChecksum
  | .otaChecksumAlgorithm => some otaChecksumAlgorithm

/-- `_otaupdate_do_negotiate`, where the allocator's answers decide what is copied. -/
def doNegotiate (item : StoredOtaupdate) (otaTitle : String) (otaVersion : Option String)
    (otaSize : Nat) (otaChecksum otaChecksumAlgorithm : Option String) (allocated : OtaString → Bool)
    (answers : OtaAnswers) (dev : OtaDevice) (blocks : Blocks) :
    Except StoredFault (OtaResult × StoredOtaupdate × OtaDevice × Blocks) := do
  let dev := dev.log (.negotiate item.addr)
  let some algorithm := otaChecksumAlgorithm | .error (.code .nullString)
  if !strcaseEq algorithm "crc32" then
    .ok (⟨-1, "Only support CRC checksum!"⟩, item, dev, blocks)
  else
    let (item, blocks) ← (item.reset blocks).mapError .buffer
    let negotiation ← (otaFwupdateNegotiate dev.writer.fwupdate (answers.currentTitle item.addr)
      (answers.currentVersion item.addr) otaTitle otaVersion otaSize otaErrorSize).mapError .code
    if negotiation.result = 1 then
      let some checksum := otaChecksum | .error (.code .nullString)
      let (strings, blocks) := fill (announced otaTitle otaVersion checksum algorithm) allocated
        attributeStrings item.strings blocks
      let item := { item with
        otaSize := otaSize
        strings := strings }
      .ok (negotiation, item,
        dev.log (.negotiated item.addr 1 item.session.otaAttribute), blocks)
    else
      .ok (negotiation, item,
        dev.log (.negotiated item.addr negotiation.result item.session.otaAttribute), blocks)

/-- What `__otaupdate_on_sharedattributes` does with the session it found. -/
def onNegotiation (otaTitle : String) (otaVersion : Option String) (otaSize : Nat)
    (otaChecksum otaChecksumAlgorithm : Option String) (allocated : OtaString → Bool)
    (answers : OtaAnswers) (item : StoredOtaupdate) (dev : OtaDevice) (blocks : Blocks) :
    Except StoredFault (StoredOtaupdate × OtaDevice × Blocks) := do
  let otaType := item.config.otaType
  let (negotiation, item, dev, blocks) ← item.doNegotiate otaTitle otaVersion otaSize otaChecksum
    otaChecksumAlgorithm allocated answers dev blocks
  if negotiation.result = 1 then
    let core := if tbcmhIsConnected dev.core then tbcmSubscribe dev.core .fwResponse else dev.core
    let dev := otaupdatePublishGoingStatus item.session "DOWNLOADING" answers { dev with core := core }
    match otaupdateChunkRequest item.session true answers dev with
    | (sent, session, dev) =>
      let item := item.withState session
      if sent then .ok (item, dev, blocks)
      else
        (item.concludeFailure
          (otaupdatePublishEarlyFailedStatus otaType "Request OTA chunk failure!" dev)
          blocks).mapError .buffer
  else if negotiation.result = 0 then .ok (item, dev, blocks)
  else
    .ok (item, otaupdatePublishEarlyFailedStatus otaType (otaErrorText negotiation.otaError) dev,
      blocks)

/-! ## What they do -/

theorem nodup_itemStrings : itemStrings.Nodup := by decide

theorem attributeStrings_subset : attributeStrings ⊆ itemStrings := List.subset_cons_self _ _

theorem content_of_bare {strings : Slots OtaString String}
    (hbare : ∀ name ∈ attributeStrings, strings name = none) :
    ∀ name ∈ attributeStrings, content strings name = none := by
  intro name hmem
  rw [content, hbare name hmem]
  rfl

/-- An item and its strings are its own, all others are those of others, and none is lost. -/
structure Holds (item : StoredOtaupdate) (blocks : Blocks) (others : Multiset Nat) : Prop where
  keeps : Keeps itemStrings item.strings blocks (item.block ::ₘ others)
  lost : blocks.lost = 0

/-- A session that is not under way keeps no strings. -/
def BareWhenIdle (item : StoredOtaupdate) : Prop :=
  item.state.requestId = 0 → ∀ name ∈ attributeStrings, item.strings name = none

/-- The item is where it was, and has the description it had. -/
structure SameItem (item item' : StoredOtaupdate) : Prop where
  block : item'.block = item.block
  otaDescription : content item'.strings .otaDescription = content item.strings .otaDescription

theorem SameItem.trans {item item' item'' : StoredOtaupdate} (h : SameItem item item')
    (h' : SameItem item' item'') : SameItem item item'' :=
  ⟨h'.block.trans h.block, h'.otaDescription.trans h.otaDescription⟩

theorem sameItem_withState (item : StoredOtaupdate) (session : Otaupdate) :
    SameItem item (item.withState session) := ⟨rfl, rfl⟩

/-- A function with memory does what it does to the session, and the item still has its own. -/
def Follows (item : StoredOtaupdate) (others : Multiset Nat)
    (outcome : Except BufferFault (StoredOtaupdate × OtaDevice × Blocks))
    (expected : Otaupdate × OtaDevice) : Prop :=
  ∃ item' blocks', outcome = .ok (item', expected.2, blocks') ∧ item'.session = expected.1 ∧
    SameItem item item' ∧ item'.Holds blocks' others ∧ item'.BareWhenIdle

theorem Follows.of_same {item item' : StoredOtaupdate} {others : Multiset Nat}
    {outcome : Except BufferFault (StoredOtaupdate × OtaDevice × Blocks)}
    {expected : Otaupdate × OtaDevice} (hsame : SameItem item item')
    (h : item'.Follows others outcome expected) : item.Follows others outcome expected := by
  obtain ⟨item'', blocks, houtcome, hsession, hsame', hholds, hbare⟩ := h
  exact ⟨item'', blocks, houtcome, hsession, hsame.trans hsame', hholds, hbare⟩

section

variable {item : StoredOtaupdate} {blocks : Blocks} {others : Multiset Nat}

theorem Holds.reset (h : item.Holds blocks others) :
    ∃ item' blocks', item.reset blocks = .ok (item', blocks') ∧
      item'.session = otaupdateReset item.session ∧ SameItem item item' ∧
      item'.Holds blocks' others ∧ ∀ name ∈ attributeStrings, item'.strings name = none := by
  obtain ⟨strings, blocks', hclear, hkeeps, hlost, hstrings⟩ :=
    h.keeps.clear nodup_itemStrings attributeStrings_subset
  have hkept : content strings .otaDescription = content item.strings .otaDescription := by
    rw [content, content, hstrings]
    rfl
  refine ⟨{ item with otaSize := 0, state := .idle, strings := strings }, blocks', ?_, ?_, ⟨rfl, hkept⟩,
    ⟨hkeeps, hlost.trans h.lost⟩, ?_⟩
  · rw [StoredOtaupdate.reset, hclear]
    rfl
  · have hnone := content_of_bare fun name hmem => (hstrings name).trans (if_pos hmem)
    rw [session, hkept, hnone _ (by decide), hnone _ (by decide), hnone _ (by decide),
      hnone _ (by decide)]
    rfl
  · intro name hmem
    exact (hstrings name).trans (if_pos hmem)

theorem Holds.destroy (h : item.Holds blocks others) :
    ∃ blocks', item.destroy blocks = .ok blocks' ∧ Accounts blocks'.heap others ∧
      blocks'.lost = 0 := by
  obtain ⟨strings, blocks', hclear, hkeeps, hlost, hstrings⟩ :=
    h.keeps.clear nodup_itemStrings (List.Subset.refl _)
  have hnone : owned strings itemStrings = 0 := by
    refine owned_eq_zero ?_
    intro name hmem
    rw [hstrings, if_pos hmem]
  rw [Keeps, hnone, Multiset.zero_add, hlost, h.lost, Multiset.zero_add] at hkeeps
  obtain ⟨heap, hfree, hothers⟩ := hkeeps.free
  refine ⟨{ blocks' with heap := heap }, ?_, hothers, hlost.trans h.lost⟩
  rw [StoredOtaupdate.destroy, hclear]
  simp only [bind, Except.bind, hfree]

theorem Holds.withState (h : item.Holds blocks others) (session : Otaupdate) :
    (item.withState session).Holds blocks others := ⟨h.keeps, h.lost⟩

theorem Holds.concludeFailure (h : item.Holds blocks others) (dev : OtaDevice) :
    item.Follows others (item.concludeFailure dev blocks)
      (otaupdateConcludeFailure item.session dev) := by
  obtain ⟨item', blocks', hreset, hsession, hsame, hholds, hbare⟩ := h.reset
  refine ⟨item', blocks', ?_, hsession, hsame, hholds, fun _ => hbare⟩
  rw [StoredOtaupdate.concludeFailure, hreset, otaupdateConcludeFailure, ← hsession]
  rfl

theorem Holds.complete (h : item.Holds blocks others) (answers : OtaAnswers) (dev : OtaDevice) :
    item.Follows others (item.complete answers dev blocks)
      (otaupdateComplete item.session answers dev) := by
  unfold StoredOtaupdate.complete otaupdateComplete
  split
  · dsimp only
    split
    · obtain ⟨item', blocks', hreset, hsession, hsame, hholds, hbare⟩ := h.reset
      refine ⟨item', blocks', ?_, hsession, hsame, hholds, fun _ => hbare⟩
      rw [hreset, ← hsession]
      rfl
    · exact h.concludeFailure _
  · exact h.concludeFailure _

theorem Holds.checkTimeout (h : item.Holds blocks others) (hbare : item.BareWhenIdle)
    (timestamp : Nat) (dev : OtaDevice) :
    item.Follows others (item.checkTimeout timestamp dev blocks)
      (otaupdateCheckTimeout timestamp item.session dev) := by
  unfold StoredOtaupdate.checkTimeout otaupdateCheckTimeout
  split
  · exact h.concludeFailure _
  · exact ⟨item, blocks, rfl, rfl, ⟨rfl, rfl⟩, h, hbare⟩

theorem otaupdateDoWrite_state (crc : CrcRoutine) (session : Otaupdate) (chunkId : Nat)
    (otaData : List UInt8) (answers : OtaAnswers) (dev : OtaDevice) :
    (otaupdateDoWrite crc session chunkId otaData answers dev).2.1
        = { session with state := (otaupdateDoWrite crc session chunkId otaData answers dev).2.1.state } ∧
      (otaupdateDoWrite crc session chunkId otaData answers dev).2.1.state.requestId
        = session.state.requestId := by
  unfold otaupdateDoWrite
  split
  · exact ⟨rfl, rfl⟩
  · split
    · exact ⟨rfl, rfl⟩
    · dsimp only
      split
      · exact ⟨rfl, rfl⟩
      · exact ⟨rfl, rfl⟩

theorem Holds.onChunk (h : item.Holds blocks others) (hbare : item.BareWhenIdle) (crc : CrcRoutine)
    (chunkId : Nat) (payload : List UInt8) (answers : OtaAnswers) (dev : OtaDevice) :
    item.Follows others (item.onChunk crc chunkId payload answers dev blocks)
      (otaupdateOnChunk crc chunkId payload answers item.session dev) := by
  obtain ⟨hstate, hrequest⟩ := otaupdateDoWrite_state crc item.session chunkId payload answers dev
  unfold StoredOtaupdate.onChunk otaupdateOnChunk
  generalize otaupdateDoWrite crc item.session chunkId payload answers dev = written at *
  obtain ⟨written, session, dev⟩ := written
  dsimp only at hstate hrequest ⊢
  have hheld := h.withState session
  have hidle : (item.withState session).BareWhenIdle := fun hzero => hbare (hrequest.symm.trans hzero)
  -- the item behind the write, and the session in it
  have hsession : (item.withState session).session = session := hstate.symm
  refine Follows.of_same (sameItem_withState item session) ?_
  generalize item.withState session = item at *
  subst hsession
  rw [otaSize_session, state_session]
  split
  · split
    · exact hheld.complete answers dev
    · unfold otaupdateChunkRequest
      dsimp only
      split
      · exact ⟨_, blocks, rfl, rfl, sameItem_withState item _, hheld.withState _, hidle⟩
      · exact Follows.of_same (sameItem_withState item _) ((hheld.withState _).concludeFailure _)
  · split
    · exact hheld.concludeFailure _
    · exact hheld.concludeFailure _

/-! ## Negotiation -/

/-- Every copy of a negotiation finds memory. -/
def AllAllocated (allocated : OtaString → Bool) : Prop :=
  ∀ name ∈ attributeStrings, allocated name = true

section Copies

variable {otaTitle : String} {otaVersion : Option String} {otaChecksum otaChecksumAlgorithm : String}
  {allocated : OtaString → Bool}

/-- Into an item without strings, a string is copied when there is memory for it. -/
theorem content_announced (hbare : ∀ name ∈ attributeStrings, item.strings name = none)
    {name : OtaString} (hmem : name ∈ attributeStrings) :
    content (fill (announced otaTitle otaVersion otaChecksum otaChecksumAlgorithm) allocated
        attributeStrings item.strings blocks).1 name
      = if allocated name then announced otaTitle otaVersion otaChecksum otaChecksumAlgorithm name
        else none := by
  rw [fill_content _ (by decide)]
  cases hsource : announced otaTitle otaVersion otaChecksum otaChecksumAlgorithm name with
  | none => simp [content, hbare name hmem]
  | some text => simp [hmem]

theorem content_announced_otaDescription :
    content (fill (announced otaTitle otaVersion otaChecksum otaChecksumAlgorithm) allocated
        attributeStrings item.strings blocks).1 .otaDescription
      = content item.strings .otaDescription := by
  rw [fill_content _ (by decide)]
  exact if_neg (by simp [announced])

theorem Holds.fill (h : item.Holds blocks others)
    (hbare : ∀ name ∈ attributeStrings, item.strings name = none) (otaSize : Nat) :
    StoredOtaupdate.Holds
      { item with
        otaSize := otaSize
        strings := (fill (announced otaTitle otaVersion otaChecksum otaChecksumAlgorithm) allocated
          attributeStrings item.strings blocks).1 }
      (fill (announced otaTitle otaVersion otaChecksum otaChecksumAlgorithm) allocated attributeStrings
        item.strings blocks).2 others := by
  refine ⟨h.keeps.fill nodup_itemStrings attributeStrings_subset _ _, ?_⟩
  rw [fill_lost _ (by decide), h.lost, Multiset.zero_add]
  exact owned_eq_zero fun name hmem => hbare name (List.mem_of_mem_filter hmem)

/-- With memory for all, the session has the strings of the negotiation. -/
theorem session_fill (hbare : ∀ name ∈ attributeStrings, item.strings name = none)
    (hall : AllAllocated allocated) (otaSize : Nat) :
    StoredOtaupdate.session
      { item with
        otaSize := otaSize
        strings := (OwnedSlots.fill
          (announced otaTitle otaVersion otaChecksum otaChecksumAlgorithm) allocated
          attributeStrings item.strings blocks).1 }
      = { item.session with
          otaAttribute :=
            { otaTitle := some otaTitle
              otaVersion := otaVersion
              otaSize := otaSize
              otaChecksum := some otaChecksum
              otaChecksumAlgorithm := some otaChecksumAlgorithm } } := by
  have hcopied : ∀ name ∈ attributeStrings,
      content (OwnedSlots.fill (announced otaTitle otaVersion otaChecksum otaChecksumAlgorithm)
        allocated attributeStrings item.strings blocks).1 name
        = announced otaTitle otaVersion otaChecksum otaChecksumAlgorithm name := by
    intro name hmem
    rw [content_announced hbare hmem, if_pos (hall name hmem)]
  simp only [session, content_announced_otaDescription]
  rw [hcopied _ (by decide), hcopied _ (by decide), hcopied _ (by decide), hcopied _ (by decide)]
  rfl

end Copies

/-- A negotiation fails as it does without memory, or the item still has its own; with memory for all
    copies it does to the session what it does without. -/
theorem Holds.doNegotiate (h : item.Holds blocks others) (hidle : item.BareWhenIdle)
    (otaTitle : String) (otaVersion : Option String) (otaSize : Nat)
    (otaChecksum otaChecksumAlgorithm : Option String) (allocated : OtaString → Bool)
    (answers : OtaAnswers) (dev : OtaDevice) :
    (∃ fault, item.doNegotiate otaTitle otaVersion otaSize otaChecksum otaChecksumAlgorithm allocated
        answers dev blocks = .error (.code fault) ∧
      otaupdateDoNegotiate item.session otaTitle otaVersion otaSize otaChecksum otaChecksumAlgorithm
        answers dev = .error fault) ∨
    ∃ negotiation item' dev' blocks', item.doNegotiate otaTitle otaVersion otaSize otaChecksum
        otaChecksumAlgorithm allocated answers dev blocks = .ok (negotiation, item', dev', blocks') ∧
      SameItem item item' ∧ item'.Holds blocks' others ∧
      (negotiation.result ≠ 1 → item'.BareWhenIdle) ∧
      (AllAllocated allocated → otaupdateDoNegotiate item.session otaTitle otaVersion otaSize
        otaChecksum otaChecksumAlgorithm answers dev = .ok (negotiation, item'.session, dev')) := by
  unfold StoredOtaupdate.doNegotiate otaupdateDoNegotiate
  cases otaChecksumAlgorithm with
  | none => exact .inl ⟨.nullString, rfl, rfl⟩
  | some algorithm =>
    dsimp only
    split
    · exact .inr ⟨_, item, _, blocks, rfl, ⟨rfl, rfl⟩, h, fun _ => hidle, fun _ => rfl⟩
    · obtain ⟨item', blocks', hreset, hsession, hsame, hholds, hbare⟩ := h.reset
      rw [hreset, ← hsession]
      simp only [Except.mapError, bind, Except.bind, addr_session]
      generalize otaFwupdateNegotiate _ (answers.currentTitle item'.addr) _ _ _ _ _ = negotiation
      cases negotiation with
      | error fault => exact .inl ⟨fault, rfl, rfl⟩
      | ok negotiation =>
        dsimp only
        split
        · cases otaChecksum with
          | none => exact .inl ⟨.nullString, rfl, rfl⟩
          | some checksum =>
            refine .inr ⟨negotiation, _, _, _, rfl,
              hsame.trans ⟨rfl, content_announced_otaDescription⟩, hholds.fill hbare otaSize,
              fun hone => absurd ‹negotiation.result = 1› hone, ?_⟩
            intro hall
            rw [session_fill hbare hall]
            rfl
        · exact .inr ⟨negotiation, item', _, blocks', rfl, hsame, hholds, fun _ _ => hbare,
            fun _ => rfl⟩

/-- The first request of a chunk draws the number of the session. -/
theorem withState_chunkRequest (item : StoredOtaupdate) (answers : OtaAnswers) (dev : OtaDevice) :
    (item.withState (otaupdateChunkRequest item.session true answers dev).2.1).session
        = (otaupdateChunkRequest item.session true answers dev).2.1 ∧
      (item.withState (otaupdateChunkRequest item.session true answers dev).2.1).BareWhenIdle := by
  refine ⟨rfl, ?_⟩
  intro hzero
  exact absurd hzero (Nat.pos_iff_ne_zero.mp (tbcmhGetRequestId_pos dev.core))

theorem Holds.onNegotiation (h : item.Holds blocks others) (hidle : item.BareWhenIdle)
    (otaTitle : String) (otaVersion : Option String) (otaSize : Nat)
    (otaChecksum otaChecksumAlgorithm : Option String) (allocated : OtaString → Bool)
    (answers : OtaAnswers) (dev : OtaDevice) :
    (∃ fault, item.onNegotiation otaTitle otaVersion otaSize otaChecksum otaChecksumAlgorithm
        allocated answers dev blocks = .error (.code fault) ∧
      otaupdateOnNegotiation otaTitle otaVersion otaSize otaChecksum otaChecksumAlgorithm answers
        item.session dev = .error fault) ∨
    ∃ item' dev' blocks', item.onNegotiation otaTitle otaVersion otaSize otaChecksum
        otaChecksumAlgorithm allocated answers dev blocks = .ok (item', dev', blocks') ∧
      SameItem item item' ∧ item'.Holds blocks' others ∧ item'.BareWhenIdle ∧
      (AllAllocated allocated → otaupdateOnNegotiation otaTitle otaVersion otaSize otaChecksum
        otaChecksumAlgorithm answers item.session dev = .ok (item'.session, dev')) := by
  unfold StoredOtaupdate.onNegotiation otaupdateOnNegotiation
  rcases h.doNegotiate hidle otaTitle otaVersion otaSize otaChecksum otaChecksumAlgorithm allocated
    answers dev with ⟨fault, hfault, hequal⟩ | ⟨negotiation, item', dev', blocks', hok, hsame, hholds,
      hbare, hequal⟩
  · rw [hfault, hequal]
    exact .inl ⟨fault, rfl, rfl⟩
  · rw [hok]
    right
    by_cases hone : negotiation.result = 1
    · simp only [bind, Except.bind, config_session, hone, if_true]
      let subscribed : OtaDevice := { dev' with
        core := if tbcmhIsConnected dev'.core then tbcmSubscribe dev'.core .fwResponse else dev'.core }
      let going := otaupdatePublishGoingStatus item'.session "DOWNLOADING" answers subscribed
      obtain ⟨hsession, hidle'⟩ := withState_chunkRequest item' answers going
      cases hsent : (otaupdateChunkRequest item'.session true answers going).1 with
      | true =>
        refine ⟨_, _, blocks', if_pos rfl, hsame.trans (sameItem_withState item' _), hholds.withState _, hidle', ?_⟩
        intro hall
        simp only [hequal hall, hone, if_true]
        rw [hsession]
        exact if_pos hsent
      | false =>
        obtain ⟨item'', blocks'', hconclude, hsession', hsame', hholds', hidle''⟩ :=
          (hholds.withState (otaupdateChunkRequest item'.session true answers going).2.1
            ).concludeFailure (otaupdatePublishEarlyFailedStatus item.config.otaType
              "Request OTA chunk failure!" (otaupdateChunkRequest item'.session true answers going).2.2)
        refine ⟨item'', _, blocks'',
          (if_neg Bool.false_ne_true).trans (congrArg (Except.mapError StoredFault.buffer) hconclude),
          (hsame.trans (sameItem_withState item' _)).trans hsame', hholds', hidle'', ?_⟩
        intro hall
        simp only [hequal hall, hone, if_true]
        rw [hsession', hsession]
        exact if_neg (by rw [hsent]; exact Bool.false_ne_true)
    · simp only [bind, Except.bind, config_session, hone, if_false]
      by_cases hzero : negotiation.result = 0
      · refine ⟨item', dev', blocks', if_pos hzero, hsame, hholds, hbare hone, ?_⟩
        intro hall
        simp only [hequal hall]
        exact (if_neg hone).trans (if_pos hzero)
      · refine ⟨item', _, blocks', if_neg hzero, hsame, hholds, hbare hone, ?_⟩
        intro hall
        simp only [hequal hall]
        exact (if_neg hone).trans (if_neg hzero)

end

end StoredOtaupdate

end ThingsboardMqtt
