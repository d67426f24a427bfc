import ThingsboardMqtt.Helper.Connections
import ThingsboardMqtt.Wapper.TransportStorage

set_option autoImplicit false

/-! # The configurations that a client keeps

The wrapper and the helper each have a `tbc_transport_storage_t`. `tbcm_connect` frees the wrapper's
before it fills it, and `tbcm_disconnect` frees it when esp-mqtt has stopped. `tbcmh_connect` fills the
helper's without freeing it, and `tbcmh_disconnect` frees it behind its second loop, unless the state was
`DISCONNECTED` when it was called. So the helper's record is what is left of all configurations since it
was freed last, the newest on top, and it loses buffers when there was one before.

`wrapperCopies` and `helperCopies` record the configurations that are in the records, the newest first,
which the code does not have. -/

namespace ThingsboardMqtt

open Execution LiveBuffers OwnedSlots TbcTransportStorage

/-- The client of the helper with both records. `connecting` is what the `tbcm_connect` under way was
    called with. -/
structure StoringClient where
  client : Tbcmh
  connecting : Option LoggedTransportConfig
  wrapper : StoredTransport
  helper : StoredTransport
  blocks : Blocks
  wrapperCopies : List CopiedConfig
  helperCopies : List CopiedConfig

/-- `tbcmh_init` -/
def storingInitialised : StoringClient where
  client := tbcmhInitialised
  connecting := none
  wrapper := .zero
  helper := .zero
  blocks := ⟨.empty, 0⟩
  wrapperCopies := []
  helperCopies := []

/-- Why there is no next state: the input cannot come, `strcmp` gets `NULL`, or a buffer is used that was
    freed. -/
inductive StoringFault
  | disabled
  | nullString
  | buffer (fault : BufferFault)
  deriving DecidableEq, Repr

/-- A call of the helper or what a statement of it comes to. `event` is a step of the connection that
    leaves the records alone. -/
inductive StoringInput
  | connect (config : LoggedTransportConfig)
  | connectReturn (wrapperAllocated helperAllocated : TransportField → Bool)
  | disconnect
  | destroy (stops : Bool)
  | emptied (stops : Bool)
  | clientDestroy (succeeds : Bool)
  | destroyReturn
  | event (input : TbcmInput)

/-- The steps of the connection between which nothing is stored. -/
def TbcmInput.storesNothing : TbcmInput → Bool
  | .clientInit _ | .clientStart _ | .mqttEvent _ _ | .responseTimer => true
  | .connect _ | .connectReturn | .disconnect _ | .clientDestroy _ | .destroy _ | .destroyReturn =>
    false

namespace StoringClient

/-- `tbc_transport_storage_free_fields(&client->tbmqttclient->config)` -/
def freeWrapper (world : StoringClient) : Except StoringFault StoringClient := do
  let (wrapper, blocks) ←
    (tbcTransportStorageFreeFields world.wrapper world.blocks).mapError .buffer
  .ok { world with wrapper := wrapper, blocks := blocks, wrapperCopies := [] }

/-- `tbc_transport_storage_free_fields(&client->config)` -/
def freeHelper (world : StoringClient) : Except StoringFault StoringClient := do
  let (helper, blocks) ←
    (tbcTransportStorageFreeFields world.helper world.blocks).mapError .buffer
  .ok { world with helper := helper, blocks := blocks, helperCopies := [] }

/-- `tbc_transport_storage_fill_from_config` in `tbcm_connect` -/
def fillWrapper (copied : CopiedConfig) (world : StoringClient) : StoringClient :=
  let filled :=
    tbcTransportStorageFillFromConfig copied.allocated copied.config world.wrapper world.blocks
  { world with
    wrapper := filled.1
    blocks := filled.2
    wrapperCopies := copied :: world.wrapperCopies }

/-- `tbc_transport_storage_fill_from_config` in `tbcmh_connect` -/
def fillHelper (copied : CopiedConfig) (world : StoringClient) : StoringClient :=
  let filled :=
    tbcTransportStorageFillFromConfig copied.allocated copied.config world.helper world.blocks
  { world with
    helper := filled.1
    blocks := filled.2
    helperCopies := copied :: world.helperCopies }

/-- `TBC_FREE(client)` in `tbcm_destroy` and in `tbcmh_destroy`: what the records have is lost. -/
def freeRecords (world : StoringClient) : StoringClient :=
  { world with
    wrapper := .zero
    helper := .zero
    blocks :=
      { world.blocks with
        lost := world.blocks.lost + (world.wrapper.buffers + world.helper.buffers) }
    wrapperCopies := []
    helperCopies := [] }

def setTbcm (tbcm : Tbcm) (world : StoringClient) : StoringClient :=
  { world with client := { world.client with tbcm := tbcm } }

def setClient (client : Tbcmh) (world : StoringClient) : StoringClient :=
  { world with client := client }

end StoringClient

open StoringClient

/-- One step. -/
def storingStep (world : StoringClient) : StoringInput → Except StoringFault StoringClient
  | .connect config =>
    if world.client.tbcm.call = .idle then
      if world.client.tbcm.state ≠ .disconnected then .ok world
      else if config.address.schema = none then .error .nullString
      else do
        let cleared ← world.freeWrapper
        .ok { cleared with client := world.client.connect, connecting := some config }
    else .error .disabled
  | .connectReturn wrapperAllocated helperAllocated =>
    match world.client.tbcm.call, world.connecting with
    | .connectStarted onEvent, some config =>
      let filled := (world.fillWrapper ⟨config, wrapperAllocated⟩).setTbcm
        (world.client.tbcm.connectReturn onEvent)
      .ok (filled.fillHelper ⟨config, helperAllocated⟩)
    | _, _ => .error .disabled
  | .disconnect =>
    if world.client.tbcm.call = .idle then .ok (world.setClient world.client.disconnect)
    else .error .disabled
  | .destroy stops =>
    if world.client.tbcm.call = .idle then
      if world.client.tbcm.state = .disconnected then
        .ok (world.setTbcm (world.client.tbcm.disconnect true stops))
      else
        .ok (world.setClient
          { world.client with emptying := .inFront true :: world.client.emptying })
    else .error .disabled
  | .emptied stops =>
    if world.client.tbcm.call = .idle then
      match world.client.emptying with
      | .inFront destroy :: rest =>
        .ok (world.setClient
          { world.client with
            tbcm := world.client.tbcm.disconnect false stops
            emptying := .behind destroy :: rest })
      | .behind true :: rest => do
        let cleared ← world.freeHelper
        .ok (cleared.setClient
          { world.client with
            tbcm := world.client.tbcm.disconnect true stops
            emptying := rest })
      | .behind false :: rest => do
        let cleared ← world.freeHelper
        .ok (cleared.setClient
          { world.client with emptying := rest, disconnectReturned := true })
      | [] => .error .disabled
    else .error .disabled
  | .clientDestroy succeeds =>
    match world.client.tbcm.call with
    | .disconnectStopped destroy =>
      if succeeds then do
        let cleared ← world.freeWrapper
        .ok (cleared.setTbcm (world.client.tbcm.clientDestroy true destroy))
      else .ok (world.setTbcm (world.client.tbcm.clientDestroy false destroy))
    | _ => .error .disabled
  | .destroyReturn =>
    match world.client.tbcm.call with
    | .destroyDisconnected => .ok (world.freeRecords.setTbcm world.client.tbcm.destroyReturn)
    | _ => .error .disabled
  | .event input =>
    if input.storesNothing then
      match tbcmStep world.client.tbcm input with
      | .ok tbcm => .ok (world.setTbcm tbcm)
      | .error _ => .error .disabled
    else .error .disabled

/-! ## What the records hold -/

/-- The configurations laid over each other, the first one on top. -/
def laidOver (copies : List CopiedConfig) : TbcTransportStorage CopiedText :=
  copies.foldr CopiedConfig.over .zero

/-- The records and the heap agree. -/
structure Stored (world : StoringClient) : Prop where
  accounts : Accounts world.blocks.heap
    (world.wrapper.buffers + (world.blocks.lost + world.helper.buffers))
  wrapper : world.wrapper.contents = laidOver world.wrapperCopies
  helper : world.helper.contents = laidOver world.helperCopies
  /-- `tbcm_connect` has freed the record that it will fill. -/
  cleared : world.client.tbcm.call.pending ≠ none → world.wrapperCopies = []
  once : world.wrapperCopies.length ≤ 1
  connecting : ∀ config, world.connecting = some config → config.address.schema ≠ none

/-- The buffers that a step loses. -/
def StoringClient.loses (world : StoringClient) : StoringInput → Multiset Nat
  | .connectReturn _ _ =>
    match world.connecting with
    | some config => owned world.helper.pointers (transportFields.filter fun field =>
        (field.source config.toTbcTransportConfig).isSome)
    | none => 0
  | .destroyReturn => world.wrapper.buffers + world.helper.buffers
  | _ => 0

theorem stored_storingInitialised : Stored storingInitialised where
  accounts := by
    show Accounts Heap.empty (buffers .zero + (0 + buffers .zero))
    rw [buffers_zero]
    exact Accounts.empty
  wrapper := rfl
  helper := rfl
  cleared := fun _ => rfl
  once := by decide
  connecting := by simp [storingInitialised]

namespace Stored

variable {world : StoringClient}

theorem accountsHelper (h : Stored world) : Accounts world.blocks.heap
    (world.helper.buffers + (world.blocks.lost + world.wrapper.buffers)) := by
  have heq : world.helper.buffers + (world.blocks.lost + world.wrapper.buffers)
      = world.wrapper.buffers + (world.blocks.lost + world.helper.buffers) := by abel
  rw [heq]
  exact h.accounts

theorem freeWrapper (h : Stored world) :
    ∃ heap, world.freeWrapper = .ok
        { world with
          wrapper := .zero
          blocks := { world.blocks with heap := heap }
          wrapperCopies := [] } ∧
      Stored
        { world with
          wrapper := .zero
          blocks := { world.blocks with heap := heap }
          wrapperCopies := [] } := by
  obtain ⟨heap, hfree, haccounts⟩ := tbcTransportStorageFreeFields_keeps h.accounts
  refine ⟨heap, ?_, ?_⟩
  · rw [StoringClient.freeWrapper, hfree]
    rfl
  · exact {
      accounts := by
        show Accounts heap (buffers .zero + _)
        rw [buffers_zero, Multiset.zero_add]
        exact haccounts
      wrapper := rfl
      helper := h.helper
      cleared := fun _ => rfl
      once := Nat.zero_le 1
      connecting := h.connecting }

theorem freeHelper (h : Stored world) :
    ∃ heap, world.freeHelper = .ok
        { world with
          helper := .zero
          blocks := { world.blocks with heap := heap }
          helperCopies := [] } ∧
      Stored
        { world with
          helper := .zero
          blocks := { world.blocks with heap := heap }
          helperCopies := [] } := by
  obtain ⟨heap, hfree, haccounts⟩ := tbcTransportStorageFreeFields_keeps h.accountsHelper
  refine ⟨heap, ?_, ?_⟩
  · rw [StoringClient.freeHelper, hfree]
    rfl
  · exact {
      accounts := by
        show Accounts heap (_ + (_ + buffers .zero))
        rw [buffers_zero, Multiset.add_zero, Multiset.add_comm]
        exact haccounts
      wrapper := h.wrapper
      helper := rfl
      cleared := h.cleared
      once := h.once
      connecting := h.connecting }

theorem fillWrapper (h : Stored world) (hempty : world.wrapperCopies = []) (copied : CopiedConfig)
    {tbcm : Tbcm} (hcall : tbcm.call.pending = none) :
    Stored ((world.fillWrapper copied).setTbcm tbcm) ∧
      ((world.fillWrapper copied).setTbcm tbcm).blocks.lost = world.blocks.lost ∧
      ((world.fillWrapper copied).setTbcm tbcm).helper = world.helper := by
  obtain ⟨haccounts, hcontents, hlost⟩ := tbcTransportStorageFill_keeps h.accounts copied
  have hnone : ∀ field, world.wrapper.pointers field = none := by
    intro field
    have hwrapper := h.wrapper
    rw [hempty] at hwrapper
    have hcontent : content world.wrapper.pointers field = none :=
      congrFun (congrArg TbcTransportStorage.pointers hwrapper) field
    exact Option.map_eq_none_iff.mp hcontent
  refine ⟨?_, ?_, rfl⟩
  · exact {
      accounts := haccounts
      wrapper := by
        show (tbcTransportStorageFillFromConfig _ _ _ _).1.contents = _
        rw [hcontents, h.wrapper]
        rfl
      helper := h.helper
      cleared := fun hne => absurd hcall hne
      once := by
        show (copied :: world.wrapperCopies).length ≤ 1
        rw [hempty]
        exact Nat.le_refl 1
      connecting := h.connecting }
  · exact hlost.trans (by rw [owned_eq_zero fun field _ => hnone field, Multiset.add_zero])

theorem fillHelper (h : Stored world) (copied : CopiedConfig) :
    Stored (world.fillHelper copied) ∧
      (world.fillHelper copied).blocks.lost = world.blocks.lost
        + owned world.helper.pointers (transportFields.filter fun field =>
            (field.source copied.config.toTbcTransportConfig).isSome) := by
  obtain ⟨haccounts, hcontents, hlost⟩ := tbcTransportStorageFill_keeps h.accountsHelper copied
  constructor
  · exact {
      accounts := by
        have heq : ∀ helper lost wrapper : Multiset Nat,
            wrapper + (lost + helper) = helper + (lost + wrapper) := by
          intro helper lost wrapper
          abel
        show Accounts _ (_ + (_ + _))
        rw [heq]
        exact haccounts
      wrapper := h.wrapper
      helper := by
        show (tbcTransportStorageFillFromConfig _ _ _ _).1.contents = _
        rw [hcontents, h.helper]
        rfl
      cleared := h.cleared
      once := h.once
      connecting := h.connecting }
  · exact hlost

theorem setClient (h : Stored world) {client : Tbcmh}
    (hpending : client.tbcm.call.pending ≠ none → world.client.tbcm.call.pending ≠ none) :
    Stored (world.setClient client) where
  accounts := h.accounts
  wrapper := h.wrapper
  helper := h.helper
  cleared := fun hne => h.cleared (hpending hne)
  once := h.once
  connecting := h.connecting

end Stored

/-! ## Steps -/

theorem pending_disconnect (destroy stops : Bool) (tbcm : Tbcm) :
    (tbcm.disconnect destroy stops).call.pending = none := by
  unfold Tbcm.disconnect Tbcm.disconnectReturn
  cases destroy <;> split_ifs <;> rfl

theorem pending_clientDestroy (succeeds destroy : Bool) (tbcm : Tbcm) :
    (tbcm.clientDestroy succeeds destroy).call.pending = none := by
  unfold Tbcm.clientDestroy Tbcm.disconnectReturn
  cases succeeds <;> cases destroy <;> rfl

theorem pending_storesNothing {tbcm tbcm' : Tbcm} {input : TbcmInput}
    (hstores : input.storesNothing = true) (hmove : TbcmMove tbcm input tbcm')
    (hpending : tbcm'.call.pending ≠ none) : tbcm.call.pending ≠ none := by
  cases hmove with
  | clientInit succeeds onEvent hcall | clientStart succeeds onEvent hcall =>
    rw [hcall]
    simp [TbcmCall.pending]
  | mqttEvent handle event hhandle =>
    cases event with
    | data emits => cases emits <;> exact hpending
    | connected | disconnected | other => exact hpending
  | responseTimer htimer => exact hpending
  | connect | connectReturn | disconnect | clientDestroy | destroy | destroyReturn =>
    exact absurd hstores (by simp [TbcmInput.storesNothing])

/-- What a step comes to: it keeps the records and loses what it is said to lose, or it faults without a
    buffer that was freed being used. -/
def StepKeeps (world : StoringClient) (input : StoringInput) :
    Except StoringFault StoringClient → Prop
  | .ok world' => Stored world' ∧ world'.blocks.lost = world.blocks.lost + world.loses input
  | .error fault => ∀ misuse, fault ≠ .buffer misuse

section Steps

variable {world : StoringClient}

theorem Stored.stepKeeps_setClient (h : Stored world) {input : StoringInput}
    (hloses : world.loses input = 0) {client : Tbcmh}
    (hpending : client.tbcm.call.pending ≠ none → world.client.tbcm.call.pending ≠ none) :
    StepKeeps world input (.ok (world.setClient client)) :=
  ⟨h.setClient hpending, by rw [hloses, Multiset.add_zero]; rfl⟩

theorem Stored.stepKeeps_freeHelper (h : Stored world) (input : StoringInput)
    (hloses : world.loses input = 0) (client : Tbcmh)
    (hpending : client.tbcm.call.pending ≠ none → world.client.tbcm.call.pending ≠ none) :
    StepKeeps world input (world.freeHelper.bind fun cleared => .ok (cleared.setClient client)) := by
  obtain ⟨heap, hfree, hstored⟩ := h.freeHelper
  rw [hfree]
  exact ⟨hstored.setClient hpending, by rw [hloses, Multiset.add_zero]; rfl⟩

theorem storingStep_connect (h : Stored world) (config : LoggedTransportConfig) :
    StepKeeps world (.connect config) (storingStep world (.connect config)) := by
  simp only [storingStep]
  split_ifs with hcall hstate hschema
  · exact ⟨h, (Multiset.add_zero _).symm⟩
  · exact fun _ => by simp
  · obtain ⟨heap, hfree, hstored⟩ := h.freeWrapper
    rw [hfree]
    refine ⟨?_, (Multiset.add_zero _).symm⟩
    exact {
      accounts := hstored.accounts
      wrapper := hstored.wrapper
      helper := hstored.helper
      cleared := fun _ => rfl
      once := hstored.once
      connecting := by
        intro connecting heq
        obtain rfl := Option.some.inj heq
        exact hschema }
  · exact fun _ => by simp

theorem storingStep_connectReturn (h : Stored world)
    (wrapperAllocated helperAllocated : TransportField → Bool) :
    StepKeeps world (.connectReturn wrapperAllocated helperAllocated)
      (storingStep world (.connectReturn wrapperAllocated helperAllocated)) := by
  simp only [storingStep]
  split
  · rename_i onEvent config hcall hconnecting
    have hempty := h.cleared (by rw [hcall]; simp [TbcmCall.pending])
    have hreturned : (world.client.tbcm.connectReturn onEvent).call.pending = none := rfl
    obtain ⟨hwrapper, hlost, hsame⟩ :=
      h.fillWrapper hempty ⟨config, wrapperAllocated⟩ hreturned
    obtain ⟨hhelper, hlost'⟩ := hwrapper.fillHelper ⟨config, helperAllocated⟩
    rw [hlost, hsame] at hlost'
    refine ⟨hhelper, ?_⟩
    rw [hlost', StoringClient.loses, hconnecting]
  · exact fun _ => by simp

theorem storingStep_emptied (h : Stored world) (stops : Bool) :
    StepKeeps world (.emptied stops) (storingStep world (.emptied stops)) := by
  simp only [storingStep]
  split_ifs with hcall
  · split
    · exact h.stepKeeps_setClient rfl fun hne => absurd (pending_disconnect _ _ _) hne
    · exact h.stepKeeps_freeHelper (.emptied stops) rfl _ fun hne =>
        absurd (pending_disconnect _ _ _) hne
    · exact h.stepKeeps_freeHelper (.emptied stops) rfl _ fun hne => hne
    · exact fun _ => by simp
  · exact fun _ => by simp

theorem storingStep_clientDestroy (h : Stored world) (succeeds : Bool) :
    StepKeeps world (.clientDestroy succeeds) (storingStep world (.clientDestroy succeeds)) := by
  simp only [storingStep]
  split
  · cases succeeds with
    | true =>
      obtain ⟨heap, hfree, hstored⟩ := h.freeWrapper
      rw [if_pos rfl, hfree]
      exact ⟨hstored.setClient fun hne => absurd (pending_clientDestroy _ _ _) hne,
        (Multiset.add_zero _).symm⟩
    | false =>
      exact h.stepKeeps_setClient rfl fun hne => absurd (pending_clientDestroy _ _ _) hne
  · exact fun _ => by simp

theorem storingStep_destroyReturn (h : Stored world) :
    StepKeeps world .destroyReturn (storingStep world .destroyReturn) := by
  simp only [storingStep]
  split
  · refine ⟨?_, rfl⟩
    exact {
      accounts := by
        show Accounts _ (buffers .zero + (_ + (_ + _) + buffers .zero))
        rw [buffers_zero, Multiset.zero_add, Multiset.add_zero]
        have heq : world.blocks.lost + (world.wrapper.buffers + world.helper.buffers)
            = world.wrapper.buffers + (world.blocks.lost + world.helper.buffers) := by abel
        rw [heq]
        exact h.accounts
      wrapper := rfl
      helper := rfl
      cleared := fun _ => rfl
      once := Nat.zero_le 1
      connecting := h.connecting }
  · exact fun _ => by simp

/-- Every step keeps the records. -/
theorem storingStep_keeps (h : Stored world) (input : StoringInput) :
    StepKeeps world input (storingStep world input) := by
  cases input with
  | connect config => exact storingStep_connect h config
  | connectReturn wrapperAllocated helperAllocated =>
    exact storingStep_connectReturn h wrapperAllocated helperAllocated
  | disconnect =>
    simp only [storingStep]
    split_ifs with hcall
    · refine h.stepKeeps_setClient rfl ?_
      unfold Tbcmh.disconnect
      split <;> exact fun hne => hne
    · exact fun _ => by simp
  | destroy stops =>
    simp only [storingStep]
    split_ifs with hcall hstate
    · exact h.stepKeeps_setClient rfl fun hne => absurd (pending_disconnect _ _ _) hne
    · exact h.stepKeeps_setClient rfl fun hne => hne
    · exact fun _ => by simp
  | emptied stops => exact storingStep_emptied h stops
  | clientDestroy succeeds => exact storingStep_clientDestroy h succeeds
  | destroyReturn => exact storingStep_destroyReturn h
  | event input =>
    simp only [storingStep]
    split_ifs with hstores
    · cases hstep : tbcmStep world.client.tbcm input with
      | error _ => exact fun _ => by simp
      | ok tbcm =>
        exact h.stepKeeps_setClient rfl fun hne =>
          pending_storesNothing hstores (tbcmStep_move hstep) hne
    · exact fun _ => by simp

end Steps

/-! ## Runs -/

theorem stored_step {world world' : StoringClient} {input : StoringInput} (h : Stored world)
    (hstep : Succeeds storingStep world input world') :
    Stored world' ∧ world'.blocks.lost = world.blocks.lost + world.loses input := by
  have hkeeps := storingStep_keeps h input
  rw [show storingStep world input = .ok world' from hstep] at hkeeps
  exact hkeeps

theorem stored_of_run {inputs : List StoringInput} {world : StoringClient}
    (run : Run (Succeeds storingStep) storingInitialised inputs world) : Stored world :=
  run.invariant stored_storingInitialised fun _ _ _ h hstep => (stored_step h hstep).1

/-- In every run each live buffer stands under one name of one record, or is lost; the wrapper's record
    is empty or the configuration connected with last, the helper's is all configurations since it was
    freed, laid over each other; and no step uses a buffer that was freed. -/
theorem storedConfigs_of_run {inputs : List StoringInput} {world : StoringClient}
    (run : Run (Succeeds storingStep) storingInitialised inputs world) :
    Stored world ∧ ∀ input misuse, storingStep world input ≠ .error (.buffer misuse) := by
  have h := stored_of_run run
  refine ⟨h, ?_⟩
  intro input misuse hfault
  have hkeeps := storingStep_keeps h input
  rw [hfault] at hkeeps
  exact hkeeps misuse rfl

/-- The condition on a step: a connection finds the helper's record empty where its configuration is not,
    and the client is destroyed with both records empty. -/
def WhenFreed (world : StoringClient) : StoringInput → Prop
  | .connectReturn _ _ =>
    ∀ config, world.connecting = some config → ∀ field,
      (field.source config.toTbcTransportConfig).isSome → world.helper.pointers field = none
  | .destroyReturn =>
    ∀ field, world.wrapper.pointers field = none ∧ world.helper.pointers field = none
  | _ => True

theorem loses_eq_zero_iff (world : StoringClient) (input : StoringInput) :
    world.loses input = 0 ↔ WhenFreed world input := by
  cases input with
  | connectReturn wrapperAllocated helperAllocated =>
    unfold StoringClient.loses WhenFreed
    cases hconnecting : world.connecting with
    | none => simp
    | some config =>
      simp only [owned_eq_zero_iff, List.mem_filter, mem_transportFields, true_and,
        Option.some.injEq, forall_eq']
  | destroyReturn =>
    unfold StoringClient.loses WhenFreed
    rw [add_eq_zero_iff, buffers, buffers, owned_eq_zero_iff, owned_eq_zero_iff]
    simp only [mem_transportFields, true_implies]
    exact forall_and.symm
  | connect | disconnect | destroy | emptied | clientDestroy | event => exact ⟨fun _ => trivial, fun _ => rfl⟩

/-- A run loses no buffer exactly when all its steps meet the condition. -/
theorem lost_eq_zero_iff {inputs : List StoringInput} {world : StoringClient}
    (run : Run (Succeeds storingStep) storingInitialised inputs world) :
    world.blocks.lost = 0
      ↔ Run (within WhenFreed (Succeeds storingStep)) storingInitialised inputs world := by
  constructor
  · intro hzero
    induction run with
    | nil => exact .nil
    | snoc run taken ih =>
      rename_i inputs input mid last
      rw [(stored_step (stored_of_run run) taken).2, add_eq_zero_iff] at hzero
      exact .snoc (ih hzero.1) ⟨(loses_eq_zero_iff mid input).mp hzero.2, taken⟩
  · intro hrun
    clear run
    induction hrun with
    | nil => rfl
    | snoc run taken ih =>
      rename_i inputs input mid last
      have hstored := stored_of_run (run.mono fun _ _ _ hstep => hstep.2)
      rw [(stored_step hstored taken.2).2, ih, (loses_eq_zero_iff mid input).mpr taken.1]
      rfl

/-- The condition in terms of the calls: since the connection before, `tbcmh_disconnect` has run through
    when a connection is established, and when the client is destroyed `tbcm_disconnect` has too. -/
def WhenDisconnected (world : StoringClient) : StoringInput → Prop
  | .connectReturn _ _ => world.helperCopies = []
  | .destroyReturn => world.wrapperCopies = [] ∧ world.helperCopies = []
  | _ => True

theorem pointers_eq_none {storage : StoredTransport} {copies : List CopiedConfig}
    (h : storage.contents = laidOver copies) (hempty : copies = []) (field : TransportField) :
    storage.pointers field = none := by
  subst hempty
  have hcontent : content storage.pointers field = none :=
    congrFun (congrArg TbcTransportStorage.pointers h) field
  exact Option.map_eq_none_iff.mp hcontent

theorem WhenDisconnected.freed {world : StoringClient} {input : StoringInput} (h : Stored world)
    (hwhen : WhenDisconnected world input) : WhenFreed world input := by
  cases input with
  | connectReturn wrapperAllocated helperAllocated =>
    exact fun config _ field _ => pointers_eq_none h.helper hwhen field
  | destroyReturn =>
    exact fun field =>
      ⟨pointers_eq_none h.wrapper hwhen.1 field, pointers_eq_none h.helper hwhen.2 field⟩
  | connect | disconnect | destroy | emptied | clientDestroy | event => trivial

/-- Where `tbcmh_disconnect` runs through between the connections and in front of the destruction,
    nothing is lost. -/
theorem lost_eq_zero_of_disconnected {inputs : List StoringInput} {world : StoringClient}
    (run : Run (within WhenDisconnected (Succeeds storingStep)) storingInitialised inputs world) :
    world.blocks.lost = 0 := by
  induction run with
  | nil => rfl
  | snoc run taken ih =>
    rename_i inputs input mid last
    have hstored := stored_of_run (run.mono fun _ _ _ hstep => hstep.2)
    have hfreed := WhenDisconnected.freed hstored taken.1
    rw [(stored_step hstored taken.2).2, ih, (loses_eq_zero_iff mid input).mpr hfreed]
    rfl

/-- A configuration for an access token. -/
def loggedConfig : LoggedTransportConfig where
  address :=
    { schema := some "mqtt"
      host := some "demo.thingsboard.io"
      port := 1883
      path := none }
  credentials :=
    { type := .accessToken
      clientId := none
      username := none
      password := none
      token := some "TOKEN" }
  verification :=
    { certPem := none
      certLen := 0
      skipCertCommonNameCheck := false }
  authentication :=
    { clientCertPem := none
      clientCertLen := 0
      clientKeyPem := none
      clientKeyLen := 0
      clientKeyPassword := none
      clientKeyPasswordLen := 0 }
  logRxtxPackage := true

/-- A connection that is established, where the helper has no memory for the token. -/
def storedConnection : List StoringInput :=
  [.connect loggedConfig, .event (.clientInit true), .event (.clientStart true),
    .connectReturn (fun _ => true) (fun field => decide (field ≠ .token)),
    .event (.mqttEvent 1 .connected)]

/-- It is closed, and the client is destroyed. -/
def closedConnection : List StoringInput :=
  [.disconnect, .emptied true, .clientDestroy true, .emptied true, .destroy true, .destroyReturn]

/-- The connection was lost when the client is destroyed. -/
def lostAndDestroyed : List StoringInput :=
  [.event (.mqttEvent 1 .disconnected), .destroy true, .clientDestroy true, .destroyReturn]

/-- The client behind a run. -/
def storedBehind (inputs : List StoringInput) : StoringClient :=
  inputs.foldl (advance storingStep) storingInitialised

theorem storedConfigs_storedConnection :
    Stored (storedBehind (storedConnection ++ closedConnection)) ∧
      ∀ input misuse, storingStep (storedBehind (storedConnection ++ closedConnection)) input
        ≠ .error (.buffer misuse) :=
  storedConfigs_of_run (run_of_succeeds (by decide +kernel))

theorem lost_closedConnection :
    (storedBehind (storedConnection ++ closedConnection)).blocks.lost = 0
      ↔ Run (within WhenFreed (Succeeds storingStep)) storingInitialised
          (storedConnection ++ closedConnection)
          (storedBehind (storedConnection ++ closedConnection)) :=
  lost_eq_zero_iff (run_of_succeeds (by decide +kernel))

/-- The helper's copies of the schema and the host are lost; the one of the token was not made. -/
example : (storedBehind (storedConnection ++ lostAndDestroyed)).blocks.lost.card = 2 := by
  decide +kernel

end ThingsboardMqtt
