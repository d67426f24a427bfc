import ThingsboardMqtt.Helper.Core
import ThingsboardMqtt.Library.Execution
import ThingsboardMqtt.Library.LiveBuffers

set_option autoImplicit false

/-! # The payload copies of queued events

The MQTT task hands an event to the user task through a queue of forty, with a copy of its payload
(`_on_tbcm_event_bridge_send`, `_on_tbcm_event_bridge_receive`, `tbc_mqtt_helper.c`). A copy belongs to
the call that sends it, then to the queue, then to the call of `tbcmh_run` that handles the event and
frees it.

There are two ways out on which a copy is not freed: a send that gives up, and the deletion of the
queue in `tbcmh_destroy`, which empties the queue before only if the client is not disconnected. In a
run without these, every copy is owned once (`ownedOnce_of_run`). -/

namespace ThingsboardMqtt

open Execution LiveBuffers

/-! ## States -/

/-- `event->data.payload`: the buffer of the MQTT client, or a copy. -/
inductive Payload
  | null
  | mqtt
  | copy (addr : Nat)
  deriving DecidableEq, Repr

/-- `tbcm_event_t`, as far as it says whether there is a payload. -/
structure BridgeEvent where
  isData : Bool
  payload : Payload
  payloadLen : Int
  deriving DecidableEq, Repr

/-- An event of the MQTT client. -/
def mqttEvent (isData hasBuffer : Bool) (payloadLen : Int) : BridgeEvent :=
  ⟨isData, if hasBuffer then .mqtt else .null, payloadLen⟩

/-- `TBCM_EVENT_CHECK_TIMEOUT` -/
def BridgeEvent.checkTimeout : BridgeEvent := ⟨false, .null, 0⟩

/-- The check in front of the copy and of its free. -/
def BridgeEvent.hasPayload (event : BridgeEvent) : Bool :=
  event.isData && event.payload ≠ .null && 0 < event.payloadLen

/-- `_on_tbcm_event_bridge_send` behind the copy: the variable `payload`, and how often `xQueueSend`
    was tried. -/
structure Sending where
  event : BridgeEvent
  payload : Option Nat
  tries : Nat
  deriving DecidableEq, Repr

/-- How far `tbcmh_disconnect` has come; `deleting` is `tbcmh_destroy` behind it. -/
inductive DisconnectPhase
  | emptying
  | stopping
  | stopped
  | deleting
  deriving DecidableEq, Repr

/-- A call of the user task: `tbcmh_run` in its round `i`, with the event it handles, or
    `tbcmh_disconnect`, which `tbcmh_destroy` calls. -/
inductive UserCall
  | run (i : Nat) (event : Option BridgeEvent)
  | disconnect (destroy : Bool) (phase : DisconnectPhase)
  deriving DecidableEq, Repr

/-- The bridge: the heap of the payload copies, `_xQueue`, the state of the connection, whether the
    task of the MQTT client runs, the send under way in it, and the calls of the user task, innermost
    first. -/
structure Bridge where
  heap : Heap
  queue : List BridgeEvent
  state : TbcmState
  mqttRuns : Bool
  sending : Option Sending
  calls : List UserCall
  destroyed : Bool

/-- `tbcmh_init` -/
def bridgeInit : Bridge where
  heap := .empty
  queue := []
  state := .disconnected
  mqttRuns := false
  sending := none
  calls := []
  destroyed := false

/-- The length of the queue. -/
def xQueueLength : Nat := 40

/-- How often a send is tried. -/
def sendTries : Nat := 20

/-- The rounds of `tbcmh_run`. -/
def runRounds : Nat := 10

/-- Why a step is not taken: nothing of the kind happens in this state, a copy is used or freed that was
    freed, or a buffer of the MQTT client is freed. -/
inductive BridgeHalt
  | disabled
  | buffer (fault : BufferFault)
  | foreign
  deriving DecidableEq, Repr

namespace Bridge

/-! ## The MQTT task -/

/-- `_on_tbcm_event_bridge_send`, up to the first `xQueueSend`. `memcpy` writes the copy. -/
def send (event : BridgeEvent) (allocated : Bool) (bridge : Bridge) : Except BridgeHalt Bridge :=
  if event.hasPayload then
    match bridge.heap.malloc allocated with
    | (none, heap) => .ok { bridge with heap := heap }
    | (some addr, heap) => do
      (heap.access addr).mapError .buffer
      .ok { bridge with
        heap := heap
        sending := some ⟨{ event with payload := .copy addr }, some addr, 0⟩ }
  else .ok { bridge with sending := some ⟨event, none, 0⟩ }

/-- One `xQueueSend`, and what follows when it was the last: the payload is freed if it is `NULL`. -/
def trySend (sending : Sending) (bridge : Bridge) : Except BridgeHalt Bridge :=
  if bridge.queue.length < xQueueLength then
    .ok { bridge with
      queue := bridge.queue ++ [sending.event]
      sending := none }
  else if sending.tries + 1 < sendTries then
    .ok { bridge with sending := some { sending with tries := sending.tries + 1 } }
  else do
    let heap ← if sending.payload.isNone then (bridge.heap.free sending.payload).mapError .buffer
      else .ok bridge.heap
    .ok { bridge with
      heap := heap
      sending := none }

/-- `__response_timer_timerout`, whose event has no payload. -/
def responseTimer (bridge : Bridge) : Bridge :=
  if bridge.queue.length < xQueueLength then
    { bridge with queue := bridge.queue ++ [.checkTimeout] }
  else bridge

/-! ## The user task -/

/-- The application may call the client: no call is under way, or a callback of an event is. -/
def inApplication (bridge : Bridge) : Bool :=
  match bridge.calls with
  | [] => true
  | .run _ event :: _ => event.isSome
  | .disconnect _ _ :: _ => false

/-- `xQueueReceive` in the loop of `_on_tbcm_event_bridge_receive`, and its end. -/
def receive (i : Nat) (calls : List UserCall) (bridge : Bridge) : Bridge :=
  if i < runRounds then
    match bridge.queue with
    | event :: queue =>
      { bridge with
        queue := queue
        calls := .run i (some event) :: calls }
    | [] => { bridge with calls := calls }
  else { bridge with calls := calls }

/-- `_on_tbcm_event_handle` reads the payload. -/
def readPayload (event : BridgeEvent) (bridge : Bridge) : Except BridgeHalt Bridge :=
  match event.payload with
  | .copy addr => do
    (bridge.heap.access addr).mapError .buffer
    .ok bridge
  | .mqtt | .null => .ok bridge

/-- `TBC_FREE(event.data.payload)` -/
def freePayload (payload : Payload) (heap : Heap) : Except BridgeHalt Heap :=
  match payload with
  | .copy addr => (heap.free (some addr)).mapError .buffer
  | .null => .ok heap
  | .mqtt => .error .foreign

/-- What becomes of the payload of an event that was handled. -/
def freeHandled (event : BridgeEvent) (heap : Heap) : Except BridgeHalt Heap :=
  if event.hasPayload then freePayload event.payload heap else .ok heap

/-- The rest of the round when the event is handled. -/
def handled (i : Nat) (event : BridgeEvent) (calls : List UserCall) (bridge : Bridge) :
    Except BridgeHalt Bridge := do
  let heap ← freeHandled event bridge.heap
  .ok { bridge with
    heap := heap
    calls := .run (i + 1) none :: calls }

/-- `tbcmh_disconnect`, also where `tbcmh_destroy` calls it, up to its first loop. -/
def disconnect (destroy : Bool) (bridge : Bridge) : Bridge :=
  if bridge.state = .disconnected then
    if destroy then { bridge with calls := .disconnect true .deleting :: bridge.calls } else bridge
  else { bridge with calls := .disconnect destroy .emptying :: bridge.calls }

/-- `while (tbcmh_has_events(client))`, and what follows the loop. -/
def emptyQueue (destroy : Bool) (phase : DisconnectPhase) (calls : List UserCall)
    (bridge : Bridge) : Except BridgeHalt Bridge :=
  match phase with
  | .emptying =>
    if bridge.queue.isEmpty then
      .ok { bridge with calls := .disconnect destroy .stopping :: calls }
    else .ok { bridge with calls := .run 0 none :: bridge.calls }
  | .stopped =>
    if bridge.queue.isEmpty then
      .ok { bridge with
        calls := if destroy then .disconnect true .deleting :: calls else calls }
    else .ok { bridge with calls := .run 0 none :: bridge.calls }
  | .stopping | .deleting => .error .disabled

/-- `tbcm_disconnect` in `tbcmh_disconnect`. `esp_mqtt_client_stop` waits for the task of the MQTT
    client; when it or `esp_mqtt_client_destroy` fails, the state is left. -/
def stop (stops destroys destroy : Bool) (calls : List UserCall) (bridge : Bridge) :
    Except BridgeHalt Bridge :=
  if bridge.mqttRuns && stops then
    if bridge.sending.isSome then .error .disabled
    else
      .ok { bridge with
        mqttRuns := false
        state := if destroys then .disconnected else bridge.state
        calls := .disconnect destroy .stopped :: calls }
  else .ok { bridge with calls := .disconnect destroy .stopped :: calls }

/-- `vQueueDelete(client->_xQueue)` and the rest of `tbcmh_destroy`. -/
def deleteQueue (bridge : Bridge) : Bridge :=
  { bridge with
    queue := []
    mqttRuns := false
    calls := []
    destroyed := true }

end Bridge

/-! ## Runs -/

/-- What may happen next: a step of the MQTT task or of the response timer, a call of the application,
    or the next statement of the call of the user task. -/
inductive BridgeInput
  | connect
  | mqttState (connected : Bool)
  | send (isData hasBuffer : Bool) (payloadLen : Int) (allocated : Bool)
  | trySend
  | responseTimer
  | run
  | receive
  | readPayload
  | handled
  | disconnect
  | destroy
  | emptyQueue
  | stop (stops destroys : Bool)
  | deleteQueue
  deriving DecidableEq, Repr

/-- A step of a client that was not destroyed. -/
def bridgeAct (bridge : Bridge) : BridgeInput → Except BridgeHalt Bridge
  | .connect =>
    if bridge.inApplication && bridge.state = .disconnected && !bridge.mqttRuns then
      .ok { bridge with state := .connecting, mqttRuns := true }
    else .error .disabled
  | .mqttState connected =>
    if bridge.mqttRuns && bridge.sending.isNone then
      .ok { bridge with state := if connected then .connected else .disconnected }
    else .error .disabled
  | .send isData hasBuffer payloadLen allocated =>
    if bridge.mqttRuns && bridge.sending.isNone then
      bridge.send (mqttEvent isData hasBuffer payloadLen) allocated
    else .error .disabled
  | .trySend =>
    match bridge.sending with
    | some sending => bridge.trySend sending
    | none => .error .disabled
  | .responseTimer => .ok bridge.responseTimer
  | .run =>
    if bridge.inApplication then .ok { bridge with calls := .run 0 none :: bridge.calls }
    else .error .disabled
  | .receive =>
    match bridge.calls with
    | .run i none :: calls => .ok (bridge.receive i calls)
    | _ => .error .disabled
  | .readPayload =>
    match bridge.calls with
    | .run _ (some event) :: _ => bridge.readPayload event
    | _ => .error .disabled
  | .handled =>
    match bridge.calls with
    | .run i (some event) :: calls => bridge.handled i event calls
    | _ => .error .disabled
  | .disconnect => if bridge.inApplication then .ok (bridge.disconnect false) else .error .disabled
  | .destroy =>
    if bridge.calls.isEmpty then .ok (bridge.disconnect true) else .error .disabled
  | .emptyQueue =>
    match bridge.calls with
    | .disconnect destroy phase :: calls => bridge.emptyQueue destroy phase calls
    | _ => .error .disabled
  | .stop stops destroys =>
    match bridge.calls with
    | .disconnect destroy .stopping :: calls => bridge.stop stops destroys destroy calls
    | _ => .error .disabled
  | .deleteQueue =>
    match bridge.calls with
    | [.disconnect true .deleting] => .ok bridge.deleteQueue
    | _ => .error .disabled

/-- One step. `tbcmh_destroy` is the last call. -/
def bridgeStep (bridge : Bridge) (input : BridgeInput) : Except BridgeHalt Bridge :=
  if bridge.destroyed then .error .disabled else bridgeAct bridge input

/-! ## Who owns the copies -/

/-- The copy in an event. -/
def BridgeEvent.copies (event : BridgeEvent) : List Nat :=
  match event.payload with
  | .copy addr => [addr]
  | .mqtt | .null => []

theorem copies_mqttEvent (isData hasBuffer : Bool) (payloadLen : Int) :
    (mqttEvent isData hasBuffer payloadLen).copies = [] := by
  cases hasBuffer <;> rfl

theorem BridgeEvent.exists_copy {event : BridgeEvent} (h : event.copies ≠ []) :
    ∃ addr, event.payload = .copy addr := by
  cases hpayload : event.payload with
  | copy addr => exact ⟨addr, rfl⟩
  | mqtt | null => exact absurd (by rw [copies, hpayload]) h

/-- The payload of an event is a copy if the event has a payload, and only then. -/
def BridgeEvent.Copied (event : BridgeEvent) : Prop :=
  event.hasPayload = true ↔ event.copies ≠ []

/-- The event that a call of the user task handles. -/
def UserCall.events : UserCall → List BridgeEvent
  | .run _ event => event.toList
  | .disconnect _ _ => []

namespace Bridge

def queuedCopies (bridge : Bridge) : List Nat := bridge.queue.flatMap (·.copies)

def sendingEvents (bridge : Bridge) : List BridgeEvent := bridge.sending.toList.map (·.event)

/-- The events between the MQTT task and the application. -/
def events (bridge : Bridge) : List BridgeEvent :=
  bridge.queue ++ bridge.sendingEvents ++ bridge.calls.flatMap (·.events)

end Bridge

/-- What the bridge promises: between two calls, the live copies are the payloads of the queued events
    that have one, each of one event; no step is a fault; and no copy outlives the client. -/
structure OwnedOnce (bridge : Bridge) : Prop where
  queued : bridge.sending = none → bridge.calls = [] → bridge.destroyed = false →
    bridge.heap.live = bridge.queuedCopies.toFinset
  copied : ∀ event ∈ bridge.queue, event.Copied
  distinct : bridge.queuedCopies.Nodup
  safe : ∀ input halt, bridgeStep bridge input = .error halt → halt = .disabled
  destroyed : bridge.destroyed = true → bridge.heap.live = ∅

/-- A send that is given up frees nothing. -/
theorem Bridge.trySend_succeeds (sending : Sending) (bridge : Bridge) :
    ∃ bridge', bridge.trySend sending = .ok bridge' := by
  unfold Bridge.trySend
  split
  · exact ⟨_, rfl⟩
  · split
    · exact ⟨_, rfl⟩
    · cases sending.payload <;> exact ⟨_, rfl⟩

/-- The condition on a step: no send of a copy is given up, and when the queue is deleted while the task
    of the MQTT client runs, there is no copy in the queue or in a send. -/
def KeepsCopies (bridge : Bridge) : BridgeInput → Prop
  | .trySend => ∀ sending ∈ bridge.sending, sending.payload ≠ none →
      bridge.queue.length < xQueueLength ∨ sending.tries + 1 < sendTries
  | .deleteQueue => bridge.mqttRuns = true →
      bridge.queuedCopies = [] ∧ bridge.sendingEvents.flatMap (·.copies) = []
  | _ => True

instance : ∀ bridge input, Decidable (KeepsCopies bridge input)
  | bridge, .trySend => inferInstanceAs (Decidable (∀ sending ∈ bridge.sending,
      sending.payload ≠ none → bridge.queue.length < xQueueLength ∨ sending.tries + 1 < sendTries))
  | bridge, .deleteQueue => inferInstanceAs (Decidable (bridge.mqttRuns = true →
      bridge.queuedCopies = [] ∧ bridge.sendingEvents.flatMap (·.copies) = []))
  | _, .connect | _, .mqttState _ | _, .send .. | _, .responseTimer | _, .run | _, .receive
  | _, .readPayload | _, .handled | _, .disconnect | _, .destroy | _, .emptyQueue | _, .stop .. =>
    inferInstanceAs (Decidable True)

/-! ## Events and their copies -/

/-- The live copies are those of some events, each of one, and the payloads of these are copies. -/
structure HeldBy (heap : Heap) (events : List BridgeEvent) : Prop where
  accounts : Accounts heap ↑(events.flatMap (·.copies))
  copied : ∀ event ∈ events, event.Copied

namespace HeldBy

variable {heap : Heap} {event : BridgeEvent} {events events' : List BridgeEvent}

theorem perm (h : HeldBy heap events) (hperm : events.Perm events') : HeldBy heap events' where
  accounts := by
    rw [← Multiset.coe_eq_coe.mpr (hperm.flatMap_right _)]
    exact h.accounts
  copied := by
    intro event hmem
    exact h.copied event (hperm.mem_iff.mpr hmem)

theorem cons (h : HeldBy heap events) (hcopied : event.Copied) (hcopies : event.copies = []) :
    HeldBy heap (event :: events) where
  accounts := by
    rw [List.flatMap_cons, hcopies]
    exact h.accounts
  copied := List.forall_mem_cons.mpr ⟨hcopied, h.copied⟩

theorem tail (h : HeldBy heap (event :: events)) (hcopies : event.copies = []) :
    HeldBy heap events where
  accounts := by
    have haccounts := h.accounts
    rwa [List.flatMap_cons, hcopies] at haccounts
  copied := (List.forall_mem_cons.mp h.copied).2

theorem malloc (h : HeldBy heap events) (hpayload : event.hasPayload = true) :
    ∃ addr heap', heap.malloc true = (some addr, heap') ∧ heap'.access addr = .ok () ∧
      HeldBy heap' ({ event with payload := .copy addr } :: events) := by
  obtain ⟨addr, heap', hmalloc, haccounts⟩ := h.accounts.malloc
  refine ⟨addr, heap', hmalloc, haccounts.access, haccounts, ?_⟩
  refine List.forall_mem_cons.mpr ⟨?_, h.copied⟩
  simp only [BridgeEvent.hasPayload, Bool.and_eq_true] at hpayload
  simp [BridgeEvent.Copied, BridgeEvent.hasPayload, BridgeEvent.copies, hpayload.1.1, hpayload.2]

theorem access (h : HeldBy heap (event :: events)) {addr : Nat}
    (hcopies : event.copies = [addr]) : heap.access addr = .ok () := by
  have haccounts := h.accounts
  rw [List.flatMap_cons, hcopies, List.singleton_append, ← Multiset.cons_coe] at haccounts
  exact haccounts.access

theorem free (h : HeldBy heap (event :: events)) :
    ∃ heap', Bridge.freeHandled event heap = .ok heap' ∧ HeldBy heap' events := by
  have hcopied := h.copied event List.mem_cons_self
  by_cases hhas : event.hasPayload = true
  · obtain ⟨addr, hpayload⟩ := BridgeEvent.exists_copy (hcopied.mp hhas)
    have hcopies : event.copies = [addr] := by rw [BridgeEvent.copies, hpayload]
    have haccounts := h.accounts
    rw [List.flatMap_cons, hcopies, List.singleton_append, ← Multiset.cons_coe] at haccounts
    obtain ⟨heap', hfree, hrest⟩ := haccounts.free
    refine ⟨heap', ?_, hrest, (List.forall_mem_cons.mp h.copied).2⟩
    rw [Bridge.freeHandled, if_pos hhas, hpayload, Bridge.freePayload, hfree]
    rfl
  · have hcopies : event.copies = [] := by
      by_contra hcopies
      exact hhas (hcopied.mpr hcopies)
    exact ⟨heap, if_neg hhas, h.tail hcopies⟩

end HeldBy

/-! ## The invariant -/

/-- The events between the two tasks hold the live copies. Without the task of the MQTT client the queue
    has no copies, unless `tbcmh_disconnect` is in its second loop. -/
structure Owns (bridge : Bridge) : Prop where
  heldBy : HeldBy bridge.heap bridge.events
  sending : ∀ sending ∈ bridge.sending, sending.payload.toList = sending.event.copies
  stopped : bridge.destroyed = false → bridge.mqttRuns = false → bridge.sending = none ∧
    (bridge.queuedCopies = [] ∨ ∃ destroy, .disconnect destroy .stopped ∈ bridge.calls)
  destroyed : bridge.destroyed = true → bridge.events.flatMap (·.copies) = []

theorem owns_bridgeInit : Owns bridgeInit where
  heldBy := ⟨Accounts.empty, by simp [Bridge.events, Bridge.sendingEvents, bridgeInit]⟩
  sending := by simp [bridgeInit]
  stopped := fun _ _ => ⟨rfl, .inl rfl⟩
  destroyed := fun _ => rfl

/-- A step is not possible, or it keeps the invariant. -/
def KeepsOwns (result : Except BridgeHalt Bridge) : Prop :=
  result = .error .disabled ∨ ∃ bridge', result = .ok bridge' ∧ Owns bridge'

theorem keepsOwns_ite {condition : Prop} [Decidable condition] {result : Except BridgeHalt Bridge}
    (h : condition → KeepsOwns result) :
    KeepsOwns (if condition then result else .error .disabled) := by
  split
  · rename_i hcondition
    exact h hcondition
  · exact .inl rfl

namespace Owns

variable {bridge : Bridge}

/-- The MQTT task runs while a send is under way. -/
theorem mqttRuns_of_sending (h : Owns bridge) (halive : bridge.destroyed = false)
    {sending : Sending} (hsending : bridge.sending = some sending) : bridge.mqttRuns = true := by
  by_contra hstopped
  rw [Bool.not_eq_true] at hstopped
  rw [(h.stopped halive hstopped).1] at hsending
  contradiction

theorem of_runs {bridge' : Bridge} (hheld : HeldBy bridge'.heap bridge'.events)
    (hsending : ∀ sending ∈ bridge'.sending, sending.payload.toList = sending.event.copies)
    (halive : bridge'.destroyed = false) (hruns : bridge'.mqttRuns = true) : Owns bridge' where
  heldBy := hheld
  sending := hsending
  stopped := by simp [hruns]
  destroyed := by simp [halive]

/-- The copy is live while its event is handled. -/
theorem readPayload (h : Owns bridge) {i : Nat} {event : BridgeEvent} {calls : List UserCall}
    (hcalls : bridge.calls = .run i (some event) :: calls) : KeepsOwns (bridge.readPayload event) := by
  right
  refine ⟨bridge, ?_, h⟩
  unfold Bridge.readPayload
  split
  · rename_i addr hpayload
    have hevents : bridge.events
        = bridge.queue ++ bridge.sendingEvents ++ event :: calls.flatMap (·.events) := by
      simp [Bridge.events, hcalls, UserCall.events]
    have hheld := h.heldBy
    rw [hevents] at hheld
    have hcopies : event.copies = [addr] := by rw [BridgeEvent.copies, hpayload]
    rw [(hheld.perm List.perm_middle).access hcopies]
    rfl
  · rfl
  · rfl

section Steps

variable (h : Owns bridge) (halive : bridge.destroyed = false)

include h halive

theorem send (hruns : bridge.mqttRuns = true) (hidle : bridge.sending = none) {event : BridgeEvent}
    (hcopies : event.copies = []) (allocated : Bool) : KeepsOwns (bridge.send event allocated) := by
  have hsent : ∀ event : BridgeEvent, (event :: bridge.events).Perm
      (bridge.queue ++ [event] ++ bridge.calls.flatMap (·.events)) := by
    intro event
    have hevents : bridge.events = bridge.queue ++ bridge.calls.flatMap (·.events) := by
      simp [Bridge.events, Bridge.sendingEvents, hidle]
    rw [hevents, List.append_assoc, List.singleton_append]
    exact List.perm_middle.symm
  right
  unfold Bridge.send
  cases hhas : event.hasPayload with
  | true =>
    cases allocated with
    | false => exact ⟨bridge, rfl, h⟩
    | true =>
      obtain ⟨addr, heap, hmalloc, haccess, hheld⟩ := h.heldBy.malloc hhas
      simp only [if_true, hmalloc, haccess]
      refine ⟨_, rfl, of_runs (hheld.perm (hsent _)) ?_ halive hruns⟩
      rintro sending hmem
      obtain rfl := Option.some.inj hmem
      rfl
  | false =>
    have hcopied : event.Copied := by simp [BridgeEvent.Copied, hhas, hcopies]
    refine ⟨_, rfl, of_runs ((h.heldBy.cons hcopied hcopies).perm (hsent _)) ?_ halive hruns⟩
    rintro sending hmem
    obtain rfl := Option.some.inj hmem
    exact hcopies.symm

/-- The last try of a send is in time, or there is nothing to free. -/
theorem trySend {sending : Sending} (hsending : bridge.sending = some sending)
    (hkeeps : sending.payload ≠ none →
      bridge.queue.length < xQueueLength ∨ sending.tries + 1 < sendTries) :
    KeepsOwns (bridge.trySend sending) := by
  have hruns := h.mqttRuns_of_sending halive hsending
  have hevents : bridge.events
      = bridge.queue ++ [sending.event] ++ bridge.calls.flatMap (·.events) := by
    simp [Bridge.events, Bridge.sendingEvents, hsending]
  have hheld := h.heldBy
  rw [hevents] at hheld
  right
  unfold Bridge.trySend
  split
  · refine ⟨_, rfl, of_runs ?_ (by simp) halive hruns⟩
    simpa [Bridge.events, Bridge.sendingEvents] using hheld
  · rename_i hfull
    split
    · refine ⟨_, rfl, of_runs ?_ ?_ halive hruns⟩
      · simpa [Bridge.events, Bridge.sendingEvents] using hheld
      · rintro next hmem
        obtain rfl := Option.some.inj hmem
        exact h.sending sending hsending
    · -- the send is given up
      rename_i hlast
      have hnone : sending.payload = none := by
        by_contra hpayload
        exact (hkeeps hpayload).elim hfull hlast
      have hcopies : sending.event.copies = [] := by
        rw [← h.sending sending hsending, hnone]
        rfl
      rw [hnone]
      refine ⟨_, rfl, of_runs ?_ (by simp) halive hruns⟩
      rw [List.append_assoc, List.singleton_append] at hheld
      simpa [Bridge.events, Bridge.sendingEvents] using
        (hheld.perm List.perm_middle).tail hcopies

theorem responseTimer : Owns bridge.responseTimer := by
  unfold Bridge.responseTimer
  split
  · have hcopied : BridgeEvent.checkTimeout.Copied := by
      simp [BridgeEvent.Copied, BridgeEvent.hasPayload, BridgeEvent.copies,
        BridgeEvent.checkTimeout]
    have hqueued : (bridge.queue ++ [BridgeEvent.checkTimeout]).flatMap (·.copies)
        = bridge.queuedCopies := by
      rw [List.flatMap_append]
      exact List.append_nil _
    refine ⟨?_, h.sending, ?_, ?_⟩
    · refine (h.heldBy.cons hcopied rfl).perm ?_
      simp only [Bridge.events, Bridge.sendingEvents, List.append_assoc]
      exact List.perm_middle.symm
    · intro _ hstopped
      obtain ⟨hsending, hqueue⟩ := h.stopped halive hstopped
      refine ⟨hsending, hqueue.imp_left ?_⟩
      intro hnone
      rw [Bridge.queuedCopies, hqueued, hnone]
    · simp [halive]
  · exact h

theorem of_calls {calls : List UserCall}
    (hevents : calls.flatMap (·.events) = bridge.calls.flatMap (·.events))
    (hstopped : (∃ destroy, .disconnect destroy .stopped ∈ bridge.calls) →
      bridge.queuedCopies = [] ∨ ∃ destroy, .disconnect destroy .stopped ∈ calls) :
    Owns { bridge with calls := calls } where
  heldBy := by
    have hheld := h.heldBy
    rw [Bridge.events, ← hevents] at hheld
    exact hheld
  sending := h.sending
  stopped := by
    intro _ hruns
    obtain ⟨hsending, hqueue⟩ := h.stopped halive hruns
    exact ⟨hsending, hqueue.elim .inl hstopped⟩
  destroyed := by simp [halive]

theorem receive {i : Nat} {calls : List UserCall} (hcalls : bridge.calls = .run i none :: calls) :
    Owns (bridge.receive i calls) := by
  have hreturn : Owns { bridge with calls := calls } := by
    refine h.of_calls halive (by simp [hcalls, UserCall.events]) ?_
    rintro ⟨destroy, hmem⟩
    rw [hcalls] at hmem
    exact .inr ⟨destroy, by simpa using hmem⟩
  unfold Bridge.receive
  split
  · split
    · rename_i event queue hqueue
      have hevents : bridge.events
          = event :: (queue ++ bridge.sendingEvents ++ calls.flatMap (·.events)) := by
        simp [Bridge.events, hqueue, hcalls, UserCall.events]
      refine ⟨?_, h.sending, ?_, by simp [halive]⟩
      · have hheld := h.heldBy
        rw [hevents] at hheld
        refine hheld.perm ?_
        simp only [Bridge.events, List.flatMap_cons, UserCall.events, Option.toList_some]
        exact List.perm_middle.symm
      · intro _ hstopped
        obtain ⟨hsending, hnone | ⟨destroy, hmem⟩⟩ := h.stopped halive hstopped
        · refine ⟨hsending, .inl ?_⟩
          rw [Bridge.queuedCopies, hqueue, List.flatMap_cons, List.append_eq_nil_iff] at hnone
          exact hnone.2
        · rw [hcalls] at hmem
          exact ⟨hsending, .inr ⟨destroy, by simpa using hmem⟩⟩
    · exact hreturn
  · exact hreturn

theorem handled {i : Nat} {event : BridgeEvent} {calls : List UserCall}
    (hcalls : bridge.calls = .run i (some event) :: calls) :
    KeepsOwns (bridge.handled i event calls) := by
  right
  have hevents : bridge.events
      = bridge.queue ++ bridge.sendingEvents ++ event :: calls.flatMap (·.events) := by
    simp [Bridge.events, hcalls, UserCall.events]
  have hheld := h.heldBy
  rw [hevents] at hheld
  obtain ⟨heap, hfree, hrest⟩ := (hheld.perm List.perm_middle).free
  have hhandled : bridge.handled i event calls
      = .ok { bridge with heap := heap, calls := .run (i + 1) none :: calls } := by
    rw [Bridge.handled, hfree]
    rfl
  refine ⟨_, hhandled, ?_, h.sending, ?_, by simp [halive]⟩
  · simpa [Bridge.events, Bridge.sendingEvents, UserCall.events] using hrest
  · intro _ hstopped
    obtain ⟨hsending, hqueue⟩ := h.stopped halive hstopped
    refine ⟨hsending, hqueue.imp_right ?_⟩
    rintro ⟨destroy, hmem⟩
    rw [hcalls] at hmem
    exact ⟨destroy, by simpa using hmem⟩

theorem call {next : UserCall} (hnext : next.events = []) :
    Owns { bridge with calls := next :: bridge.calls } := by
  refine h.of_calls halive (by rw [List.flatMap_cons, hnext, List.nil_append]) ?_
  rintro ⟨destroy, hmem⟩
  exact .inr ⟨destroy, List.mem_cons_of_mem _ hmem⟩

theorem disconnect (destroy : Bool) : Owns (bridge.disconnect destroy) := by
  unfold Bridge.disconnect
  split
  · split
    · exact h.call halive rfl
    · exact h
  · exact h.call halive rfl

theorem emptyQueue {destroy : Bool} {phase : DisconnectPhase} {calls : List UserCall}
    (hcalls : bridge.calls = .disconnect destroy phase :: calls) :
    KeepsOwns (bridge.emptyQueue destroy phase calls) := by
  unfold Bridge.emptyQueue
  cases phase with
  | emptying =>
    right
    dsimp only
    split
    · refine ⟨_, rfl, h.of_calls halive (by simp [hcalls, UserCall.events]) ?_⟩
      rintro ⟨destroy', hmem⟩
      rw [hcalls] at hmem
      exact .inr ⟨destroy', by simpa using hmem⟩
    · exact ⟨_, rfl, h.call halive rfl⟩
  | stopped =>
    right
    dsimp only
    split
    · rename_i hempty
      have hnone : bridge.queuedCopies = [] := by
        rw [Bridge.queuedCopies, List.isEmpty_iff.mp hempty]
        rfl
      refine ⟨_, rfl, h.of_calls halive ?_ fun _ => .inl hnone⟩
      cases destroy <;> simp [hcalls, UserCall.events]
    · exact ⟨_, rfl, h.call halive rfl⟩
  | stopping | deleting => exact .inl rfl

/-- The MQTT task is stopped when it is in no send. -/
theorem stop {destroy : Bool} {calls : List UserCall}
    (hcalls : bridge.calls = .disconnect destroy .stopping :: calls) (stops destroys : Bool) :
    KeepsOwns (bridge.stop stops destroys destroy calls) := by
  have hstopped : Owns { bridge with calls := .disconnect destroy .stopped :: calls } :=
    h.of_calls halive (by simp [hcalls, UserCall.events])
      fun _ => .inr ⟨destroy, List.mem_cons_self⟩
  unfold Bridge.stop
  split
  · split
    · exact .inl rfl
    · rename_i hidle
      right
      refine ⟨_, rfl, hstopped.heldBy, h.sending, ?_, by simp [halive]⟩
      intro _ _
      exact ⟨by simpa using hidle, .inr ⟨destroy, List.mem_cons_self⟩⟩
  · exact .inr ⟨_, rfl, hstopped⟩

/-- The queue is deleted without a copy in it. -/
theorem deleteQueue (hcalls : bridge.calls = [.disconnect true .deleting])
    (hkeeps : bridge.mqttRuns = true →
      bridge.queuedCopies = [] ∧ bridge.sendingEvents.flatMap (·.copies) = []) :
    Owns bridge.deleteQueue := by
  have hnone : bridge.queuedCopies = [] ∧ bridge.sendingEvents.flatMap (·.copies) = [] := by
    cases hruns : bridge.mqttRuns with
    | true => exact hkeeps hruns
    | false =>
      obtain ⟨hsending, hqueue | ⟨destroy, hmem⟩⟩ := h.stopped halive hruns
      · exact ⟨hqueue, by simp [Bridge.sendingEvents, hsending]⟩
      · simp [hcalls] at hmem
  have hevents : bridge.events.flatMap (·.copies) = [] := by
    rw [Bridge.events, List.flatMap_append, List.flatMap_append, hnone.2, hcalls]
    exact congrArg (· ++ [] ++ []) hnone.1
  have hafter : bridge.deleteQueue.events = bridge.sendingEvents := by
    simp [Bridge.deleteQueue, Bridge.events, Bridge.sendingEvents]
  refine ⟨⟨?_, ?_⟩, h.sending, by simp [Bridge.deleteQueue], ?_⟩
  · rw [hafter, hnone.2, ← hevents]
    exact h.heldBy.accounts
  · intro event hmem
    rw [hafter] at hmem
    refine h.heldBy.copied event ?_
    simp [Bridge.events, hmem]
  · intro _
    rw [hafter]
    exact hnone.2

end Steps

/-- A step that loses no copy keeps the invariant. -/
theorem step (h : Owns bridge) {input : BridgeInput} (hkeeps : KeepsCopies bridge input) :
    KeepsOwns (bridgeStep bridge input) := by
  unfold bridgeStep
  split
  · exact .inl rfl
  rename_i hlive
  have halive : bridge.destroyed = false := by simpa using hlive
  have hdisabled : KeepsOwns (.error .disabled) := .inl rfl
  cases input with
  | connect => exact keepsOwns_ite fun _ => .inr ⟨_, rfl, of_runs h.heldBy h.sending halive rfl⟩
  | mqttState connected =>
    exact keepsOwns_ite fun _ => .inr ⟨_, rfl, h.heldBy, h.sending, h.stopped, h.destroyed⟩
  | send isData hasBuffer payloadLen allocated =>
    refine keepsOwns_ite ?_
    intro hready
    rw [Bool.and_eq_true, Option.isNone_iff_eq_none] at hready
    exact h.send halive hready.1 hready.2 (copies_mqttEvent isData hasBuffer payloadLen) allocated
  | trySend =>
    simp only [bridgeAct]
    split
    · rename_i sending hsending
      exact h.trySend halive hsending (hkeeps sending hsending)
    · exact hdisabled
  | responseTimer => exact .inr ⟨_, rfl, h.responseTimer halive⟩
  | run => exact keepsOwns_ite fun _ => .inr ⟨_, rfl, h.call halive rfl⟩
  | receive =>
    simp only [bridgeAct]
    split
    · rename_i hcalls
      exact .inr ⟨_, rfl, h.receive halive hcalls⟩
    · exact hdisabled
  | readPayload =>
    simp only [bridgeAct]
    split
    · rename_i hcalls
      exact h.readPayload hcalls
    · exact hdisabled
  | handled =>
    simp only [bridgeAct]
    split
    · rename_i hcalls
      exact h.handled halive hcalls
    · exact hdisabled
  | disconnect => exact keepsOwns_ite fun _ => .inr ⟨_, rfl, h.disconnect halive false⟩
  | destroy => exact keepsOwns_ite fun _ => .inr ⟨_, rfl, h.disconnect halive true⟩
  | emptyQueue =>
    simp only [bridgeAct]
    split
    · rename_i hcalls
      exact h.emptyQueue halive hcalls
    · exact hdisabled
  | stop stops destroys =>
    simp only [bridgeAct]
    split
    · rename_i hcalls
      exact h.stop halive hcalls stops destroys
    · exact hdisabled
  | deleteQueue =>
    simp only [bridgeAct]
    split
    · rename_i hcalls
      exact .inr ⟨_, rfl, h.deleteQueue halive hcalls hkeeps⟩
    · exact hdisabled

/-- A step that loses a copy is no fault either. -/
theorem safe (h : Owns bridge) {input : BridgeInput} {halt : BridgeHalt}
    (herror : bridgeStep bridge input = .error halt) : halt = .disabled := by
  by_cases hkeeps : KeepsCopies bridge input
  · rcases h.step hkeeps with hresult | ⟨bridge', hresult, -⟩
    · exact (Except.error.inj (hresult.symm.trans herror)).symm
    · rw [hresult] at herror
      contradiction
  · unfold bridgeStep at herror
    split at herror
    · exact (Except.error.inj herror).symm
    cases input with
    | trySend =>
      simp only [bridgeAct] at herror
      split at herror
      · rename_i sending _
        obtain ⟨bridge', hresult⟩ := bridge.trySend_succeeds sending
        rw [hresult] at herror
        contradiction
      · exact (Except.error.inj herror).symm
    | deleteQueue =>
      simp only [bridgeAct] at herror
      split at herror
      · contradiction
      · exact (Except.error.inj herror).symm
    | _ => exact absurd trivial hkeeps

/-- What the invariant says between two calls and behind the last one. -/
theorem ownedOnce (h : Owns bridge) : OwnedOnce bridge where
  queued := by
    intro hsending hcalls _
    have hevents : bridge.events = bridge.queue := by
      simp [Bridge.events, Bridge.sendingEvents, hsending, hcalls]
    have haccounts := h.heldBy.accounts
    rw [hevents] at haccounts
    ext addr
    rw [List.mem_toFinset, ← Finset.mem_val, haccounts]
    exact Multiset.mem_coe
  copied := by
    intro event hmem
    refine h.heldBy.copied event ?_
    simp [Bridge.events, hmem]
  distinct := by
    have hnodup := Multiset.coe_nodup.mp h.heldBy.accounts.nodup
    simp only [Bridge.events, List.flatMap_append, List.append_assoc] at hnodup
    exact hnodup.of_append_left
  safe := fun _ _ => h.safe
  destroyed := by
    intro hdestroyed
    have haccounts := h.heldBy.accounts
    rw [h.destroyed hdestroyed] at haccounts
    exact Finset.val_eq_zero.mp haccounts

end Owns

/-! ## Runs that lose no copy -/

/-- In every run in which no send of a copy is given up, and the queue is deleted without a copy in it
    where the MQTT task still runs, every copy is owned once. -/
theorem ownedOnce_of_run {inputs : List BridgeInput} {bridge : Bridge}
    (run : Run (within KeepsCopies (Succeeds bridgeStep)) bridgeInit inputs bridge) :
    OwnedOnce bridge := by
  refine Owns.ownedOnce (run.invariant owns_bridgeInit ?_)
  rintro mid input next howns ⟨hkeeps, hstep⟩
  rcases howns.step hkeeps with hresult | ⟨next', hresult, hnext⟩
  · rw [Succeeds, hresult] at hstep
    contradiction
  · rw [Succeeds, hresult] at hstep
    obtain rfl := Except.ok.inj hstep
    exact hnext

/-- A payload is handled, and another is in the queue when the client is destroyed. -/
def sentAndHandled : List BridgeInput :=
  [.connect, .mqttState true, .send true true 12 true, .trySend, .run, .receive, .readPayload,
    .handled, .receive, .send true true 7 true, .trySend, .destroy, .emptyQueue, .receive,
    .readPayload, .handled, .receive, .emptyQueue, .stop true true, .emptyQueue, .deleteQueue]

theorem ownedOnce_of_run_sentAndHandled :
    OwnedOnce (sentAndHandled.foldl (advance bridgeStep) bridgeInit) :=
  ownedOnce_of_run (run_of_allowed (by decide +kernel))

/-- The connection is lost before the payload is handled, and the client is destroyed. -/
def sentAndDisconnected : List BridgeInput :=
  [.connect, .mqttState true, .send true true 12 true, .trySend, .mqttState false, .destroy,
    .deleteQueue]

/-- Forty events without a payload fill the queue, and a payload is sent. -/
def sentToFullQueue : List BridgeInput :=
  [.connect, .mqttState true] ++ (List.replicate 40 [.send false false 0 true, .trySend]).flatten
    ++ [.send true true 12 true] ++ List.replicate 20 .trySend

/-- A copy outlives the client. Another is live in no event. -/
theorem ownedOnce_fails :
    (∃ bridge, Run (Succeeds bridgeStep) bridgeInit sentAndDisconnected bridge ∧
      ¬ OwnedOnce bridge) ∧
    ∃ bridge, Run (Succeeds bridgeStep) bridgeInit sentToFullQueue bridge ∧
      ¬ OwnedOnce bridge := by
  constructor
  · refine ⟨_, run_of_succeeds (by decide +kernel), ?_⟩
    intro h
    exact absurd (h.destroyed (by decide +kernel)) (by decide +kernel)
  · refine ⟨_, run_of_succeeds (by decide +kernel), ?_⟩
    intro h
    exact absurd (h.queued (by decide +kernel) (by decide +kernel) (by decide +kernel))
      (by decide +kernel)

end ThingsboardMqtt
