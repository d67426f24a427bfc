import Mathlib.Data.List.Basic
import ThingsboardMqtt.Helper.Core
import ThingsboardMqtt.Library.Execution

set_option autoImplicit false

/-! # The connection and the event callback

`tbcm_init`, `tbcm_connect`, `tbcm_disconnect` and `tbcm_destroy` (`tbc_mqtt_wapper.c`) with what may
happen between their statements. An esp-mqtt client has a task of its own from
`esp_mqtt_client_start` to `esp_mqtt_client_stop`, and the response timer runs from the first
`CONNECTED` event to `tbcm_destroy`. Both call `client->on_event`, which `tbcm_connect` sets only
behind `esp_mqtt_client_start`, and which `tbcm_disconnect` clears while the timer runs on.

`call` says how far a call has come: each of its values is a place where an event or a tick may come
in. `called` records the pointers `client->on_event` was called through, which the code does not
have. -/

namespace ThingsboardMqtt

open Execution

/-- `tbcm_on_event_t`: the address of a callback. -/
abbrev TbcmOnEvent := Nat

/-- What a call under way has done. `tbcm_destroy` goes through `tbcm_disconnect`. -/
inductive TbcmCall
  | idle
  | connectCleared (onEvent : Option TbcmOnEvent)
  | connectInitialised (onEvent : Option TbcmOnEvent)
  | connectStarted (onEvent : Option TbcmOnEvent)
  | disconnectStopped (destroy : Bool)
  | destroyDisconnected
  | destroyed
  deriving DecidableEq, Repr

/-- `tbcm_t` with the esp-mqtt clients: `live` are initialised and not destroyed, `started` have a task
    that runs. -/
structure Tbcm where
  mqttHandle : Option Nat
  onEvent : Option TbcmOnEvent
  state : TbcmState
  responseTimer : Bool
  live : List Nat
  started : List Nat
  lastHandle : Nat
  call : TbcmCall
  called : List (Option TbcmOnEvent)
  deriving DecidableEq, Repr

/-- The events of an esp-mqtt client. `emits` says whether `_on_mqtt_data_handle` has a whole payload
    and a topic it knows. -/
inductive MqttEvent
  | connected
  | disconnected
  | data (emits : Bool)
  | other
  deriving DecidableEq, Repr

/-! ## The C functions -/

/-- `tbcm_init` -/
def tbcmInit : Tbcm where
  mqttHandle := none
  onEvent := none
  state := .disconnected
  responseTimer := false
  live := []
  started := []
  lastHandle := 0
  call := .idle
  called := []

namespace Tbcm

/-- `client->on_event(&dst_event)` -/
def callOnEvent (client : Tbcm) : Tbcm :=
  { client with called := client.called ++ [client.onEvent] }

/-- `tbcm_connect`, up to `esp_mqtt_client_init`. -/
def connect (onEvent : Option TbcmOnEvent) (client : Tbcm) : Tbcm :=
  { client with
    onEvent := none
    state := .disconnected
    call := .connectCleared onEvent }

/-- `client->mqtt_handle = esp_mqtt_client_init(&mqtt_cfg)` -/
def clientInit (succeeds : Bool) (onEvent : Option TbcmOnEvent) (client : Tbcm) : Tbcm :=
  if succeeds then
    { client with
      mqttHandle := some (client.lastHandle + 1)
      live := client.live ++ [client.lastHandle + 1]
      lastHandle := client.lastHandle + 1
      call := .connectInitialised onEvent }
  else { client with mqttHandle := none, call := .idle }

/-- `esp_mqtt_client_start(client->mqtt_handle)`, and what undoes the initialisation when it fails. -/
def clientStart (succeeds : Bool) (onEvent : Option TbcmOnEvent) (client : Tbcm) : Tbcm :=
  if succeeds then
    { client with
      started := client.started ++ client.mqttHandle.toList
      call := .connectStarted onEvent }
  else
    { client with
      mqttHandle := none
      live := client.live.filter (some · ≠ client.mqttHandle)
      call := .idle }

/-- The end of `tbcm_connect`. -/
def connectReturn (onEvent : Option TbcmOnEvent) (client : Tbcm) : Tbcm :=
  { client with onEvent := onEvent, state := .connecting, call := .idle }

/-- The rest of `tbcm_destroy` behind `tbcm_disconnect`, or the return of `tbcm_disconnect`. -/
def disconnectReturn (destroy : Bool) (client : Tbcm) : Tbcm :=
  if destroy then { client with mqttHandle := none, call := .destroyDisconnected }
  else { client with call := .idle }

/-- `tbcm_disconnect` up to `esp_mqtt_client_stop`. `destroy` says that `tbcm_destroy` calls it. -/
def disconnect (destroy stops : Bool) (client : Tbcm) : Tbcm :=
  if client.mqttHandle = none then client.disconnectReturn destroy
  else if stops then
    { client with
      started := client.started.filter (some · ≠ client.mqttHandle)
      call := .disconnectStopped destroy }
  else client.disconnectReturn destroy

/-- `esp_mqtt_client_destroy(client->mqtt_handle)` and the rest of `tbcm_disconnect`. -/
def clientDestroy (succeeds destroy : Bool) (client : Tbcm) : Tbcm :=
  if succeeds then
    disconnectReturn destroy
      { client with
        live := client.live.filter (some · ≠ client.mqttHandle)
        mqttHandle := none
        onEvent := none
        state := .disconnected }
  else client.disconnectReturn destroy

/-- The end of `tbcm_destroy`: the timer is stopped, and the client is freed. -/
def destroyReturn (client : Tbcm) : Tbcm :=
  { client with responseTimer := false, call := .destroyed }

end Tbcm

/-- `_on_mqtt_event_handle` -/
def onMqttEventHandle (event : MqttEvent) (client : Tbcm) : Tbcm :=
  match event with
  | .connected => { client with state := .connected, responseTimer := true }.callOnEvent
  | .disconnected => { client with state := .disconnected }.callOnEvent
  | .data emits => if emits then client.callOnEvent else client
  | .other => client.callOnEvent

/-- `__response_timer_timerout` -/
def responseTimerTimerout (client : Tbcm) : Tbcm := client.callOnEvent

/-! ## Runs -/

/-- A call, what a statement of the call under way comes to, an event of a started esp-mqtt client or a
    tick of the response timer. -/
inductive TbcmInput
  | connect (onEvent : Option TbcmOnEvent)
  | clientInit (succeeds : Bool)
  | clientStart (succeeds : Bool)
  | connectReturn
  | disconnect (stops : Bool)
  | clientDestroy (succeeds : Bool)
  | destroy (stops : Bool)
  | destroyReturn
  | mqttEvent (handle : Nat) (event : MqttEvent)
  | responseTimer
  deriving DecidableEq, Repr

/-- The input cannot come in this state. -/
inductive Disabled
  | disabled
  deriving DecidableEq, Repr

/-- One step. A call is made when no other is under way. -/
def tbcmStep (client : Tbcm) (input : TbcmInput) : Except Disabled Tbcm :=
  match input, client.call with
  | .connect onEvent, .idle => .ok (client.connect onEvent)
  | .clientInit succeeds, .connectCleared onEvent => .ok (client.clientInit succeeds onEvent)
  | .clientStart succeeds, .connectInitialised onEvent => .ok (client.clientStart succeeds onEvent)
  | .connectReturn, .connectStarted onEvent => .ok (client.connectReturn onEvent)
  | .disconnect stops, .idle => .ok (client.disconnect false stops)
  | .clientDestroy succeeds, .disconnectStopped destroy => .ok (client.clientDestroy succeeds destroy)
  | .destroy stops, .idle => .ok (client.disconnect true stops)
  | .destroyReturn, .destroyDisconnected => .ok client.destroyReturn
  | .mqttEvent handle event, _ =>
    if handle ∈ client.started then .ok (onMqttEventHandle event client) else .error .disabled
  | .responseTimer, _ =>
    if client.responseTimer then .ok (responseTimerTimerout client) else .error .disabled
  | _, _ => .error .disabled

/-- What a step does. -/
inductive TbcmMove (client : Tbcm) : TbcmInput → Tbcm → Prop
  | connect (onEvent : Option TbcmOnEvent) (hcall : client.call = .idle) :
    TbcmMove client (.connect onEvent) (client.connect onEvent)
  | clientInit (succeeds : Bool) (onEvent : Option TbcmOnEvent)
      (hcall : client.call = .connectCleared onEvent) :
    TbcmMove client (.clientInit succeeds) (client.clientInit succeeds onEvent)
  | clientStart (succeeds : Bool) (onEvent : Option TbcmOnEvent)
      (hcall : client.call = .connectInitialised onEvent) :
    TbcmMove client (.clientStart succeeds) (client.clientStart succeeds onEvent)
  | connectReturn (onEvent : Option TbcmOnEvent) (hcall : client.call = .connectStarted onEvent) :
    TbcmMove client .connectReturn (client.connectReturn onEvent)
  | disconnect (stops : Bool) (hcall : client.call = .idle) :
    TbcmMove client (.disconnect stops) (client.disconnect false stops)
  | clientDestroy (succeeds destroy : Bool) (hcall : client.call = .disconnectStopped destroy) :
    TbcmMove client (.clientDestroy succeeds) (client.clientDestroy succeeds destroy)
  | destroy (stops : Bool) (hcall : client.call = .idle) :
    TbcmMove client (.destroy stops) (client.disconnect true stops)
  | destroyReturn (hcall : client.call = .destroyDisconnected) :
    TbcmMove client .destroyReturn client.destroyReturn
  | mqttEvent (handle : Nat) (event : MqttEvent) (hhandle : handle ∈ client.started) :
    TbcmMove client (.mqttEvent handle event) (onMqttEventHandle event client)
  | responseTimer (htimer : client.responseTimer = true) :
    TbcmMove client .responseTimer (responseTimerTimerout client)

theorem tbcmStep_move {client client' : Tbcm} {input : TbcmInput}
    (hok : tbcmStep client input = .ok client') : TbcmMove client input client' := by
  unfold tbcmStep at hok
  split at hok
  case h_9 handle event =>
    split at hok
    · rename_i hhandle
      obtain rfl := Except.ok.inj hok
      exact .mqttEvent handle event hhandle
    · exact absurd hok (by simp)
  case h_10 =>
    split at hok
    · rename_i htimer
      obtain rfl := Except.ok.inj hok
      exact .responseTimer htimer
    · exact absurd hok (by simp)
  case h_11 => exact absurd hok (by simp)
  -- the statements of a call
  all_goals
    rename_i hcall
    obtain rfl := Except.ok.inj hok
    constructor
    exact hcall

/-! ## Whether the callback is set -/

/-- The callback that `tbcm_connect` will set, while it is under way. -/
def TbcmCall.pending : TbcmCall → Option (Option TbcmOnEvent)
  | .connectCleared onEvent | .connectInitialised onEvent | .connectStarted onEvent => some onEvent
  | _ => none

/-- There is an MQTT client, and no `tbcm_connect` is under way. -/
def Tbcm.Established (client : Tbcm) : Prop :=
  client.mqttHandle ≠ none ∧ client.call.pending = none

/-- The condition on a step: events and ticks come while the connection is established, and
    `tbcm_connect` is given a callback. -/
def WhenEstablished (client : Tbcm) : TbcmInput → Prop
  | .connect onEvent => onEvent ≠ none
  | .mqttEvent _ _ | .responseTimer => client.Established
  | _ => True

instance (client : Tbcm) : Decidable client.Established :=
  inferInstanceAs (Decidable (_ ∧ _))

instance (client : Tbcm) (input : TbcmInput) : Decidable (WhenEstablished client input) :=
  match input with
  | .connect onEvent => inferInstanceAs (Decidable (onEvent ≠ none))
  | .mqttEvent _ _ | .responseTimer => inferInstanceAs (Decidable client.Established)
  | .clientInit _ | .clientStart _ | .connectReturn | .disconnect _ | .clientDestroy _ | .destroy _
  | .destroyReturn => inferInstanceAs (Decidable True)

/-- `client->on_event` was never `NULL` when it was called. -/
def CalledSet (client : Tbcm) : Prop := ∀ onEvent ∈ client.called, onEvent ≠ none

/-- The invariant: an established connection has its callback, and `tbcm_connect` has one to set. -/
structure CallbackKept (client : Tbcm) : Prop where
  called : CalledSet client
  established : client.Established → client.onEvent ≠ none
  pending : client.call.pending ≠ some none

theorem callbackKept_tbcmInit : CallbackKept tbcmInit where
  called := by simp [CalledSet, tbcmInit]
  established := fun h => absurd rfl h.1
  pending := by simp [tbcmInit, TbcmCall.pending]

namespace CallbackKept

variable {client client' : Tbcm}

theorem of_called (h : CallbackKept client) (hcalled : client'.called = client.called)
    (hestablished : client'.Established → client'.onEvent ≠ none)
    (hpending : client'.call.pending ≠ some none) : CallbackKept client' where
  called := by
    unfold CalledSet
    rw [hcalled]
    exact h.called
  established := hestablished
  pending := hpending

theorem callOnEvent (h : CallbackKept client) (hset : client.Established) :
    CallbackKept client.callOnEvent where
  called := by
    intro onEvent hmem
    rcases List.mem_append.mp hmem with hmem | hmem
    · exact h.called onEvent hmem
    · rw [List.mem_singleton.mp hmem]
      exact h.established hset
  established := h.established
  pending := h.pending

theorem disconnectReturn (h : CallbackKept client) (hcall : client.call.pending = none)
    (destroy : Bool) : CallbackKept (client.disconnectReturn destroy) := by
  unfold Tbcm.disconnectReturn
  split
  · exact h.of_called rfl (fun hset => absurd rfl hset.1) (by simp [TbcmCall.pending])
  · exact h.of_called rfl (fun hset => h.established ⟨hset.1, hcall⟩) (by simp [TbcmCall.pending])

theorem disconnect (h : CallbackKept client) (hcall : client.call.pending = none)
    (destroy stops : Bool) : CallbackKept (client.disconnect destroy stops) := by
  unfold Tbcm.disconnect
  split
  · exact h.disconnectReturn hcall destroy
  · split
    · exact h.of_called rfl (fun hset => h.established ⟨hset.1, hcall⟩) (by simp [TbcmCall.pending])
    · exact h.disconnectReturn hcall destroy

theorem clientDestroy (h : CallbackKept client) (hcall : client.call.pending = none)
    (succeeds destroy : Bool) : CallbackKept (client.clientDestroy succeeds destroy) := by
  unfold Tbcm.clientDestroy
  split
  · unfold Tbcm.disconnectReturn
    split
    · exact h.of_called rfl (fun hset => absurd rfl hset.1) (by simp [TbcmCall.pending])
    · exact h.of_called rfl (fun hset => absurd rfl hset.1) (by simp [TbcmCall.pending])
  · exact h.disconnectReturn hcall destroy

theorem of_connecting (h : CallbackKept client) (hcalled : client'.called = client.called)
    (hcall : client'.call.pending = client.call.pending ∨
      client'.mqttHandle = none ∧ client'.call = .idle)
    (hconnecting : client.call.pending ≠ none) : CallbackKept client' := by
  rcases hcall with hcall | ⟨hhandle, hcall⟩
  · exact h.of_called hcalled (fun hset => absurd (hcall.symm.trans hset.2) hconnecting)
      (hcall ▸ h.pending)
  · exact h.of_called hcalled (fun hset => absurd hhandle hset.1)
      (by rw [hcall]; simp [TbcmCall.pending])

theorem onMqttEventHandle (h : CallbackKept client) (hset : client.Established)
    (event : MqttEvent) : CallbackKept (onMqttEventHandle event client) := by
  cases event with
  | connected =>
    have hkept : CallbackKept { client with state := .connected, responseTimer := true } :=
      h.of_called rfl h.established h.pending
    exact hkept.callOnEvent hset
  | disconnected =>
    have hkept : CallbackKept { client with state := .disconnected } :=
      h.of_called rfl h.established h.pending
    exact hkept.callOnEvent hset
  | data emits =>
    cases emits with
    | true => exact h.callOnEvent hset
    | false => exact h
  | other => exact h.callOnEvent hset

end CallbackKept

/-- What a step that meets the condition preserves. -/
theorem callbackKept_step {client client' : Tbcm} {input : TbcmInput} (h : CallbackKept client)
    (hwhen : WhenEstablished client input) (hmove : TbcmMove client input client') :
    CallbackKept client' := by
  cases hmove with
  | connect onEvent hcall =>
    exact h.of_called rfl (fun hset => absurd hset.2 (by simp [Tbcm.connect, TbcmCall.pending]))
      fun hnone => hwhen (Option.some.inj hnone)
  | clientInit succeeds onEvent hcall =>
    refine h.of_connecting ?_ ?_ (by rw [hcall]; simp [TbcmCall.pending])
    · cases succeeds <;> rfl
    · rw [hcall]
      cases succeeds with
      | true => exact .inl rfl
      | false => exact .inr ⟨rfl, rfl⟩
  | clientStart succeeds onEvent hcall =>
    refine h.of_connecting ?_ ?_ (by rw [hcall]; simp [TbcmCall.pending])
    · cases succeeds <;> rfl
    · rw [hcall]
      cases succeeds with
      | true => exact .inl rfl
      | false => exact .inr ⟨rfl, rfl⟩
  | connectReturn onEvent hcall =>
    have hset : onEvent ≠ none := fun hnone => h.pending (by rw [hcall, hnone]; rfl)
    exact h.of_called rfl (fun _ => hset) (by simp [Tbcm.connectReturn, TbcmCall.pending])
  | disconnect stops hcall => exact h.disconnect (by rw [hcall]; rfl) false stops
  | clientDestroy succeeds destroy hcall =>
    exact h.clientDestroy (by rw [hcall]; rfl) succeeds destroy
  | destroy stops hcall => exact h.disconnect (by rw [hcall]; rfl) true stops
  | destroyReturn hcall =>
    exact h.of_called rfl (fun hset => h.established ⟨hset.1, by rw [hcall]; rfl⟩)
      (by simp [Tbcm.destroyReturn, TbcmCall.pending])
  | mqttEvent handle event hhandle => exact h.onMqttEventHandle hwhen event
  | responseTimer htimer => exact h.callOnEvent hwhen

/-- In a run whose steps all meet the condition, the callback is set whenever it is called. -/
theorem calledSet_of_run {inputs : List TbcmInput} {client : Tbcm}
    (run : Run (within WhenEstablished (Succeeds tbcmStep)) tbcmInit inputs client) :
    CalledSet client :=
  (run.invariant callbackKept_tbcmInit fun _ _ _ h hstep =>
    callbackKept_step h hstep.1 (tbcmStep_move hstep.2)).called

/-- A connection that is established, gets an event and is closed. -/
def plainConnection : List TbcmInput :=
  [.connect (some 1), .clientInit true, .clientStart true, .connectReturn, .mqttEvent 1 .connected,
    .responseTimer, .disconnect true, .clientDestroy true]

theorem calledSet_plainConnection :
    CalledSet (plainConnection.foldl (advance tbcmStep) tbcmInit) :=
  calledSet_of_run (run_of_allowed (by decide +kernel))

/-- The client's task runs before `tbcm_connect` has set the callback. -/
def earlyEvent : List TbcmInput :=
  [.connect (some 1), .clientInit true, .clientStart true, .mqttEvent 1 .other]

/-- The response timer runs on behind `tbcm_disconnect`. -/
def lateTick : List TbcmInput :=
  [.connect (some 1), .clientInit true, .clientStart true, .connectReturn, .mqttEvent 1 .connected,
    .disconnect true, .clientDestroy true, .responseTimer]

/-- A run of these inputs calls `NULL`. -/
def CallsNull (inputs : List TbcmInput) : Prop :=
  Run (Succeeds tbcmStep) tbcmInit inputs (inputs.foldl (advance tbcmStep) tbcmInit) ∧
    ¬ CalledSet (inputs.foldl (advance tbcmStep) tbcmInit)

theorem callsNull_of_called {inputs : List TbcmInput}
    (hallowed : allowed (fun _ _ => True) tbcmStep tbcmInit inputs = true)
    (hcalled : none ∈ (inputs.foldl (advance tbcmStep) tbcmInit).called) : CallsNull inputs :=
  ⟨run_of_succeeds hallowed, fun hset => hset none hcalled rfl⟩

/-- `MQTT_EVENT_BEFORE_CONNECT` behind `esp_mqtt_client_start` calls `NULL`, and so does a tick behind
    `tbcm_disconnect`. -/
theorem calledSet_fails_earlyEvent_lateTick : CallsNull earlyEvent ∧ CallsNull lateTick :=
  ⟨callsNull_of_called (by decide +kernel) (by decide +kernel),
    callsNull_of_called (by decide +kernel) (by decide +kernel)⟩

end ThingsboardMqtt
