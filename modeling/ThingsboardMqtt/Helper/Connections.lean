import ThingsboardMqtt.Wapper.Connection

set_option autoImplicit false

/-! # The MQTT clients of the helper

`tbcmh_connect`, `tbcmh_disconnect` and `tbcmh_destroy` (`tbc_mqtt_helper.c`) over the connection of
`tbc_mqtt_wapper.c`. Stopping and destroying an esp-mqtt client succeeds; initialising and starting
one may fail.

`tbcmh_disconnect` empties the queue in front of `tbcm_disconnect` and behind it, and the callbacks it
runs there may call the helper again: `emptying` is the stack of these loops. Both `tbcmh_connect` and
`tbcmh_disconnect` ask for the state, which the esp-mqtt client sets to `DISCONNECTED` when it is
about to connect again, and not for the handle. Where the two agree, there is never more than the one
client of the handle (`oneClient_of_run`). -/

namespace ThingsboardMqtt

open Execution

/-- A loop of `tbcmh_disconnect` that empties the queue. `destroy` says that `tbcmh_destroy` made the
    call. -/
inductive Emptying
  | inFront (destroy : Bool)
  | behind (destroy : Bool)
  deriving DecidableEq, Repr

/-- The client of the helper: its connection, the loops under way, the innermost first, and whether
    `tbcmh_disconnect` has returned since the last connection was begun. -/
structure Tbcmh where
  tbcm : Tbcm
  emptying : List Emptying
  disconnectReturned : Bool
  deriving DecidableEq, Repr

/-- `tbcmh_init` -/
def tbcmhInitialised : Tbcmh where
  tbcm := tbcmInit
  emptying := []
  disconnectReturned := false

/-- `_on_tbcm_event_bridge_send` -/
def onTbcmEventBridgeSend : TbcmOnEvent := 1

/-- A call of the helper, the end of a loop that empties the queue, or a step of the connection. -/
inductive TbcmhInput
  | connect
  | disconnect
  | destroy
  | emptied
  | tbcm (input : TbcmInput)
  deriving DecidableEq, Repr

/-- The steps of the connection that are no calls, where destroying an esp-mqtt client succeeds. -/
def TbcmInput.goesOn : TbcmInput → Bool
  | .clientInit _ | .clientStart _ | .connectReturn | .destroyReturn => true
  | .clientDestroy succeeds => succeeds
  | .mqttEvent _ _ | .responseTimer => true
  | .connect _ | .disconnect _ | .destroy _ => false

namespace Tbcmh

/-- `tbcmh_connect` -/
def connect (client : Tbcmh) : Tbcmh :=
  if client.tbcm.state ≠ .disconnected then client
  else
    { client with
      tbcm := client.tbcm.connect (some onTbcmEventBridgeSend)
      disconnectReturned := false }

/-- `tbcmh_disconnect`, up to the first loop. -/
def disconnect (client : Tbcmh) : Tbcmh :=
  if client.tbcm.state = .disconnected then { client with disconnectReturned := true }
  else { client with emptying := .inFront false :: client.emptying }

/-- `tbcmh_destroy`, up to the first loop of `tbcmh_disconnect`, or up to `esp_mqtt_client_stop` in
    `tbcm_destroy`. -/
def destroy (client : Tbcmh) : Tbcmh :=
  if client.tbcm.state = .disconnected then
    { client with tbcm := client.tbcm.disconnect true true }
  else { client with emptying := .inFront true :: client.emptying }

end Tbcmh

/-- One step. The helper is called by the application or by a callback that empties the queue. -/
def tbcmhStep (client : Tbcmh) : TbcmhInput → Except Disabled Tbcmh
  | .connect =>
    if client.tbcm.call = .idle then .ok client.connect else .error .disabled
  | .disconnect =>
    if client.tbcm.call = .idle then .ok client.disconnect else .error .disabled
  | .destroy =>
    if client.tbcm.call = .idle then .ok client.destroy else .error .disabled
  | .emptied =>
    if client.tbcm.call = .idle then
      match client.emptying with
      | .inFront destroy :: rest =>
        .ok { client with
          tbcm := client.tbcm.disconnect false true
          emptying := .behind destroy :: rest }
      | .behind true :: rest =>
        .ok { client with tbcm := client.tbcm.disconnect true true, emptying := rest }
      | .behind false :: rest =>
        .ok { client with emptying := rest, disconnectReturned := true }
      | [] => .error .disabled
    else .error .disabled
  | .tbcm input =>
    if input.goesOn then (tbcmStep client.tbcm input).map fun tbcm => { client with tbcm := tbcm }
    else .error .disabled

/-! ## One client -/

/-- As many clients are live as the handle says, and none behind `tbcmh_disconnect`, where none can send
    an event. -/
def OneClient (client : Tbcmh) : Prop :=
  client.tbcm.live.length = (if client.tbcm.mqttHandle.isSome then 1 else 0) ∧
    (client.disconnectReturned = true →
      client.tbcm.live.length = 0 ∧ client.tbcm.started = [])

/-- `tbcm_disconnect` was called by a loop of `tbcmh_disconnect` that is under way. -/
def Tbcmh.Behind (client : Tbcmh) : Prop := ∃ destroy, .behind destroy ∈ client.emptying

/-- The condition on a step: while the state is `DISCONNECTED`, `tbcmh_connect` and `tbcmh_disconnect`
    are called without a handle, and `tbcmh_connect` not by a callback that `tbcmh_disconnect` runs
    behind `tbcm_disconnect`. -/
def WhenStateTells (client : Tbcmh) : TbcmhInput → Prop
  | .connect =>
    client.tbcm.state = .disconnected → client.tbcm.mqttHandle = none ∧ ¬ client.Behind
  | .disconnect => client.tbcm.state = .disconnected → client.tbcm.mqttHandle = none
  | _ => True

instance (client : Tbcmh) : Decidable (OneClient client) :=
  inferInstanceAs (Decidable (_ ∧ _))

instance (client : Tbcmh) : Decidable client.Behind :=
  inferInstanceAs (Decidable (∃ _ : Bool, _))

instance (client : Tbcmh) (input : TbcmhInput) : Decidable (WhenStateTells client input) :=
  match input with
  | .connect => inferInstanceAs (Decidable (_ → _ ∧ _))
  | .disconnect => inferInstanceAs (Decidable (_ → _))
  | .destroy | .emptied | .tbcm _ => inferInstanceAs (Decidable True)

/-- No task of an esp-mqtt client runs at these places of a call. -/
def TbcmCall.resting : TbcmCall → Bool
  | .connectCleared _ | .connectInitialised _ | .disconnectStopped _ => true
  | _ => false

/-- The invariant: only the client of the handle is live, only its task runs, and where no client is
    expected there is no handle, or `tbcm_disconnect` is about to clear it. -/
structure HandleKept (client : Tbcmh) : Prop where
  live : client.tbcm.live = client.tbcm.mqttHandle.toList
  started : ∀ handle ∈ client.tbcm.started, client.tbcm.mqttHandle = some handle
  resting : client.tbcm.call.resting = true → client.tbcm.started = []
  cleared : ∀ onEvent, client.tbcm.call = .connectCleared onEvent → client.tbcm.mqttHandle = none
  returned : client.disconnectReturned = true → client.tbcm.mqttHandle = none
  connecting : client.tbcm.call.pending ≠ none →
    client.disconnectReturned = false ∧ ¬ client.Behind
  behind : client.Behind →
    client.tbcm.mqttHandle = none ∨ ∃ destroy, client.tbcm.call = .disconnectStopped destroy

theorem handleKept_tbcmhInitialised : HandleKept tbcmhInitialised where
  live := rfl
  started := fun _ hmem => absurd hmem List.not_mem_nil
  resting := fun _ => rfl
  cleared := fun _ _ => rfl
  returned := fun _ => rfl
  connecting := fun h => absurd rfl h
  behind := fun _ => .inl rfl

namespace HandleKept

variable {client : Tbcmh}

theorem live_of_none (h : HandleKept client) (hhandle : client.tbcm.mqttHandle = none) :
    client.tbcm.live = [] := by
  rw [h.live, hhandle]
  rfl

theorem started_of_none (h : HandleKept client) (hhandle : client.tbcm.mqttHandle = none) :
    client.tbcm.started = [] :=
  List.eq_nil_iff_forall_not_mem.mpr fun handle hmem =>
    absurd (hhandle.symm.trans (h.started handle hmem)) (by simp)

theorem oneClient (h : HandleKept client) : OneClient client := by
  unfold OneClient
  constructor
  · rw [h.live]
    cases client.tbcm.mqttHandle <;> rfl
  · intro hreturned
    have hhandle := h.returned hreturned
    exact ⟨by rw [h.live_of_none hhandle]; rfl, h.started_of_none hhandle⟩

theorem of_none (hlive : client.tbcm.live = []) (hstarted : client.tbcm.started = [])
    (hhandle : client.tbcm.mqttHandle = none) (hcall : client.tbcm.call.pending = none) :
    HandleKept client where
  live := by
    rw [hlive, hhandle]
    rfl
  started := fun _ hmem => absurd hmem (by simp [hstarted])
  resting := fun _ => hstarted
  cleared := fun _ _ => hhandle
  returned := fun _ => hhandle
  connecting := fun hne => absurd hcall hne
  behind := fun _ => .inl hhandle

/-- The call of `tbcm_disconnect`, whatever loops are under way. -/
theorem tbcmDisconnect (h : HandleKept client) (destroy : Bool) (emptying : List Emptying) :
    HandleKept { client with
      tbcm := client.tbcm.disconnect destroy true
      emptying := emptying } := by
  by_cases hhandle : client.tbcm.mqttHandle = none
  · have hreturn : client.tbcm.disconnect destroy true = client.tbcm.disconnectReturn destroy := by
      rw [Tbcm.disconnect, if_pos hhandle]
    rw [hreturn]
    cases destroy with
    | true => exact of_none (h.live_of_none hhandle) (h.started_of_none hhandle) rfl rfl
    | false => exact of_none (h.live_of_none hhandle) (h.started_of_none hhandle) hhandle rfl
  · -- only the client of the handle has run
    have hstopped : client.tbcm.started.filter (some · ≠ client.tbcm.mqttHandle) = [] := by
      refine List.filter_eq_nil_iff.mpr ?_
      intro handle hmem
      simp [h.started handle hmem]
    have hstop : client.tbcm.disconnect destroy true
        = { client.tbcm with started := [], call := .disconnectStopped destroy } := by
      rw [Tbcm.disconnect, if_neg hhandle, if_pos rfl, hstopped]
    rw [hstop]
    exact {
      live := h.live
      started := fun _ hmem => absurd hmem List.not_mem_nil
      resting := fun _ => rfl
      cleared := fun _ hcleared => absurd hcleared (by simp)
      returned := h.returned
      connecting := fun hne => absurd rfl hne
      behind := fun _ => .inr ⟨destroy, rfl⟩ }

theorem of_handle (h : HandleKept client) {tbcm : Tbcm} (hlive : tbcm.live = client.tbcm.live)
    (hstarted : tbcm.started = client.tbcm.started)
    (hhandle : tbcm.mqttHandle = client.tbcm.mqttHandle) (hcall : tbcm.call = client.tbcm.call) :
    HandleKept { client with tbcm := tbcm } where
  live := by
    show tbcm.live = tbcm.mqttHandle.toList
    rw [hlive, hhandle]
    exact h.live
  started := fun handle hmem => hhandle.trans (h.started handle (hstarted ▸ hmem))
  resting := fun hresting => hstarted.trans (h.resting (hcall ▸ hresting))
  cleared := fun onEvent hcleared => hhandle.trans (h.cleared onEvent (hcall.symm.trans hcleared))
  returned := fun hreturned => hhandle.trans (h.returned hreturned)
  connecting := fun hne => h.connecting (hcall ▸ hne)
  behind := fun hbehind => (h.behind hbehind).imp hhandle.trans
    fun ⟨destroy, hstopped⟩ => ⟨destroy, hcall.trans hstopped⟩

theorem of_connecting (h : HandleKept client) (hconnecting : client.tbcm.call.pending ≠ none)
    {tbcm : Tbcm} (hlive : tbcm.live = client.tbcm.live)
    (hstarted : ∀ handle ∈ tbcm.started, client.tbcm.mqttHandle = some handle)
    (hhandle : tbcm.mqttHandle = client.tbcm.mqttHandle) (hcall : tbcm.call.resting = false) :
    HandleKept { client with tbcm := tbcm } where
  live := by
    show tbcm.live = tbcm.mqttHandle.toList
    rw [hlive, hhandle]
    exact h.live
  started := fun handle hmem => hhandle.trans (hstarted handle hmem)
  resting := fun hresting => absurd (hcall.symm.trans hresting) (by simp)
  cleared := by
    intro onEvent hcleared
    rw [show tbcm.call = _ from hcleared] at hcall
    exact absurd hcall (by simp [TbcmCall.resting])
  returned := fun hreturned => hhandle.trans (h.returned hreturned)
  connecting := fun _ => h.connecting hconnecting
  behind := fun hbehind => absurd hbehind (h.connecting hconnecting).2

theorem of_idle (h : HandleKept client) (hcall : client.tbcm.call = .idle)
    {emptying : List Emptying} {disconnectReturned : Bool}
    (hreturned : disconnectReturned = true → client.tbcm.mqttHandle = none)
    (hbehind : (∃ destroy, .behind destroy ∈ emptying) → client.Behind) :
    HandleKept { client with emptying := emptying, disconnectReturned := disconnectReturned } where
  live := h.live
  started := h.started
  resting := h.resting
  cleared := h.cleared
  returned := hreturned
  connecting := fun hne => absurd (by rw [hcall]; rfl) hne
  behind := fun hb => h.behind (hbehind hb)

theorem inFront (h : HandleKept client) (hcall : client.tbcm.call = .idle) (destroy : Bool) :
    HandleKept { client with emptying := .inFront destroy :: client.emptying } := by
  refine h.of_idle hcall h.returned ?_
  rintro ⟨began, hmem⟩
  exact ⟨began, (List.mem_cons.mp hmem).resolve_left (by simp)⟩

theorem filter_live (h : HandleKept client) :
    client.tbcm.live.filter (some · ≠ client.tbcm.mqttHandle) = [] := by
  rw [h.live]
  cases hhandle : client.tbcm.mqttHandle with
  | none => rfl
  | some handle => simp

theorem tbcm (h : HandleKept client) {input : TbcmInput} {tbcm : Tbcm}
    (hgoesOn : input.goesOn = true) (hmove : TbcmMove client.tbcm input tbcm) :
    HandleKept { client with tbcm := tbcm } := by
  cases hmove with
  | connect | disconnect | destroy => exact absurd hgoesOn (by simp [TbcmInput.goesOn])
  | clientInit succeeds onEvent hcall =>
    have hhandle := h.cleared onEvent hcall
    have hlive := h.live_of_none hhandle
    have hstarted := h.started_of_none hhandle
    obtain ⟨hreturned, hbehind⟩ := h.connecting (by rw [hcall]; simp [TbcmCall.pending])
    cases succeeds with
    | true =>
      exact {
        live := by
          show client.tbcm.live ++ [client.tbcm.lastHandle + 1] = _
          rw [hlive]
          rfl
        started := fun handle hmem => absurd (hhandle.symm.trans (h.started handle hmem)) (by simp)
        resting := fun _ => hstarted
        cleared := fun _ hcleared => absurd hcleared (by simp [Tbcm.clientInit])
        returned := fun htrue => absurd htrue (by simp [hreturned])
        connecting := fun _ => ⟨hreturned, hbehind⟩
        behind := fun h => absurd h hbehind }
    | false => exact of_none hlive hstarted rfl rfl
  | clientStart succeeds onEvent hcall =>
    have hstarted := h.resting (by rw [hcall]; rfl)
    cases succeeds with
    | true =>
      refine h.of_connecting (by rw [hcall]; simp [TbcmCall.pending]) rfl ?_ rfl rfl
      intro handle hmem
      have hnew : handle ∈ client.tbcm.started ++ client.tbcm.mqttHandle.toList := hmem
      rw [hstarted, List.nil_append, Option.mem_toList] at hnew
      exact hnew
    | false => exact of_none h.filter_live hstarted rfl rfl
  | connectReturn onEvent hcall =>
    exact h.of_connecting (by rw [hcall]; simp [TbcmCall.pending]) rfl h.started rfl rfl
  | clientDestroy succeeds destroy hcall =>
    obtain rfl : succeeds = true := hgoesOn
    have hstarted := h.resting (by rw [hcall]; rfl)
    cases destroy with
    | true => exact of_none h.filter_live hstarted rfl rfl
    | false => exact of_none h.filter_live hstarted rfl rfl
  | destroyReturn hcall =>
    exact {
      live := h.live
      started := h.started
      resting := fun hresting => absurd hresting (by simp [Tbcm.destroyReturn, TbcmCall.resting])
      cleared := fun _ hcleared => absurd hcleared (by simp [Tbcm.destroyReturn])
      returned := h.returned
      connecting := fun hne => absurd rfl hne
      behind := fun hbehind => (h.behind hbehind).imp id (by
        rintro ⟨_, hstopped⟩
        exact absurd (hcall.symm.trans hstopped) (by simp)) }
  | mqttEvent handle event hhandle =>
    cases event with
    | data emits => cases emits <;> exact h.of_handle rfl rfl rfl rfl
    | connected | disconnected | other => exact h.of_handle rfl rfl rfl rfl
  | responseTimer htimer => exact h.of_handle rfl rfl rfl rfl

end HandleKept

/-- What a step that meets the condition preserves. -/
theorem handleKept_step {client client' : Tbcmh} {input : TbcmhInput} (h : HandleKept client)
    (hwhen : WhenStateTells client input) (hok : tbcmhStep client input = .ok client') :
    HandleKept client' := by
  cases input with
  | connect =>
    simp only [tbcmhStep] at hok
    split at hok
    · rename_i hcall
      obtain rfl := Except.ok.inj hok
      unfold Tbcmh.connect
      split
      · exact h
      · rename_i hstate
        obtain ⟨hhandle, hbehind⟩ := hwhen (Decidable.not_not.mp hstate)
        exact {
          live := h.live
          started := h.started
          resting := fun _ => h.started_of_none hhandle
          cleared := fun _ _ => hhandle
          returned := fun htrue => absurd htrue (by simp)
          connecting := fun _ => ⟨rfl, hbehind⟩
          behind := fun hb => absurd hb hbehind }
    · exact absurd hok (by simp)
  | disconnect =>
    simp only [tbcmhStep] at hok
    split at hok
    · rename_i hcall
      obtain rfl := Except.ok.inj hok
      unfold Tbcmh.disconnect
      split
      · rename_i hstate
        exact h.of_idle hcall (fun _ => hwhen hstate) fun hbehind => hbehind
      · exact h.inFront hcall false
    · exact absurd hok (by simp)
  | destroy =>
    simp only [tbcmhStep] at hok
    split at hok
    · rename_i hcall
      obtain rfl := Except.ok.inj hok
      unfold Tbcmh.destroy
      split
      · exact h.tbcmDisconnect true client.emptying
      · exact h.inFront hcall true
    · exact absurd hok (by simp)
  | emptied =>
    simp only [tbcmhStep] at hok
    split at hok
    · rename_i hcall
      split at hok
      · rename_i destroy rest hemptying
        obtain rfl := Except.ok.inj hok
        exact h.tbcmDisconnect false (.behind destroy :: rest)
      · rename_i rest hemptying
        obtain rfl := Except.ok.inj hok
        exact h.tbcmDisconnect true rest
      · rename_i rest hemptying
        obtain rfl := Except.ok.inj hok
        have hbehind : client.Behind := ⟨false, by simp [hemptying]⟩
        refine h.of_idle hcall ?_ ?_
        · intro _
          refine (h.behind hbehind).resolve_right ?_
          rintro ⟨_, hstopped⟩
          exact absurd (hcall.symm.trans hstopped) (by simp)
        · rintro ⟨destroy, hmem⟩
          exact ⟨destroy, hemptying ▸ List.mem_cons_of_mem _ hmem⟩
      · exact absurd hok (by simp)
    · exact absurd hok (by simp)
  | tbcm input =>
    simp only [tbcmhStep] at hok
    split at hok
    · rename_i hgoesOn
      cases hstep : tbcmStep client.tbcm input with
      | error _ => simp [hstep, Except.map] at hok
      | ok tbcm =>
        rw [hstep] at hok
        obtain rfl := Except.ok.inj hok
        exact h.tbcm hgoesOn (tbcmStep_move hstep)
    · exact absurd hok (by simp)

/-- In a run whose steps all meet the condition, there is at most the client of the handle. -/
theorem oneClient_of_run {inputs : List TbcmhInput} {client : Tbcmh}
    (run : Run (within WhenStateTells (Succeeds tbcmhStep)) tbcmhInitialised inputs client) :
    OneClient client :=
  (run.invariant handleKept_tbcmhInitialised fun _ _ _ h hstep =>
    handleKept_step h hstep.1 hstep.2).oneClient

/-- A connection that is established and closed, and a second one. -/
def plainReconnection : List TbcmhInput :=
  [.connect, .tbcm (.clientInit true), .tbcm (.clientStart true), .tbcm .connectReturn,
    .tbcm (.mqttEvent 1 .connected), .disconnect, .emptied, .tbcm (.clientDestroy true), .emptied,
    .connect, .tbcm (.clientInit true), .tbcm (.clientStart true), .tbcm .connectReturn]

theorem oneClient_plainReconnection :
    OneClient (plainReconnection.foldl (advance tbcmhStep) tbcmhInitialised) :=
  oneClient_of_run (run_of_allowed (by decide +kernel))

/-- A connection that was lost, and that esp-mqtt is about to establish again. -/
def lostConnection : List TbcmhInput :=
  [.connect, .tbcm (.clientInit true), .tbcm (.clientStart true), .tbcm .connectReturn,
    .tbcm (.mqttEvent 1 .connected), .tbcm (.mqttEvent 1 .disconnected)]

/-- `on_disconnected` calls `tbcmh_connect`, from the loop behind `tbcm_disconnect`. -/
def reconnectedBehind : List TbcmhInput :=
  [.connect, .tbcm (.clientInit true), .tbcm (.clientStart true), .tbcm .connectReturn,
    .disconnect, .emptied, .tbcm (.clientDestroy true), .connect, .tbcm (.clientInit true),
    .tbcm (.clientStart true), .tbcm .connectReturn, .emptied]

/-- A run of these inputs leaves more clients than one, or one too many. -/
def LeavesClient (inputs : List TbcmhInput) : Prop :=
  Run (Succeeds tbcmhStep) tbcmhInitialised inputs
      (inputs.foldl (advance tbcmhStep) tbcmhInitialised) ∧
    ¬ OneClient (inputs.foldl (advance tbcmhStep) tbcmhInitialised)

/-- Behind a lost connection, `tbcmh_connect` makes a second client and `tbcmh_disconnect` leaves the
    first one alive; and a client that a callback of `tbcmh_disconnect` connects is alive when it
    returns. -/
theorem oneClient_fails_lostConnection :
    LeavesClient (lostConnection ++ [.connect, .tbcm (.clientInit true)]) ∧
      LeavesClient (lostConnection ++ [.disconnect]) ∧ LeavesClient reconnectedBehind :=
  ⟨⟨run_of_succeeds (by decide +kernel), by decide +kernel⟩,
    ⟨run_of_succeeds (by decide +kernel), by decide +kernel⟩,
    ⟨run_of_succeeds (by decide +kernel), by decide +kernel⟩⟩

end ThingsboardMqtt
