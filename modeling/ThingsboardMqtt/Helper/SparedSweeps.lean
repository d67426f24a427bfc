import ThingsboardMqtt.Helper.Sweeps
import ThingsboardMqtt.Helper.WatchedClient

set_option autoImplicit false

/-! # Sweeps that spare the client

A sweep of `Watched` invokes the callbacks of the requests that timed out up to the first that
returns 2. Whether one of these destroys the client is read off the table before the event: what the
callbacks send is too young for a check, and for the sweeps of a disconnection it is enough that no
request that is sent later has a destroying callback. -/

namespace ThingsboardMqtt

open Execution ListWalk Relation

section Condition

variable (destroyers : Destroyers) (round : Round)

/-- Behind the callback of a request no further one of its sweep is invoked. -/
def Round.stops (table : RequestTable) (request : Request) : Prop :=
  request.hasOnTimeout = true ∧ (round.onTimeout table request.uid).1 = 2

/-- No `on_timeout` that a sweep over the requests comes to destroys the client. -/
def SweepSpares (table : RequestTable) (requests : List Request) : Prop :=
  AllReached (round.stops table)
    (fun request _ => request.hasOnTimeout = true → destroyers.onTimeout table request.uid = false)
    requests

/-- No pending request is from the future, and the callbacks of requests that are sent later destroy
    nothing. -/
structure Pending (client : Client) : Prop where
  past : ∀ table, ∀ request ∈ client.requestList table, request.timestamp ≤ client.core.now
  destroys : ∀ table uid, destroyers.onTimeout table uid = true → uid ≤ client.lastUid

end Condition

/-! ## Pending requests -/

section Pending

variable {destroyers : Destroyers}

/-- The requests of the tables are old ones or no younger than the clock. -/
theorem Pending.of_le {client client' : Client} (h : Pending destroyers client)
    (hnow : client.core.now ≤ client'.core.now) (huid : client.lastUid ≤ client'.lastUid)
    (hlist : ∀ table, ∀ request ∈ client'.requestList table,
      request ∈ client.requestList table ∨ request.timestamp ≤ client'.core.now) :
    Pending destroyers client' := by
  refine ⟨?_, fun table uid hdestroys => Nat.le_trans (h.destroys table uid hdestroys) huid⟩
  intro table request hmem
  rcases hlist table request hmem with hold | hnew
  · exact Nat.le_trans (h.past table request hold) hnow
  · exact hnew

theorem Pending.beside {client client' : Client} (h : Pending destroyers client)
    (hbeside : Beside client client') : Pending destroyers client' := by
  refine h.of_le hbeside.now (Nat.le_of_eq hbeside.lastUid.symm) ?_
  intro table request hmem
  exact .inl (hbeside.requestList ▸ hmem)

theorem Pending.request {client client' : Client} {call : RequestCall} {hasOnTimeout : Bool}
    {answers : RequestAnswers} (h : Pending destroyers client)
    (outcome : RequestOutcome call hasOnTimeout answers client client') :
    Pending destroyers client' := by
  cases outcome with
  | refused => exact h
  | unpublished => exact h.of_le (Nat.le_refl _) (Nat.le_refl _) fun _ _ => .inl
  | uncreated => exact h.of_le (Nat.le_refl _) (Nat.le_succ _) fun _ _ => .inl
  | accepted hconnected hok nextRequestId request huid htimestamp hcallback =>
    refine h.of_le (Nat.le_refl _) (Nat.le_succ _) ?_
    intro table waiting hmem
    rw [Client.log_requestList, Client.setRequests_requestList] at hmem
    split at hmem
    · rename_i htable
      rcases List.mem_append.mp hmem with hold | hnew
      · exact .inl (htable ▸ hold)
      · rw [List.mem_singleton.mp hnew]
        exact .inr (Nat.le_of_eq htimestamp)
    · exact .inl hmem

theorem Pending.setRequests {client : Client} (h : Pending destroyers client) {table : RequestTable}
    {requests : List Request} (hsubset : requests ⊆ client.requestList table)
    (packets : List Packet) :
    Pending destroyers ((client.setRequests table requests).send packets) := by
  refine h.of_le (Nat.le_refl _) (Nat.le_refl _) ?_
  intro other request hmem
  rw [Client.send_requestList, Client.setRequests_requestList] at hmem
  split at hmem
  · rename_i htable
    exact .inl (htable ▸ hsubset hmem)
  · exact .inl hmem

theorem pending_move {conduct : Conduct} {config config' : Config}
    (h : Pending destroyers config.client) (move : Move conduct config config') :
    Pending destroyers config'.client := by
  cases move.requestMove with
  | beside client client' detached site hbeside => exact Pending.beside h hbeside
  | connack client detached site =>
    rcases onMqttConnected_cases client with hsame | ⟨hlist, huid, hnow, -, -⟩
    · rw [hsame]
      exact h
    · refine Pending.of_le h (Nat.le_of_eq hnow.symm) (Nat.le_of_eq huid.symm) ?_
      intro table request hmem
      exact .inl (hlist ▸ hmem)
  | request client client' detached site call hasOnTimeout answers allowed outcome =>
    exact Pending.request h outcome
  | connected client queue answers allowed =>
    refine onTbcmConnected_rule (P := Pending destroyers)
      (fun client client' h hbeside _ _ => h.beside hbeside)
      (fun keys client client' h _ outcome => h.request outcome) { client with queue := queue } ?_
    exact ⟨h.past, h.destroys⟩
  | take client table front request back hlist =>
    rw [unsubscribeEmptied_eq]
    have hsubset : front ++ back ⊆ front ++ request :: back :=
      ((List.sublist_cons_self request back).append_left front).subset
    exact Pending.setRequests h (hlist ▸ hsubset) _
  | openSweep client sweep table timestamp hall =>
    simp only [moveTimedOut, unsubscribeEmptied_eq]
    exact Pending.setRequests h (List.filter_subset_self _) _
  | clear client table =>
    have hcleared := Pending.setRequests h (List.nil_subset (client.requestList table)) []
    rw [Client.send_nil] at hcleared
    exact hcleared
  | destroy client allowed =>
    exact ⟨fun table request hmem => absurd hmem List.not_mem_nil, h.destroys⟩
  | respond | expire | drop | closeSweep => exact ⟨h.past, h.destroys⟩

theorem Pending.moves {conduct : Conduct} {client client' : Client} (h : Pending destroyers client)
    (moves : ReflTransGen (Move conduct) client.idle client'.idle) : Pending destroyers client' :=
  invariant_of_moves (P := fun config => Pending destroyers config.client) h
    (fun _ _ => pending_move) moves

/-- What callbacks send does not count in the sweep of another table. -/
theorem Pending.sweepSpares_grown {table : RequestTable} {called : List Nat}
    {client client' : Client} (h : Pending destroyers client)
    (hgrown : Grown table called client client') (round : Round) :
    SweepSpares destroyers round table (client'.requestList table) ↔
      SweepSpares destroyers round table (client.requestList table) := by
  obtain ⟨-, -, actions, -, hlist, hsent, -, -⟩ := hgrown
  rw [hlist]
  refine allReached_append ?_
  intro request hmem _
  refine Bool.eq_false_iff.mpr ?_
  intro hdestroys
  have hnumbered := (hsent request hmem).numbered
  have hpending := h.destroys table request.uid hdestroys
  omega

/-- The sweep of a disconnection takes all requests. -/
theorem Pending.filter_timedOut {client : Client} (h : Pending destroyers client)
    (table : RequestTable) :
    (client.requestList table).filter (·.timedOut (client.core.now + tbMqttTimeout + 2))
      = client.requestList table := by
  refine List.filter_eq_self.mpr ?_
  intro request hmem
  have hpast := h.past table request hmem
  refine decide_eq_true ?_
  omega

end Pending

/-- What is sent behind the time of a check is not due for it. -/
theorem due_of_grown {table : RequestTable} {called : List Nat} {client client' : Client}
    {timestamp : Nat} (h : Grown table called client client')
    (htime : timestamp ≤ client.core.now) :
    (client'.requestList table).filter (·.timedOut timestamp)
      = (client.requestList table).filter (·.timedOut timestamp) := by
  obtain ⟨-, -, actions, -, hlist, hsent, -, -⟩ := h
  have hnone : (actions.filterMap (·.acceptedIn table)).filter (·.timedOut timestamp) = [] :=
    List.filter_eq_nil_iff.mpr fun request hmem => by
      simp [(hsent request hmem).not_timedOut htime]
  rw [hlist, List.filter_append, hnone, List.append_nil]

/-- The sweep of a disconnection leaves the other tables alone. -/
theorem grown_onDisconnected {conduct : Conduct} (callbacks : Callbacks conduct)
    {table swept : RequestTable} (hne : swept ≠ table) (client : Client) :
    Grown table [] client
      (tbcmhRequestOnDisconnected swept (callbacks.onTimeout .disconnected swept) client) := by
  refine (grown_onCheckTimeout callbacks .disconnected hne _ client).trans
    (.of_eq (Nat.le_refl _) rfl rfl ?_)
  rw [tbcmhRequestOnDisconnected, Client.setRequests_requestList, if_neg hne.symm]

namespace Watched

variable {destroyers : Destroyers} {round : Round}

/-! ## Sweeps -/

theorem dealTimeout_invalid (table : RequestTable) (onTimeout : OnTimeout) (requests : List Request)
    (slot : Slot) : dealTimeout destroyers table onTimeout false requests slot = .ok slot := by
  induction requests with
  | nil => rfl
  | cons request rest ih =>
    rw [dealTimeout, Bool.false_and, if_neg (by simp), ih]

theorem plainDealTimeout_invalid (table : RequestTable) (onTimeout : OnTimeout)
    (requests : List Request) (client : Client) :
    ThingsboardMqtt.dealTimeout table onTimeout false requests client = client := by
  induction requests with
  | nil => rfl
  | cons request rest ih =>
    rw [ThingsboardMqtt.dealTimeout, Bool.false_and, if_neg (by simp), ih]

theorem dealTimeout_outcome (destroyers : Destroyers) (round : Round) (sweep : Sweep)
    (table : RequestTable) (requests : List Request) (client : Client) :
    SweepSpares destroyers round table requests ∧
        dealTimeout destroyers table (round.callbacks.onTimeout sweep table) true requests
          (some client)
          = .ok (some (ThingsboardMqtt.dealTimeout table (round.callbacks.onTimeout sweep table)
            true requests client)) ∨
      ¬ SweepSpares destroyers round table requests ∧
        dealTimeout destroyers table (round.callbacks.onTimeout sweep table) true requests
          (some client) = .ok none := by
  induction requests generalizing client with
  | nil => exact .inl ⟨allReached_nil, rfl⟩
  | cons request rest ih =>
    unfold SweepSpares at ih ⊢
    rw [allReached_cons, dealTimeout, ThingsboardMqtt.dealTimeout, Bool.true_and]
    cases hcallback : request.hasOnTimeout with
    | false =>
      have hstops : ¬ round.stops table request := by simp [Round.stops, hcallback]
      simpa [hstops] using ih client
    | true =>
      simp only [if_true, Slot.client, Bind.bind, Except.bind, forall_const]
      cases hdestroys : destroyers.onTimeout table request.uid with
      | true => exact .inr ⟨by simp, dealTimeout_invalid _ _ _ _⟩
      | false =>
        simp only [Bool.false_eq_true, if_false, true_and]
        by_cases htwo : (round.onTimeout table request.uid).1 = 2
        · -- the callbacks end here
          have hresult : decide ((round.callbacks.onTimeout sweep table request
              (client.log (.onTimeout table request.uid))).1 ≠ 2) = false := by
            simp [Callbacks.onTimeout, Round.callbacks, htwo]
          refine .inl ⟨fun hstops => absurd ⟨hcallback, htwo⟩ hstops, ?_⟩
          rw [hresult, dealTimeout_invalid, plainDealTimeout_invalid]
        · have hresult : decide ((round.callbacks.onTimeout sweep table request
              (client.log (.onTimeout table request.uid))).1 ≠ 2) = true := by
            simp [Callbacks.onTimeout, Round.callbacks, htwo]
          have hstops : ¬ round.stops table request := fun h => htwo h.2
          rw [hresult]
          simpa [hstops] using ih (round.callbacks.onTimeout sweep table request
            (client.log (.onTimeout table request.uid))).2

theorem client_bind {α : Type} (client : Client) (next : Client → Except Crash α) :
    (Slot.client (some client) >>= next) = next client := rfl

section Sweep

variable {table : RequestTable} {timestamp : Nat} (sweep : Sweep) (client : Client)
  (next : Slot → Except Crash Slot)

/-- A sweep that comes to no destroying callback, and what follows it. -/
theorem onCheckTimeout_of_spares
    (h : SweepSpares destroyers round table
      ((client.requestList table).filter (·.timedOut timestamp))) :
    (tbcmhRequestOnCheckTimeout destroyers table (round.callbacks.onTimeout sweep table) timestamp
        (some client) >>= next)
      = next (some (ThingsboardMqtt.tbcmhRequestOnCheckTimeout table
        (round.callbacks.onTimeout sweep table) timestamp client)) := by
  rcases dealTimeout_outcome destroyers round sweep table
    (moveTimedOut table timestamp client).1 (moveTimedOut table timestamp client).2 with
    ⟨-, hok⟩ | ⟨hnot, -⟩
  · exact congrArg (· >>= next) hok
  · exact absurd h hnot

/-- A sweep that destroys the client, in front of something that uses it. -/
theorem onCheckTimeout_of_not_spares
    (h : ¬ SweepSpares destroyers round table
      ((client.requestList table).filter (·.timedOut timestamp)))
    (hnext : next none = .error .deadClient) :
    (tbcmhRequestOnCheckTimeout destroyers table (round.callbacks.onTimeout sweep table) timestamp
      (some client) >>= next) = .error .deadClient := by
  rcases dealTimeout_outcome destroyers round sweep table
    (moveTimedOut table timestamp client).1 (moveTimedOut table timestamp client).2 with
    ⟨hspares, -⟩ | ⟨-, hnone⟩
  · exact absurd hspares h
  · exact (congrArg (· >>= next) hnone).trans hnext

end Sweep

/-- Three sweeps in turn: the first that does not spare the client ends them. -/
theorem sweeps_outcome {p : RequestTable → Prop} {result : Except Crash Slot} {slot : Slot}
    (hattributes : ¬ p .attributesrequest → result = .error .deadClient)
    (hclientrpc : p .attributesrequest → ¬ p .clientrpc → result = .error .deadClient)
    (hprovision : p .attributesrequest → p .clientrpc → ¬ p .provision →
      result = .error .deadClient)
    (hok : p .attributesrequest → p .clientrpc → p .provision → result = .ok slot) :
    (∀ table, p table) ∧ result = .ok slot ∨
      ¬ (∀ table, p table) ∧ result = .error .deadClient := by
  by_cases hfirst : p .attributesrequest
  · by_cases hsecond : p .clientrpc
    · by_cases hthird : p .provision
      · refine .inl ⟨fun table => ?_, hok hfirst hsecond hthird⟩
        cases table with
        | attributesrequest => exact hfirst
        | clientrpc => exact hsecond
        | provision => exact hthird
      · exact .inr ⟨fun hall => hthird (hall _), hprovision hfirst hsecond hthird⟩
    · exact .inr ⟨fun hall => hsecond (hall _), hclientrpc hfirst hsecond⟩
  · exact .inr ⟨fun hall => hfirst (hall _), hattributes hfirst⟩

theorem onTbcmCheckTimeout_of_early {client : Client}
    (h : ¬ client.lastCheckTimestamp + tbMqttTimeout + 2 ≤ client.core.now) :
    onTbcmCheckTimeout destroyers round.callbacks (some client) = .ok (some client) := by
  rw [onTbcmCheckTimeout, client_bind]
  exact if_pos (Nat.lt_of_not_le h)

theorem onTbcmCheckTimeout_outcome {client : Client}
    (hdue : client.lastCheckTimestamp + tbMqttTimeout + 2 ≤ client.core.now) :
    (∀ table, SweepSpares destroyers round table
          ((client.requestList table).filter (·.timedOut client.core.now))) ∧
        onTbcmCheckTimeout destroyers round.callbacks (some client)
          = .ok (some (ThingsboardMqtt.onTbcmCheckTimeout round.callbacks client)) ∨
      ¬ (∀ table, SweepSpares destroyers round table
          ((client.requestList table).filter (·.timedOut client.core.now))) ∧
        onTbcmCheckTimeout destroyers round.callbacks (some client) = .error .deadClient := by
  let client₀ := { client with lastCheckTimestamp := client.core.now }
  let client₁ := ThingsboardMqtt.tbcmhRequestOnCheckTimeout .attributesrequest
    (round.callbacks.onTimeout .checkTimeout .attributesrequest) client.core.now client₀
  let client₂ := ThingsboardMqtt.tbcmhRequestOnCheckTimeout .clientrpc
    (round.callbacks.onTimeout .checkTimeout .clientrpc) client.core.now client₁
  -- a sweep leaves what is due in the tables behind it
  have hgrown₁ : ∀ table ≠ .attributesrequest, Grown table [] client client₁ := by
    intro table hne
    have hchecked : Grown table [] client client₀ := .of_eq (Nat.le_refl _) rfl rfl rfl
    exact hchecked.trans (grown_onCheckTimeout round.callbacks .checkTimeout hne.symm _ client₀)
  have hgrown₂ : Grown .provision [] client client₂ :=
    (hgrown₁ .provision (by decide)).trans
      (grown_onCheckTimeout round.callbacks .checkTimeout (by decide) _ client₁)
  have hsecond := due_of_grown (hgrown₁ .clientrpc (by decide)) (Nat.le_refl client.core.now)
  have hthird := due_of_grown hgrown₂ (Nat.le_refl client.core.now)
  rw [onTbcmCheckTimeout, ThingsboardMqtt.onTbcmCheckTimeout, client_bind]
  simp only [if_neg (Nat.not_lt.mpr hdue)]
  refine sweeps_outcome ?_ ?_ ?_ ?_
  · intro hattributes
    rw [onCheckTimeout_of_not_spares .checkTimeout client₀ _ hattributes rfl]
  · intro hattributes hclientrpc
    rw [onCheckTimeout_of_spares .checkTimeout client₀ _ hattributes,
      onCheckTimeout_of_not_spares .checkTimeout client₁ _ (hsecond ▸ hclientrpc) rfl]
  · intro hattributes hclientrpc hprovision
    rw [onCheckTimeout_of_spares .checkTimeout client₀ _ hattributes,
      onCheckTimeout_of_spares .checkTimeout client₁ _ (hsecond ▸ hclientrpc),
      onCheckTimeout_of_not_spares .checkTimeout client₂ _ (hthird ▸ hprovision) rfl]
  · intro hattributes hclientrpc hprovision
    rw [onCheckTimeout_of_spares .checkTimeout client₀ _ hattributes,
      onCheckTimeout_of_spares .checkTimeout client₁ _ (hsecond ▸ hclientrpc),
      onCheckTimeout_of_spares .checkTimeout client₂ _ (hthird ▸ hprovision)]
    rfl

/-- The sweep of a disconnection uses the client itself. -/
theorem onDisconnected_of_spares {client : Client} (hpending : Pending destroyers client)
    {table : RequestTable} (h : SweepSpares destroyers round table (client.requestList table))
    (next : Slot → Except Crash Slot) :
    (tbcmhRequestOnDisconnected destroyers table (round.callbacks.onTimeout .disconnected table)
        (some client) >>= next)
      = next (some (ThingsboardMqtt.tbcmhRequestOnDisconnected table
        (round.callbacks.onTimeout .disconnected table) client)) := by
  rw [← hpending.filter_timedOut table] at h
  exact congrArg (· >>= next) (onCheckTimeout_of_spares .disconnected client _ h)

theorem onDisconnected_of_not_spares {client : Client} (hpending : Pending destroyers client)
    {table : RequestTable} (h : ¬ SweepSpares destroyers round table (client.requestList table))
    (next : Slot → Except Crash Slot) :
    (tbcmhRequestOnDisconnected destroyers table (round.callbacks.onTimeout .disconnected table)
      (some client) >>= next) = .error .deadClient := by
  rw [← hpending.filter_timedOut table] at h
  exact congrArg (· >>= next) (onCheckTimeout_of_not_spares .disconnected client _ h rfl)

theorem onTbcmDisonnected_outcome {client : Client} (hpending : Pending destroyers client) :
    (∀ table, SweepSpares destroyers round table (client.requestList table)) ∧
        onTbcmDisonnected destroyers round.callbacks (some client)
          = .ok (some (ThingsboardMqtt.onTbcmDisonnected round.callbacks client)) ∨
      ¬ (∀ table, SweepSpares destroyers round table (client.requestList table)) ∧
        onTbcmDisonnected destroyers round.callbacks (some client) = .error .deadClient := by
  let client₁ := ThingsboardMqtt.tbcmhRequestOnDisconnected .attributesrequest
    (round.callbacks.onTimeout .disconnected .attributesrequest) client
  let client₂ := ThingsboardMqtt.tbcmhRequestOnDisconnected .clientrpc
    (round.callbacks.onTimeout .disconnected .clientrpc) client₁
  have hpending₁ : Pending destroyers client₁ :=
    hpending.moves (moves_onDisconnected round.callbacks .attributesrequest client)
  have hpending₂ : Pending destroyers client₂ :=
    hpending₁.moves (moves_onDisconnected round.callbacks .clientrpc client₁)
  have hgrown₁ : ∀ table ≠ .attributesrequest, Grown table [] client client₁ :=
    fun table hne => grown_onDisconnected round.callbacks hne.symm client
  have hgrown₂ : Grown .provision [] client client₂ :=
    (hgrown₁ .provision (by decide)).trans
      (grown_onDisconnected round.callbacks (by decide) client₁)
  have hsecond := hpending.sweepSpares_grown (hgrown₁ .clientrpc (by decide)) round
  have hthird := hpending.sweepSpares_grown hgrown₂ round
  rw [onTbcmDisonnected, ThingsboardMqtt.onTbcmDisonnected]
  refine sweeps_outcome ?_ ?_ ?_ ?_
  · intro hattributes
    rw [onDisconnected_of_not_spares hpending hattributes]
  · intro hattributes hclientrpc
    rw [onDisconnected_of_spares hpending hattributes,
      onDisconnected_of_not_spares hpending₁ (mt hsecond.mp hclientrpc)]
  · intro hattributes hclientrpc hprovision
    rw [onDisconnected_of_spares hpending hattributes,
      onDisconnected_of_spares hpending₁ (hsecond.mpr hclientrpc),
      onDisconnected_of_not_spares hpending₂ (mt hthird.mp hprovision)]
  · intro hattributes hclientrpc hprovision
    rw [onDisconnected_of_spares hpending hattributes,
      onDisconnected_of_spares hpending₁ (hsecond.mpr hclientrpc),
      onDisconnected_of_spares hpending₂ (hthird.mpr hprovision)]
    rfl

end Watched

end ThingsboardMqtt
