import ThingsboardMqtt.Helper.RequestMoves

set_option autoImplicit false

/-! # No request is lost

A request whose call returned `ESP_OK` waits in its table until a callback is invoked for it. The
tables are also cleared by a `memset`, so it must be empty there: behind the sweep of a disconnection
it is, unless an `on_timeout` of that sweep sent a request to the same table, which it can when the
client is connected again by the time the `DISCONNECTED` event is handled; and `tbcmh_destroy`
clears tables that no sweep emptied when the connection was just lost, since `tbcmh_disconnect`
returns early then. In runs where neither happens (`tidyConduct`) every request has its callback
when `tbcmh_destroy` returns. -/

namespace ThingsboardMqtt

open Relation Execution

/-! ## The property -/

/-- Every request whose call returned `ESP_OK` had one of its callbacks invoked. -/
def AllCalled (client : Client) : Prop :=
  ∀ table request, .accepted table request ∈ client.history → request.hasOnTimeout = true →
    ∃ action ∈ client.history, action.calls request.uid = true

/-! ## Runs in which no request is lost -/

/-- An `on_timeout` that is invoked because of a disconnection sends no request to its own table, no
    callback returns 2, and `tbcmh_destroy` is not called when the connection is lost and requests
    still wait. -/
def tidyConduct : Conduct where
  act site client act :=
    match act with
    | .request call hasOnTimeout answers =>
      site = some ⟨.disconnected, call.table⟩ → hasOnTimeout = true →
        call.succeeds answers client = false
    | _ => True
  result result := result ≠ 2
  connected _ _ := True
  destroy client := ∀ table, ∀ request ∈ client.requestList table, request.hasOnTimeout = false
  destroy_of_empty := fun client h table request hmem => by simp [h table] at hmem

/-- Where the requests that were accepted are. In the sweep of a disconnection, no request with a
    callback is left in the table. -/
structure Accounted (config : Config) : Prop where
  accounted : ∀ table request, .accepted table request ∈ config.client.history →
    request.hasOnTimeout = true →
    request ∈ config.client.requestList table ∨ (table, request) ∈ config.detached ∨
      ∃ action ∈ config.client.history, action.calls request.uid = true
  past : ∀ table, ∀ request ∈ config.client.requestList table,
    request.timestamp ≤ config.client.core.now
  swept : ∀ table, config.site = some ⟨.disconnected, table⟩ →
    ∀ request ∈ config.client.requestList table, request.hasOnTimeout = false

/-- Actions beside the requests accept none. -/
theorem not_accepted_of_beside {actions : List HelperAction}
    (h : ∀ action ∈ actions, action.isBeside = true) (table : RequestTable) (request : Request) :
    .accepted table request ∉ actions :=
  fun hmem => absurd (h _ hmem) (by simp [HelperAction.isBeside])

theorem Accounted.beside {client client' : Client} {detached : List (RequestTable × Request)}
    {site : Option Site} (h : Accounted ⟨client, detached, site⟩) (hbeside : Beside client client') :
    Accounted ⟨client', detached, site⟩ := by
  obtain ⟨actions, hhistory, hactions⟩ := hbeside.history
  refine ⟨?_, ?_, ?_⟩
  · intro table request hmem hcallback
    have hold : HelperAction.accepted table request ∈ client.history := by
      rw [hhistory] at hmem
      exact (List.mem_append.mp hmem).resolve_right (not_accepted_of_beside hactions table request)
    rcases h.accounted table request hold hcallback with hlist | hdetached | ⟨action, haction, hcalls⟩
    · exact .inl (hbeside.requestList ▸ hlist)
    · exact .inr (.inl hdetached)
    · exact .inr (.inr ⟨action, hhistory ▸ List.mem_append_left _ haction, hcalls⟩)
  · intro table request hmem
    rw [hbeside.requestList] at hmem
    exact Nat.le_trans (h.past table request hmem) hbeside.now
  · intro table hsite request hmem
    rw [hbeside.requestList] at hmem
    exact h.swept table hsite request hmem

/-- A request that is sent waits in its table. -/
theorem Accounted.request {client client' : Client} {detached : List (RequestTable × Request)}
    {site : Option Site} {call : RequestCall} {hasOnTimeout : Bool} {answers : RequestAnswers}
    (h : Accounted ⟨client, detached, site⟩)
    (allowed : tidyConduct.act site client (.request call hasOnTimeout answers))
    (outcome : RequestOutcome call hasOnTimeout answers client client') :
    Accounted ⟨client', detached, site⟩ := by
  cases outcome with
  | refused => exact h
  | unpublished hconnected nextRequestId => exact ⟨h.accounted, h.past, h.swept⟩
  | uncreated hconnected nextRequestId => exact ⟨h.accounted, h.past, h.swept⟩
  | accepted hconnected hok nextRequestId request huid htimestamp hcallback =>
    refine ⟨?_, ?_, ?_⟩
    · intro table accepted hmem hcalled
      rw [Client.log_requestList, Client.setRequests_requestList]
      rcases List.mem_append.mp hmem with hold | hnew
      · rcases h.accounted table accepted hold hcalled with hlist | hdetached |
          ⟨action, haction, hcalls⟩
        · refine .inl ?_
          split
          · rename_i htable
            exact List.mem_append_left _ (htable ▸ hlist)
          · exact hlist
        · exact .inr (.inl hdetached)
        · exact .inr (.inr ⟨action, List.mem_append_left _ haction, hcalls⟩)
      · obtain ⟨rfl, rfl⟩ := HelperAction.accepted.inj (List.mem_singleton.mp hnew)
        simp
    · intro table waiting hmem
      rw [Client.log_requestList, Client.setRequests_requestList] at hmem
      split at hmem
      · rcases List.mem_append.mp hmem with hold | hnew
        · exact h.past _ waiting hold
        · rw [List.mem_singleton.mp hnew]
          exact Nat.le_of_eq htimestamp
      · exact h.past table waiting hmem
    · intro table hsite waiting hmem
      rw [Client.log_requestList, Client.setRequests_requestList] at hmem
      split at hmem
      · rename_i htable
        subst htable
        rcases List.mem_append.mp hmem with hold | hnew
        · exact h.swept _ hsite waiting hold
        · rw [List.mem_singleton.mp hnew, hcallback]
          refine Bool.eq_false_iff.mpr ?_
          intro htrue
          have hfails := allowed hsite htrue
          simp [RequestCall.succeeds, hconnected, hok] at hfails
      · exact h.swept table hsite waiting hmem

/-- Handing a detached request to a callback accounts for it. -/
theorem Accounted.call {client : Client} {table : RequestTable} {request : Request}
    {detached : List (RequestTable × Request)} {site : Option Site} {action : HelperAction}
    (h : Accounted ⟨client, (table, request) :: detached, site⟩)
    (hcalls : action.calls request.uid = true) (haccepted : ∀ table request,
      action ≠ .accepted table request) :
    Accounted ⟨client.log action, detached, site⟩ := by
  refine ⟨?_, h.past, h.swept⟩
  intro other accepted hmem hcallback
  have hold : HelperAction.accepted other accepted ∈ client.history := by
    refine (List.mem_append.mp hmem).resolve_right ?_
    intro hnew
    exact haccepted _ _ (List.mem_singleton.mp hnew).symm
  rcases h.accounted other accepted hold hcallback with hlist | hdetached | ⟨action', haction, hcalls'⟩
  · exact .inl hlist
  · rcases List.mem_cons.mp hdetached with heq | hrest
    · obtain ⟨-, rfl⟩ := Prod.mk.inj heq
      exact .inr (.inr ⟨action, List.mem_append_right _ List.mem_cons_self, hcalls⟩)
    · exact .inr (.inl hrest)
  · exact .inr (.inr ⟨action', List.mem_append_left _ haction, hcalls'⟩)

/-- Between two moves of the MQTT task no request is detached. -/
theorem Accounted.waits_or_called {client : Client} (h : Accounted client.idle)
    {table : RequestTable} {accepted : Request} (hmem : .accepted table accepted ∈ client.history)
    (hcallback : accepted.hasOnTimeout = true) :
    accepted ∈ client.requestList table ∨
      ∃ action ∈ client.history, action.calls accepted.uid = true := by
  rcases h.accounted table accepted hmem hcallback with hwaiting | hdetached | hcalled
  · exact .inl hwaiting
  · exact absurd hdetached List.not_mem_nil
  · exact .inr hcalled

theorem Accounted.connack {client : Client} {detached : List (RequestTable × Request)}
    {site : Option Site} (h : Accounted ⟨client, detached, site⟩) :
    Accounted ⟨onMqttConnected client, detached, site⟩ := by
  rcases onMqttConnected_cases client with hsame | ⟨hlist, -, hnow, hhistory, -⟩
  · rw [hsame]
    exact h
  · refine ⟨?_, ?_, ?_⟩
    · intro table request hmem hcallback
      rw [hlist, hhistory]
      exact h.accounted table request (hhistory ▸ hmem) hcallback
    · intro table request hmem
      rw [hnow]
      exact h.past table request (hlist ▸ hmem)
    · intro table hsite request hmem
      exact h.swept table hsite request (hlist ▸ hmem)

/-- The request itself moves to the local variable, its neighbours stay. -/
theorem Accounted.take {client : Client} {table : RequestTable} {front back : List Request}
    {request : Request} (h : Accounted client.idle)
    (hlist : client.requestList table = front ++ request :: back) :
    Accounted ⟨unsubscribeEmptied table false (client.setRequests table (front ++ back)),
      [(table, request)], none⟩ := by
  rw [unsubscribeEmptied_eq]
  refine ⟨?_, ?_, fun other hsite => absurd hsite (by simp)⟩
  · intro other accepted hmem hcallback
    rw [Client.send_requestList, Client.setRequests_requestList]
    rcases h.waits_or_called hmem hcallback with hwaiting | hcalled
    · split
      · rename_i htable
        rw [htable, hlist] at hwaiting
        rcases List.mem_append.mp hwaiting with hfront | hrest
        · exact .inl (List.mem_append_left _ hfront)
        rcases List.mem_cons.mp hrest with rfl | hback
        · exact .inr (.inl (htable ▸ List.mem_cons_self))
        · exact .inl (List.mem_append_right _ hback)
      · exact .inl hwaiting
    · exact .inr (.inr hcalled)
  · intro other waiting hmem
    rw [Client.send_requestList, Client.setRequests_requestList] at hmem
    split at hmem
    · refine h.past table waiting ?_
      show waiting ∈ client.requestList table
      rw [hlist]
      rcases List.mem_append.mp hmem with hfront | hback
      · exact List.mem_append_left _ hfront
      · exact List.mem_append_right _ (List.mem_cons_of_mem _ hback)
    · exact h.past other waiting hmem

/-- Only a request without a callback is dropped, since no callback returns 2. -/
theorem Accounted.drop {client : Client} {table : RequestTable} {request : Request}
    {detached : List (RequestTable × Request)} {site : Option Site}
    (h : Accounted ⟨client, (table, request) :: detached, site⟩)
    (hstopped : request.hasOnTimeout = true → tidyConduct.result 2) :
    Accounted ⟨client, detached, site⟩ := by
  refine ⟨?_, h.past, h.swept⟩
  intro other accepted hmem hcallback
  rcases h.accounted other accepted hmem hcallback with hwaiting | hdetached | hcalled
  · exact .inl hwaiting
  · rcases List.mem_cons.mp hdetached with heq | hrest
    · obtain ⟨-, rfl⟩ := Prod.mk.inj heq
      exact absurd rfl (hstopped hcallback)
    · exact .inr (.inl hrest)
  · exact .inr (.inr hcalled)

/-- A sweep takes out what is due; that of a disconnection looks two seconds past the timeout of the
    youngest request. -/
theorem Accounted.openSweep {client : Client} (h : Accounted client.idle) (sweep : Sweep)
    (table : RequestTable) {timestamp : Nat}
    (hall : sweep = .disconnected → client.core.now + tbMqttTimeout + 2 = timestamp) :
    Accounted ⟨(moveTimedOut table timestamp client).2,
      (moveTimedOut table timestamp client).1.map ((table, ·)), some ⟨sweep, table⟩⟩ := by
  simp only [moveTimedOut, unsubscribeEmptied_eq]
  refine ⟨?_, ?_, ?_⟩
  · intro other accepted hmem hcallback
    rw [Client.send_requestList, Client.setRequests_requestList]
    rcases h.waits_or_called hmem hcallback with hwaiting | hcalled
    · split
      · rename_i htable
        subst htable
        cases hdue : accepted.timedOut timestamp with
        | true => exact .inr (.inl (List.mem_map_of_mem (List.mem_filter.mpr ⟨hwaiting, hdue⟩)))
        | false => exact .inl (List.mem_filter.mpr ⟨hwaiting, by simp [hdue]⟩)
      · exact .inl hwaiting
    · exact .inr (.inr hcalled)
  · intro other waiting hmem
    rw [Client.send_requestList, Client.setRequests_requestList] at hmem
    split at hmem
    · exact h.past table waiting (List.mem_of_mem_filter hmem)
    · exact h.past other waiting hmem
  · intro other hsite waiting hmem
    obtain ⟨rfl, rfl⟩ := Site.mk.inj (Option.some.inj hsite)
    rw [Client.send_requestList, Client.setRequests_requestList, if_pos rfl] at hmem
    obtain ⟨hwaiting, hdue⟩ := List.mem_filter.mp hmem
    have hpast := h.past table waiting hwaiting
    simp only [Request.timedOut, Bool.not_eq_true', decide_eq_false_iff_not, ← hall rfl] at hdue
    exact absurd hdue (by simp only [Client.idle] at hpast; omega)

/-- The `memset` of the list: behind the sweep only requests without a callback are left. -/
theorem Accounted.clear {client : Client} {table : RequestTable}
    (h : Accounted ⟨client, [], some ⟨.disconnected, table⟩⟩) :
    Accounted (client.setRequests table []).idle := by
  refine ⟨?_, ?_, fun other hsite => absurd hsite (by simp [Client.idle])⟩
  · intro other accepted hmem hcallback
    rcases h.accounted other accepted hmem hcallback with hwaiting | hdetached | hcalled
    · by_cases htable : other = table
      · subst htable
        have hnone := h.swept other rfl accepted hwaiting
        exact absurd (hcallback.symm.trans hnone) (by simp)
      · refine .inl ?_
        simp only [Client.idle, Client.setRequests_requestList, if_neg htable]
        exact hwaiting
    · exact absurd hdetached List.not_mem_nil
    · exact .inr (.inr hcalled)
  · intro other waiting hmem
    simp only [Client.idle, Client.setRequests_requestList] at hmem
    split at hmem
    · exact absurd hmem List.not_mem_nil
    · exact h.past other waiting hmem

/-- The tables were not swept, so only the condition on `tbcmh_destroy` helps. -/
theorem Accounted.destroy {client : Client} (h : Accounted client.idle)
    (allowed : tidyConduct.destroy client) : Accounted (tbcmhOnDestroy client).idle := by
  refine ⟨?_, ?_, fun table hsite => absurd hsite (by simp [Client.idle])⟩
  · intro table accepted hmem hcallback
    rcases h.waits_or_called hmem hcallback with hwaiting | hcalled
    · have hnone := allowed table accepted hwaiting
      exact absurd (hcallback.symm.trans hnone) (by simp)
    · exact .inr (.inr hcalled)
  · intro table waiting hmem
    exact absurd hmem List.not_mem_nil

/-- Every move accounts for every request. -/
theorem accounted_move {config config' : Config} (h : Accounted config)
    (move : RequestMove tidyConduct config config') : Accounted config' := by
  cases move with
  | beside client client' detached site hbeside => exact h.beside hbeside
  | connack client detached site => exact h.connack
  | request client client' detached site call hasOnTimeout answers allowed outcome =>
    exact h.request allowed outcome
  | connected client queue answers allowed =>
    have hstart : Accounted ({ client with queue := queue } : Client).idle :=
      ⟨h.accounted, h.past, h.swept⟩
    refine onTbcmConnected_rule (P := fun client => Accounted client.idle)
      (fun _ _ h hbeside _ _ => h.beside hbeside)
      (fun keys client _ h _ outcome => h.request ?_ outcome) _ hstart
    exact fun hsite => absurd hsite (by simp)
  | take client table front request back hlist => exact h.take hlist
  | respond client table request requestId =>
    exact h.call (by simp [HelperAction.calls]) (by simp)
  | expire client table request detached site =>
    exact h.call (by simp [HelperAction.calls]) (by simp)
  | drop client table request detached site hstopped => exact h.drop hstopped
  | openSweep client sweep table timestamp hall => exact h.openSweep sweep table hall
  | closeSweep client table =>
    exact ⟨h.accounted, h.past, fun table hsite => absurd hsite (by simp [Client.idle])⟩
  | clear client table => exact h.clear
  | destroy client allowed => exact h.destroy allowed

/-! ## Runs -/

/-- In every run of tidy conduct, every request was called by the time `tbcmh_destroy` returns. -/
theorem allCalled_of_destroyed {now lastHandle : Nat} {inputs : List (ClientInput tidyConduct)}
    {client : Client}
    (run : Run (within Permitted (Succeeds clientStep)) (tbcmhInit now lastHandle) inputs client)
    (hdestroyed : client.control = .destroyed) : AllCalled client := by
  have moves := moves_of_run run
  have haccounted : Accounted (tbcmhInit now lastHandle).idle :=
    ⟨fun _ _ h => absurd h List.not_mem_nil, fun _ _ h => absurd h List.not_mem_nil,
      fun _ h => absurd h (by simp [Client.idle])⟩
  have hinitial : DestroyedEmpty (tbcmhInit now lastHandle).idle := fun h =>
    absurd h (by simp [Client.idle, tbcmhInit])
  have hfinal := invariant_of_moves haccounted
    (fun _ _ h move => accounted_move h move.requestMove) moves
  have hempty := invariant_of_moves hinitial (fun _ _ => destroyedEmpty_move) moves hdestroyed
  intro table request hmem hcallback
  rcases hfinal.accounted table request hmem hcallback with hwaiting | hdetached | hcalled
  · exact absurd hwaiting (by rw [hempty.2 table]; exact List.not_mem_nil)
  · exact absurd hdetached List.not_mem_nil
  · exact hcalled

theorem tidyConduct_silent : tidyConduct.result 0 := show (0 : Int) ≠ 2 by decide

/-- `tbcmh_destroy` while a request waits and the client is connected. -/
def destroyedConnected : List (ClientInput tidyConduct) :=
  sampleRequest tidyConduct_silent ++ [.destroy, .emptied (fun _ _ => .silent tidyConduct_silent),
    .stop, .emptied (fun _ _ => .silent tidyConduct_silent)]

/-- The request is called. -/
theorem allCalled_of_destroyed_destroyedConnected :
    AllCalled (destroyedConnected.foldl (advance clientStep) (tbcmhInit 100 0)) := by
  refine allCalled_of_destroyed (run_of_takes ?_) (by decide +kernel)
  refine ⟨trivial, rfl, trivial, rfl, trivial, rfl, fun h => absurd h (by simp), rfl,
    fun h => absurd h (by decide +kernel), rfl, trivial, rfl, trivial, rfl, trivial, rfl, trivial⟩

/-- `tbcmh_destroy` while a request waits and the connection was just lost. -/
def destroyedDisconnected : List (ClientInput .any) :=
  sampleRequest trivial ++ [.act .connectionLost, .destroy]

/-- The request is lost. -/
theorem allCalled_fails_destroyedDisconnected :
    ¬ ∀ (inputs : List (ClientInput .any)) (client : Client),
      Run (within Permitted (Succeeds clientStep)) (tbcmhInit 100 0) inputs client →
      client.control = .destroyed → AllCalled client := by
  intro hall
  have hcalled := hall destroyedDisconnected _ (run_of_any (by decide +kernel)) (by decide +kernel)
  have hexists := hcalled .clientrpc ⟨1, 1, 100, .application, true⟩ (by decide +kernel) rfl
  exact absurd hexists (by decide +kernel)

end ThingsboardMqtt
