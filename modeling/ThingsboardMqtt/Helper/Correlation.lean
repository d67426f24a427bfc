import ThingsboardMqtt.Helper.Sweeps

set_option autoImplicit false

/-! # Callbacks are correlated and at most once

A request that was accepted waits in its table, then in the local list of a sweep or in the local
variable of a response, and then its callback is invoked; it is never in two of these places, since
its number is at one place only (`Once`). An `on_response` is invoked by a message with the number of a
request that waits, and by nothing else that is handled (`Unanswered`). -/

namespace ThingsboardMqtt

open Relation Execution ListWalk

variable {conduct : Conduct}

/-! ## One place for every request -/

/-- The requests that wait in a table. -/
def Client.pending (client : Client) : List Request :=
  client.requestList .attributesrequest ++ client.requestList .clientrpc ++
    client.requestList .provision

/-- How often the request `uid` waits, is on its way to a callback, or was called. -/
def Config.places (uid : Nat) (config : Config) : Nat :=
  config.client.pending.countP (fun request => request.uid = uid) +
    config.detached.countP (fun detached => detached.2.uid = uid) +
    config.client.history.countP (·.calls uid)

/-- Every request is at one place at most, and those that are not sent yet are at none. -/
structure Once (config : Config) : Prop where
  place : ∀ uid, config.places uid ≤ 1
  unused : ∀ uid, config.client.lastUid < uid → config.places uid = 0
  inOrder : ∀ table, (config.client.requestList table).Pairwise (·.uid < ·.uid)

theorem Client.mem_pending {client : Client} {table : RequestTable} {request : Request}
    (h : request ∈ client.requestList table) : request ∈ client.pending := by
  simp only [pending, List.mem_append]
  cases table with
  | attributesrequest => exact .inl (.inl h)
  | clientrpc => exact .inl (.inr h)
  | provision => exact .inr h

/-- Changing one table moves the count by what that table had and has. -/
theorem Client.countP_setRequests (p : Request → Bool) (client : Client) (table : RequestTable)
    (requests : List Request) :
    (client.setRequests table requests).pending.countP p + (client.requestList table).countP p
      = client.pending.countP p + requests.countP p := by
  cases table <;> simp [pending, setRequests_requestList, List.countP_append] <;> omega

theorem Once.numbered {config : Config} (h : Once config) {table : RequestTable} {request : Request}
    (hmem : request ∈ config.client.requestList table) : request.uid ≤ config.client.lastUid := by
  refine Nat.le_of_not_lt ?_
  intro hlt
  have hplaces := h.unused request.uid hlt
  have hcount : 0 < config.client.pending.countP (fun other => other.uid = request.uid) :=
    List.countP_pos_iff.mpr ⟨request, Client.mem_pending hmem, decide_eq_true rfl⟩
  simp only [Config.places] at hplaces
  omega

/-- Where no request comes to a further place, nothing is lost of `Once`. -/
theorem Once.of_le {config config' : Config} (h : Once config)
    (hplaces : ∀ uid, config'.places uid ≤ config.places uid)
    (huid : config.client.lastUid ≤ config'.client.lastUid)
    (horder : ∀ table, (config'.client.requestList table).Pairwise (·.uid < ·.uid)) :
    Once config' := by
  refine ⟨fun uid => Nat.le_trans (hplaces uid) (h.place uid), ?_, horder⟩
  intro uid hunused
  exact Nat.le_zero.mp (h.unused uid (Nat.lt_of_le_of_lt huid hunused) ▸ hplaces uid)

theorem countP_calls_beside {actions : List HelperAction}
    (h : ∀ action ∈ actions, action.isBeside = true) (uid : Nat) :
    actions.countP (·.calls uid) = 0 := by
  refine List.countP_eq_zero.mpr ?_
  intro action hmem hcalls
  have hbeside := h action hmem
  cases action <;> simp [HelperAction.isBeside, HelperAction.calls] at hbeside hcalls

theorem Once.beside {client client' : Client} {detached : List (RequestTable × Request)}
    {site : Option Site} (h : Once ⟨client, detached, site⟩) (hbeside : Beside client client') :
    Once ⟨client', detached, site⟩ := by
  obtain ⟨actions, hhistory, hactions⟩ := hbeside.history
  refine h.of_le ?_ (Nat.le_of_eq hbeside.lastUid.symm) ?_
  · intro uid
    simp [Config.places, Client.pending, hbeside.requestList, hhistory,
      countP_calls_beside hactions uid]
  · intro table
    exact show (client'.requestList table).Pairwise _ from hbeside.requestList ▸ h.inOrder table

/-- A request that is sent waits in its table, under a new number. -/
theorem Once.request {client client' : Client} {detached : List (RequestTable × Request)}
    {site : Option Site} {call : RequestCall} {hasOnTimeout : Bool} {answers : RequestAnswers}
    (h : Once ⟨client, detached, site⟩)
    (outcome : RequestOutcome call hasOnTimeout answers client client') :
    Once ⟨client', detached, site⟩ := by
  cases outcome with
  | refused => exact h
  | unpublished => exact h.of_le (fun uid => Nat.le_refl _) (Nat.le_refl _) h.inOrder
  | uncreated => exact h.of_le (fun uid => Nat.le_refl _) (Nat.le_succ _) h.inOrder
  | accepted hconnected hok nextRequestId request huid htimestamp hcallback =>
    -- the number of the new request gets one place, and it had none before
    let sent := client.setRequests call.table (client.requestList call.table ++ [request])
    have hplaces : ∀ uid, Config.places uid ⟨((client.published call.table nextRequestId).setRequests
        call.table (client.requestList call.table ++ [request])).log
          (.accepted call.table request), detached, site⟩
        = Config.places uid ⟨client, detached, site⟩ + if request.uid = uid then 1 else 0 := by
      intro uid
      have hcount := client.countP_setRequests (fun request => request.uid = uid) call.table
        (client.requestList call.table ++ [request])
      have hhistory : (client.log (.accepted call.table request)).history.countP (·.calls uid)
          = client.history.countP (·.calls uid) := by
        rw [Client.log_history, List.countP_append]
        rfl
      simp only [List.countP_append, List.countP_singleton, decide_eq_true_eq] at hcount
      show sent.pending.countP _ + detached.countP _
        + (client.log (.accepted call.table request)).history.countP (·.calls uid) = _
      rw [hhistory]
      simp only [Config.places, sent]
      omega
    have hunused := h.unused (client.lastUid + 1) (Nat.lt_succ_self _)
    refine ⟨?_, ?_, ?_⟩
    · intro uid
      rw [hplaces]
      split
      · rename_i heq
        exact Nat.le_of_eq (by rw [← heq, huid, hunused])
      · exact h.place uid
    · intro uid hlast
      have hlast : client.lastUid + 1 < uid := hlast
      rw [hplaces, if_neg (by omega)]
      exact h.unused uid (Nat.lt_of_succ_lt hlast)
    · intro table
      simp only [Client.log_requestList, Client.setRequests_requestList]
      split
      · refine List.pairwise_append.mpr ⟨h.inOrder _, List.pairwise_singleton _ _, ?_⟩
        intro waiting hmem new hnew
        rw [List.mem_singleton.mp hnew, huid]
        exact Nat.lt_succ_of_le (h.numbered hmem)
      · exact h.inOrder table

theorem Once.call {client : Client} {table : RequestTable} {request : Request}
    {detached : List (RequestTable × Request)} {site : Option Site} {action : HelperAction}
    (h : Once ⟨client, (table, request) :: detached, site⟩)
    (hcalls : ∀ uid, action.calls uid = true → request.uid = uid) :
    Once ⟨client.log action, detached, site⟩ := by
  refine h.of_le ?_ (Nat.le_refl _) h.inOrder
  intro uid
  simp only [Config.places, Client.log_history, List.countP_append, List.countP_cons,
    List.countP_nil, decide_eq_true_eq, Nat.zero_add]
  have hone : (if action.calls uid = true then 1 else 0) ≤ if request.uid = uid then 1 else 0 := by
    split
    · rename_i hcalled
      exact Nat.le_of_eq (if_pos (hcalls uid hcalled)).symm
    · exact Nat.zero_le _
  simp only [Client.pending, Client.log_requestList]
  omega

theorem once_move {config config' : Config} (h : Once config)
    (move : RequestMove conduct config config') : Once config' := by
  cases move with
  | beside client client' detached site hbeside => exact h.beside hbeside
  | connack client detached site =>
    rcases onMqttConnected_cases client with hsame | ⟨hlist, huid, -, hhistory, -⟩
    · rw [hsame]
      exact h
    · refine h.of_le ?_ (Nat.le_of_eq huid.symm) ?_
      · intro uid
        simp [Config.places, Client.pending, hlist, hhistory]
      · intro table
        exact show ((onMqttConnected client).requestList table).Pairwise _ from
          hlist ▸ h.inOrder table
  | request client client' detached site call hasOnTimeout answers allowed outcome =>
    exact h.request outcome
  | connected client queue answers allowed =>
    have hstart : Once ({ client with queue := queue } : Client).idle :=
      h.of_le (fun _ => Nat.le_refl _) (Nat.le_refl _) h.inOrder
    exact onTbcmConnected_rule (P := fun client => Once client.idle)
      (fun _ _ h hbeside _ _ => h.beside hbeside) (fun _ _ _ h _ outcome => h.request outcome)
      _ hstart
  | take client table front request back hlist =>
    rw [unsubscribeEmptied_eq]
    have horder := h.inOrder table
    rw [show client.idle.client.requestList table = front ++ request :: back from hlist] at horder
    refine h.of_le (fun uid => Nat.le_of_eq ?_) (Nat.le_refl _) ?_
    · -- the request moves from the table to the local variable of the response
      have hcount := client.countP_setRequests (fun request => request.uid = uid) table
        (front ++ back)
      rw [hlist] at hcount
      simp only [List.countP_append, List.countP_cons] at hcount
      show (client.setRequests table (front ++ back)).pending.countP _ + _ + _ = _
      simp only [Config.places, Client.idle, List.countP_cons, List.countP_nil] at hcount ⊢
      simp only [Client.send_history, Client.setRequests_history]
      omega
    · intro other
      rw [Client.send_requestList, Client.setRequests_requestList]
      split
      · exact horder.sublist (List.Sublist.append_left (List.sublist_cons_self _ _) front)
      · exact h.inOrder other
  | respond client table request requestId =>
    exact h.call fun uid hcalls => of_decide_eq_true hcalls
  | expire client table request detached site =>
    exact h.call fun uid hcalls => of_decide_eq_true hcalls
  | drop client table request detached site hstopped =>
    refine h.of_le ?_ (Nat.le_refl _) h.inOrder
    intro uid
    simp only [Config.places, List.countP_cons]
    omega
  | openSweep client sweep table timestamp hall =>
    simp only [moveTimedOut, unsubscribeEmptied_eq]
    refine h.of_le (fun uid => Nat.le_of_eq ?_) (Nat.le_refl _) ?_
    · have hcount := client.countP_setRequests (fun request => request.uid = uid) table
        ((client.requestList table).filter fun request => !request.timedOut timestamp)
      -- from the table to the local list of the sweep: a filter and its complement
      have hsplit := List.countP_eq_countP_filter_add (client.requestList table)
        (fun request => request.uid = uid) (·.timedOut timestamp)
      show (client.setRequests table _).pending.countP _ + _ + _ = _
      simp only [Config.places, Client.idle, List.countP_nil, List.countP_map, Client.send_history,
        Client.setRequests_history]
      simp only [Function.comp_def]
      omega
    · intro other
      rw [Client.send_requestList, Client.setRequests_requestList]
      split
      · exact (h.inOrder table).sublist List.filter_sublist
      · exact h.inOrder other
  | closeSweep client table => exact h.of_le (fun _ => Nat.le_refl _) (Nat.le_refl _) h.inOrder
  | clear client table =>
    refine h.of_le ?_ (Nat.le_refl _) ?_
    · intro uid
      have hcount := client.countP_setRequests (fun request => request.uid = uid) table []
      simp only [Config.places, Client.idle, Client.setRequests_history, List.countP_nil] at hcount ⊢
      omega
    · intro other
      simp only [Client.idle, Client.setRequests_requestList]
      split
      · exact .nil
      · exact h.inOrder other
  | destroy client allowed =>
    refine h.of_le ?_ (Nat.le_refl _) fun table => .nil
    intro uid
    -- what `tbcmh_destroy` clears may be lost, but it is at no second place
    exact Nat.add_le_add_right (Nat.add_le_add_right (Nat.zero_le _) _) _

/-! ## Answers -/

/-- No `on_response` is invoked. -/
def Unanswered (client client' : Client) : Prop :=
  ∃ actions, client'.history = client.history ++ actions ∧
    ∀ action ∈ actions, action.isResponse = false

namespace Unanswered

variable {client client' client'' : Client}

theorem of_history (h : client'.history = client.history) : Unanswered client client' :=
  ⟨[], by simp [h], by simp⟩

theorem trans (h : Unanswered client client') (h' : Unanswered client' client'') :
    Unanswered client client'' := by
  obtain ⟨actions, hhistory, hactions⟩ := h
  obtain ⟨actions', hhistory', hactions'⟩ := h'
  refine ⟨actions ++ actions', by rw [hhistory', hhistory, List.append_assoc], ?_⟩
  intro action hmem
  exact (List.mem_append.mp hmem).elim (hactions action) (hactions' action)

theorem grown (table : RequestTable) {called : List Nat} (h : Grown table called client client') :
    Unanswered client client' := by
  obtain ⟨-, -, actions, hhistory, -, -, -, hanswers⟩ := h
  exact ⟨actions, hhistory, hanswers⟩

theorem onCheckTimeout (callbacks : Callbacks conduct) (sweep : Sweep) (table : RequestTable)
    (timestamp : Nat) (client : Client) :
    Unanswered client
      (tbcmhRequestOnCheckTimeout table (callbacks.onTimeout sweep table) timestamp client) := by
  obtain ⟨_, hgrown, -⟩ := grown_dealTimeout callbacks sweep table table
    (moveTimedOut table timestamp client).1 true (moveTimedOut table timestamp client).2
  exact (of_history (moveTimedOut_history table timestamp client)).trans (grown table hgrown)

theorem onDisconnected (callbacks : Callbacks conduct) (table : RequestTable) (client : Client) :
    Unanswered client
      (tbcmhRequestOnDisconnected table (callbacks.onTimeout .disconnected table) client) :=
  (onCheckTimeout callbacks .disconnected table _ client).trans (of_history rfl)

theorem onTbcmDisonnected (callbacks : Callbacks conduct) (client : Client) :
    Unanswered client (onTbcmDisonnected callbacks client) :=
  (((onDisconnected callbacks .attributesrequest client).trans
    (onDisconnected callbacks .clientrpc _)).trans
    (onDisconnected callbacks .provision _)).trans (of_history rfl)

theorem onTbcmCheckTimeout (callbacks : Callbacks conduct) (client : Client) :
    Unanswered client (onTbcmCheckTimeout callbacks client) := by
  rw [ThingsboardMqtt.onTbcmCheckTimeout]
  split
  · exact of_history rfl
  · have hchecked : Unanswered client { client with lastCheckTimestamp := client.core.now } :=
      of_history rfl
    exact (((hchecked.trans (onCheckTimeout callbacks .checkTimeout .attributesrequest _ _)).trans
      (onCheckTimeout callbacks .checkTimeout .clientrpc _ _)).trans
      (onCheckTimeout callbacks .checkTimeout .provision _ _)).trans (of_history rfl)

theorem onTbcmConnected (answers : EventAnswers) (client : Client) :
    Unanswered client (onTbcmConnected answers client) :=
  onTbcmConnected_rule (P := Unanswered client)
    (fun _ _ h hbeside _ _ => h.trans (grown .attributesrequest (.beside hbeside)))
    (fun _ _ _ h _ outcome => h.trans (grown .attributesrequest (.request outcome)))
    client (of_history rfl)

theorem serverrpcOnData {requestId : Nat} {object : Option Cjson}
    (h : tbcmhServerrpcOnData requestId object client = .ok client') : Unanswered client client' := by
  rcases tbcmhServerrpcOnData_outcome h with rfl | ⟨method, rfl⟩
  · exact of_history rfl
  · exact ⟨[.onRequest requestId method], rfl, by simp [HelperAction.isResponse]⟩

theorem sharedAttributes {object : Option Cjson} {answers : EventAnswers}
    (h : onTbcmDataHandle (.sharedAttributes object) answers client = .ok client') :
    Unanswered client client' :=
  sharedAttributes_rule (P := Unanswered client)
    (fun _ _ _ _ _ hunanswered _ => hunanswered.trans (of_history rfl)) h (of_history rfl)

end Unanswered

/-- A response goes to a request that waits for it. -/
def Answered (table : RequestTable) (requestId : Nat) (client client' : Client) : Prop :=
  ∃ request ∈ client.requestList table, table.isAnswered requestId request = true ∧
    client'.history = client.history ++ [.onResponse table request.uid requestId]

theorem onData_answered {table : RequestTable} {requestId : Nat} {object : Option Cjson}
    {answers : OtaAnswers} {client client' : Client}
    (h : tbcmhRequestOnData table requestId object answers client = .ok client') :
    Unanswered client client' ∨ Answered table requestId client client' := by
  rcases tbcmhRequestOnData_outcome h with rfl |
    ⟨object, front, request, back, hlist, hanswered, hresponse⟩
  · exact .inl (.of_history rfl)
  rw [unsubscribeEmptied_eq] at hresponse
  rcases doResponse_outcome hresponse with ⟨ota, -, rfl⟩ | ⟨-, rfl⟩
  · refine .inr ⟨request, ?_, hanswered, rfl⟩
    rw [hlist]
    exact List.mem_append_right _ List.mem_cons_self
  · exact .inl ⟨[.onTimeout table request.uid], rfl, by simp [HelperAction.isResponse]⟩

theorem onTbcmDataHandle_answered {data : TbcmPublishData} {answers : EventAnswers}
    {client client' : Client} (h : onTbcmDataHandle data answers client = .ok client') :
    Unanswered client client' ∨
      ∃ table requestId object, data = .response table requestId object ∧
        Answered table requestId client client' := by
  cases data with
  | response table requestId object =>
    exact (onData_answered h).imp_right fun hanswered => ⟨table, requestId, object, rfl, hanswered⟩
  | sharedAttributes object => exact .inl (.sharedAttributes h)
  | serverrpcRequest requestId object => exact .inl (.serverrpcOnData h)
  | fwResponse requestId chunkId payload =>
    obtain rfl := Except.ok.inj h
    exact .inl (.of_history rfl)

/-- The messages that are handled by an input that invokes an `on_response`. -/
def ClientInput.Answers (input : ClientInput conduct) (client client' : Client) : Prop :=
  ∃ callbacks answers table requestId object queue, input = .tbcmhRun callbacks answers ∧
    client.queue = .data (.response table requestId object) :: queue ∧
    Answered table requestId client client'

/-- No other input invokes one. -/
theorem clientStep_answered {client client' : Client} {input : ClientInput conduct}
    (hok : clientStep client input = .ok client') :
    Unanswered client client' ∨ input.Answers client client' := by
  cases clientStep_outcome hok with
  | act act hcontrol => exact .inl (.grown .attributesrequest (.act act client))
  | tbcmhRun callbacks answers event queue _ hqueue hevent =>
    have hdequeued : Unanswered client { client with queue := queue } := .of_history rfl
    cases event with
    | connected =>
      obtain rfl := Except.ok.inj hevent
      exact .inl (hdequeued.trans (.onTbcmConnected answers _))
    | disconnected =>
      obtain rfl := Except.ok.inj hevent
      exact .inl (hdequeued.trans (.onTbcmDisonnected callbacks _))
    | checkTimeout =>
      obtain rfl := Except.ok.inj hevent
      exact .inl (hdequeued.trans (.onTbcmCheckTimeout callbacks _))
    | data data =>
      rcases onTbcmDataHandle_answered hevent with hnone | ⟨table, requestId, object, rfl, h⟩
      · exact .inl (hdequeued.trans hnone)
      · exact .inr ⟨callbacks, answers, table, requestId, object, queue, rfl, hqueue, h⟩
  | disconnected callbacks hcontrol | destroyed callbacks hcontrol =>
    exact .inl ((Unanswered.onTbcmDisonnected callbacks client).trans (.of_history rfl))
  | connect | disconnectEarly | disconnect | destroyEarly | destroy | emptied | stop =>
    exact .inl (.of_history rfl)

/-! ## Runs -/

/-- What holds of the requests in a state and of what is done with them next. -/
structure Correlated (client : Client) : Prop where
  atMostOnce : ∀ uid, client.history.countP (·.calls uid) ≤ 1
  /-- An `on_response` is invoked by a message with the id of the request, while it waits. -/
  ownAnswer : ∀ (input : ClientInput .any) (client' : Client) (actions : List HelperAction)
    (table : RequestTable) (uid requestId : Nat), clientStep client input = .ok client' →
    client'.history = client.history ++ actions → .onResponse table uid requestId ∈ actions →
    table ≠ .provision →
    ∃ callbacks answers object queue, input = .tbcmhRun callbacks answers ∧
      client.queue = .data (.response table requestId object) :: queue ∧
      ∃ request ∈ client.requestList table, request.uid = uid ∧ request.requestId = requestId
  /-- The requests of a table are in the order they were sent. -/
  inOrder : ∀ table, (client.requestList table).Pairwise (·.uid < ·.uid)
  /-- A check of a table, at any time. -/
  sweep : ∀ (callbacks : Callbacks .any) (sweep : Sweep) (table : RequestTable) (timestamp : Nat),
    callbacks.StayValid → Swept table timestamp client
      (tbcmhRequestOnCheckTimeout table (callbacks.onTimeout sweep table) timestamp client)
  /-- The check of all tables, when it is due. -/
  check : ∀ (callbacks : Callbacks .any) (answers : EventAnswers) (queue : List TbcmEvent)
    (client' : Client), callbacks.StayValid → client.queue = .checkTimeout :: queue →
    client.lastCheckTimestamp + tbMqttTimeout + 2 ≤ client.core.now →
    clientStep client (.tbcmhRun callbacks answers) = .ok client' →
    ∀ table, Swept table client.core.now client client'

theorem once_of_run {now lastHandle : Nat} {inputs : List (ClientInput conduct)} {client : Client}
    (run : Run (within Permitted (Succeeds clientStep)) (tbcmhInit now lastHandle) inputs client) :
    Once client.idle := by
  have hinitial : Once (tbcmhInit now lastHandle).idle :=
    ⟨fun _ => Nat.zero_le _, fun _ _ => rfl, fun _ => .nil⟩
  exact invariant_of_moves hinitial (fun _ _ h move => once_move h move.requestMove)
    (moves_of_run run)

/-- In every state of every run the requests and their callbacks are correlated. -/
theorem correlated_of_run {now lastHandle : Nat} {inputs : List (ClientInput .any)}
    {client : Client}
    (run : Run (within Permitted (Succeeds clientStep)) (tbcmhInit now lastHandle) inputs client) :
    Correlated client := by
  have honce := once_of_run run
  refine ⟨?_, ?_, honce.inOrder, ?_, ?_⟩
  · intro uid
    exact Nat.le_trans (Nat.le_add_left _ _) (honce.place uid)
  · intro input client' actions table uid requestId hok hhistory hmem htable
    rcases clientStep_answered hok with ⟨actions', hhistory', hnone⟩ | ⟨callbacks, answers, table',
      requestId', object, queue, rfl, hqueue, request, hlist, hanswered, hhistory'⟩
    · obtain rfl := List.append_cancel_left (hhistory.symm.trans hhistory')
      exact absurd (hnone _ hmem) (by simp [HelperAction.isResponse])
    · obtain rfl := List.append_cancel_left (hhistory.symm.trans hhistory')
      obtain ⟨rfl, rfl, rfl⟩ := HelperAction.onResponse.inj (List.mem_singleton.mp hmem)
      refine ⟨callbacks, answers, object, queue, rfl, hqueue, request, hlist, rfl, ?_⟩
      simpa [RequestTable.isAnswered, htable] using hanswered
  · intro callbacks sweep table timestamp hstay
    exact swept_onCheckTimeout callbacks hstay sweep table timestamp client
  · intro callbacks answers queue client' hstay hqueue hdue hok table
    have hevent := handled_of_tbcmhRun hqueue hok
    obtain rfl := Except.ok.inj hevent
    exact swept_onTbcmCheckTimeout callbacks hstay { client with queue := queue } hdue table

/-- A request is sent and answered twice. -/
def answeredTwice : List (ClientInput .any) :=
  sampleRequest trivial ++ [.act (.receive (.response .clientrpc 1 (some (.object [])))),
    .act (.receive (.response .clientrpc 1 (some (.object [])))),
    .tbcmhRun (fun _ _ => .silent trivial) sampleEventAnswers,
    .tbcmhRun (fun _ _ => .silent trivial) sampleEventAnswers]

/-- It is called once. -/
theorem correlated_of_run_answeredTwice :
    Correlated (answeredTwice.foldl (advance clientStep) (tbcmhInit 100 0)) :=
  correlated_of_run (run_of_any (by decide +kernel))

end ThingsboardMqtt
