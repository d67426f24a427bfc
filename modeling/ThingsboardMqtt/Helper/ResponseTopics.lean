import ThingsboardMqtt.Helper.RequestMoves

set_option autoImplicit false

/-! # Pending requests can be answered

The broker delivers the response to a request only under a subscription of the response topic that
was made in the same session. A request call subscribes the topic when its table is empty. After a
reconnect the table may still hold requests of an earlier session, since the `DISCONNECTED` event
that empties it waits in the queue; a request that is sent then goes out without a subscription. In
runs where no request is sent to such a table (`subscribingConduct`) every pending request of the
current session is covered. -/

namespace ThingsboardMqtt

open Relation Execution Session

/-! ## The property -/

/-- The response topic of the request `uid` was subscribed before the request, in the current
    session, and was not unsubscribed since. -/
def Client.CanBeAnswered (client : Client) (table : RequestTable) (uid : Nat) : Prop :=
  Covered (.subscribe table.responseTopic) (.unsubscribe table.responseTopic) (.request table uid)
    client.session

/-- Every pending request that was published on the current session can be answered. -/
def PendingAnswerable (client : Client) : Prop :=
  ∀ table, ∀ request ∈ client.requestList table, .request table request.uid ∈ client.session →
    client.CanBeAnswered table request.uid

/-! ## Runs in which every request is covered -/

/-- The table is empty, or holds a request of the current session. -/
def Fresh (client : Client) (table : RequestTable) : Prop :=
  client.requestList table = [] ∨
    ∃ request ∈ client.requestList table, .request table request.uid ∈ client.session

/-- No request is sent while its table holds requests of earlier sessions only: none by the
    application, and none by the handling of a `CONNECTED` event with an OTA item. -/
def subscribingConduct : Conduct where
  act _ client act :=
    match act with
    | .request call _ answers => call.succeeds answers client = true → Fresh client call.table
    | _ => True
  result _ := True
  connected client answers :=
    client.ota.otaupdateList ≠ [] → (answers.request.published && answers.request.created) = true →
      tbcmhIsConnected client.core = true → Fresh client .attributesrequest
  destroy _ := True
  destroy_of_empty _ _ := trivial

/-- Every pending request of the current session is covered; `lastUid` bounds their numbers. -/
structure Subscribed (client : Client) : Prop where
  covered : PendingAnswerable client
  numbered : ∀ table, ∀ request ∈ client.requestList table, request.uid ≤ client.lastUid

theorem RequestTable.responseTopic_injective : Function.Injective RequestTable.responseTopic := by
  intro table other h
  cases table <;> cases other <;> first | rfl | exact absurd h (by decide)

/-- Packets that are added do not concern a pending request, unless they unsubscribe its topic or
    publish it again. -/
theorem Subscribed.append {client client' : Client} (h : Subscribed client) (packets : List Packet)
    (hsent : client'.core.sent = client.core.sent ++ packets) (hconnack : .connack ∉ packets)
    (huid : client.lastUid ≤ client'.lastUid)
    (hpending : ∀ table, ∀ request ∈ client'.requestList table,
      request ∈ client.requestList table ∧ .request table request.uid ∉ packets ∧
        .unsubscribe table.responseTopic ∉ packets) :
    Subscribed client' := by
  have hsession := Client.session_append hsent hconnack
  constructor
  · intro table request hmem hpublished
    obtain ⟨hold, hagain, hunsubscribe⟩ := hpending table request hmem
    rw [hsession] at hpublished
    have hbefore := (List.mem_append.mp hpublished).resolve_right hagain
    rw [Client.CanBeAnswered, hsession]
    exact (h.covered table request hold hbefore).append hunsubscribe
  · intro table request hmem
    exact Nat.le_trans (h.numbered table request (hpending table request hmem).1) huid

theorem Fresh.append {client client' : Client} {table : RequestTable} (h : Fresh client table)
    (packets : List Packet) (hlist : client'.requestList table = client.requestList table)
    (hsent : client'.core.sent = client.core.sent ++ packets) (hconnack : .connack ∉ packets) :
    Fresh client' table := by
  rw [Fresh, hlist, Client.session_append hsent hconnack]
  exact h.imp_right fun ⟨request, hmem, hpublished⟩ =>
    ⟨request, hmem, List.mem_append_left _ hpublished⟩

/-! ## What is beside the requests -/

/-- The packets beside the requests start no session, publish no request and unsubscribe no response
    topic. -/
theorem not_mem_of_isBeside {packets : List Packet} {packet : Packet}
    (h : ∀ packet ∈ packets, packet.isBeside = true) (hpacket : packet.isBeside = false) :
    packet ∉ packets := fun hmem => Bool.false_ne_true (hpacket.symm.trans (h packet hmem))

theorem RequestTable.unsubscribe_isBeside (table : RequestTable) :
    (Packet.unsubscribe table.responseTopic).isBeside = false := by
  simp [Packet.isBeside, table.responseTopic_isResponse]

theorem Subscribed.beside {client client' : Client} (h : Subscribed client)
    (hbeside : Beside client client') : Subscribed client' := by
  obtain ⟨packets, hsent, hpackets⟩ := hbeside.sent
  refine h.append packets hsent (not_mem_of_isBeside hpackets rfl)
    (Nat.le_of_eq hbeside.lastUid.symm) ?_
  intro table request hmem
  exact ⟨hbeside.requestList ▸ hmem, not_mem_of_isBeside hpackets rfl,
    not_mem_of_isBeside hpackets table.unsubscribe_isBeside⟩

theorem Fresh.beside {client client' : Client} {table : RequestTable} (h : Fresh client table)
    (hbeside : Beside client client') : Fresh client' table := by
  obtain ⟨packets, hsent, hpackets⟩ := hbeside.sent
  exact h.append packets (congrFun hbeside.requestList table) hsent (not_mem_of_isBeside hpackets rfl)

/-! ## A request call -/

/-- A request call sends the subscription, or nothing, and the request. -/
theorem published_sent (client : Client) (table : RequestTable) (nextRequestId : UInt16) :
    (client.published table nextRequestId).core.sent = client.core.sent ++
      (emptySubscription table client ++ [.request table (client.lastUid + 1)]) :=
  List.append_assoc _ _ _

theorem mem_emptySubscription {table : RequestTable} {client : Client} {packet : Packet}
    (h : packet ∈ emptySubscription table client) : packet = .subscribe table.responseTopic := by
  unfold emptySubscription at h
  split at h
  · exact List.mem_singleton.mp h
  · exact absurd h List.not_mem_nil

theorem mem_published_packets {table : RequestTable} {client : Client} {packet : Packet}
    (h : packet ∈ emptySubscription table client ++ [.request table (client.lastUid + 1)]) :
    packet = .subscribe table.responseTopic ∨ packet = .request table (client.lastUid + 1) :=
  (List.mem_append.mp h).imp mem_emptySubscription List.mem_singleton.mp

theorem Subscribed.published {client : Client} (h : Subscribed client) (table : RequestTable)
    (nextRequestId : UInt16) : Subscribed (client.published table nextRequestId) := by
  refine h.append _ (published_sent client table nextRequestId)
    ?_ (Nat.le_succ _) fun other request hmem => ⟨hmem, ?_, ?_⟩
  · intro hmem
    rcases mem_published_packets hmem with heq | heq <;> exact absurd heq (by simp)
  · intro hagain
    rcases mem_published_packets hagain with heq | heq
    · exact absurd heq (by simp)
    · have hnumber := (Packet.request.inj heq).2
      have hbound := h.numbered other request hmem
      omega
  · intro hmem
    rcases mem_published_packets hmem with heq | heq <;> exact absurd heq (by simp)

/-- The new request is covered: by the subscription that is sent, or by what covers a request of the
    session. -/
theorem canBeAnswered_published {client : Client} (h : Subscribed client) {table : RequestTable}
    (hfresh : Fresh client table) (nextRequestId : UInt16) :
    (client.published table nextRequestId).CanBeAnswered table (client.lastUid + 1) := by
  have hsession := Client.session_append (published_sent client table nextRequestId)
    (fun hmem => by rcases mem_published_packets hmem with heq | heq <;> exact absurd heq (by simp))
  rw [Client.CanBeAnswered, hsession]
  -- an empty table subscribes first; else the topic that covers a waiting request covers this one
  rcases hfresh with hempty | ⟨request, hmem, hpublished⟩
  · have hsubscription : emptySubscription table client = [.subscribe table.responseTopic] := by
      simp [emptySubscription, hempty]
    rw [hsubscription, ← List.append_assoc]
    exact covered_append_on
  · have hsubscription : emptySubscription table client = [] := by
      simp [emptySubscription, List.ne_nil_of_mem hmem]
    rw [hsubscription, List.nil_append]
    exact (h.covered table request hmem hpublished).append_last (by simp)

theorem Subscribed.request {client client' : Client} {call : RequestCall} {hasOnTimeout : Bool}
    {answers : RequestAnswers} (h : Subscribed client)
    (allowed : call.succeeds answers client = true → Fresh client call.table)
    (outcome : RequestOutcome call hasOnTimeout answers client client') : Subscribed client' := by
  cases outcome with
  | refused => exact h
  | unpublished hconnected nextRequestId =>
    refine h.append (emptySubscription call.table client) rfl (fun hmem => ?_)
      (Nat.le_refl _) fun table request hmem => ⟨hmem, fun hmem => ?_, fun hmem => ?_⟩
    all_goals exact absurd (mem_emptySubscription hmem) (by simp)
  | uncreated hconnected nextRequestId => exact h.published call.table nextRequestId
  | accepted hconnected hok nextRequestId request huid htimestamp hcallback =>
    have hfresh := allowed (by simp [RequestCall.succeeds, hconnected, hok])
    have hold := h.published call.table nextRequestId
    have hnew := canBeAnswered_published h hfresh nextRequestId
    constructor
    · intro table waiting hmem hpublished
      rw [Client.log_requestList, Client.setRequests_requestList] at hmem
      split at hmem
      · rename_i htable
        subst htable
        rcases List.mem_append.mp hmem with hmem | hmem
        · exact hold.covered _ waiting hmem hpublished
        · rw [List.mem_singleton.mp hmem, huid]
          exact hnew
      · exact hold.covered table waiting hmem hpublished
    · intro table waiting hmem
      rw [Client.log_requestList, Client.setRequests_requestList] at hmem
      split at hmem
      · rcases List.mem_append.mp hmem with hmem | hmem
        · exact hold.numbered _ waiting hmem
        · rw [List.mem_singleton.mp hmem]
          exact Nat.le_of_eq huid
      · exact hold.numbered table waiting hmem

theorem Fresh.request {client client' : Client} {table : RequestTable} {call : RequestCall}
    {hasOnTimeout : Bool} {answers : RequestAnswers} (h : Fresh client table)
    (outcome : RequestOutcome call hasOnTimeout answers client client') : Fresh client' table := by
  have hnoSession : ∀ packets : List Packet, (∀ packet ∈ packets,
      packet = .subscribe call.table.responseTopic ∨
        packet = .request call.table (client.lastUid + 1)) → .connack ∉ packets := by
    intro packets hpackets hmem
    rcases hpackets _ hmem with heq | heq <;> exact absurd heq (by simp)
  have hpublished : ∀ nextRequestId, Fresh (client.published call.table nextRequestId) table :=
    fun nextRequestId => h.append _ rfl (published_sent client call.table nextRequestId)
      (hnoSession _ fun _ => mem_published_packets)
  cases outcome with
  | refused => exact h
  | unpublished hconnected nextRequestId =>
    exact h.append (emptySubscription call.table client) rfl rfl
      (hnoSession _ fun _ hmem => .inl (mem_emptySubscription hmem))
  | uncreated hconnected nextRequestId => exact hpublished nextRequestId
  | accepted hconnected hok nextRequestId request huid htimestamp hcallback =>
    rw [Fresh, Client.log_requestList, Client.setRequests_requestList]
    split
    · rename_i htable
      subst htable
      refine .inr ⟨request, by simp, ?_⟩
      have hsession := Client.session_append (published_sent client call.table nextRequestId)
        (hnoSession _ fun _ => mem_published_packets)
      show Packet.request call.table request.uid
        ∈ (client.published call.table nextRequestId).session
      rw [hsession, huid]
      simp
    · exact hpublished nextRequestId

/-! ## Every move -/

/-- Taking requests out of a table, the topic is unsubscribed only when none is left. -/
theorem Subscribed.remove {client : Client} (h : Subscribed client) (table : RequestTable)
    (isEmptyBefore : Bool) {requests : List Request}
    (hsub : ∀ request ∈ requests, request ∈ client.requestList table) :
    Subscribed (unsubscribeEmptied table isEmptyBefore (client.setRequests table requests)) := by
  rw [unsubscribeEmptied_eq]
  have hpackets : ∀ packet ∈ emptiedUnsubscription table isEmptyBefore
      (client.setRequests table requests),
      packet = .unsubscribe table.responseTopic ∧ requests = [] := by
    intro packet hmem
    simp only [emptiedUnsubscription, Client.setRequests_requestList_self] at hmem
    split at hmem
    · rename_i hempty
      rw [Bool.and_eq_true, List.isEmpty_iff] at hempty
      exact ⟨List.mem_singleton.mp hmem, hempty.2⟩
    · exact absurd hmem List.not_mem_nil
  refine h.append (emptiedUnsubscription table isEmptyBefore
    (client.setRequests table requests)) rfl (fun hmem => ?_) (Nat.le_refl _) ?_
  · exact absurd (hpackets _ hmem).1 (by simp)
  intro other request hmem
  rw [Client.send_requestList, Client.setRequests_requestList] at hmem
  split at hmem
  · rename_i htable
    subst htable
    refine ⟨hsub request hmem, ?_, ?_⟩
    · intro hagain
      exact absurd (hpackets _ hagain).1 (by simp)
    · intro hagain
      rw [(hpackets _ hagain).2] at hmem
      exact absurd hmem List.not_mem_nil
  · rename_i htable
    refine ⟨hmem, ?_, ?_⟩
    · intro hagain
      exact absurd (hpackets _ hagain).1 (by simp)
    · intro hagain
      have htopic := Packet.unsubscribe.inj (hpackets _ hagain).1
      exact htable (RequestTable.responseTopic_injective htopic)

theorem subscribed_move {config config' : Config} (h : Subscribed config.client)
    (move : RequestMove subscribingConduct config config') : Subscribed config'.client := by
  cases move with
  | beside client client' detached site hbeside => exact h.beside hbeside
  | connack client detached site =>
    rcases onMqttConnected_cases client with hsame | ⟨hlist, huid, -, -, hsent⟩
    · rw [show onMqttConnected client = client from hsame]
      exact h
    · -- nothing was published in the new session yet
      have hsession := Client.session_connack hsent
      constructor
      · intro table request hmem hpublished
        exact absurd (hsession ▸ hpublished) List.not_mem_nil
      · intro table request hmem
        exact huid ▸ h.numbered table request (hlist ▸ hmem)
  | request client client' detached site call hasOnTimeout answers allowed outcome =>
    exact h.request allowed outcome
  | connected client queue answers allowed =>
    -- the S/W item sends its request behind that of the F/W item, so the condition is carried along
    refine (onTbcmConnected_rule (P := fun client => Subscribed client ∧
      (client.ota.otaupdateList ≠ [] →
        (answers.request.published && answers.request.created) = true →
        tbcmhIsConnected client.core = true → Fresh client .attributesrequest)) ?_ ?_
      { client with queue := queue } ⟨⟨h.covered, h.numbered⟩, allowed⟩).1
    · intro client client' h hbeside hlink hlist
      refine ⟨h.1.beside hbeside, ?_⟩
      intro hitem hok hconnected
      exact (h.2 (hlist ▸ hitem) hok (hlink.isConnected ▸ hconnected)).beside hbeside
    · intro keys client client' h hitem outcome
      refine ⟨h.1.request ?_ outcome, ?_⟩
      · intro hsucceeds
        simp only [RequestCall.succeeds, Bool.and_eq_true] at hsucceeds
        exact h.2 hitem (by simp [hsucceeds]) hsucceeds.1
      · intro _ hok hconnected
        exact (h.2 hitem hok (outcome.sameLink.isConnected ▸ hconnected)).request outcome
  | take client table front request back hlist =>
    refine h.remove table false ?_
    intro waiting hmem
    show waiting ∈ client.requestList table
    rw [hlist]
    rcases List.mem_append.mp hmem with hfront | hback
    · exact List.mem_append_left _ hfront
    · exact List.mem_append_right _ (List.mem_cons_of_mem _ hback)
  | openSweep client sweep table timestamp hall =>
    exact h.remove table _ fun waiting hmem => List.mem_of_mem_filter hmem
  | clear client table =>
    refine h.append [] (List.append_nil _).symm List.not_mem_nil (Nat.le_refl _) ?_
    intro other request hmem
    simp only [Client.idle, Client.setRequests_requestList] at hmem
    split at hmem
    · exact absurd hmem List.not_mem_nil
    · exact ⟨hmem, List.not_mem_nil, List.not_mem_nil⟩
  | destroy client allowed =>
    exact ⟨fun _ _ hmem => absurd hmem List.not_mem_nil, fun _ _ hmem => absurd hmem List.not_mem_nil⟩
  | respond | expire | drop | closeSweep => exact ⟨h.covered, h.numbered⟩

/-! ## Runs -/

/-- In every run of subscribing conduct, every pending request of the current session can be
    answered. -/
theorem pendingAnswerable_of_run {now lastHandle : Nat}
    {inputs : List (ClientInput subscribingConduct)} {client : Client}
    (run : Run (within Permitted (Succeeds clientStep)) (tbcmhInit now lastHandle) inputs client) :
    PendingAnswerable client := by
  have hinitial : Subscribed (tbcmhInit now lastHandle).idle.client :=
    ⟨fun _ _ h => absurd h List.not_mem_nil, fun _ _ h => absurd h List.not_mem_nil⟩
  exact (invariant_of_moves (P := fun config => Subscribed config.client) hinitial
    (fun _ _ h move => subscribed_move h move.requestMove) (moves_of_run run)).covered

theorem subscribingConduct_silent : subscribingConduct.result 0 := trivial

/-- A second request is sent while the first one waits. -/
def secondRequest : List (ClientInput subscribingConduct) :=
  sampleRequest subscribingConduct_silent ++
    [.act (.request (.twowayClientrpc (some "status")) true ⟨true, true⟩)]

/-- Both requests can be answered. -/
theorem pendingAnswerable_of_run_secondRequest :
    PendingAnswerable (secondRequest.foldl (advance clientStep) (tbcmhInit 100 0)) := by
  refine pendingAnswerable_of_run (run_of_takes ⟨trivial, rfl, trivial, rfl, ?_, rfl, ?_, rfl, ?_,
    rfl, trivial⟩)
  · exact fun hitem => absurd rfl hitem
  · exact fun _ => .inl rfl
  · exact fun _ => .inr ⟨⟨1, 1, 100, .application, true⟩, by decide +kernel, by decide +kernel⟩

/-- The connection is lost and comes back while a request waits, and a second request is sent
    before the events are handled. -/
def reconnectedEarly : List (ClientInput .any) :=
  sampleRequest trivial ++ [.act .connectionLost, .act .connack,
    .act (.request (.twowayClientrpc (some "status")) true ⟨true, true⟩)]

/-- The second request cannot be answered. -/
theorem pendingAnswerable_fails_reconnectedEarly :
    ¬ ∀ (inputs : List (ClientInput .any)) (client : Client),
      Run (within Permitted (Succeeds clientStep)) (tbcmhInit 100 0) inputs client →
      PendingAnswerable client := by
  intro hall
  have hanswerable := hall reconnectedEarly _ (run_of_any (by decide +kernel))
  obtain ⟨before, between, after, hsession, -, -⟩ := hanswerable .clientrpc
    ⟨2, 2, 100, .application, true⟩ (by decide +kernel) (by decide +kernel)
  have hsubscribe : Packet.subscribe .clientrpcResponse
      ∈ (reconnectedEarly.foldl (advance clientStep) (tbcmhInit 100 0)).session := by
    rw [hsession]
    exact List.mem_append_right _ List.mem_cons_self
  exact absurd hsubscribe (by decide +kernel)

end ThingsboardMqtt
