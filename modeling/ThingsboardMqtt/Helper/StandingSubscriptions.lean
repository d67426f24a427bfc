import ThingsboardMqtt.Helper.RequestMoves

set_option autoImplicit false

/-! # Standing subscriptions survive reconnects

The lists of `attributes_subscribe.c` and `server_rpc.c` outlive a connection; what the broker knows
does not. A call changes the subscription when its list becomes filled or drained while the client
is connected, and the handling of a `CONNECTED` event subscribes again. Between a reconnect and the
handling of its event the two may differ: a filled list is then announced by the event that waits in
the queue (`Held`). When the queue is empty they agree. -/

namespace ThingsboardMqtt

open Relation Execution ListWalk

variable {conduct : Conduct}

/-! ## The property -/

/-- The broker holds the topic of each list if and only if the list is not empty. -/
structure StandingSubscriptions (client : Client) : Prop where
  attributessubscribe : client.brokerHolds .sharedAttributes = true ↔
    client.attributessubscribeList ≠ []
  serverrpc : client.brokerHolds .serverrpcRequest = true ↔ client.serverrpcList ≠ []

/-! ## The invariant of one list -/

inductive StandingList
  | attributessubscribe
  | serverrpc
  deriving DecidableEq, Repr

namespace StandingList

def topic : StandingList → Topic
  | .attributessubscribe => .sharedAttributes
  | .serverrpc => .serverrpcRequest

def isEmpty (client : Client) : StandingList → Bool
  | .attributessubscribe => client.attributessubscribeList.isEmpty
  | .serverrpc => client.serverrpcList.isEmpty

theorem topic_injective {list other : StandingList} (h : list.topic = other.topic) :
    list = other := by
  cases list <;> cases other <;> first | rfl | exact absurd h (by decide)

theorem topic_isResponse (list : StandingList) : list.topic.isResponse = false := by
  cases list <;> rfl

@[simp] theorem send_isEmpty (list : StandingList) (client : Client) (packets : List Packet) :
    list.isEmpty (client.send packets) = list.isEmpty client := by
  cases list <;> rfl

end StandingList

/-- The packet leaves the subscription of the topic alone. -/
def Packet.leaves (topic : Topic) (packet : Packet) : Prop :=
  packet ≠ .connack ∧ packet ≠ .subscribe topic ∧ packet ≠ .unsubscribe topic

/-- While connected, the broker holds the topic of a filled list, unless a `CONNECTED` event is
    still announced, and of no other. -/
structure Held (announced : Prop) (list : StandingList) (client : Client) : Prop where
  filled : tbcmhIsConnected client.core = true → client.brokerHolds list.topic = true →
    list.isEmpty client = false
  holds : tbcmhIsConnected client.core = true → list.isEmpty client = false →
    client.brokerHolds list.topic = true ∨ announced

/-- Neither the list nor its subscription changes. -/
structure Steady (list : StandingList) (client client' : Client) : Prop where
  state : client'.core.state = client.core.state
  isEmpty : list.isEmpty client' = list.isEmpty client
  sent : ∃ packets, client'.core.sent = client.core.sent ++ packets ∧
    ∀ packet ∈ packets, packet.leaves list.topic

theorem Client.brokerHolds_append {client client' : Client} {topic : Topic} {packets : List Packet}
    (hsent : client'.core.sent = client.core.sent ++ packets)
    (hpackets : ∀ packet ∈ packets, packet.leaves topic) :
    client'.brokerHolds topic = client.brokerHolds topic := by
  rw [brokerHolds, session_append hsent fun hmem => (hpackets _ hmem).1 rfl, brokerHolds]
  exact Session.isOn_append_of_other fun packet hmem =>
    ⟨decide_eq_false (hpackets packet hmem).2.1, decide_eq_false (hpackets packet hmem).2.2⟩

theorem Client.brokerHolds_subscribe (client : Client) (topic : Topic) :
    (client.send [.subscribe topic]).brokerHolds topic = true := by
  rw [brokerHolds, session_append (send_sent client _) (by simp)]
  exact Session.isOn_append_on (decide_eq_true rfl)

theorem Client.brokerHolds_unsubscribe (client : Client) (topic : Topic) :
    (client.send [.unsubscribe topic]).brokerHolds topic = false := by
  rw [brokerHolds, session_append (send_sent client _) (by simp)]
  exact Session.isOn_append_off (by simp) (decide_eq_true rfl)

theorem Client.brokerHolds_connack {client client' : Client} {topic : Topic}
    (hsent : client'.core.sent = client.core.sent ++ [.connack]) :
    client'.brokerHolds topic = false := by
  rw [brokerHolds, session_connack hsent]
  rfl

theorem Steady.isConnected {list : StandingList} {client client' : Client}
    (h : Steady list client client') :
    tbcmhIsConnected client'.core = tbcmhIsConnected client.core := by
  simp [tbcmhIsConnected, h.state]

theorem Held.steady {announced announced' : Prop} {list : StandingList} {client client' : Client}
    (h : Held announced list client) (hsteady : Steady list client client')
    (hannounced : announced → announced') : Held announced' list client' := by
  obtain ⟨packets, hsent, hpackets⟩ := hsteady.sent
  have hholds := Client.brokerHolds_append hsent hpackets
  constructor
  · intro hconnected htopic
    rw [hsteady.isEmpty]
    exact h.filled (hsteady.isConnected ▸ hconnected) (hholds ▸ htopic)
  · intro hconnected hfilled
    rw [hholds]
    exact (h.holds (hsteady.isConnected ▸ hconnected) (hsteady.isEmpty ▸ hfilled)).imp_right
      hannounced

theorem Held.of_not_connected {announced : Prop} {list : StandingList} {client : Client}
    (h : tbcmhIsConnected client.core = false) : Held announced list client :=
  ⟨fun hconnected => absurd (h.symm.trans hconnected) (by simp),
    fun hconnected => absurd (h.symm.trans hconnected) (by simp)⟩

/-! ## Steps that leave the list alone -/

namespace Steady

variable {list : StandingList}

theorem send (client : Client) {packets : List Packet}
    (h : ∀ packet ∈ packets, packet.leaves list.topic) :
    Steady list client (client.send packets) :=
  ⟨rfl, list.send_isEmpty client packets, packets, rfl, h⟩

theorem of_core {client client' : Client} (hcore : client'.core = client.core)
    (hisEmpty : list.isEmpty client' = list.isEmpty client) : Steady list client client' :=
  ⟨congrArg Core.state hcore, hisEmpty, [], by simp [hcore], by simp⟩

theorem trans {client₁ client₂ client₃ : Client} (h : Steady list client₁ client₂)
    (h' : Steady list client₂ client₃) : Steady list client₁ client₃ := by
  obtain ⟨packets, hsent, hpackets⟩ := h.sent
  obtain ⟨packets', hsent', hpackets'⟩ := h'.sent
  refine ⟨h'.state.trans h.state, h'.isEmpty.trans h.isEmpty, packets ++ packets', ?_, ?_⟩
  · rw [hsent', hsent, List.append_assoc]
  · intro packet hmem
    exact (List.mem_append.mp hmem).elim (hpackets packet) (hpackets' packet)

theorem leaves_of_ne {topic other : Topic} (h : other ≠ topic) :
    (Packet.subscribe other).leaves topic ∧ (Packet.unsubscribe other).leaves topic :=
  ⟨⟨by simp, by simpa using h, by simp⟩, ⟨by simp, by simp, by simpa using h⟩⟩

theorem responseTopic_ne (table : RequestTable) : table.responseTopic ≠ list.topic := by
  intro h
  have hresponse := table.responseTopic_isResponse
  rw [h, list.topic_isResponse] at hresponse
  exact absurd hresponse (by simp)

theorem unsubscribeEmptied (table : RequestTable) (isEmptyBefore : Bool) (client : Client) :
    Steady list client (unsubscribeEmptied table isEmptyBefore client) := by
  rw [unsubscribeEmptied_eq]
  refine send client ?_
  intro packet hmem
  unfold emptiedUnsubscription at hmem
  split at hmem
  · rw [List.mem_singleton.mp hmem]
    exact (leaves_of_ne (responseTopic_ne table)).2
  · exact absurd hmem List.not_mem_nil

theorem emptySubscription (table : RequestTable) (client : Client) :
    ∀ packet ∈ emptySubscription table client, packet.leaves list.topic := by
  intro packet hmem
  unfold ThingsboardMqtt.emptySubscription at hmem
  split at hmem
  · rw [List.mem_singleton.mp hmem]
    exact (leaves_of_ne (responseTopic_ne table)).1
  · exact absurd hmem List.not_mem_nil

theorem request {call : RequestCall} {hasOnTimeout : Bool} {answers : RequestAnswers}
    {client client' : Client} (outcome : RequestOutcome call hasOnTimeout answers client client') :
    Steady list client client' := by
  have hpublished : ∀ packet ∈ ThingsboardMqtt.emptySubscription call.table client ++
      [.request call.table (client.lastUid + 1)], packet.leaves list.topic := by
    intro packet hmem
    rcases List.mem_append.mp hmem with hmem | hmem
    · exact emptySubscription call.table client packet hmem
    · rw [List.mem_singleton.mp hmem]
      exact ⟨by simp, by simp, by simp⟩
  cases outcome with
  | refused => exact of_core rfl rfl
  | unpublished => exact ⟨rfl, by cases list <;> rfl, _, rfl, emptySubscription call.table client⟩
  | uncreated => exact ⟨rfl, by cases list <;> rfl, _, List.append_assoc _ _ _, hpublished⟩
  | accepted => exact ⟨rfl, by cases list <;> rfl, _, List.append_assoc _ _ _, hpublished⟩

theorem ota {client : Client} {ota : OtaWorld} (h : Quiet client.core ota.dev.core) :
    Steady list client { client with ota := ota } := by
  obtain ⟨packets, hsent, hpackets⟩ := h.sent
  refine ⟨h.state, by cases list <;> rfl, packets, hsent, ?_⟩
  intro packet hmem
  have hleaves : (Packet.subscribe .fwResponse).leaves list.topic ∧
      (Packet.unsubscribe .fwResponse).leaves list.topic :=
    leaves_of_ne (by cases list <;> decide)
  rcases hpackets packet hmem with rfl | rfl
  · exact hleaves.1
  · exact hleaves.2

theorem other {packets : List Packet} {list other : StandingList} (hother : other ≠ list)
    (h : ∀ packet ∈ packets,
      packet = .subscribe other.topic ∨ packet = .unsubscribe other.topic) :
    ∀ packet ∈ packets, packet.leaves list.topic := by
  intro packet hmem
  have hleaves := leaves_of_ne fun htopic => hother (StandingList.topic_injective htopic)
  rcases h packet hmem with rfl | rfl
  · exact hleaves.1
  · exact hleaves.2

end Steady

/-! ## Changes of a list -/

section Changes

variable {announced : Prop} {list : StandingList} {client : Client}

/-- A list that is filled is subscribed, if it was empty. -/
theorem Held.subscribeFilled (h : Held announced list client) (changed : StandingList)
    (client' : Client) (hcore : client'.core = client.core)
    (hother : list ≠ changed → list.isEmpty client' = list.isEmpty client)
    (hfilled : changed.isEmpty client' = false) :
    Held announced list (subscribeFilled changed.topic (changed.isEmpty client)
      (changed.isEmpty client') client') := by
  rw [subscribeFilled_eq, hfilled]
  by_cases hlist : list = changed
  · subst hlist
    cases hbefore : list.isEmpty client with
    | false =>
      simp only [Bool.and_false, Bool.false_and, Bool.false_eq_true, if_false, client'.send_nil]
      exact h.steady (.of_core hcore (hfilled.trans hbefore.symm)) id
    | true =>
      refine ⟨fun _ _ => (list.send_isEmpty client' _).trans hfilled, fun hconnected _ => .inl ?_⟩
      rw [Client.send_isConnected] at hconnected
      rw [if_pos (by simp [hconnected])]
      exact client'.brokerHolds_subscribe _
  · refine h.steady ((Steady.of_core hcore (hother hlist)).trans (.send client' ?_)) id
    refine Steady.other (Ne.symm hlist) ?_
    intro packet hmem
    split at hmem
    · exact .inl (List.mem_singleton.mp hmem)
    · exact absurd hmem List.not_mem_nil

/-- A list that is drained is unsubscribed, if it was filled. -/
theorem Held.unsubscribeDrained (h : Held announced list client) (changed : StandingList)
    (client' : Client) (hcore : client'.core = client.core)
    (hother : list ≠ changed → list.isEmpty client' = list.isEmpty client)
    (hdrained : changed.isEmpty client = true → changed.isEmpty client' = true) :
    Held announced list (unsubscribeDrained changed.topic (changed.isEmpty client)
      (changed.isEmpty client') client') := by
  rw [unsubscribeDrained_eq]
  by_cases hlist : list = changed
  · subst hlist
    -- the list stays as filled as it was, or it was drained just now
    by_cases hsame : list.isEmpty client' = list.isEmpty client
    · rw [hsame, if_neg (by cases list.isEmpty client <;> simp), client'.send_nil]
      exact h.steady (.of_core hcore hsame) id
    · have hbefore : list.isEmpty client = false := by
        cases hempty : list.isEmpty client with
        | false => rfl
        | true => exact absurd ((hdrained hempty).trans hempty.symm) hsame
      have hafter : list.isEmpty client' = true := by
        rw [hbefore] at hsame
        exact Bool.not_eq_false _ ▸ hsame
      rw [hbefore, hafter]
      constructor
      · intro hconnected htopic
        rw [Client.send_isConnected] at hconnected
        rw [if_pos (by simp [hconnected]), Client.brokerHolds_unsubscribe] at htopic
        exact absurd htopic (by simp)
      · intro _ hfilled
        rw [StandingList.send_isEmpty, hafter] at hfilled
        exact absurd hfilled (by simp)
  · refine h.steady ((Steady.of_core hcore (hother hlist)).trans (.send client' ?_)) id
    refine Steady.other (Ne.symm hlist) ?_
    intro packet hmem
    split at hmem
    · exact .inr (List.mem_singleton.mp hmem)
    · exact absurd hmem List.not_mem_nil

/-- Behind the subscription that is sent again, nothing needs to be announced. -/
theorem Held.resubscribe_self (h : Held announced list client) :
    Held False list (resubscribe list.topic (list.isEmpty client) client) := by
  rw [resubscribe_eq]
  cases hempty : list.isEmpty client with
  | true =>
    rw [if_neg (by simp), client.send_nil]
    exact ⟨h.filled, fun _ hfilled => absurd (hempty.symm.trans hfilled) (by simp)⟩
  | false =>
    refine ⟨fun _ _ => (list.send_isEmpty client _).trans hempty, fun hconnected _ => .inl ?_⟩
    rw [Client.send_isConnected] at hconnected
    rw [if_pos (by simp [hconnected])]
    exact client.brokerHolds_subscribe _

theorem Held.resubscribe_other (h : Held announced list client) (changed : StandingList)
    (hlist : changed ≠ list) (isEmpty : Bool) :
    Held announced list (resubscribe changed.topic isEmpty client) := by
  rw [resubscribe_eq]
  refine h.steady (.send client (Steady.other hlist ?_)) id
  intro packet hmem
  split at hmem
  · exact .inl (List.mem_singleton.mp hmem)
  · exact absurd hmem List.not_mem_nil

end Changes

theorem removeFirst_isEmpty {α : Type} (p : α → Bool) {list : List α} (h : list.isEmpty = true) :
    (removeFirst p list).isEmpty = true := by
  rw [List.isEmpty_iff.mp h]
  rfl

theorem Held.attributesSubscribe {announced : Prop} {list : StandingList} {client : Client}
    (h : Held announced list client) (reader : Reader) (keys : List String) :
    Held announced list (tbcmhAttributesSubscribe reader keys client).2 := by
  let filled : Client :=
    { client with
      lastSubscribeId := (client.lastSubscribeId + 1) % 2 ^ 32
      attributessubscribeList := client.attributessubscribeList ++
        [⟨(client.lastSubscribeId + 1) % 2 ^ 32, keys, reader⟩] }
  refine h.subscribeFilled .attributessubscribe filled rfl
    ?_ (by simp [filled, StandingList.isEmpty])
  intro hlist
  cases list with
  | attributessubscribe => exact absurd rfl hlist
  | serverrpc => rfl

theorem Held.attributesUnsubscribe {announced : Prop} {list : StandingList} {client : Client}
    (h : Held announced list client) (subscribeId : Nat) :
    Held announced list (tbcmhAttributesUnsubscribe subscribeId client) := by
  let fits (entry : Attributessubscribe) : Bool := entry.subscribeId = subscribeId
  let drained : Client :=
    { client.log (.unsubscribed
        ((splitFirst fits client.attributessubscribeList).map (·.2.1.reader))) with
      attributessubscribeList := removeFirst fits client.attributessubscribeList }
  refine h.unsubscribeDrained .attributessubscribe drained rfl
    ?_ (removeFirst_isEmpty _)
  intro hlist
  cases list with
  | attributessubscribe => exact absurd rfl hlist
  | serverrpc => rfl

theorem Held.serverrpcSubscribe {announced : Prop} {list : StandingList} {client : Client}
    (h : Held announced list client) (method : String) :
    Held announced list (tbcmhServerrpcSubscribe method client) := by
  let filled : Client := { client with serverrpcList := client.serverrpcList ++ [method] }
  refine h.subscribeFilled .serverrpc filled rfl
    ?_ (by simp [filled, StandingList.isEmpty])
  intro hlist
  cases list with
  | attributessubscribe => rfl
  | serverrpc => exact absurd rfl hlist

theorem Held.serverrpcUnsubscribe {announced : Prop} {list : StandingList} {client : Client}
    (h : Held announced list client) (method : String) :
    Held announced list (tbcmhServerrpcUnsubscribe method client) := by
  let drained : Client :=
    { client with
      serverrpcList := removeFirst (fun entry => entry = method) client.serverrpcList }
  refine h.unsubscribeDrained .serverrpc drained rfl
    ?_ (removeFirst_isEmpty _)
  intro hlist
  cases list with
  | attributessubscribe => rfl
  | serverrpc => exact absurd rfl hlist

/-! ## Acts and events -/

/-- A `CONNECTED` event waits in the queue. -/
def Client.Announced (client : Client) : Prop := .connected ∈ client.queue

theorem bridgeSend_core (event : TbcmEvent) (client : Client) :
    (bridgeSend event client).core = client.core := by
  unfold bridgeSend
  split <;> rfl

theorem bridgeSend_isEmpty (event : TbcmEvent) (client : Client) (list : StandingList) :
    list.isEmpty (bridgeSend event client) = list.isEmpty client := by
  unfold bridgeSend
  split <;> cases list <;> rfl

theorem bridgeSend_announced {client : Client} (h : client.Announced) (event : TbcmEvent) :
    (bridgeSend event client).Announced := by
  unfold bridgeSend
  split
  · exact List.mem_append_left _ h
  · exact h

theorem Act.run_announced (act : Act) {client : Client} (h : client.Announced) :
    (act.run client).Announced := by
  cases act with
  | connack =>
    simp only [Act.run, onMqttConnected]
    split
    · refine bridgeSend_announced ?_ _
      exact h
    · exact h
  | connectionLost =>
    simp only [Act.run, onMqttDisconnected]
    split
    · refine bridgeSend_announced ?_ _
      exact h
    · exact h
  | receive _ | responseTimer => exact bridgeSend_announced h _
  | tick _ | otaupdateSubscribe _ _ _ | otaupdateUnsubscribe _ => exact h
  | request call hasOnTimeout answers =>
    have outcome := tbcmhRequest_outcome call .application hasOnTimeout answers client
    rw [Client.Announced, Act.run, outcome.sameLink.queue]
    exact h
  | attributesSubscribe _ | attributesUnsubscribe _ | serverrpcSubscribe _
  | serverrpcUnsubscribe _ =>
    simp only [Act.run, tbcmhAttributesSubscribe, tbcmhAttributesUnsubscribe,
      tbcmhServerrpcSubscribe, tbcmhServerrpcUnsubscribe, subscribeFilled_eq,
      unsubscribeDrained_eq]
    exact h

/-- A new session holds nothing, and its event is put into the queue. -/
theorem Held.connack {list : StandingList} {client : Client} (h : Held client.Announced list client) :
    Held (onMqttConnected client).Announced list (onMqttConnected client) := by
  simp only [onMqttConnected]
  split
  · rename_i hhandle
    rw [Bool.and_eq_true] at hhandle
    have hsent : (bridgeSend .connected (client.setCore { client.core with
        state := .connected
        sent := client.core.sent ++ [.connack] })).core.sent = client.core.sent ++ [.connack] := by
      rw [bridgeSend_core]
      rfl
    refine ⟨?_, fun _ _ => .inr ?_⟩
    · intro _ htopic
      rw [Client.brokerHolds_connack hsent] at htopic
      exact absurd htopic (by simp)
    · rw [bridgeSend, if_pos (by simp [hhandle.1])]
      exact List.mem_append_right _ List.mem_cons_self
  · exact h

/-- Every other act keeps what was announced. -/
theorem Held.act_of_ne {announced : Prop} {list : StandingList} {client : Client}
    (h : Held announced list client) {act : Act} (hconnack : act ≠ .connack) :
    Held announced list (act.run client) := by
  have hbridge : ∀ event, Held announced list (bridgeSend event client) := fun event =>
    h.steady (.of_core (bridgeSend_core event client) (bridgeSend_isEmpty event client list)) id
  cases act with
  | connack => exact absurd rfl hconnack
  | connectionLost =>
    simp only [Act.run, onMqttDisconnected]
    split
    · refine .of_not_connected ?_
      rw [bridgeSend_core]
      rfl
    · exact h
  | receive data => exact hbridge (.data data)
  | responseTimer => exact hbridge .checkTimeout
  | tick seconds => exact h.steady ⟨rfl, by cases list <;> rfl, [], by simp [Act.run], by simp⟩ id
  | request call hasOnTimeout answers =>
    exact h.steady (.request (tbcmhRequest_outcome call .application hasOnTimeout answers client)) id
  | attributesSubscribe keys => exact h.attributesSubscribe .application keys
  | attributesUnsubscribe subscribeId => exact h.attributesUnsubscribe subscribeId
  | serverrpcSubscribe method => exact h.serverrpcSubscribe method
  | serverrpcUnsubscribe method => exact h.serverrpcUnsubscribe method
  | otaupdateSubscribe otaDescription otaType nextUpdatePartition =>
    exact h.steady (.of_core (tbcmhOtaupdateSubscribe_core _ _ _ _) (by cases list <;> rfl)) id
  | otaupdateUnsubscribe otaDescription =>
    exact h.steady (.of_core (tbcmhOtaupdateUnsubscribe_core _ _) (by cases list <;> rfl)) id

/-- Behind the handling of a `CONNECTED` event, nothing needs to be announced. -/
theorem Held.connected {announced : Prop} {list : StandingList} {client : Client}
    (h : Held announced list client) (answers : EventAnswers) :
    Held False list (onTbcmConnected answers client) := by
  have hitem : ∀ otaType client, Held False list client →
      Held False list (otaupdateItemOnConnected otaType answers client) := by
    intro otaType client h
    unfold otaupdateItemOnConnected
    split
    · exact h
    · rename_i otaupdate hitem
      have hpublished : Held False list (publishEarlyCurrentVersion otaupdate answers.ota client) :=
        h.steady (.of_core rfl (by cases list <;> rfl)) id
      exact (hpublished.attributesSubscribe _ _).steady (.request (tbcmhRequest_outcome _ _ _ _ _)) id
  have hlogged : Held announced list
      (client.log (.connected ((client.firstItem .fw).map (·.addr)))) :=
    h.steady (.of_core rfl (by cases list <;> rfl)) id
  refine hitem .sw _ (hitem .fw _ ?_)
  -- each list is subscribed again by its own part of the helper
  cases list with
  | attributessubscribe =>
    exact hlogged.resubscribe_self.resubscribe_other .serverrpc (by decide) _
  | serverrpc =>
    exact (hlogged.resubscribe_other .attributessubscribe (by decide) _).resubscribe_self

/-! ## Runs -/

theorem held_move {list : StandingList} {config config' : Config}
    (h : Held config.client.Announced list config.client) (move : Move conduct config config') :
    Held config'.client.Announced list config'.client := by
  cases move with
  | act client detached site act allowed =>
    by_cases hconnack : act = .connack
    · subst hconnack
      exact h.connack
    · exact (h.act_of_ne hconnack).steady (.of_core rfl rfl) act.run_announced
  | dequeue client event queue hqueue hother =>
    refine h.steady (.of_core rfl (by cases list <;> rfl)) ?_
    intro hannounced
    have hmem : .connected ∈ event :: queue := hqueue ▸ hannounced
    exact (List.mem_cons.mp hmem).resolve_left (Ne.symm hother)
  | connected client queue answers hqueue allowed =>
    have hdequeued : Held client.Announced list { client with queue := queue } :=
      h.steady (.of_core rfl (by cases list <;> rfl)) id
    exact (hdequeued.connected answers).steady (.of_core rfl rfl) False.elim
  | ota client ota hquiet => exact h.steady (.ota hquiet.core) id
  | take client table requestId front request back hlist =>
    have hset : Steady list client (client.setRequests table (front ++ back)) :=
      .of_core rfl (by cases list <;> rfl)
    refine h.steady (hset.trans (.unsubscribeEmptied table false _)) ?_
    intro hannounced
    rw [unsubscribeEmptied_eq]
    exact hannounced
  | openSweep client sweep table timestamp hall =>
    have hset : Steady list client (client.setRequests table
        ((client.requestList table).filter fun request => !request.timedOut timestamp)) :=
      .of_core rfl (by cases list <;> rfl)
    refine h.steady (hset.trans (.unsubscribeEmptied table _ _)) ?_
    intro hannounced
    simp only [moveTimedOut, unsubscribeEmptied_eq]
    exact hannounced
  | connect client hcontrol => exact .of_not_connected rfl
  | stop client destroy hcontrol => exact .of_not_connected rfl
  | destroy client allowed => exact .of_not_connected rfl
  | handOver | respond | expire | drop | closeSweep | clear | checked | setControl =>
    exact h.steady (.of_core rfl (by cases list <;> rfl)) id

/-- In every state of every run that is connected and has an empty queue, the broker knows the
    standing subscriptions. -/
theorem standingSubscriptions_of_run {now lastHandle : Nat} {inputs : List (ClientInput .any)}
    {client : Client}
    (run : Run (within Permitted (Succeeds clientStep)) (tbcmhInit now lastHandle) inputs client)
    (hconnected : tbcmhIsConnected client.core = true) (hqueue : client.queue = []) :
    StandingSubscriptions client := by
  have hheld : ∀ list, Held client.Announced list client := fun list =>
    invariant_of_moves (P := fun config => Held config.client.Announced list config.client)
      (.of_not_connected rfl) (fun _ _ => held_move) (moves_of_run run)
  have hiff : ∀ list : StandingList,
      client.brokerHolds list.topic = true ↔ list.isEmpty client = false := by
    intro list
    refine ⟨(hheld list).filled hconnected, ?_⟩
    intro hfilled
    refine ((hheld list).holds hconnected hfilled).resolve_right ?_
    intro hannounced
    rw [Client.Announced, hqueue] at hannounced
    exact absurd hannounced List.not_mem_nil
  refine ⟨(hiff .attributessubscribe).trans ?_, (hiff .serverrpc).trans ?_⟩
  all_goals simp [StandingList.isEmpty]

/-- Two subscriptions of each kind, of which one is taken back while the connection is lost. -/
def droppedSubscriptions : List (ClientInput .any) :=
  [.connect, .act .connack, .act (.attributesSubscribe ["a"]), .act (.serverrpcSubscribe "reboot"),
    .act .connectionLost, .act (.serverrpcUnsubscribe "reboot"), .act .connack,
    .act (.attributesSubscribe ["b"]), .tbcmhRun (fun _ _ => .silent trivial) sampleEventAnswers,
    .tbcmhRun (fun _ _ => .silent trivial) sampleEventAnswers,
    .tbcmhRun (fun _ _ => .silent trivial) sampleEventAnswers]

/-- The broker knows the shared attributes in the end. -/
theorem standingSubscriptions_of_run_droppedSubscriptions :
    StandingSubscriptions (droppedSubscriptions.foldl (advance clientStep) (tbcmhInit 100 0)) := by
  refine standingSubscriptions_of_run (run_of_any (by decide +kernel)) (by decide +kernel) ?_
  exact List.isEmpty_iff.mp (by decide +kernel)

end ThingsboardMqtt
