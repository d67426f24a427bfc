import ThingsboardMqtt.Helper.Moves

set_option autoImplicit false

/-! # Moves as the request tables see them

Most of what the helper does leaves the request tables, their response topics and the callbacks of
requests alone (`Beside`). `Move.requestMove` sorts the moves accordingly, so a proof about requests
looks at the others only. -/

namespace ThingsboardMqtt

open Relation

variable {conduct : Conduct}

/-- The responses to requests arrive there. -/
def Topic.isResponse : Topic → Bool
  | .attributesResponse | .clientrpcResponse | .provisionResponse => true
  | _ => false

theorem RequestTable.responseTopic_isResponse (table : RequestTable) :
    table.responseTopic.isResponse = true := by cases table <;> rfl

/-- A packet about another topic, within a session. -/
def Packet.isBeside : Packet → Bool
  | .connack => false
  | .subscribe topic => !topic.isResponse
  | .unsubscribe topic => !topic.isResponse
  | .request _ _ => false

/-- An action that concerns no request. -/
def HelperAction.isBeside : HelperAction → Bool
  | .onRequest _ _ => true
  | .connected _ => true
  | .unsubscribed _ => true
  | _ => false

structure Beside (client client' : Client) : Prop where
  requestList : client'.requestList = client.requestList
  lastUid : client'.lastUid = client.lastUid
  now : client.core.now ≤ client'.core.now
  history : ∃ actions, client'.history = client.history ++ actions ∧
    ∀ action ∈ actions, action.isBeside = true
  sent : ∃ packets, client'.core.sent = client.core.sent ++ packets ∧
    ∀ packet ∈ packets, packet.isBeside = true

namespace Beside

theorem of_eq {client client' : Client} (hlist : client'.requestList = client.requestList)
    (huid : client'.lastUid = client.lastUid) (hnow : client.core.now ≤ client'.core.now)
    (hhistory : client'.history = client.history) (hsent : client'.core.sent = client.core.sent) :
    Beside client client' :=
  ⟨hlist, huid, hnow, ⟨[], by simp [hhistory], by simp⟩, ⟨[], by simp [hsent], by simp⟩⟩

theorem refl (client : Client) : Beside client client := of_eq rfl rfl (Nat.le_refl _) rfl rfl

theorem trans {client₁ client₂ client₃ : Client} (h : Beside client₁ client₂)
    (h' : Beside client₂ client₃) : Beside client₁ client₃ := by
  obtain ⟨actions, hhistory, hactions⟩ := h.history
  obtain ⟨actions', hhistory', hactions'⟩ := h'.history
  obtain ⟨packets, hsent, hpackets⟩ := h.sent
  obtain ⟨packets', hsent', hpackets'⟩ := h'.sent
  refine ⟨h'.requestList.trans h.requestList, h'.lastUid.trans h.lastUid, Nat.le_trans h.now h'.now,
    ⟨actions ++ actions', ?_, ?_⟩, ⟨packets ++ packets', ?_, ?_⟩⟩
  · rw [hhistory', hhistory, List.append_assoc]
  · intro action hmem
    exact (List.mem_append.mp hmem).elim (hactions action) (hactions' action)
  · rw [hsent', hsent, List.append_assoc]
  · intro packet hmem
    exact (List.mem_append.mp hmem).elim (hpackets packet) (hpackets' packet)

theorem send (client : Client) {packets : List Packet}
    (h : ∀ packet ∈ packets, packet.isBeside = true) : Beside client (client.send packets) :=
  ⟨rfl, rfl, Nat.le_refl _, ⟨[], by simp, by simp⟩, ⟨packets, rfl, h⟩⟩

theorem log (client : Client) {action : HelperAction} (h : action.isBeside = true) :
    Beside client (client.log action) :=
  ⟨rfl, rfl, Nat.le_refl _, ⟨[action], rfl, by simp [h]⟩, ⟨[], by simp, by simp⟩⟩

theorem ota {client : Client} {ota : OtaWorld} (h : Quiet client.core ota.dev.core) :
    Beside client { client with ota := ota } := by
  obtain ⟨packets, hsent, hpackets⟩ := h.sent
  refine ⟨rfl, rfl, Nat.le_of_eq h.now.symm, ⟨[], by simp, by simp⟩, packets, hsent, ?_⟩
  intro packet hmem
  rcases hpackets packet hmem with rfl | rfl <;> rfl

theorem sendWhen (client : Client) {packet : Packet} (h : packet.isBeside = true) (sends : Bool) :
    Beside client (client.send (if sends then [packet] else [])) := by
  refine send client ?_
  intro sent hmem
  split at hmem
  · rw [List.mem_singleton.mp hmem]
    exact h
  · exact absurd hmem List.not_mem_nil

theorem subscribeFilled {topic : Topic} (htopic : topic.isResponse = false)
    (isEmptyBefore isEmpty : Bool) (client : Client) :
    Beside client (subscribeFilled topic isEmptyBefore isEmpty client) := by
  rw [subscribeFilled_eq]
  exact sendWhen client (by simp [Packet.isBeside, htopic]) _

theorem unsubscribeDrained {topic : Topic} (htopic : topic.isResponse = false)
    (isEmptyBefore isEmpty : Bool) (client : Client) :
    Beside client (unsubscribeDrained topic isEmptyBefore isEmpty client) := by
  rw [unsubscribeDrained_eq]
  exact sendWhen client (by simp [Packet.isBeside, htopic]) _

theorem resubscribe {topic : Topic} (htopic : topic.isResponse = false) (isEmpty : Bool)
    (client : Client) : Beside client (resubscribe topic isEmpty client) := by
  rw [resubscribe_eq]
  exact sendWhen client (by simp [Packet.isBeside, htopic]) _

theorem bridgeSend (event : TbcmEvent) (client : Client) :
    Beside client (bridgeSend event client) := by
  unfold ThingsboardMqtt.bridgeSend
  split
  · exact of_eq rfl rfl (Nat.le_refl _) rfl rfl
  · exact refl client

theorem attributesSubscribe (reader : Reader) (keys : List String) (client : Client) :
    Beside client (tbcmhAttributesSubscribe reader keys client).2 := by
  refine .trans ?_ (subscribeFilled rfl _ _ _)
  exact of_eq rfl rfl (Nat.le_refl _) rfl rfl

theorem act (act : Act) (client : Client) (hconnack : act ≠ .connack)
    (hrequest : ∀ call hasOnTimeout answers, act ≠ .request call hasOnTimeout answers) :
    Beside client (act.run client) := by
  cases act with
  | connack => exact absurd rfl hconnack
  | request call hasOnTimeout answers => exact absurd rfl (hrequest call hasOnTimeout answers)
  | connectionLost =>
    simp only [Act.run, onMqttDisconnected]
    split
    · refine .trans ?_ (bridgeSend _ _)
      exact of_eq rfl rfl (Nat.le_refl _) rfl rfl
    · exact refl client
  | receive data => exact bridgeSend _ client
  | responseTimer => exact bridgeSend _ client
  | tick seconds => exact of_eq rfl rfl (Nat.le_add_right _ _) rfl rfl
  | attributesSubscribe keys => exact attributesSubscribe .application keys client
  | attributesUnsubscribe subscribeId =>
    refine .trans ?_ (unsubscribeDrained rfl _ _ _)
    exact ⟨rfl, rfl, Nat.le_refl _, ⟨[.unsubscribed _], rfl, by simp [HelperAction.isBeside]⟩,
      ⟨[], (List.append_nil _).symm, by simp⟩⟩
  | serverrpcSubscribe method =>
    refine .trans ?_ (subscribeFilled rfl _ _ _)
    exact of_eq rfl rfl (Nat.le_refl _) rfl rfl
  | serverrpcUnsubscribe method =>
    refine .trans ?_ (unsubscribeDrained rfl _ _ _)
    exact of_eq rfl rfl (Nat.le_refl _) rfl rfl
  | otaupdateSubscribe otaDescription otaType nextUpdatePartition =>
    have hcore := tbcmhOtaupdateSubscribe_core otaDescription otaType nextUpdatePartition client.ota
    exact of_eq rfl rfl (Nat.le_of_eq (congrArg Core.now hcore).symm) rfl (congrArg Core.sent hcore)
  | otaupdateUnsubscribe otaDescription =>
    have hcore := tbcmhOtaupdateUnsubscribe_core otaDescription client.ota
    exact of_eq rfl rfl (Nat.le_of_eq (congrArg Core.now hcore).symm) rfl (congrArg Core.sent hcore)

end Beside

inductive RequestMove (conduct : Conduct) : Config → Config → Prop
  | beside (client client' : Client) (detached : List (RequestTable × Request))
      (site : Option Site) (h : Beside client client') :
    RequestMove conduct ⟨client, detached, site⟩ ⟨client', detached, site⟩
  | connack (client : Client) (detached : List (RequestTable × Request)) (site : Option Site) :
    RequestMove conduct ⟨client, detached, site⟩ ⟨onMqttConnected client, detached, site⟩
  | request (client client' : Client) (detached : List (RequestTable × Request))
      (site : Option Site) (call : RequestCall) (hasOnTimeout : Bool) (answers : RequestAnswers)
      (allowed : conduct.act site client (.request call hasOnTimeout answers))
      (outcome : RequestOutcome call hasOnTimeout answers client client') :
    RequestMove conduct ⟨client, detached, site⟩ ⟨client', detached, site⟩
  | connected (client : Client) (queue : List TbcmEvent) (answers : EventAnswers)
      (allowed : conduct.connected client answers) :
    RequestMove conduct client.idle (onTbcmConnected answers { client with queue := queue }).idle
  | take (client : Client) (table : RequestTable) (front : List Request) (request : Request)
      (back : List Request) (hlist : client.requestList table = front ++ request :: back) :
    RequestMove conduct client.idle
      ⟨unsubscribeEmptied table false (client.setRequests table (front ++ back)),
        [(table, request)], none⟩
  | respond (client : Client) (table : RequestTable) (request : Request) (requestId : Nat) :
    RequestMove conduct ⟨client, [(table, request)], none⟩
      (client.log (.onResponse table request.uid requestId)).idle
  | expire (client : Client) (table : RequestTable) (request : Request)
      (detached : List (RequestTable × Request)) (site : Option Site) :
    RequestMove conduct ⟨client, (table, request) :: detached, site⟩
      ⟨client.log (.onTimeout table request.uid), detached, site⟩
  | drop (client : Client) (table : RequestTable) (request : Request)
      (detached : List (RequestTable × Request)) (site : Option Site)
      (hstopped : request.hasOnTimeout = true → conduct.result 2) :
    RequestMove conduct ⟨client, (table, request) :: detached, site⟩ ⟨client, detached, site⟩
  | openSweep (client : Client) (sweep : Sweep) (table : RequestTable) (timestamp : Nat)
      (hall : sweep = .disconnected → client.core.now + tbMqttTimeout + 2 = timestamp) :
    RequestMove conduct client.idle
      ⟨(moveTimedOut table timestamp client).2,
        (moveTimedOut table timestamp client).1.map ((table, ·)), some ⟨sweep, table⟩⟩
  | closeSweep (client : Client) (table : RequestTable) :
    RequestMove conduct ⟨client, [], some ⟨.checkTimeout, table⟩⟩ client.idle
  | clear (client : Client) (table : RequestTable) :
    RequestMove conduct ⟨client, [], some ⟨.disconnected, table⟩⟩
      (client.setRequests table []).idle
  | destroy (client : Client) (allowed : conduct.destroy client) :
    RequestMove conduct client.idle (tbcmhOnDestroy client).idle

/-- A new session leaves the tables alone, and what was sent stands before it. -/
theorem onMqttConnected_cases (client : Client) :
    onMqttConnected client = client ∨
      (onMqttConnected client).requestList = client.requestList ∧
        (onMqttConnected client).lastUid = client.lastUid ∧
        (onMqttConnected client).core.now = client.core.now ∧
        (onMqttConnected client).history = client.history ∧
        (onMqttConnected client).core.sent = client.core.sent ++ [.connack] := by
  simp only [onMqttConnected, bridgeSend]
  split
  · split <;> exact .inr ⟨rfl, rfl, rfl, rfl, rfl⟩
  · exact .inl rfl

/-- Every move is one of these. -/
theorem Move.requestMove {config config' : Config} (move : Move conduct config config') :
    RequestMove conduct config config' := by
  cases move with
  | act client detached site act allowed =>
    by_cases hconnack : act = .connack
    · subst hconnack
      exact .connack client detached site
    · by_cases hrequest : ∃ call hasOnTimeout answers, act = .request call hasOnTimeout answers
      · obtain ⟨call, hasOnTimeout, answers, rfl⟩ := hrequest
        exact .request client _ detached site call hasOnTimeout answers allowed
          (tbcmhRequest_outcome _ _ _ _ _)
      · refine .beside client _ detached site (Beside.act act client hconnack ?_)
        exact fun call hasOnTimeout answers heq => hrequest ⟨call, hasOnTimeout, answers, heq⟩
  | connected client queue answers hqueue allowed => exact .connected client queue answers allowed
  | take client table requestId front request back hlist =>
    exact .take client table front request back hlist
  | respond client table request requestId => exact .respond client table request requestId
  | expire client table request detached site hcallback =>
    exact .expire client table request detached site
  | drop client table request detached site hstopped =>
    exact .drop client table request detached site hstopped
  | openSweep client sweep table timestamp hall =>
    exact .openSweep client sweep table timestamp hall
  | closeSweep client table => exact .closeSweep client table
  | clear client table => exact .clear client table
  | destroy client allowed => exact .destroy client allowed
  | ota client ota hquiet => exact .beside client _ [] none (.ota hquiet.core)
  | handOver client requestId method => exact .beside client _ [] none (.log client rfl)
  | dequeue client event queue hqueue hother =>
    exact .beside client _ [] none (.of_eq rfl rfl (Nat.le_refl _) rfl rfl)
  | checked client timestamp =>
    exact .beside client _ [] none (.of_eq rfl rfl (Nat.le_refl _) rfl rfl)
  | connect client hcontrol =>
    exact .beside client _ [] none (.of_eq rfl rfl (Nat.le_refl _) rfl rfl)
  | stop client destroy hcontrol =>
    exact .beside client _ [] none (.of_eq rfl rfl (Nat.le_refl _) rfl rfl)
  | setControl client control hbefore hcontrol =>
    exact .beside client _ [] none (.of_eq rfl rfl (Nat.le_refl _) rfl rfl)

theorem tbcmhAttributesSubscribe_otaupdateList (reader : Reader) (keys : List String)
    (client : Client) : (tbcmhAttributesSubscribe reader keys client).2.ota.otaupdateList
      = client.ota.otaupdateList := by
  simp only [tbcmhAttributesSubscribe, subscribeFilled_eq]
  rfl

/-- The rule for the handling of a `CONNECTED` event: its steps are beside the requests, but for the
    request of an OTA item. -/
theorem onTbcmConnected_rule {P : Client → Prop} {answers : EventAnswers}
    (hbeside : ∀ client client' : Client, P client → Beside client client' →
      client.SameLink client' → client'.ota.otaupdateList = client.ota.otaupdateList → P client')
    (hrequest : ∀ keys (client client' : Client), P client → client.ota.otaupdateList ≠ [] →
      RequestOutcome (.sharedattributes keys) false answers.request client client' → P client')
    (client : Client) (h : P client) : P (onTbcmConnected answers client) := by
  have hitem : ∀ otaType client, P client →
      P (otaupdateItemOnConnected otaType answers client) := by
    intro otaType client h
    unfold otaupdateItemOnConnected
    split
    · exact h
    · rename_i otaupdate hitem
      have hpublished : P (publishEarlyCurrentVersion otaupdate answers.ota client) :=
        hbeside client _ h (.of_eq rfl rfl (Nat.le_refl _) rfl rfl) ⟨rfl, rfl, rfl, rfl, rfl⟩ rfl
      have hsubscribed := hbeside _ _ hpublished
        (.attributesSubscribe (.otaupdate otaType otaupdate.addr) (otaAttributeKeys otaType).toList _)
        (tbcmhAttributesSubscribe_sameLink _ _ _) (tbcmhAttributesSubscribe_otaupdateList _ _ _)
      refine hrequest _ _ _ hsubscribed ?_ (tbcmhRequest_outcome _ _ _ _ _)
      rw [tbcmhAttributesSubscribe_otaupdateList]
      exact List.ne_nil_of_mem (List.mem_of_find?_eq_some hitem)
  have hresubscribe : ∀ topic isEmpty client, topic.isResponse = false → P client →
      P (resubscribe topic isEmpty client) := by
    intro topic isEmpty client htopic h
    refine hbeside client _ h (.resubscribe htopic _ _) ?_ ?_
    · rw [resubscribe_eq]
      exact ⟨rfl, rfl, rfl, rfl, rfl⟩
    · rw [resubscribe_eq]
      rfl
  have hlogged := hbeside client _ h
    (.log client (rfl : (HelperAction.connected ((client.firstItem .fw).map (·.addr))).isBeside = true))
    ⟨rfl, rfl, rfl, rfl, rfl⟩ rfl
  exact hitem .sw _ (hitem .fw _ (hresubscribe .serverrpcRequest _ _ rfl
    (hresubscribe .sharedAttributes _ _ rfl hlogged)))

/-! ## A destroyed client -/

/-- Behind `tbcmh_destroy` no request is left. -/
def DestroyedEmpty (config : Config) : Prop :=
  config.client.control = .destroyed →
    config.client.Stopped ∧ ∀ table, config.client.requestList table = []

theorem destroyedEmpty_move {config config' : Config}
    (h : DestroyedEmpty config) (move : Move conduct config config') : DestroyedEmpty config' := by
  intro hdestroyed
  cases move with
  | act client detached site act allowed =>
    obtain ⟨hstopped, hempty⟩ := h ((act.run_control client).symm.trans hdestroyed)
    obtain ⟨hstopped', hlist⟩ := hstopped.run act
    exact ⟨hstopped', fun table => (congrFun hlist table).trans (hempty table)⟩
  | connected client queue answers hqueue allowed =>
    have hlink := onTbcmConnected_sameLink answers { client with queue := queue }
    have hbefore := h (hlink.control.symm.trans hdestroyed)
    refine onTbcmConnected_rule
      (P := fun client => client.Stopped ∧ ∀ table, client.requestList table = []) ?_ ?_
      { client with queue := queue } ⟨⟨hbefore.1.state, hbefore.1.handle⟩, hbefore.2⟩
    · intro client client' h hbeside hlink _
      exact ⟨⟨hlink.state.trans h.1.state, hlink.handle.trans h.1.handle⟩,
        fun table => (congrFun hbeside.requestList table).trans (h.2 table)⟩
    · intro keys client client' h _ outcome
      have hconnected := h.1.isConnected
      cases outcome with
      | refused => exact h
      | unpublished htrue | uncreated htrue | accepted htrue =>
        exact absurd (htrue.symm.trans hconnected) (by simp)
  | take client table requestId front request back hlist =>
    rw [unsubscribeEmptied_eq] at hdestroyed
    have hempty := (h hdestroyed).2 table
    exact absurd (hlist.symm.trans hempty) (by simp)
  | openSweep client sweep table timestamp hall =>
    simp only [moveTimedOut, unsubscribeEmptied_eq] at hdestroyed ⊢
    obtain ⟨hstopped, hempty⟩ := h hdestroyed
    refine ⟨(hstopped.setRequests table _).send _, ?_⟩
    intro other
    rw [Client.send_requestList, Client.setRequests_requestList]
    split
    · rw [show client.requestList table = [] from hempty table, List.filter_nil]
    · exact hempty other
  | clear client table =>
    obtain ⟨hstopped, hempty⟩ := h hdestroyed
    refine ⟨hstopped.setRequests table [], ?_⟩
    intro other
    simp only [Client.idle, Client.setRequests_requestList]
    split
    · rfl
    · exact hempty other
  | ota client ota hquiet =>
    obtain ⟨hstopped, hempty⟩ := h hdestroyed
    exact ⟨⟨hquiet.core.state.trans hstopped.state, hstopped.handle⟩, hempty⟩
  | connect client hcontrol => exact absurd (hcontrol.symm.trans hdestroyed) (by simp)
  | stop client destroy hcontrol => exact absurd hdestroyed (by simp [Client.idle])
  | setControl client control hbefore hcontrol =>
    rcases hcontrol with rfl | ⟨_, rfl | rfl⟩ <;> exact absurd hdestroyed (by simp [Client.idle])
  | destroy client allowed => exact ⟨⟨rfl, rfl⟩, fun _ => rfl⟩
  | dequeue | handOver | respond | expire | drop | closeSweep | checked =>
    obtain ⟨hstopped, hempty⟩ := h hdestroyed
    exact ⟨⟨hstopped.state, hstopped.handle⟩, hempty⟩

end ThingsboardMqtt
