import ThingsboardMqtt.Helper.RequestMoves

set_option autoImplicit false

/-! # OTA entries among the standing subscriptions

Every `CONNECTED` event that is handled with an F/W item registered appends an entry to
`attributessubscribe_list`. A disconnection leaves these entries there; only a call of
`tbcmh_attributes_unsubscribe` takes one out, and the application is not told their ids. A message of
shared attributes is handed to each of them, and each negotiates with the item the message is for. So
there is one negotiation exactly when one more such event was handled than entries were taken out. -/

namespace ThingsboardMqtt

open Relation Execution ListWalk

variable {conduct : Conduct}

/-! ## The property -/

/-- The entry hands messages to the F/W items. -/
def Attributessubscribe.isOta (entry : Attributessubscribe) : Bool :=
  match entry.reader with
  | .otaupdate .fw _ => true
  | _ => false

/-- A `CONNECTED` event is handled with an F/W item registered. -/
def HelperAction.findsItem : HelperAction → Bool
  | .connected (some _) => true
  | _ => false

/-- A call of `tbcmh_attributes_unsubscribe` takes out the entry of an F/W item. -/
def HelperAction.dropsItem : HelperAction → Bool
  | .unsubscribed (some (.otaupdate .fw _)) => true
  | _ => false

/-- How many such events were handled. -/
def Client.otaConnections (client : Client) : Nat := client.history.countP (·.findsItem)

/-- How many such entries were taken out. -/
def Client.otaUnsubscriptions (client : Client) : Nat := client.history.countP (·.dropsItem)

/-- A negotiation with the item at `addr`. -/
def OtaAction.negotiates (addr : Nat) : OtaAction → Bool
  | .negotiate owner => owner = addr
  | _ => false

def OtaAction.requestsChunk : OtaAction → Bool
  | .chunkRequest _ _ _ _ _ => true
  | _ => false

/-- A message of shared attributes that announces an update of the item at `addr`, whichever entry
    asks, and behind which no `on_update` of the application disconnects or unsubscribes. -/
structure Announces (object : Cjson) (answers : UpdateAnswers) (addr : Nat) (client : Client) :
    Prop where
  item : ∀ subscribeId,
    (announcedSession (some object) (answers.ota subscribeId) client.ota).map (·.addr) = some addr
  undisturbed : ∀ subscribeId, answers.result subscribeId ≠ 2 ∧ answers.result subscribeId ≠ 1

/-- The message that turns `client` into `client'` is handled by one negotiation with the item at
    `addr` and at most one request for a first chunk, and no item has more than one entry. -/
structure HandledOnce (addr : Nat) (client client' : Client) : Prop where
  negotiated : client'.ota.dev.trace.countP (·.negotiates addr)
    = client.ota.dev.trace.countP (·.negotiates addr) + 1
  requested : client'.ota.dev.trace.countP (·.requestsChunk)
    ≤ client.ota.dev.trace.countP (·.requestsChunk) + 1
  entries : ∀ context,
    client.attributessubscribeList.countP (fun entry => entry.reader = .otaupdate .fw context) ≤ 1

/-! ## The loop over the entries -/

theorem NegotiationOutcome.counts {algorithm : Option String} {answers : OtaAnswers}
    {session session' : Otaupdate} {actions : List OtaAction}
    (h : NegotiationOutcome algorithm answers session session' actions) :
    actions.countP (·.negotiates session.addr) = 1 ∧ actions.countP (·.requestsChunk) ≤ 1 := by
  cases h <;>
    simp [OtaAction.negotiates, OtaAction.requestsChunk, goingTelemetry, earlyFailedTelemetry]

/-- Replacing an item by what a negotiation made of it does not change whom a message is for. -/
theorem announcedSession_replace {world world' : OtaWorld} {front back : List Otaupdate}
    {session session' : Otaupdate} (hlist : world.otaupdateList = front ++ session :: back)
    (hlist' : world'.otaupdateList = front ++ session' :: back) (hsame : SameItem session session')
    (object : Option Cjson) (answers : OtaAnswers) :
    (announcedSession object answers world').map (·.addr)
      = (announcedSession object answers world).map (·.addr) := by
  simp only [announcedSession, hlist, hlist']
  cases announcedTitle object with
  | none => rfl
  | some otaTitle =>
    simp only [Option.bind_some, Option.map_map]
    refine splitFirst_replace (·.addr) ?_ hsame.addr front back
    simp [Otaupdate.matchesTitle, hsame.config, hsame.addr]

/-- One negotiation. -/
theorem onFwAttributesupdate_negotiates {object : Cjson} {answers : OtaAnswers}
    {world world' : OtaWorld} {addr : Nat}
    (hitem : (announcedSession (some object) answers world).map (·.addr) = some addr)
    (h : otaupdateOnFwAttributesupdate (some object) answers world = .ok world') :
    world'.dev.trace.countP (·.negotiates addr) = world.dev.trace.countP (·.negotiates addr) + 1 ∧
      world'.dev.trace.countP (·.requestsChunk)
        ≤ world.dev.trace.countP (·.requestsChunk) + 1 ∧
      ∀ answers', (announcedSession (some object) answers' world').map (·.addr)
        = (announcedSession (some object) answers' world).map (·.addr) := by
  rcases otaupdateOnFwAttributesupdate_cases h with ⟨htitle, -⟩ | ⟨-, hsession, -⟩ |
    ⟨front, session, back, session', actions, -, hsession, hlist, hlist', -, -, htrace, -, houtcome⟩
  · simp [announcedSession, htitle] at hitem
  · simp [hsession] at hitem
  · rw [hsession] at hitem
    obtain rfl := Option.some.inj hitem
    obtain ⟨hnegotiates, hrequests⟩ := houtcome.counts
    refine ⟨?_, ?_, announcedSession_replace hlist hlist' houtcome.sameItem _⟩
    · rw [htrace, List.countP_append, hnegotiates]
    · rw [htrace, List.countP_append]
      exact Nat.add_le_add_left hrequests _

theorem any_hasObjectItem {object : Cjson} {answers : OtaAnswers} {world : OtaWorld} {addr : Nat}
    (hitem : (announcedSession (some object) answers world).map (·.addr) = some addr) :
    (otaAttributeKeys .fw).toList.any object.hasObjectItem = true := by
  have htitle : announcedTitle (some object) ≠ none := by
    intro hnone
    simp [announcedSession, hnone] at hitem
  have hkeys : hasOtaAttributes (otaAttributeKeys .fw) object = true := by
    by_contra hmissing
    exact htitle (by simp [announcedTitle, hmissing])
  simp only [hasOtaAttributes, Bool.and_eq_true] at hkeys
  simp [OtaAttributeKeys.toList, hkeys]

/-- The entries that occur: those of the application, and those of F/W items. -/
def Attributessubscribe.WellFormed (entry : Attributessubscribe) : Prop :=
  entry.reader = .application ∨
    (∃ context, entry.reader = .otaupdate .fw context) ∧
      entry.keyList = (otaAttributeKeys .fw).toList

/-- Every OTA entry negotiates once. -/
theorem updateEntries_negotiates {object : Cjson} {answers : UpdateAnswers} {addr : Nat}
    (hundisturbed : ∀ subscribeId, answers.result subscribeId ≠ 2 ∧ answers.result subscribeId ≠ 1)
    (entries : List Attributessubscribe) :
    ∀ {start result : Int} {client client' : Client}, (∀ entry ∈ entries, entry.WellFormed) →
      (∀ subscribeId, (announcedSession (some object) (answers.ota subscribeId) client.ota).map
        (·.addr) = some addr) →
      updateEntries object answers entries start client = .ok (result, client') →
      client'.ota.dev.trace.countP (·.negotiates addr)
          = client.ota.dev.trace.countP (·.negotiates addr) + entries.countP (·.isOta) ∧
        client'.ota.dev.trace.countP (·.requestsChunk)
          ≤ client.ota.dev.trace.countP (·.requestsChunk) + entries.countP (·.isOta) := by
  induction entries with
  | nil =>
    intro start result client client' _ _ h
    obtain ⟨-, rfl⟩ := Prod.mk.inj (Except.ok.inj h)
    exact ⟨rfl, Nat.le_refl _⟩
  | cons entry rest ih =>
    intro start result client client' hwellFormed hitem h
    have hrest : ∀ entry ∈ rest, entry.WellFormed := fun entry hmem =>
      hwellFormed entry (List.mem_cons_of_mem _ hmem)
    rcases hwellFormed entry List.mem_cons_self with hreader | ⟨⟨context, hreader⟩, hkeys⟩
    · -- the application's callback leaves the client alone, and the loop goes on
      have hupdate : onUpdate entry object answers client
          = .ok (answers.result entry.subscribeId, client) := by simp [onUpdate, hreader]
      have hcount : (entry :: rest).countP (·.isOta) = rest.countP (·.isOta) := by
        simp [Attributessubscribe.isOta, hreader]
      rw [hcount]
      simp only [updateEntries, hupdate, bind, Except.bind] at h
      split at h
      · exact ih hrest hitem h
      split at h
      · rw [if_neg (hundisturbed _).1, if_neg (hundisturbed _).2] at h
        exact ih hrest hitem h
      · exact ih hrest hitem h
    · have hcount : (entry :: rest).countP (·.isOta) = rest.countP (·.isOta) + 1 := by
        simp [Attributessubscribe.isOta, hreader]
      have hany := any_hasObjectItem (hitem entry.subscribeId)
      rw [hcount]
      simp only [updateEntries, hkeys, hany, if_true, onUpdate, hreader] at h
      generalize hota : otaupdateOnAttributesupdate .fw (some object)
        (answers.ota entry.subscribeId) client.ota = answer at h
      cases answer with
      | error fault => simp [bind, Except.bind] at h
      | ok ota =>
        simp only [bind, Except.bind] at h
        obtain ⟨hnegotiates, hrequests, hsame⟩ :=
          onFwAttributesupdate_negotiates (hitem entry.subscribeId) hota
        obtain ⟨hnegotiates', hrequests'⟩ := ih hrest
          (fun subscribeId => (hsame _).trans (hitem subscribeId)) h
        simp only at hnegotiates' hrequests'
        constructor <;> omega

/-! ## The entries of a run -/

/-- The items are F/W items, and there is an entry for each `CONNECTED` event that found one, but for
    those taken out. -/
structure Entries (client : Client) : Prop where
  items : ∀ session ∈ client.ota.otaupdateList, session.config.otaType = .fw
  wellFormed : ∀ entry ∈ client.attributessubscribeList, entry.WellFormed
  counted : client.control ≠ .destroyed →
    client.attributessubscribeList.countP (·.isOta) + client.otaUnsubscriptions
      = client.otaConnections

/-- What `Entries` speaks of is left alone. -/
structure SameEntries (client client' : Client) : Prop where
  items : client'.ota.otaupdateList = client.ota.otaupdateList
  entries : client'.attributessubscribeList = client.attributessubscribeList
  control : client'.control = client.control
  connections : client'.otaConnections = client.otaConnections
  unsubscriptions : client'.otaUnsubscriptions = client.otaUnsubscriptions

theorem Entries.same {client client' : Client} (h : Entries client)
    (hsame : SameEntries client client') : Entries client' := by
  refine ⟨?_, ?_, ?_⟩
  · rw [hsame.items]
    exact h.items
  · rw [hsame.entries]
    exact h.wellFormed
  · rw [hsame.control, hsame.entries, hsame.connections, hsame.unsubscriptions]
    exact h.counted

theorem otaConnections_log {action : HelperAction} (client : Client)
    (h : action.findsItem = false) : (client.log action).otaConnections = client.otaConnections := by
  simp [Client.otaConnections, h]

theorem otaUnsubscriptions_log {action : HelperAction} (client : Client)
    (h : action.dropsItem = false) :
    (client.log action).otaUnsubscriptions = client.otaUnsubscriptions := by
  simp [Client.otaUnsubscriptions, h]

theorem RequestOutcome.sameEntries {call : RequestCall} {hasOnTimeout : Bool}
    {answers : RequestAnswers} {client client' : Client}
    (h : RequestOutcome call hasOnTimeout answers client client') :
    SameEntries client client' := by
  cases h with
  | refused | unpublished | uncreated => exact ⟨rfl, rfl, rfl, rfl, rfl⟩
  | accepted => exact ⟨rfl, rfl, rfl, otaConnections_log _ rfl, otaUnsubscriptions_log _ rfl⟩

theorem resubscribe_sameEntries (topic : Topic) (isEmpty : Bool) (client : Client) :
    SameEntries client (resubscribe topic isEmpty client) := by
  rw [resubscribe_eq]
  exact ⟨rfl, rfl, rfl, rfl, rfl⟩

theorem otaupdateItemOnConnected_none {otaType : TbcmhOtaupdateType} {client : Client}
    (h : client.firstItem otaType = none) (answers : EventAnswers) :
    otaupdateItemOnConnected otaType answers client = client := by
  rw [otaupdateItemOnConnected, h]

theorem otaupdateItemOnConnected_some {otaType : TbcmhOtaupdateType} {client : Client}
    {otaupdate : Otaupdate} (h : client.firstItem otaType = some otaupdate)
    (answers : EventAnswers) :
    SameEntries
      { client with
        attributessubscribeList := client.attributessubscribeList ++
          [⟨(client.lastSubscribeId + 1) % 2 ^ 32, (otaAttributeKeys otaType).toList,
            .otaupdate otaType otaupdate.addr⟩] }
      (otaupdateItemOnConnected otaType answers client) := by
  rw [otaupdateItemOnConnected, h]
  have hrequest := (tbcmhRequest_outcome (.sharedattributes (otaAttributeKeys otaType).toList)
    (.otaupdate otaType otaupdate.addr) false answers.request
    (tbcmhAttributesSubscribe (.otaupdate otaType otaupdate.addr) (otaAttributeKeys otaType).toList
      (publishEarlyCurrentVersion otaupdate answers.ota client)).2).sameEntries
  simp only [tbcmhAttributesSubscribe, subscribeFilled_eq] at hrequest ⊢
  exact ⟨hrequest.items, hrequest.entries, hrequest.control, hrequest.connections,
    hrequest.unsubscriptions⟩

theorem Entries.connected {client : Client} (h : Entries client) (answers : EventAnswers) :
    Entries (onTbcmConnected answers client) := by
  -- all items are F/W items, so only the first of the two searches finds one
  have hnoSw : ∀ client' : Client, client'.ota.otaupdateList = client.ota.otaupdateList →
      client'.firstItem .sw = none := by
    intro client' hitems
    rw [Client.firstItem, hitems, List.find?_eq_none]
    intro session hmem
    simp [h.items session hmem]
  let logged := client.log (.connected ((client.firstItem .fw).map (·.addr)))
  let shared := tbcmhAttributessubscribeOnConnected logged
  let resubscribed := tbcmhServerrpcOnConnected shared
  have hshared : SameEntries logged shared := resubscribe_sameEntries _ _ _
  have hresubscribed : SameEntries shared resubscribed := resubscribe_sameEntries _ _ _
  have hitems : resubscribed.ota.otaupdateList = client.ota.otaupdateList :=
    hresubscribed.items.trans hshared.items
  have hentries : resubscribed.attributessubscribeList = client.attributessubscribeList :=
    hresubscribed.entries.trans hshared.entries
  have hcontrol : resubscribed.control = client.control :=
    hresubscribed.control.trans hshared.control
  have hconnections : resubscribed.otaConnections = logged.otaConnections :=
    hresubscribed.connections.trans hshared.connections
  have hunsubscriptions : resubscribed.otaUnsubscriptions = client.otaUnsubscriptions :=
    (hresubscribed.unsubscriptions.trans hshared.unsubscriptions).trans
      (otaUnsubscriptions_log client rfl)
  have hfirst : resubscribed.firstItem .fw = client.firstItem .fw := by
    rw [Client.firstItem, hitems, Client.firstItem]
  show Entries (otaupdateItemOnConnected .sw answers
    (otaupdateItemOnConnected .fw answers resubscribed))
  cases hfound : client.firstItem .fw with
  | none =>
    rw [otaupdateItemOnConnected_none (hfirst.trans hfound),
      otaupdateItemOnConnected_none (hnoSw _ hitems)]
    refine h.same ⟨hitems, hentries, hcontrol, hconnections.trans ?_, hunsubscriptions⟩
    exact otaConnections_log client (by simp [hfound, HelperAction.findsItem])
  | some otaupdate =>
    have hitem := otaupdateItemOnConnected_some (hfirst.trans hfound) answers
    rw [otaupdateItemOnConnected_none (hnoSw _ (hitem.items.trans hitems))]
    refine ⟨?_, ?_, ?_⟩
    · rw [hitem.items, show resubscribed.ota.otaupdateList = _ from hitems]
      exact h.items
    · intro entry hmem
      rw [hitem.entries, hentries] at hmem
      rcases List.mem_append.mp hmem with hmem | hmem
      · exact h.wellFormed entry hmem
      · rw [List.mem_singleton.mp hmem]
        exact .inr ⟨⟨otaupdate.addr, rfl⟩, rfl⟩
    · intro hnot
      have hlogged : logged.otaConnections = client.otaConnections + 1 := by
        simp [logged, Client.otaConnections, hfound, HelperAction.findsItem]
      have hbefore := h.counted (hcontrol ▸ hitem.control ▸ hnot)
      have hone : [(⟨(resubscribed.lastSubscribeId + 1) % 2 ^ 32, (otaAttributeKeys .fw).toList,
          .otaupdate .fw otaupdate.addr⟩ : Attributessubscribe)].countP (·.isOta) = 1 := rfl
      rw [hitem.entries, hitem.connections, hitem.unsubscriptions, List.countP_append, hone]
      show resubscribed.attributessubscribeList.countP _ + 1 + resubscribed.otaUnsubscriptions
        = resubscribed.otaConnections
      rw [hentries, hunsubscriptions, hconnections, hlogged]
      omega

theorem dropsItem_unsubscribed (entry : Attributessubscribe) :
    (HelperAction.unsubscribed (some entry.reader)).dropsItem = entry.isOta := by
  rcases entry with ⟨_, _, _ | ⟨_ | _, _⟩⟩ <;> rfl

/-- An entry that is taken out counts as taken out. -/
theorem Entries.attributesUnsubscribe {client : Client} (h : Entries client) (subscribeId : Nat) :
    Entries (tbcmhAttributesUnsubscribe subscribeId client) := by
  let fits (entry : Attributessubscribe) : Bool := entry.subscribeId = subscribeId
  generalize hafter : tbcmhAttributesUnsubscribe subscribeId client = client'
  simp only [tbcmhAttributesUnsubscribe, unsubscribeDrained_eq] at hafter
  have hitems : client'.ota.otaupdateList = client.ota.otaupdateList := by rw [← hafter]; rfl
  have hcontrol : client'.control = client.control := by rw [← hafter]; rfl
  have hentries : client'.attributessubscribeList
      = removeFirst fits client.attributessubscribeList := by rw [← hafter]; rfl
  have hhistory : client'.history = client.history ++ [.unsubscribed
      ((splitFirst fits client.attributessubscribeList).map (·.2.1.reader))] := by
    rw [← hafter]; rfl
  have hconnections : client'.otaConnections = client.otaConnections := by
    simp [Client.otaConnections, hhistory, HelperAction.findsItem]
  cases hsplit : splitFirst fits client.attributessubscribeList with
  | none =>
    rw [hsplit, Option.map_none] at hhistory
    rw [removeFirst, hsplit] at hentries
    refine h.same ⟨hitems, hentries, hcontrol, hconnections, ?_⟩
    simp [Client.otaUnsubscriptions, hhistory, HelperAction.dropsItem]
  | some parts =>
    obtain ⟨front, removed, back⟩ := parts
    have hlist := (splitFirst_eq_some hsplit).1
    rw [hsplit, Option.map_some] at hhistory
    rw [removeFirst, hsplit] at hentries
    refine ⟨hitems ▸ h.items, fun entry hmem => h.wellFormed entry ?_, ?_⟩
    · rw [hentries] at hmem
      rw [hlist]
      rcases List.mem_append.mp hmem with hfront | hback
      · exact List.mem_append_left _ hfront
      · exact List.mem_append_right _ (List.mem_cons_of_mem _ hback)
    · intro hnot
      -- the count of the list loses what the count of the calls gains
      have hcounted := h.counted (hcontrol ▸ hnot)
      have hdropped : client'.otaUnsubscriptions
          = client.otaUnsubscriptions + if removed.isOta = true then 1 else 0 := by
        rw [Client.otaUnsubscriptions, hhistory, List.countP_append, List.countP_singleton,
          dropsItem_unsubscribed]
        rfl
      rw [hlist, List.countP_append, List.countP_cons] at hcounted
      rw [hentries, hdropped, hconnections, List.countP_append]
      omega

theorem Entries.act {client : Client} (h : Entries client) (act : Act) :
    Entries (act.run client) := by
  cases act with
  | connack =>
    simp only [Act.run, onMqttConnected, bridgeSend]
    split <;> [split; skip] <;> exact h.same ⟨rfl, rfl, rfl, rfl, rfl⟩
  | connectionLost =>
    simp only [Act.run, onMqttDisconnected, bridgeSend]
    split <;> [split; skip] <;> exact h.same ⟨rfl, rfl, rfl, rfl, rfl⟩
  | receive _ | responseTimer =>
    simp only [Act.run, bridgeSend]
    split <;> exact h.same ⟨rfl, rfl, rfl, rfl, rfl⟩
  | tick seconds => exact h.same ⟨rfl, rfl, rfl, rfl, rfl⟩
  | request call hasOnTimeout answers =>
    exact h.same (tbcmhRequest_outcome _ _ _ _ _).sameEntries
  | serverrpcSubscribe _ | serverrpcUnsubscribe _ =>
    simp only [Act.run, tbcmhServerrpcSubscribe, tbcmhServerrpcUnsubscribe, subscribeFilled_eq,
      unsubscribeDrained_eq]
    exact h.same ⟨rfl, rfl, rfl, rfl, rfl⟩
  | attributesSubscribe keys =>
    simp only [Act.run, tbcmhAttributesSubscribe, subscribeFilled_eq]
    refine ⟨h.items, ?_, ?_⟩
    · intro entry hmem
      rcases List.mem_append.mp hmem with hmem | hmem
      · exact h.wellFormed entry hmem
      · rw [List.mem_singleton.mp hmem]
        exact .inl rfl
    · intro hnot
      rw [Client.send_attributessubscribeList, List.countP_append]
      exact h.counted hnot
  | attributesUnsubscribe subscribeId => exact h.attributesUnsubscribe subscribeId
  | otaupdateSubscribe otaDescription otaType nextUpdatePartition =>
    refine ⟨?_, h.wellFormed, h.counted⟩
    intro session hmem
    cases otaType with
    | sw => exact h.items session hmem
    | fw =>
      cases nextUpdatePartition with
      | none => exact h.items session hmem
      | some size =>
        rcases List.mem_append.mp hmem with hmem | hmem
        · exact h.items session hmem
        · rw [List.mem_singleton.mp hmem]
  | otaupdateUnsubscribe otaDescription =>
    refine ⟨?_, h.wellFormed, h.counted⟩
    intro session hmem
    obtain ⟨otaupdateList, hsublist, hworld⟩ :=
      tbcmhOtaupdateUnsubscribe_sublist otaDescription client.ota
    simp only [Act.run, hworld] at hmem
    exact h.items session (hsublist.subset hmem)

theorem entries_move {config config' : Config} (h : Entries config.client)
    (move : Move conduct config config') : Entries config'.client := by
  cases move with
  | act client detached site act allowed => exact h.act act
  | connected client queue answers hqueue allowed =>
    have hdequeued : Entries { client with queue := queue } := h.same ⟨rfl, rfl, rfl, rfl, rfl⟩
    exact hdequeued.connected answers
  | ota client ota hquiet =>
    refine ⟨?_, h.wellFormed, h.counted⟩
    intro session hmem
    have hconfig : session.config ∈ client.ota.otaupdateList.map (·.config) :=
      hquiet.items ▸ List.mem_map_of_mem hmem
    obtain ⟨before, hbefore, heq⟩ := List.mem_map.mp hconfig
    exact heq ▸ h.items before hbefore
  | take client table requestId front request back hlist =>
    rw [unsubscribeEmptied_eq]
    exact h.same ⟨rfl, rfl, rfl, rfl, rfl⟩
  | openSweep client sweep table timestamp hall =>
    simp only [moveTimedOut, unsubscribeEmptied_eq]
    exact h.same ⟨rfl, rfl, rfl, rfl, rfl⟩
  | handOver | respond | expire =>
    exact h.same ⟨rfl, rfl, rfl, otaConnections_log _ rfl, otaUnsubscriptions_log _ rfl⟩
  | stop client destroy hcontrol =>
    exact ⟨h.items, h.wellFormed, fun _ => h.counted hcontrol⟩
  | setControl client control hbefore hcontrol =>
    exact ⟨h.items, h.wellFormed, fun _ => h.counted hbefore⟩
  | destroy client allowed =>
    exact ⟨fun _ hmem => absurd hmem List.not_mem_nil, fun _ hmem => absurd hmem List.not_mem_nil,
      fun hnot => absurd rfl hnot⟩
  | dequeue | drop | closeSweep | clear | checked | connect =>
    exact h.same ⟨rfl, rfl, rfl, rfl, rfl⟩

/-! ## Runs -/

/-- In every run, in every state that is connected, a message that announces an update is handled once
    if and only if the `CONNECTED` events that were handled with an F/W item registered are one more
    than the entries taken out again. -/
theorem handledOnce_iff {now lastHandle : Nat} {inputs : List (ClientInput .any)}
    {client client' : Client} {callbacks : Callbacks .any} {answers : EventAnswers}
    {object : Cjson} {queue : List TbcmEvent} {addr : Nat}
    (run : Run (within Permitted (Succeeds clientStep)) (tbcmhInit now lastHandle) inputs client)
    (hconnected : tbcmhIsConnected client.core = true)
    (hqueue : client.queue = .data (.sharedAttributes (some object)) :: queue)
    (hmessage : Announces object answers.update addr client)
    (hok : clientStep client (.tbcmhRun callbacks answers) = .ok client') :
    HandledOnce addr client client' ↔ client.otaConnections = client.otaUnsubscriptions + 1 := by
  have moves := moves_of_run run
  have hinitial : Entries (tbcmhInit now lastHandle).idle.client :=
    ⟨fun _ hmem => absurd hmem List.not_mem_nil, fun _ hmem => absurd hmem List.not_mem_nil,
      fun _ => rfl⟩
  have hentries := invariant_of_moves (P := fun config => Entries config.client) hinitial
    (fun _ _ => entries_move) moves
  -- a destroyed client is not connected, and the lists of any other are as the events left them
  have hdestroyed : client.control ≠ .destroyed := by
    intro hdestroyed
    have hstopped := (invariant_of_moves (P := DestroyedEmpty)
      (fun h => absurd h (by simp [Client.idle, tbcmhInit])) (fun _ _ => destroyedEmpty_move) moves
      hdestroyed).1
    exact absurd (hstopped.isConnected.symm.trans hconnected) (by simp)
  have hcounted : client.attributessubscribeList.countP (·.isOta) + client.otaUnsubscriptions
      = client.otaConnections := hentries.counted hdestroyed
  have hloop : ∃ result, updateEntries object answers.update client.attributessubscribeList 0
      { client with queue := queue } = .ok (result, client') := by
    have hevent := handled_of_tbcmhRun hqueue hok
    simp only [onTbcmEventHandle, onTbcmDataHandle, tbcmhAttributessubscribeOnData] at hevent
    generalize updateEntries object answers.update _ 0 _ = answer at hevent ⊢
    cases answer with
    | error fault => simp [bind, Except.bind] at hevent
    | ok result =>
      obtain rfl : result.2 = client' := by simpa [bind, Except.bind] using hevent
      exact ⟨result.1, rfl⟩
  obtain ⟨result, hloop⟩ := hloop
  have hitem : ∀ subscribeId, (announcedSession (some object) (answers.update.ota subscribeId)
      ({ client with queue := queue } : Client).ota).map (·.addr) = some addr := hmessage.item
  obtain ⟨hnegotiates, hrequests⟩ := updateEntries_negotiates hmessage.undisturbed
    client.attributessubscribeList hentries.wellFormed hitem hloop
  dsimp only at hnegotiates hrequests
  constructor
  · intro honce
    have hnegotiated := honce.negotiated
    omega
  · intro hone
    have hentry : client.attributessubscribeList.countP (·.isOta) = 1 := by omega
    rw [hentry] at hnegotiates hrequests
    refine ⟨hnegotiates, hrequests, ?_⟩
    intro context
    refine Nat.le_trans (List.countP_mono_left ?_) (Nat.le_of_eq hentry)
    intro entry _ hreader
    simp [Attributessubscribe.isOta, of_decide_eq_true hreader]

/-- The first event of the queue is handled. -/
def handling : ClientInput .any := .tbcmhRun (fun _ _ => .silent trivial) sampleEventAnswers

/-- An F/W item is registered, and the client connects. -/
def registeredItem : List (ClientInput .any) :=
  [.act (.otaupdateSubscribe "F/W" .fw (some 1000000)), .connect, .act .connack, handling]

/-- An update of the item is announced. -/
def announcement : ClientInput .any :=
  .act (.receive (.sharedAttributes (some (sampleAttributes 1000 "0"))))

/-- One `CONNECTED` event is handled before an announcement comes. -/
def announcedOnce : List (ClientInput .any) := registeredItem ++ [announcement]

/-- The client before the announcement is handled. -/
def connectedOnce : Client := announcedOnce.foldl (advance clientStep) (tbcmhInit 100 0)

theorem announces_connectedOnce :
    Announces (sampleAttributes 1000 "0") sampleEventAnswers.update 0 connectedOnce where
  item _ := show (announcedSession (some (sampleAttributes 1000 "0")) sampleAnswers
    connectedOnce.ota).map (·.addr) = some 0 by decide +kernel
  undisturbed _ := show (0 : Int) ≠ 2 ∧ (0 : Int) ≠ 1 by decide

/-- The announcement is handled once. -/
theorem handledOnce_iff_connectedOnce :
    HandledOnce 0 connectedOnce (advance clientStep connectedOnce handling) := by
  have run : Run (within Permitted (Succeeds clientStep)) (tbcmhInit 100 0) announcedOnce
      connectedOnce := run_of_any (by decide +kernel)
  exact (handledOnce_iff run (by decide +kernel) rfl announces_connectedOnce
    (succeeds_advance rfl)).mpr (by decide +kernel)

/-- The connection is lost and comes back, and all events are handled. -/
def reconnectedItem : List (ClientInput .any) :=
  registeredItem ++ [.act .connectionLost, .act .connack, handling, handling, announcement]

/-- The client before the announcement is handled. -/
def connectedTwice : Client := reconnectedItem.foldl (advance clientStep) (tbcmhInit 100 0)

theorem announces_connectedTwice :
    Announces (sampleAttributes 1000 "0") sampleEventAnswers.update 0 connectedTwice where
  item _ := show (announcedSession (some (sampleAttributes 1000 "0")) sampleAnswers
    connectedTwice.ota).map (·.addr) = some 0 by decide +kernel
  undisturbed _ := show (0 : Int) ≠ 2 ∧ (0 : Int) ≠ 1 by decide

/-- The announcement is negotiated twice. -/
theorem handledOnce_fails_reconnectedItem :
    ¬ ∀ (inputs : List (ClientInput .any)) (client client' : Client) (callbacks : Callbacks .any)
      (answers : EventAnswers) (object : Cjson) (queue : List TbcmEvent) (addr : Nat),
      Run (within Permitted (Succeeds clientStep)) (tbcmhInit 100 0) inputs client →
      tbcmhIsConnected client.core = true → 1 ≤ client.otaConnections →
      client.queue = .data (.sharedAttributes (some object)) :: queue →
      Announces object answers.update addr client →
      clientStep client (.tbcmhRun callbacks answers) = .ok client' →
      HandledOnce addr client client' := by
  intro hall
  have run : Run (within Permitted (Succeeds clientStep)) (tbcmhInit 100 0) reconnectedItem
      connectedTwice := run_of_any (by decide +kernel)
  have honce := hall reconnectedItem connectedTwice _ (fun _ _ => .silent trivial)
    sampleEventAnswers (sampleAttributes 1000 "0") [] 0 run (by decide +kernel) (by decide +kernel)
    rfl announces_connectedTwice (succeeds_advance rfl)
  exact absurd honce.negotiated (by decide +kernel)

end ThingsboardMqtt
