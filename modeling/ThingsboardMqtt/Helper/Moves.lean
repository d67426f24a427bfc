import ThingsboardMqtt.Helper.Events
import ThingsboardMqtt.Ota.Quiet

set_option autoImplicit false

/-! # What an input does, move by move

An input of a run is handled by a function with loops and callbacks in it. `moves_of_step` says once
what it can do: it is a sequence of `Move`s, each of which changes one thing. An invariant is then
proved for each move, and holds in every reachable state (`invariant_of_moves`).

A request that was taken from its table and whose callback is still to come is in no field of the
client (the code has it in a local variable); a `Config` keeps it next to the client, with the sweep
that is under way. -/

namespace ThingsboardMqtt

open Relation Execution ListWalk

variable {conduct : Conduct}

/-- A client in the middle of an input. -/
structure Config where
  client : Client
  detached : List (RequestTable × Request)
  site : Option Site

/-- The client between two inputs. -/
def Client.idle (client : Client) : Config := ⟨client, [], none⟩

inductive Move (conduct : Conduct) : Config → Config → Prop
  | act (client : Client) (detached : List (RequestTable × Request)) (site : Option Site) (act : Act)
      (allowed : conduct.act site client act) :
    Move conduct ⟨client, detached, site⟩ ⟨act.run client, detached, site⟩
  | dequeue (client : Client) (event : TbcmEvent) (queue : List TbcmEvent)
      (hqueue : client.queue = event :: queue) (hother : event ≠ .connected) :
    Move conduct client.idle { client with queue := queue }.idle
  | connected (client : Client) (queue : List TbcmEvent) (answers : EventAnswers)
      (hqueue : client.queue = .connected :: queue) (allowed : conduct.connected client answers) :
    Move conduct client.idle (onTbcmConnected answers { client with queue := queue }).idle
  | ota (client : Client) (ota : OtaWorld) (hquiet : OtaQuiet client.ota ota) :
    Move conduct client.idle { client with ota := ota }.idle
  | handOver (client : Client) (requestId : Nat) (method : String) :
    Move conduct client.idle (client.log (.onRequest requestId method)).idle
  | take (client : Client) (table : RequestTable) (requestId : Nat) (front : List Request)
      (request : Request) (back : List Request)
      (hlist : client.requestList table = front ++ request :: back) :
    Move conduct client.idle
      ⟨unsubscribeEmptied table false (client.setRequests table (front ++ back)),
        [(table, request)], none⟩
  | respond (client : Client) (table : RequestTable) (request : Request) (requestId : Nat) :
    Move conduct ⟨client, [(table, request)], none⟩
      (client.log (.onResponse table request.uid requestId)).idle
  | expire (client : Client) (table : RequestTable) (request : Request)
      (detached : List (RequestTable × Request)) (site : Option Site)
      (hcallback : request.hasOnTimeout = true) :
    Move conduct ⟨client, (table, request) :: detached, site⟩
      ⟨client.log (.onTimeout table request.uid), detached, site⟩
  | drop (client : Client) (table : RequestTable) (request : Request)
      (detached : List (RequestTable × Request)) (site : Option Site)
      (hstopped : request.hasOnTimeout = true → conduct.result 2) :
    Move conduct ⟨client, (table, request) :: detached, site⟩ ⟨client, detached, site⟩
  | openSweep (client : Client) (sweep : Sweep) (table : RequestTable) (timestamp : Nat)
      (hall : sweep = .disconnected → client.core.now + tbMqttTimeout + 2 = timestamp) :
    Move conduct client.idle
      ⟨(moveTimedOut table timestamp client).2,
        (moveTimedOut table timestamp client).1.map ((table, ·)), some ⟨sweep, table⟩⟩
  | closeSweep (client : Client) (table : RequestTable) :
    Move conduct ⟨client, [], some ⟨.checkTimeout, table⟩⟩ client.idle
  | clear (client : Client) (table : RequestTable) :
    Move conduct ⟨client, [], some ⟨.disconnected, table⟩⟩ (client.setRequests table []).idle
  | checked (client : Client) (timestamp : Nat) :
    Move conduct client.idle { client with lastCheckTimestamp := timestamp }.idle
  | connect (client : Client) (hcontrol : client.control = .application) :
    Move conduct client.idle (tbcmConnect client).idle
  | stop (client : Client) (destroy : Bool) (hcontrol : client.control ≠ .destroyed) :
    Move conduct client.idle { tbcmDisconnect client with control := .stopped destroy }.idle
  | setControl (client : Client) (control : Control) (hbefore : client.control ≠ .destroyed)
      (hcontrol : control = .application ∨
        ∃ destroy, control = .emptying destroy ∨ control = .stopping destroy) :
    Move conduct client.idle { client with control := control }.idle
  | destroy (client : Client) (allowed : conduct.destroy client) :
    Move conduct client.idle (tbcmhOnDestroy client).idle

/-! ## The sweep -/

/-- What a callback does is a sequence of acts. -/
theorem moves_of_acts {site : Site} {client client' : Client}
    (acts : ReflTransGen (ActStep conduct (some site)) client client')
    (detached : List (RequestTable × Request)) :
    ReflTransGen (Move conduct) ⟨client, detached, some site⟩ ⟨client', detached, some site⟩ := by
  induction acts with
  | refl => exact .refl
  | tail _ hact ih =>
    obtain ⟨act, allowed, rfl⟩ := hact
    exact ih.tail (.act _ detached (some site) act allowed)

theorem moves_dealTimeout (callbacks : Callbacks conduct) (sweep : Sweep) (table : RequestTable)
    (timeoutList : List Request) :
    ∀ (clientIsValid : Bool) (client : Client), (clientIsValid = false → conduct.result 2) →
      ReflTransGen (Move conduct)
        ⟨client, timeoutList.map ((table, ·)), some ⟨sweep, table⟩⟩
        ⟨dealTimeout table (callbacks.onTimeout sweep table) clientIsValid timeoutList client, [],
          some ⟨sweep, table⟩⟩ := by
  induction timeoutList with
  | nil => exact fun _ _ _ => .refl
  | cons request rest ih =>
    intro clientIsValid client hvalid
    simp only [dealTimeout, List.map_cons]
    by_cases hinvoke : (clientIsValid && request.hasOnTimeout) = true
    · rw [if_pos hinvoke]
      have hcallback : request.hasOnTimeout = true := (Bool.and_eq_true_iff.mp hinvoke).2
      have hexpire : Move conduct
          ⟨client, (table, request) :: rest.map ((table, ·)), some ⟨sweep, table⟩⟩
          ⟨client.log (.onTimeout table request.uid), rest.map ((table, ·)), some ⟨sweep, table⟩⟩ :=
        .expire client table request _ _ hcallback
      let routine := callbacks ⟨sweep, table⟩ request
      have hacts := moves_of_acts (routine.acts (client.log (.onTimeout table request.uid)))
        (rest.map ((table, ·)))
      have hresult := routine.result (client.log (.onTimeout table request.uid))
      refine .head hexpire (hacts.trans ?_)
      -- a callback that returned 2 ends the callbacks: the rest of the list is dropped
      refine ih _ _ ?_
      intro hstopped
      have htwo : (routine.run (client.log (.onTimeout table request.uid))).1 = 2 :=
        not_not.mp (of_decide_eq_false hstopped)
      exact htwo ▸ hresult
    · rw [if_neg hinvoke]
      refine .head (.drop client table request _ _ fun hcallback => hvalid ?_)
        (ih clientIsValid client hvalid)
      simpa [hcallback] using hinvoke

theorem moves_onCheckTimeout (callbacks : Callbacks conduct) (table : RequestTable)
    (timestamp : Nat) (client : Client) :
    ReflTransGen (Move conduct) client.idle
      (tbcmhRequestOnCheckTimeout table (callbacks.onTimeout .checkTimeout table) timestamp
        client).idle := by
  refine .head (.openSweep client .checkTimeout table timestamp (fun h => absurd h (by simp))) ?_
  exact (moves_dealTimeout callbacks .checkTimeout table _ true _ (by simp)).tail
    (.closeSweep _ table)

theorem moves_onDisconnected (callbacks : Callbacks conduct) (table : RequestTable)
    (client : Client) :
    ReflTransGen (Move conduct) client.idle
      (tbcmhRequestOnDisconnected table (callbacks.onTimeout .disconnected table) client).idle := by
  refine .head (.openSweep client .disconnected table _ (fun _ => rfl)) ?_
  exact (moves_dealTimeout callbacks .disconnected table _ true _ (by simp)).tail (.clear _ table)

theorem moves_onTbcmDisonnected (callbacks : Callbacks conduct) (client : Client) :
    ReflTransGen (Move conduct) client.idle (onTbcmDisonnected callbacks client).idle :=
  (((moves_onDisconnected callbacks .attributesrequest client).trans
    (moves_onDisconnected callbacks .clientrpc _)).trans
    (moves_onDisconnected callbacks .provision _)).tail
    (.ota _ _ (tbcmhOtaupdateOnChunkCheckTimeout_otaQuiet _ _))

theorem moves_onTbcmCheckTimeout (callbacks : Callbacks conduct) (client : Client) :
    ReflTransGen (Move conduct) client.idle (onTbcmCheckTimeout callbacks client).idle := by
  rw [onTbcmCheckTimeout]
  split
  · exact .refl
  · refine .head (.checked client client.core.now) ?_
    exact (((moves_onCheckTimeout callbacks .attributesrequest _ _).trans
      (moves_onCheckTimeout callbacks .clientrpc _ _)).trans
      (moves_onCheckTimeout callbacks .provision _ _)).tail
      (.ota _ _ (tbcmhOtaupdateOnChunkCheckTimeout_otaQuiet _ _))

/-! ## Messages -/

/-- One callback is invoked for a request that was taken from its table; the one of an OTA item
    hands the shared attributes on. -/
theorem doResponse_outcome {table : RequestTable} {request : Request} {requestId : Nat}
    {object : Cjson} {answers : OtaAnswers} {client client' : Client}
    (h : doResponse table request requestId object answers client = .ok client') :
    (∃ ota, (ota = client.ota ∨ ∃ otaType, otaupdateOnAttributesupdate otaType
          (object.getObjectItem "shared") answers client.ota = .ok ota) ∧
        client' = { client.log (.onResponse table request.uid requestId) with ota := ota }) ∨
      (request.hasOnTimeout = true ∧ client' = client.log (.onTimeout table request.uid)) := by
  cases table with
  | attributesrequest =>
    simp only [doResponse] at h
    cases hreader : request.reader with
    | application =>
      rw [hreader] at h
      obtain rfl := Except.ok.inj h
      exact .inl ⟨client.ota, .inl rfl, rfl⟩
    | otaupdate otaType context =>
      simp only [hreader] at h
      generalize hupdate : otaupdateOnAttributesupdate otaType _ answers _ = answer at h
      cases answer with
      | error fault => simp [bind, Except.bind] at h
      | ok ota =>
        obtain rfl := Except.ok.inj h
        exact .inl ⟨ota, .inr ⟨otaType, hupdate⟩, rfl⟩
  | clientrpc =>
    obtain rfl := Except.ok.inj h
    exact .inl ⟨client.ota, .inl rfl, rfl⟩
  | provision =>
    simp only [doResponse] at h
    cases hparse : parseProvisionResponse object with
    | error fault => simp [hparse, bind, Except.bind] at h
    | ok credentials =>
      cases credentials with
      | some credentials =>
        simp only [hparse, bind, Except.bind] at h
        obtain rfl := Except.ok.inj h
        exact .inl ⟨client.ota, .inl rfl, rfl⟩
      | none =>
        -- a response that reports a failure goes to `on_timeout`; one that is `NULL` is a fault
        simp only [hparse, bind, Except.bind] at h
        split at h
        · rename_i hcallback
          exact .inr ⟨hcallback, (Except.ok.inj h).symm⟩
        · exact absurd h (by simp)

theorem moves_doResponse {table : RequestTable} {request : Request} {requestId : Nat}
    {object : Cjson} {answers : OtaAnswers} {client client' : Client}
    (h : doResponse table request requestId object answers client = .ok client') :
    ReflTransGen (Move conduct) ⟨client, [(table, request)], none⟩ client'.idle := by
  rcases doResponse_outcome h with ⟨ota, hota, rfl⟩ | ⟨hcallback, rfl⟩
  · have hquiet : OtaQuiet client.ota ota := by
      rcases hota with rfl | ⟨otaType, hupdate⟩
      · exact .refl _
      · exact otaupdateOnAttributesupdate_otaQuiet hupdate
    exact .head (.respond client table request requestId) (.single (.ota _ ota hquiet))
  · exact .single (.expire client table request [] none hcallback)

/-- A response is dropped, or handed to a request that waits for it. -/
theorem tbcmhRequestOnData_outcome {table : RequestTable} {requestId : Nat} {object : Option Cjson}
    {answers : OtaAnswers} {client client' : Client}
    (h : tbcmhRequestOnData table requestId object answers client = .ok client') :
    client' = client ∨ ∃ object front request back,
      client.requestList table = front ++ request :: back ∧
      table.isAnswered requestId request = true ∧
      doResponse table request requestId object answers
        (unsubscribeEmptied table false (client.setRequests table (front ++ back))) = .ok client' := by
  cases object with
  | none => exact .inl (Except.ok.inj h).symm
  | some object =>
    simp only [tbcmhRequestOnData] at h
    cases hsplit : splitFirst (table.isAnswered requestId) (client.requestList table) with
    | none =>
      rw [hsplit] at h
      exact .inl (Except.ok.inj h).symm
    | some parts =>
      obtain ⟨front, request, back⟩ := parts
      obtain ⟨hlist, hanswered, -⟩ := splitFirst_eq_some hsplit
      simp only [hsplit] at h
      exact .inr ⟨object, front, request, back, hlist, hanswered, h⟩

theorem moves_onData {table : RequestTable} {requestId : Nat} {object : Option Cjson}
    {answers : OtaAnswers} {client client' : Client}
    (h : tbcmhRequestOnData table requestId object answers client = .ok client') :
    ReflTransGen (Move conduct) client.idle client'.idle := by
  rcases tbcmhRequestOnData_outcome h with rfl | ⟨object, front, request, back, hlist, -, hresponse⟩
  · exact .refl
  · exact .head (.take client table requestId front request back hlist) (moves_doResponse hresponse)

/-- The rule for the handling of a message of shared attributes: it is handed to OTA items, and
    nothing else changes. -/
theorem onUpdate_rule {P : Client → Prop} {entry : Attributessubscribe} {object : Cjson}
    {answers : UpdateAnswers} {client client' : Client} {result : Int}
    (hota : ∀ (client : Client) (ota : OtaWorld) otaType answers, P client →
      otaupdateOnAttributesupdate otaType (some object) answers client.ota = .ok ota →
      P { client with ota := ota })
    (h : onUpdate entry object answers client = .ok (result, client')) (hclient : P client) :
    P client' := by
  unfold onUpdate at h
  cases hreader : entry.reader with
  | application =>
    simp only [hreader] at h
    obtain ⟨-, rfl⟩ := Prod.mk.inj (Except.ok.inj h)
    exact hclient
  | otaupdate otaType context =>
    simp only [hreader] at h
    generalize hupdate : otaupdateOnAttributesupdate otaType _ _ _ = answer at h
    cases answer with
    | error fault => simp [bind, Except.bind] at h
    | ok ota =>
      obtain ⟨-, rfl⟩ := Prod.mk.inj (Except.ok.inj h)
      exact hota client ota otaType _ hclient hupdate

theorem updateEntries_rule {P : Client → Prop} {object : Cjson} {answers : UpdateAnswers}
    (hota : ∀ (client : Client) (ota : OtaWorld) otaType answers, P client →
      otaupdateOnAttributesupdate otaType (some object) answers client.ota = .ok ota →
      P { client with ota := ota }) (entries : List Attributessubscribe) :
    ∀ {start result : Int} {client client' : Client},
      updateEntries object answers entries start client = .ok (result, client') →
      P client → P client' := by
  induction entries with
  | nil =>
    intro start result client client' h hclient
    obtain ⟨-, rfl⟩ := Prod.mk.inj (Except.ok.inj h)
    exact hclient
  | cons entry rest ih =>
    intro start result client client' h hclient
    simp only [updateEntries] at h
    split at h
    · cases hupdate : onUpdate entry object answers client with
      | error fault => simp [hupdate, bind, Except.bind] at h
      | ok answer =>
        simp only [hupdate, bind, Except.bind] at h
        exact ih h (onUpdate_rule hota hupdate hclient)
    · split at h
      · cases hupdate : onUpdate entry object answers client with
        | error fault => simp [hupdate, bind, Except.bind] at h
        | ok answer =>
          simp only [hupdate, bind, Except.bind] at h
          have hnext := onUpdate_rule hota hupdate hclient
          split at h
          · obtain ⟨-, rfl⟩ := Prod.mk.inj (Except.ok.inj h)
            exact hnext
          split at h
          · obtain ⟨-, rfl⟩ := Prod.mk.inj (Except.ok.inj h)
            exact hnext
          · exact ih h hnext
      · exact ih h hclient

theorem sharedAttributes_rule {P : Client → Prop} {object : Option Cjson} {answers : EventAnswers}
    {client client' : Client}
    (hota : ∀ (client : Client) (ota : OtaWorld) otaType object answers, P client →
      otaupdateOnAttributesupdate otaType (some object) answers client.ota = .ok ota →
      P { client with ota := ota })
    (h : onTbcmDataHandle (.sharedAttributes object) answers client = .ok client')
    (hclient : P client) : P client' := by
  simp only [onTbcmDataHandle] at h
  cases hdata : tbcmhAttributessubscribeOnData object answers.update client with
  | error fault => simp [hdata, bind, Except.bind] at h
  | ok answer =>
    simp only [hdata, bind, Except.bind] at h
    obtain rfl := Except.ok.inj h
    cases object with
    | none =>
      obtain rfl := Except.ok.inj hdata
      exact hclient
    | some object =>
      exact updateEntries_rule (fun client ota otaType => hota client ota otaType object) _ hdata
        hclient

/-- A request of the server is handed to the application or dropped. -/
theorem tbcmhServerrpcOnData_outcome {requestId : Nat} {object : Option Cjson}
    {client client' : Client} (h : tbcmhServerrpcOnData requestId object client = .ok client') :
    client' = client ∨ ∃ method, client' = client.log (.onRequest requestId method) := by
  cases object with
  | none => exact .inl (Except.ok.inj h).symm
  | some object =>
    simp only [tbcmhServerrpcOnData] at h
    split at h
    · exact .inl (Except.ok.inj h).symm
    split at h
    · exact absurd h (by simp)
    split at h
    · exact .inr ⟨_, (Except.ok.inj h).symm⟩
    · exact .inl (Except.ok.inj h).symm

theorem moves_serverrpcOnData {requestId : Nat} {object : Option Cjson} {client client' : Client}
    (h : tbcmhServerrpcOnData requestId object client = .ok client') :
    ReflTransGen (Move conduct) client.idle client'.idle := by
  rcases tbcmhServerrpcOnData_outcome h with rfl | ⟨method, rfl⟩
  · exact .refl
  · exact .single (.handOver client requestId method)

theorem moves_onTbcmDataHandle {data : TbcmPublishData} {answers : EventAnswers}
    {client client' : Client} (h : onTbcmDataHandle data answers client = .ok client') :
    ReflTransGen (Move conduct) client.idle client'.idle := by
  cases data with
  | response table requestId object => exact moves_onData h
  | sharedAttributes object =>
    refine sharedAttributes_rule
      (P := fun next => ReflTransGen (Move conduct) client.idle next.idle) ?_ h .refl
    intro next ota otaType object answers hmoves hupdate
    exact hmoves.tail (.ota next ota (otaupdateOnAttributesupdate_otaQuiet hupdate))
  | serverrpcRequest requestId object => exact moves_serverrpcOnData h
  | fwResponse requestId chunkId payload =>
    obtain rfl := Except.ok.inj h
    exact .single (.ota client _ (tbcmhOtaupdateOnChunkData_otaQuiet _ _ _ _ _ _))

theorem moves_onTbcmEventHandle {event : TbcmEvent} {queue : List TbcmEvent}
    {callbacks : Callbacks conduct} {answers : EventAnswers} {client client' : Client}
    (hqueue : client.queue = event :: queue)
    (allowed : event = .connected → conduct.connected client answers)
    (h : onTbcmEventHandle event callbacks answers { client with queue := queue } = .ok client') :
    ReflTransGen (Move conduct) client.idle client'.idle := by
  cases event with
  | connected =>
    obtain rfl := Except.ok.inj h
    exact .single (.connected client queue answers hqueue (allowed rfl))
  | disconnected =>
    obtain rfl := Except.ok.inj h
    exact .head (.dequeue client _ queue hqueue (by simp)) (moves_onTbcmDisonnected callbacks _)
  | data data =>
    exact .head (.dequeue client _ queue hqueue (by simp)) (moves_onTbcmDataHandle h)
  | checkTimeout =>
    obtain rfl := Except.ok.inj h
    exact .head (.dequeue client _ queue hqueue (by simp)) (moves_onTbcmCheckTimeout callbacks _)

/-! ## The place of the user task -/

theorem Act.run_control (act : Act) (client : Client) :
    (act.run client).control = client.control := by
  cases act with
  | connack =>
    simp only [Act.run, onMqttConnected, bridgeSend]
    split <;> [split; skip] <;> rfl
  | connectionLost =>
    simp only [Act.run, onMqttDisconnected, bridgeSend]
    split <;> [split; skip] <;> rfl
  | receive _ | responseTimer =>
    simp only [Act.run, bridgeSend]
    split <;> rfl
  | request call hasOnTimeout answers => exact (tbcmhRequest_outcome _ _ _ _ _).sameLink.control
  | attributesSubscribe _ | attributesUnsubscribe _ | serverrpcSubscribe _
  | serverrpcUnsubscribe _ =>
    simp only [Act.run, tbcmhAttributesSubscribe, tbcmhAttributesUnsubscribe,
      tbcmhServerrpcSubscribe, tbcmhServerrpcUnsubscribe, subscribeFilled_eq,
      unsubscribeDrained_eq]
    rfl
  | tick _ | otaupdateSubscribe _ _ _ | otaupdateUnsubscribe _ => rfl

theorem acts_control {site : Option Site} {client client' : Client}
    (acts : ReflTransGen (ActStep conduct site) client client') :
    client'.control = client.control := by
  induction acts with
  | refl => rfl
  | tail _ hact ih =>
    obtain ⟨act, -, rfl⟩ := hact
    exact (act.run_control _).trans ih

theorem dealTimeout_control (callbacks : Callbacks conduct) (sweep : Sweep) (table : RequestTable)
    (timeoutList : List Request) : ∀ (clientIsValid : Bool) (client : Client),
      (dealTimeout table (callbacks.onTimeout sweep table) clientIsValid timeoutList
        client).control = client.control := by
  induction timeoutList with
  | nil => exact fun _ _ => rfl
  | cons request rest ih =>
    intro clientIsValid client
    simp only [dealTimeout]
    split
    · have hcontrol := acts_control
        ((callbacks ⟨sweep, table⟩ request).acts (client.log (.onTimeout table request.uid)))
      exact (ih _ _).trans hcontrol
    · exact ih clientIsValid client

theorem onDisconnected_control (callbacks : Callbacks conduct) (table : RequestTable)
    (client : Client) :
    (tbcmhRequestOnDisconnected table (callbacks.onTimeout .disconnected table)
      client).control = client.control := by
  simp only [tbcmhRequestOnDisconnected, tbcmhRequestOnCheckTimeout, moveTimedOut,
    unsubscribeEmptied_eq, Client.setRequests_control]
  exact dealTimeout_control callbacks .disconnected table _ true _

theorem onTbcmDisonnected_control (callbacks : Callbacks conduct) (client : Client) :
    (onTbcmDisonnected callbacks client).control = client.control :=
  ((onDisconnected_control callbacks .provision _).trans
    (onDisconnected_control callbacks .clientrpc _)).trans
    (onDisconnected_control callbacks .attributesrequest client)

/-! ## A stopped client -/

/-- No act can connect the client. -/
structure Client.Stopped (client : Client) : Prop where
  state : client.core.state = .disconnected
  handle : client.hasMqttHandle = false

theorem Client.Stopped.isConnected {client : Client} (h : client.Stopped) :
    tbcmhIsConnected client.core = false := by simp [tbcmhIsConnected, h.state]

theorem Client.Stopped.run {client : Client} (h : client.Stopped) (act : Act) :
    (act.run client).Stopped ∧ (act.run client).requestList = client.requestList := by
  have hconnected := h.isConnected
  cases act with
  | request call hasOnTimeout answers =>
    simp only [Act.run, tbcmhRequest_disconnected hconnected]
    exact ⟨h, trivial⟩
  | tick seconds => exact ⟨⟨h.state, h.handle⟩, rfl⟩
  | otaupdateSubscribe otaDescription otaType nextUpdatePartition =>
    exact ⟨⟨(congrArg Core.state (tbcmhOtaupdateSubscribe_core _ _ _ _)).trans h.state, h.handle⟩,
      rfl⟩
  | otaupdateUnsubscribe otaDescription =>
    exact ⟨⟨(congrArg Core.state (tbcmhOtaupdateUnsubscribe_core _ _)).trans h.state, h.handle⟩,
      rfl⟩
  | connack | connectionLost | receive _ | responseTimer =>
    simp [Act.run, onMqttConnected, onMqttDisconnected, bridgeSend, h.handle, h]
  | attributesSubscribe _ | attributesUnsubscribe _ | serverrpcSubscribe _
  | serverrpcUnsubscribe _ =>
    simp only [Act.run, tbcmhAttributesSubscribe, tbcmhAttributesUnsubscribe,
      tbcmhServerrpcSubscribe, tbcmhServerrpcUnsubscribe, subscribeFilled_eq,
      unsubscribeDrained_eq]
    exact ⟨⟨h.state, h.handle⟩, rfl⟩

theorem Client.Stopped.acts {client client' : Client} {site : Option Site} (h : client.Stopped)
    (acts : ReflTransGen (ActStep conduct site) client client') :
    client'.Stopped ∧ client'.requestList = client.requestList := by
  induction acts with
  | refl => exact ⟨h, rfl⟩
  | tail _ hact ih =>
    obtain ⟨act, -, rfl⟩ := hact
    obtain ⟨hstopped, hlist⟩ := ih.1.run act
    exact ⟨hstopped, hlist.trans ih.2⟩

theorem Client.Stopped.dealTimeout (callbacks : Callbacks conduct) (sweep : Sweep)
    (table : RequestTable) (timeoutList : List Request) :
    ∀ (clientIsValid : Bool) {client : Client}, client.Stopped →
      (dealTimeout table (callbacks.onTimeout sweep table) clientIsValid timeoutList
        client).Stopped ∧
      (dealTimeout table (callbacks.onTimeout sweep table) clientIsValid timeoutList
        client).requestList = client.requestList := by
  induction timeoutList with
  | nil => exact fun _ _ h => ⟨h, rfl⟩
  | cons request rest ih =>
    intro clientIsValid client h
    simp only [ThingsboardMqtt.dealTimeout]
    split
    · have hlogged : (client.log (.onTimeout table request.uid)).Stopped := ⟨h.state, h.handle⟩
      obtain ⟨hstopped, hlist⟩ := hlogged.acts
        ((callbacks ⟨sweep, table⟩ request).acts (client.log (.onTimeout table request.uid)))
      obtain ⟨hstopped', hlist'⟩ := ih _ hstopped
      exact ⟨hstopped', hlist'.trans hlist⟩
    · exact ih clientIsValid h

theorem Client.Stopped.send {client : Client} (h : client.Stopped) (packets : List Packet) :
    (client.send packets).Stopped := ⟨h.state, h.handle⟩

theorem Client.Stopped.setRequests {client : Client} (h : client.Stopped) (table : RequestTable)
    (requests : List Request) : (client.setRequests table requests).Stopped := ⟨h.state, h.handle⟩

/-- The table is emptied, and the callbacks leave the others as they are. -/
theorem Client.Stopped.onDisconnected {client : Client} (h : client.Stopped)
    (callbacks : Callbacks conduct) (table : RequestTable) :
    (tbcmhRequestOnDisconnected table (callbacks.onTimeout .disconnected table) client).Stopped ∧
      (tbcmhRequestOnDisconnected table (callbacks.onTimeout .disconnected table)
        client).requestList = Function.update client.requestList table [] := by
  simp only [tbcmhRequestOnDisconnected, tbcmhRequestOnCheckTimeout, moveTimedOut,
    unsubscribeEmptied_eq]
  obtain ⟨hstopped, hlist⟩ := Client.Stopped.dealTimeout callbacks .disconnected table
    ((client.requestList table).filter
      (·.timedOut (client.core.now + tbMqttTimeout + 2))) true
    ((h.setRequests table _).send _)
  refine ⟨hstopped.setRequests table [], ?_⟩
  rw [Client.setRequests, hlist]
  simp [Client.setRequests]

/-- `tbcmh_disconnect` leaves no request. -/
theorem Client.Stopped.onTbcmDisonnected {client : Client} (h : client.Stopped)
    (callbacks : Callbacks conduct) (table : RequestTable) :
    (onTbcmDisonnected callbacks client).requestList table = [] := by
  obtain ⟨h₁, hlist₁⟩ := h.onDisconnected callbacks .attributesrequest
  obtain ⟨h₂, hlist₂⟩ := h₁.onDisconnected callbacks .clientrpc
  obtain ⟨h₃, hlist₃⟩ := h₂.onDisconnected callbacks .provision
  simp only [ThingsboardMqtt.onTbcmDisonnected, hlist₃, hlist₂, hlist₁]
  cases table <;> simp

/-! ## Inputs and runs -/

/-- Behind the stop in `tbcmh_disconnect` the client is stopped. -/
def StoppedWhenDue (config : Config) : Prop :=
  ∀ destroy, config.client.control = .stopped destroy → config.client.Stopped

theorem otaupdateItemOnConnected_sameLink (otaType : TbcmhOtaupdateType) (answers : EventAnswers)
    (client : Client) : client.SameLink (otaupdateItemOnConnected otaType answers client) := by
  unfold otaupdateItemOnConnected
  split
  · exact .refl _
  · rename_i otaupdate hitem
    have hpublished : client.SameLink (publishEarlyCurrentVersion otaupdate answers.ota client) :=
      ⟨rfl, rfl, rfl, rfl, rfl⟩
    exact (hpublished.trans (tbcmhAttributesSubscribe_sameLink _ _ _)).trans
      (tbcmhRequest_outcome _ _ _ _ _).sameLink

theorem onTbcmConnected_sameLink (answers : EventAnswers) (client : Client) :
    client.SameLink (onTbcmConnected answers client) := by
  refine .trans ?_ ((otaupdateItemOnConnected_sameLink .fw answers _).trans
    (otaupdateItemOnConnected_sameLink .sw answers _))
  simp only [tbcmhServerrpcOnConnected, tbcmhAttributessubscribeOnConnected, resubscribe_eq]
  exact ⟨rfl, rfl, rfl, rfl, rfl⟩

theorem stoppedWhenDue_move {config config' : Config} (h : StoppedWhenDue config)
    (move : Move conduct config config') : StoppedWhenDue config' := by
  intro destroy hdue
  cases move with
  | act client detached site act allowed =>
    exact ((h destroy ((act.run_control client).symm.trans hdue)).run act).1
  | connected client queue answers hqueue allowed =>
    have hlink := onTbcmConnected_sameLink answers { client with queue := queue }
    obtain ⟨hstate, hhandle⟩ := h destroy (hlink.control.symm.trans hdue)
    exact ⟨hlink.state.trans hstate, hlink.handle.trans hhandle⟩
  | ota client ota hquiet =>
    obtain ⟨hstate, hhandle⟩ := h destroy hdue
    exact ⟨hquiet.core.state.trans hstate, hhandle⟩
  | take client table requestId front request back hlist =>
    rw [unsubscribeEmptied_eq] at hdue ⊢
    exact ((h destroy hdue).setRequests table _).send _
  | openSweep client sweep table timestamp hall =>
    simp only [moveTimedOut, unsubscribeEmptied_eq] at hdue ⊢
    exact ((h destroy hdue).setRequests table _).send _
  | stop client destroy hcontrol => exact ⟨rfl, rfl⟩
  | setControl client control hbefore hcontrol =>
    rcases hcontrol with rfl | ⟨_, rfl | rfl⟩ <;> exact absurd hdue (by simp [Client.idle])
  | connect client hcontrol =>
    exact absurd (hcontrol.symm.trans hdue) (by simp)
  | destroy client allowed => exact absurd hdue (by simp [Client.idle, tbcmhOnDestroy])
  | dequeue | handOver | respond | expire | drop | closeSweep | clear | checked =>
    obtain ⟨hstate, hhandle⟩ := h destroy hdue
    exact ⟨hstate, hhandle⟩

/-- Everything an input does is a sequence of moves. -/
theorem moves_of_step {client client' : Client} {input : ClientInput conduct}
    (hstopped : StoppedWhenDue client.idle) (allowed : Permitted client input)
    (hok : clientStep client input = .ok client') :
    ReflTransGen (Move conduct) client.idle client'.idle := by
  cases clientStep_outcome hok with
  | act act hcontrol => exact .single (.act client [] none act allowed)
  | connect hcontrol hstate hhandle => exact .single (.connect client hcontrol)
  | tbcmhRun callbacks answers event queue _ hqueue hevent =>
    refine moves_onTbcmEventHandle hqueue ?_ hevent
    intro hconnected
    simpa [Permitted, hqueue, hconnected] using allowed
  | disconnectEarly hcontrol hstate => exact .refl
  | disconnect hcontrol =>
    exact .single (.setControl client _ (by simp [hcontrol]) (.inr ⟨false, .inl rfl⟩))
  | destroyEarly hcontrol hstate => exact .single (.destroy client (allowed hstate))
  | destroy hcontrol =>
    exact .single (.setControl client _ (by simp [hcontrol]) (.inr ⟨true, .inl rfl⟩))
  | emptied callbacks destroy hcontrol =>
    exact .single (.setControl client _ (by simp [hcontrol]) (.inr ⟨destroy, .inr rfl⟩))
  | stop destroy hcontrol => exact .single (.stop client destroy (by simp [hcontrol]))
  | disconnected callbacks hcontrol =>
    refine (moves_onTbcmDisonnected callbacks client).tail (.setControl _ _ ?_ (.inl rfl))
    rw [onTbcmDisonnected_control, hcontrol]
    simp
  | destroyed callbacks hcontrol =>
    -- the client cannot be connected any more, so the sweep left every table empty
    have hempty := (hstopped true hcontrol).onTbcmDisonnected callbacks
    exact (moves_onTbcmDisonnected callbacks client).tail
      (.destroy _ (conduct.destroy_of_empty _ hempty))

/-- What every move preserves holds behind a sequence of moves. -/
theorem invariant_of_moves {P : Config → Prop} {config config' : Config} (h0 : P config)
    (hmove : ∀ config config', P config → Move conduct config config' → P config')
    (moves : ReflTransGen (Move conduct) config config') : P config' := by
  induction moves with
  | refl => exact h0
  | tail _ move ih => exact hmove _ _ ih move

/-- A run is a sequence of moves. -/
theorem moves_of_run {now lastHandle : Nat} {inputs : List (ClientInput conduct)} {client : Client}
    (run : Run (within Permitted (Succeeds clientStep)) (tbcmhInit now lastHandle) inputs client) :
    ReflTransGen (Move conduct) (tbcmhInit now lastHandle).idle client.idle := by
  induction run with
  | nil => exact .refl
  | snoc _ taken ih =>
    have hinitial : StoppedWhenDue (tbcmhInit now lastHandle).idle := fun _ h => absurd h (by simp
      [Client.idle, tbcmhInit])
    have hstopped := invariant_of_moves hinitial (fun _ _ => stoppedWhenDue_move) ih
    exact ih.trans (moves_of_step hstopped taken.1 taken.2)

end ThingsboardMqtt
