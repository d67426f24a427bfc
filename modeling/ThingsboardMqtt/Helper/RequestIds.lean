import ThingsboardMqtt.Helper.Correlation
import ThingsboardMqtt.Library.Tickets
import ThingsboardMqtt.Ota.SessionIds

set_option autoImplicit false

/-! # The ids of the requests that wait

Four kinds of requests and the downloads of the OTA items draw their ids from one counter of sixteen
bits. `IdInput` is what changes who waits under an id: every call that draws one, every response, and
the parts of the timeout sweeps and of a disconnection. The calls a callback makes in the middle of a
sweep are inputs of their own.

`IdLedger` keeps the tickets beside the client: how many ids were handed out, and which of them each
request and each item got. -/

namespace ThingsboardMqtt

open Execution ListWalk Tickets

/-! ## One-way requests -/

/-- `tbcmh_oneway_clientrpc_request`: it draws an id, and nothing waits for an answer. -/
def tbcmhOnewayClientrpcRequest (method : Option String) (published : Bool) (client : Client) :
    Bool × Client :=
  if method.isNone then (false, client)
  else if !tbcmhIsConnected client.core then (false, client)
  else (published, client.setCore (tbcmhGetRequestId client.core).2)

/-! ## Who waits -/

/-- Who can wait under an id: a request by its number, an OTA item by its address. -/
inductive Holder
  | request (uid : Nat)
  | session (addr : Nat)
  deriving DecidableEq, Repr

/-- The requests that wait for a response and the items that wait for a chunk, with their ids. -/
def Client.waiting (client : Client) : List (Holder × Nat) :=
  client.pending.map (fun request => (.request request.uid, request.requestId)) ++
    client.ota.waiting.map fun item => (.session item.1, item.2)

/-- Whom a message is for: those that wait under the id in its topic. The topic of the answers to
    provision requests has none, and the oldest request takes them. -/
def Client.addressees (client : Client) : TbcmPublishData → List Holder
  | .response .provision _ _ =>
    ((client.requestList .provision).take 1).map fun request => .request request.uid
  | .response table requestId _ =>
    ((client.requestList table).filter (table.isAnswered requestId)).map fun request =>
      .request request.uid
  | .fwResponse requestId _ _ =>
    (client.ota.waiting.filter fun item => item.2 = requestId).map fun item => .session item.1
  | .sharedAttributes _ => []
  | .serverrpcRequest _ _ => []

/-- The ids are pairwise distinct, and a message is for one at most. -/
structure UniqueIds (client : Client) : Prop where
  distinct : (client.waiting.map Prod.snd).Nodup
  addressed : ∀ data, (client.addressees data).length ≤ 1

/-! ## Inputs -/

/-- A call or an event; `beside` is any that leaves the ids and those who wait alone. -/
inductive IdInput
  | request (call : RequestCall) (reader : Reader) (hasOnTimeout : Bool) (answers : RequestAnswers)
  | onewayClientrpc (method : Option String) (published : Bool)
  | response (table : RequestTable) (requestId : Nat) (object : Option Cjson) (answers : OtaAnswers)
  | attributesupdate (otaType : TbcmhOtaupdateType) (object : Option Cjson) (answers : OtaAnswers)
  | chunkData (requestId chunkId : Nat) (payload : List UInt8) (answers : OtaAnswers)
  | checkTimeout (table : RequestTable) (timestamp : Nat)
  | clear (table : RequestTable)
  | chunkCheckTimeout (timestamp : Nat)
  | otaupdateSubscribe (otaDescription : String) (otaType : TbcmhOtaupdateType)
      (nextUpdatePartition : Option Nat)
  | otaupdateUnsubscribe (otaDescription : String)
  | destroy
  | beside (client : Client)

/-- Everything that has to do with ids stays what it is. -/
structure SameIds (client client' : Client) : Prop where
  requestList : client'.requestList = client.requestList
  lastUid : client'.lastUid = client.lastUid
  otaupdateList : client'.ota.otaupdateList = client.ota.otaupdateList
  nextAddr : client'.ota.nextAddr = client.ota.nextAddr
  counter : client'.core.nextRequestId = client.core.nextRequestId
  trace : ∃ actions, client'.ota.dev.trace = client.ota.dev.trace ++ actions ∧
    actions.filterMap OtaAction.starts = []

def IdInput.handle (client : Client) : IdInput → Except Fault Client
  | .request call reader hasOnTimeout answers =>
    .ok (tbcmhRequest call reader hasOnTimeout answers client).2
  | .onewayClientrpc method published => .ok (tbcmhOnewayClientrpcRequest method published client).2
  | .response table requestId object answers =>
    tbcmhRequestOnData table requestId object answers client
  | .attributesupdate otaType object answers => do
    let ota ← otaupdateOnAttributesupdate otaType object answers client.ota
    .ok { client with ota := ota }
  | .chunkData requestId chunkId payload answers =>
    .ok { client with
      ota := tbcmhOtaupdateOnChunkData .crc32 requestId chunkId payload answers client.ota }
  | .checkTimeout table timestamp => .ok (moveTimedOut table timestamp client).2
  | .clear table => .ok (client.setRequests table [])
  | .chunkCheckTimeout timestamp =>
    .ok { client with ota := tbcmhOtaupdateOnChunkCheckTimeout timestamp client.ota }
  | .otaupdateSubscribe otaDescription otaType nextUpdatePartition =>
    .ok { client with
      ota := (tbcmhOtaupdateSubscribe otaDescription otaType nextUpdatePartition client.ota).2 }
  | .otaupdateUnsubscribe otaDescription =>
    .ok { client with ota := (tbcmhOtaupdateUnsubscribe otaDescription client.ota).2 }
  | .destroy => .ok (tbcmhOnDestroy client)
  | .beside client' => .ok client'

/-! ## Tickets -/

/-- The client with the ids that were handed out. -/
structure IdLedger where
  client : Client
  desk : Desk Holder

/-- The ids a request call draws: one while connected, also when the request is not published or no
    item can be created for it. -/
def IdInput.draw (client : Client) (desk : Desk Holder) : IdInput → Desk Holder
  | .request call _ _ _ =>
    if call.wellFormed && tbcmhIsConnected client.core then
      desk.issue (.request (client.lastUid + 1))
    else desk
  | .onewayClientrpc method _ =>
    if method.isSome && tbcmhIsConnected client.core then desk.discard else desk
  | _ => desk

/-- The ids the OTA items draw, one for each download that is started. -/
def drawStarted (actions : List OtaAction) (desk : Desk Holder) : Desk Holder :=
  (actions.filterMap OtaAction.starts).foldl (fun desk owner => desk.issue (.session owner)) desk

/-- A step with the ids it draws; what the items did stands behind the trace as it was. -/
def idStep (ledger : IdLedger) (input : IdInput) : Except Fault IdLedger := do
  let client ← input.handle ledger.client
  let actions := client.ota.dev.trace.drop ledger.client.ota.dev.trace.length
  .ok
    { client := client
      desk := drawStarted actions (input.draw ledger.client ledger.desk) }

/-- What is beside the ids leaves them alone. -/
def FittingIds (ledger : IdLedger) : IdInput → Prop
  | .beside client => SameIds ledger.client client
  | _ => True

def IdLedger.initial (now lastHandle : Nat) : IdLedger where
  client := tbcmhInit now lastHandle
  desk := .empty

/-- Since anyone who waits got its id, fewer than 65535 were handed out. -/
def IdLedger.Recent (ledger : IdLedger) : Prop :=
  ∀ entry ∈ ledger.client.waiting, ledger.desk.age entry.1 < 65535

/-! ## What the inputs do to the ids -/

theorem Client.pending_sublist {client client' : Client}
    (h : ∀ table, (client'.requestList table).Sublist (client.requestList table)) :
    client'.pending.Sublist client.pending :=
  ((h .attributesrequest).append (h .clientrpc)).append (h .provision)

/-- A table that loses requests leaves the others alone. -/
theorem Client.pending_sublist_of_setRequests {client client' : Client} {table : RequestTable}
    {requests : List Request}
    (hlist : client'.requestList = (client.setRequests table requests).requestList)
    (hfewer : requests.Sublist (client.requestList table)) :
    client'.pending.Sublist client.pending := by
  refine pending_sublist ?_
  intro other
  rw [hlist, setRequests_requestList]
  split
  · rename_i heq
    exact heq ▸ hfewer
  · exact .refl _

/-- What a request call does to the ids, once its arguments are fine and the client is connected. -/
structure RequestDrawn (table : RequestTable) (client client' : Client) : Prop where
  counter : client'.core.nextRequestId = followingId client.core.nextRequestId
  otaupdateList : client'.ota.otaupdateList = client.ota.otaupdateList
  nextAddr : client'.ota.nextAddr = client.ota.nextAddr
  trace : client'.ota.dev.trace = client.ota.dev.trace
  accepted : client'.requestList = client.requestList ∧ client.lastUid ≤ client'.lastUid ∨
    ∃ request : Request, request.uid = client.lastUid + 1 ∧ client'.lastUid = client.lastUid + 1 ∧
      request.requestId = (followingId client.core.nextRequestId).toNat ∧
      client'.requestList
        = (client.setRequests table (client.requestList table ++ [request])).requestList

theorem tbcmhRequest_drawn (call : RequestCall) (reader : Reader) (hasOnTimeout : Bool)
    (answers : RequestAnswers) {client : Client}
    (h : (call.wellFormed && tbcmhIsConnected client.core) = true) :
    RequestDrawn call.table client (tbcmhRequest call reader hasOnTimeout answers client).2 := by
  obtain ⟨published, created⟩ := answers
  obtain ⟨hwellFormed, hconnected⟩ := Bool.and_eq_true_iff.mp h
  simp only [tbcmhRequest, sendRequest, subscribeEmpty_eq, tbcmhGetRequestId_eq, hwellFormed,
    hconnected, if_true, Bool.not_true, Bool.false_eq_true, if_false]
  cases published with
  | false => exact ⟨rfl, rfl, rfl, rfl, .inl ⟨rfl, Nat.le_refl _⟩⟩
  | true =>
    cases created with
    | false => exact ⟨rfl, rfl, rfl, rfl, .inl ⟨rfl, Nat.le_succ _⟩⟩
    | true => exact ⟨rfl, rfl, rfl, rfl, .inr ⟨_, rfl, rfl, rfl, rfl⟩⟩

theorem tbcmhRequest_refused (call : RequestCall) (reader : Reader) (hasOnTimeout : Bool)
    (answers : RequestAnswers) {client : Client}
    (h : (call.wellFormed && tbcmhIsConnected client.core) = false) :
    (tbcmhRequest call reader hasOnTimeout answers client).2 = client := by
  cases hwellFormed : call.wellFormed with
  | false => simp [tbcmhRequest, hwellFormed]
  | true => exact tbcmhRequest_disconnected (by simpa [hwellFormed] using h) _ _ _ _

/-- The callback of a response may start a download. -/
theorem doResponse_draws {table : RequestTable} {request : Request} {requestId : Nat}
    {object : Cjson} {answers : OtaAnswers} {client client' : Client}
    (hnodup : (client.ota.otaupdateList.map Otaupdate.addr).Nodup)
    (h : doResponse table request requestId object answers client = .ok client') :
    client'.requestList = client.requestList ∧ client'.lastUid = client.lastUid ∧
      ∃ drawn, Draws drawn client.ota client'.ota := by
  rcases doResponse_outcome h with ⟨ota, rfl | ⟨otaType, hupdate⟩, rfl⟩ | ⟨-, rfl⟩
  · exact ⟨rfl, rfl, none, .refl _⟩
  · exact ⟨rfl, rfl, Draws.onAttributesupdate hnodup hupdate⟩
  · exact ⟨rfl, rfl, none, .refl _⟩

theorem tbcmhRequestOnData_draws {table : RequestTable} {requestId : Nat} {object : Option Cjson}
    {answers : OtaAnswers} {client client' : Client}
    (hnodup : (client.ota.otaupdateList.map Otaupdate.addr).Nodup)
    (h : tbcmhRequestOnData table requestId object answers client = .ok client') :
    client'.pending.Sublist client.pending ∧ client'.lastUid = client.lastUid ∧
      ∃ drawn, Draws drawn client.ota client'.ota := by
  rcases tbcmhRequestOnData_outcome h with rfl | ⟨object, front, request, back, hlist, -, hresponse⟩
  · exact ⟨.refl _, rfl, none, .refl _⟩
  -- the request leaves its table, which has nothing to do with the items
  rw [unsubscribeEmptied_eq] at hresponse
  generalize htaken : (client.setRequests table (front ++ back)).send _ = taken at hresponse
  have htables : taken.requestList = (client.setRequests table (front ++ back)).requestList := by
    rw [← htaken]
    rfl
  have hsteady : Draws none client.ota taken.ota := by
    rw [← htaken]
    exact .of_fewer rfl (.refl _) rfl ⟨[], (List.append_nil _).symm, rfl⟩
  have huid : taken.lastUid = client.lastUid := by
    rw [← htaken]
    rfl
  obtain ⟨hrequestList, huid', drawn, hdraws⟩ :=
    doResponse_draws (hnodup.sublist hsteady.addrs) hresponse
  refine ⟨?_, huid'.trans huid, drawn, hsteady.of_none hdraws⟩
  refine Client.pending_sublist_of_setRequests (hrequestList.trans htables) ?_
  rw [hlist]
  exact List.Sublist.append_left (List.sublist_cons_self _ _) front

/-- What an input does to the ids. -/
inductive IdOutcome (client : Client) (input : IdInput) (client' : Client) : Prop
  | request (table : RequestTable) (hdrawn : RequestDrawn table client client')
      (hdraw : ∀ desk, input.draw client desk = desk.issue (.request (client.lastUid + 1)))
  | discarded (hclient : client' = client.setCore (tbcmhGetRequestId client.core).2)
      (hdraw : ∀ desk, input.draw client desk = desk.discard)
  | changed (drawn : Option Nat) (hpending : client'.pending.Sublist client.pending)
      (huid : client'.lastUid = client.lastUid) (hdraws : Draws drawn client.ota client'.ota)
      (hdraw : ∀ desk, input.draw client desk = desk)
  | subscribed (hpending : client'.pending = client.pending)
      (huid : client'.lastUid = client.lastUid) (hcore : client'.core = client.core)
      (htrace : client'.ota.dev.trace = client.ota.dev.trace)
      (hwaiting : client'.ota.waiting = client.ota.waiting)
      (haddrs : client'.ota.otaupdateList.map Otaupdate.addr
        = client.ota.otaupdateList.map Otaupdate.addr ++ [client.ota.nextAddr])
      (hnext : client'.ota.nextAddr = client.ota.nextAddr + 1)
      (hdraw : ∀ desk, input.draw client desk = desk)

theorem IdInput.handle_outcome {client client' : Client} {desk : Desk Holder} {input : IdInput}
    (hnodup : (client.ota.otaupdateList.map Otaupdate.addr).Nodup)
    (hfits : FittingIds ⟨client, desk⟩ input)
    (hok : input.handle client = .ok client') : IdOutcome client input client' := by
  cases input with
  | request call reader hasOnTimeout answers =>
    obtain rfl := Except.ok.inj hok
    by_cases hdraws : (call.wellFormed && tbcmhIsConnected client.core) = true
    · exact .request call.table (tbcmhRequest_drawn call reader hasOnTimeout answers hdraws)
        fun _ => if_pos hdraws
    · rw [tbcmhRequest_refused call reader hasOnTimeout answers (by simpa using hdraws)]
      exact .changed none (.refl _) rfl (.refl _) fun _ => if_neg hdraws
  | onewayClientrpc method published =>
    obtain rfl := Except.ok.inj hok
    by_cases hdraws : (method.isSome && tbcmhIsConnected client.core) = true
    · refine .discarded ?_ fun _ => if_pos hdraws
      obtain ⟨hmethod, hconnected⟩ := Bool.and_eq_true_iff.mp hdraws
      simp [tbcmhOnewayClientrpcRequest, hconnected, Option.ne_none_iff_isSome.mpr hmethod]
    · have hsame : (tbcmhOnewayClientrpcRequest method published client).2 = client := by
        unfold tbcmhOnewayClientrpcRequest
        split
        · rfl
        split
        · rfl
        · exact absurd (by simp_all [Option.isSome_iff_ne_none]) hdraws
      rw [hsame]
      exact .changed none (.refl _) rfl (.refl _) fun _ => if_neg hdraws
  | response table requestId object answers =>
    obtain ⟨hpending, huid, drawn, hdraws⟩ := tbcmhRequestOnData_draws hnodup hok
    exact .changed drawn hpending huid hdraws fun _ => rfl
  | attributesupdate otaType object answers =>
    simp only [handle] at hok
    cases hupdate : otaupdateOnAttributesupdate otaType object answers client.ota with
    | error fault => simp [hupdate, bind, Except.bind] at hok
    | ok ota =>
      simp only [hupdate, bind, Except.bind] at hok
      obtain rfl := Except.ok.inj hok
      obtain ⟨drawn, hdraws⟩ := Draws.onAttributesupdate hnodup hupdate
      exact .changed drawn (.refl _) rfl hdraws fun _ => rfl
  | chunkData requestId chunkId payload answers =>
    obtain rfl := Except.ok.inj hok
    exact .changed none (.refl _) rfl (.onChunkData _ _ _ _ _ _) fun _ => rfl
  | checkTimeout table timestamp =>
    obtain rfl := Except.ok.inj hok
    simp only [moveTimedOut, unsubscribeEmptied_eq]
    refine .changed none ?_ rfl
      (.of_fewer rfl (.refl _) rfl ⟨[], (List.append_nil _).symm, rfl⟩) fun _ => rfl
    exact Client.pending_sublist_of_setRequests (Client.send_requestList _ _) List.filter_sublist
  | clear table =>
    obtain rfl := Except.ok.inj hok
    refine .changed none ?_ rfl (.refl _) fun _ => rfl
    exact Client.pending_sublist_of_setRequests rfl (List.nil_sublist _)
  | chunkCheckTimeout timestamp =>
    obtain rfl := Except.ok.inj hok
    exact .changed none (.refl _) rfl (.onChunkCheckTimeout _ _) fun _ => rfl
  | otaupdateSubscribe otaDescription otaType nextUpdatePartition =>
    obtain rfl := Except.ok.inj hok
    obtain ⟨hcore, htrace, hwaiting, ⟨hlist, hnext⟩ | ⟨haddrs, hnext⟩⟩ :=
      tbcmhOtaupdateSubscribe_adds otaDescription otaType nextUpdatePartition client.ota rfl
    · exact .changed none (.refl _) rfl (.of_fewer (congrArg Core.nextRequestId hcore)
        (hlist ▸ .refl _) hnext ⟨[], by rw [htrace, List.append_nil], rfl⟩) fun _ => rfl
    · exact .subscribed rfl rfl hcore htrace hwaiting haddrs hnext fun _ => rfl
  | otaupdateUnsubscribe otaDescription =>
    obtain rfl := Except.ok.inj hok
    exact .changed none (.refl _) rfl (.unsubscribe _ _) fun _ => rfl
  | destroy =>
    obtain rfl := Except.ok.inj hok
    exact .changed none (Client.pending_sublist fun _ => List.nil_sublist _) rfl
      (.of_fewer rfl (List.nil_sublist _) rfl ⟨[], (List.append_nil _).symm, rfl⟩) fun _ => rfl
  | beside client' =>
    obtain rfl := Except.ok.inj hok
    refine .changed none (Client.pending_sublist fun table => ?_) hfits.lastUid
      (.of_fewer hfits.counter (hfits.otaupdateList ▸ .refl _) hfits.nextAddr hfits.trace)
      fun _ => rfl
    rw [hfits.requestList]

theorem IdOutcome.trace {client client' : Client} {input : IdInput}
    (h : IdOutcome client input client') :
    ∃ actions, client'.ota.dev.trace = client.ota.dev.trace ++ actions := by
  cases h with
  | request table hdrawn hdraw => exact ⟨[], by rw [hdrawn.trace, List.append_nil]⟩
  | discarded hclient hdraw => exact ⟨[], by rw [hclient, List.append_nil]; rfl⟩
  | changed drawn hpending huid hdraws hdraw =>
    obtain ⟨actions, htrace, -⟩ := hdraws.trace
    exact ⟨actions, htrace⟩
  | subscribed hpending huid hcore htrace => exact ⟨[], by rw [htrace, List.append_nil]⟩

/-- A step handles its input and books what was drawn. -/
theorem idStep_eq_ok {client : Client} {desk : Desk Holder} {input : IdInput} {ledger' : IdLedger}
    (h : idStep ⟨client, desk⟩ input = .ok ledger') :
    ∃ client', input.handle client = .ok client' ∧
      ledger' = ⟨client', drawStarted
        (client'.ota.dev.trace.drop client.ota.dev.trace.length) (input.draw client desk)⟩ := by
  unfold idStep at h
  cases hhandle : input.handle client with
  | error fault => simp [hhandle, bind, Except.bind] at h
  | ok client' =>
    simp only [hhandle, bind, Except.bind] at h
    exact ⟨client', rfl, (Except.ok.inj h).symm⟩

end ThingsboardMqtt
