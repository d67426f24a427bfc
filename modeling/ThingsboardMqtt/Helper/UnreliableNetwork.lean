import ThingsboardMqtt.Helper.UniqueIds

set_option autoImplicit false

/-! # Answers over an unreliable network

The client, a server and the network between them. The server answers a request as often as it likes,
and the network loses, duplicates, delays and reorders requests and answers. What ties an answer to its
request is the number in the topic, one of 65535: the client hands an answer to the first request of
the table that waits under it.

`NetWorld` keeps the answers that are under way, each with the request the server made it for, and the
calls of `on_response`, each with the answer it was made with. While fewer than 65535 numbers are drawn
between a request and the arrival of its answers, a request gets no answer but its own, no more than
one, and the first that arrives while it waits (`ownAnswers_of_run`). -/

namespace ThingsboardMqtt

open Execution ListWalk Tickets

/-! ## The network -/

/-- A request as the server gets it: its topic has the number. The topic of provision requests has
    none. -/
structure PublishedRequest where
  table : RequestTable
  uid : Nat
  requestId : Nat
  numbered : table ≠ .provision

/-- An answer that the server made for a request; its topic repeats the number. -/
structure Answer where
  request : PublishedRequest
  object : Option Cjson

/-- The client, what is under way to the server and back, and who was called with which answer.
    `published` and `served` are all requests and answers there ever were. -/
structure NetWorld where
  ledger : IdLedger
  published : List PublishedRequest
  served : List Answer
  requests : List PublishedRequest
  answers : List Answer
  called : List (Nat × Answer)

/-- `network` is what becomes of the messages under way; `serve` and `deliver` take one of them by its
    place. -/
inductive NetInput
  | client (input : IdInput)
  | network (requests : List PublishedRequest) (answers : List Answer)
  | serve (place : Nat) (object : Option Cjson)
  | deliver (place : Nat) (otaAnswers : OtaAnswers)

/-- The publication of a request call. -/
def IdInput.publishes (client : Client) : IdInput → List PublishedRequest
  | .request call _ _ answers =>
    if h : call.table ≠ .provision then
      if call.wellFormed && tbcmhIsConnected client.core && answers.published then
        [⟨call.table, client.lastUid + 1, (tbcmhGetRequestId client.core).1, h⟩]
      else []
    else []
  | _ => []

/-- The request with a number whose `on_response` is called. -/
def HelperAction.responded : HelperAction → Option Nat
  | .onResponse table uid _ => if table = .provision then none else some uid
  | _ => none

/-- The requests with a number whose `on_response` was called. -/
def Client.responded (client : Client) : List Nat :=
  client.history.filterMap HelperAction.responded

/-- The input hands nobody an answer with a number. -/
def IdInput.Silent (client : Client) : IdInput → Prop
  | .response table _ _ _ => table = .provision
  | .beside client' => client'.responded = client.responded
  | _ => True

namespace NetWorld

def initial (now lastHandle : Nat) : NetWorld where
  ledger := .initial now lastHandle
  published := []
  served := []
  requests := []
  answers := []
  called := []

/-- The `on_response` that an answer is handed to, read off what was added to the history. -/
def calledWith (answer : Answer) (before after : Client) : List (Nat × Answer) :=
  (after.responded.drop before.responded.length).map (·, answer)

end NetWorld

/-- One step. An answer arrives with the number of the request it was made for. -/
def netStep (world : NetWorld) : NetInput → Except Fault NetWorld
  | .client input => do
    let ledger ← idStep world.ledger input
    let publications := input.publishes world.ledger.client
    .ok { world with
      ledger := ledger
      published := world.published ++ publications
      requests := world.requests ++ publications }
  | .network requests answers => .ok { world with requests := requests, answers := answers }
  | .serve place object =>
    match world.requests[place]? with
    | none => .ok world
    | some request =>
      .ok { world with
        served := world.served ++ [⟨request, object⟩]
        answers := world.answers ++ [⟨request, object⟩] }
  | .deliver place otaAnswers =>
    match world.answers[place]? with
    | none => .ok world
    | some answer => do
      let ledger ← idStep world.ledger
        (.response answer.request.table answer.request.requestId answer.object otaAnswers)
      .ok { world with
        ledger := ledger
        answers := world.answers.eraseIdx place
        called := world.called ++
          NetWorld.calledWith answer world.ledger.client ledger.client }

/-- Since a request was sent, and since those that wait were, fewer than 65535 numbers were drawn. -/
def NetWorld.Fresh (world : NetWorld) (answer : Answer) : Prop :=
  world.ledger.desk.age (.request answer.request.uid) < 65535 ∧ world.ledger.Recent

/-- Answers with a number come from the network, which makes none up, and arrive fresh. -/
def FittingNet (world : NetWorld) : NetInput → Prop
  | .client input => FittingIds world.ledger input ∧ input.Silent world.ledger.client
  | .network requests answers => requests ⊆ world.requests ∧ answers ⊆ world.answers
  | .serve _ _ => True
  | .deliver place _ => ∀ answer, world.answers[place]? = some answer → world.Fresh answer

/-! ## What is known of the messages -/

/-- A request was sent under the number of its ticket. -/
structure PublishedRequest.Sent (request : PublishedRequest) (ledger : IdLedger) : Prop where
  uid : request.uid ≤ ledger.client.lastUid
  ticket : 0 < ledger.desk.place (.request request.uid)
  requestId : request.requestId
    = (followingId^[ledger.desk.place (.request request.uid)] 0).toNat

/-- Everything under way was sent, and who was called does not wait any more. -/
structure NetInv (world : NetWorld) : Prop where
  ticketed : Ticketed world.ledger
  sent : ∀ request ∈ world.published, request.Sent world.ledger
  distinct : (world.published.map (·.uid)).Nodup
  requests : world.requests ⊆ world.published
  served : ∀ answer ∈ world.served, answer.request ∈ world.published
  answers : world.answers ⊆ world.served
  responded : world.ledger.client.responded = world.called.map Prod.fst
  once : (world.called.map Prod.fst).Nodup
  own : ∀ call ∈ world.called, call.2.request.uid = call.1 ∧ call.2 ∈ world.served
  gone : ∀ call ∈ world.called, call.1 ∉ world.ledger.client.pending.map (·.uid)
  called : ∀ call ∈ world.called, call.1 ≤ world.ledger.client.lastUid

/-! ## Steps of the client -/

theorem drawStarted_place_request (actions : List OtaAction) (desk : Desk Holder) (uid : Nat) :
    (drawStarted actions desk).place (.request uid) = desk.place (.request uid) := by
  unfold drawStarted
  induction actions.filterMap OtaAction.starts generalizing desk with
  | nil => rfl
  | cons owner rest ih =>
    rw [List.foldl_cons, ih]
    exact desk.issue_place_of_ne _ (by simp)

/-- What a step of the client leaves of the tickets and of those who wait. -/
structure KeepsTickets (ledger ledger' : IdLedger) : Prop where
  lastUid : ledger.client.lastUid ≤ ledger'.client.lastUid
  place : ∀ uid ≤ ledger.client.lastUid,
    ledger'.desk.place (.request uid) = ledger.desk.place (.request uid)
  pending : ∀ request ∈ ledger'.client.pending, request ∈ ledger.client.pending ∨
    ledger.client.lastUid < request.uid

theorem keepsTickets_of_idStep {ledger ledger' : IdLedger} {input : IdInput}
    (h : Ticketed ledger) (hfits : FittingIds ledger input)
    (hok : idStep ledger input = .ok ledger') : KeepsTickets ledger ledger' := by
  obtain ⟨client, desk⟩ := ledger
  obtain ⟨client', hhandle, rfl⟩ := idStep_eq_ok hok
  cases IdInput.handle_outcome h.distinct.addrs hfits hhandle with
  | request table hdrawn hdraw =>
    have hplace : ∀ uid ≤ client.lastUid, (desk.issue (.request (client.lastUid + 1))).place
        (.request uid) = desk.place (.request uid) := by
      intro uid hle
      refine desk.issue_place_of_ne _ ?_
      simp only [ne_eq, Holder.request.injEq]
      omega
    refine ⟨?_, ?_, ?_⟩
    · rcases hdrawn.accepted with ⟨-, huid⟩ | ⟨-, -, huid, -⟩
      · exact huid
      · exact huid ▸ Nat.le_succ _
    · intro uid hle
      simp only [drawStarted_place_request, hdraw]
      exact hplace uid hle
    · rcases hdrawn.accepted with ⟨hlist, -⟩ | ⟨request, huid, -, -, hlist⟩
      · intro request hmem
        simp only [Client.pending, hlist] at hmem
        exact .inl hmem
      · intro other hmem
        rcases List.mem_cons.mp ((Client.pending_perm hlist).mem_iff.mp hmem) with rfl | hold
        · exact .inr (by simp [huid])
        · exact .inl hold
  | discarded hclient hdraw =>
    subst hclient
    refine ⟨Nat.le_refl _, ?_, fun request hmem => .inl hmem⟩
    intro uid _
    simp only [drawStarted_place_request, hdraw]
    rfl
  | changed drawn hpending huid hdraws hdraw =>
    refine ⟨Nat.le_of_eq huid.symm, ?_, fun request hmem => .inl (hpending.subset hmem)⟩
    intro uid _
    simp only [drawStarted_place_request, hdraw]
  | subscribed hpending huid hcore htrace hwaiting haddrs hnext hdraw =>
    refine ⟨Nat.le_of_eq huid.symm, ?_, fun request hmem => .inl (hpending ▸ hmem)⟩
    intro uid _
    simp only [drawStarted_place_request, hdraw]

theorem uid_of_mem_publishes {client : Client} {input : IdInput} {request : PublishedRequest}
    (hmem : request ∈ input.publishes client) : client.lastUid < request.uid := by
  cases input with
  | request call reader hasOnTimeout answers =>
    simp only [IdInput.publishes] at hmem
    split at hmem
    · split at hmem
      · rw [List.mem_singleton.mp hmem]
        exact Nat.lt_succ_self _
      · exact absurd hmem List.not_mem_nil
    · exact absurd hmem List.not_mem_nil
  | _ => exact absurd hmem List.not_mem_nil

theorem nodup_publishes (client : Client) (input : IdInput) :
    ((input.publishes client).map (·.uid)).Nodup := by
  cases input with
  | request call reader hasOnTimeout answers =>
    simp only [IdInput.publishes]
    split
    · split
      · exact List.nodup_singleton _
      · exact List.nodup_nil
    · exact List.nodup_nil
  | _ => exact List.nodup_nil

theorem PublishedRequest.Sent.keep {request : PublishedRequest} {ledger ledger' : IdLedger}
    (h : request.Sent ledger) (hkeeps : KeepsTickets ledger ledger') : request.Sent ledger' where
  uid := h.uid.trans hkeeps.lastUid
  ticket := hkeeps.place _ h.uid ▸ h.ticket
  requestId := hkeeps.place _ h.uid ▸ h.requestId

/-- A request that is published is sent under the number of its ticket. -/
theorem sent_of_mem_publishes {ledger ledger' : IdLedger} {input : IdInput} (h : Ticketed ledger)
    (hok : idStep ledger input = .ok ledger') {request : PublishedRequest}
    (hmem : request ∈ input.publishes ledger.client) : request.Sent ledger' := by
  obtain ⟨client, desk⟩ := ledger
  obtain ⟨client', hhandle, rfl⟩ := idStep_eq_ok hok
  cases input with
  | request call reader hasOnTimeout answers =>
    obtain ⟨published, created⟩ := answers
    simp only [IdInput.publishes] at hmem
    split at hmem
    · split at hmem
      · rename_i hpublished
        obtain rfl := List.mem_singleton.mp hmem
        obtain ⟨hdraws, rfl⟩ := Bool.and_eq_true_iff.mp hpublished
        obtain rfl := Except.ok.inj hhandle
        have hplace : ((IdInput.request call reader hasOnTimeout ⟨true, created⟩).draw client
            desk).place (.request (client.lastUid + 1)) = desk.issued + 1 := by
          rw [IdInput.draw, if_pos hdraws]
          exact desk.issue_place_self _
        refine ⟨?_, ?_, ?_⟩
        · obtain ⟨hwellFormed, hconnected⟩ := Bool.and_eq_true_iff.mp hdraws
          simp only [tbcmhRequest, sendRequest, subscribeEmpty_eq, tbcmhGetRequestId_eq,
            hwellFormed, hconnected, if_true, Bool.not_true, Bool.false_eq_true, if_false]
          cases created <;> exact Nat.le_refl _
        · rw [drawStarted_place_request, hplace]
          exact Nat.succ_pos _
        · rw [drawStarted_place_request, hplace, ← followingId_counter h, tbcmhGetRequestId_eq]
      · exact absurd hmem List.not_mem_nil
    · exact absurd hmem List.not_mem_nil
  | _ => exact absurd hmem List.not_mem_nil

/-! ## Answers -/

/-- A request that an answer may be handed to. -/
def NetWorld.waits (world : NetWorld) (request : PublishedRequest) : Bool :=
  (world.ledger.client.requestList request.table).any fun waiting => waiting.uid = request.uid

/-- The `on_response` of a request that was taken from a table with numbers is called. -/
theorem doResponse_calls {table : RequestTable} (htable : table ≠ .provision) {request : Request}
    {requestId : Nat} {object : Cjson} {answers : OtaAnswers} {client client' : Client}
    (h : doResponse table request requestId object answers client = .ok client') :
    client'.requestList = client.requestList ∧
      client'.responded = client.responded ++ [request.uid] := by
  cases table with
  | attributesrequest =>
    rcases doResponse_outcome h with ⟨ota, -, rfl⟩ | ⟨-, rfl⟩
    · exact ⟨rfl, List.filterMap_append⟩
    · simp only [doResponse] at h
      cases hreader : request.reader with
      | application => simp [hreader, Client.log] at h
      | otaupdate otaType context =>
        rw [hreader] at h
        simp only [bind, Except.bind] at h
        split at h
        · exact absurd h (by simp)
        · simp [Client.log] at h
  | clientrpc =>
    obtain rfl := Except.ok.inj h
    exact ⟨rfl, List.filterMap_append⟩
  | provision => exact absurd rfl htable

/-- What a response of a table with numbers does: nothing, when nobody waits under its number or it
    cannot be parsed, and else the first that waits under it is taken out and called. -/
theorem tbcmhRequestOnData_calls {table : RequestTable} (htable : table ≠ .provision)
    {requestId : Nat} {object : Option Cjson} {answers : OtaAnswers} {client client' : Client}
    (h : tbcmhRequestOnData table requestId object answers client = .ok client') :
    client' = client ∧
        (object = none ∨ ∀ request ∈ client.requestList table, request.requestId ≠ requestId) ∨
      object.isSome = true ∧ ∃ front request back,
        client.requestList table = front ++ request :: back ∧ request.requestId = requestId ∧
          client'.requestList = (client.setRequests table (front ++ back)).requestList ∧
          client'.responded = client.responded ++ [request.uid] := by
  cases object with
  | none => exact .inl ⟨(Except.ok.inj h).symm, .inl rfl⟩
  | some object =>
    simp only [tbcmhRequestOnData] at h
    cases hsplit : splitFirst (table.isAnswered requestId) (client.requestList table) with
    | none =>
      rw [hsplit] at h
      refine .inl ⟨(Except.ok.inj h).symm, .inr ?_⟩
      intro request hmem heq
      have hnot := splitFirst_eq_none hsplit request hmem
      simp [RequestTable.isAnswered, heq] at hnot
    | some parts =>
      obtain ⟨front, request, back⟩ := parts
      rw [hsplit] at h
      obtain ⟨hlist, hanswered, -⟩ := splitFirst_eq_some hsplit
      obtain ⟨htables, hresponded⟩ := doResponse_calls htable h
      rw [unsubscribeEmptied_eq] at htables hresponded
      have hid : request.requestId = requestId := by
        simpa [RequestTable.isAnswered, htable] using hanswered
      exact .inr ⟨rfl, front, request, back, hlist, hid, htables, hresponded⟩

section Deliver

variable {world : NetWorld} {answer : Answer}

/-- Those that wait under the number of a fresh answer are the request it was made for. -/
theorem NetInv.uid_eq (h : NetInv world) (hanswer : answer ∈ world.answers)
    (hfresh : world.Fresh answer) {request : Request}
    (hmem : request ∈ world.ledger.client.pending)
    (hid : request.requestId = answer.request.requestId) : request.uid = answer.request.uid := by
  have hsent := h.sent _ (h.served _ (h.answers hanswer))
  have hwaiting := Client.mem_waiting_request.mpr ⟨request, hmem, rfl, rfl⟩
  obtain ⟨hplace, hnumber⟩ := h.ticketed.ticket _ hwaiting
  have hsame := world.ledger.desk.holder_eq distinctWithin_followingId hplace hsent.ticket
    (hfresh.2 _ hwaiting) hfresh.1 (hnumber.symm.trans (hid.trans hsent.requestId))
  exact Holder.request.inj hsame

/-- A request that waits does so under the number of its answers. -/
theorem NetInv.requestId_eq (h : NetInv world) (hanswer : answer ∈ world.answers)
    {request : Request} (hmem : request ∈ world.ledger.client.pending)
    (huid : request.uid = answer.request.uid) :
    request.requestId = answer.request.requestId := by
  have hsent := h.sent _ (h.served _ (h.answers hanswer))
  have hwaiting := Client.mem_waiting_request.mpr ⟨request, hmem, rfl, rfl⟩
  obtain ⟨-, hnumber⟩ := h.ticketed.ticket _ hwaiting
  rw [hsent.requestId, ← huid]
  exact hnumber

/-- A fresh answer is handed to its own request, if that waits, and to nobody else; the request waited
    and does not any more then. -/
theorem NetInv.calledWith_eq (h : NetInv world) (hanswer : answer ∈ world.answers)
    (hfresh : world.Fresh answer) {otaAnswers : OtaAnswers} {client' : Client}
    (hdata : tbcmhRequestOnData answer.request.table answer.request.requestId answer.object
      otaAnswers world.ledger.client = .ok client') :
    (NetWorld.calledWith answer world.ledger.client client'
        = if world.waits answer.request && answer.object.isSome
          then [(answer.request.uid, answer)] else []) ∧
      client'.responded = world.ledger.client.responded ++
        (NetWorld.calledWith answer world.ledger.client client').map Prod.fst ∧
      ((world.waits answer.request && answer.object.isSome) = true →
        answer.request.uid ∈ world.ledger.client.pending.map (·.uid) ∧
          answer.request.uid ∉ client'.pending.map (·.uid)) := by
  have hpending : ∀ request ∈ world.ledger.client.requestList answer.request.table,
      request ∈ world.ledger.client.pending := fun request hmem => Client.mem_pending hmem
  rcases tbcmhRequestOnData_calls answer.request.numbered hdata with
    ⟨rfl, hnobody⟩ | ⟨hparsed, front, request, back, hlist, hid, htables, hresponded⟩
  · have hnot : (world.waits answer.request && answer.object.isSome) = false := by
      rcases hnobody with hnone | hnobody
      · simp [hnone]
      · rw [Bool.and_eq_false_iff]
        refine .inl (List.any_eq_false.mpr ?_)
        intro request hmem heq
        exact hnobody request hmem
          (h.requestId_eq hanswer (hpending request hmem) (of_decide_eq_true heq))
    rw [hnot]
    exact ⟨by simp [NetWorld.calledWith], by simp [NetWorld.calledWith],
      fun hyes => absurd hyes (by simp)⟩
  · have hmem : request ∈ world.ledger.client.requestList answer.request.table :=
      hlist ▸ List.mem_append_right _ List.mem_cons_self
    have hown : request.uid = answer.request.uid :=
      h.uid_eq hanswer hfresh (hpending request hmem) hid
    have hwaits : (world.waits answer.request && answer.object.isSome) = true :=
      Bool.and_eq_true_iff.mpr
        ⟨List.any_eq_true.mpr ⟨request, hmem, decide_eq_true hown⟩, hparsed⟩
    rw [if_pos hwaits]
    refine ⟨by simp [NetWorld.calledWith, hresponded, hown],
      by simp [NetWorld.calledWith, hresponded], fun _ =>
        ⟨hown ▸ List.mem_map_of_mem (hpending request hmem), ?_⟩⟩
    -- the numbers of the requests are pairwise different, so what is left has another one
    intro hleft
    obtain ⟨other, hother, hsame⟩ := List.mem_map.mp hleft
    have hcount := world.ledger.client.countP_setRequests
      (fun waiting => waiting.uid = request.uid) answer.request.table (front ++ back)
    have hafter : client'.pending = (world.ledger.client.setRequests answer.request.table
        (front ++ back)).pending := by
      simp only [Client.pending, htables]
    have honce := List.nodup_iff_count_le_one.mp h.ticketed.distinct.uids request.uid
    rw [List.count, List.countP_map] at honce
    have hpos : 0 < client'.pending.countP fun waiting => waiting.uid = request.uid :=
      List.countP_pos_iff.mpr ⟨other, hother, decide_eq_true (hsame.trans hown.symm)⟩
    rw [← hafter, hlist] at hcount
    have hcongr : (List.countP ((fun uid => uid == request.uid) ∘ fun waiting => waiting.uid)
        world.ledger.client.pending) = world.ledger.client.pending.countP
          fun waiting => decide (waiting.uid = request.uid) := rfl
    simp only [List.countP_append, List.countP_cons, decide_true, if_true] at hcount
    omega

end Deliver

/-! ## Runs -/

/-- The client alone calls no `on_response` of a request with a number. -/
theorem responded_of_silent {client client' : Client} {input : IdInput}
    (hsilent : input.Silent client) (hok : input.handle client = .ok client') :
    client'.responded = client.responded := by
  cases input with
  | request call reader hasOnTimeout answers =>
    have houtcome := tbcmhRequest_outcome call reader hasOnTimeout answers client
    rw [Except.ok.inj hok] at houtcome
    cases houtcome with
    | accepted =>
      rw [Client.responded, Client.log_history, List.filterMap_append]
      exact List.append_nil _
    | _ => rfl
  | onewayClientrpc method published =>
    obtain rfl := Except.ok.inj hok
    unfold tbcmhOnewayClientrpcRequest
    split
    · rfl
    split <;> rfl
  | response table requestId object answers =>
    obtain rfl : table = .provision := hsilent
    rcases tbcmhRequestOnData_outcome hok with rfl | ⟨object, front, request, back, -, -, hresponse⟩
    · rfl
    rw [unsubscribeEmptied_eq] at hresponse
    rcases doResponse_outcome hresponse with ⟨ota, -, rfl⟩ | ⟨-, rfl⟩
    · exact List.filterMap_append.trans (List.append_nil _)
    · exact List.filterMap_append.trans (List.append_nil _)
  | attributesupdate otaType object answers =>
    simp only [IdInput.handle, bind, Except.bind] at hok
    split at hok
    · exact absurd hok (by simp)
    · obtain rfl := Except.ok.inj hok
      rfl
  | checkTimeout table timestamp =>
    obtain rfl := Except.ok.inj hok
    simp only [moveTimedOut, unsubscribeEmptied_eq]
    rfl
  | beside client' =>
    obtain rfl := Except.ok.inj hok
    exact hsilent
  | chunkData | clear | chunkCheckTimeout | otaupdateSubscribe | otaupdateUnsubscribe | destroy =>
    obtain rfl := Except.ok.inj hok
    rfl

/-- A step of the client, whoever it calls. -/
theorem NetInv.gone_of_idStep {world : NetWorld} {ledger : IdLedger} {input : IdInput}
    (h : NetInv world) (hfits : FittingIds world.ledger input)
    (hok : idStep world.ledger input = .ok ledger) :
    (∀ call ∈ world.called, call.1 ∉ ledger.client.pending.map (·.uid)) ∧
      ∀ call ∈ world.called, call.1 ≤ ledger.client.lastUid := by
  have hkeeps := keepsTickets_of_idStep h.ticketed hfits hok
  refine ⟨?_, fun call hmem => (h.called call hmem).trans hkeeps.lastUid⟩
  intro call hmem hwaits
  obtain ⟨request, hrequest, heq⟩ := List.mem_map.mp hwaits
  rcases hkeeps.pending request hrequest with hold | hnew
  · exact h.gone call hmem (List.mem_map.mpr ⟨request, hold, heq⟩)
  · have hle := h.called call hmem
    omega

/-- The client takes a step of its own. -/
theorem NetInv.client {world : NetWorld} {ledger : IdLedger} {input : IdInput} (h : NetInv world)
    (hfits : FittingIds world.ledger input) (hsilent : input.Silent world.ledger.client)
    (hok : idStep world.ledger input = .ok ledger) :
    NetInv { world with
      ledger := ledger
      published := world.published ++ input.publishes world.ledger.client
      requests := world.requests ++ input.publishes world.ledger.client } := by
  have hkeeps := keepsTickets_of_idStep h.ticketed hfits hok
  obtain ⟨hgone, hcalled⟩ := h.gone_of_idStep hfits hok
  have hresponded : ledger.client.responded = world.ledger.client.responded := by
    obtain ⟨client', hhandle, rfl⟩ := idStep_eq_ok hok
    exact responded_of_silent hsilent hhandle
  refine ⟨ticketed_step h.ticketed ⟨hfits, hok⟩, ?_, ?_, ?_, ?_, h.answers,
    hresponded.trans h.responded, h.once, h.own, hgone, hcalled⟩
  · intro request hmem
    rcases List.mem_append.mp hmem with hmem | hmem
    · exact (h.sent request hmem).keep hkeeps
    · exact sent_of_mem_publishes h.ticketed hok hmem
  · rw [List.map_append, List.nodup_append]
    refine ⟨h.distinct, nodup_publishes _ _, ?_⟩
    intro uid hold other hnew
    obtain ⟨request, hrequest, rfl⟩ := List.mem_map.mp hold
    obtain ⟨publication, hpublication, rfl⟩ := List.mem_map.mp hnew
    have hle := (h.sent request hrequest).uid
    have hlt := uid_of_mem_publishes hpublication
    omega
  · intro request hmem
    rcases List.mem_append.mp hmem with hmem | hmem
    · exact List.mem_append_left _ (h.requests hmem)
    · exact List.mem_append_right _ hmem
  · exact fun answer hmem => List.mem_append_left _ (h.served answer hmem)

/-- A fresh answer arrives. -/
theorem NetInv.deliver {world : NetWorld} {ledger : IdLedger} {place : Nat} {answer : Answer}
    {otaAnswers : OtaAnswers} (h : NetInv world) (hplace : world.answers[place]? = some answer)
    (hfresh : world.Fresh answer)
    (hok : idStep world.ledger (.response answer.request.table answer.request.requestId
      answer.object otaAnswers) = .ok ledger) :
    NetInv { world with
      ledger := ledger
      answers := world.answers.eraseIdx place
      called := world.called ++
        NetWorld.calledWith answer world.ledger.client ledger.client } := by
  have hmem : answer ∈ world.answers := List.mem_of_getElem? hplace
  have hfits : FittingIds world.ledger (.response answer.request.table answer.request.requestId
    answer.object otaAnswers) := trivial
  have hkeeps := keepsTickets_of_idStep h.ticketed hfits hok
  obtain ⟨hgone, hle⟩ := h.gone_of_idStep hfits hok
  have hsent : ∀ request ∈ world.published, request.Sent ledger :=
    fun request hrequest => (h.sent request hrequest).keep hkeeps
  have hpublished := h.served _ (h.answers hmem)
  obtain ⟨client', hdata, rfl⟩ := idStep_eq_ok hok
  obtain ⟨hcalled, hresponded, hwaited⟩ := h.calledWith_eq hmem hfresh hdata
  have hhistory : client'.responded = (world.called ++
      NetWorld.calledWith answer world.ledger.client client').map Prod.fst := by
    rw [List.map_append, ← h.responded]
    exact hresponded
  have hticketed := ticketed_step h.ticketed ⟨hfits, hok⟩
  have herased : world.answers.eraseIdx place ⊆ world.served :=
    fun other hother => h.answers (List.eraseIdx_subset hother)
  by_cases hyes : (world.waits answer.request && answer.object.isSome) = true
  · rw [if_pos hyes] at hcalled
    simp only [hcalled] at hhistory ⊢
    refine ⟨hticketed, hsent, h.distinct, h.requests, h.served, herased, hhistory, ?_, ?_, ?_, ?_⟩
    · rw [List.map_append, List.nodup_append]
      refine ⟨h.once, List.nodup_singleton _, ?_⟩
      rintro uid hold _ hnew rfl
      obtain ⟨call, hcall, rfl⟩ := List.mem_map.mp hold
      rw [List.map_singleton, List.mem_singleton] at hnew
      exact h.gone call hcall (hnew ▸ (hwaited hyes).1)
    · intro call hcall
      rcases List.mem_append.mp hcall with hcall | hcall
      · exact h.own call hcall
      · rw [List.mem_singleton.mp hcall]
        exact ⟨rfl, h.answers hmem⟩
    · intro call hcall
      rcases List.mem_append.mp hcall with hcall | hcall
      · exact hgone call hcall
      · rw [List.mem_singleton.mp hcall]
        exact (hwaited hyes).2
    · intro call hcall
      rcases List.mem_append.mp hcall with hcall | hcall
      · exact hle call hcall
      · rw [List.mem_singleton.mp hcall]
        exact (hsent _ hpublished).uid
  · rw [if_neg hyes] at hcalled
    simp only [hcalled, List.append_nil] at hhistory ⊢
    exact ⟨hticketed, hsent, h.distinct, h.requests, h.served, herased, hhistory, h.once, h.own,
      hgone, hle⟩

theorem netInv_step {world world' : NetWorld} {input : NetInput} (h : NetInv world)
    (hstep : within FittingNet (Succeeds netStep) world input world') : NetInv world' := by
  obtain ⟨hfits, hok⟩ := hstep
  cases input with
  | client input =>
    simp only [Succeeds, netStep, bind, Except.bind] at hok
    cases hid : idStep world.ledger input with
    | error fault => simp [hid] at hok
    | ok ledger =>
      rw [hid] at hok
      obtain rfl := Except.ok.inj hok
      exact h.client hfits.1 hfits.2 hid
  | network requests answers =>
    obtain rfl := Except.ok.inj hok
    exact ⟨h.ticketed, h.sent, h.distinct, fun _ hmem => h.requests (hfits.1 hmem), h.served,
      fun _ hmem => h.answers (hfits.2 hmem), h.responded, h.once, h.own, h.gone, h.called⟩
  | serve place object =>
    simp only [Succeeds, netStep] at hok
    cases hplace : world.requests[place]? with
    | none =>
      rw [hplace] at hok
      obtain rfl := Except.ok.inj hok
      exact h
    | some request =>
      rw [hplace] at hok
      obtain rfl := Except.ok.inj hok
      refine ⟨h.ticketed, h.sent, h.distinct, h.requests, ?_, ?_, h.responded, h.once, ?_, h.gone,
        h.called⟩
      · intro answer hmem
        rcases List.mem_append.mp hmem with hmem | hmem
        · exact h.served answer hmem
        · rw [List.mem_singleton.mp hmem]
          exact h.requests (List.mem_of_getElem? hplace)
      · intro answer hmem
        rcases List.mem_append.mp hmem with hmem | hmem
        · exact List.mem_append_left _ (h.answers hmem)
        · exact List.mem_append_right _ hmem
      · exact fun call hmem => ⟨(h.own call hmem).1, List.mem_append_left _ (h.own call hmem).2⟩
  | deliver place otaAnswers =>
    simp only [Succeeds, netStep] at hok
    cases hplace : world.answers[place]? with
    | none =>
      rw [hplace] at hok
      obtain rfl := Except.ok.inj hok
      exact h
    | some answer =>
      simp only [hplace, bind, Except.bind] at hok
      cases hid : idStep world.ledger (.response answer.request.table answer.request.requestId
          answer.object otaAnswers) with
      | error fault => simp [hid] at hok
      | ok ledger =>
        rw [hid] at hok
        obtain rfl := Except.ok.inj hok
        exact h.deliver hplace (hfits answer hplace) hid

theorem netInv_initial (now lastHandle : Nat) : NetInv (.initial now lastHandle) where
  ticketed := ticketed_initial now lastHandle
  sent _ hmem := absurd hmem List.not_mem_nil
  distinct := List.nodup_nil
  requests := List.Subset.refl _
  served _ hmem := absurd hmem List.not_mem_nil
  answers := List.Subset.refl _
  responded := rfl
  once := List.nodup_nil
  own _ hmem := absurd hmem List.not_mem_nil
  gone _ hmem := absurd hmem List.not_mem_nil
  called _ hmem := absurd hmem List.not_mem_nil

theorem netInv_of_run {now lastHandle : Nat} {inputs : List NetInput} {world : NetWorld}
    (run : Run (within FittingNet (Succeeds netStep)) (.initial now lastHandle) inputs world) :
    NetInv world :=
  run.invariant (netInv_initial now lastHandle) fun _ _ _ => netInv_step

/-- Whatever the network does to the messages, every `on_response` of a request with a number is called
    once at most and with an answer that the server made for this request; and an answer that arrives
    is handed to its request exactly when that waits. -/
theorem ownAnswers_of_run {now lastHandle : Nat} {inputs : List NetInput} {world : NetWorld}
    (run : Run (within FittingNet (Succeeds netStep)) (.initial now lastHandle) inputs world) :
    (world.published.map (·.uid)).Nodup ∧
      world.ledger.client.responded = world.called.map Prod.fst ∧
      (world.called.map Prod.fst).Nodup ∧
      (∀ call ∈ world.called, call.2.request.uid = call.1 ∧ call.2 ∈ world.served ∧
        call.2.request ∈ world.published) ∧
      ∀ place answer otaAnswers world', world.answers[place]? = some answer →
        world.Fresh answer → netStep world (.deliver place otaAnswers) = .ok world' →
        world'.called = world.called ++
          if world.waits answer.request && answer.object.isSome
          then [(answer.request.uid, answer)] else [] := by
  have hinv := netInv_of_run run
  refine ⟨hinv.distinct, hinv.responded, hinv.once, ?_, ?_⟩
  · intro call hmem
    obtain ⟨huid, hserved⟩ := hinv.own call hmem
    exact ⟨huid, hserved, hinv.served _ hserved⟩
  · intro place answer otaAnswers world' hplace hfresh hok
    simp only [netStep, hplace, bind, Except.bind] at hok
    cases hid : idStep world.ledger (.response answer.request.table answer.request.requestId
        answer.object otaAnswers) with
    | error fault => simp [hid] at hok
    | ok ledger =>
      rw [hid] at hok
      obtain rfl := Except.ok.inj hok
      obtain ⟨client', hdata, rfl⟩ := idStep_eq_ok hid
      dsimp only
      rw [(hinv.calledWith_eq (List.mem_of_getElem? hplace) hfresh hdata).1]

/-! ## A sample run -/

instance (ledger : IdLedger) : Decidable ledger.Recent :=
  inferInstanceAs (Decidable (∀ entry ∈ ledger.client.waiting, ledger.desk.age entry.1 < 65535))

/-- The answer to the request `uid` of the sample run. -/
def sampleNetAnswer (uid : Nat) : Answer :=
  ⟨⟨.clientrpc, uid, uid, by decide⟩, some (.object [])⟩

/-- Two requests are answered, the second answer is duplicated and overtakes the first. -/
def sampleNetInputs : List NetInput :=
  [.client (.beside ((tbcmhInit 0 0).setCore { (tbcmhInit 0 0).core with state := .connected })),
    .client (.request (.twowayClientrpc (some "reboot")) .application true ⟨true, true⟩),
    .client (.request (.twowayClientrpc (some "reset")) .application true ⟨true, true⟩),
    .serve 0 (some (.object [])), .serve 1 (some (.object [])),
    .network [] [sampleNetAnswer 2, sampleNetAnswer 2, sampleNetAnswer 1],
    .deliver 0 sampleAnswers, .deliver 0 sampleAnswers, .deliver 0 sampleAnswers]

theorem ownAnswers_sampleNetInputs :
    ∃ world, Run (within FittingNet (Succeeds netStep)) (.initial 0 0) sampleNetInputs world ∧
      world.called = [(2, sampleNetAnswer 2), (1, sampleNetAnswer 1)] ∧
      (world.called.map Prod.fst).Nodup := by
  have htakes : Takes FittingNet netStep (.initial 0 0) sampleNetInputs := by
    refine ⟨⟨⟨rfl, rfl, rfl, rfl, rfl, [], rfl, rfl⟩, rfl⟩, rfl, ⟨trivial, trivial⟩, rfl,
      ⟨trivial, trivial⟩, rfl, trivial, rfl, trivial, rfl, ⟨?_, ?_⟩, rfl, ?_, rfl, ?_, rfl, ?_, rfl,
      trivial⟩
    · exact List.nil_subset _
    · show _ ⊆ [sampleNetAnswer 1, sampleNetAnswer 2]
      simp
    all_goals
      intro answer hplace
      obtain rfl := Option.some.inj hplace
      exact ⟨by decide, by decide⟩
  exact ⟨_, run_of_takes htakes, rfl, (ownAnswers_of_run (run_of_takes htakes)).2.2.1⟩

end ThingsboardMqtt
