import ThingsboardMqtt.Helper.RequestIds

set_option autoImplicit false

/-! # Those who wait under an id are the only ones

A ticket is handed out with every id, so the counter stands at the last ticket and everyone who waits
does so under the number of its own (`Ticketed`). The numbers repeat after 65535, so those whose
tickets are more recent have different ids, and a response finds one of them at most. -/

namespace ThingsboardMqtt

open Execution ListWalk Tickets

/-! ## Those who wait are told apart -/

/-- No two requests have the same number, no two items the same address, and the next number and the
    next address are new. -/
structure Distinct (client : Client) : Prop where
  uids : (client.pending.map (·.uid)).Nodup
  numbered : ∀ request ∈ client.pending, request.uid ≤ client.lastUid
  addrs : (client.ota.otaupdateList.map Otaupdate.addr).Nodup
  allocated : ∀ addr ∈ client.ota.otaupdateList.map Otaupdate.addr, addr < client.ota.nextAddr

theorem Distinct.of_fewer {client client' : Client} (h : Distinct client)
    (hpending : client'.pending.Sublist client.pending) (huid : client.lastUid ≤ client'.lastUid)
    (haddrs : (client'.ota.otaupdateList.map Otaupdate.addr).Sublist
      (client.ota.otaupdateList.map Otaupdate.addr))
    (hnext : client'.ota.nextAddr = client.ota.nextAddr) : Distinct client' where
  uids := h.uids.sublist (hpending.map _)
  numbered request hmem := (h.numbered request (hpending.subset hmem)).trans huid
  addrs := h.addrs.sublist haddrs
  allocated addr hmem := hnext ▸ h.allocated addr (haddrs.subset hmem)

/-- A request that is added stands somewhere among the others. -/
theorem Client.pending_perm {client client' : Client} {table : RequestTable} {request : Request}
    (h : client'.requestList = (client.setRequests table
      (client.requestList table ++ [request])).requestList) :
    client'.pending.Perm (request :: client.pending) := by
  have hsplit : ∃ front back, client.pending = front ++ back ∧
      client'.pending = front ++ request :: back := by
    simp only [pending, h]
    cases table with
    | attributesrequest =>
      exact ⟨client.requestList .attributesrequest,
        client.requestList .clientrpc ++ client.requestList .provision,
        by simp, by simp [setRequests_requestList]⟩
    | clientrpc =>
      exact ⟨client.requestList .attributesrequest ++ client.requestList .clientrpc,
        client.requestList .provision, by simp, by simp [setRequests_requestList]⟩
    | provision =>
      exact ⟨client.pending, [], by simp [pending], by simp [pending, setRequests_requestList]⟩
  obtain ⟨front, back, hbefore, hafter⟩ := hsplit
  rw [hbefore, hafter]
  exact List.perm_middle

theorem Client.mem_waiting_request {client : Client} {uid requestId : Nat} :
    (.request uid, requestId) ∈ client.waiting ↔
      ∃ request ∈ client.pending, request.uid = uid ∧ request.requestId = requestId := by
  simp [waiting]

theorem Client.mem_waiting_session {client : Client} {addr requestId : Nat} :
    (.session addr, requestId) ∈ client.waiting ↔ (addr, requestId) ∈ client.ota.waiting := by
  simp [waiting]

theorem Distinct.holders {client : Client} (h : Distinct client) :
    (client.waiting.map Prod.fst).Nodup := by
  have hitems : (client.ota.waiting.map Prod.fst).Nodup := by
    rw [OtaWorld.waiting, List.map_map]
    exact h.addrs.sublist (List.filter_sublist.map Otaupdate.addr)
  have hsplit : client.waiting.map Prod.fst
      = (client.pending.map (·.uid)).map Holder.request
        ++ (client.ota.waiting.map Prod.fst).map Holder.session := by
    simp [Client.waiting, Function.comp_def]
  rw [hsplit]
  refine List.nodup_append.mpr ⟨?_, ?_, ?_⟩
  · exact h.uids.map fun _ _ heq => Holder.request.inj heq
  · exact hitems.map fun _ _ heq => Holder.session.inj heq
  · intro holder hrequest other hsession
    obtain ⟨uid, -, rfl⟩ := List.mem_map.mp hrequest
    obtain ⟨addr, -, rfl⟩ := List.mem_map.mp hsession
    simp

/-! ## The invariant -/

/-- The counter stands at the last ticket, and everyone waits under the id of its own. -/
structure Ticketed (ledger : IdLedger) : Prop where
  distinct : Distinct ledger.client
  counter : ledger.client.core.nextRequestId = followingId^[ledger.desk.issued] 0
  ticket : ∀ entry ∈ ledger.client.waiting, 0 < ledger.desk.place entry.1 ∧
    entry.2 = (followingId^[ledger.desk.place entry.1] 0).toNat

theorem distinctWithin_followingId :
    DistinctWithin 65535 fun place => (followingId^[place] 0).toNat :=
  fun _ _ hpos hlt hnear => iterate_followingId_ne 0 hpos hlt hnear

/-- Everyone who waits under a recent id waits under an id of its own. -/
theorem Ticketed.distinct_ids {ledger : IdLedger} (h : Ticketed ledger)
    (hrecent : ledger.Recent) : (ledger.client.waiting.map Prod.snd).Nodup := by
  have hnumbers : ledger.client.waiting.map Prod.snd
      = (ledger.client.waiting.map Prod.fst).map fun holder =>
          (followingId^[ledger.desk.place holder] 0).toNat := by
    rw [List.map_map]
    exact List.map_congr_left fun entry hmem => (h.ticket entry hmem).2
  rw [hnumbers]
  refine ledger.desk.nodup_numbers distinctWithin_followingId h.distinct.holders ?_
  intro holder hmem
  obtain ⟨entry, hentry, rfl⟩ := List.mem_map.mp hmem
  exact ⟨(h.ticket entry hentry).1, hrecent entry hentry⟩

section Ticketed

variable {client client' : Client} {desk : Desk Holder}

theorem Ticketed.kept (h : Ticketed ⟨client, desk⟩) (hdistinct : Distinct client')
    (hcounter : client'.core.nextRequestId = client.core.nextRequestId)
    (hwaiting : ∀ entry ∈ client'.waiting, entry ∈ client.waiting) :
    Ticketed ⟨client', desk⟩ where
  distinct := hdistinct
  counter := hcounter.trans h.counter
  ticket entry hmem := h.ticket entry (hwaiting entry hmem)

theorem followingId_counter (h : Ticketed ⟨client, desk⟩) :
    followingId client.core.nextRequestId = followingId^[desk.issued + 1] 0 := by
  rw [Function.iterate_succ_apply', h.counter]

theorem Ticketed.discard (h : Ticketed ⟨client, desk⟩) (hdistinct : Distinct client')
    (hcounter : client'.core.nextRequestId = followingId client.core.nextRequestId)
    (hwaiting : ∀ entry ∈ client'.waiting, entry ∈ client.waiting) :
    Ticketed ⟨client', desk.discard⟩ where
  distinct := hdistinct
  counter := hcounter.trans (followingId_counter h)
  ticket entry hmem := h.ticket entry (hwaiting entry hmem)

/-- An id is drawn, and whoever waits in addition waits under it. -/
theorem Ticketed.issue (h : Ticketed ⟨client, desk⟩) (holder : Holder)
    (hdistinct : Distinct client')
    (hcounter : client'.core.nextRequestId = followingId client.core.nextRequestId)
    (hwaiting : ∀ entry ∈ client'.waiting, entry.1 ≠ holder ∧ entry ∈ client.waiting ∨
      entry = (holder, (followingId client.core.nextRequestId).toNat)) :
    Ticketed ⟨client', desk.issue holder⟩ where
  distinct := hdistinct
  counter := hcounter.trans (followingId_counter h)
  ticket entry hmem := by
    rcases hwaiting entry hmem with ⟨hne, hold⟩ | rfl
    · rw [desk.issue_place_of_ne holder hne]
      exact h.ticket entry hold
    · rw [desk.issue_place_self holder]
      exact ⟨Nat.succ_pos _, congrArg UInt16.toNat (followingId_counter h)⟩

end Ticketed

/-! ## Steps -/

theorem Distinct.unused {client : Client} (h : Distinct client) {entry : Holder × Nat}
    (hmem : entry ∈ client.waiting) : entry.1 ≠ .request (client.lastUid + 1) := by
  obtain ⟨holder, requestId⟩ := entry
  rintro rfl
  obtain ⟨request, hrequest, huid, -⟩ := Client.mem_waiting_request.mp hmem
  have hle := h.numbered request hrequest
  omega

theorem Distinct.accept {client client' : Client} {table : RequestTable} {request : Request}
    (h : Distinct client) (huid : request.uid = client.lastUid + 1)
    (hlast : client'.lastUid = client.lastUid + 1)
    (hota : client'.ota.otaupdateList = client.ota.otaupdateList)
    (hnext : client'.ota.nextAddr = client.ota.nextAddr)
    (hlist : client'.requestList = (client.setRequests table
      (client.requestList table ++ [request])).requestList) : Distinct client' := by
  have hperm := Client.pending_perm hlist
  refine ⟨?_, ?_, by rw [hota]; exact h.addrs, by rw [hota, hnext]; exact h.allocated⟩
  · refine (hperm.map _).nodup_iff.mpr ?_
    rw [List.map_cons, List.nodup_cons]
    refine ⟨?_, h.uids⟩
    intro hmem
    obtain ⟨other, hother, heq⟩ := List.mem_map.mp hmem
    have hle := h.numbered other hother
    omega
  · intro other hmem
    rcases List.mem_cons.mp (hperm.mem_iff.mp hmem) with rfl | hold
    · omega
    · exact hlast ▸ (h.numbered other hold).trans (Nat.le_succ _)

/-- Entries that wait behind a change of the tables, where the items are left alone. -/
theorem Client.mem_waiting_of_otaupdateList {client client' : Client}
    (hota : client'.ota.otaupdateList = client.ota.otaupdateList) {addr requestId : Nat}
    (hmem : (.session addr, requestId) ∈ client'.waiting) :
    (.session addr, requestId) ∈ client.waiting := by
  rw [mem_waiting_session] at hmem ⊢
  rwa [OtaWorld.waiting, ← hota]

theorem Ticketed.request {client client' : Client} {desk : Desk Holder} {table : RequestTable}
    (h : Ticketed ⟨client, desk⟩) (hdrawn : RequestDrawn table client client') :
    Ticketed ⟨client', desk.issue (.request (client.lastUid + 1))⟩ := by
  rcases hdrawn.accepted with ⟨hlist, huid⟩ | ⟨request, huid, hlast, hid, hlist⟩
  · have hpending : client'.pending = client.pending := by simp only [Client.pending, hlist]
    have hdistinct : Distinct client' := h.distinct.of_fewer (hpending ▸ .refl _) huid
      (hdrawn.otaupdateList ▸ .refl _) hdrawn.nextAddr
    refine h.issue _ hdistinct hdrawn.counter ?_
    intro entry hmem
    have hold : entry ∈ client.waiting := by
      rw [Client.waiting, OtaWorld.waiting, hpending, hdrawn.otaupdateList] at hmem
      exact hmem
    exact .inl ⟨h.distinct.unused hold, hold⟩
  · refine h.issue _ (h.distinct.accept huid hlast hdrawn.otaupdateList hdrawn.nextAddr hlist)
      hdrawn.counter ?_
    rintro ⟨holder, requestId⟩ hmem
    cases holder with
    | session addr =>
      exact .inl ⟨by simp, Client.mem_waiting_of_otaupdateList hdrawn.otaupdateList hmem⟩
    | request uid =>
      obtain ⟨waiting, hwaiting, rfl, rfl⟩ := Client.mem_waiting_request.mp hmem
      rcases List.mem_cons.mp ((Client.pending_perm hlist).mem_iff.mp hwaiting) with rfl | hold
      · exact .inr (by rw [huid, hid])
      · have hentry := Client.mem_waiting_request.mpr ⟨waiting, hold, rfl, rfl⟩
        exact .inl ⟨h.distinct.unused hentry, hentry⟩

@[simp] theorem drawStarted_nil (desk : Desk Holder) : drawStarted [] desk = desk := rfl

/-- Whoever waits where requests may have left their tables waited before, the item that drew an id
    apart. -/
theorem mem_waiting_of_draws {client client' : Client} {drawn : Option Nat}
    (hpending : client'.pending.Sublist client.pending)
    (hdraws : Draws drawn client.ota client'.ota) {entry : Holder × Nat}
    (hmem : entry ∈ client'.waiting) :
    drawn.map Holder.session ≠ some entry.1 ∧ entry ∈ client.waiting ∨
      drawn.map Holder.session = some entry.1 ∧
        entry.2 = (followingId client.core.nextRequestId).toNat := by
  obtain ⟨holder, requestId⟩ := entry
  cases holder with
  | request uid =>
    obtain ⟨request, hwaiting, hentry⟩ := Client.mem_waiting_request.mp hmem
    refine .inl ⟨?_, Client.mem_waiting_request.mpr ⟨request, hpending.subset hwaiting, hentry⟩⟩
    cases drawn <;> simp
  | session addr =>
    rcases hdraws.waiting addr requestId (Client.mem_waiting_session.mp hmem) with
      ⟨hne, hold⟩ | ⟨howner, hid⟩
    · refine .inl ⟨?_, Client.mem_waiting_session.mpr hold⟩
      intro heq
      obtain ⟨owner, howner, hsame⟩ := Option.map_eq_some_iff.mp heq
      exact hne (howner.trans (congrArg some (Holder.session.inj hsame)))
    · exact .inr ⟨congrArg (Option.map Holder.session) howner, hid⟩

/-- Requests may leave their tables, and one item may draw an id. -/
theorem Ticketed.changed {client client' : Client} {desk : Desk Holder} {drawn : Option Nat}
    (h : Ticketed ⟨client, desk⟩) (hpending : client'.pending.Sublist client.pending)
    (huid : client'.lastUid = client.lastUid) (hdraws : Draws drawn client.ota client'.ota)
    {actions : List OtaAction}
    (htrace : client'.ota.dev.trace = client.ota.dev.trace ++ actions) :
    Ticketed ⟨client', drawStarted actions desk⟩ := by
  have hdistinct : Distinct client' :=
    h.distinct.of_fewer hpending (Nat.le_of_eq huid.symm) hdraws.addrs hdraws.nextAddr
  obtain ⟨actions', htrace', hstarts⟩ := hdraws.trace
  obtain rfl := List.append_cancel_left (htrace'.symm.trans htrace)
  rw [drawStarted, hstarts]
  cases drawn with
  | none =>
    refine h.kept hdistinct hdraws.counter ?_
    intro entry hmem
    rcases mem_waiting_of_draws hpending hdraws hmem with ⟨-, hold⟩ | ⟨hnone, -⟩
    · exact hold
    · cases hnone
  | some owner =>
    refine h.issue (.session owner) hdistinct hdraws.counter ?_
    intro entry hmem
    rcases mem_waiting_of_draws hpending hdraws hmem with ⟨hne, hold⟩ | ⟨howner, hid⟩
    · exact .inl ⟨fun heq => hne (congrArg some heq.symm), hold⟩
    · exact .inr (Prod.ext (Option.some.inj howner).symm hid)

/-- An item that is registered does not wait yet, and has a new address. -/
theorem Ticketed.subscribe {client client' : Client} {desk : Desk Holder}
    (h : Ticketed ⟨client, desk⟩) (hpending : client'.pending = client.pending)
    (huid : client'.lastUid = client.lastUid) (hcore : client'.core = client.core)
    (hwaiting : client'.ota.waiting = client.ota.waiting)
    (haddrs : client'.ota.otaupdateList.map Otaupdate.addr
      = client.ota.otaupdateList.map Otaupdate.addr ++ [client.ota.nextAddr])
    (hnext : client'.ota.nextAddr = client.ota.nextAddr + 1) : Ticketed ⟨client', desk⟩ := by
  refine h.kept ⟨?_, ?_, ?_, ?_⟩ (congrArg Core.nextRequestId hcore) ?_
  · exact hpending ▸ h.distinct.uids
  · exact hpending ▸ huid ▸ h.distinct.numbered
  · rw [haddrs]
    refine List.nodup_append.mpr ⟨h.distinct.addrs, List.nodup_singleton _, ?_⟩
    rintro addr hold _ hnew rfl
    rw [List.mem_singleton.mp hnew] at hold
    exact absurd (h.distinct.allocated _ hold) (Nat.lt_irrefl _)
  · intro addr hmem
    rw [haddrs] at hmem
    rw [hnext]
    rcases List.mem_append.mp hmem with hold | hnew
    · exact (h.distinct.allocated addr hold).trans (Nat.lt_succ_self _)
    · rw [List.mem_singleton.mp hnew]
      exact Nat.lt_succ_self _
  · rw [Client.waiting, Client.waiting, hpending, hwaiting]
    exact fun _ hmem => hmem

/-- Every input keeps the tickets in order. -/
theorem ticketed_step {ledger ledger' : IdLedger} {input : IdInput} (h : Ticketed ledger)
    (hstep : within FittingIds (Succeeds idStep) ledger input ledger') : Ticketed ledger' := by
  obtain ⟨client, desk⟩ := ledger
  obtain ⟨hfits, hok⟩ := hstep
  obtain ⟨client', hhandle, rfl⟩ := idStep_eq_ok hok
  have houtcome := IdInput.handle_outcome h.distinct.addrs hfits hhandle
  obtain ⟨actions, htrace⟩ := houtcome.trace
  rw [htrace, List.drop_left]
  -- an input that leaves the trace alone starts no download
  have hstill : client'.ota.dev.trace = client.ota.dev.trace → actions = [] :=
    fun hsame => List.append_right_eq_self.mp (htrace.symm.trans hsame)
  cases houtcome with
  | request table hdrawn hdraw =>
    rw [hstill hdrawn.trace, drawStarted_nil, hdraw]
    exact h.request hdrawn
  | discarded hclient hdraw =>
    subst hclient
    rw [hstill rfl, drawStarted_nil, hdraw]
    exact h.discard (h.distinct.of_fewer (.refl _) (Nat.le_refl _) (.refl _) rfl) rfl
      fun _ hmem => hmem
  | changed drawn hpending huid hdraws hdraw =>
    rw [hdraw]
    exact h.changed hpending huid hdraws htrace
  | subscribed hpending huid hcore hsame hwaiting haddrs hnext hdraw =>
    rw [hstill hsame, drawStarted_nil, hdraw]
    exact h.subscribe hpending huid hcore hwaiting haddrs hnext

theorem ticketed_initial (now lastHandle : Nat) : Ticketed (.initial now lastHandle) := by
  refine ⟨⟨List.nodup_nil, ?_, List.nodup_nil, ?_⟩, rfl, ?_⟩
  · exact fun request hmem => absurd hmem List.not_mem_nil
  · exact fun addr hmem => absurd hmem List.not_mem_nil
  · exact fun entry hmem => absurd hmem List.not_mem_nil

theorem ticketed_of_run {now lastHandle : Nat} {inputs : List IdInput} {ledger : IdLedger}
    (run : Run (within FittingIds (Succeeds idStep)) (.initial now lastHandle) inputs ledger) :
    Ticketed ledger :=
  run.invariant (ticketed_initial now lastHandle) fun _ _ _ => ticketed_step

/-! ## Unique ids -/

theorem tbcmhGetRequestId_range (core : Core) :
    1 ≤ (tbcmhGetRequestId core).1 ∧ (tbcmhGetRequestId core).1 ≤ 65535 := by
  rw [tbcmhGetRequestId_eq, toNat_followingId]
  omega

theorem length_filter_eq_le_one {α : Type} {f : α → Nat} {list : List α} (h : (list.map f).Nodup)
    (value : Nat) : (list.filter fun entry => f entry = value).length ≤ 1 := by
  have hcount := List.nodup_iff_count_le_one.mp h value
  rw [List.count, List.countP_map, List.countP_eq_length_filter] at hcount
  exact hcount

theorem Client.requestList_sublist (client : Client) (table : RequestTable) :
    (client.requestList table).Sublist client.pending := by
  cases table with
  | attributesrequest => exact (List.sublist_append_left _ _).trans (List.sublist_append_left _ _)
  | clientrpc => exact (List.sublist_append_right _ _).trans (List.sublist_append_left _ _)
  | provision => exact List.sublist_append_right _ _

theorem uniqueIds_of_distinct {client : Client} (h : (client.waiting.map Prod.snd).Nodup) :
    UniqueIds client := by
  have hsplit : client.waiting.map Prod.snd
      = client.pending.map (·.requestId) ++ client.ota.waiting.map Prod.snd := by
    simp [Client.waiting, Function.comp_def]
  obtain ⟨hrequests, hitems, -⟩ := List.nodup_append.mp (hsplit ▸ h)
  have htable : ∀ table ≠ .provision, ∀ requestId,
      ((client.requestList table).filter (table.isAnswered requestId)).length ≤ 1 := by
    intro table htable requestId
    have hsearch : table.isAnswered requestId
        = fun request => decide (request.requestId = requestId) := by
      funext request
      simp [RequestTable.isAnswered, htable]
    rw [hsearch]
    exact length_filter_eq_le_one
      (hrequests.sublist ((client.requestList_sublist table).map _)) requestId
  refine ⟨h, ?_⟩
  intro data
  cases data with
  | response table requestId object =>
    cases table with
    | attributesrequest | clientrpc =>
      rw [Client.addressees, List.length_map]
      · exact htable _ (by simp) requestId
      · simp
    | provision =>
      rw [Client.addressees, List.length_map, List.length_take]
      exact Nat.min_le_left _ _
  | sharedAttributes object => exact Nat.zero_le _
  | serverrpcRequest requestId object => exact Nat.zero_le _
  | fwResponse requestId chunkId payload =>
    rw [Client.addressees, List.length_map]
    exact length_filter_eq_le_one hitems requestId

/-- Whoever a response is handed to is one it is for. -/
theorem mem_addressees_of_splitFirst {client : Client} {table : RequestTable} {requestId : Nat}
    {request : Request} {front back : List Request}
    (h : splitFirst (table.isAnswered requestId) (client.requestList table)
      = some (front, request, back)) (object : Option Cjson) :
    .request request.uid ∈ client.addressees (.response table requestId object) := by
  obtain ⟨hlist, hanswered, hfront⟩ := splitFirst_eq_some h
  have hfiltered : .request request.uid ∈ ((client.requestList table).filter
      (table.isAnswered requestId)).map fun request => Holder.request request.uid := by
    refine List.mem_map_of_mem (List.mem_filter.mpr ⟨?_, hanswered⟩)
    exact hlist ▸ List.mem_append_right _ List.mem_cons_self
  cases table with
  | attributesrequest | clientrpc => exact hfiltered
  | provision =>
    -- every provision request fits, so the search stops at the first
    cases front with
    | nil => simp [Client.addressees, hlist]
    | cons first rest =>
      exact absurd (hfront first List.mem_cons_self) (by simp [RequestTable.isAnswered])

/-- Whoever a chunk is handed to waits under its id, unless the id is 0. -/
theorem mem_addressees_of_addressedSession {client : Client} {requestId : Nat} {session : Otaupdate}
    (h : addressedSession requestId client.ota = some session) (hpos : 0 < requestId)
    (chunkId : Nat) (payload : List UInt8) :
    .session session.addr ∈ client.addressees (.fwResponse requestId chunkId payload) := by
  obtain ⟨parts, hsplit, rfl⟩ := Option.map_eq_some_iff.mp h
  obtain ⟨hlist, hid, -⟩ := splitFirst_eq_some hsplit
  obtain rfl := of_decide_eq_true hid
  refine List.mem_map.mpr ⟨(parts.2.1.addr, parts.2.1.state.requestId), ?_, rfl⟩
  refine List.mem_filter.mpr ⟨OtaWorld.mem_waiting.mpr ⟨parts.2.1, ?_, hpos, rfl, rfl⟩, by simp⟩
  exact hlist ▸ List.mem_append_right _ List.mem_cons_self

/-- Every id is in 1..65535, and those who wait under recent ids wait under different ones; so a
    response is for one at most. -/
theorem uniqueIds_of_run {now lastHandle : Nat} {inputs : List IdInput} {ledger : IdLedger}
    (run : Run (within FittingIds (Succeeds idStep)) (.initial now lastHandle) inputs ledger) :
    (∀ core, 1 ≤ (tbcmhGetRequestId core).1 ∧ (tbcmhGetRequestId core).1 ≤ 65535) ∧
      (ledger.Recent → UniqueIds ledger.client) :=
  ⟨tbcmhGetRequestId_range, fun hrecent =>
    uniqueIds_of_distinct ((ticketed_of_run run).distinct_ids hrecent)⟩

/-- Once connected, the client sends a request of each kind and starts a download. -/
def sampleIdInputs : List IdInput :=
  [.beside ((tbcmhInit 0 0).setCore { (tbcmhInit 0 0).core with state := .connected }),
    .request (.twowayClientrpc (some "reboot")) .application true ⟨true, true⟩,
    .request (.attributes (some "name") none) .application true ⟨true, true⟩,
    .onewayClientrpc (some "reset") true,
    .request .provision .application true ⟨true, true⟩,
    .otaupdateSubscribe "F/W" .fw (some 1000000),
    .attributesupdate .fw (some (sampleAttributes 1000 "cbf43926")) sampleAnswers]

/-- The ledger behind them. -/
def sampleIdLedger : IdLedger := sampleIdInputs.foldl (advance idStep) (.initial 0 0)

theorem uniqueIds_sampleIdLedger :
    sampleIdLedger.client.waiting.map Prod.snd = [2, 1, 4, 5] ∧ UniqueIds sampleIdLedger.client := by
  have htakes : Takes FittingIds idStep (.initial 0 0) sampleIdInputs :=
    ⟨⟨rfl, rfl, rfl, rfl, rfl, [], rfl, rfl⟩, rfl, trivial, rfl, trivial, rfl, trivial, rfl,
      trivial, rfl, trivial, rfl, trivial, rfl, trivial⟩
  exact ⟨by decide, (uniqueIds_of_run (run_of_takes htakes)).2
    (show ∀ entry ∈ sampleIdLedger.client.waiting, _ < _ by decide)⟩

end ThingsboardMqtt
