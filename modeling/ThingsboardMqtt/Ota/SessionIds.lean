import ThingsboardMqtt.Ota.ChunkAnswers
import ThingsboardMqtt.Ota.Ledger

set_option autoImplicit false

/-! # The ids the items wait under

An OTA item waits for chunks under the request id its last negotiation drew. A chunk or a timeout
leaves it that id or takes it away; only a negotiation that succeeds draws one, and one only
(`Draws`). -/

namespace ThingsboardMqtt

open ListWalk

/-- The items that wait for a chunk, each with its id. -/
def OtaWorld.waiting (world : OtaWorld) : List (Nat × Nat) :=
  (world.otaupdateList.filter fun session => 0 < session.state.requestId).map fun session =>
    (session.addr, session.state.requestId)

/-- The item for which an action starts a download. -/
def OtaAction.starts : OtaAction → Option Nat
  | .negotiated owner result _ => if result = 1 then some owner else none
  | _ => none

/-- The ids behind an OTA operation, where `drawn` is the item that drew one. -/
structure Draws (drawn : Option Nat) (world world' : OtaWorld) : Prop where
  counter : world'.dev.core.nextRequestId
    = if drawn.isSome then followingId world.dev.core.nextRequestId
      else world.dev.core.nextRequestId
  waiting : ∀ addr requestId, (addr, requestId) ∈ world'.waiting →
    drawn ≠ some addr ∧ (addr, requestId) ∈ world.waiting ∨
      drawn = some addr ∧ requestId = (followingId world.dev.core.nextRequestId).toNat
  addrs : (world'.otaupdateList.map Otaupdate.addr).Sublist
    (world.otaupdateList.map Otaupdate.addr)
  nextAddr : world'.nextAddr = world.nextAddr
  trace : ∃ actions, world'.dev.trace = world.dev.trace ++ actions ∧
    actions.filterMap OtaAction.starts = drawn.toList

theorem OtaWorld.mem_waiting {world : OtaWorld} {addr requestId : Nat} :
    (addr, requestId) ∈ world.waiting ↔ ∃ session ∈ world.otaupdateList,
      0 < session.state.requestId ∧ session.addr = addr ∧ session.state.requestId = requestId := by
  simp [waiting, List.mem_map, List.mem_filter, and_assoc]

theorem map_addr_replaced {front back : List Otaupdate} {session session' : Otaupdate}
    (haddr : session'.addr = session.addr) : (front ++ session' :: back).map Otaupdate.addr
      = (front ++ session :: back).map Otaupdate.addr := by
  simp [haddr]

theorem mem_waiting_of_replace {world world' : OtaWorld} {front back : List Otaupdate}
    {session session' : Otaupdate} (hlist : world.otaupdateList = front ++ session :: back)
    (hlist' : world'.otaupdateList = front ++ session' :: back)
    (haddr : session'.addr = session.addr)
    (hid : session'.state.requestId = 0 ∨ session'.state.requestId = session.state.requestId)
    {addr requestId : Nat} (hmem : (addr, requestId) ∈ world'.waiting) :
    (addr, requestId) ∈ world.waiting := by
  rw [OtaWorld.mem_waiting, hlist'] at hmem
  rw [OtaWorld.mem_waiting, hlist]
  obtain ⟨item, hitem, hactive, rfl, rfl⟩ := hmem
  rcases List.mem_append.mp hitem with hfront | hitem
  · exact ⟨item, List.mem_append_left _ hfront, hactive, rfl, rfl⟩
  rcases List.mem_cons.mp hitem with rfl | hback
  · rcases hid with hidle | hsame
    · exact absurd hidle (Nat.ne_of_gt hactive)
    · exact ⟨session, List.mem_append_right _ List.mem_cons_self, hsame ▸ hactive, haddr.symm,
        hsame.symm⟩
  · exact ⟨item, List.mem_append_right _ (List.mem_cons_of_mem _ hback), hactive, rfl, rfl⟩

/-- An item that is registered has the next address and does not wait. -/
theorem tbcmhOtaupdateSubscribe_adds (otaDescription : String) (otaType : TbcmhOtaupdateType)
    (nextUpdatePartition : Option Nat) (world : OtaWorld) {world' : OtaWorld}
    (h : (tbcmhOtaupdateSubscribe otaDescription otaType nextUpdatePartition world).2 = world') :
    world'.dev.core = world.dev.core ∧ world'.dev.trace = world.dev.trace ∧
      world'.waiting = world.waiting ∧
      (world'.otaupdateList = world.otaupdateList ∧ world'.nextAddr = world.nextAddr ∨
        world'.otaupdateList.map Otaupdate.addr
          = world.otaupdateList.map Otaupdate.addr ++ [world.nextAddr] ∧
        world'.nextAddr = world.nextAddr + 1) := by
  subst h
  cases otaType with
  | sw => exact ⟨rfl, rfl, rfl, .inl ⟨rfl, rfl⟩⟩
  | fw =>
    cases nextUpdatePartition with
    | none => exact ⟨rfl, rfl, rfl, .inl ⟨rfl, rfl⟩⟩
    | some size =>
      refine ⟨rfl, rfl, ?_, .inr ⟨?_, rfl⟩⟩
      · show List.map _ (List.filter _ (world.otaupdateList ++ [_])) = _
        simp [OtaWorld.waiting, OtaupdateState.idle]
      · show List.map _ (world.otaupdateList ++ [_]) = _
        simp

/-- An action that is not booked starts no download. -/
theorem starts_of_unbooked {action : OtaAction} (h : action.unbooked = true) :
    action.starts = none := by
  cases action with
  | negotiated owner result cached => exact if_neg (of_decide_eq_true h)
  | chunkRequest owner requestId chunkId payload sent => rfl
  | _ => rfl

theorem filterMap_starts_of_unbooked {actions : List OtaAction}
    (h : ∀ action ∈ actions, action.unbooked = true) :
    actions.filterMap OtaAction.starts = [] :=
  List.filterMap_eq_nil_iff.mpr fun action hmem => starts_of_unbooked (h action hmem)

/-- A timeout books nothing, and ends the download if it does anything. -/
theorem TimeoutOutcome.ended {session session' : Otaupdate} {writer writer' : FwWriter}
    {actions : List OtaAction} (h : TimeoutOutcome session writer session' writer' actions) :
    (session'.state.requestId = 0 ∨ session'.state.requestId = session.state.requestId) ∧
      ∀ action ∈ actions, action.unbooked = true := by
  cases h with
  | kept => exact ⟨.inr rfl, by simp⟩
  | expired =>
    refine ⟨.inl rfl, ?_⟩
    intro action hmem
    rcases List.mem_cons.mp hmem with rfl | hmem
    · rfl
    · exact unbooked_of_mem_failureActions hmem

namespace Draws

theorem of_fewer {world world' : OtaWorld}
    (hcounter : world'.dev.core.nextRequestId = world.dev.core.nextRequestId)
    (hlist : world'.otaupdateList.Sublist world.otaupdateList)
    (hnext : world'.nextAddr = world.nextAddr)
    (htrace : ∃ actions, world'.dev.trace = world.dev.trace ++ actions ∧
      actions.filterMap OtaAction.starts = []) : Draws none world world' where
  counter := hcounter
  waiting addr requestId hmem := by
    obtain ⟨session, hsession, hwaits⟩ := OtaWorld.mem_waiting.mp hmem
    exact .inl ⟨by simp, OtaWorld.mem_waiting.mpr ⟨session, hlist.subset hsession, hwaits⟩⟩
  addrs := hlist.map _
  nextAddr := hnext
  trace := htrace

theorem refl (world : OtaWorld) : Draws none world world :=
  of_fewer rfl (.refl _) rfl ⟨[], by simp, rfl⟩

theorem of_none {drawn : Option Nat} {world mid world' : OtaWorld} (h : Draws none world mid)
    (h' : Draws drawn mid world') : Draws drawn world world' := by
  have hcounter : mid.dev.core.nextRequestId = world.dev.core.nextRequestId := h.counter
  obtain ⟨actions, htrace, hstarts⟩ := h.trace
  obtain ⟨actions', htrace', hstarts'⟩ := h'.trace
  refine ⟨hcounter ▸ h'.counter, ?_, h'.addrs.trans h.addrs, h'.nextAddr.trans h.nextAddr,
    actions ++ actions', ?_, ?_⟩
  · intro addr requestId hmem
    rcases h'.waiting addr requestId hmem with ⟨hne, hmid⟩ | hnew
    · rcases h.waiting addr requestId hmid with ⟨-, hold⟩ | ⟨hnone, -⟩
      · exact .inl ⟨hne, hold⟩
      · cases hnone
    · exact .inr (hcounter ▸ hnew)
  · rw [htrace', htrace, List.append_assoc]
  · rw [List.filterMap_append, hstarts, hstarts', Option.toList_none, List.nil_append]

/-- A negotiation draws an id when it succeeds. -/
theorem onAttributesupdate {otaType : TbcmhOtaupdateType} {object : Option Cjson}
    {answers : OtaAnswers} {world world' : OtaWorld}
    (hnodup : (world.otaupdateList.map Otaupdate.addr).Nodup)
    (h : otaupdateOnAttributesupdate otaType object answers world = .ok world') :
    ∃ drawn, Draws drawn world world' := by
  rcases otaupdateOnAttributesupdate_negotiates h with (rfl | rfl) |
    ⟨front, session, back, session', dev', _, _, _, _, _, hlist, hneg, rfl⟩
  · exact ⟨none, refl world'⟩
  · exact ⟨none, of_fewer rfl (.refl _) rfl ⟨_, rfl, rfl⟩⟩
  obtain ⟨-, actions, htrace, ⟨hcounter, hunbooked, hsession⟩ |
    ⟨cached, text, sent, conclusion, hcounter, rfl, hunbooked, hsession⟩⟩ :=
    otaupdateOnNegotiation_draws hneg
  · have haddr : session'.addr = session.addr := by rcases hsession with rfl | rfl <;> rfl
    have hid : session'.state.requestId = 0 ∨
        session'.state.requestId = session.state.requestId := by
      rcases hsession with rfl | rfl
      · exact .inr rfl
      · exact .inl rfl
    refine ⟨none, hcounter, ?_, ?_, rfl, actions, htrace, filterMap_starts_of_unbooked hunbooked⟩
    · intro addr requestId hmem
      exact .inl ⟨by simp, mem_waiting_of_replace hlist rfl haddr hid hmem⟩
    · show ((front ++ session' :: back).map Otaupdate.addr).Sublist _
      rw [hlist, map_addr_replaced haddr]
  · have haddr : session'.addr = session.addr := by
      rcases hsession with rfl | ⟨_, -, rfl, -⟩ <;> rfl
    have hid : 0 < session'.state.requestId →
        session'.state.requestId = (followingId world.dev.core.nextRequestId).toNat := by
      intro hactive
      rcases hsession with rfl | ⟨_, -, rfl, -⟩
      · exact absurd hactive (Nat.lt_irrefl 0)
      · rfl
    refine ⟨some session.addr, hcounter, ?_, ?_, rfl, _, htrace, ?_⟩
    · intro addr requestId hmem
      obtain ⟨item, hitem, hactive, rfl, rfl⟩ := OtaWorld.mem_waiting.mp hmem
      rw [hlist] at hnodup
      rcases mem_of_mem_replaced hnodup hitem with rfl | ⟨hold, hne⟩
      · exact .inr ⟨congrArg some haddr.symm, hid hactive⟩
      · refine .inl ⟨fun heq => hne (Option.some.inj heq).symm, ?_⟩
        exact OtaWorld.mem_waiting.mpr ⟨item, hlist ▸ hold, hactive, rfl, rfl⟩
    · show ((front ++ session' :: back).map Otaupdate.addr).Sublist _
      rw [hlist, map_addr_replaced haddr]
    · rw [List.filterMap_append, filterMap_starts_of_unbooked hunbooked, List.append_nil]
      rfl

theorem onChunkData (crc : CrcRoutine) (requestId chunkId : Nat) (payload : List UInt8)
    (answers : OtaAnswers) (world : OtaWorld) :
    Draws none world (tbcmhOtaupdateOnChunkData crc requestId chunkId payload answers world) := by
  have hcounter := (SameCounter.onChunkData crc requestId chunkId payload answers world).counter
  rcases tbcmhOtaupdateOnChunkData_cases crc requestId chunkId payload answers world with
    ⟨-, hsame⟩ | ⟨front, session, back, session', dev', actions, -, -, hlist, hworld, htrace, houtcome⟩
  · rw [hsame]
    exact refl world
  rw [hworld] at hcounter ⊢
  have haddr := houtcome.sameItem.addr
  have hid : session'.state.requestId = 0 ∨
      session'.state.requestId = session.state.requestId := by
    rcases houtcome.ended_or_requested with rfl | ⟨_, _, -, -, rfl, -⟩
    · exact .inl rfl
    · exact .inr rfl
  refine ⟨hcounter, ?_, ?_, rfl, actions, htrace, ?_⟩
  · intro addr requestId hmem
    exact .inl ⟨by simp, mem_waiting_of_replace hlist rfl haddr hid hmem⟩
  · show ((front ++ session' :: back).map Otaupdate.addr).Sublist _
    rw [hlist, map_addr_replaced haddr]
  · refine List.filterMap_eq_nil_iff.mpr ?_
    intro action hmem
    have hcontinues := houtcome.continues action hmem
    cases action with
    | negotiated owner result cached => exact if_neg hcontinues
    | _ => rfl

theorem onChunkCheckTimeout (timestamp : Nat) (world : OtaWorld) :
    Draws none world (tbcmhOtaupdateOnChunkCheckTimeout timestamp world) := by
  have hkept := checkTimeout_rule (P := fun world' =>
    (∀ addr requestId, (addr, requestId) ∈ world'.waiting → (addr, requestId) ∈ world.waiting) ∧
      world'.otaupdateList.map Otaupdate.addr = world.otaupdateList.map Otaupdate.addr ∧
      world'.nextAddr = world.nextAddr ∧
      ∃ actions, world'.dev.trace = world.dev.trace ++ actions ∧
        actions.filterMap OtaAction.starts = []) ?_ timestamp
    ⟨fun _ _ hmem => hmem, rfl, rfl, [], by simp, rfl⟩
  · obtain ⟨hwaiting, haddrs, hnextAddr, htrace⟩ := hkept
    exact ⟨(SameCounter.onChunkCheckTimeout timestamp world).counter,
      fun addr requestId hmem => .inl ⟨by simp, hwaiting addr requestId hmem⟩,
      haddrs ▸ .refl _, hnextAddr, htrace⟩
  intro mid front back session session' dev' actions ⟨hwaiting, haddrs, hnextAddr, before, hbefore,
    hstarts⟩ hlist htrace houtcome
  have haddr := houtcome.sameItem.addr
  obtain ⟨hid, hunbooked⟩ := houtcome.ended
  refine ⟨?_, ?_, hnextAddr, before ++ actions, ?_, ?_⟩
  · intro addr requestId hmem
    exact hwaiting _ _ (mem_waiting_of_replace hlist rfl haddr hid hmem)
  · exact (map_addr_replaced haddr).trans (hlist ▸ haddrs)
  · rw [htrace, hbefore, List.append_assoc]
  · rw [List.filterMap_append, hstarts, filterMap_starts_of_unbooked hunbooked, List.nil_append]

theorem unsubscribe (otaDescription : String) (world : OtaWorld) :
    Draws none world (tbcmhOtaupdateUnsubscribe otaDescription world).2 := by
  obtain ⟨otaupdateList, hsublist, hworld⟩ :=
    tbcmhOtaupdateUnsubscribe_sublist otaDescription world
  rw [hworld]
  exact of_fewer rfl hsublist rfl ⟨[], by simp, rfl⟩

end Draws

end ThingsboardMqtt
