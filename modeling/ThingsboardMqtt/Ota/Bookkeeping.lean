import Mathlib.Algebra.BigOperators.Group.List.Basic
import Mathlib.Algebra.Ring.Nat
import Mathlib.Data.List.Nodup
import ThingsboardMqtt.Ota.ChunkAnswers
import ThingsboardMqtt.Ota.Ledger

set_option autoImplicit false

/-! # The counters of the sessions agree with the books

The six fields of an active session are what the account of its last download says. What was
received stays below the size that was checked against the update partition, so no counter wraps.

An active session keeps its id for as long as its download lasts, and the ids repeat after 65535. A
response to a download that has ended therefore finds no session unless its id came around again,
for a later download or for an earlier one that is still active. -/

namespace ThingsboardMqtt

open Execution ListWalk

/-! ## What the books say -/

/-- The fields of an active session are what its account says. -/
structure Booked (crc : CrcRoutine) (account : DownloadAccount) (session : Otaupdate) : Prop where
  requestId : account.requestId = session.state.requestId
  chunkId : session.state.chunkId = account.accepted.length
  answered : ∀ response ∈ account.accepted, response.requestId = session.state.requestId
  nonempty : ∀ response ∈ account.accepted, response.payload ≠ []
  inOrder : account.accepted.map (·.chunkId) = List.range session.state.chunkId
  receivedLen : session.state.receivedLen = (account.accepted.map (·.payload.length)).sum
  noWrap : session.state.receivedLen < 2 ^ 32
  checksum : session.state.checksum = crc.run 0 (account.accepted.flatMap (·.payload))
  requests : account.requests = session.state.chunkId + 1
  unfinished : session.state.receivedLen < session.otaAttribute.otaSize ∨
    session.state.chunkId = 0

/-- The account of every active session says what its fields say. -/
def OtaLedger.InAgreement (crc : CrcRoutine) (ledger : OtaLedger) : Prop :=
  ∀ session ∈ ledger.world.otaupdateList, 0 < session.state.requestId →
    ∃ account, ledger.books.account session.addr = some account ∧ Booked crc account session

/-- No session is active under the account. -/
def OtaLedger.Ended (ledger : OtaLedger) (account : DownloadAccount) : Prop :=
  ∀ session ∈ ledger.world.otaupdateList, 0 < session.state.requestId →
    ledger.books.account session.addr ≠ some account

/-- Every session that is active and older than the account is fewer than 65535 ids older. -/
def OtaLedger.NoneOutlasts (ledger : OtaLedger) (account : DownloadAccount) : Prop :=
  ∀ session ∈ ledger.world.otaupdateList, 0 < session.state.requestId →
    ∀ older, ledger.books.account session.addr = some older →
      older.position < account.position → account.position - older.position < 65535

/-- A response with a given id does nothing. -/
def OtaWorld.Ignores (crc : CrcRoutine) (world : OtaWorld) (requestId : Nat) : Prop :=
  ∀ chunkId payload answers,
    tbcmhOtaupdateOnChunkData crc requestId chunkId payload answers world = world

/-- Every accepted response has at least one byte. -/
theorem Booked.chunkId_le {crc : CrcRoutine} {account : DownloadAccount} {session : Otaupdate}
    (h : Booked crc account session) : session.state.chunkId ≤ session.state.receivedLen := by
  rw [h.chunkId, h.receivedLen, ← List.length_map (f := (·.payload.length))]
  refine List.length_le_sum_of_one_le _ ?_
  intro len hlen
  obtain ⟨response, hresponse, rfl⟩ := List.mem_map.mp hlen
  exact List.length_pos_iff.mpr (h.nonempty response hresponse)

/-- Between two chunks no more was received than is to come. -/
theorem Booked.receivedLen_le {crc : CrcRoutine} {account : DownloadAccount} {session : Otaupdate}
    (h : Booked crc account session) :
    session.state.receivedLen ≤ session.otaAttribute.otaSize := by
  rcases h.unfinished with hless | hzero
  · exact hless.le
  · have hnone : account.accepted = [] := List.length_eq_zero_iff.mp (h.chunkId.symm.trans hzero)
    rw [h.receivedLen, hnone]
    exact Nat.zero_le _

theorem Booked.advance {crc : CrcRoutine} {account : DownloadAccount} {session : Otaupdate}
    (h : Booked crc account session) {payload : List UInt8} (timestamp : Nat)
    (hnonempty : payload ≠ []) (hpayload : payload.length ≤ longestChunk)
    (hsize : session.otaAttribute.otaSize + longestChunk < 2 ^ 32)
    (hmore : (otaupdateAdvance crc session payload).state.receivedLen
      < session.otaAttribute.otaSize) :
    Booked crc
      { account with
        requests := account.requests + 1
        accepted := account.accepted ++
          [{ requestId := session.state.requestId
             chunkId := session.state.chunkId
             payload := payload }] }
      { otaupdateAdvance crc session payload with
        state := { (otaupdateAdvance crc session payload).state with
          timestamp := timestamp } } := by
  have hchunks := h.chunkId_le
  have hreceived := h.receivedLen_le
  have hlongest : longestChunk = 131072 := rfl
  -- neither counter overflows, because what was received fits the partition
  have hchunk : (otaupdateAdvance crc session payload).state.chunkId
      = session.state.chunkId + 1 := Nat.mod_eq_of_lt (by omega)
  have hlen : (otaupdateAdvance crc session payload).state.receivedLen
      = session.state.receivedLen + payload.length := Nat.mod_eq_of_lt (by omega)
  constructor
  case requestId => exact h.requestId
  case chunkId =>
    rw [List.length_append, ← h.chunkId]
    exact hchunk
  case answered =>
    intro response hresponse
    rcases List.mem_append.mp hresponse with hold | hnew
    · exact h.answered response hold
    · rw [List.mem_singleton.mp hnew]
      rfl
  case nonempty =>
    intro response hresponse
    rcases List.mem_append.mp hresponse with hold | hnew
    · exact h.nonempty response hold
    · rw [List.mem_singleton.mp hnew]
      exact hnonempty
  case inOrder =>
    dsimp only
    rw [hchunk, List.range_succ, List.map_append, h.inOrder]
    rfl
  case receivedLen =>
    dsimp only
    rw [hlen, List.map_append, List.sum_append, ← h.receivedLen]
    rfl
  case noWrap => exact hmore.trans (by omega)
  case checksum =>
    dsimp only
    rw [List.flatMap_append, crc.run_append, ← h.checksum, List.flatMap_singleton]
    rfl
  case requests =>
    dsimp only
    rw [hchunk, h.requests]
  case unfinished => exact .inl hmore

/-! ## The invariant -/

/-- The counter stands behind the ids that were handed out, and every account has the id of its own
    place in that sequence. -/
structure Numbered (start counter : UInt16) (books : OtaBooks) : Prop where
  counter : counter = followingId^[books.issued] start
  descending : books.accounts.Pairwise fun newer older => older.position < newer.position
  placed : ∀ account ∈ books.accounts, 0 < account.position ∧ account.position ≤ books.issued ∧
    account.requestId = (followingId^[account.position] start).toNat

theorem Numbered.amended {start counter : UInt16} {owner : Nat} {books books' : OtaBooks}
    (h : Numbered start counter books) (hamended : Amended owner books books') :
    Numbered start counter books' := by
  refine ⟨hamended.issued ▸ h.counter, ?_, ?_⟩
  · have hmarked : (books.accounts.map DownloadAccount.mark).Pairwise
        fun newer older => older.2.1 < newer.2.1 := List.pairwise_map.mpr h.descending
    rw [← hamended.marks] at hmarked
    exact List.pairwise_map.mp hmarked
  · intro account haccount
    have hmark : account.mark ∈ books.accounts.map DownloadAccount.mark :=
      hamended.marks ▸ List.mem_map_of_mem haccount
    obtain ⟨before, hbefore, heq⟩ := List.mem_map.mp hmark
    simp only [DownloadAccount.mark, Prod.mk.injEq] at heq
    rw [hamended.issued, ← heq.2.1, ← heq.2.2]
    exact h.placed before hbefore

theorem Numbered.opened {start counter : UInt16} {books : OtaBooks}
    (h : Numbered start counter books) (owner : Nat) (sent : Bool) :
    Numbered start (followingId counter)
      (books.opened owner (followingId counter).toNat sent) := by
  have hnext : followingId counter = followingId^[books.issued + 1] start := by
    rw [Function.iterate_succ_apply', ← h.counter]
  refine ⟨hnext, ?_, ?_⟩
  · refine List.pairwise_cons.mpr ⟨?_, h.descending⟩
    intro older holder
    exact Nat.lt_succ_of_le (h.placed older holder).2.1
  · intro account haccount
    rcases List.mem_cons.mp haccount with rfl | hold
    · exact ⟨Nat.succ_pos _, Nat.le_refl _, congrArg UInt16.toNat hnext⟩
    · obtain ⟨hpos, hle, hid⟩ := h.placed account hold
      exact ⟨hpos, Nat.le_succ_of_le hle, hid⟩

/-- One session and its account; an idle session has nothing to receive. -/
structure SessionKept (crc : CrcRoutine) (books : OtaBooks) (session : Otaupdate) : Prop where
  sized : session.otaAttribute.otaSize + longestChunk < 2 ^ 32
  idle : session.state.requestId = 0 → session.otaAttribute.otaSize = 0
  active : 0 < session.state.requestId →
    ∃ account, books.account session.addr = some account ∧ Booked crc account session

theorem sessionKept_of_idle {crc : CrcRoutine} {books : OtaBooks} {session : Otaupdate}
    (hid : session.state.requestId = 0) (hsize : session.otaAttribute.otaSize = 0) :
    SessionKept crc books session :=
  ⟨by rw [hsize]; decide, fun _ => hsize, fun hactive => absurd hid hactive.ne'⟩

theorem SessionKept.entitled {crc : CrcRoutine} {books : OtaBooks} {session : Otaupdate}
    (h : SessionKept crc books session) : session.Entitled books := by
  intro account haccount hsize
  have hactive : 0 < session.state.requestId := by
    refine Nat.pos_of_ne_zero fun hid => ?_
    rw [h.idle hid] at hsize
    exact absurd hsize (Nat.lt_irrefl 0)
  obtain ⟨own, hown, hbooked⟩ := h.active hactive
  obtain rfl := Option.some.inj (haccount.symm.trans hown)
  exact hbooked.requestId

/-- The whole ledger; `start` is the counter before the first id. -/
structure LedgerKept (crc : CrcRoutine) (start : UInt16) (ledger : OtaLedger) : Prop where
  tracked : Tracked ledger.world
  numbered : Numbered start ledger.world.dev.core.nextRequestId ledger.books
  partition : ∀ session ∈ ledger.world.otaupdateList,
    ∃ size ∈ ledger.world.dev.writer.fwupdate.updatePartition, size + longestChunk < 2 ^ 32
  sessions : ∀ session ∈ ledger.world.otaupdateList, SessionKept crc ledger.books session

theorem LedgerKept.replace {crc : CrcRoutine} {start : UInt16} {world world' : OtaWorld}
    {books books' : OtaBooks} {front back : List Otaupdate} {session session' : Otaupdate}
    (h : LedgerKept crc start ⟨world, books⟩)
    (hlist : world.otaupdateList = front ++ session :: back)
    (hlist' : world'.otaupdateList = front ++ session' :: back)
    (htracked : Tracked world') (hnumbered : Numbered start world'.dev.core.nextRequestId books')
    (hpartition : world'.dev.writer.fwupdate.updatePartition
      = world.dev.writer.fwupdate.updatePartition)
    (hothers : ∀ other, other ≠ session.addr → books'.account other = books.account other)
    (hsession : SessionKept crc books' session') : LedgerKept crc start ⟨world', books'⟩ := by
  have hmem : session ∈ world.otaupdateList := hlist ▸ List.mem_append_right _ List.mem_cons_self
  have hnodup := h.tracked.nodup
  rw [hlist] at hnodup
  refine ⟨htracked, hnumbered, ?_, ?_⟩
  · intro _ _
    rw [hpartition]
    exact h.partition session hmem
  · intro item hitem
    rw [hlist'] at hitem
    rcases mem_of_mem_replaced hnodup hitem with rfl | ⟨hold, hne⟩
    · exact hsession
    · rw [← hlist] at hold
      obtain ⟨hsized, hidle, hactive⟩ := h.sessions item hold
      refine ⟨hsized, hidle, fun hid => ?_⟩
      rw [hothers item.addr hne]
      exact hactive hid

/-! ## One step -/

section steps

variable {crc : CrcRoutine} {start : UInt16} {world : OtaWorld} {books : OtaBooks}

/-- A chunk ends the download it is for, or it is booked. -/
theorem ChunkOutcome.sessionKept {chunkId : Nat} {payload : List UInt8} {answers : OtaAnswers}
    {session session' : Otaupdate} {writer writer' : FwWriter} {actions : List OtaAction}
    (houtcome : ChunkOutcome crc chunkId payload answers session writer session' writer' actions)
    (h : SessionKept crc books session) (hpayload : payload.length ≤ longestChunk) :
    SessionKept crc (actions.foldl (OtaBooks.read session.state.requestId) books) session' := by
  rcases houtcome.ended_or_requested with rfl | ⟨text, timestamp, hfeeds, hmore, hnext, hactions⟩
  · exact sessionKept_of_idle rfl rfl
  have hactive : 0 < session.state.requestId := by
    refine Nat.pos_of_ne_zero fun hid => ?_
    rw [h.idle hid] at hmore
    exact absurd hmore (Nat.not_lt_zero _)
  obtain ⟨account, haccount, hbooked⟩ := h.active hactive
  have hadvanced := hbooked.advance timestamp hfeeds.2 hpayload h.sized hmore
  subst hnext hactions
  refine ⟨h.sized, fun hid => absurd hid hactive.ne', fun _ => ⟨_, ?_, hadvanced⟩⟩
  -- the write amends the account, and so does the request behind it
  simp only [List.foldl_cons, List.foldl_nil, OtaBooks.read, if_true, otaupdateAdvance]
  rw [OtaBooks.account_amend, OtaBooks.account_amend, haccount, hfeeds.1]
  · simp only [Option.map_some, hbooked.requestId]
  · exact fun _ => rfl
  · exact fun _ => rfl

theorem LedgerKept.onChunkData (h : LedgerKept crc start ⟨world, books⟩)
    {requestId chunkId : Nat} {payload : List UInt8} {answers : OtaAnswers}
    (hpayload : payload.length ≤ longestChunk) {actions : List OtaAction}
    (htrace : (tbcmhOtaupdateOnChunkData crc requestId chunkId payload answers world).dev.trace
      = world.dev.trace ++ actions)
    (htracked : Tracked
      (tbcmhOtaupdateOnChunkData crc requestId chunkId payload answers world)) :
    LedgerKept crc start
      { world := tbcmhOtaupdateOnChunkData crc requestId chunkId payload answers world
        books := actions.foldl (OtaBooks.read requestId) books } := by
  have hsteady := SameCounter.onChunkData crc requestId chunkId payload answers world
  rcases tbcmhOtaupdateOnChunkData_cases crc requestId chunkId payload answers world with
    ⟨-, hsame⟩ | ⟨front, session, back, session', dev', actions', -, hid, hlist, hworld, htrace',
      houtcome⟩
  · rw [hsame] at htrace ⊢
    obtain rfl := List.append_right_eq_self.mp htrace.symm
    exact h
  · have hmem : session ∈ world.otaupdateList := hlist ▸ List.mem_append_right _ List.mem_cons_self
    have hkept := h.sessions session hmem
    obtain rfl : actions' = actions := by
      rw [hworld] at htrace
      exact List.append_cancel_left (htrace'.symm.trans htrace)
    subst hid
    have hamended := amended_foldl session.state.requestId houtcome.continues hkept.entitled
    refine h.replace hlist (by rw [hworld]) htracked ?_ hsteady.partition hamended.others
      (houtcome.sessionKept hkept hpayload)
    rw [hsteady.counter]
    exact h.numbered.amended hamended

/-- A session that expires is reset, and nothing of that is booked. -/
theorem TimeoutOutcome.unbooked {session session' : Otaupdate} {writer writer' : FwWriter}
    {actions : List OtaAction} (h : TimeoutOutcome session writer session' writer' actions) :
    (session' = session ∨ session' = otaupdateReset session) ∧
      ∀ action ∈ actions, action.unbooked = true := by
  cases h with
  | kept => exact ⟨.inl rfl, fun _ hmem => absurd hmem List.not_mem_nil⟩
  | expired hactive =>
    refine ⟨.inr rfl, fun action hmem => ?_⟩
    rcases List.mem_cons.mp hmem with rfl | hmem
    · rfl
    · exact unbooked_of_mem_failureActions hmem

/-- In the middle of a sweep the sessions are as good as before it, and nothing was booked. -/
structure SweptLedger (crc : CrcRoutine) (books : OtaBooks) (world world' : OtaWorld) : Prop where
  sessions : ∀ session ∈ world'.otaupdateList, SessionKept crc books session ∧
    ∃ size ∈ world.dev.writer.fwupdate.updatePartition, size + longestChunk < 2 ^ 32
  unbooked : ∃ actions, world'.dev.trace = world.dev.trace ++ actions ∧
    ∀ action ∈ actions, action.unbooked = true

theorem LedgerKept.swept (h : LedgerKept crc start ⟨world, books⟩) (timestamp : Nat) :
    SweptLedger crc books world (tbcmhOtaupdateOnChunkCheckTimeout timestamp world) := by
  refine checkTimeout_rule ?_ timestamp
    ⟨fun session hmem => ⟨h.sessions session hmem, h.partition session hmem⟩, [],
      (List.append_nil _).symm, fun _ hmem => absurd hmem List.not_mem_nil⟩
  intro world' front back session session' dev' actions hswept hlist htrace houtcome
  obtain ⟨hsessions, before, htrace', hbefore⟩ := hswept
  obtain ⟨hnext, hunbooked⟩ := houtcome.unbooked
  rw [hlist] at hsessions
  have hmem : session ∈ front ++ session :: back := List.mem_append_right _ List.mem_cons_self
  refine ⟨?_, before ++ actions, by rw [htrace, htrace', List.append_assoc], ?_⟩
  · intro item hitem
    rcases List.mem_append.mp hitem with hfront | hitem
    · exact hsessions item (List.mem_append_left _ hfront)
    rcases List.mem_cons.mp hitem with rfl | hback
    · rcases hnext with rfl | rfl
      · exact hsessions _ hmem
      · exact ⟨sessionKept_of_idle rfl rfl, (hsessions session hmem).2⟩
    · exact hsessions item (List.mem_append_right _ (List.mem_cons_of_mem _ hback))
  · intro action haction
    exact (List.mem_append.mp haction).elim (hbefore action) (hunbooked action)

theorem LedgerKept.checkTimeout (h : LedgerKept crc start ⟨world, books⟩)
    (timestamp requestId : Nat) {actions : List OtaAction}
    (htrace : (tbcmhOtaupdateOnChunkCheckTimeout timestamp world).dev.trace
      = world.dev.trace ++ actions) :
    LedgerKept crc start
      { world := tbcmhOtaupdateOnChunkCheckTimeout timestamp world
        books := actions.foldl (OtaBooks.read requestId) books } := by
  have hsteady := SameCounter.onChunkCheckTimeout timestamp world
  obtain ⟨hsessions, actions', htrace', hunbooked⟩ := h.swept timestamp
  obtain rfl : actions' = actions := List.append_cancel_left (htrace'.symm.trans htrace)
  rw [foldl_read_of_unbooked hunbooked]
  refine ⟨h.tracked.checkTimeout timestamp, ?_, ?_, fun item hitem => (hsessions item hitem).1⟩
  · exact hsteady.counter ▸ h.numbered
  · intro item hitem
    rw [hsteady.partition]
    exact (hsessions item hitem).2

/-- A negotiation leaves the session alone, or resets it, or starts a download that is booked. -/
theorem LedgerKept.onAttributesupdate (h : LedgerKept crc start ⟨world, books⟩)
    {object : Option Cjson} {answers : OtaAnswers} {world' : OtaWorld} {requestId : Nat}
    {actions : List OtaAction}
    (hok : otaupdateOnFwAttributesupdate object answers world = .ok world')
    (htrace : world'.dev.trace = world.dev.trace ++ actions) (htracked : Tracked world') :
    LedgerKept crc start
      { world := world'
        books := actions.foldl (OtaBooks.read requestId) books } := by
  rcases otaupdateOnAttributesupdate_negotiates hok with (rfl | rfl) |
    ⟨front, session, back, session', dev', otaTitle, otaVersion, otaSize, otaChecksum,
      otaChecksumAlgorithm, hlist, hneg, rfl⟩
  · obtain rfl := List.append_right_eq_self.mp htrace.symm
    exact h
  · obtain rfl := List.append_cancel_left htrace
    exact ⟨htracked, h.numbered, h.partition, h.sessions⟩
  have hmem : session ∈ world.otaupdateList := hlist ▸ List.mem_append_right _ List.mem_cons_self
  have hreset : ∀ books', SessionKept crc books' (otaupdateReset session) :=
    fun _ => sessionKept_of_idle rfl rfl
  obtain ⟨hwriter, actions', htrace', hbooked⟩ := otaupdateOnNegotiation_books hneg requestId books
  obtain rfl : actions' = actions := List.append_cancel_left (htrace'.symm.trans htrace)
  have hpartition : dev'.writer.fwupdate.updatePartition
      = world.dev.writer.fwupdate.updatePartition := by rw [hwriter]
  rcases hbooked with ⟨hcounter, hread, hsession⟩ | ⟨sent, hcounter, hread, hsession⟩
  · rw [hread]
    refine h.replace hlist rfl htracked ?_ hpartition (fun _ _ => rfl) ?_
    · exact hcounter.symm ▸ h.numbered
    · rcases hsession with rfl | rfl
      · exact h.sessions _ hmem
      · exact hreset books
  · rw [hread]
    refine h.replace hlist rfl htracked ?_ hpartition ?_ ?_
    · exact hcounter.symm ▸ h.numbered.opened session.addr sent
    · intro other hne
      exact List.find?_cons_of_neg (by simp [hne.symm])
    rcases hsession with rfl | ⟨cached, timestamp, rfl, rfl, hfits⟩
    · exact hreset _
    obtain ⟨size, hsize, hroom⟩ := h.partition session hmem
    have hid : 0 < (followingId world.dev.core.nextRequestId).toNat := by
      rw [toNat_followingId]
      exact Nat.succ_pos _
    refine ⟨Nat.lt_of_le_of_lt (Nat.add_le_add_right (hfits size hsize) _) hroom,
      fun hzero => absurd hzero hid.ne', fun _ => ⟨_, List.find?_cons_of_pos (by simp), ?_⟩⟩
    -- the first request was sent, and nothing was accepted yet
    exact
      { requestId := rfl
        chunkId := rfl
        answered := fun _ hmem => absurd hmem List.not_mem_nil
        nonempty := fun _ hmem => absurd hmem List.not_mem_nil
        inOrder := rfl
        receivedLen := rfl
        noWrap := Nat.two_pow_pos 32
        checksum := (crc.run_nil 0).symm
        requests := rfl
        unfinished := .inr rfl }

end steps

/-- Every step keeps the ledger. -/
theorem ledgerKept_step {crc : CrcRoutine} {start : UInt16} {ledger ledger' : OtaLedger}
    {input : OtaInput} (h : LedgerKept crc start ledger)
    (hstep : within FittingInput (LedgerStep crc) ledger input ledger') :
    LedgerKept crc start ledger' := by
  obtain ⟨hguard, htaken⟩ := hstep
  cases htaken with
  | environment taken hcounter =>
    refine ⟨⟨h.tracked.nodup, h.tracked.allocated, h.tracked.unused, h.tracked.tracked⟩,
      ⟨?_, h.numbered.descending, ?_⟩, h.partition, ?_⟩
    · show _ = followingId^[_ + taken] start
      rw [hcounter, h.numbered.counter, ← Function.iterate_add_apply, Nat.add_comm]
    · intro account haccount
      obtain ⟨hpos, hle, hid⟩ := h.numbered.placed account haccount
      exact ⟨hpos, Nat.le_add_right_of_le hle, hid⟩
    · intro session hmem
      obtain ⟨hsized, hidle, hactive⟩ := h.sessions session hmem
      exact ⟨hsized, hidle, hactive⟩
  | @handled _ world' actions hinput hok htrace =>
    have htracked : Tracked world' := tracked_step h.tracked hok
    cases input with
    | subscribe otaDescription otaType nextUpdatePartition =>
      obtain rfl := Except.ok.inj hok
      cases otaType with
      | sw =>
        obtain rfl := List.append_right_eq_self.mp htrace.symm
        exact h
      | fw =>
        obtain ⟨size, hsize, hroom⟩ := hguard
        obtain rfl : nextUpdatePartition = some size := hsize
        obtain rfl := List.append_right_eq_self.mp htrace.symm
        refine ⟨htracked, h.numbered, fun _ _ => ⟨size, rfl, hroom⟩, ?_⟩
        intro item hitem
        rcases List.mem_append.mp hitem with hold | hnew
        · exact h.sessions item hold
        · rw [List.mem_singleton.mp hnew]
          exact sessionKept_of_idle rfl rfl
    | unsubscribe otaDescription =>
      obtain rfl := Except.ok.inj hok
      obtain ⟨otaupdateList, hsublist, hworld⟩ :=
        tbcmhOtaupdateUnsubscribe_sublist otaDescription ledger.world
      rw [hworld] at htrace htracked ⊢
      obtain rfl := List.append_right_eq_self.mp htrace.symm
      exact ⟨htracked, h.numbered, fun item hitem => h.partition item (hsublist.subset hitem),
        fun item hitem => h.sessions item (hsublist.subset hitem)⟩
    | event event =>
      cases event with
      | sharedAttributes object answers => exact h.onAttributesupdate hok htrace htracked
      | chunkData requestId chunkId payload answers =>
        obtain rfl := Except.ok.inj hok
        exact h.onChunkData hguard htrace htracked
      | checkTimeout timestamp =>
        obtain rfl := Except.ok.inj hok
        exact h.checkTimeout timestamp _ htrace
      | disconnected =>
        obtain rfl := Except.ok.inj hok
        exact h.checkTimeout _ _ htrace
      | environment core => exact absurd rfl (hinput core)

theorem ledgerKept_initial (crc : CrcRoutine) (core : Core) (lastHandle : Nat) :
    LedgerKept crc core.nextRequestId (.initial core lastHandle) :=
  ⟨tracked_initial core lastHandle, ⟨rfl, .nil, fun _ h => absurd h List.not_mem_nil⟩,
    fun _ h => absurd h List.not_mem_nil, fun _ h => absurd h List.not_mem_nil⟩

/-! ## Runs that can be computed -/

theorem otaStep_trace {crc : CrcRoutine} {world world' : OtaWorld} {input : OtaInput}
    (hok : otaStep crc world input = .ok world') :
    ∃ actions, world'.dev.trace = world.dev.trace ++ actions := by
  have hkept : world'.dev.trace = world.dev.trace →
      ∃ actions, world'.dev.trace = world.dev.trace ++ actions :=
    fun hsame => ⟨[], by rw [hsame, List.append_nil]⟩
  have htimeout : ∀ timestamp, ∃ actions, (tbcmhOtaupdateOnChunkCheckTimeout timestamp
      world).dev.trace = world.dev.trace ++ actions := by
    intro timestamp
    refine checkTimeout_rule (P := fun world' => ∃ actions,
      world'.dev.trace = world.dev.trace ++ actions) ?_ timestamp ⟨[], (List.append_nil _).symm⟩
    rintro world₁ front back session session' dev' actions ⟨before, hbefore⟩ - htrace -
    exact ⟨before ++ actions, by rw [htrace, hbefore, List.append_assoc]⟩
  cases input with
  | subscribe otaDescription otaType nextUpdatePartition =>
    obtain rfl := Except.ok.inj hok
    cases otaType with
    | sw => exact hkept rfl
    | fw => cases nextUpdatePartition <;> exact hkept rfl
  | unsubscribe otaDescription =>
    obtain rfl := Except.ok.inj hok
    obtain ⟨otaupdateList, -, hworld⟩ := tbcmhOtaupdateUnsubscribe_sublist otaDescription world
    exact hkept (by rw [hworld])
  | event event =>
    cases event with
    | sharedAttributes object answers =>
      rcases otaupdateOnFwAttributesupdate_cases hok with ⟨-, rfl⟩ | ⟨-, -, rfl⟩ |
        ⟨_, _, _, _, actions, -, -, -, -, -, -, htrace, -, -⟩
      · exact hkept rfl
      · exact ⟨[_], rfl⟩
      · exact ⟨actions, htrace⟩
    | chunkData requestId chunkId payload answers =>
      obtain rfl := Except.ok.inj hok
      rcases tbcmhOtaupdateOnChunkData_cases crc requestId chunkId payload answers world with
        ⟨-, hsame⟩ | ⟨_, _, _, _, _, actions, -, -, -, hworld, htrace, -⟩
      · exact hkept (by rw [hsame])
      · exact ⟨actions, by rw [hworld]; exact htrace⟩
    | checkTimeout timestamp =>
      obtain rfl := Except.ok.inj hok
      exact htimeout timestamp
    | disconnected =>
      obtain rfl := Except.ok.inj hok
      exact htimeout _
    | environment core =>
      obtain rfl := Except.ok.inj hok
      exact hkept rfl

/-- The ledger behind an input of the OTA code, computed. -/
def OtaLedger.advance (crc : CrcRoutine) (ledger : OtaLedger) (input : OtaInput) : OtaLedger :=
  let world := Execution.advance (otaStep crc) ledger.world input
  { world := world
    books := (world.dev.trace.drop ledger.world.dev.trace.length).foldl
      (OtaBooks.read input.requestId) ledger.books }

theorem ledgerStep_advance {crc : CrcRoutine} {ledger : OtaLedger} {input : OtaInput}
    (hinput : ∀ core, input ≠ .event (.environment core))
    (hok : (otaStep crc ledger.world input).isOk = true) :
    LedgerStep crc ledger input (ledger.advance crc input) := by
  have hstep : otaStep crc ledger.world input = .ok _ := succeeds_advance hok
  obtain ⟨actions, htrace⟩ := otaStep_trace hstep
  refine .handled hinput hstep ?_
  rw [htrace, List.drop_left]

theorem run_of_advance {crc : CrcRoutine} : ∀ {inputs : List OtaInput} {ledger : OtaLedger},
    (∀ input ∈ inputs, (∀ core, input ≠ .event (.environment core)) ∧
      ∀ before, FittingInput before input) →
    Takes (fun _ _ => True) (otaStep crc) ledger.world inputs →
    Run (within FittingInput (LedgerStep crc)) ledger inputs
      (inputs.foldl (OtaLedger.advance crc) ledger)
  | [], _, _, _ => .nil
  | input :: rest, ledger, hinputs, ⟨_, hok, hrest⟩ => by
    obtain ⟨hinput, hfitting⟩ := hinputs input List.mem_cons_self
    have hfirst : Run (within FittingInput (LedgerStep crc)) ledger ([] ++ [input])
        (ledger.advance crc input) :=
      .snoc .nil ⟨hfitting ledger, ledgerStep_advance hinput hok⟩
    exact hfirst.append
      (run_of_advance (fun later hlater => hinputs later (List.mem_cons_of_mem _ hlater)) hrest)

/-! ## Every run -/

/-- A download has ended, and its id did not come around to a session that is active. -/
theorem LedgerKept.ignores {crc : CrcRoutine} {start : UInt16} {ledger : OtaLedger}
    (h : LedgerKept crc start ledger) {ended : DownloadAccount}
    (hmem : ended ∈ ledger.books.accounts) (hended : ledger.Ended ended)
    (hrecent : ledger.books.issued - ended.position < 65535)
    (houtlasts : ledger.NoneOutlasts ended) : ledger.world.Ignores crc ended.requestId := by
  intro chunkId payload answers
  rcases tbcmhOtaupdateOnChunkData_cases crc ended.requestId chunkId payload answers
    ledger.world with ⟨-, hsame⟩ | ⟨front, session, back, -, -, -, -, hid, hlist, -, -, -⟩
  · exact hsame
  exfalso
  have hsession : session ∈ ledger.world.otaupdateList :=
    hlist ▸ List.mem_append_right _ List.mem_cons_self
  obtain ⟨hpos, hle, hplaced⟩ := h.numbered.placed ended hmem
  have hactive : 0 < session.state.requestId := by
    obtain ⟨before, hbefore⟩ := Nat.exists_eq_add_of_lt hpos
    rw [hid, hplaced, hbefore, Nat.zero_add, toNat_iterate_followingId]
    exact Nat.succ_pos _
  obtain ⟨account, haccount, hbooked⟩ := (h.sessions session hsession).active hactive
  have hfound := List.mem_of_find?_eq_some haccount
  obtain ⟨hpos', hle', hplaced'⟩ := h.numbered.placed account hfound
  have hsameId : (followingId^[account.position] start).toNat
      = (followingId^[ended.position] start).toNat := by
    rw [← hplaced', ← hplaced, hbooked.requestId, hid]
  -- the same id at two places of the sequence, so the places are the same or far apart
  rcases Nat.lt_trichotomy account.position ended.position with hlt | heq | hgt
  · exact iterate_followingId_ne start hpos' hlt
      (houtlasts session hsession hactive account haccount hlt) hsameId
  · have hdistinct : (ledger.books.accounts.map DownloadAccount.position).Nodup :=
      List.pairwise_map.mpr (h.numbered.descending.imp fun hlt => hlt.ne')
    have hone : account = ended := List.inj_on_of_nodup_map hdistinct hfound hmem heq
    exact hended session hsession hactive (hone ▸ haccount)
  · exact iterate_followingId_ne start hpos hgt (by omega) hsameId.symm

/-- In every run the fields of every active session are what its account says, and a response to a
    download that has ended does nothing, as long as fewer than 65535 ids were handed out since, and
    no session that is still active is older by 65535 ids or more. -/
theorem booked_of_run {crc : CrcRoutine} {core : Core} {lastHandle : Nat} {inputs : List OtaInput}
    {ledger : OtaLedger}
    (run : Run (within FittingInput (LedgerStep crc)) (.initial core lastHandle) inputs ledger) :
    ledger.InAgreement crc ∧
      ∀ ended ∈ ledger.books.accounts, ledger.Ended ended →
        ledger.books.issued - ended.position < 65535 → ledger.NoneOutlasts ended →
        ledger.world.Ignores crc ended.requestId := by
  have hkept := run.invariant (ledgerKept_initial crc core lastHandle) fun _ _ _ => ledgerKept_step
  exact ⟨fun session hmem => (hkept.sessions session hmem).active,
    fun _ hmem hended hrecent houtlasts => hkept.ignores hmem hended hrecent houtlasts⟩

/-- An announcement of version `1.1` to the session at an address, on which `current` runs. -/
def announcementTo (addr : Nat) (current : String) : OtaInput :=
  .event (.sharedAttributes (some (sampleAttributes 20000 "0"))
    { sampleAnswers with
      currentTitle := fun other => if other = addr then some "app" else none
      currentVersion := fun _ => some current })

/-- An update that is announced once more after its first chunk, and gets its first chunk again. -/
def restartedUpdate : List OtaInput :=
  [.subscribe "F/W" .fw (some 1000000), announcementTo 0 "1.0",
    .event (.chunkData 1 0 sampleImage sampleAnswers), announcementTo 0 "1.0",
    .event (.chunkData 2 0 sampleImage sampleAnswers)]

def restartedLedger : OtaLedger :=
  restartedUpdate.foldl (OtaLedger.advance .crc32) (.initial sampleCore 0)

/-- The chunk of the second download is booked under the id 2, that of the first stays booked under
    the id 1, and a further response with the id 1 does nothing. -/
theorem booked_of_run_restartedUpdate :
    restartedLedger.InAgreement .crc32 ∧
      restartedLedger.books.accounts.map
          (fun account => account.accepted.map fun response => (response.requestId, response.chunkId))
        = [[(2, 0)], [(1, 0)]] ∧
      restartedLedger.world.Ignores .crc32 1 := by
  have hrun : Run (within FittingInput (LedgerStep .crc32)) (.initial sampleCore 0)
      restartedUpdate restartedLedger := by
    refine run_of_advance ?_ (takes_of_allowed (by decide +kernel))
    have hchunk : sampleImage.length ≤ longestChunk := by decide +kernel
    have hpartition : 1000000 + longestChunk < 2 ^ 32 := by decide
    simpa [restartedUpdate, announcementTo, FittingInput, hchunk] using fun _ => hpartition
  obtain ⟨hagreement, hignores⟩ := booked_of_run hrun
  have haccounts : (0, 1, 1) ∈ restartedLedger.books.accounts.map DownloadAccount.mark := by
    decide +kernel
  obtain ⟨ended, hmem, hmark⟩ := List.mem_map.mp haccounts
  simp only [DownloadAccount.mark, Prod.mk.injEq] at hmark
  -- the only session is booked under the second place
  have hcurrent : ∀ session ∈ restartedLedger.world.otaupdateList,
      ∀ account, restartedLedger.books.account session.addr = some account →
        account.position = 2 := by
    have hall : ∀ session ∈ restartedLedger.world.otaupdateList,
        (restartedLedger.books.account session.addr).map DownloadAccount.position = some 2 := by
      decide +kernel
    intro session hsession account haccount
    simpa [haccount] using hall session hsession
  have hignored := hignores ended hmem
    (fun session hsession _ heq => by
      have hposition := hcurrent session hsession ended heq
      omega)
    (by rw [hmark.2.1]; decide +kernel)
    (fun session hsession _ older holder hlt => by
      have hposition := hcurrent session hsession older holder
      omega)
  rw [hmark.2.2] at hignored
  exact ⟨hagreement, by decide +kernel, hignored⟩

/-- Two items, and an announcement to the first one. -/
def firstAnnouncement : List OtaInput :=
  [.subscribe "F/W 1" .fw (some 1000000), .subscribe "F/W 2" .fw (some 1000000),
    announcementTo 0 "1.0"]

/-- An announcement to the second item, and one of the version it then runs, which ends the
    download. -/
def secondAnnouncement : List OtaInput := [announcementTo 1 "1.0", announcementTo 1 "1.1"]

def announcedLedger : OtaLedger :=
  firstAnnouncement.foldl (OtaLedger.advance .crc32) (.initial sampleCore 0)

/-- In the meantime the rest of the client took 65534 ids. -/
def waitedLedger : OtaLedger where
  world := { announcedLedger.world with
    dev := { announcedLedger.world.dev with
      core := { sampleCore with nextRequestId := 65535 } } }
  books := { announcedLedger.books with issued := announcedLedger.books.issued + 65534 }

def outlastedLedger : OtaLedger :=
  secondAnnouncement.foldl (OtaLedger.advance .crc32) waitedLedger

theorem run_outlastedLedger : Run (within FittingInput (LedgerStep .crc32)) (.initial sampleCore 0)
    (firstAnnouncement ++ [.event (.environment { sampleCore with nextRequestId := 65535 })] ++
      secondAnnouncement) outlastedLedger := by
  have hfirst : Run (within FittingInput (LedgerStep .crc32)) (.initial sampleCore 0)
      firstAnnouncement announcedLedger := by
    refine run_of_advance ?_ (takes_of_allowed (by decide +kernel))
    simp [firstAnnouncement, announcementTo, FittingInput, longestChunk]
  have hsecond : Run (within FittingInput (LedgerStep .crc32)) waitedLedger secondAnnouncement
      outlastedLedger := by
    refine run_of_advance ?_ (takes_of_allowed (by decide +kernel))
    simp [secondAnnouncement, announcementTo, FittingInput]
  have hwaited : within FittingInput (LedgerStep .crc32) announcedLedger
      (.event (.environment { sampleCore with nextRequestId := 65535 })) waitedLedger := by
    refine ⟨trivial, .environment 65534 ?_⟩
    have hcounter : announcedLedger.world.dev.core.nextRequestId = 1 := by decide +kernel
    rw [hcounter, ← UInt16.toNat_inj, toNat_iterate_followingId]
    rfl
  exact (hfirst.snoc hwaited).append hsecond

/-- The second download has ended, and a response to it is taken for one to the first. -/
theorem booked_fails_outlastedLedger :
    ¬ ∀ inputs ledger,
      Run (within FittingInput (LedgerStep .crc32)) (.initial sampleCore 0) inputs ledger →
      ledger.InAgreement .crc32 ∧
        ∀ ended ∈ ledger.books.accounts, ledger.Ended ended →
          ledger.books.issued - ended.position < 65535 →
          ledger.world.Ignores .crc32 ended.requestId := by
  intro hall
  have hignores := (hall _ outlastedLedger run_outlastedLedger).2
  have haccounts : (1, 65536, 1) ∈ outlastedLedger.books.accounts.map DownloadAccount.mark := by
    decide +kernel
  obtain ⟨ended, hmem, hmark⟩ := List.mem_map.mp haccounts
  simp only [DownloadAccount.mark, Prod.mk.injEq] at hmark
  -- the session that is active is booked under the first place
  have hcurrent : ∀ session ∈ outlastedLedger.world.otaupdateList, 0 < session.state.requestId →
      (outlastedLedger.books.account session.addr).map DownloadAccount.position = some 1 := by
    decide +kernel
  have hended : outlastedLedger.Ended ended := by
    intro session hsession hactive heq
    have hposition := hcurrent session hsession hactive
    rw [heq, Option.map_some, hmark.2.1] at hposition
    exact absurd hposition (by decide)
  have hignored := hignores ended hmem hended (by rw [hmark.2.1]; decide +kernel) 0 sampleImage
    sampleAnswers
  rw [hmark.2.2] at hignored
  exact absurd (congrArg (fun world => world.dev.trace.length) hignored) (by decide +kernel)

end ThingsboardMqtt
