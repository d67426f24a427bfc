import Mathlib.Logic.Function.Iterate
import ThingsboardMqtt.Ota.AttributeTypes
import ThingsboardMqtt.Ota.HonestServer

set_option autoImplicit false

/-! # The books of the downloads

A download starts with a negotiation that succeeds and draws a request id. `OtaBooks` keeps an
account of every download: the place of its id among all ids that were handed out, the chunk
requests that were sent for it and the responses that were accepted. The books are read off what
the events do, message by message, and not off the counters in the sessions. -/

namespace ThingsboardMqtt

open Execution ListWalk

/-! ## Request ids -/

/-- The counter behind one call of `_tbcmh_get_request_id`. -/
def followingId (counter : UInt16) : UInt16 :=
  let next := counter + 1
  if next ≤ 0 then 1 else next

theorem tbcmhGetRequestId_eq (core : Core) : tbcmhGetRequestId core
    = ((followingId core.nextRequestId).toNat,
      { core with nextRequestId := followingId core.nextRequestId }) := rfl

theorem toNat_followingId (counter : UInt16) :
    (followingId counter).toNat = counter.toNat % 65535 + 1 := by
  have hbound := counter.toNat_lt
  have hnext : (counter + 1).toNat = (counter.toNat + 1) % 65536 := by simp [UInt16.toNat_add]
  have hzero : counter + 1 ≤ 0 ↔ (counter.toNat + 1) % 65536 = 0 := by
    rw [UInt16.le_iff_toNat_le, hnext]
    exact Nat.le_zero
  simp only [followingId, hzero]
  split
  · have hone : (1 : UInt16).toNat = 1 := rfl
    omega
  · omega

/-- The id that is handed out at a place of the sequence. -/
theorem toNat_iterate_followingId (counter : UInt16) (place : Nat) :
    (followingId^[place + 1] counter).toNat = (counter.toNat + place) % 65535 + 1 := by
  induction place with
  | zero => exact toNat_followingId counter
  | succ place ih =>
    rw [Function.iterate_succ_apply', toNat_followingId, ih]
    omega

/-- Ids at two places that are fewer than 65535 apart differ. -/
theorem iterate_followingId_ne (counter : UInt16) {place place' : Nat} (hpos : 0 < place)
    (hlt : place < place') (hnear : place' - place < 65535) :
    (followingId^[place] counter).toNat ≠ (followingId^[place'] counter).toNat := by
  obtain ⟨before, rfl⟩ := Nat.exists_eq_add_of_lt hpos
  obtain ⟨between, rfl⟩ := Nat.exists_eq_add_of_lt hlt
  rw [Nat.zero_add, toNat_iterate_followingId,
    show before + 1 + between + 1 = (before + 1 + between) + 1 from rfl, toNat_iterate_followingId]
  omega

/-! ## Accounts -/

/-- What happened for a download: its session, how many ids had been handed out with its own, that
    id, how many chunk requests were sent, and the responses that were accepted. -/
structure DownloadAccount where
  owner : Nat
  position : Nat
  requestId : Nat
  requests : Nat
  accepted : List ChunkResponse

/-- How many ids were handed out, and the accounts of all downloads, the newest first. -/
structure OtaBooks where
  issued : Nat
  accounts : List DownloadAccount

/-- The account of the last download of a session. -/
def OtaBooks.account (books : OtaBooks) (owner : Nat) : Option DownloadAccount :=
  books.accounts.find? (·.owner = owner)

/-- Changes the first account of an owner. -/
def amendFirst (owner : Nat) (change : DownloadAccount → DownloadAccount) :
    List DownloadAccount → List DownloadAccount
  | [] => []
  | account :: older =>
    if account.owner = owner then change account :: older
    else account :: amendFirst owner change older

def OtaBooks.amend (books : OtaBooks) (owner : Nat)
    (change : DownloadAccount → DownloadAccount) : OtaBooks :=
  { books with accounts := amendFirst owner change books.accounts }

/-- The download that a negotiation starts, before its id is known. -/
def OtaBooks.start (books : OtaBooks) (owner : Nat) : OtaBooks where
  issued := books.issued + 1
  accounts :=
    { owner := owner
      position := books.issued + 1
      requestId := 0
      requests := 0
      accepted := [] } :: books.accounts

/-- One action of an event, booked; `requestId` is the id of the message that caused the event. -/
def OtaBooks.read (requestId : Nat) (books : OtaBooks) : OtaAction → OtaBooks
  | .negotiated owner result _ => if result = 1 then books.start owner else books
  | .chunkRequest owner chunkRequestId _ _ sent =>
    books.amend owner fun account =>
      { account with
        requestId := chunkRequestId
        requests := if sent then account.requests + 1 else account.requests }
  | .otaWrite owner chunkId data ok =>
    if ok then
      books.amend owner fun account =>
        { account with
          accepted := account.accepted ++
            [{ requestId := requestId
               chunkId := chunkId
               payload := data }] }
    else books
  | _ => books

/-! ## Runs that are booked -/

/-- The OTA world with its books. -/
structure OtaLedger where
  world : OtaWorld
  books : OtaBooks

def OtaLedger.initial (core : Core) (lastHandle : Nat) : OtaLedger where
  world := .initial core lastHandle
  books := ⟨0, []⟩

/-- The request id in the topic of a chunk response; no other input leads to a write. -/
def OtaInput.requestId : OtaInput → Nat
  | .event (.chunkData requestId _ _ _) => requestId
  | _ => 0

/-- A step with what it books. What the rest of the client does moves the id counter by the ids it
    takes. -/
inductive LedgerStep (crc : CrcRoutine) : OtaLedger → OtaInput → OtaLedger → Prop
  | handled {ledger : OtaLedger} {input : OtaInput} {world' : OtaWorld}
      {actions : List OtaAction} (hinput : ∀ core, input ≠ .event (.environment core))
      (hok : otaStep crc ledger.world input = .ok world')
      (htrace : world'.dev.trace = ledger.world.dev.trace ++ actions) :
    LedgerStep crc ledger input
      { world := world'
        books := actions.foldl (OtaBooks.read input.requestId) ledger.books }
  | environment {ledger : OtaLedger} {core : Core} (taken : Nat)
      (hcounter : core.nextRequestId = followingId^[taken] ledger.world.dev.core.nextRequestId) :
    LedgerStep crc ledger (.event (.environment core))
      { world := { ledger.world with dev := { ledger.world.dev with core := core } }
        books := { ledger.books with issued := ledger.books.issued + taken } }

/-- The longest payload of a chunk response: 128 KiB. -/
def longestChunk : Nat := 128 * 1024

/-- There is an update partition, its size leaves room for one more chunk below `2 ^ 32`, and no
    payload is longer than a chunk may be. -/
def FittingInput (_ : OtaLedger) : OtaInput → Prop
  | .subscribe _ .fw nextUpdatePartition =>
    ∃ size ∈ nextUpdatePartition, size + longestChunk < 2 ^ 32
  | .event (.chunkData _ _ payload _) => payload.length ≤ longestChunk
  | _ => True

/-! ## What an event leaves alone -/

theorem otaFwupdateEnd_partition (writer : FwWriter) (errorSize : Nat) (answers : FwAnswers) :
    (otaFwupdateEnd writer errorSize answers).2.fwupdate.updatePartition
      = writer.fwupdate.updatePartition := by
  unfold otaFwupdateEnd
  split
  · rfl
  · split <;> rfl

theorem otaFwupdateWrite_partition (writer : FwWriter) (fwData : List UInt8) (errorSize : Nat)
    (answers : FwAnswers) :
    (otaFwupdateWrite writer fwData errorSize answers).2.fwupdate.updatePartition
      = writer.fwupdate.updatePartition := by
  have hdone : ∀ writer', (fwupdateAppend writer' fwData errorSize answers).2.fwupdate
      = writer'.fwupdate := by
    intro writer'
    unfold fwupdateAppend
    split <;> rfl
  unfold otaFwupdateWrite
  split
  · rfl
  split
  · split
    · rfl
    dsimp only
    split
    · rfl
    · rw [hdone]
  · rw [hdone]

/-- The id counter and the update partition stay what they are. -/
structure SameCounter (dev dev' : OtaDevice) : Prop where
  counter : dev'.core.nextRequestId = dev.core.nextRequestId
  partition : dev'.writer.fwupdate.updatePartition = dev.writer.fwupdate.updatePartition

namespace SameCounter

theorem refl (dev : OtaDevice) : SameCounter dev dev := ⟨rfl, rfl⟩

theorem trans {dev₁ dev₂ dev₃ : OtaDevice} (h : SameCounter dev₁ dev₂) (h' : SameCounter dev₂ dev₃) :
    SameCounter dev₁ dev₃ :=
  ⟨h'.counter.trans h.counter, h'.partition.trans h.partition⟩

theorem log (dev : OtaDevice) (action : OtaAction) : SameCounter dev (dev.log action) := ⟨rfl, rfl⟩

theorem doUpdated (session : Otaupdate) (success : Bool) (dev : OtaDevice) :
    SameCounter dev (otaupdateDoUpdated session success dev) := by
  simp only [otaupdateDoUpdated, OtaDevice.log]
  split <;> exact ⟨rfl, rfl⟩

theorem doAbort (session : Otaupdate) (dev : OtaDevice) :
    SameCounter dev (otaupdateDoAbort session dev) := by
  unfold otaupdateDoAbort
  split <;> exact ⟨rfl, rfl⟩

theorem concludeFailure (session : Otaupdate) (dev : OtaDevice) :
    SameCounter dev (otaupdateConcludeFailure session dev).2 :=
  (doAbort session dev).trans (doUpdated _ _ _)

theorem doEnd (session : Otaupdate) (answers : OtaAnswers) (dev : OtaDevice) :
    SameCounter dev (otaupdateDoEnd session answers dev).2 := by
  unfold otaupdateDoEnd
  split
  · exact ⟨rfl, otaFwupdateEnd_partition dev.writer otaErrorSize answers.fw⟩
  · exact refl dev

theorem complete (session : Otaupdate) (answers : OtaAnswers) (dev : OtaDevice) :
    SameCounter dev (otaupdateComplete session answers dev).2 := by
  simp only [otaupdateComplete]
  have hpublished : SameCounter dev (otaupdatePublishGoingStatus session "DOWNLOADED" answers dev) :=
    log _ _
  split
  · have hverified : SameCounter dev (otaupdatePublishGoingStatus session "UPDATING" answers
        (otaupdatePublishGoingStatus session "VERIFIED" answers
          (otaupdatePublishGoingStatus session "DOWNLOADED" answers dev))) :=
      (hpublished.trans (log _ _)).trans (log _ _)
    have hended := hverified.trans (doEnd session answers _)
    split
    · exact (hended.trans (log _ _)).trans (doUpdated _ _ _)
    · exact (hended.trans (log _ _)).trans (concludeFailure _ _)
  · exact (hpublished.trans (log _ _)).trans (concludeFailure _ _)

theorem doWrite (crc : CrcRoutine) (session : Otaupdate) (chunkId : Nat) (otaData : List UInt8)
    (answers : OtaAnswers) (dev : OtaDevice) :
    SameCounter dev (otaupdateDoWrite crc session chunkId otaData answers dev).2.2 := by
  have hwritten := otaFwupdateWrite_partition dev.writer otaData otaErrorSize answers.fw
  unfold otaupdateDoWrite
  split
  · exact refl dev
  split
  · exact refl dev
  dsimp only
  split <;> exact ⟨rfl, hwritten⟩

theorem nextChunkRequest (session : Otaupdate) (answers : OtaAnswers) (dev : OtaDevice) :
    SameCounter dev (otaupdateChunkRequest session false answers dev).2.2 := ⟨rfl, rfl⟩

theorem onChunk (crc : CrcRoutine) (chunkId : Nat) (payload : List UInt8) (answers : OtaAnswers)
    (session : Otaupdate) (dev : OtaDevice) :
    SameCounter dev (otaupdateOnChunk crc chunkId payload answers session dev).2 := by
  unfold otaupdateOnChunk
  have hwritten := doWrite crc session chunkId payload answers dev
  have hfailed : ∀ next text dev', SameCounter dev dev' → SameCounter dev (otaupdateConcludeFailure next
      (otaupdatePublishLateFailedStatus next text dev')).2 :=
    fun next text dev' h => (h.trans (log _ _)).trans (concludeFailure _ _)
  dsimp only
  split
  · split
    · exact hwritten.trans (complete _ _ _)
    · split
      · exact hwritten.trans (nextChunkRequest _ _ _)
      · exact hfailed _ _ _ (hwritten.trans (nextChunkRequest _ _ _))
  · split <;> exact hfailed _ _ _ hwritten

theorem onChunkData (crc : CrcRoutine) (requestId chunkId : Nat) (payload : List UInt8)
    (answers : OtaAnswers) (world : OtaWorld) :
    SameCounter world.dev
      (tbcmhOtaupdateOnChunkData crc requestId chunkId payload answers world).dev := by
  unfold tbcmhOtaupdateOnChunkData
  split
  · exact refl _
  · exact onChunk _ _ _ _ _ _

theorem checkTimeout (timestamp : Nat) (session : Otaupdate) (dev : OtaDevice) :
    SameCounter dev (otaupdateCheckTimeout timestamp session dev).2 := by
  unfold otaupdateCheckTimeout
  split
  · exact (log dev _).trans (concludeFailure _ _)
  · exact refl dev

theorem onChunkCheckTimeout (timestamp : Nat) (world : OtaWorld) :
    SameCounter world.dev (tbcmhOtaupdateOnChunkCheckTimeout timestamp world).dev := by
  let inv (_ _ : List Otaupdate) (dev : OtaDevice) : Prop := SameCounter world.dev dev
  have hvisit : ∀ done session rest dev, inv done (session :: rest) dev →
      inv (done ++ [(otaupdateCheckTimeout timestamp session dev).1]) rest
        (otaupdateCheckTimeout timestamp session dev).2 :=
    fun _ session _ dev hinv => hinv.trans (checkTimeout timestamp session dev)
  exact foreachSafe_rule hvisit world.otaupdateList [] world.dev (refl _)

end SameCounter

/-! ## Reading the actions of an event -/

/-- What no later action changes of an account. -/
def DownloadAccount.mark (account : DownloadAccount) : Nat × Nat × Nat :=
  (account.owner, account.position, account.requestId)

section amendFirst

variable {owner : Nat} {change : DownloadAccount → DownloadAccount}

theorem find?_amendFirst (hchange : ∀ account, (change account).owner = account.owner)
    (accounts : List DownloadAccount) :
    (amendFirst owner change accounts).find? (·.owner = owner)
      = (accounts.find? (·.owner = owner)).map change := by
  induction accounts with
  | nil => rfl
  | cons account older ih =>
    rw [amendFirst]
    by_cases howner : account.owner = owner
    · rw [if_pos howner]
      simp [hchange, howner]
    · rw [if_neg howner]
      simpa [howner] using ih

theorem find?_amendFirst_of_ne (hchange : ∀ account, (change account).owner = account.owner)
    {other : Nat} (hne : other ≠ owner) (accounts : List DownloadAccount) :
    (amendFirst owner change accounts).find? (·.owner = other)
      = accounts.find? (·.owner = other) := by
  induction accounts with
  | nil => rfl
  | cons account older ih =>
    rw [amendFirst]
    by_cases howner : account.owner = owner
    · rw [if_pos howner]
      simp [hchange, howner, hne.symm]
    · rw [if_neg howner, List.find?_cons, List.find?_cons, ih]

theorem map_mark_amendFirst {accounts : List DownloadAccount}
    (hmark : ∀ account, accounts.find? (·.owner = owner) = some account →
      (change account).mark = account.mark) :
    (amendFirst owner change accounts).map DownloadAccount.mark
      = accounts.map DownloadAccount.mark := by
  induction accounts with
  | nil => rfl
  | cons account older ih =>
    rw [amendFirst]
    by_cases howner : account.owner = owner
    · rw [if_pos howner, List.map_cons, List.map_cons, hmark account (by simp [howner])]
    · rw [if_neg howner, List.map_cons, List.map_cons]
      exact congrArg _ (ih fun found hfound => hmark found (by simpa [howner] using hfound))

theorem OtaBooks.account_amend {books : OtaBooks}
    (hchange : ∀ account, (change account).owner = account.owner) :
    (books.amend owner change).account owner = (books.account owner).map change :=
  find?_amendFirst hchange books.accounts

end amendFirst

/-- No download is started, and only the last account of one session grows. -/
structure Amended (owner : Nat) (books books' : OtaBooks) : Prop where
  issued : books'.issued = books.issued
  marks : books'.accounts.map DownloadAccount.mark = books.accounts.map DownloadAccount.mark
  others : ∀ other, other ≠ owner → books'.account other = books.account other

namespace Amended

variable {owner : Nat} {books books' : OtaBooks}

theorem refl (owner : Nat) (books : OtaBooks) : Amended owner books books :=
  ⟨rfl, rfl, fun _ _ => rfl⟩

theorem trans {books'' : OtaBooks} (h : Amended owner books books')
    (h' : Amended owner books' books'') : Amended owner books books'' :=
  ⟨h'.issued.trans h.issued, h'.marks.trans h.marks,
    fun other hne => (h'.others other hne).trans (h.others other hne)⟩

theorem amend {change : DownloadAccount → DownloadAccount}
    (hchange : ∀ account, (change account).owner = account.owner)
    (hmark : ∀ account, books.account owner = some account →
      (change account).mark = account.mark) : Amended owner books (books.amend owner change) :=
  ⟨rfl, map_mark_amendFirst hmark, fun _ hne => find?_amendFirst_of_ne hchange hne _⟩

theorem requestId (h : Amended owner books books') {account' : DownloadAccount}
    (hfound : books'.account owner = some account') :
    ∃ account, books.account owner = some account ∧ account.requestId = account'.requestId := by
  have hmarks : ∀ accounts : List DownloadAccount,
      (accounts.find? (·.owner = owner)).map DownloadAccount.mark
        = (accounts.map DownloadAccount.mark).find? (·.1 = owner) := by
    intro accounts
    rw [List.find?_map]
    rfl
  have hfound' : (books.account owner).map DownloadAccount.mark = some account'.mark := by
    rw [OtaBooks.account, hmarks, ← h.marks, ← hmarks]
    exact congrArg (Option.map _) hfound
  obtain ⟨account, haccount, hmark⟩ := Option.map_eq_some_iff.mp hfound'
  exact ⟨account, haccount, congrArg (·.2.2) hmark⟩

end Amended

/-- Actions that no account records. -/
def OtaAction.unbooked : OtaAction → Bool
  | .negotiated _ result _ => result ≠ 1
  | .chunkRequest _ _ _ _ _ => false
  | .otaWrite _ _ _ ok => !ok
  | _ => true

theorem foldl_read_of_unbooked {requestId : Nat} {actions : List OtaAction}
    (h : ∀ action ∈ actions, action.unbooked = true) (books : OtaBooks) :
    actions.foldl (OtaBooks.read requestId) books = books := by
  induction actions with
  | nil => rfl
  | cons action rest ih =>
    have hsame : books.read requestId action = books := by
      have hfirst := h action List.mem_cons_self
      cases action with
      | negotiated owner result cached => exact if_neg (of_decide_eq_true hfirst)
      | chunkRequest owner chunkRequestId chunkId text sent => cases hfirst
      | otaWrite owner chunkId data ok => exact if_neg (by simpa [OtaAction.unbooked] using hfirst)
      | _ => rfl
    rw [List.foldl_cons, hsame]
    exact ih fun a ha => h a (List.mem_cons_of_mem _ ha)

theorem mem_failureActions {session : Otaupdate} {action : OtaAction}
    (h : action ∈ failureActions session) :
    action = .otaAbort session.addr ∨ action = .otaUpdated session.addr false := by
  cases hbusy : session.busy <;> simp [failureActions, hbusy] at h
  · exact .inr h
  · exact h

theorem unbooked_of_mem_failureActions {session : Otaupdate} {action : OtaAction}
    (h : action ∈ failureActions session) : action.unbooked = true := by
  rcases mem_failureActions h with rfl | rfl <;> rfl

/-- An action of a session that starts no download; a chunk request carries the id of the session
    and leaves something to be received. -/
def Otaupdate.Continues (session : Otaupdate) (action : OtaAction) : Prop :=
  match action with
  | .telemetry _ _ => True
  | .negotiate _ => True
  | .negotiated _ result _ => result ≠ 1
  | .chunkRequest owner requestId _ _ _ =>
    owner = session.addr ∧ requestId = session.state.requestId ∧ 0 < session.otaAttribute.otaSize
  | .otaWrite owner _ _ _ => owner = session.addr
  | .otaEnd _ _ _ => True
  | .otaAbort _ => True
  | .otaUpdated _ _ => True

/-- The id of the session is that of its last account, if it has anything to receive. -/
def Otaupdate.Entitled (session : Otaupdate) (books : OtaBooks) : Prop :=
  ∀ account, books.account session.addr = some account → 0 < session.otaAttribute.otaSize →
    account.requestId = session.state.requestId

theorem amended_read {session : Otaupdate} {books : OtaBooks} {action : OtaAction}
    (requestId : Nat) (hid : session.Entitled books) (h : session.Continues action) :
    Amended session.addr books (books.read requestId action) := by
  cases action with
  | negotiated owner result cached =>
    rw [OtaBooks.read, if_neg h]
    exact .refl _ _
  | chunkRequest owner chunkRequestId chunkId text sent =>
    obtain ⟨rfl, rfl, hsize⟩ := h
    refine .amend (fun _ => rfl) ?_
    intro account haccount
    simp only [DownloadAccount.mark, hid account haccount hsize]
  | otaWrite owner chunkId data ok =>
    obtain rfl := h
    rw [OtaBooks.read]
    split
    · exact .amend (fun _ => rfl) fun _ _ => rfl
    · exact .refl _ _
  | _ => exact .refl _ _

/-- A session that continues its download amends its last account. -/
theorem amended_foldl {session : Otaupdate} {actions : List OtaAction} (requestId : Nat)
    (h : ∀ action ∈ actions, session.Continues action) {books : OtaBooks}
    (hid : session.Entitled books) :
    Amended session.addr books (actions.foldl (OtaBooks.read requestId) books) := by
  induction actions generalizing books with
  | nil => exact .refl _ _
  | cons action rest ih =>
    have hfirst := amended_read requestId hid (h action List.mem_cons_self)
    refine hfirst.trans (ih (fun a ha => h a (List.mem_cons_of_mem _ ha)) ?_)
    intro account haccount hsize
    obtain ⟨before, hbefore, heq⟩ := hfirst.requestId haccount
    exact heq.symm.trans (hid before hbefore hsize)

theorem continues_of_mem_failureActions {session next : Otaupdate} {action : OtaAction}
    (h : action ∈ failureActions next) : session.Continues action := by
  rcases mem_failureActions h with rfl | rfl <;> trivial

/-- A chunk starts no download. -/
theorem ChunkOutcome.continues {crc : CrcRoutine} {chunkId : Nat} {payload : List UInt8}
    {answers : OtaAnswers} {session session' : Otaupdate} {writer writer' : FwWriter}
    {actions : List OtaAction}
    (h : ChunkOutcome crc chunkId payload answers session writer session' writer' actions) :
    ∀ action ∈ actions, session.Continues action := by
  intro action hmem
  cases h with
  | refused text hfeeds =>
    rcases List.mem_cons.mp hmem with rfl | hmem
    · trivial
    · exact continues_of_mem_failureActions hmem
  | writeFailed text written writer₁ hfeeds hwrite hfail =>
    simp only [List.mem_cons] at hmem
    rcases hmem with rfl | rfl | hmem
    · rfl
    · trivial
    · exact continues_of_mem_failureActions hmem
  | requested text timestamp written writer₁ next hfeeds hwrite hok hnext hmore =>
    subst hnext
    simp only [List.mem_cons, List.not_mem_nil, or_false] at hmem
    rcases hmem with rfl | rfl
    · rfl
    · exact ⟨rfl, rfl, Nat.zero_lt_of_lt hmore⟩
  | requestFailed text written writer₁ next hfeeds hwrite hok hnext hmore =>
    subst hnext
    simp only [List.mem_cons] at hmem
    rcases hmem with rfl | rfl | rfl | hmem
    · rfl
    · exact ⟨rfl, rfl, Nat.zero_lt_of_lt hmore⟩
    · trivial
    · exact continues_of_mem_failureActions hmem
  | corrupted written writer₁ next hfeeds hwrite hok hnext hall hchecksum =>
    simp only [List.mem_cons] at hmem
    rcases hmem with rfl | rfl | rfl | hmem
    · rfl
    · trivial
    · trivial
    · exact continues_of_mem_failureActions hmem
  | updated written ended writer₁ writer₂ next hfeeds hwrite hok hnext hall hchecksum hbusy hend
      hended =>
    simp only [verifiedActions, successActions, List.mem_append, List.mem_cons,
      List.not_mem_nil, or_false] at hmem
    rcases hmem with (rfl | rfl | rfl | rfl) | rfl | rfl | rfl <;> trivial
  | endFailed text written ended writer₁ writer₂ next hfeeds hwrite hok hnext hall hchecksum
      hbusy hend hended =>
    simp only [verifiedActions, List.mem_append, List.mem_cons, List.not_mem_nil,
      or_false] at hmem
    rcases hmem with (rfl | rfl | rfl | rfl) | rfl | rfl | hmem
    any_goals trivial
    exact continues_of_mem_failureActions hmem
  | unguarded written writer₁ next hfeeds hwrite hok hnext hall hchecksum hidle =>
    simp only [verifiedActions, successActions, List.mem_append, List.mem_cons,
      List.not_mem_nil, or_false] at hmem
    rcases hmem with (rfl | rfl | rfl | rfl) | rfl | rfl <;> trivial

/-- A chunk ends its download, or it is accepted and the next one is requested. -/
theorem ChunkOutcome.ended_or_requested {crc : CrcRoutine} {chunkId : Nat}
    {payload : List UInt8} {answers : OtaAnswers} {session session' : Otaupdate}
    {writer writer' : FwWriter} {actions : List OtaAction}
    (h : ChunkOutcome crc chunkId payload answers session writer session' writer' actions) :
    session' = otaupdateReset session ∨
      ∃ text timestamp, session.feeds chunkId payload ∧
        (otaupdateAdvance crc session payload).state.receivedLen < session.otaAttribute.otaSize ∧
        session' = { otaupdateAdvance crc session payload with
          state := { (otaupdateAdvance crc session payload).state with timestamp := timestamp } } ∧
        actions = [.otaWrite session.addr chunkId payload true,
          .chunkRequest session.addr session.state.requestId session'.state.chunkId text true] := by
  cases h with
  | requested text timestamp written writer₁ next hfeeds hwrite hok hnext hmore =>
    subst hnext
    exact .inr ⟨text, timestamp, hfeeds, hmore, rfl, rfl⟩
  | _ => exact .inl rfl

/-! ## Negotiations -/

/-- The books behind a negotiation that succeeded and whose chunk request had an outcome. -/
def OtaBooks.opened (books : OtaBooks) (owner requestId : Nat) (sent : Bool) : OtaBooks where
  issued := books.issued + 1
  accounts :=
    { owner := owner
      position := books.issued + 1
      requestId := requestId
      requests := if sent then 1 else 0
      accepted := [] } :: books.accounts

/-- An image that is accepted fits the update partition. -/
theorem otaFwupdateNegotiate_fits {fwupdate : Fwupdate}
    {currentFwTitle currentFwVersion : Option String} {fwTitle : String}
    {fwVersion : Option String} {fwSize errorSize size : Nat} {result : OtaResult}
    (h : otaFwupdateNegotiate fwupdate currentFwTitle currentFwVersion fwTitle fwVersion fwSize
      errorSize = .ok result) (hone : result.result = 1)
    (hpartition : fwupdate.updatePartition = some size) : fwSize ≤ size := by
  cases currentFwTitle with
  | none => simp [otaFwupdateNegotiate] at h
  | some currentTitle =>
  by_cases htitle : fwTitle = currentTitle
  · subst htitle
    obtain ⟨_, _, -, -, hiff⟩ := otaFwupdateNegotiate_eq_ok h
    exact (hiff.mp hone).2 size hpartition
  · simp only [otaFwupdateNegotiate, if_pos htitle] at h
    obtain rfl := Except.ok.inj h
    simp at hone

/-- What the attributes of a session are cached from was checked against the partition. -/
theorem otaupdateDoNegotiate_fits {otaTitle : String}
    {otaVersion otaChecksum otaChecksumAlgorithm : Option String} {otaSize size : Nat}
    {answers : OtaAnswers} {session session' : Otaupdate} {dev dev' : OtaDevice}
    {negotiation : OtaResult}
    (h : otaupdateDoNegotiate session otaTitle otaVersion otaSize otaChecksum
      otaChecksumAlgorithm answers dev = .ok (negotiation, session', dev'))
    (hone : negotiation.result = 1)
    (hpartition : dev.writer.fwupdate.updatePartition = some size) :
    session'.otaAttribute.otaSize ≤ size := by
  obtain ⟨algorithm, -, ⟨-, hres, -, -⟩ | ⟨-, hanswer, ⟨hres, -, -⟩ | ⟨cached, -, -, hsize, rfl, -⟩⟩⟩ :=
    otaupdateDoNegotiate_cases h
  · omega
  · exact absurd hone hres
  · exact hsize ▸ otaFwupdateNegotiate_fits hanswer hone hpartition

theorem otaupdateChunkRequest_draws {session session' : Otaupdate} {dev dev' : OtaDevice}
    {answers : OtaAnswers} {sent : Bool}
    (h : otaupdateChunkRequest session true answers dev = (sent, session', dev')) :
    session' = { session with
        state := { session.state with
          requestId := (followingId dev.core.nextRequestId).toNat
          timestamp := dev.core.now } } ∧
      dev'.core.nextRequestId = followingId dev.core.nextRequestId ∧
      dev'.writer = dev.writer ∧ ∃ text, dev'.trace = dev.trace ++
        [.chunkRequest session.addr (followingId dev.core.nextRequestId).toNat
          session.state.chunkId text sent] := by
  simp only [otaupdateChunkRequest, if_true, tbcmhGetRequestId_eq] at h
  obtain ⟨rfl, rfl, rfl⟩ : _ = sent ∧ _ = session' ∧ _ = dev' := by simpa using h
  exact ⟨rfl, rfl, rfl, _, rfl⟩

theorem firstChunkRequest_draws {session requested : Otaupdate} {dev dev' : OtaDevice}
    {cached : OtaupdateAttribute} {core : Core} (hcounter : core.nextRequestId = dev.core.nextRequestId)
    {answers : OtaAnswers} {sent : Bool}
    (h : otaupdateChunkRequest { otaupdateReset session with otaAttribute := cached } true answers
      (otaupdatePublishGoingStatus { otaupdateReset session with otaAttribute := cached }
        "DOWNLOADING" answers (dev.negotiated session cached core)) = (sent, requested, dev')) :
    requested = session.started cached (followingId dev.core.nextRequestId).toNat core.now ∧
      dev'.core.nextRequestId = followingId dev.core.nextRequestId ∧ dev'.writer = dev.writer ∧
      ∃ text, dev'.trace = dev.trace ++ (openingActions session cached answers ++
        [.chunkRequest session.addr (followingId dev.core.nextRequestId).toNat 0 text sent]) := by
  obtain ⟨hrequested, hid, hwriter, text, htrace⟩ := otaupdateChunkRequest_draws h
  refine ⟨?_, hid.trans (congrArg followingId hcounter), hwriter, text, ?_⟩
  · rw [hrequested, ← hcounter]
    rfl
  · rw [htrace, ← hcounter]
    simp [openingActions, OtaDevice.negotiated, goingTelemetry, otaupdateReset, OtaupdateState.idle]
    rfl

/-- A negotiation leaves the session alone or resets it, or opens a download under the next id. -/
theorem otaupdateOnNegotiation_draws {otaTitle : String}
    {otaVersion otaChecksum otaChecksumAlgorithm : Option String} {otaSize : Nat}
    {answers : OtaAnswers} {session session' : Otaupdate} {dev dev' : OtaDevice}
    (h : otaupdateOnNegotiation otaTitle otaVersion otaSize otaChecksum otaChecksumAlgorithm
      answers session dev = .ok (session', dev')) :
    dev'.writer = dev.writer ∧ ∃ actions, dev'.trace = dev.trace ++ actions ∧
      ((dev'.core.nextRequestId = dev.core.nextRequestId ∧
          (∀ action ∈ actions, action.unbooked = true) ∧
          (session' = session ∨ session' = otaupdateReset session)) ∨
        ∃ cached text sent conclusion,
          dev'.core.nextRequestId = followingId dev.core.nextRequestId ∧
          actions = openingActions session cached answers ++ [.chunkRequest session.addr
            (followingId dev.core.nextRequestId).toNat 0 text sent] ++ conclusion ∧
          (∀ action ∈ conclusion, action.unbooked = true) ∧
          (session' = otaupdateReset session ∨
            ∃ timestamp, sent = true ∧
              session' = session.started cached (followingId dev.core.nextRequestId).toNat timestamp ∧
              ∀ size, dev.writer.fwupdate.updatePartition = some size →
                cached.otaSize ≤ size)) := by
  obtain ⟨negotiation, next, dev₁, hdo, hsteps⟩ := otaupdateOnNegotiation_steps h
  -- subscribing the topic of the responses leaves the counter
  have hcounter : ∀ {core}, core = dev.core ∨ core = tbcmSubscribe dev.core .fwResponse →
      core.nextRequestId = dev.core.nextRequestId := by
    rintro core (rfl | rfl) <;> rfl
  cases hsteps with
  | unsupported halg hresult =>
    refine ⟨rfl, [.negotiate session.addr,
      earlyFailedTelemetry session (otaErrorText negotiation.otaError)], ?_,
      .inl ⟨rfl, by simp [OtaAction.unbooked, earlyFailedTelemetry], .inl rfl⟩⟩
    simp [otaupdatePublishEarlyFailedStatus, earlyFailedTelemetry]
  | alreadyUpdated halg hresult =>
    exact ⟨rfl, [.negotiate session.addr, .negotiated session.addr 0 .empty], by simp,
      .inl ⟨rfl, by simp [OtaAction.unbooked], .inr rfl⟩⟩
  | rejected halg hresult =>
    refine ⟨rfl, [.negotiate session.addr, .negotiated session.addr negotiation.result .empty,
      earlyFailedTelemetry session (otaErrorText negotiation.otaError)], ?_,
      .inl ⟨rfl, by simp [OtaAction.unbooked, earlyFailedTelemetry, hresult], .inr rfl⟩⟩
    simp [otaupdatePublishEarlyFailedStatus, earlyFailedTelemetry]
  | started cached core halg hresult hnext hcore hrequest =>
    have hfits : ∀ size, dev.writer.fwupdate.updatePartition = some size → cached.otaSize ≤ size := by
      intro size hsize
      have hfits := otaupdateDoNegotiate_fits hdo hresult hsize
      rwa [hnext] at hfits
    obtain ⟨hrequested, hdrawn, hwriter, text, hopening⟩ :=
      firstChunkRequest_draws (hcounter hcore) hrequest
    exact ⟨hwriter, _, hopening, .inr ⟨cached, text, true, [], hdrawn, (List.append_nil _).symm,
      by simp, .inr ⟨core.now, rfl, hrequested, hfits⟩⟩⟩
  | unsent cached core requested dev₁ halg hresult hnext hcore hrequest hconclude =>
    obtain ⟨hrequested, hdrawn, hwriter, text, hopening⟩ :=
      firstChunkRequest_draws (hcounter hcore) hrequest
    obtain ⟨rfl, hwriter', htrace'⟩ := otaupdateConcludeFailure_eq hconclude
    have hsteady := SameCounter.concludeFailure requested
      (otaupdatePublishEarlyFailedStatus session.config.otaType "Request OTA chunk failure!" dev₁)
    rw [hconclude] at hsteady
    have hidle : requested.busy = false := by
      rw [hrequested]
      simp [Otaupdate.busy, Otaupdate.started, OtaupdateState.idle]
    refine ⟨?_, _, ?_, .inr ⟨cached, text, false,
      earlyFailedTelemetry session "Request OTA chunk failure!" :: failureActions requested,
      hsteady.counter.trans hdrawn, rfl, ?_, .inl ?_⟩⟩
    · rw [hwriter', abortedWriter, if_neg (by simp [hidle])]
      exact hwriter
    · rw [htrace', otaupdatePublishEarlyFailedStatus, OtaDevice.log_trace, hopening,
        List.append_assoc, List.append_assoc]
      rfl
    · intro action hmem
      rcases List.mem_cons.mp hmem with rfl | hmem
      · rfl
      · exact unbooked_of_mem_failureActions hmem
    · rw [hrequested]
      rfl

theorem foldl_read_openingActions (session : Otaupdate) (cached : OtaupdateAttribute)
    (chunkRequestId : Nat) (text : String) (sent : Bool) (answers : OtaAnswers) (requestId : Nat)
    (books : OtaBooks) :
    (openingActions session cached answers ++
        [OtaAction.chunkRequest session.addr chunkRequestId 0 text sent]).foldl
        (OtaBooks.read requestId) books
      = books.opened session.addr chunkRequestId sent := by
  simp [openingActions, OtaBooks.read, OtaBooks.start, OtaBooks.amend, amendFirst, OtaBooks.opened,
    goingTelemetry]

/-- What a negotiation books: nothing, when the session is left alone or reset, or a download with
    the next id. -/
theorem otaupdateOnNegotiation_books {otaTitle : String}
    {otaVersion otaChecksum otaChecksumAlgorithm : Option String} {otaSize : Nat}
    {answers : OtaAnswers} {session session' : Otaupdate} {dev dev' : OtaDevice}
    (h : otaupdateOnNegotiation otaTitle otaVersion otaSize otaChecksum otaChecksumAlgorithm
      answers session dev = .ok (session', dev')) (requestId : Nat) (books : OtaBooks) :
    dev'.writer = dev.writer ∧ ∃ actions, dev'.trace = dev.trace ++ actions ∧
      ((dev'.core.nextRequestId = dev.core.nextRequestId ∧
          actions.foldl (OtaBooks.read requestId) books = books ∧
          (session' = session ∨ session' = otaupdateReset session)) ∨
        ∃ sent, dev'.core.nextRequestId = followingId dev.core.nextRequestId ∧
          actions.foldl (OtaBooks.read requestId) books
            = books.opened session.addr (followingId dev.core.nextRequestId).toNat sent ∧
          (session' = otaupdateReset session ∨
            ∃ cached timestamp, sent = true ∧
              session' = { session with
                otaAttribute := cached
                state := { OtaupdateState.idle with
                  requestId := (followingId dev.core.nextRequestId).toNat
                  timestamp := timestamp } } ∧
              ∀ size, dev.writer.fwupdate.updatePartition = some size →
                cached.otaSize ≤ size)) := by
  obtain ⟨hwriter, actions, htrace, ⟨hcounter, hunbooked, hsession⟩ |
    ⟨cached, text, sent, conclusion, hcounter, rfl, hunbooked, hsession⟩⟩ :=
    otaupdateOnNegotiation_draws h
  · exact ⟨hwriter, actions, htrace,
      .inl ⟨hcounter, foldl_read_of_unbooked hunbooked books, hsession⟩⟩
  · refine ⟨hwriter, _, htrace, .inr ⟨sent, hcounter, ?_, ?_⟩⟩
    · rw [List.foldl_append, foldl_read_openingActions, foldl_read_of_unbooked hunbooked]
    · rcases hsession with hreset | ⟨timestamp, hsent, hstarted, hfits⟩
      · exact .inl hreset
      · exact .inr ⟨cached, timestamp, hsent, hstarted, hfits⟩

end ThingsboardMqtt
