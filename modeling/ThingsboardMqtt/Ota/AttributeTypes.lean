import ThingsboardMqtt.Ota.Outcomes

set_option autoImplicit false

/-! # OTA attributes of any type

The five `fw_*` members of a JSON object may be absent or of any type, and the user's callbacks may
return `NULL`. Each layer checks some of this: `_otaupdate_on_fw_attributesupdate` that the members
are there, `__otaupdate_on_sharedattributes` that the title is a string, and the two functions that
negotiate check nothing. `SafelyTyped` is what is left to check: under it, and only under it, no
`NULL` is compared or copied and no download starts that should not. -/

namespace ThingsboardMqtt

open ListWalk

/-! ## Deliveries -/

/-- The ways in which attributes reach an F/W item. -/
inductive FwDelivery
  | update
  | response
  deriving DecidableEq, Repr

/-- `_otaupdate_on_fw_attributesrequest_response` -/
def otaupdateOnFwAttributesrequestResponse (sharedAttributes : Option Cjson) (answers : OtaAnswers)
    (world : OtaWorld) : Except Fault OtaWorld :=
  match sharedAttributes with
  | none => .ok world
  | some sharedAttributes => otaupdateOnFwAttributesupdate (some sharedAttributes) answers world

/-- The callback that an object is delivered to. -/
def FwDelivery.handle (object : Cjson) (answers : OtaAnswers) (world : OtaWorld) :
    FwDelivery → Except Fault OtaWorld
  | .update => otaupdateOnFwAttributesupdate (some object) answers world
  | .response => otaupdateOnFwAttributesrequestResponse (some object) answers world

theorem FwDelivery.handle_eq (delivery : FwDelivery) (object : Cjson) (answers : OtaAnswers)
    (world : OtaWorld) :
    delivery.handle object answers world
      = otaupdateOnFwAttributesupdate (some object) answers world := by
  cases delivery <;> rfl

/-- The version a message announces. -/
def announcedVersion (object : Cjson) : Option String :=
  Cjson.getStringValue (object.getObjectItem (otaAttributeKeys .fw).version)

/-- The checksum a message announces. -/
def announcedChecksum (object : Cjson) : Option String :=
  Cjson.getStringValue (object.getObjectItem (otaAttributeKeys .fw).checksum)

/-- The size a message announces, as the negotiation gets it. -/
def announcedSize (object : Cjson) (answers : OtaAnswers) : Nat :=
  toUint32 (intOfDouble answers.undefinedInt
    (Cjson.getNumberValue (object.getObjectItem (otaAttributeKeys .fw).size)))

/-! ## What a delivery may do -/

/-- A session waits for chunks. -/
def Otaupdate.active (session : Otaupdate) : Prop := 0 < session.state.requestId

/-- Title, version, checksum and algorithm are strings that allow a download for a session: the
    algorithm is CRC32, the title is the current one, the version is not, and the size fits. -/
structure MayStart (object : Cjson) (answers : OtaAnswers) (world : OtaWorld) (addr : Nat) :
    Prop where
  title : ∃ title, announcedTitle (some object) = some title ∧
    answers.currentTitle addr = some title
  version : ∃ version current, announcedVersion object = some version ∧
    answers.currentVersion addr = some current ∧ version ≠ current
  checksum : ∃ checksum, announcedChecksum object = some checksum
  algorithm : ∃ algorithm, announcedAlgorithm (some object) = some algorithm ∧
    strcaseEq algorithm "crc32" = true
  size : ∃ size, world.dev.writer.fwupdate.updatePartition = some size ∧
    announcedSize object answers ≤ size

/-- The chunk request of a session. -/
def OtaAction.requester : OtaAction → Option Nat
  | .chunkRequest owner _ _ _ _ => some owner
  | _ => none

/-- A delivery passes no `NULL` to a string function, and only a session that may start becomes active
    or sends a chunk request. -/
def HandledSafely (object : Cjson) (answers : OtaAnswers) (world : OtaWorld)
    (delivery : FwDelivery) : Prop :=
  ∃ world' actions, delivery.handle object answers world = .ok world' ∧
    world'.dev.trace = world.dev.trace ++ actions ∧
    (∀ session ∈ world'.otaupdateList, session.active →
      session ∈ world.otaupdateList ∨ MayStart object answers world session.addr) ∧
    ∀ action ∈ actions, ∀ owner, action.requester = some owner →
      MayStart object answers world owner

/-- What the code does not check: the algorithm of a message that is for a session is a string; where
    it is CRC32, the version is a string and the current version is not `NULL`; and where these
    differ, there is an update partition, and the size exceeds it or the checksum is a string. -/
def SafelyTyped (object : Cjson) (answers : OtaAnswers) (world : OtaWorld) : Prop :=
  ∀ session, announcedSession (some object) answers world = some session →
    ∃ algorithm, announcedAlgorithm (some object) = some algorithm ∧
      (strcaseEq algorithm "crc32" = true →
        ∃ version current, announcedVersion object = some version ∧
          answers.currentVersion session.addr = some current ∧
          (version = current ∨ ∃ size, world.dev.writer.fwupdate.updatePartition = some size ∧
            (size < announcedSize object answers ∨ (announcedChecksum object).isSome = true)))

/-! ## The negotiation -/

section

variable {title : String} {version checksum algorithm : Option String} {size : Nat}
  {answers : OtaAnswers} {session : Otaupdate} {dev : OtaDevice}

theorem otaFwupdateNegotiate_ok (fwupdate : Fwupdate) (title version current : String)
    (size errorSize : Nat) : ∃ result,
      otaFwupdateNegotiate fwupdate (some title) (some current) title (some version) size errorSize
        = .ok result := by
  simp only [otaFwupdateNegotiate]
  split
  · contradiction
  · split
    · exact ⟨_, rfl⟩
    · split
      · split <;> exact ⟨_, rfl⟩
      · exact ⟨_, rfl⟩

theorem otaFwupdateNegotiate_eq_ok {fwupdate : Fwupdate} {current : Option String}
    {errorSize : Nat} {result : OtaResult}
    (h : otaFwupdateNegotiate fwupdate (some title) current title version size errorSize
      = .ok result) :
    ∃ newVersion currentVersion, version = some newVersion ∧ current = some currentVersion ∧
      (result.result = 1 ↔ newVersion ≠ currentVersion ∧
        ∀ partition, fwupdate.updatePartition = some partition → size ≤ partition) := by
  simp only [otaFwupdateNegotiate] at h
  rw [if_neg (by simp)] at h
  cases version with
  | none => simp at h
  | some newVersion =>
    cases current with
    | none => simp at h
    | some currentVersion =>
      refine ⟨newVersion, currentVersion, rfl, rfl, ?_⟩
      simp only at h
      split at h
      · rename_i hsame
        obtain rfl := Except.ok.inj h
        simp [hsame]
      · rename_i hdiffer
        split at h
        · rename_i partition hpartition
          split at h
          · rename_i hbig
            obtain rfl := Except.ok.inj h
            simp [hpartition, hbig]
          · rename_i hfits
            obtain rfl := Except.ok.inj h
            simp [hpartition, hdiffer, Nat.le_of_not_lt hfits]
        · rename_i hpartition
          obtain rfl := Except.ok.inj h
          simp [hpartition, hdiffer]

theorem otaupdateOnNegotiation_ok {negotiation : OtaResult} {next : Otaupdate} {dev₁ : OtaDevice}
    (h : otaupdateDoNegotiate session title version size checksum algorithm answers dev
      = .ok (negotiation, next, dev₁)) :
    ∃ session' dev', otaupdateOnNegotiation title version size checksum algorithm answers session
      dev = .ok (session', dev') := by
  simp only [otaupdateOnNegotiation, h, bind, Except.bind]
  by_cases hone : negotiation.result = 1
  · rw [if_pos hone]
    generalize otaupdateChunkRequest _ _ _ _ = requested
    obtain ⟨sent, _, _⟩ := requested
    cases sent <;> exact ⟨_, _, rfl⟩
  · rw [if_neg hone]
    split <;> exact ⟨_, _, rfl⟩

/-- A negotiation that says 1 requests a chunk; without it nothing is requested, and the session is as
    it was or reset. -/
theorem otaupdateOnNegotiation_eq_ok {session' : Otaupdate} {dev' : OtaDevice}
    (h : otaupdateOnNegotiation title version size checksum algorithm answers session dev
      = .ok (session', dev')) :
    ∃ negotiation next dev₁ actions, otaupdateDoNegotiate session title version size checksum
        algorithm answers dev = .ok (negotiation, next, dev₁) ∧
      dev'.trace = dev.trace ++ actions ∧
      (negotiation.result = 1 ∧ session'.addr = session.addr ∧
          (∀ action ∈ actions, ∀ owner, action.requester = some owner → owner = session.addr) ∧
          (∃ action ∈ actions, action.requester = some session.addr) ∨
        negotiation.result ≠ 1 ∧ (session' = session ∨ session' = otaupdateReset session) ∧
          ∀ action ∈ actions, action.requester = none) := by
  obtain ⟨negotiation, next, dev₁, hdo, hsteps⟩ := otaupdateOnNegotiation_steps h
  refine ⟨negotiation, next, dev₁, ?_⟩
  cases hsteps with
  | unsupported halg hresult =>
    refine ⟨[.negotiate session.addr, earlyFailedTelemetry session
      (otaErrorText negotiation.otaError)], hdo, ?_, .inr ⟨by omega, .inl rfl, ?_⟩⟩
    · simp [otaupdatePublishEarlyFailedStatus, earlyFailedTelemetry]
    · simp [OtaAction.requester, earlyFailedTelemetry]
  | alreadyUpdated halg hresult =>
    refine ⟨[.negotiate session.addr, .negotiated session.addr 0 .empty], hdo, by simp,
      .inr ⟨by omega, .inr rfl, ?_⟩⟩
    simp [OtaAction.requester]
  | rejected halg hresult =>
    refine ⟨[.negotiate session.addr, .negotiated session.addr negotiation.result .empty,
      earlyFailedTelemetry session (otaErrorText negotiation.otaError)], hdo, ?_,
      .inr ⟨hresult, .inr rfl, ?_⟩⟩
    · simp [otaupdatePublishEarlyFailedStatus, earlyFailedTelemetry]
    · simp [OtaAction.requester, earlyFailedTelemetry]
  | started cached core halg hresult hnext hcore hrequest =>
    obtain ⟨requestId, timestamp, -, rfl, -, text, htrace⟩ := otaupdateChunkRequest_first hrequest
    refine ⟨[.negotiate session.addr, .negotiated session.addr 1 cached,
      goingTelemetry session "DOWNLOADING" answers,
      .chunkRequest session.addr requestId 0 text true], hdo, ?_, .inl ⟨hresult, rfl, ?_, ?_⟩⟩
    · rw [htrace]
      simp [OtaDevice.negotiated, goingTelemetry, otaupdateReset, OtaupdateState.idle]
    · simp [OtaAction.requester, goingTelemetry]
    · exact ⟨.chunkRequest session.addr requestId 0 text true, by simp, rfl⟩
  | unsent cached core requested dev₁ halg hresult hnext hcore hrequest hconclude =>
    obtain ⟨requestId, timestamp, -, rfl, -, text, htrace⟩ := otaupdateChunkRequest_first hrequest
    obtain ⟨rfl, -, htrace'⟩ := otaupdateConcludeFailure_eq hconclude
    refine ⟨[.negotiate session.addr, .negotiated session.addr 1 cached,
      goingTelemetry session "DOWNLOADING" answers,
      .chunkRequest session.addr requestId 0 text false,
      earlyFailedTelemetry session "Request OTA chunk failure!",
      .otaUpdated session.addr false], hdo, ?_, .inl ⟨hresult, rfl, ?_, ?_⟩⟩
    · rw [htrace', otaupdatePublishEarlyFailedStatus, OtaDevice.log_trace, htrace]
      simp [OtaDevice.negotiated, earlyFailedTelemetry, goingTelemetry, otaupdateReset,
        OtaupdateState.idle, failureActions, Otaupdate.busy]
    · simp [OtaAction.requester, goingTelemetry, earlyFailedTelemetry]
    · exact ⟨.chunkRequest session.addr requestId 0 text false, by simp, rfl⟩

variable (htitle : answers.currentTitle session.addr = some title)

include htitle

/-- What a negotiation without a fault has found. -/
theorem otaupdateDoNegotiate_eq_ok {negotiation : OtaResult} {session' : Otaupdate}
    {dev' : OtaDevice}
    (h : otaupdateDoNegotiate session title version size checksum algorithm answers dev
      = .ok (negotiation, session', dev')) :
    ∃ algorithm', algorithm = some algorithm' ∧
      (strcaseEq algorithm' "crc32" = false ∧ negotiation.result = -1 ∨
        strcaseEq algorithm' "crc32" = true ∧ ∃ newVersion current, version = some newVersion ∧
          answers.currentVersion session.addr = some current ∧
          (negotiation.result = 1 ↔ newVersion ≠ current ∧ ∀ partition,
            dev.writer.fwupdate.updatePartition = some partition → size ≤ partition) ∧
          (negotiation.result = 1 → checksum.isSome = true)) := by
  obtain ⟨algorithm', halgorithm, ⟨hcrc, hres, -, -⟩ | ⟨hcrc, hanswer, hchecksum⟩⟩ :=
    otaupdateDoNegotiate_cases h
  · exact ⟨algorithm', halgorithm, .inl ⟨hcrc, hres⟩⟩
  rw [htitle] at hanswer
  obtain ⟨newVersion, current, hnew, hcurrent, hone⟩ := otaFwupdateNegotiate_eq_ok hanswer
  refine ⟨algorithm', halgorithm, .inr ⟨hcrc, newVersion, current, hnew, hcurrent, hone, ?_⟩⟩
  intro hresult
  rcases hchecksum with ⟨hres, -⟩ | ⟨cached, -, hsome, -⟩
  · exact absurd hresult hres
  · exact hsome

theorem otaupdateDoNegotiate_ok {algorithm' : String} (halgorithm : algorithm = some algorithm')
    (hstrings : strcaseEq algorithm' "crc32" = true → ∃ newVersion current,
      version = some newVersion ∧ answers.currentVersion session.addr = some current ∧
      (newVersion = current ∨ (∃ partition, dev.writer.fwupdate.updatePartition = some partition ∧
        partition < size) ∨ checksum.isSome = true)) :
    ∃ negotiation session' dev', otaupdateDoNegotiate session title version size checksum algorithm
      answers dev = .ok (negotiation, session', dev') := by
  subst halgorithm
  cases hcrc : strcaseEq algorithm' "crc32" with
  | false => simp [otaupdateDoNegotiate, hcrc]
  | true =>
  obtain ⟨newVersion, current, rfl, hcurrent, hallowed⟩ := hstrings hcrc
  simp only [otaupdateDoNegotiate, hcrc, Bool.not_true, Bool.false_eq_true, if_false]
  have hreset : (otaupdateReset session).addr = session.addr := rfl
  have hwriter : (dev.log (.negotiate session.addr)).writer = dev.writer := rfl
  rw [hreset, htitle, hwriter, hcurrent]
  obtain ⟨answer, hanswer⟩ := otaFwupdateNegotiate_ok dev.writer.fwupdate title newVersion
    current size otaErrorSize
  obtain ⟨_, _, hnew, hcur, hone⟩ := otaFwupdateNegotiate_eq_ok hanswer
  obtain rfl := Option.some.inj hnew
  obtain rfl := Option.some.inj hcur
  rw [hanswer]
  simp only [bind, Except.bind]
  by_cases hresult : answer.result = 1
  · rw [if_pos hresult]
    obtain ⟨hdiffer, hfits⟩ := hone.mp hresult
    rcases hallowed with hsame | ⟨partition, hpartition, hlt⟩ | hchecksum
    · exact absurd hsame hdiffer
    · exact absurd (hfits partition hpartition) (Nat.not_le.mpr hlt)
    · obtain ⟨checksum', rfl⟩ := Option.isSome_iff_exists.mp hchecksum
      exact ⟨_, _, _, rfl⟩
  · rw [if_neg hresult]
    exact ⟨_, _, _, rfl⟩

end

/-! ## The message -/

theorem announcedSession_title {object : Option Cjson} {answers : OtaAnswers} {world : OtaWorld}
    {session : Otaupdate} (h : announcedSession object answers world = some session) :
    ∃ title, announcedTitle object = some title ∧ answers.currentTitle session.addr = some title := by
  obtain ⟨title, htitle, hfound⟩ := Option.bind_eq_some_iff.mp h
  obtain ⟨⟨front, found, back⟩, hsplit, rfl⟩ := Option.map_eq_some_iff.mp hfound
  obtain ⟨-, hmatch, -⟩ := splitFirst_eq_some hsplit
  simp only [Otaupdate.matchesTitle, Bool.and_eq_true, decide_eq_true_eq] at hmatch
  exact ⟨title, htitle, hmatch.2⟩

/-- A message that is for no session has no fault. -/
theorem otaupdateOnFwAttributesupdate_of_none {object : Cjson} {answers : OtaAnswers}
    {world : OtaWorld} (h : announcedSession (some object) answers world = none) :
    ∃ world', otaupdateOnFwAttributesupdate (some object) answers world = .ok world' := by
  simp only [otaupdateOnFwAttributesupdate, otaupdateOnAttributesupdate]
  split
  · rename_i hkeys
    cases hvalue : Cjson.getStringValue (object.getObjectItem (otaAttributeKeys .fw).title) with
    | none => exact ⟨_, rfl⟩
    | some title =>
      have htitle : announcedTitle (some object) = some title := by
        simp [announcedTitle, hkeys, hvalue]
      rw [announcedSession, htitle, Option.bind_some, Option.map_eq_none_iff] at h
      simp only [otaupdateOnSharedattributes, h]
      exact ⟨_, rfl⟩
  · exact ⟨_, rfl⟩

/-- A message that is for a session is negotiated with that session. -/
theorem otaupdateOnFwAttributesupdate_of_some {object : Cjson} {answers : OtaAnswers}
    {world : OtaWorld} {session : Otaupdate}
    (h : announcedSession (some object) answers world = some session) :
    ∃ title front back, answers.currentTitle session.addr = some title ∧
      announcedTitle (some object) = some title ∧
      world.otaupdateList = front ++ session :: back ∧
      otaupdateOnFwAttributesupdate (some object) answers world
        = (otaupdateOnNegotiation title (announcedVersion object) (announcedSize object answers)
            (announcedChecksum object) (announcedAlgorithm (some object)) answers session
            world.dev).map fun result =>
              { world with
                otaupdateList := front ++ result.1 :: back
                dev := result.2 } := by
  obtain ⟨title, htitle, hcurrent⟩ := announcedSession_title h
  rw [announcedSession, htitle, Option.bind_some] at h
  obtain ⟨⟨front, found, back⟩, hsplit, rfl⟩ := Option.map_eq_some_iff.mp h
  obtain ⟨hlist, -, -⟩ := splitFirst_eq_some hsplit
  refine ⟨title, front, back, hcurrent, htitle, hlist, ?_⟩
  rw [announcedTitle, Option.bind_some] at htitle
  split at htitle
  · rename_i hkeys
    simp only [otaupdateOnFwAttributesupdate, otaupdateOnAttributesupdate, hkeys, if_true, htitle,
      otaupdateOnSharedattributes, hsplit]
    rfl
  · exact absurd htitle (by simp)

/-- The negotiation of a session starts a download only where it may. -/
theorem mayStart_of_started {object : Cjson} {answers : OtaAnswers} {world : OtaWorld}
    {session session' : Otaupdate} {title : String} {negotiation : OtaResult} {dev' : OtaDevice}
    (hsafe : SafelyTyped object answers world)
    (hannounced : announcedSession (some object) answers world = some session)
    (htitle : announcedTitle (some object) = some title)
    (hcurrent : answers.currentTitle session.addr = some title)
    (hdo : otaupdateDoNegotiate session title (announcedVersion object)
      (announcedSize object answers) (announcedChecksum object) (announcedAlgorithm (some object))
      answers world.dev = .ok (negotiation, session', dev'))
    (hone : negotiation.result = 1) : MayStart object answers world session.addr := by
  obtain ⟨algorithm, halgorithm, ⟨-, hfail⟩ | ⟨hcrc, version, current, hversion, hcurrentVersion,
    hstart, hchecksum⟩⟩ := otaupdateDoNegotiate_eq_ok hcurrent hdo
  · omega
  obtain ⟨hdiffer, hfits⟩ := hstart.mp hone
  refine ⟨⟨title, htitle, hcurrent⟩, ⟨version, current, hversion, hcurrentVersion, hdiffer⟩,
    Option.isSome_iff_exists.mp (hchecksum hone), ⟨algorithm, halgorithm, hcrc⟩, ?_⟩
  obtain ⟨algorithm', halgorithm', htyped⟩ := hsafe session hannounced
  obtain rfl : algorithm = algorithm' := Option.some.inj (halgorithm.symm.trans halgorithm')
  obtain ⟨version', current', hversion', hcurrent', hallowed⟩ := htyped hcrc
  obtain rfl : version = version' := Option.some.inj (hversion.symm.trans hversion')
  obtain rfl : current = current' := Option.some.inj (hcurrentVersion.symm.trans hcurrent')
  obtain hsame | ⟨size, hpartition, -⟩ := hallowed
  · exact absurd hsame hdiffer
  · exact ⟨size, hpartition, hfits size hpartition⟩

/-- Attributes of any type are handled safely exactly when the unchecked members are typed. -/
theorem handledSafely_iff (object : Cjson) (answers : OtaAnswers) (world : OtaWorld)
    (delivery : FwDelivery) :
    HandledSafely object answers world delivery ↔ SafelyTyped object answers world := by
  unfold HandledSafely
  rw [delivery.handle_eq]
  constructor
  · rintro ⟨world', actions, hhandle, htrace, -, hrequester⟩ session hannounced
    obtain ⟨title, front, back, hcurrent, htitle, hlist, hmap⟩ :=
      otaupdateOnFwAttributesupdate_of_some hannounced
    rw [hmap] at hhandle
    cases hneg : otaupdateOnNegotiation title (announcedVersion object)
        (announcedSize object answers) (announcedChecksum object)
        (announcedAlgorithm (some object)) answers session world.dev with
    | error fault => simp [hneg, Except.map] at hhandle
    | ok result =>
    obtain ⟨session', dev'⟩ := result
    simp only [hneg, Except.map, Except.ok.injEq] at hhandle
    subst hhandle
    obtain ⟨negotiation, next, dev₁, actions', hdo, htrace', houtcome⟩ :=
      otaupdateOnNegotiation_eq_ok hneg
    obtain rfl : actions = actions' := List.append_cancel_left (htrace.symm.trans htrace')
    obtain ⟨algorithm, halgorithm, hfound⟩ := otaupdateDoNegotiate_eq_ok hcurrent hdo
    refine ⟨algorithm, halgorithm, ?_⟩
    intro hcrc
    obtain ⟨hother, -⟩ | ⟨-, version, current, hversion, hcurrentVersion, hstart, hchecksum⟩ :=
      hfound
    · rw [hcrc] at hother
      contradiction
    refine ⟨version, current, hversion, hcurrentVersion, ?_⟩
    by_cases hsame : version = current
    · exact .inl hsame
    right
    obtain ⟨hone, -, -, action, hmem, howner⟩ | ⟨hnone, -⟩ := houtcome
    · -- a download was started, so the partition was there
      obtain ⟨size, hpartition, -⟩ := (hrequester action hmem _ howner).size
      exact ⟨size, hpartition, .inr (hchecksum hone)⟩
    · -- the versions differ and no download was started, so the size was too big
      by_contra hno
      refine hnone (hstart.mpr ⟨hsame, ?_⟩)
      intro partition hpartition
      exact Nat.le_of_not_lt fun hlt => hno ⟨partition, hpartition, .inl hlt⟩
  · intro hsafe
    cases hannounced : announcedSession (some object) answers world with
    | none =>
      obtain ⟨world', hhandle⟩ := otaupdateOnFwAttributesupdate_of_none hannounced
      obtain ⟨-, rfl⟩ | ⟨-, -, rfl⟩ | ⟨_, session, _, _, _, -, hsome, -⟩ :=
        otaupdateOnFwAttributesupdate_cases hhandle
      · exact ⟨_, [], hhandle, by simp, fun session hmem _ => .inl hmem, by simp⟩
      · exact ⟨_, _, hhandle, rfl, fun session hmem _ => .inl hmem,
          by simp [OtaAction.requester]⟩
      · rw [hannounced] at hsome
        contradiction
    | some session =>
    obtain ⟨title, front, back, hcurrent, htitle, hlist, hmap⟩ :=
      otaupdateOnFwAttributesupdate_of_some hannounced
    obtain ⟨algorithm, halgorithm, htyped⟩ := hsafe session hannounced
    have hstrings : strcaseEq algorithm "crc32" = true → ∃ version current,
        announcedVersion object = some version ∧
        answers.currentVersion session.addr = some current ∧
        (version = current ∨ (∃ size, world.dev.writer.fwupdate.updatePartition = some size ∧
          size < announcedSize object answers) ∨ (announcedChecksum object).isSome = true) := by
      intro hcrc
      obtain ⟨version, current, hversion, hcurrentVersion, hallowed⟩ := htyped hcrc
      refine ⟨version, current, hversion, hcurrentVersion, ?_⟩
      obtain hsame | ⟨size, hpartition, hbig | hchecksum⟩ := hallowed
      · exact .inl hsame
      · exact .inr (.inl ⟨size, hpartition, hbig⟩)
      · exact .inr (.inr hchecksum)
    obtain ⟨negotiation, next, dev₁, hdo⟩ := otaupdateDoNegotiate_ok hcurrent halgorithm hstrings
    obtain ⟨session', dev', hneg⟩ := otaupdateOnNegotiation_ok hdo
    obtain ⟨negotiation', next', dev₁', actions, hdo', htrace, houtcome⟩ :=
      otaupdateOnNegotiation_eq_ok hneg
    obtain ⟨rfl, rfl, rfl⟩ : negotiation = negotiation' ∧ next = next' ∧ dev₁ = dev₁' := by
      simpa using hdo.symm.trans hdo'
    refine ⟨{ world with
      otaupdateList := front ++ session' :: back
      dev := dev' }, actions, ?_, htrace, ?_, ?_⟩
    · rw [hmap, hneg]
      rfl
    · intro found hmem hactive
      simp only [List.mem_append, List.mem_cons] at hmem
      rw [hlist]
      obtain hfront | rfl | hback := hmem
      · exact .inl (by simp [hfront])
      · obtain ⟨hone, haddr, -⟩ | ⟨-, rfl | rfl, -⟩ := houtcome
        · rw [haddr]
          exact .inr (mayStart_of_started hsafe hannounced htitle hcurrent hdo hone)
        · exact .inl (by simp)
        · exact absurd hactive (by simp [Otaupdate.active, otaupdateReset, OtaupdateState.idle])
      · exact .inl (by simp [hback])
    · intro action hmem owner howner
      obtain ⟨hone, -, howners, -⟩ | ⟨-, -, hnone⟩ := houtcome
      · rw [howners action hmem owner howner]
        exact mayStart_of_started hsafe hannounced htitle hcurrent hdo hone
      · rw [hnone action hmem] at howner
        contradiction

/-- The shared attributes of an update whose checksum algorithm is a number. -/
def untypedAttributes : Cjson :=
  .object [("fw_title", .string "app"), ("fw_version", .string "1.1"), ("fw_size", .number 20000),
    ("fw_checksum", .string "0"), ("fw_checksum_algorithm", .number 32)]

/-- `strcasecmp` gets `NULL` as the algorithm. -/
theorem handledSafely_fails_untypedAttributes :
    ¬ ∀ object answers world delivery, HandledSafely object answers world delivery := by
  intro hall
  obtain ⟨world', -, hhandle, -⟩ := hall untypedAttributes sampleAnswers sampleWorld .update
  have hfault : FwDelivery.update.handle untypedAttributes sampleAnswers sampleWorld
      = .error .nullString := rfl
  rw [hfault] at hhandle
  contradiction

end ThingsboardMqtt
