import ThingsboardMqtt.Ota.AttributeTypes

set_option autoImplicit false

/-! # Attributes that can be negotiated

The part of `SafelyTyped` that keeps the handling of the attributes of either type from a `NULL`
string. It reads the addresses and the types of the items and the update partition, which a message
of attributes leaves alone, so it can be asked of several messages before the first is handled. -/

namespace ThingsboardMqtt

open ListWalk

/-- The address of the item that an object with all five attributes of a type is for. -/
def announcedAddr (otaType : TbcmhOtaupdateType) (object : Cjson) (answers : OtaAnswers)
    (world : OtaWorld) : Option Nat :=
  if hasOtaAttributes (otaAttributeKeys otaType) object then
    (Cjson.getStringValue (object.getObjectItem (otaAttributeKeys otaType).title)).bind fun title =>
      (world.otaupdateList.find? (·.matchesTitle otaType title answers)).map (·.addr)
  else none

/-- What a negotiation with the item compares and copies is there: the algorithm; for CRC32 the
    version and the current one; and, where these differ and the size fits, the checksum. -/
def Negotiable (otaType : TbcmhOtaupdateType) (object : Cjson) (answers : OtaAnswers)
    (world : OtaWorld) : Prop :=
  let keys := otaAttributeKeys otaType
  ∀ addr, announcedAddr otaType object answers world = some addr →
    ∃ algorithm, Cjson.getStringValue (object.getObjectItem keys.checksumAlg) = some algorithm ∧
      (strcaseEq algorithm "crc32" = true → ∃ version current,
        Cjson.getStringValue (object.getObjectItem keys.version) = some version ∧
        answers.currentVersion addr = some current ∧
        (version = current ∨
          (∃ size, world.dev.writer.fwupdate.updatePartition = some size ∧
            size < toUint32 (intOfDouble answers.undefinedInt
              (Cjson.getNumberValue (object.getObjectItem keys.size)))) ∨
          (Cjson.getStringValue (object.getObjectItem keys.checksum)).isSome = true))

/-- A negotiation comes to its end exactly when the strings are there. -/
theorem otaupdateOnNegotiation_ok_iff {title : String} {version checksum algorithm : Option String}
    {size : Nat} {answers : OtaAnswers} {session : Otaupdate} {dev : OtaDevice}
    (htitle : answers.currentTitle session.addr = some title) :
    (∃ result, otaupdateOnNegotiation title version size checksum algorithm answers session dev
        = .ok result) ↔
      ∃ algorithm', algorithm = some algorithm' ∧ (strcaseEq algorithm' "crc32" = true →
        ∃ newVersion current, version = some newVersion ∧
          answers.currentVersion session.addr = some current ∧
          (newVersion = current ∨
            (∃ partition, dev.writer.fwupdate.updatePartition = some partition ∧ partition < size) ∨
            checksum.isSome = true)) := by
  constructor
  · rintro ⟨⟨session', dev'⟩, hok⟩
    obtain ⟨negotiation, next, dev₁, -, hdo, -, -⟩ := otaupdateOnNegotiation_eq_ok hok
    obtain ⟨algorithm', halgorithm, hfound⟩ := otaupdateDoNegotiate_eq_ok htitle hdo
    refine ⟨algorithm', halgorithm, ?_⟩
    intro hcrc
    obtain ⟨hother, -⟩ | ⟨-, newVersion, current, hversion, hcurrent, hstart, hchecksum⟩ := hfound
    · exact absurd (hcrc.symm.trans hother) (by simp)
    refine ⟨newVersion, current, hversion, hcurrent, ?_⟩
    by_contra hnone
    rw [not_or, not_or] at hnone
    obtain ⟨hdiffer, hbig, hmissing⟩ := hnone
    refine hmissing (hchecksum (hstart.mpr ⟨hdiffer, ?_⟩))
    intro partition hpartition
    exact Nat.le_of_not_lt fun hlt => hbig ⟨partition, hpartition, hlt⟩
  · rintro ⟨algorithm', halgorithm, hstrings⟩
    obtain ⟨negotiation, next, dev₁, hdo⟩ := otaupdateDoNegotiate_ok htitle halgorithm hstrings
    obtain ⟨session', dev', hok⟩ := otaupdateOnNegotiation_ok hdo
    exact ⟨(session', dev'), hok⟩

/-- An item gets attributes without a fault exactly when the strings are there. -/
theorem otaupdateOnAttributesupdate_ok_iff (otaType : TbcmhOtaupdateType) (object : Cjson)
    (answers : OtaAnswers) (world : OtaWorld) :
    (∃ world', otaupdateOnAttributesupdate otaType (some object) answers world = .ok world') ↔
      Negotiable otaType object answers world := by
  simp only [otaupdateOnAttributesupdate, Negotiable, announcedAddr]
  by_cases hkeys : hasOtaAttributes (otaAttributeKeys otaType) object = true
  · simp only [hkeys, if_true]
    cases Cjson.getStringValue (object.getObjectItem (otaAttributeKeys otaType).title) with
    | none => simp [otaupdateOnSharedattributes]
    | some title =>
      simp only [Option.bind_some, otaupdateOnSharedattributes]
      rw [← splitFirst_map_eq_find?]
      cases hsplit : splitFirst (·.matchesTitle otaType title answers) world.otaupdateList with
      | none => simp
      | some parts =>
        obtain ⟨front, session, back⟩ := parts
        obtain ⟨-, hmatch, -⟩ := splitFirst_eq_some hsplit
        simp only [Otaupdate.matchesTitle, Bool.and_eq_true, decide_eq_true_eq] at hmatch
        simp only [Option.map_some, Option.some.injEq, forall_eq']
        rw [← otaupdateOnNegotiation_ok_iff hmatch.2]
        generalize otaupdateOnNegotiation _ _ _ _ _ _ _ _ = negotiated
        cases negotiated with
        | error fault => simp [bind, Except.bind]
        | ok result => simp [bind, Except.bind]
  · simp [hkeys]

/-- The items and the writer, as far as `Negotiable` reads them. -/
structure SameOffers (world world' : OtaWorld) : Prop where
  items : world'.otaupdateList.map (fun session => (session.addr, session.config.otaType))
    = world.otaupdateList.map fun session => (session.addr, session.config.otaType)
  fwupdate : world'.dev.writer.fwupdate = world.dev.writer.fwupdate

theorem SameOffers.refl (world : OtaWorld) : SameOffers world world := ⟨rfl, rfl⟩

theorem SameOffers.trans {world₁ world₂ world₃ : OtaWorld} (h : SameOffers world₁ world₂)
    (h' : SameOffers world₂ world₃) : SameOffers world₁ world₃ :=
  ⟨h'.items.trans h.items, h'.fwupdate.trans h.fwupdate⟩

/-- A message of attributes leaves the items as they are for the next one. -/
theorem SameOffers.onAttributesupdate {otaType : TbcmhOtaupdateType} {object : Option Cjson}
    {answers : OtaAnswers} {world world' : OtaWorld}
    (h : otaupdateOnAttributesupdate otaType object answers world = .ok world') :
    SameOffers world world' := by
  rcases otaupdateOnAttributesupdate_negotiates h with (rfl | rfl) |
    ⟨front, session, back, session', dev', _, _, _, _, _, hlist, hneg, rfl⟩
  · exact .refl _
  · exact ⟨rfl, rfl⟩
  · obtain ⟨hwriter, actions, -, houtcome⟩ := otaupdateOnNegotiation_outcome hneg
    refine ⟨?_, congrArg FwWriter.fwupdate hwriter⟩
    rw [hlist]
    simp [houtcome.sameItem.config, houtcome.sameItem.addr]

/-- Two worlds with the same offers find the same item. -/
theorem SameOffers.announcedAddr {world world' : OtaWorld} (h : SameOffers world world')
    (otaType : TbcmhOtaupdateType) (object : Cjson) (answers : OtaAnswers) :
    announcedAddr otaType object answers world' = announcedAddr otaType object answers world := by
  have hfind : ∀ (title : String) (l : List Otaupdate),
      (l.find? (·.matchesTitle otaType title answers)).map (·.addr)
        = ((l.map fun session => (session.addr, session.config.otaType)).find? fun offer =>
            offer.2 = otaType && answers.currentTitle offer.1 = some title).map (·.1) := by
    intro title l
    rw [List.find?_map, Option.map_map]
    rfl
  simp only [ThingsboardMqtt.announcedAddr, hfind, h.items]

theorem SameOffers.negotiable_iff {world world' : OtaWorld} (h : SameOffers world world')
    (otaType : TbcmhOtaupdateType) (object : Cjson) (answers : OtaAnswers) :
    Negotiable otaType object answers world' ↔ Negotiable otaType object answers world := by
  simp only [Negotiable, h.announcedAddr, h.fwupdate]

end ThingsboardMqtt
