import ThingsboardMqtt.Ota.Outcomes

set_option autoImplicit false

/-! # What the OTA items do to the shared client

They hand out request ids and subscribe or unsubscribe the topic of the chunk responses. The
connection, the clock and every other topic are left alone (`Quiet`), and the items stay what they
are, so the rest of the helper need not look into an OTA event. -/

namespace ThingsboardMqtt

open ListWalk

/-- The client behind an OTA event. -/
structure Quiet (core core' : Core) : Prop where
  state : core'.state = core.state
  now : core'.now = core.now
  sent : ∃ packets, core'.sent = core.sent ++ packets ∧
    ∀ packet ∈ packets, packet = .subscribe .fwResponse ∨ packet = .unsubscribe .fwResponse

namespace Quiet

theorem refl (core : Core) : Quiet core core := ⟨rfl, rfl, [], by simp, by simp⟩

theorem trans {core₁ core₂ core₃ : Core} (h : Quiet core₁ core₂) (h' : Quiet core₂ core₃) :
    Quiet core₁ core₃ := by
  obtain ⟨packets, hsent, hpackets⟩ := h.sent
  obtain ⟨packets', hsent', hpackets'⟩ := h'.sent
  refine ⟨h'.state.trans h.state, h'.now.trans h.now, packets ++ packets', ?_, ?_⟩
  · rw [hsent', hsent, List.append_assoc]
  · intro packet hmem
    exact (List.mem_append.mp hmem).elim (hpackets packet) (hpackets' packet)

theorem subscribe (core : Core) : Quiet core (tbcmSubscribe core .fwResponse) :=
  ⟨rfl, rfl, [_], rfl, by simp⟩

theorem unsubscribe (core : Core) : Quiet core (tbcmUnsubscribe core .fwResponse) :=
  ⟨rfl, rfl, [_], rfl, by simp⟩

theorem requestId (core : Core) : Quiet core (tbcmhGetRequestId core).2 :=
  ⟨rfl, rfl, [], by simp [tbcmhGetRequestId], by simp⟩

end Quiet

/-! ## Registration -/

theorem tbcmhOtaupdateSubscribe_core (otaDescription : String) (otaType : TbcmhOtaupdateType)
    (nextUpdatePartition : Option Nat) (world : OtaWorld) :
    (tbcmhOtaupdateSubscribe otaDescription otaType nextUpdatePartition world).2.dev.core
      = world.dev.core := by
  cases otaType with
  | sw => rfl
  | fw => cases nextUpdatePartition <;> rfl

theorem tbcmhOtaupdateUnsubscribe_core (otaDescription : String) (world : OtaWorld) :
    (tbcmhOtaupdateUnsubscribe otaDescription world).2.dev.core = world.dev.core := by
  obtain ⟨otaupdateList, -, hworld⟩ := tbcmhOtaupdateUnsubscribe_sublist otaDescription world
  rw [hworld]

/-! ## One session -/

theorem otaupdateDoUpdated_quiet (session : Otaupdate) (success : Bool) (dev : OtaDevice) :
    Quiet dev.core (otaupdateDoUpdated session success dev).core := by
  simp only [otaupdateDoUpdated, OtaDevice.log]
  split
  · exact .unsubscribe _
  · exact .refl _

theorem otaupdateDoAbort_core (session : Otaupdate) (dev : OtaDevice) :
    (otaupdateDoAbort session dev).core = dev.core := by
  simp only [otaupdateDoAbort, OtaDevice.log]
  split <;> rfl

theorem otaupdateConcludeFailure_quiet (session : Otaupdate) (dev : OtaDevice) :
    Quiet dev.core (otaupdateConcludeFailure session dev).2.core := by
  have hupdated := otaupdateDoUpdated_quiet (otaupdateReset session) false
    (otaupdateDoAbort session dev)
  rw [otaupdateDoAbort_core] at hupdated
  exact hupdated

theorem otaupdateChunkRequest_quiet (session : Otaupdate) (isFirstChunk : Bool)
    (answers : OtaAnswers) (dev : OtaDevice) :
    Quiet dev.core (otaupdateChunkRequest session isFirstChunk answers dev).2.2.core := by
  cases isFirstChunk with
  | true => exact .requestId _
  | false => exact .refl _

theorem otaupdateDoWrite_core (crc : CrcRoutine) (session : Otaupdate) (chunkId : Nat)
    (otaData : List UInt8) (answers : OtaAnswers) (dev : OtaDevice) :
    (otaupdateDoWrite crc session chunkId otaData answers dev).2.2.core = dev.core := by
  simp only [otaupdateDoWrite, OtaDevice.log]
  split
  · rfl
  split
  · rfl
  split <;> rfl

theorem otaupdateDoEnd_core (session : Otaupdate) (answers : OtaAnswers) (dev : OtaDevice) :
    (otaupdateDoEnd session answers dev).2.core = dev.core := by
  simp only [otaupdateDoEnd, OtaDevice.log]
  split <;> rfl

theorem otaupdateComplete_quiet (session : Otaupdate) (answers : OtaAnswers) (dev : OtaDevice) :
    Quiet dev.core (otaupdateComplete session answers dev).2.core := by
  simp only [otaupdateComplete]
  split
  · cases hend : otaupdateDoEnd session answers (otaupdatePublishGoingStatus session "UPDATING"
        answers (otaupdatePublishGoingStatus session "VERIFIED" answers
          (otaupdatePublishGoingStatus session "DOWNLOADED" answers dev))) with
    | mk ended dev₁ =>
      have hcore : dev₁.core = dev.core := by
        rw [← congrArg (·.2.core) hend]
        exact otaupdateDoEnd_core _ _ _
      rw [← hcore]
      dsimp only
      split
      · exact otaupdateDoUpdated_quiet _ true (otaupdatePublishUpdatedStatus session dev₁)
      · exact otaupdateConcludeFailure_quiet session
          (otaupdatePublishLateFailedStatus session _ dev₁)
  · exact otaupdateConcludeFailure_quiet session (otaupdatePublishLateFailedStatus session _
      (otaupdatePublishGoingStatus session _ answers dev))

theorem otaupdateOnChunk_quiet (crc : CrcRoutine) (chunkId : Nat) (payload : List UInt8)
    (answers : OtaAnswers) (session : Otaupdate) (dev : OtaDevice) :
    Quiet dev.core (otaupdateOnChunk crc chunkId payload answers session dev).2.core := by
  unfold otaupdateOnChunk
  cases hwrite : otaupdateDoWrite crc session chunkId payload answers dev with
  | mk written rest =>
  obtain ⟨session₁, dev₁⟩ := rest
  have hcore : dev₁.core = dev.core := by
    rw [← congrArg (·.2.2.core) hwrite]
    exact otaupdateDoWrite_core _ _ _ _ _ _
  have hfailure : ∀ text, Quiet dev.core (otaupdateConcludeFailure session₁
      (otaupdatePublishLateFailedStatus session₁ text dev₁)).2.core := by
    intro text
    rw [← hcore]
    exact otaupdateConcludeFailure_quiet session₁ (otaupdatePublishLateFailedStatus session₁ text dev₁)
  dsimp only
  split
  · split
    · exact hcore ▸ otaupdateComplete_quiet session₁ answers dev₁
    · cases hreq : otaupdateChunkRequest session₁ false answers dev₁ with
      | mk sent rest =>
      obtain ⟨session₂, dev₂⟩ := rest
      have hquiet : Quiet dev.core dev₂.core := by
        rw [← hcore, ← congrArg (·.2.2.core) hreq]
        exact otaupdateChunkRequest_quiet _ _ _ _
      dsimp only
      split
      · exact hquiet
      · exact hquiet.trans (otaupdateConcludeFailure_quiet session₂
          (otaupdatePublishLateFailedStatus session₂ _ dev₂))
  · split
    · exact hfailure _
    · exact hfailure _

theorem otaupdateCheckTimeout_quiet (timestamp : Nat) (session : Otaupdate) (dev : OtaDevice) :
    Quiet dev.core (otaupdateCheckTimeout timestamp session dev).2.core := by
  unfold otaupdateCheckTimeout
  split
  · exact otaupdateConcludeFailure_quiet session (otaupdatePublishLateFailedStatus session _ dev)
  · exact .refl _

theorem otaupdateOnNegotiation_quiet {otaTitle : String}
    {otaVersion otaChecksum otaChecksumAlgorithm : Option String} {otaSize : Nat}
    {answers : OtaAnswers} {session session' : Otaupdate} {dev dev' : OtaDevice}
    (h : otaupdateOnNegotiation otaTitle otaVersion otaSize otaChecksum otaChecksumAlgorithm
      answers session dev = .ok (session', dev')) : Quiet dev.core dev'.core := by
  obtain ⟨negotiation, next, -, -, hsteps⟩ := otaupdateOnNegotiation_steps h
  have hsubscribed : ∀ {core}, core = dev.core ∨ core = tbcmSubscribe dev.core .fwResponse →
      Quiet dev.core core := by
    rintro core (rfl | rfl)
    · exact .refl _
    · exact .subscribe _
  have hrequested : ∀ {next sent requested cached core dev₁}, otaupdateChunkRequest next true
      answers (otaupdatePublishGoingStatus next "DOWNLOADING" answers
        (dev.negotiated session cached core)) = (sent, requested, dev₁) →
      Quiet core dev₁.core := by
    intro next sent requested cached core dev₁ hrequest
    have hquiet := otaupdateChunkRequest_quiet next true answers (otaupdatePublishGoingStatus next
      "DOWNLOADING" answers (dev.negotiated session cached core))
    rwa [hrequest] at hquiet
  cases hsteps with
  | unsupported halg hresult => exact .refl _
  | alreadyUpdated halg hresult => exact .refl _
  | rejected halg hresult => exact .refl _
  | started cached core halg hresult hnext hcore hrequest =>
    exact (hsubscribed hcore).trans (hrequested hrequest)
  | unsent cached core requested dev₁ halg hresult hnext hcore hrequest hconclude =>
    have hconcluded := otaupdateConcludeFailure_quiet requested (otaupdatePublishEarlyFailedStatus
      session.config.otaType "Request OTA chunk failure!" dev₁)
    rw [hconclude] at hconcluded
    exact ((hsubscribed hcore).trans (hrequested hrequest)).trans hconcluded

/-! ## The events -/

theorem tbcmhOtaupdateOnChunkData_quiet (crc : CrcRoutine) (requestId chunkId : Nat)
    (payload : List UInt8) (answers : OtaAnswers) (world : OtaWorld) :
    Quiet world.dev.core
      (tbcmhOtaupdateOnChunkData crc requestId chunkId payload answers world).dev.core := by
  unfold tbcmhOtaupdateOnChunkData
  split
  · exact .refl _
  · exact otaupdateOnChunk_quiet crc chunkId payload answers _ world.dev

theorem tbcmhOtaupdateOnChunkCheckTimeout_quiet (timestamp : Nat) (world : OtaWorld) :
    Quiet world.dev.core (tbcmhOtaupdateOnChunkCheckTimeout timestamp world).dev.core := by
  let inv (_ _ : List Otaupdate) (dev : OtaDevice) : Prop := Quiet world.dev.core dev.core
  have hvisit : ∀ done session rest dev, inv done (session :: rest) dev →
      inv (done ++ [(otaupdateCheckTimeout timestamp session dev).1]) rest
        (otaupdateCheckTimeout timestamp session dev).2 :=
    fun _ session _ dev hinv => hinv.trans (otaupdateCheckTimeout_quiet timestamp session dev)
  exact foreachSafe_rule hvisit world.otaupdateList [] world.dev (.refl _)

/-! ## The items -/

/-- The client and the items behind an OTA event. -/
structure OtaQuiet (world world' : OtaWorld) : Prop where
  core : Quiet world.dev.core world'.dev.core
  items : world'.otaupdateList.map (·.config) = world.otaupdateList.map (·.config)

theorem map_config_replace {session session' : Otaupdate} (h : SameItem session session')
    (front back : List Otaupdate) :
    (front ++ session' :: back).map (·.config) = (front ++ session :: back).map (·.config) := by
  simp [h.config]

theorem OtaQuiet.refl (world : OtaWorld) : OtaQuiet world world := ⟨.refl _, rfl⟩

theorem otaupdateOnAttributesupdate_otaQuiet {otaType : TbcmhOtaupdateType} {object : Option Cjson}
    {answers : OtaAnswers} {world world' : OtaWorld}
    (h : otaupdateOnAttributesupdate otaType object answers world = .ok world') :
    OtaQuiet world world' := by
  rcases otaupdateOnAttributesupdate_negotiates h with (rfl | rfl) |
    ⟨front, session, back, session', dev', _, _, _, _, _, hlist, hneg, rfl⟩
  · exact .refl _
  · -- no item has the title: a failure is published, and telemetry is no packet of `sent`
    exact ⟨.refl _, rfl⟩
  · obtain ⟨-, actions, -, houtcome⟩ := otaupdateOnNegotiation_outcome hneg
    refine ⟨otaupdateOnNegotiation_quiet hneg, ?_⟩
    rw [hlist]
    exact map_config_replace houtcome.sameItem front back

theorem tbcmhOtaupdateOnChunkData_otaQuiet (crc : CrcRoutine) (requestId chunkId : Nat)
    (payload : List UInt8) (answers : OtaAnswers) (world : OtaWorld) :
    OtaQuiet world (tbcmhOtaupdateOnChunkData crc requestId chunkId payload answers world) := by
  refine ⟨tbcmhOtaupdateOnChunkData_quiet _ _ _ _ _ _, ?_⟩
  rcases tbcmhOtaupdateOnChunkData_cases crc requestId chunkId payload answers world with
    ⟨-, hsame⟩ | ⟨front, session, back, session', dev', actions, -, -, hlist, hworld, -, houtcome⟩
  · rw [hsame]
  · rw [hworld, hlist]
    exact map_config_replace houtcome.sameItem front back

theorem tbcmhOtaupdateOnChunkCheckTimeout_otaQuiet (timestamp : Nat) (world : OtaWorld) :
    OtaQuiet world (tbcmhOtaupdateOnChunkCheckTimeout timestamp world) := by
  refine ⟨tbcmhOtaupdateOnChunkCheckTimeout_quiet _ _, ?_⟩
  refine checkTimeout_rule (P := fun world' =>
    world'.otaupdateList.map (·.config) = world.otaupdateList.map (·.config)) ?_ timestamp rfl
  intro world' front back session session' dev' actions hitems hlist htrace houtcome
  rw [hlist] at hitems
  exact (map_config_replace houtcome.sameItem front back).trans hitems

end ThingsboardMqtt
