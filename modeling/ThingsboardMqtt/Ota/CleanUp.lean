import ThingsboardMqtt.Ota.Outcomes
import ThingsboardMqtt.Ota.WriterLaws

set_option autoImplicit false

/-! # Clean-up of the writer

The writer is dirty while a handle is open or the header counts as checked. Every way a session can
end has to leave it clean, so that the next session starts with the header check and
`esp_ota_begin`.

The counter of sessions whose abort would run (`busy`) and the writer go together: none and clean,
or one and open (`Balanced`). Steps that break this are those where the code leaves a session
without the guarded abort (a negotiation, an unsubscription, a subscription during a download), or
where the guard says no although the writer was used: a first chunk whose `esp_ota_begin` or
`esp_ota_write` fails, a chunk for an idle session, and a counter of received bytes that overflows
to zero. A session that starts while another one writes shares its handle. `TidyInput` excludes
these steps. -/

namespace ThingsboardMqtt

open Execution ListWalk

/-- An active F/W session that has received something. -/
def Otaupdate.downloads (session : Otaupdate) : Bool :=
  session.config.otaType = .fw && session.busy

/-- A dirty writer belongs to exactly one active download. -/
def CleanedUp (world : OtaWorld) : Prop :=
  world.dev.writer.dirty = true → world.otaupdateList.countP Otaupdate.downloads = 1

/-- The session an unsubscription removes. -/
def removedSession (otaDescription : String) (world : OtaWorld) : Option Otaupdate :=
  (splitFirst (fun session => session.otaDescription = otaDescription) world.otaupdateList).map
    (·.2.1)

/-- A chunk that is written makes its session busy, except beside a busy session; a first chunk that
    passes the header check is written. `busy` is the number of busy sessions. -/
def TidyChunk (busy : Nat) (session : Otaupdate) (payload : List UInt8)
    (answers : FwAnswers) : Prop :=
  if session.busy = true then answers.otaWrite = none → session.busyWith payload = true
  else if 0 < busy then answers.otaWrite = none → session.busyWith payload = false
  else
    imageHeaderError payload answers = none →
      answers.otaBegin = none ∧ answers.otaWrite = none ∧ session.busyWith payload = true

/-- A session is left only without received bytes, the writer is initialized only when no session
    is busy, and a chunk that is written is counted. -/
def TidyInput (world : OtaWorld) : OtaInput → Prop
  | .subscribe _ .fw _ => ∀ session ∈ world.otaupdateList, session.busy = false
  | .subscribe _ .sw _ => True
  | .unsubscribe otaDescription =>
    ∀ session ∈ removedSession otaDescription world, session.busy = false
  | .event (.sharedAttributes object answers) =>
    ∀ session ∈ announcedSession object answers world,
      supportedAlgorithm (announcedAlgorithm object) = true → session.busy = false
  | .event (.chunkData requestId chunkId payload answers) =>
    ∀ session ∈ addressedSession requestId world, session.feeds chunkId payload →
      TidyChunk (world.otaupdateList.countP Otaupdate.busy) session payload answers.fw
  | .event _ => True

instance (world : OtaWorld) : Decidable (CleanedUp world) :=
  inferInstanceAs (Decidable (_ → _))

instance (busy : Nat) (session : Otaupdate) (payload : List UInt8) (answers : FwAnswers) :
    Decidable (TidyChunk busy session payload answers) := by
  unfold TidyChunk
  infer_instance

instance (world : OtaWorld) : ∀ input : OtaInput, Decidable (TidyInput world input)
  | .subscribe _ .fw _ =>
    inferInstanceAs (Decidable (∀ session ∈ world.otaupdateList, session.busy = false))
  | .subscribe _ .sw _ => inferInstanceAs (Decidable True)
  | .unsubscribe otaDescription =>
    inferInstanceAs (Decidable (∀ session ∈ removedSession otaDescription world, _))
  | .event (.sharedAttributes object answers) =>
    inferInstanceAs (Decidable (∀ session ∈ announcedSession object answers world, _ → _))
  | .event (.chunkData requestId _ _ _) =>
    inferInstanceAs (Decidable (∀ session ∈ addressedSession requestId world, _ → _))
  | .event (.checkTimeout _) => inferInstanceAs (Decidable True)
  | .event .disconnected => inferInstanceAs (Decidable True)
  | .event (.environment _) => inferInstanceAs (Decidable True)

/-! ## The balance of sessions and writer -/

/-- `n` busy sessions go with this writer. -/
def Balanced (n : Nat) (writer : FwWriter) : Prop :=
  (n = 0 ∧ writer.Clean) ∨ (n = 1 ∧ ∃ bytes, writer.Open bytes)

/-- What a session counts for. -/
def Otaupdate.share (session : Otaupdate) : Nat := if session.busy then 1 else 0

theorem Otaupdate.share_eq_one {session : Otaupdate} (h : session.busy = true) :
    session.share = 1 := if_pos h

theorem Otaupdate.share_eq_zero {session : Otaupdate} (h : session.busy = false) :
    session.share = 0 := if_neg (by simp [h])

theorem countP_busy_mid (front back : List Otaupdate) (session : Otaupdate) :
    (front ++ session :: back).countP Otaupdate.busy
      = front.countP Otaupdate.busy + back.countP Otaupdate.busy + session.share := by
  rw [List.countP_append, List.countP_cons, Otaupdate.share, Nat.add_assoc]

/-- A session that ends through the guarded abort leaves the balance of the others. -/
theorem Balanced.abort {n : Nat} {session : Otaupdate} {writer : FwWriter}
    (h : Balanced (n + session.share) writer) : Balanced n (abortedWriter session writer) := by
  unfold abortedWriter
  cases hbusy : session.busy with
  | false => simpa [Otaupdate.share_eq_zero hbusy] using h
  | true =>
    rw [Otaupdate.share_eq_one hbusy] at h
    rw [if_pos rfl]
    rcases h with ⟨hn, -⟩ | ⟨hn, bytes, hopen⟩
    · omega
    · exact .inl ⟨by omega, otaFwupdateAbort_clean (.inl hopen)⟩

/-- A chunk that is written leaves the balance with its session advanced, one that is not leaves it
    with the session as it was. -/
theorem Balanced.write (crc : CrcRoutine) {n : Nat} {session : Otaupdate} {writer writer' : FwWriter}
    {payload : List UInt8} {size : Nat} {answers : FwAnswers} {written : OtaResult}
    (h : Balanced (n + session.share) writer) (hpayload : payload ≠ [])
    (htidy : TidyChunk (n + session.share) session payload answers)
    (hwrite : otaFwupdateWrite writer payload size answers = (written, writer')) :
    (written.result = 0 ∧ Balanced (n + (otaupdateAdvance crc session payload).share) writer') ∨
      (written.result ≠ 0 ∧ Balanced (n + session.share) writer') := by
  have hadvance := otaupdateAdvance_busy crc session payload
  unfold TidyChunk at htidy
  rcases h with ⟨hn, hclean⟩ | ⟨hn, bytes, hopen⟩
  · -- nothing is busy: the chunk is the first of an image
    have hbusy : session.busy = false := by
      cases hbusy : session.busy with
      | false => rfl
      | true => simp [Otaupdate.share_eq_one hbusy] at hn
    rw [if_neg (by simp [hbusy]), if_neg (by omega)] at htidy
    rcases otaFwupdateWrite_clean hclean hpayload hwrite with ⟨-, hfail, rfl⟩ |
      ⟨hheader, hbegin, -⟩ | ⟨hheader, -, hw, -⟩ | ⟨hheader, -, -, hok, hopen'⟩
    · exact .inr ⟨by omega, .inl ⟨hn, hclean⟩⟩
    · exact absurd (htidy hheader).1 hbegin
    · exact absurd (htidy hheader).2.1 hw
    · have hshare := Otaupdate.share_eq_one (hadvance.trans (htidy hheader).2.2)
      exact .inl ⟨hok, .inr ⟨by omega, _, hopen'⟩⟩
  · -- a download is under way: the bytes are appended to it, whoever's they are
    rcases otaFwupdateWrite_open hopen hpayload hwrite with ⟨hw, hok, hopen'⟩ | ⟨-, hfail, rfl⟩
    · refine .inl ⟨hok, .inr ⟨?_, _, hopen'⟩⟩
      cases hbusy : session.busy with
      | true =>
        rw [if_pos hbusy] at htidy
        rw [Otaupdate.share_eq_one (hadvance.trans (htidy hw))]
        rw [Otaupdate.share_eq_one hbusy] at hn
        exact hn
      | false =>
        rw [if_neg (by simp [hbusy]), if_pos (by omega)] at htidy
        rw [Otaupdate.share_eq_zero (hadvance.trans (htidy hw))]
        rw [Otaupdate.share_eq_zero hbusy] at hn
        exact hn
    · exact .inr ⟨by omega, .inr ⟨hn, bytes, hopen⟩⟩

/-- A session that is busy is the only one, and its handle is open. -/
theorem Balanced.open_of_busy {n : Nat} {session : Otaupdate} {writer : FwWriter}
    (h : Balanced (n + session.share) writer) (hbusy : session.busy = true) :
    n = 0 ∧ ∃ bytes, writer.Open bytes := by
  rw [Otaupdate.share_eq_one hbusy] at h
  rcases h with ⟨hn, -⟩ | ⟨hn, hopen⟩
  · omega
  · exact ⟨by omega, hopen⟩

/-- What a chunk keeps of the balance. -/
theorem ChunkOutcome.balanced {n : Nat} {crc : CrcRoutine} {chunkId : Nat} {payload : List UInt8}
    {answers : OtaAnswers} {session session' : Otaupdate} {writer writer' : FwWriter}
    {actions : List OtaAction} (h : Balanced (n + session.share) writer)
    (htidy : session.feeds chunkId payload →
      TidyChunk (n + session.share) session payload answers.fw)
    (houtcome : ChunkOutcome crc chunkId payload answers session writer session' writer'
      actions) : Balanced (n + session'.share) writer' := by
  -- what every outcome behind a write that succeeded starts from
  have hwritten : ∀ {written writer' next}, session.feeds chunkId payload →
      otaFwupdateWrite writer payload otaErrorSize answers.fw = (written, writer') →
      written.result = 0 → next = otaupdateAdvance crc session payload →
      Balanced (n + next.share) writer' := by
    rintro written writer' next hfeeds hwrite hok rfl
    rcases h.write crc hfeeds.2 (htidy hfeeds) hwrite with ⟨-, hbalanced⟩ | ⟨hfail, -⟩
    · exact hbalanced
    · exact absurd hok hfail
  cases houtcome with
  | refused text hfeeds => exact h.abort
  | writeFailed text written writer₁ hfeeds hwrite hfail =>
    rcases h.write crc hfeeds.2 (htidy hfeeds) hwrite with ⟨hok, -⟩ | ⟨-, hbalanced⟩
    · exact absurd hok hfail
    · exact hbalanced.abort
  | requested text timestamp written writer₁ next hfeeds hwrite hok hnext hmore =>
    have hbalanced := hwritten hfeeds hwrite hok hnext
    exact hbalanced
  | requestFailed text written writer₁ next hfeeds hwrite hok hnext hmore =>
    exact (hwritten hfeeds hwrite hok hnext).abort
  | corrupted written writer₁ next hfeeds hwrite hok hnext hall hchecksum =>
    exact (hwritten hfeeds hwrite hok hnext).abort
  | updated written ended writer₁ writer₂ next hfeeds hwrite hok hnext hall hchecksum hbusy hend
      hended =>
    obtain ⟨hn, bytes, hopen⟩ := (hwritten hfeeds hwrite hok hnext).open_of_busy hbusy
    rcases otaFwupdateEnd_open hopen hend with ⟨-, hclean⟩ | ⟨hfail, -⟩
    · exact .inl ⟨hn, hclean⟩
    · exact absurd hended hfail
  | endFailed text written ended writer₁ writer₂ next hfeeds hwrite hok hnext hall hchecksum
      hbusy hend hended =>
    obtain ⟨hn, bytes, hopen⟩ := (hwritten hfeeds hwrite hok hnext).open_of_busy hbusy
    rcases otaFwupdateEnd_open hopen hend with ⟨hok, -⟩ | ⟨-, hclean⟩
    · exact absurd hok hended
    · rw [abortedWriter, if_pos hbusy]
      exact .inl ⟨hn, hclean⟩
  | unguarded written writer₁ next hfeeds hwrite hok hnext hall hchecksum hidle =>
    have hbalanced := hwritten hfeeds hwrite hok hnext
    -- neither an end nor an abort ran, so the writer has to fit the other sessions as it is
    rw [Otaupdate.share_eq_zero hidle] at hbalanced
    exact hbalanced

/-! ## One step -/

/-- All items are F/W items, and the busy ones go with the writer. -/
structure Tidy (world : OtaWorld) : Prop where
  fw : ∀ session ∈ world.otaupdateList, session.config.otaType = .fw
  balanced : Balanced (world.otaupdateList.countP Otaupdate.busy) world.dev.writer

theorem Tidy.cleanedUp {world : OtaWorld} (h : Tidy world) : CleanedUp world := by
  intro hdirty
  have hcount : world.otaupdateList.countP Otaupdate.downloads
      = world.otaupdateList.countP Otaupdate.busy :=
    List.countP_congr fun session hmem => by simp [Otaupdate.downloads, h.fw session hmem]
  rcases h.balanced with ⟨-, hclean⟩ | ⟨hone, -⟩
  · rw [hclean.dirty_eq] at hdirty
    exact absurd hdirty (by simp)
  · rw [hcount, hone]

theorem Tidy.replace {world world' : OtaWorld} {front back : List Otaupdate}
    {session session' : Otaupdate} (h : Tidy world)
    (hlist : world.otaupdateList = front ++ session :: back)
    (hlist' : world'.otaupdateList = front ++ session' :: back) (hsame : SameItem session session')
    (hbalanced : ∀ n, Balanced (n + session.share) world.dev.writer →
      n = front.countP Otaupdate.busy + back.countP Otaupdate.busy →
      Balanced (n + session'.share) world'.dev.writer) : Tidy world' := by
  constructor
  · intro item hitem
    rw [hlist'] at hitem
    have hfw := h.fw
    rw [hlist] at hfw
    simp only [List.mem_append, List.mem_cons] at hitem hfw
    rcases hitem with hitem | rfl | hitem
    · exact hfw item (.inl hitem)
    · rw [hsame.config]
      exact hfw session (.inr (.inl rfl))
    · exact hfw item (.inr (.inr hitem))
  · have hbefore := h.balanced
    rw [hlist, countP_busy_mid] at hbefore
    rw [hlist', countP_busy_mid]
    exact hbalanced _ hbefore rfl

theorem Tidy.checkTimeout {world : OtaWorld} (h : Tidy world) (timestamp : Nat) :
    Tidy (tbcmhOtaupdateOnChunkCheckTimeout timestamp world) := by
  refine checkTimeout_rule ?_ timestamp h
  intro world front back session session' dev' actions htidy hlist htrace houtcome
  refine htidy.replace hlist rfl houtcome.sameItem ?_
  intro n hn _
  dsimp only
  generalize dev'.writer = writer' at houtcome ⊢
  cases houtcome with
  | kept => exact hn
  | expired hactive => exact hn.abort

/-- Every step that is allowed keeps the balance. -/
theorem tidy_step {crc : CrcRoutine} {world world' : OtaWorld} {input : OtaInput} (h : Tidy world)
    (hstep : within TidyInput (Succeeds (otaStep crc)) world input world') : Tidy world' := by
  obtain ⟨hguard, hok⟩ := hstep
  cases input with
  | subscribe otaDescription otaType nextUpdatePartition =>
    obtain rfl := Except.ok.inj hok
    cases otaType with
    | sw => exact h
    | fw =>
      -- nothing is busy, so the writer that is initialized was clean
      have hcount : world.otaupdateList.countP Otaupdate.busy = 0 :=
        List.countP_eq_zero.mpr fun session hmem => by simp [hguard session hmem]
      have hclean : world.dev.writer.Clean := by
        rcases h.balanced with ⟨-, hclean⟩ | ⟨hone, -⟩
        · exact hclean
        · omega
      have himages : world.dev.writer.flash.images = [] := hclean.images
      cases nextUpdatePartition with
      | none => exact ⟨h.fw, .inl ⟨hcount, ⟨rfl, himages⟩, rfl⟩⟩
      | some size =>
        refine ⟨?_, .inl ⟨?_, ⟨rfl, himages⟩, rfl⟩⟩
        · intro item hitem
          rcases List.mem_append.mp hitem with hitem | hitem
          · exact h.fw item hitem
          · rw [List.mem_singleton.mp hitem]
        · simp only [tbcmhOtaupdateSubscribe, otaupdateCreate, otaFwupdateInit, Option.isSome,
            if_true, List.countP_append, hcount]
          rfl
  | unsubscribe otaDescription =>
    obtain rfl := Except.ok.inj hok
    simp only [tbcmhOtaupdateUnsubscribe]
    cases hsplit : splitFirst (fun session => session.otaDescription = otaDescription)
        world.otaupdateList with
    | none => exact h
    | some parts =>
      obtain ⟨front, session, back⟩ := parts
      have hlist := (splitFirst_eq_some hsplit).1
      have hidle : session.busy = false := hguard session (by simp [removedSession, hsplit])
      have hfw := h.fw
      have hbalanced := h.balanced
      rw [hlist] at hfw hbalanced
      refine ⟨fun item hitem => hfw item ?_, ?_⟩
      · rcases List.mem_append.mp hitem with hitem | hitem
        · exact List.mem_append_left _ hitem
        · exact List.mem_append_right _ (List.mem_cons_of_mem _ hitem)
      · rw [countP_busy_mid, Otaupdate.share, hidle] at hbalanced
        simpa [List.countP_append] using hbalanced
  | event event =>
    cases event with
    | sharedAttributes object answers =>
      rcases otaupdateOnFwAttributesupdate_cases hok with ⟨-, rfl⟩ | ⟨-, -, rfl⟩ |
        ⟨front, session, back, session', actions, -, hfound, hlist, hlist', -, hwriter, -, -,
          houtcome⟩
      · exact h
      · exact ⟨h.fw, h.balanced⟩
      · refine h.replace hlist hlist' houtcome.sameItem ?_
        intro n hn _
        rw [hwriter]
        -- a supported algorithm resets the session without an abort, so it must not be busy
        have hothers : supportedAlgorithm (announcedAlgorithm object) = true →
            Balanced n world.dev.writer := by
          intro halg
          simpa [Otaupdate.share, hguard session hfound halg] using hn
        cases houtcome with
        | unsupported text halg => exact hn
        | alreadyUpdated halg => exact hothers halg
        | rejected text result hresult halg => exact hothers halg
        | started text cached requestId timestamp halg hid =>
          simpa [Otaupdate.share, Otaupdate.busy, OtaupdateState.idle] using hothers halg
        | unsent text cached requestId halg => exact hothers halg
    | chunkData requestId chunkId payload answers =>
      obtain rfl := Except.ok.inj hok
      rcases tbcmhOtaupdateOnChunkData_cases crc requestId chunkId payload answers world with
        ⟨-, hsame⟩ | ⟨front, session, back, session', dev', actions, hfound, hid, hlist, hworld,
          -, houtcome⟩
      · rw [hsame]
        exact h
      · rw [hworld]
        refine h.replace hlist rfl houtcome.sameItem ?_
        intro n hn hcount
        refine houtcome.balanced hn ?_
        intro hfeeds
        have hchunk := hguard session hfound hfeeds
        rw [hlist, countP_busy_mid, ← hcount] at hchunk
        exact hchunk
    | checkTimeout timestamp =>
      obtain rfl := Except.ok.inj hok
      exact h.checkTimeout timestamp
    | disconnected =>
      obtain rfl := Except.ok.inj hok
      exact h.checkTimeout _
    | environment core =>
      obtain rfl := Except.ok.inj hok
      exact ⟨h.fw, h.balanced⟩

/-- In every run of allowed steps the writer is cleaned up in every state. -/
theorem cleanedUp_of_run {crc : CrcRoutine} {core : Core} {lastHandle : Nat}
    {inputs : List OtaInput} {world : OtaWorld}
    (run : Run (within TidyInput (Succeeds (otaStep crc))) (.initial core lastHandle) inputs
      world) : CleanedUp world := by
  have hinitial : Tidy (.initial core lastHandle) :=
    ⟨fun _ h => absurd h List.not_mem_nil, .inl ⟨rfl, ⟨rfl, rfl⟩, rfl⟩⟩
  exact (run.invariant hinitial fun _ _ _ => tidy_step).cleanedUp

/-- An item is registered and receives the first chunk of an update. -/
def startedUpdate : List OtaInput :=
  [.subscribe "F/W" .fw (some 1000000),
    .event (.sharedAttributes (some (sampleAttributes 20000 "0")) sampleAnswers),
    .event (.chunkData 1 0 sampleImage sampleAnswers)]

/-- The writer is dirty in the middle of a download, and the download is active. -/
theorem cleanedUp_of_run_startedUpdate :
    CleanedUp (startedUpdate.foldl (advance (otaStep .crc32)) (.initial sampleCore 0)) ∧
      (startedUpdate.foldl (advance (otaStep .crc32)) (.initial sampleCore 0)).dev.writer.dirty
        = true :=
  ⟨cleanedUp_of_run (run_of_allowed (by decide +kernel)), by decide +kernel⟩

/-- An update whose first chunk arrives while `esp_ota_begin` fails. -/
def refusedUpdate : List OtaInput :=
  [.subscribe "F/W" .fw (some 1000000),
    .event (.sharedAttributes (some (sampleAttributes 20000 "0")) sampleAnswers),
    .event (.chunkData 1 0 sampleImage
      { sampleAnswers with fw := { sampleAnswers.fw with otaBegin := some "ESP_ERR_NO_MEM" } })]

/-- The session has failed and no session is active, but the header still counts as checked. -/
theorem cleanedUp_fails_refusedUpdate :
    ¬ ∀ inputs world, Run (Succeeds (otaStep .crc32)) (.initial sampleCore 0) inputs world →
      CleanedUp world := by
  intro hall
  have hrun := hall refusedUpdate _ (run_of_succeeds (by decide +kernel))
  exact absurd hrun (by decide +kernel)

end ThingsboardMqtt
