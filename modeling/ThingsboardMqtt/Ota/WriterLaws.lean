import ThingsboardMqtt.Ota.Fwupdate

set_option autoImplicit false

/-! # Laws of the firmware writer

Between two events the writer is in one of three conditions. `Open` on some bytes: its handle is
the only open one and holds them. `Clean`: no handle is open and the next write checks the header
and opens one. `Closed` without being `Clean`: no handle is open but the header counts as checked,
which is what a failed `esp_ota_begin` leaves. `Holds` says what a later `esp_ota_end` would end. -/

namespace ThingsboardMqtt

namespace FwWriter

/-- The writer's handle is the only open one, and its image is `bytes`. -/
structure Open (writer : FwWriter) (bytes : List UInt8) : Prop where
  handle : writer.fwupdate.updateHandle ≠ 0
  images : writer.flash.images = [(writer.fwupdate.updateHandle, bytes)]
  checked : writer.fwupdate.imageHeaderWasChecked = true

/-- No handle is open and the writer has none. -/
structure Closed (writer : FwWriter) : Prop where
  handle : writer.fwupdate.updateHandle = 0
  images : writer.flash.images = []

/-- Closed, and the next write starts with the header. -/
structure Clean (writer : FwWriter) : Prop extends Closed writer where
  checked : writer.fwupdate.imageHeaderWasChecked = false

/-- The bytes a write would append to. -/
def Holds (writer : FwWriter) (bytes : List UInt8) : Prop :=
  writer.Open bytes ∨ (writer.Closed ∧ bytes = [])

/-- A handle is open, or the header counts as checked. -/
def dirty (writer : FwWriter) : Bool :=
  !writer.flash.images.isEmpty || writer.fwupdate.imageHeaderWasChecked

/-- The flash takes the data: the first bytes of an image pass the header check and get a handle,
    later ones find their handle open. -/
def Takes (writer : FwWriter) (data : List UInt8) (answers : FwAnswers) : Prop :=
  answers.otaWrite = none ∧
    if writer.fwupdate.imageHeaderWasChecked = true then
      writer.flash.isOpen writer.fwupdate.updateHandle = true
    else imageHeaderError data answers = none ∧ answers.otaBegin = none

instance (writer : FwWriter) (data : List UInt8) (answers : FwAnswers) :
    Decidable (writer.Takes data answers) := by
  unfold Takes
  infer_instance

theorem Clean.dirty_eq {writer : FwWriter} (h : writer.Clean) : writer.dirty = false := by
  simp [dirty, h.images, h.checked]

theorem Closed.holds {writer : FwWriter} (h : writer.Closed) : writer.Holds [] := .inr ⟨h, rfl⟩

theorem Open.isOpen {writer : FwWriter} {bytes : List UInt8} (h : writer.Open bytes) :
    writer.flash.isOpen writer.fwupdate.updateHandle = true := by
  simp [EspOta.isOpen, h.images]

theorem Open.image {writer : FwWriter} {bytes : List UInt8} (h : writer.Open bytes) :
    writer.flash.image writer.fwupdate.updateHandle = bytes := by
  simp [EspOta.image, h.images]

theorem Open.close_images {writer : FwWriter} {bytes : List UInt8} (h : writer.Open bytes) :
    (writer.flash.close writer.fwupdate.updateHandle).images = [] := by
  simp [EspOta.close, h.images]

end FwWriter

open FwWriter

/-! ## Writing -/

/-- The end of a write: the bytes are appended to the open handle, or nothing changes. -/
theorem fwupdateAppend_open {writer writer' : FwWriter} {bytes data : List UInt8} {size : Nat}
    {answers : FwAnswers} {written : OtaResult} (hopen : writer.Open bytes)
    (h : fwupdateAppend writer data size answers = (written, writer')) :
    (answers.otaWrite = none ∧ written.result = 0 ∧ writer'.Open (bytes ++ data)) ∨
      (answers.otaWrite ≠ none ∧ written.result = -1 ∧ writer' = writer) := by
  simp only [fwupdateAppend, EspOta.write, hopen.isOpen, if_true] at h
  cases hanswer : answers.otaWrite with
  | none =>
    simp only [hanswer] at h
    obtain ⟨rfl, rfl⟩ := Prod.mk.inj h
    refine .inl ⟨rfl, rfl, hopen.handle, ?_, hopen.checked⟩
    simp [hopen.images]
  | some name =>
    simp only [hanswer] at h
    obtain ⟨rfl, rfl⟩ := Prod.mk.inj h
    exact .inr ⟨by simp, rfl, rfl⟩

theorem fwupdateAppend_closed {writer writer' : FwWriter} {data : List UInt8} {size : Nat}
    {answers : FwAnswers} {written : OtaResult} (hclosed : writer.Closed)
    (h : fwupdateAppend writer data size answers = (written, writer')) :
    written.result = -1 ∧ writer' = writer := by
  simp only [fwupdateAppend, EspOta.write, EspOta.isOpen, hclosed.images, List.any_nil,
    Bool.false_eq_true, if_false] at h
  obtain ⟨rfl, rfl⟩ := Prod.mk.inj h
  exact ⟨rfl, rfl⟩

theorem open_of_fwupdateAppend {writer writer' : FwWriter} {data : List UInt8} {size : Nat}
    {answers : FwAnswers} {written : OtaResult}
    (h : fwupdateAppend writer data size answers = (written, writer')) (hok : written.result = 0) :
    answers.otaWrite = none ∧ writer.flash.isOpen writer.fwupdate.updateHandle = true := by
  simp only [fwupdateAppend, EspOta.write] at h
  cases hopen : writer.flash.isOpen writer.fwupdate.updateHandle with
  | false =>
    simp only [hopen, Bool.false_eq_true, if_false] at h
    rw [← (Prod.mk.inj h).1] at hok
    exact absurd hok (by simp)
  | true =>
    simp only [hopen, if_true] at h
    cases hanswer : answers.otaWrite with
    | none => exact ⟨rfl, rfl⟩
    | some name =>
      simp only [hanswer] at h
      rw [← (Prod.mk.inj h).1] at hok
      exact absurd hok (by simp)

/-- A write succeeds only if the flash takes the data. -/
theorem takes_of_otaFwupdateWrite {writer writer' : FwWriter} {data : List UInt8} {size : Nat}
    {answers : FwAnswers} {written : OtaResult} (hdata : data ≠ [])
    (h : otaFwupdateWrite writer data size answers = (written, writer'))
    (hok : written.result = 0) : writer.Takes data answers := by
  have hlen : data.length ≠ 0 := fun h0 => hdata (List.length_eq_zero_iff.mp h0)
  rw [otaFwupdateWrite, if_neg hlen] at h
  unfold Takes
  cases hchecked : writer.fwupdate.imageHeaderWasChecked with
  | true =>
    rw [if_neg (by simp [hchecked])] at h
    simpa using open_of_fwupdateAppend h hok
  | false =>
    rw [if_pos hchecked] at h
    cases hheader : imageHeaderError data answers with
    | some text =>
      simp only [hheader] at h
      rw [← (Prod.mk.inj h).1] at hok
      exact absurd hok (by simp)
    | none =>
      cases hbegin : answers.otaBegin with
      | some name =>
        simp only [hheader, hbegin, EspOta.begin] at h
        rw [← (Prod.mk.inj h).1] at hok
        exact absurd hok (by simp)
      | none =>
        simp only [hheader, hbegin, EspOta.begin] at h
        simpa using (open_of_fwupdateAppend h hok).1

theorem otaFwupdateWrite_open {writer writer' : FwWriter} {bytes data : List UInt8} {size : Nat}
    {answers : FwAnswers} {written : OtaResult} (hopen : writer.Open bytes) (hdata : data ≠ [])
    (h : otaFwupdateWrite writer data size answers = (written, writer')) :
    (answers.otaWrite = none ∧ written.result = 0 ∧ writer'.Open (bytes ++ data)) ∨
      (answers.otaWrite ≠ none ∧ written.result = -1 ∧ writer' = writer) := by
  have hlen : data.length ≠ 0 := fun h0 => hdata (List.length_eq_zero_iff.mp h0)
  rw [otaFwupdateWrite, if_neg hlen, if_neg (by simp [hopen.checked])] at h
  exact fwupdateAppend_open hopen h

/-- The first write of an image: it is refused, or `esp_ota_begin` or `esp_ota_write` fails, or
    the image starts with the data. -/
theorem otaFwupdateWrite_clean {writer writer' : FwWriter} {data : List UInt8} {size : Nat}
    {answers : FwAnswers} {written : OtaResult} (hclean : writer.Clean) (hdata : data ≠ [])
    (h : otaFwupdateWrite writer data size answers = (written, writer')) :
    (imageHeaderError data answers ≠ none ∧ written.result = -1 ∧ writer' = writer) ∨
      (imageHeaderError data answers = none ∧ answers.otaBegin ≠ none ∧ written.result = -1 ∧
        writer'.Closed) ∨
      (imageHeaderError data answers = none ∧ answers.otaBegin = none ∧
        answers.otaWrite ≠ none ∧ written.result = -1 ∧ writer'.Open []) ∨
      (imageHeaderError data answers = none ∧ answers.otaBegin = none ∧
        answers.otaWrite = none ∧ written.result = 0 ∧ writer'.Open data) := by
  have hlen : data.length ≠ 0 := fun h0 => hdata (List.length_eq_zero_iff.mp h0)
  rw [otaFwupdateWrite, if_neg hlen, if_pos hclean.checked] at h
  cases hheader : imageHeaderError data answers with
  | some text =>
    simp only [hheader] at h
    obtain ⟨rfl, rfl⟩ := Prod.mk.inj h
    exact .inl ⟨by simp, rfl, rfl⟩
  | none =>
    simp only [hheader] at h
    cases hbegin : answers.otaBegin with
    | some name =>
      simp only [hbegin, EspOta.begin] at h
      obtain ⟨rfl, rfl⟩ := Prod.mk.inj h
      exact .inr (.inl ⟨rfl, by simp, rfl, hclean.handle, hclean.images⟩)
    | none =>
      simp only [hbegin, EspOta.begin] at h
      have hopen : FwWriter.Open ⟨{ writer.fwupdate with
            imageHeaderWasChecked := true
            updateHandle := writer.flash.lastHandle + 1 },
          { lastHandle := writer.flash.lastHandle + 1
            images := writer.flash.images ++ [(writer.flash.lastHandle + 1, [])] }⟩ [] :=
        ⟨by simp, by simp [hclean.images], rfl⟩
      rcases fwupdateAppend_open hopen h with ⟨hw, hok, hopen'⟩ | ⟨hw, hfail, rfl⟩
      · exact .inr (.inr (.inr ⟨rfl, rfl, hw, hok, hopen'⟩))
      · exact .inr (.inr (.inl ⟨rfl, rfl, hw, hfail, hopen⟩))

/-- A write that succeeds appends its bytes to what the writer holds, one that fails leaves it. -/
theorem otaFwupdateWrite_holds {writer writer' : FwWriter} {bytes data : List UInt8} {size : Nat}
    {answers : FwAnswers} {written : OtaResult} (hholds : writer.Holds bytes) (hdata : data ≠ [])
    (h : otaFwupdateWrite writer data size answers = (written, writer')) :
    (written.result = 0 ∧ answers.otaWrite = none ∧ writer'.Open (bytes ++ data)) ∨
      (written.result ≠ 0 ∧ writer'.Holds bytes) := by
  rcases hholds with hopen | ⟨hclosed, rfl⟩
  · rcases otaFwupdateWrite_open hopen hdata h with ⟨hw, hok, hopen'⟩ | ⟨-, hfail, rfl⟩
    · exact .inl ⟨hok, hw, hopen'⟩
    · exact .inr ⟨by omega, .inl hopen⟩
  · cases hchecked : writer.fwupdate.imageHeaderWasChecked with
    | true =>
      have hlen : data.length ≠ 0 := fun h0 => hdata (List.length_eq_zero_iff.mp h0)
      rw [otaFwupdateWrite, if_neg hlen, if_neg (by simp [hchecked])] at h
      -- the header counts as checked without a handle: `esp_ota_begin` failed before
      obtain ⟨hfail, rfl⟩ := fwupdateAppend_closed hclosed h
      exact .inr ⟨by omega, hclosed.holds⟩
    | false =>
      rcases otaFwupdateWrite_clean ⟨hclosed, hchecked⟩ hdata h with ⟨-, hfail, rfl⟩ |
        ⟨-, -, hfail, hclosed'⟩ | ⟨-, -, -, hfail, hopen'⟩ | ⟨-, -, hw, hok, hopen'⟩
      · exact .inr ⟨by omega, hclosed.holds⟩
      · exact .inr ⟨by omega, hclosed'.holds⟩
      · exact .inr ⟨by omega, .inl hopen'⟩
      · exact .inl ⟨hok, hw, hopen'⟩

/-! ## Ending and aborting -/

/-- An abort closes the handle and asks for the header again. -/
theorem otaFwupdateAbort_clean {writer : FwWriter} {bytes : List UInt8} (h : writer.Holds bytes) :
    (otaFwupdateAbort writer).Clean := by
  rcases h with hopen | ⟨hclosed, -⟩
  · refine ⟨⟨rfl, ?_⟩, rfl⟩
    simp only [otaFwupdateAbort, if_pos hopen.handle]
    exact hopen.close_images
  · refine ⟨⟨rfl, ?_⟩, rfl⟩
    simp only [otaFwupdateAbort, if_neg (not_not.mpr hclosed.handle)]
    exact hclosed.images

/-- An end that succeeds leaves the writer clean, and so does the abort behind one that fails. -/
theorem otaFwupdateEnd_open {writer writer' : FwWriter} {bytes : List UInt8} {size : Nat}
    {answers : FwAnswers} {ended : OtaResult} (hopen : writer.Open bytes)
    (h : otaFwupdateEnd writer size answers = (ended, writer')) :
    (ended.result = 0 ∧ writer'.Clean) ∨
      (ended.result ≠ 0 ∧ (otaFwupdateAbort writer').Clean) := by
  have himages : (writer.flash.close writer.fwupdate.updateHandle).images = [] :=
    hopen.close_images
  -- an end that fails has closed the handle but keeps its number, which the abort forgets
  have habort : ∀ flash : EspOta, flash.images = [] →
      (otaFwupdateAbort { writer with flash := flash }).Clean := by
    intro flash hflash
    refine ⟨⟨rfl, ?_⟩, rfl⟩
    simp only [otaFwupdateAbort]
    split
    · simp [EspOta.abort, EspOta.close, hflash]
    · exact hflash
  simp only [otaFwupdateEnd, EspOta.finish, hopen.isOpen, if_true] at h
  cases hend : answers.otaEnd with
  | some name =>
    simp only [hend] at h
    obtain ⟨rfl, rfl⟩ := Prod.mk.inj h
    exact .inr ⟨by simp, habort _ himages⟩
  | none =>
    simp only [hend] at h
    cases hboot : answers.setBootPartition with
    | some name =>
      simp only [hboot] at h
      obtain ⟨rfl, rfl⟩ := Prod.mk.inj h
      exact .inr ⟨by simp, habort _ himages⟩
    | none =>
      simp only [hboot] at h
      obtain ⟨rfl, rfl⟩ := Prod.mk.inj h
      exact .inl ⟨rfl, ⟨rfl, himages⟩, rfl⟩

end ThingsboardMqtt
