import Mathlib.Algebra.Group.Int.Defs
import Mathlib.Algebra.Group.Nat.Defs
import Mathlib.Data.List.Basic

set_option autoImplicit false

/-! # The firmware writer

`ota_fwupdate.c`: one static `_fwupdate` over the `esp_ota_*` functions of ESP-IDF, which are
assumed to do what they are documented to do. `EspOta` holds the open handles and the bytes
appended to each. The outcome of every call the device or its flash may refuse is an answer of the
environment (`FwAnswers`); a call with a handle that is not open fails whatever the answer. -/

namespace ThingsboardMqtt

/-- Undefined behaviour a run can meet: a string function gets `NULL`, or a callback that is `NULL`
    is called. -/
inductive Fault
  | nullString
  | nullCallback
  deriving DecidableEq, Repr

/-! ## `esp_ota_*` -/

/-- `esp_err_t`: `none` is `ESP_OK`, otherwise what `esp_err_to_name` calls the error. -/
abbrev EspErr := Option String

/-- The open handles with the bytes appended to their images. -/
structure EspOta where
  lastHandle : Nat
  images : List (Nat × List UInt8)
  deriving DecidableEq, Repr

namespace EspOta

def isOpen (flash : EspOta) (handle : Nat) : Bool := flash.images.any (·.1 == handle)

/-- The bytes appended to a handle. -/
def image (flash : EspOta) (handle : Nat) : List UInt8 := (flash.images.lookup handle).getD []

def close (flash : EspOta) (handle : Nat) : EspOta :=
  { flash with images := flash.images.filter (·.1 != handle) }

/-- `esp_ota_begin`: a new handle on an empty image. -/
def begin (flash : EspOta) (answer : EspErr) : Except String (Nat × EspOta) :=
  match answer with
  | none =>
    let handle := flash.lastHandle + 1
    .ok (handle, { lastHandle := handle, images := flash.images ++ [(handle, [])] })
  | some name => .error name

/-- `esp_ota_write` -/
def write (flash : EspOta) (handle : Nat) (data : List UInt8) (answer : EspErr) :
    EspErr × EspOta :=
  if flash.isOpen handle then
    match answer with
    | none =>
      (none, { flash with
        images := flash.images.map fun entry =>
          if entry.1 = handle then (entry.1, entry.2 ++ data) else entry })
    | some name => (some name, flash)
  else
    (some "ESP_ERR_INVALID_ARG", flash)

/-- `esp_ota_end`: the handle is closed whether the image is valid or not. -/
def finish (flash : EspOta) (handle : Nat) (answer : EspErr) : EspErr × EspOta :=
  if flash.isOpen handle then (answer, flash.close handle)
  else (some "ESP_ERR_NOT_FOUND", flash)

/-- `esp_ota_abort` -/
def abort (flash : EspOta) (handle : Nat) : EspOta := flash.close handle

end EspOta

/-! ## `_fwupdate` -/

/-- `ota_fwupdate_t`; `updatePartition` is the size of `update_partition`, `none` for `NULL`. -/
structure Fwupdate where
  updatePartition : Option Nat
  updateHandle : Nat
  imageHeaderWasChecked : Bool
  deriving DecidableEq, Repr

/-- The static `_fwupdate` with the flash it writes. -/
structure FwWriter where
  fwupdate : Fwupdate
  flash : EspOta
  deriving DecidableEq, Repr

/-- What the device answers to the calls of the writer. `runningVersion` is what
    `running_app_info.version` holds after the call that fills it in, `lastInvalidVersion` is
    `none` where `esp_ota_get_last_invalid_partition` returns `NULL`. -/
structure FwAnswers where
  runningVersion : List UInt8
  lastInvalidVersion : Option (List UInt8)
  otaBegin : EspErr
  otaWrite : EspErr
  otaEnd : EspErr
  setBootPartition : EspErr

/-- An `int` result with the text the callee left in `ota_error`. -/
structure OtaResult where
  result : Int
  otaError : String
  deriving DecidableEq, Repr

/-- `snprintf(error, size, "%s", text)` -/
def snprintf (size : Nat) (text : String) : String := String.ofList (text.toList.take (size - 1))

/-- `sizeof(esp_image_header_t) + sizeof(esp_image_segment_header_t)` -/
def imageHeadersSize : Nat := 24 + 8

/-- `sizeof(esp_app_desc_t)` -/
def appDescSize : Nat := 256

/-- `new_app_info.version`, behind the magic word, the secure version and two reserved words. -/
def newAppVersion (fwData : List UInt8) : List UInt8 :=
  (fwData.drop (imageHeadersSize + 16)).take 32

/-- `____fwupdate_reset` -/
def fwupdateReset (fwupdate : Fwupdate) : Fwupdate :=
  { fwupdate with
    updateHandle := 0
    imageHeaderWasChecked := false }

/-- `ota_fwupdate_init`: whether `&_fwupdate` and not `NULL` is returned, and `_fwupdate`. -/
def otaFwupdateInit (nextUpdatePartition : Option Nat) : Bool × Fwupdate :=
  (nextUpdatePartition.isSome,
    { updatePartition := nextUpdatePartition
      updateHandle := 0
      imageHeaderWasChecked := false })

/-- What `%d` prints for an `uint32_t`. -/
def showUint32AsInt (value : Nat) : String :=
  if value < 2 ^ 31 then toString value else toString ((value : Int) - 2 ^ 32)

/-- `ota_fwupdate_negotiate`; `strcmp` of a `NULL` string is a fault. -/
def otaFwupdateNegotiate (fwupdate : Fwupdate) (currentFwTitle currentFwVersion : Option String)
    (fwTitle : String) (fwVersion : Option String) (fwSize : Nat) (errorSize : Nat) :
    Except Fault OtaResult := do
  let some currentTitle := currentFwTitle | .error .nullString
  if fwTitle ≠ currentTitle then
    .ok ⟨-1, snprintf errorSize
      s!"New F/W titile({fwTitle}) is not equal to current F/W title({currentTitle})"⟩
  else
    let some version := fwVersion | .error .nullString
    let some currentVersion := currentFwVersion | .error .nullString
    if version = currentVersion then
      .ok ⟨0, snprintf errorSize
        s!"New F/W version({version}) is equal to current F/W version({currentVersion})"⟩
    else
      match fwupdate.updatePartition with
      | some size =>
        if size < fwSize then
          .ok ⟨-1, snprintf errorSize
            s!"New F/W size({fwSize}) is bigger than update partition size({showUint32AsInt size})"⟩
        else .ok ⟨1, ""⟩
      | none => .ok ⟨1, ""⟩

/-- The checks `ota_fwupdate_write` makes of the first piece of an image: the error it reports. -/
def imageHeaderError (fwData : List UInt8) (answers : FwAnswers) : Option String :=
  if fwData.length < imageHeadersSize + appDescSize then
    some "received package is not fit len"
  else if answers.lastInvalidVersion = some (newAppVersion fwData) then
    some "New version is the same as invalid version."
  else if newAppVersion fwData = answers.runningVersion then
    some "Current running version is the same as a new. We will not continue the update."
  else none

/-- The end of `ota_fwupdate_write`: the bytes go to the open handle. -/
def fwupdateAppend (writer : FwWriter) (fwData : List UInt8) (errorSize : Nat)
    (answers : FwAnswers) : OtaResult × FwWriter :=
  match writer.flash.write writer.fwupdate.updateHandle fwData answers.otaWrite with
  | (none, flash) => (⟨0, ""⟩, { writer with flash := flash })
  | (some _, flash) =>
    (⟨-1, snprintf errorSize "write F/W data failure!"⟩, { writer with flash := flash })

/-- `ota_fwupdate_write` -/
def otaFwupdateWrite (writer : FwWriter) (fwData : List UInt8) (errorSize : Nat)
    (answers : FwAnswers) : OtaResult × FwWriter :=
  if fwData.length = 0 then (⟨0, ""⟩, writer)
  else if writer.fwupdate.imageHeaderWasChecked = false then
    match imageHeaderError fwData answers with
    | some text => (⟨-1, snprintf errorSize text⟩, writer)
    | none =>
      -- the flag is set before the handle is opened
      let checked := { writer.fwupdate with imageHeaderWasChecked := true }
      match writer.flash.begin answers.otaBegin with
      | .error name =>
        (⟨-1, snprintf errorSize s!"esp_ota_begin failed ({name})"⟩,
          { writer with fwupdate := checked })
      | .ok (handle, flash) =>
        fwupdateAppend ⟨{ checked with updateHandle := handle }, flash⟩ fwData errorSize answers
  else fwupdateAppend writer fwData errorSize answers

/-- `ota_fwupdate_end`; it returns `ESP_OK` when it switched the boot partition. -/
def otaFwupdateEnd (writer : FwWriter) (errorSize : Nat) (answers : FwAnswers) :
    OtaResult × FwWriter :=
  match writer.flash.finish writer.fwupdate.updateHandle answers.otaEnd with
  | (some name, flash) =>
    (⟨-1, snprintf errorSize
        (if name = "ESP_ERR_OTA_VALIDATE_FAILED" then "Image validation failed, image is corrupted"
         else s!"esp_ota_end failed ({name})!")⟩,
      { writer with flash := flash })
  | (none, flash) =>
    match answers.setBootPartition with
    | some name =>
      (⟨-1, snprintf errorSize s!"esp_ota_set_boot_partition failed ({name})!"⟩,
        { writer with flash := flash })
    | none => (⟨0, ""⟩, { fwupdate := fwupdateReset writer.fwupdate, flash := flash })

/-- `ota_fwupdate_abort` -/
def otaFwupdateAbort (writer : FwWriter) : FwWriter :=
  { fwupdate := fwupdateReset writer.fwupdate
    flash := if writer.fwupdate.updateHandle ≠ 0 then writer.flash.abort writer.fwupdate.updateHandle
      else writer.flash }

end ThingsboardMqtt
