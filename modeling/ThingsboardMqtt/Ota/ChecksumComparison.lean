import Mathlib.Tactic.IntervalCases
import ThingsboardMqtt.Ota.Otaupdate

set_option autoImplicit false

/-! # What the checksum of an image is compared with

`_otaupdate_checksum_verification` compares the checksum of the image, with its bytes reversed, with
the number `sscanf` reads from `ota_checksum`. For a numeral of at most eight digits that is the
number it spells. What `sscanf` returns is not looked at, so every other text passes for a number
too: where nothing is read the variable keeps its initial zero, and what follows the digits is
ignored. -/

namespace ThingsboardMqtt

/-! ## Reversing the bytes -/

/-- The place in the argument of the bit at a place of the result: bytes are reversed, the bits in a
    byte are not. -/
def reversedPlace (place : Nat) : Nat := 8 * (3 - place / 8) + place % 8

theorem getLsbD_reverseBytes (checksum : UInt32) {place : Nat} (hplace : place < 32) :
    (reverseBytes checksum).toBitVec.getLsbD place
      = checksum.toBitVec.getLsbD (reversedPlace place) := by
  interval_cases place <;> simp [reverseBytes, reversedPlace]

theorem reverseBytes_reverseBytes (checksum : UInt32) :
    reverseBytes (reverseBytes checksum) = checksum := by
  refine UInt32.eq_of_toBitVec_eq (BitVec.eq_of_getLsbD_eq ?_)
  intro place hplace
  have hreversed : reversedPlace place < 32 := by
    unfold reversedPlace
    omega
  have htwice : reversedPlace (reversedPlace place) = place := by
    unfold reversedPlace
    omega
  rw [getLsbD_reverseBytes _ hplace, getLsbD_reverseBytes _ hreversed, htwice]

/-! ## The comparison -/

/-- One checksum passes for every `ota_checksum`. -/
theorem otaupdateChecksumVerification_iff (session : Otaupdate) :
    otaupdateChecksumVerification session = true
      ↔ session.state.checksum = reverseBytes (hexValue session.otaAttribute.otaChecksum) := by
  rw [otaupdateChecksumVerification, decide_eq_true_eq]
  constructor
  · intro h
    rw [← h, reverseBytes_reverseBytes]
  · intro h
    rw [h, reverseBytes_reverseBytes]

/-- A session with a checksum of its image and a cached attribute. -/
def Otaupdate.compared (checksum : UInt32) (otaChecksum : Option String) : Otaupdate where
  addr := 0
  otaDescription := "F/W"
  config := { otaType := .fw, chunkSize := 16 * 1024 }
  otaAttribute := { OtaupdateAttribute.empty with otaChecksum := otaChecksum }
  state := { OtaupdateState.idle with checksum := checksum }

/-- Where `ota_checksum` spells a checksum in at most eight digits, that checksum passes and no
    other; where it is `NULL` or no such numeral, none does. -/
structure ComparedExactly (otaChecksum : Option String) : Prop where
  spelled : ∀ text ∈ otaChecksum, text.length ≤ 8 →
    ∀ checksum, Scanf.SpellsHex text (reverseBytes checksum).toNat →
      ∀ session : Otaupdate, session.otaAttribute.otaChecksum = otaChecksum →
        (otaupdateChecksumVerification session = true ↔ session.state.checksum = checksum)
  malformed : (¬ ∃ text ∈ otaChecksum, Scanf.isHexNumeral 8 text = true) →
    ∀ session : Otaupdate, session.otaAttribute.otaChecksum = otaChecksum →
      otaupdateChecksumVerification session = false

/-- The numerals of at most eight digits are the spellings of the checksums, so every `ota_checksum`
    falls under one of the two. -/
theorem isHexNumeral_iff_spellsHex (text : String) : Scanf.isHexNumeral 8 text = true
    ↔ text.length ≤ 8 ∧ ∃ checksum, Scanf.SpellsHex text (reverseBytes checksum).toNat := by
  rw [Scanf.isHexNumeral_iff (by decide)]
  refine and_congr_right fun _ => ?_
  constructor
  · rintro ⟨n, hn, hspells⟩
    refine ⟨reverseBytes (UInt32.ofNat n), ?_⟩
    rwa [reverseBytes_reverseBytes, UInt32.toNat_ofNat_of_lt' hn]
  · rintro ⟨checksum, hspells⟩
    exact ⟨_, (reverseBytes checksum).toNat_lt, hspells⟩

theorem hexValue_of_spellsHex {text : String} {checksum : UInt32}
    (h : Scanf.SpellsHex text checksum.toNat) : hexValue (some text) = checksum := by
  rw [hexValue, Option.bind_some, Scanf.scanHex_of_spellsHex h checksum.toNat_lt, Option.getD_some,
    UInt32.ofNat_toNat]

theorem otaupdateChecksumVerification_of_spellsHex {text : String} {checksum : UInt32}
    (h : Scanf.SpellsHex text (reverseBytes checksum).toNat) {session : Otaupdate}
    (htext : session.otaAttribute.otaChecksum = some text) :
    otaupdateChecksumVerification session = true ↔ session.state.checksum = checksum := by
  rw [otaupdateChecksumVerification_iff, htext, hexValue_of_spellsHex h, reverseBytes_reverseBytes]

/-- A text that is no numeral and passes for some checksum is not compared exactly. -/
theorem ComparedExactly.numeral {otaChecksum : Option String} {checksum : UInt32}
    (h : ComparedExactly otaChecksum)
    (hpasses : otaupdateChecksumVerification (.compared checksum otaChecksum) = true) :
    ∃ text ∈ otaChecksum, Scanf.isHexNumeral 8 text = true := by
  by_contra hmalformed
  have hrefused := h.malformed hmalformed (.compared checksum otaChecksum) rfl
  exact absurd (hpasses.symm.trans hrefused) (by simp)

/-- Numerals of at most eight digits are compared exactly, and nothing else is: for every other
    `ota_checksum` there is a checksum that passes. -/
theorem comparedExactly_iff (otaChecksum : Option String) :
    ComparedExactly otaChecksum ↔ ∃ text ∈ otaChecksum, Scanf.isHexNumeral 8 text = true := by
  constructor
  · intro h
    exact h.numeral ((otaupdateChecksumVerification_iff
      (.compared (reverseBytes (hexValue otaChecksum)) otaChecksum)).mpr rfl)
  · intro hnumeral
    refine ⟨?_, fun hmalformed => absurd hnumeral hmalformed⟩
    intro text htext _ checksum hspells session hsession
    exact otaupdateChecksumVerification_of_spellsHex hspells (hsession.trans htext)

/-- `NULL` and an empty text pass for an image whose checksum is zero, and digits in front of
    something else for the number they spell. -/
theorem comparedExactly_fails :
    (otaupdateChecksumVerification (.compared 0 none) = true ∧ ¬ ComparedExactly none) ∧
      (otaupdateChecksumVerification (.compared 0 (some "")) = true ∧ ¬ ComparedExactly (some "")) ∧
      otaupdateChecksumVerification (.compared 0x2639F4CB (some "cbf43926?")) = true ∧
      ¬ ComparedExactly (some "cbf43926?") := by
  have hnull : otaupdateChecksumVerification (.compared 0 none) = true := by decide
  have hempty : otaupdateChecksumVerification (.compared 0 (some "")) = true := by decide
  have htrailing : otaupdateChecksumVerification
      (.compared 0x2639F4CB (some "cbf43926?")) = true := by decide
  refine ⟨⟨hnull, ?_⟩, ⟨hempty, ?_⟩, htrailing, ?_⟩
  · intro h
    obtain ⟨text, htext, -⟩ := h.numeral hnull
    cases htext
  · intro h
    obtain ⟨text, htext, hnumeral⟩ := h.numeral hempty
    cases htext
    exact absurd hnumeral (by decide)
  · intro h
    obtain ⟨text, htext, hnumeral⟩ := h.numeral htrailing
    cases htext
    exact absurd hnumeral (by decide)

end ThingsboardMqtt
