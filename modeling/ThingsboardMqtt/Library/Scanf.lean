import Mathlib.Algebra.Group.Nat.Defs
import Mathlib.Data.List.Induction

set_option autoImplicit false

/-! # `sscanf` conversions

`scanHex` and `scanDec` are what `sscanf(text, "%x", &v)` and `sscanf(text, "%u", &v)` store in an
`unsigned int` of 32 bits: white space, a sign and the `0x` of a hexadecimal number are skipped, the
longest run of digits is converted, a number that does not fit reads as the largest one and a minus
sign negates modulo `2 ^ 32`. Without a digit nothing is stored. A C string is a `String` whose
characters are its bytes. -/

namespace Scanf

/-- `isspace` in the C locale -/
def isSpace (c : Char) : Bool :=
  c = ' ' || c = '\t' || c = '\n' || c = '\x0b' || c = '\x0c' || c = '\r'

/-- The value of a decimal digit. -/
def decDigit? (c : Char) : Option Nat :=
  if '0' ≤ c ∧ c ≤ '9' then some (c.toNat - '0'.toNat) else none

/-- The value of a hexadecimal digit. -/
def hexDigit? (c : Char) : Option Nat :=
  if '0' ≤ c ∧ c ≤ '9' then some (c.toNat - '0'.toNat)
  else if 'a' ≤ c ∧ c ≤ 'f' then some (c.toNat - 'a'.toNat + 10)
  else if 'A' ≤ c ∧ c ≤ 'F' then some (c.toNat - 'A'.toNat + 10)
  else none

/-- The number spelled by the leading digits, if there is one; `acc` is what was read so far. -/
def digitsPrefix (digit? : Char → Option Nat) (base : Nat) :
    Option Nat → List Char → Option Nat
  | acc, [] => acc
  | acc, c :: rest =>
    match digit? c with
    | some d => digitsPrefix digit? base (some (base * acc.getD 0 + d)) rest
    | none => acc

/-- The conversion of an unsigned 32-bit `strtoul`: saturation first, then the sign. -/
def saturate (negative : Bool) (n : Nat) : UInt32 :=
  if 2 ^ 32 ≤ n then UInt32.ofNat (2 ^ 32 - 1)
  else if negative then 0 - UInt32.ofNat n
  else UInt32.ofNat n

/-- Skip the `0x` a hexadecimal number may start with. -/
def skipHexMark : List Char → List Char
  | '0' :: 'x' :: rest => '0' :: rest
  | '0' :: 'X' :: rest => '0' :: rest
  | cs => cs

/-- A number with the white space and the sign that may stand before its digits. -/
def scanSigned (digits : List Char → Option Nat) (text : String) : Option UInt32 :=
  match text.toList.dropWhile isSpace with
  | '-' :: rest => (digits rest).map (saturate true)
  | '+' :: rest => (digits rest).map (saturate false)
  | rest => (digits rest).map (saturate false)

/-- `sscanf(text, "%x", &v)`: the value stored, if any. -/
def scanHex (text : String) : Option UInt32 :=
  scanSigned (fun cs => digitsPrefix hexDigit? 16 none (skipHexMark cs)) text

/-- `sscanf(text, "%u", &v)`: the value stored, if any. -/
def scanDec (text : String) : Option UInt32 := scanSigned (digitsPrefix decDigit? 10 none) text

/-- What stands behind the digits is not read. -/
theorem digitsPrefix_append (digit? : Char → Option Nat) (base : Nat) (acc : Option Nat)
    (front : List Char) {back : List Char} (hback : ∀ c ∈ back.head?, digit? c = none) :
    digitsPrefix digit? base acc (front ++ back) = digitsPrefix digit? base acc front := by
  induction front generalizing acc with
  | nil =>
    cases back with
    | nil => rfl
    | cons c rest =>
      have hc := hback c rfl
      simp [digitsPrefix, hc]
  | cons c front ih =>
    rw [List.cons_append, digitsPrefix, digitsPrefix]
    cases digit? c with
    | none => rfl
    | some d => exact ih _

/-! ## Printed numbers

`Nat.toDigits 10 n` is what `%u` prints and `Nat.toDigits 16 n` what `%x` prints; the conversions read
them back. -/

/-- Reading behind a printed number goes on with that number. -/
theorem digitsPrefix_toDigits {digit? : Char → Option Nat} {base : Nat} (hbase : 1 < base)
    (hdigit : ∀ d < base, digit? (Nat.digitChar d) = some d) (n : Nat) (rest : List Char) :
    digitsPrefix digit? base none (Nat.toDigits base n ++ rest)
      = digitsPrefix digit? base (some n) rest := by
  induction n using Nat.strongRecOn generalizing rest with
  | ind n ih =>
    rw [Nat.toDigits_eq_if hbase]
    split
    · rename_i hlt
      simp [digitsPrefix, hdigit n hlt]
    · rename_i hle
      have hdiv : n / base < n := Nat.div_lt_self (by omega) hbase
      have hmod : n % base < base := Nat.mod_lt n (by omega)
      rw [List.append_assoc, ih _ hdiv]
      simp [digitsPrefix, hdigit _ hmod, Nat.div_add_mod]

theorem decDigit?_digitChar : ∀ d < 10, decDigit? (Nat.digitChar d) = some d := by decide

theorem hexDigit?_digitChar : ∀ d < 16, hexDigit? (Nat.digitChar d) = some d := by decide

theorem exists_toDigits_eq_cons {base : Nat} (hbase : 1 < base) (n : Nat) :
    ∃ d < base, ∃ rest, Nat.toDigits base n = Nat.digitChar d :: rest := by
  induction n using Nat.strongRecOn with
  | ind n ih =>
    rw [Nat.toDigits_eq_if hbase]
    split
    · rename_i hlt
      exact ⟨n, hlt, [], rfl⟩
    · obtain ⟨d, hd, rest, hrest⟩ := ih _ (Nat.div_lt_self (by omega) hbase)
      exact ⟨d, hd, _, by rw [hrest, List.cons_append]⟩

theorem mem_toDigits {base : Nat} (hbase : 1 < base) {n : Nat} {c : Char}
    (hc : c ∈ Nat.toDigits base n) : ∃ d < base, c = Nat.digitChar d := by
  induction n using Nat.strongRecOn with
  | ind n ih =>
    rw [Nat.toDigits_eq_if hbase] at hc
    split at hc
    · rename_i hlt
      exact ⟨n, hlt, List.mem_singleton.mp hc⟩
    · rcases List.mem_append.mp hc with hc | hc
      · exact ih _ (Nat.div_lt_self (by omega) hbase) hc
      · exact ⟨n % base, Nat.mod_lt n (by omega), List.mem_singleton.mp hc⟩

theorem hexDigit?_plain {c : Char} {d : Nat} (h : hexDigit? c = some d) :
    isSpace c = false ∧ c ≠ '-' ∧ c ≠ '+' ∧ c ≠ 'x' ∧ c ≠ 'X' := by
  refine ⟨?_, ?_, ?_, ?_, ?_⟩
  · by_contra hspace
    simp only [isSpace, Bool.not_eq_false, Bool.or_eq_true, decide_eq_true_eq] at hspace
    rcases hspace with ((((rfl | rfl) | rfl) | rfl) | rfl) | rfl
    all_goals simp [hexDigit?] at h
  all_goals
    rintro rfl
    simp [hexDigit?] at h

/-- A text that starts with a digit has neither white space nor a sign in front. -/
theorem scanSigned_of_digit {digits : List Char → Option Nat} {text : String} {c : Char} {d : Nat}
    {rest : List Char} (hc : hexDigit? c = some d) (htext : text.toList = c :: rest) :
    scanSigned digits text = (digits text.toList).map (saturate false) := by
  obtain ⟨hspace, hminus, hplus, -⟩ := hexDigit?_plain hc
  simp only [scanSigned, htext, List.dropWhile_cons, hspace, Bool.false_eq_true, if_false]
  split
  · rename_i heq
    exact absurd (List.cons.inj heq).1 hminus
  · rename_i heq
    exact absurd (List.cons.inj heq).1 hplus
  · rfl

theorem saturate_of_lt {n : Nat} (hn : n < 2 ^ 32) : saturate false n = UInt32.ofNat n := by
  rw [saturate, if_neg (by omega), if_neg (by simp)]

/-- `%u` reads what `%u` printed, whatever follows that is no digit. -/
theorem scanDec_toDigits {n : Nat} (hn : n < 2 ^ 32) {rest : List Char}
    (hrest : ∀ c ∈ rest.head?, decDigit? c = none) :
    scanDec (String.ofList (Nat.toDigits 10 n ++ rest)) = some (UInt32.ofNat n) := by
  obtain ⟨d, hd, more, hmore⟩ := exists_toDigits_eq_cons (by decide : 1 < 10) n
  have hread : digitsPrefix decDigit? 10 none (Nat.toDigits 10 n ++ rest) = some n := by
    rw [digitsPrefix_toDigits (by decide) decDigit?_digitChar]
    cases rest with
    | nil => rfl
    | cons c rest => simp [digitsPrefix, hrest c (by simp)]
  rw [scanDec, scanSigned_of_digit (hexDigit?_digitChar d (by omega))
    (by rw [String.toList_ofList, hmore, List.cons_append]), String.toList_ofList, hread,
    Option.map_some, saturate_of_lt hn]

/-! ## Hexadecimal spellings -/

/-- A hexadecimal spelling of `n`: its digits in either letter case, behind any number of zeros. -/
def SpellsHex (text : String) (n : Nat) : Prop :=
  ∃ zeros, text.toList.map Char.toLower = List.replicate zeros '0' ++ Nat.toDigits 16 n

/-- A text that is nothing but hexadecimal digits, at least one and at most `digits`. -/
def isHexNumeral (digits : Nat) (text : String) : Bool :=
  0 < text.length && text.length ≤ digits && text.toList.all fun c => (hexDigit? c).isSome

/-- `%x` spells its argument. -/
theorem spellsHex_toDigits (n : Nat) : SpellsHex (String.ofList (Nat.toDigits 16 n)) n := by
  refine ⟨0, ?_⟩
  rw [String.toList_ofList, List.replicate_zero, List.nil_append]
  refine (List.map_congr_left ?_).trans (List.map_id _)
  intro c hc
  obtain ⟨d, hd, rfl⟩ := mem_toDigits (by decide) hc
  exact (by decide : ∀ d < 16, (Nat.digitChar d).toLower = Nat.digitChar d) d hd

theorem hexDigit?_toLower (c : Char) : hexDigit? c.toLower = hexDigit? c := by
  by_cases hupper : c.val ≥ 'A'.val ∧ c.val ≤ 'Z'.val
  · have hletters : ∀ n < 26, hexDigit? (Char.ofNat (65 + n)).toLower
        = hexDigit? (Char.ofNat (65 + n)) := by decide
    have hlow : 65 ≤ c.toNat := UInt32.le_iff_toNat_le.mp hupper.1
    have hhigh : c.toNat ≤ 90 := UInt32.le_iff_toNat_le.mp hupper.2
    have hletter := hletters (c.toNat - 65) (by omega)
    rwa [Nat.add_sub_cancel' hlow, Char.ofNat_toNat] at hletter
  · have hsame : c.toLower = c := dif_neg hupper
    rw [hsame]

/-- The letter case of a number does not matter. -/
theorem digitsPrefix_toLower (text : List Char) (acc : Option Nat) :
    digitsPrefix hexDigit? 16 acc (text.map Char.toLower) = digitsPrefix hexDigit? 16 acc text := by
  induction text generalizing acc with
  | nil => rfl
  | cons c rest ih =>
    simp only [List.map_cons, digitsPrefix, hexDigit?_toLower]
    cases hexDigit? c with
    | none => rfl
    | some d => exact ih _

/-- Zeros in front of a number do not matter. -/
theorem digitsPrefix_zeros (zeros n : Nat) :
    digitsPrefix hexDigit? 16 none (List.replicate zeros '0' ++ Nat.toDigits 16 n) = some n := by
  have hread : digitsPrefix hexDigit? 16 none (Nat.toDigits 16 n) = some n := by
    have happend := digitsPrefix_toDigits (by decide) hexDigit?_digitChar n []
    rwa [List.append_nil] at happend
  have hdigit : ∀ {c rest d}, hexDigit? c = some d → digitsPrefix hexDigit? 16 (some 0) (c :: rest)
      = digitsPrefix hexDigit? 16 none (c :: rest) := by
    intro c rest d hd
    simp [digitsPrefix, hd]
  induction zeros with
  | zero => exact hread
  | succ zeros ih =>
    rw [List.replicate_succ, List.cons_append]
    show digitsPrefix hexDigit? 16 (some 0) _ = _
    cases zeros with
    | zero =>
      obtain ⟨d, hd, more, hmore⟩ := exists_toDigits_eq_cons (by decide : 1 < 16) n
      rw [List.replicate_zero, List.nil_append] at ih ⊢
      rw [hmore] at ih ⊢
      rw [hdigit (hexDigit?_digitChar d hd), ih]
    | succ zeros =>
      rw [List.replicate_succ, List.cons_append] at ih ⊢
      rw [hdigit (d := 0) rfl, ih]

/-- The digits of a spelling. -/
theorem SpellsHex.digits {text : String} {n : Nat} (h : SpellsHex text n) :
    ∀ c ∈ text.toList, ∃ d, hexDigit? c = some d := by
  obtain ⟨zeros, htext⟩ := h
  intro c hc
  have hlower : c.toLower ∈ List.replicate zeros '0' ++ Nat.toDigits 16 n :=
    htext ▸ List.mem_map_of_mem hc
  rw [← hexDigit?_toLower]
  rcases List.mem_append.mp hlower with hzero | hdigit
  · rw [List.eq_of_mem_replicate hzero]
    exact ⟨0, rfl⟩
  · obtain ⟨d, hd, heq⟩ := mem_toDigits (by decide) hdigit
    exact ⟨d, heq ▸ hexDigit?_digitChar d hd⟩

/-- `%x` reads what spells a number. -/
theorem scanHex_of_spellsHex {text : String} {n : Nat} (h : SpellsHex text n) (hn : n < 2 ^ 32) :
    scanHex text = some (UInt32.ofNat n) := by
  have hdigits := h.digits
  obtain ⟨zeros, htext⟩ := h
  have hread : digitsPrefix hexDigit? 16 none text.toList = some n := by
    rw [← digitsPrefix_toLower, htext, digitsPrefix_zeros]
  have hmark : skipHexMark text.toList = text.toList := by
    generalize text.toList = digits at hdigits
    unfold skipHexMark
    split
    · obtain ⟨d, hd⟩ := hdigits 'x' (by simp)
      exact absurd rfl (hexDigit?_plain hd).2.2.2.1
    · obtain ⟨d, hd⟩ := hdigits 'X' (by simp)
      exact absurd rfl (hexDigit?_plain hd).2.2.2.2
    · rfl
  cases hlist : text.toList with
  | nil =>
    rw [hlist] at hread
    exact absurd hread (by simp [digitsPrefix])
  | cons c rest =>
    obtain ⟨d, hd⟩ := hdigits c (hlist ▸ List.mem_cons_self)
    rw [scanHex, scanSigned_of_digit hd hlist, hmark, hread, Option.map_some, saturate_of_lt hn]

/-- A digit is one of the sixteen, and prints in lower case. -/
theorem toLower_of_hexDigit? {c : Char} {d : Nat} (h : hexDigit? c = some d) :
    d < 16 ∧ c.toLower = Nat.digitChar d := by
  have hascii : c.toNat < 103 := by
    have hle : ∀ last : Char, last.toNat < 103 → c ≤ last → c.toNat < 103 :=
      fun _ hlast hc => Nat.lt_of_le_of_lt (UInt32.le_iff_toNat_le.mp hc) hlast
    unfold hexDigit? at h
    split_ifs at h with hdec hlower hupper
    · exact hle '9' (by decide) hdec.2
    · exact hle 'f' (by decide) hlower.2
    · exact hle 'F' (by decide) hupper.2
  have hdigits : ∀ n < 103, ∀ d ∈ hexDigit? (Char.ofNat n),
      d < 16 ∧ (Char.ofNat n).toLower = Nat.digitChar d := by decide
  have hdigit := hdigits c.toNat hascii d
  rw [Char.ofNat_toNat] at hdigit
  exact hdigit h

theorem exists_spellsHex {text : String} (hne : text.toList ≠ [])
    (hdigits : ∀ c ∈ text.toList, ∃ d, hexDigit? c = some d) : ∃ n, SpellsHex text n := by
  unfold SpellsHex
  generalize text.toList = digits at hne hdigits
  induction digits using List.reverseRecOn with
  | nil => exact absurd rfl hne
  | append_singleton front c ih =>
    obtain ⟨d, hd⟩ := hdigits c (by simp)
    obtain ⟨hlt, hlower⟩ := toLower_of_hexDigit? hd
    rw [List.map_append, List.map_singleton, hlower, ← Nat.toDigits_of_lt_base hlt]
    rcases eq_or_ne front [] with rfl | hfront
    · exact ⟨d, 0, rfl⟩
    obtain ⟨n, zeros, hspells⟩ := ih hfront fun c hc => hdigits c (List.mem_append_left _ hc)
    rw [hspells]
    rcases Nat.eq_zero_or_pos n with rfl | hpos
    -- a zero that is all there is so far is one more in front
    · exact ⟨d, zeros + 1, by rw [Nat.toDigits_zero, List.replicate_succ']⟩
    · refine ⟨16 * n + d, zeros, ?_⟩
      rw [← Nat.toDigits_append_toDigits (by decide) hpos hlt, List.append_assoc]

/-- The numerals are the spellings of the numbers that fit. -/
theorem isHexNumeral_iff {digits : Nat} (hdigits : 0 < digits) {text : String} :
    isHexNumeral digits text = true
      ↔ text.length ≤ digits ∧ ∃ n < 16 ^ digits, SpellsHex text n := by
  simp only [isHexNumeral, Bool.and_eq_true, decide_eq_true_eq, List.all_eq_true,
    Option.isSome_iff_exists, ← String.length_toList]
  constructor
  · rintro ⟨⟨hpos, hle⟩, hall⟩
    obtain ⟨n, zeros, hspells⟩ := exists_spellsHex (List.ne_nil_of_length_pos hpos) hall
    have hlength := congrArg List.length hspells
    rw [List.length_map, List.length_append] at hlength
    refine ⟨hle, n, ?_, zeros, hspells⟩
    rw [← Nat.length_toDigits_le_iff (by decide) hdigits]
    omega
  · rintro ⟨hle, n, -, hspells⟩
    refine ⟨⟨?_, hle⟩, hspells.digits⟩
    obtain ⟨zeros, htext⟩ := hspells
    have hlength := congrArg List.length htext
    rw [List.length_map, List.length_append] at hlength
    have hpos : 0 < (Nat.toDigits 16 n).length := Nat.length_toDigits_pos
    omega

end Scanf
