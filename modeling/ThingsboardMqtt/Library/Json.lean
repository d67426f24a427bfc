import Mathlib.Data.List.Basic

set_option autoImplicit false

/-! # JSON texts

A parser of JSON texts. A string is given by its UTF-16 code units, since an escape may write one half
of a surrogate pair, and a number by the characters that write it. A parser returns what it read and
what is left; `Local` parsers read the same in front of a closing character, and `fuel` bounds how
deep values are nested, for which the length of what they read is enough. -/

/-- A JSON value. -/
inductive Json
  | null
  | bool (value : Bool)
  | number (chars : List Char)
  | string (units : List Nat)
  | array (items : List Json)
  | object (members : List (List Nat × Json))

namespace Json

abbrev Parser (α : Type) := List Char → Option (α × List Char)

/-! ## Strings -/

/-- The code units of a character. -/
def utf16 (c : Char) : List Nat :=
  if c.toNat < 0x10000 then [c.toNat]
  else [0xD800 + (c.toNat - 0x10000) / 0x400, 0xDC00 + (c.toNat - 0x10000) % 0x400]

/-- The code units of a text. -/
def units (text : List Char) : List Nat := text.flatMap utf16

/-- A control character. -/
def isControl (c : Char) : Bool := c.toNat < 0x20

/-- The text stands for itself between quotes. -/
def Plain (text : List Char) : Prop := ∀ c ∈ text, c ≠ '"' ∧ c ≠ '\\' ∧ isControl c = false

instance (text : List Char) : Decidable (Plain text) :=
  List.decidableBAll (fun c => c ≠ '"' ∧ c ≠ '\\' ∧ isControl c = false) text

def hexDigit (c : Char) : Option Nat :=
  if c.isDigit then some (c.toNat - '0'.toNat)
  else if 'a' ≤ c ∧ c ≤ 'f' then some (c.toNat - 'a'.toNat + 10)
  else if 'A' ≤ c ∧ c ≤ 'F' then some (c.toNat - 'A'.toNat + 10)
  else none

/-- What the character behind a backslash stands for. -/
def escaped : Char → Option Nat
  | '"' => some 0x22
  | '\\' => some 0x5C
  | '/' => some 0x2F
  | 'b' => some 0x08
  | 'f' => some 0x0C
  | 'n' => some 0x0A
  | 'r' => some 0x0D
  | 't' => some 0x09
  | _ => none

/-- `\uXXXX` -/
def hexUnit (a b c d : Char) : Option Nat := do
  let a ← hexDigit a
  let b ← hexDigit b
  let c ← hexDigit c
  let d ← hexDigit d
  some (((a * 16 + b) * 16 + c) * 16 + d)

/-- A string, behind its first quote. -/
def body : Parser (List Nat)
  | [] => none
  | '"' :: rest => some ([], rest)
  | '\\' :: 'u' :: a :: b :: c :: d :: rest => do
    let unit ← hexUnit a b c d
    let (more, rest) ← body rest
    some (unit :: more, rest)
  | '\\' :: c :: rest => do
    let unit ← escaped c
    let (more, rest) ← body rest
    some (unit :: more, rest)
  | c :: rest =>
    if c = '\\' ∨ isControl c then none
    else do
      let (more, rest) ← body rest
      some (utf16 c ++ more, rest)

/-! ## Numbers and literals -/

/-- One digit at least. -/
def digits (text : List Char) : Option (List Char × List Char) :=
  if text.takeWhile Char.isDigit = [] then none
  else some (text.takeWhile Char.isDigit, text.dropWhile Char.isDigit)

/-- No zero stands in front of another digit. -/
def intPart : Parser (List Char)
  | [] => none
  | c :: rest => if c = '0' then some (['0'], rest) else digits (c :: rest)

/-- One of the characters, or none of them. -/
def optional (chars : List Char) : Parser (List Char)
  | [] => some ([], [])
  | c :: rest => if c ∈ chars then some ([c], rest) else some ([], c :: rest)

/-- A fraction or an exponent: digits behind one of the characters, and behind one of the signs. -/
def suffix (chars signs : List Char) : Parser (List Char)
  | [] => some ([], [])
  | c :: rest =>
    if c ∈ chars then do
      let (sign, rest) ← optional signs rest
      let (more, rest) ← digits rest
      some (c :: (sign ++ more), rest)
    else some ([], c :: rest)

def numberText (text : List Char) : Option (List Char × List Char) := do
  let (minus, rest) ← optional ['-'] text
  let (whole, rest) ← intPart rest
  let (fraction, rest) ← suffix ['.'] [] rest
  let (exponent, rest) ← suffix ['e', 'E'] ['+', '-'] rest
  some (minus ++ whole ++ fraction ++ exponent, rest)

def literal : Parser Json
  | 'n' :: 'u' :: 'l' :: 'l' :: rest => some (.null, rest)
  | 't' :: 'r' :: 'u' :: 'e' :: rest => some (.bool true, rest)
  | 'f' :: 'a' :: 'l' :: 's' :: 'e' :: rest => some (.bool false, rest)
  | _ => none

/-- A value that is neither a string nor made of others. -/
def scalar (text : List Char) : Option (Json × List Char) :=
  match numberText text with
  | some (chars, rest) => some (.number chars, rest)
  | none => literal text

/-! ## Values -/

def isSpace (c : Char) : Bool := c = ' ' || c = '\t' || c = '\n' || c = '\r'

/-- White space is skipped. -/
def skip (text : List Char) : List Char := text.dropWhile isSpace

/-- The character is next, behind white space. -/
def next (c : Char) (text : List Char) : Option (List Char) :=
  match skip text with
  | [] => none
  | first :: rest => if first = c then some rest else none

/-- Elements with commas between them, up to the character that closes them. -/
def elements {α : Type} (close : Char) (element : Parser α) : Nat → Parser (List α)
  | 0, _ => none
  | fuel + 1, text => do
    let (first, rest) ← element text
    match next close rest with
    | some rest => some ([first], rest)
    | none => do
      let rest ← next ',' rest
      let (more, rest) ← elements close element fuel rest
      some (first :: more, rest)

/-- What stands between brackets. -/
def bracketed {α : Type} (close : Char) (element : Parser α) (fuel : Nat) : Parser (List α) :=
  fun text =>
    match next close text with
    | some rest => some ([], rest)
    | none => elements close element fuel text

/-- A name and its value. -/
def member (value : Parser Json) (text : List Char) : Option ((List Nat × Json) × List Char) := do
  let rest ← next '"' text
  let (name, rest) ← body rest
  let rest ← next ':' rest
  let (value, rest) ← value rest
  some ((name, value), rest)

def value : Nat → Parser Json
  | 0, _ => none
  | fuel + 1, text =>
    match skip text with
    | [] => none
    | '"' :: rest => do
      let (chars, rest) ← body rest
      some (.string chars, rest)
    | '[' :: rest => do
      let (items, rest) ← bracketed ']' (value fuel) fuel rest
      some (.array items, rest)
    | '{' :: rest => do
      let (members, rest) ← bracketed '}' (member (value fuel)) fuel rest
      some (.object members, rest)
    | text => scalar text

/-- A whole text. -/
def parse (text : List Char) : Option Json := do
  let (value, rest) ← value text.length text
  if skip rest = [] then some value else none

/-! ## What a string reads -/


@[simp] theorem units_cons (c : Char) (text : List Char) :
    units (c :: text) = utf16 c ++ units text := rfl

theorem units_append (front back : List Char) : units (front ++ back) = units front ++ units back :=
  List.flatMap_append

theorem utf16_ne_nil (c : Char) : utf16 c ≠ [] := by
  unfold utf16
  split <;> simp

theorem count_quote_utf16_le (c : Char) : (utf16 c).count 0x22 ≤ [c].count '"' := by
  unfold utf16
  split
  · by_cases hquote : c = '"'
    · subst hquote
      decide
    · have hne : c.toNat ≠ 0x22 := fun h => hquote (Char.toNat_inj.mp h)
      simp [hne]
  · refine Nat.le_trans (Nat.le_of_eq (List.count_eq_zero.mpr ?_)) (Nat.zero_le _)
    simp only [List.mem_cons, List.not_mem_nil, or_false]
    omega

/-- Code units show no more quotes than the text has. -/
theorem count_quote_units_le (text : List Char) : (units text).count 0x22 ≤ text.count '"' := by
  induction text with
  | nil => exact Nat.le_refl _
  | cons c text ih =>
    rw [units_cons, List.count_append, ← List.singleton_append, List.count_append]
    exact Nat.add_le_add (count_quote_utf16_le c) ih

/-- What is between the quotes writes the code units: a quote in it is escaped, an escape is longer
    than what it stands for, and without escapes the text stands for itself. -/
structure Writes (front : List Char) (written : List Nat) : Prop where
  quotes : front.count '"' ≤ written.count 0x22
  length : written.length ≤ (units front).length
  plain : (units front).length ≤ written.length → Plain front

theorem Writes.nil : Writes [] [] :=
  ⟨Nat.le_refl _, Nat.le_refl _, fun _ _ h => absurd h List.not_mem_nil⟩

theorem hexDigit_quote_ne {c : Char} {digit : Nat} (h : hexDigit c = some digit) : c ≠ '"' := by
  rintro rfl
  have hnone : hexDigit '"' = none := rfl
  exact absurd (hnone.symm.trans h) (by simp)

theorem Writes.escape {chars front : List Char} {written : List Nat} (h : Writes front written)
    {unit : Nat} (hne : chars ≠ []) (hquotes : chars.count '"' ≤ [unit].count 0x22) :
    Writes ('\\' :: (chars ++ front)) (unit :: written) := by
  have hslash : utf16 '\\' = [0x5C] := rfl
  have hchars : 0 < (units chars).length := by
    cases chars with
    | nil => exact absurd rfl hne
    | cons c chars =>
      rw [units_cons, List.length_append]
      exact Nat.lt_of_lt_of_le (List.length_pos_iff.mpr (utf16_ne_nil c)) (Nat.le_add_right _ _)
  have hlength := h.length
  have hunits : (units ('\\' :: (chars ++ front))).length
      = 1 + ((units chars).length + (units front).length) := by
    rw [units_cons, units_append, List.length_append, List.length_append, hslash,
      List.length_singleton]
  refine ⟨?_, ?_, ?_⟩
  · rw [List.count_cons_of_ne (by decide), List.count_append, ← List.singleton_append (x := unit),
      List.count_append]
    exact Nat.add_le_add hquotes h.quotes
  · rw [hunits, List.length_cons]
    omega
  · intro hle
    rw [hunits, List.length_cons] at hle
    omega

theorem Writes.char {front : List Char} {written : List Nat} (h : Writes front written) {c : Char}
    (hquote : c ≠ '"') (hslash : c ≠ '\\') (hcontrol : isControl c = false) :
    Writes (c :: front) (utf16 c ++ written) := by
  have hlength := h.length
  refine ⟨?_, ?_, ?_⟩
  · rw [List.count_cons_of_ne hquote, List.count_append]
    exact Nat.le_trans h.quotes (Nat.le_add_left _ _)
  · rw [units_cons, List.length_append, List.length_append]
    omega
  · intro hle c' hmem
    rw [units_cons, List.length_append, List.length_append] at hle
    obtain rfl | hmem := List.mem_cons.mp hmem
    · exact ⟨hquote, hslash, hcontrol⟩
    · exact h.plain (by omega) c' hmem

/-- A string ends at a quote, and what is in front of it writes the code units. -/
theorem body_spec {text rest : List Char} {written : List Nat}
    (h : body text = some (written, rest)) :
    ∃ front, text = front ++ '"' :: rest ∧ Writes front written ∧
      ∀ rest', body (front ++ '"' :: rest') = some (written, rest') := by
  fun_induction body text generalizing written with
  | case1 => simp at h
  | case2 =>
    simp only [Option.some.injEq, Prod.mk.injEq] at h
    obtain ⟨rfl, rfl⟩ := h
    exact ⟨[], rfl, .nil, fun _ => rfl⟩
  | case3 a b c d text ih =>
    simp only [Option.bind_eq_bind, Option.bind_eq_some_iff, Prod.exists, Option.some.injEq,
      Prod.mk.injEq] at h
    obtain ⟨unit, hunit, more, rest', hmore, rfl, rfl⟩ := h
    obtain ⟨front, rfl, hwrites, hread⟩ := ih hmore
    refine ⟨'\\' :: (['u', a, b, c, d] ++ front), by simp, ?_, ?_⟩
    · refine hwrites.escape (by simp) ?_
      simp only [hexUnit, Option.bind_eq_bind, Option.bind_eq_some_iff] at hunit
      obtain ⟨_, ha, _, hb, _, hc, _, hd, -⟩ := hunit
      rw [List.count_eq_zero.mpr]
      · exact Nat.zero_le _
      · simp [Ne.symm (hexDigit_quote_ne ha), Ne.symm (hexDigit_quote_ne hb),
          Ne.symm (hexDigit_quote_ne hc), Ne.symm (hexDigit_quote_ne hd)]
    · intro rest'
      simp [body, hunit, hread]
  | case4 c text hc ih =>
    simp only [Option.bind_eq_bind, Option.bind_eq_some_iff, Prod.exists, Option.some.injEq,
      Prod.mk.injEq] at h
    obtain ⟨unit, hunit, more, rest', hmore, rfl, rfl⟩ := h
    obtain ⟨front, rfl, hwrites, hread⟩ := ih hmore
    refine ⟨'\\' :: ([c] ++ front), by simp, ?_, ?_⟩
    · refine hwrites.escape (by simp) ?_
      by_cases hquote : c = '"'
      · subst hquote
        obtain rfl : 0x22 = unit := Option.some.inj hunit
        decide
      · rw [List.count_eq_zero.mpr]
        · exact Nat.zero_le _
        · simpa using Ne.symm hquote
    · intro rest'
      have hne : c ≠ 'u' := by
        rintro rfl
        exact absurd hunit (by simp [escaped])
      rw [List.singleton_append, List.cons_append, List.cons_append, body]
      · simp [hunit, hread]
      · intro _ _ _ _ _ h
        exact absurd h hne
  | case5 => simp at h
  | case6 c text hquote hu hslash hc ih =>
    simp only [Option.bind_eq_bind, Option.bind_eq_some_iff, Prod.exists, Option.some.injEq,
      Prod.mk.injEq] at h
    obtain ⟨more, rest', hmore, rfl, rfl⟩ := h
    obtain ⟨front, rfl, hwrites, hread⟩ := ih hmore
    simp only [not_or, Bool.not_eq_true] at hc
    refine ⟨c :: front, rfl, hwrites.char hquote hc.1 hc.2, ?_⟩
    intro rest'
    rw [List.cons_append, body]
    · simp [hc, hread]
    · exact hquote
    · intro _ _ _ _ _ h
      exact absurd h hc.1
    · intro _ _ h
      exact absurd h hc.1

theorem body_length {text rest : List Char} {written : List Nat}
    (h : body text = some (written, rest)) : rest.length < text.length := by
  obtain ⟨front, rfl, -, -⟩ := body_spec h
  rw [List.length_append, List.length_cons]
  omega

theorem body_append {text rest : List Char} {written : List Nat}
    (h : body text = some (written, rest)) (tail : List Char) :
    body (text ++ tail) = some (written, rest ++ tail) := by
  obtain ⟨front, rfl, -, hread⟩ := body_spec h
  rw [List.append_assoc, List.cons_append]
  exact hread (rest ++ tail)

theorem body_of_plain {front : List Char} (hplain : Plain front) (rest : List Char) :
    body (front ++ '"' :: rest) = some (units front, rest) := by
  induction front with
  | nil => rfl
  | cons c front ih =>
    have hc := hplain c List.mem_cons_self
    have hfront := ih fun c hmem => hplain c (List.mem_cons_of_mem _ hmem)
    rw [List.cons_append, body]
    · simp [hc, hfront]
    · exact hc.1
    · intro _ _ _ _ _ h
      exact absurd h hc.2.1
    · intro _ _ h
      exact absurd h hc.2.1

theorem plain_of_body {text back rest : List Char}
    (h : body (text ++ '"' :: back) = some (units text, rest)) : Plain text := by
  obtain ⟨front, hsplit, hwrites, -⟩ := body_spec h
  rcases List.append_eq_append_iff.mp hsplit with ⟨more, hfront, hback⟩ | ⟨more, rfl, -⟩
  · cases more with
    | nil =>
      obtain rfl : front = text := by rw [hfront, List.append_nil]
      exact hwrites.plain (Nat.le_refl _)
    | cons c more =>
      -- a quote of the text that follows would be escaped in the string
      obtain rfl : '"' = c := (List.cons.inj hback).1
      have hquotes := Nat.le_trans hwrites.quotes (count_quote_units_le text)
      rw [hfront, List.count_append, List.count_cons_self] at hquotes
      omega
  · have hlength := hwrites.length
    rw [units_append, List.length_append] at hlength
    have hnil : more = [] := by
      cases more with
      | nil => rfl
      | cons c more =>
        have hpos := List.length_pos_iff.mpr (utf16_ne_nil c)
        rw [units_cons, List.length_append] at hlength
        omega
    subst hnil
    rw [List.append_nil] at hwrites ⊢
    exact hwrites.plain (Nat.le_refl _)

/-! ## What is left behind -/

/-- What may stand behind a value inside of another one. -/
def Closing (tail : List Char) : Prop := ∀ c ∈ tail.head?, c = ',' ∨ c = ']' ∨ c = '}'

theorem closing_cons {c : Char} {tail : List Char} :
    Closing (c :: tail) ↔ c = ',' ∨ c = ']' ∨ c = '}' := by
  simp [Closing]

/-- The parser reads the same in front of a closing character. -/
def Local {α : Type} (p : Parser α) : Prop :=
  ∀ text a rest, p text = some (a, rest) →
    rest.length ≤ text.length ∧ ∀ tail, Closing tail → p (text ++ tail) = some (a, rest ++ tail)

theorem takeWhile_closing {p : Char → Bool} (hp : p ',' = false ∧ p ']' = false ∧ p '}' = false)
    {tail : List Char} (htail : Closing tail) (text : List Char) :
    (text ++ tail).takeWhile p = text.takeWhile p ∧
      (text ++ tail).dropWhile p = text.dropWhile p ++ tail := by
  induction text with
  | nil =>
    cases tail with
    | nil => exact ⟨rfl, rfl⟩
    | cons c tail =>
      have hc : p c = false := by
        rcases closing_cons.mp htail with rfl | rfl | rfl
        · exact hp.1
        · exact hp.2.1
        · exact hp.2.2
      simp [hc]
  | cons c text ih =>
    cases hc : p c with
    | false => simp [hc]
    | true => simp [hc, ih]

theorem skip_append {tail : List Char} (htail : Closing tail) (text : List Char) :
    skip (text ++ tail) = skip text ++ tail :=
  (takeWhile_closing (by decide) htail text).2

theorem skip_length (text : List Char) : (skip text).length ≤ text.length :=
  (List.dropWhile_sublist _).length_le

theorem digits_local : Local digits := by
  intro text chars rest h
  unfold digits at h
  split at h
  · simp at h
  · rename_i hne
    simp only [Option.some.injEq, Prod.mk.injEq] at h
    obtain ⟨rfl, rfl⟩ := h
    refine ⟨(List.dropWhile_sublist _).length_le, ?_⟩
    intro tail htail
    obtain ⟨htake, hdrop⟩ := takeWhile_closing (p := Char.isDigit) (by decide) htail text
    rw [digits, htake, hdrop, if_neg hne]

theorem intPart_local : Local intPart := by
  intro text chars rest h
  cases text with
  | nil => simp [intPart] at h
  | cons c text =>
    rw [intPart] at h
    split at h
    · rename_i hzero
      simp only [Option.some.injEq, Prod.mk.injEq] at h
      obtain ⟨rfl, rfl⟩ := h
      exact ⟨Nat.le_succ _, fun tail _ => if_pos hzero⟩
    · rename_i hzero
      obtain ⟨hlength, hread⟩ := digits_local _ _ _ h
      exact ⟨hlength, fun tail htail => (if_neg hzero).trans (hread tail htail)⟩

/-- None of the characters closes a value. -/
def Open (chars : List Char) : Prop := ∀ c ∈ chars, c ≠ ',' ∧ c ≠ ']' ∧ c ≠ '}'

instance (chars : List Char) : Decidable (Open chars) :=
  List.decidableBAll (fun c => c ≠ ',' ∧ c ≠ ']' ∧ c ≠ '}') chars

theorem not_mem_of_closing {chars : List Char} (hchars : Open chars) {c : Char} {tail : List Char}
    (htail : Closing (c :: tail)) : c ∉ chars := by
  intro hmem
  obtain ⟨hcomma, hbracket, hbrace⟩ := hchars c hmem
  rcases closing_cons.mp htail with rfl | rfl | rfl
  · exact hcomma rfl
  · exact hbracket rfl
  · exact hbrace rfl

theorem optional_local {chars : List Char} (hchars : Open chars) : Local (optional chars) := by
  intro text found rest h
  cases text with
  | nil =>
    simp only [optional, Option.some.injEq, Prod.mk.injEq] at h
    obtain ⟨rfl, rfl⟩ := h
    refine ⟨Nat.le_refl _, ?_⟩
    intro tail htail
    cases tail with
    | nil => rfl
    | cons c tail => exact if_neg (not_mem_of_closing hchars htail)
  | cons c text =>
    rw [optional] at h
    split at h
    · rename_i hmem
      simp only [Option.some.injEq, Prod.mk.injEq] at h
      obtain ⟨rfl, rfl⟩ := h
      exact ⟨Nat.le_succ _, fun tail _ => if_pos hmem⟩
    · rename_i hmem
      simp only [Option.some.injEq, Prod.mk.injEq] at h
      obtain ⟨rfl, rfl⟩ := h
      exact ⟨Nat.le_refl _, fun tail _ => if_neg hmem⟩

theorem suffix_local {chars signs : List Char} (hchars : Open chars) (hsigns : Open signs) :
    Local (suffix chars signs) := by
  intro text found rest h
  cases text with
  | nil =>
    simp only [suffix, Option.some.injEq, Prod.mk.injEq] at h
    obtain ⟨rfl, rfl⟩ := h
    refine ⟨Nat.le_refl _, ?_⟩
    intro tail htail
    cases tail with
    | nil => rfl
    | cons c tail => exact if_neg (not_mem_of_closing hchars htail)
  | cons c text =>
    rw [suffix] at h
    split at h
    · rename_i hmem
      simp only [Option.bind_eq_bind, Option.bind_eq_some_iff, Prod.exists, Option.some.injEq,
        Prod.mk.injEq] at h
      obtain ⟨sign, rest₁, hsign, more, rest₂, hmore, rfl, rfl⟩ := h
      obtain ⟨hlength₁, hread₁⟩ := optional_local hsigns _ _ _ hsign
      obtain ⟨hlength₂, hread₂⟩ := digits_local _ _ _ hmore
      refine ⟨by rw [List.length_cons]; omega, ?_⟩
      intro tail htail
      rw [List.cons_append, suffix, if_pos hmem]
      simp [hread₁ tail htail, hread₂ tail htail]
    · rename_i hmem
      simp only [Option.some.injEq, Prod.mk.injEq] at h
      obtain ⟨rfl, rfl⟩ := h
      exact ⟨Nat.le_refl _, fun tail _ => if_neg hmem⟩

theorem numberText_local : Local numberText := by
  intro text chars rest h
  simp only [numberText, Option.bind_eq_bind, Option.bind_eq_some_iff, Prod.exists,
    Option.some.injEq, Prod.mk.injEq] at h
  obtain ⟨minus, rest₁, hminus, whole, rest₂, hwhole, fraction, rest₃, hfraction, exponent, rest₄,
    hexponent, rfl, rfl⟩ := h
  obtain ⟨hlength₁, hread₁⟩ := optional_local (by decide) _ _ _ hminus
  obtain ⟨hlength₂, hread₂⟩ := intPart_local _ _ _ hwhole
  obtain ⟨hlength₃, hread₃⟩ := suffix_local (by decide) (by decide) _ _ _ hfraction
  obtain ⟨hlength₄, hread₄⟩ := suffix_local (by decide) (by decide) _ _ _ hexponent
  refine ⟨by omega, ?_⟩
  intro tail htail
  simp [numberText, hread₁ tail htail, hread₂ tail htail, hread₃ tail htail, hread₄ tail htail]

theorem digits_length {text chars rest : List Char} (h : digits text = some (chars, rest)) :
    rest.length < text.length := by
  unfold digits at h
  split at h
  · simp at h
  · rename_i hne
    simp only [Option.some.injEq, Prod.mk.injEq] at h
    obtain ⟨rfl, rfl⟩ := h
    have hsplit := congrArg List.length
      (List.takeWhile_append_dropWhile (p := Char.isDigit) (l := text))
    have hpos := List.length_pos_iff.mpr hne
    rw [List.length_append] at hsplit
    omega

theorem numberText_length {text chars rest : List Char}
    (h : numberText text = some (chars, rest)) : rest.length < text.length := by
  simp only [numberText, Option.bind_eq_bind, Option.bind_eq_some_iff, Prod.exists,
    Option.some.injEq, Prod.mk.injEq] at h
  obtain ⟨minus, rest₁, hminus, whole, rest₂, hwhole, fraction, rest₃, hfraction, exponent, rest₄,
    hexponent, rfl, rfl⟩ := h
  have hlength₁ := (optional_local (by decide) _ _ _ hminus).1
  have hlength₃ := (suffix_local (by decide) (by decide) _ _ _ hfraction).1
  have hlength₄ := (suffix_local (by decide) (by decide) _ _ _ hexponent).1
  have hlength₂ : rest₂.length < rest₁.length := by
    cases rest₁ with
    | nil => simp [intPart] at hwhole
    | cons c rest₁ =>
      rw [intPart] at hwhole
      split at hwhole
      · simp only [Option.some.injEq, Prod.mk.injEq] at hwhole
        obtain ⟨-, rfl⟩ := hwhole
        exact Nat.lt_succ_self _
      · exact digits_length hwhole
  omega

theorem literal_spec {text rest : List Char} {found : Json} (h : literal text = some (found, rest)) :
    rest.length < text.length ∧ ∀ tail, scalar (text ++ tail) = some (found, rest ++ tail) := by
  fun_cases literal text with
  | case1 rest =>
    obtain ⟨rfl, rfl⟩ := Prod.mk.inj (Option.some.inj h)
    exact ⟨by simp only [List.length_cons]; omega, fun _ => rfl⟩
  | case2 rest =>
    obtain ⟨rfl, rfl⟩ := Prod.mk.inj (Option.some.inj h)
    exact ⟨by simp only [List.length_cons]; omega, fun _ => rfl⟩
  | case3 rest =>
    obtain ⟨rfl, rfl⟩ := Prod.mk.inj (Option.some.inj h)
    exact ⟨by simp only [List.length_cons]; omega, fun _ => rfl⟩
  | case4 text hnull htrue hfalse =>
    rw [literal] at h
    · simp at h
    all_goals assumption

theorem scalar_spec {text rest : List Char} {found : Json} (h : scalar text = some (found, rest)) :
    rest.length < text.length ∧
      ∀ tail, Closing tail → scalar (text ++ tail) = some (found, rest ++ tail) := by
  rw [scalar] at h
  split at h
  · rename_i hnumber
    simp only [Option.some.injEq, Prod.mk.injEq] at h
    obtain ⟨rfl, rfl⟩ := h
    refine ⟨numberText_length hnumber, ?_⟩
    intro tail htail
    rw [scalar, (numberText_local _ _ _ hnumber).2 tail htail]
  · obtain ⟨hlength, hread⟩ := literal_spec h
    exact ⟨hlength, fun tail _ => hread tail⟩

/-! ## Nested values -/

/-- What is read with `fuel` is read in front of a closing character, too, with any fuel that is no
    less than the length of what is read. -/
def Extends {α : Type} (p : Nat → Parser α) (fuel : Nat) : Prop :=
  ∀ text a rest, p fuel text = some (a, rest) →
    skip text ≠ [] ∧ rest.length < text.length ∧
      ∀ more tail, Closing tail → text.length ≤ more + rest.length →
        p more (text ++ tail) = some (a, rest ++ tail)

theorem next_eq_some {c : Char} {text rest : List Char} :
    next c text = some rest ↔ skip text = c :: rest := by
  unfold next
  split
  · rename_i hskip
    simp [hskip]
  · rename_i first more hskip
    rw [hskip]
    split
    · rename_i hfirst
      simp [hfirst]
    · rename_i hfirst
      simp [hfirst]

theorem next_length {c : Char} {text rest : List Char} (h : next c text = some rest) :
    rest.length < text.length := by
  have hlength := skip_length text
  rw [next_eq_some.mp h, List.length_cons] at hlength
  omega

theorem next_append {c : Char} {text : List Char} (hne : skip text ≠ []) {tail : List Char}
    (htail : Closing tail) : next c (text ++ tail) = (next c text).map (· ++ tail) := by
  rw [next, next, skip_append htail]
  cases hskip : skip text with
  | nil => exact absurd hskip hne
  | cons first rest =>
    simp only [List.cons_append]
    split <;> rfl

theorem next_append_of_some {c : Char} {text rest : List Char} (h : next c text = some rest)
    {tail : List Char} (htail : Closing tail) : next c (text ++ tail) = some (rest ++ tail) := by
  have hne : skip text ≠ [] := by
    rw [next_eq_some.mp h]
    exact List.cons_ne_nil _ _
  rw [next_append hne htail, h]
  rfl

theorem elements_extends {α : Type} {p : Nat → Parser α} {fuel : Nat} (hp : Extends p fuel)
    (close : Char) {count : Nat} {text rest : List Char} {found : List α}
    (h : elements close (p fuel) count text = some (found, rest)) :
    skip text ≠ [] ∧ rest.length < text.length ∧
      ∀ more count' tail, Closing tail → text.length ≤ more + rest.length →
        text.length ≤ count' + rest.length →
        elements close (p more) count' (text ++ tail) = some (found, rest ++ tail) := by
  induction count generalizing text rest found with
  | zero => simp [elements] at h
  | succ count ih =>
    simp only [elements, Option.bind_eq_bind, Option.bind_eq_some_iff, Prod.exists] at h
    obtain ⟨first, rest₁, hfirst, h⟩ := h
    obtain ⟨hne, hlength₁, hread₁⟩ := hp _ _ _ hfirst
    split at h
    · rename_i rest₂ hclose
      obtain ⟨rfl, rfl⟩ := Prod.mk.inj (Option.some.inj h)
      have hlength₂ := next_length hclose
      refine ⟨hne, by omega, ?_⟩
      intro more count' tail htail hmore hcount
      cases count' with
      | zero => omega
      | succ count' =>
        rw [elements, hread₁ more tail htail (by omega)]
        simp [next_append_of_some hclose htail]
    · rename_i hclose
      simp only [Option.bind_eq_some_iff, Option.some.injEq, Prod.mk.injEq, Prod.exists] at h
      obtain ⟨rest₂, hcomma, later, rest₃, hlater, rfl, rfl⟩ := h
      have hlength₂ := next_length hcomma
      obtain ⟨-, hlength₃, hread₃⟩ := ih hlater
      refine ⟨hne, by omega, ?_⟩
      intro more count' tail htail hmore hcount
      cases count' with
      | zero => omega
      | succ count' =>
        have hskip : skip rest₁ ≠ [] := by
          rw [next_eq_some.mp hcomma]
          exact List.cons_ne_nil _ _
        have hopen : next close (rest₁ ++ tail) = none := by
          rw [next_append hskip htail, hclose]
          rfl
        rw [elements, hread₁ more tail htail (by omega)]
        simp [hopen, next_append_of_some hcomma htail,
          hread₃ more count' tail htail (by omega) (by omega)]

theorem bracketed_extends {α : Type} {p : Nat → Parser α} {fuel : Nat} (hp : Extends p fuel)
    (close : Char) {text rest : List Char} {found : List α}
    (h : bracketed close (p fuel) fuel text = some (found, rest)) :
    rest.length < text.length ∧ ∀ more tail, Closing tail → text.length ≤ more + rest.length →
      bracketed close (p more) more (text ++ tail) = some (found, rest ++ tail) := by
  unfold bracketed at h
  split at h
  · rename_i rest₁ hclose
    obtain ⟨rfl, rfl⟩ := Prod.mk.inj (Option.some.inj h)
    refine ⟨next_length hclose, ?_⟩
    intro more tail htail _
    simp only [bracketed, next_append_of_some hclose htail]
  · rename_i hclose
    obtain ⟨hne, hlength, hread⟩ := elements_extends hp close h
    refine ⟨hlength, ?_⟩
    intro more tail htail hmore
    have hopen : next close (text ++ tail) = none := by
      rw [next_append hne htail, hclose]
      rfl
    simp only [bracketed, hopen, hread more more tail htail hmore hmore]

theorem member_extends {fuel : Nat} (hvalue : Extends value fuel) :
    Extends (fun fuel => member (value fuel)) fuel := by
  intro text found rest h
  simp only [member, Option.bind_eq_bind, Option.bind_eq_some_iff, Prod.exists, Option.some.injEq,
    Prod.mk.injEq] at h
  obtain ⟨rest₁, hquote, name, rest₂, hname, rest₃, hcolon, found, rest₄, hfound, rfl, rfl⟩ := h
  have hlength₁ := next_length hquote
  have hlength₂ := body_length hname
  have hlength₃ := next_length hcolon
  obtain ⟨-, hlength₄, hread⟩ := hvalue _ _ _ hfound
  refine ⟨?_, by omega, ?_⟩
  · rw [next_eq_some.mp hquote]
    exact List.cons_ne_nil _ _
  · intro more tail htail hmore
    simp [member, next_append_of_some hquote htail, body_append hname tail,
      next_append_of_some hcolon htail, hread more tail htail (by omega)]

/-- A value that opens with one character is read with one step more than what stands behind it. -/
theorem value_opens {c : Char} {text opened rest : List Char} {found : Json}
    (hopen : skip text = c :: opened) (hlength : rest.length ≤ opened.length)
    (hread : ∀ more tail, Closing tail → opened.length ≤ more + rest.length →
      value (more + 1) (text ++ tail) = some (found, rest ++ tail)) :
    skip text ≠ [] ∧ rest.length < text.length ∧
      ∀ more tail, Closing tail → text.length ≤ more + rest.length →
        value more (text ++ tail) = some (found, rest ++ tail) := by
  have hskip := skip_length text
  rw [hopen, List.length_cons] at hskip
  refine ⟨by simp [hopen], by omega, ?_⟩
  intro more tail htail hmore
  cases more with
  | zero => omega
  | succ more => exact hread more tail htail (by omega)

/-- A value is read the same in front of a closing character. -/
theorem value_extends (fuel : Nat) : Extends value fuel := by
  induction fuel with
  | zero => simp [Extends, value]
  | succ fuel ih =>
    intro text found rest h
    rw [value] at h
    split at h
    · simp at h
    · rename_i text' htext
      simp only [Option.bind_eq_bind, Option.bind_eq_some_iff, Prod.exists, Option.some.injEq,
        Prod.mk.injEq] at h
      obtain ⟨chars, rest', hchars, rfl, rfl⟩ := h
      have hlength := body_length hchars
      refine value_opens htext (Nat.le_of_lt hlength) ?_
      intro more tail htail _
      rw [value, skip_append htail, htext]
      simp [body_append hchars tail]
    · rename_i text' htext
      simp only [Option.bind_eq_bind, Option.bind_eq_some_iff, Prod.exists, Option.some.injEq,
        Prod.mk.injEq] at h
      obtain ⟨items, rest', hitems, rfl, rfl⟩ := h
      obtain ⟨hlength, hread⟩ := bracketed_extends ih ']' hitems
      refine value_opens htext (Nat.le_of_lt hlength) ?_
      intro more tail htail hmore
      rw [value, skip_append htail, htext]
      simp [hread more tail htail hmore]
    · rename_i text' htext
      simp only [Option.bind_eq_bind, Option.bind_eq_some_iff, Prod.exists, Option.some.injEq,
        Prod.mk.injEq] at h
      obtain ⟨members, rest', hmembers, rfl, rfl⟩ := h
      obtain ⟨hlength, hread⟩ := bracketed_extends (member_extends ih) '}' hmembers
      refine value_opens htext (Nat.le_of_lt hlength) ?_
      intro more tail htail hmore
      rw [value, skip_append htail, htext]
      simp [hread more tail htail hmore]
    · rename_i hne hstring harray hobject
      obtain ⟨hlength, hread⟩ := scalar_spec h
      have hskip := skip_length text
      refine ⟨hne, by omega, ?_⟩
      intro more tail htail hmore
      cases more with
      | zero => omega
      | succ more =>
        rw [value, skip_append htail]
        cases htext : skip text with
        | nil => exact absurd htext hne
        | cons c text' =>
          rw [← hread tail htail, htext]
          split
          · rename_i hnil
            exact absurd hnil (by simp)
          · rename_i hcons
            obtain rfl : c = '"' := (List.cons.inj hcons).1
            exact (hstring text' htext).elim
          · rename_i hcons
            obtain rfl : c = '[' := (List.cons.inj hcons).1
            exact (harray text' htext).elim
          · rename_i hcons
            obtain rfl : c = '{' := (List.cons.inj hcons).1
            exact (hobject text' htext).elim
          · rfl

/-- The length of a text is enough fuel. -/
theorem parse_eq_some_iff {text : List Char} {found : Json} :
    parse text = some found ↔
      ∃ fuel rest, value fuel text = some (found, rest) ∧ skip rest = [] := by
  simp only [parse, Option.bind_eq_bind, Option.bind_eq_some_iff, Prod.exists]
  constructor
  · rintro ⟨found', rest, hvalue, hrest⟩
    split at hrest
    · rename_i hskip
      obtain rfl := Option.some.inj hrest
      exact ⟨_, rest, hvalue, hskip⟩
    · simp at hrest
  · rintro ⟨fuel, rest, hvalue, hskip⟩
    have hread := (value_extends fuel _ _ _ hvalue).2.2 text.length [] (by simp [Closing])
      (Nat.le_add_right _ _)
    rw [List.append_nil, List.append_nil] at hread
    exact ⟨found, rest, hread, if_pos hskip⟩

/-- A text that parses is a value inside of another one. -/
theorem value_of_parse {text : List Char} {found : Json} (h : parse text = some found)
    {fuel : Nat} (hfuel : text.length ≤ fuel) {tail : List Char} (htail : Closing tail) :
    ∃ rest, value fuel (text ++ tail) = some (found, rest ++ tail) ∧ skip rest = [] := by
  obtain ⟨fuel', rest, hvalue, hskip⟩ := parse_eq_some_iff.mp h
  have hread := (value_extends fuel' _ _ _ hvalue).2.2 fuel tail htail (by omega)
  exact ⟨rest, hread, hskip⟩

/-! ## Objects -/

/-- The text is an object with these members, and no others. -/
def HasMembers (text : List Char) (members : List (List Nat × Json)) : Prop :=
  ∃ found, parse text = some (.object found) ∧ found.Perm members

/-- A member whose name stands for itself. -/
def memberText (name text : List Char) : List Char := '"' :: (name ++ '"' :: ':' :: text)

theorem member_memberText {name : List Char} (hname : Plain name) (value : Parser Json)
    (text : List Char) : member value (memberText name text)
      = (value text).bind fun found => some ((units name, found.1), found.2) := by
  have hquote : next '"' (memberText name text) = some (name ++ '"' :: ':' :: text) := rfl
  have hcolon : next ':' (':' :: text) = some text := rfl
  simp [member, hquote, body_of_plain hname, hcolon]

theorem value_string (fuel : Nat) (text : List Char) :
    value (fuel + 1) ('"' :: text) = (body text).bind fun found => some (.string found.1, found.2) :=
  rfl

/-- What stands behind a member. -/
def moreMembers (fuel count : Nat) (text : List Char) :
    Option (List (List Nat × Json) × List Char) :=
  match next '}' text with
  | some rest => some ([], rest)
  | none => (next ',' text).bind (elements '}' (member (value fuel)) count)

theorem elements_memberText {name : List Char} (hname : Plain name) (fuel count : Nat)
    (text : List Char) :
    elements '}' (member (value fuel)) (count + 1) (memberText name text)
      = (value fuel text).bind fun first => (moreMembers fuel count first.2).bind fun more =>
          some ((units name, first.1) :: more.1, more.2) := by
  rw [elements, member_memberText hname]
  cases value fuel text with
  | none => rfl
  | some first =>
    obtain ⟨first, rest⟩ := first
    simp only [Option.bind_some, moreMembers, Option.bind_eq_bind]
    cases next '}' rest with
    | some rest => rfl
    | none =>
      cases next ',' rest with
      | none => rfl
      | some rest => rfl

/-- An object of one member at least. -/
theorem parse_object {name : List Char} (hname : Plain name) (text : List Char) :
    ∃ fuel, text.length < fuel ∧
      parse ('{' :: memberText name text)
        = (value (fuel + 1) text).bind fun first =>
            (moreMembers (fuel + 1) fuel first.2).bind fun more =>
              if skip more.2 = [] then some (.object ((units name, first.1) :: more.1)) else none := by
  refine ⟨name.length + text.length + 2, by omega, ?_⟩
  have hlength : ('{' :: memberText name text).length = name.length + text.length + 2 + 1 + 1 := by
    simp [memberText]
    omega
  have hskip : skip ('{' :: memberText name text) = '{' :: memberText name text := rfl
  have hopen : next '}' (memberText name text) = none := rfl
  rw [parse, hlength, value, hskip]
  simp only [bracketed, hopen, elements_memberText hname]
  cases value (name.length + text.length + 2 + 1) text with
  | none => rfl
  | some first =>
    cases hmore : moreMembers (name.length + text.length + 2 + 1) (name.length + text.length + 2)
        first.2 with
    | none => simp [hmore]
    | some more => simp [hmore]

theorem moreMembers_close (fuel count : Nat) {rest : List Char} (h : skip rest = []) :
    moreMembers fuel count (rest ++ ['}']) = some ([], []) := by
  have hnext : next '}' (rest ++ ['}']) = some [] := by
    rw [next_eq_some, skip_append (closing_cons.mpr (.inr (.inr rfl))), h]
    rfl
  rw [moreMembers, hnext]

theorem moreMembers_comma {name : List Char} (hname : Plain name) (fuel count : Nat)
    (text : List Char) : moreMembers fuel (count + 1) (',' :: memberText name text)
      = (value fuel text).bind fun first => (moreMembers fuel count first.2).bind fun more =>
          some ((units name, first.1) :: more.1, more.2) := by
  rw [← elements_memberText hname]
  rfl

theorem moreMembers_space (fuel count : Nat) (text : List Char) :
    moreMembers fuel count (',' :: ' ' :: text) = moreMembers fuel count (',' :: text) := by
  cases count with
  | zero => rfl
  | succ count => rfl

theorem value_plain {chars : List Char} (hplain : Plain chars) (fuel : Nat) (back : List Char) :
    value (fuel + 1) ('"' :: (chars ++ '"' :: back)) = some (.string (units chars), back) := by
  rw [value_string, body_of_plain hplain]
  rfl

/-- The first member of an object is read as it is only if it is plain. -/
theorem plain_of_hasMembers {name : List Char} (hname : Plain name) {chars back : List Char}
    {members : List (List Nat × Json)}
    (hfirst : ∀ found, (units name, found) ∈ members → found = .string (units chars))
    (h : HasMembers ('{' :: memberText name ('"' :: (chars ++ '"' :: back))) members) :
    Plain chars := by
  obtain ⟨found, hparse, hperm⟩ := h
  obtain ⟨fuel, -, hobject⟩ := parse_object hname ('"' :: (chars ++ '"' :: back))
  rw [hobject, value_string] at hparse
  simp only [Option.bind_eq_some_iff, Option.some.injEq] at hparse
  obtain ⟨first, ⟨written, hbody, rfl⟩, more, -, hfound⟩ := hparse
  split at hfound
  · simp only [Option.some.injEq, Json.object.injEq] at hfound
    have hmem : (units name, Json.string written.1) ∈ members :=
      hperm.mem_iff.mp (hfound ▸ List.mem_cons_self)
    have hwritten := hfirst _ hmem
    simp only [Json.string.injEq] at hwritten
    have hread : body (chars ++ '"' :: back) = some (units chars, written.2) := by
      rw [hbody, ← hwritten]
    exact plain_of_body hread
  · simp at hfound

end Json
