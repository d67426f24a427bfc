import ThingsboardMqtt.Library.Memory
import ThingsboardMqtt.Library.Scanf

set_option autoImplicit false

/-! # C strings in memory

What a pointer gives access to is the list of the characters from there to the end of its region;
characters stand for bytes. A string function reads on until it has decided, so a text that is not
terminated may be followed out of its region, and a buffer may be too small for what is copied to it:
both are `MemFault`.

`Holds` is the invariant of a buffer that strings are joined in: a text with zeros behind it, to the
end of the buffer. -/

namespace CString

open CHeap Scanf

/-- The characters from a pointer to the end of its region. -/
abbrev Memory := List Char

/-- The character that ends a string. -/
def nul : Char := '\x00'

/-! ## Comparing with a literal -/

/-- `strncmp(mem, literal, strlen(literal)) == 0` -/
def startsWith : List Char → Memory → Except MemFault Bool
  | [], _ => .ok true
  | _ :: _, [] => .error .outOfBounds
  | c :: literal, d :: mem => if c = d then startsWith literal mem else .ok false

/-- The two texts differ at a place both have. -/
def mismatch : List Char → List Char → Bool
  | c :: rest, d :: rest' => if c = d then mismatch rest rest' else true
  | _, _ => false

theorem startsWith_append (literal : List Char) (mem : Memory) :
    startsWith literal (literal ++ mem) = .ok true := by
  induction literal with
  | nil => rfl
  | cons c literal ih =>
    rw [List.cons_append, startsWith, if_pos rfl, ih]

theorem startsWith_eq_true_iff {literal : List Char} {mem : Memory} :
    startsWith literal mem = .ok true ↔ literal <+: mem := by
  constructor
  · intro h
    induction literal generalizing mem with
    | nil => exact List.nil_prefix
    | cons c literal ih =>
      cases mem with
      | nil => exact absurd h (by simp [startsWith])
      | cons d mem =>
        simp only [startsWith] at h
        split at h
        · rename_i heq
          exact heq ▸ (List.cons_prefix_cons.mpr ⟨rfl, ih h⟩)
        · exact absurd h (by simp)
  · rintro ⟨rest, rfl⟩
    exact startsWith_append literal rest

theorem startsWith_eq_false_iff {literal : List Char} {mem : Memory} :
    startsWith literal mem = .ok false ↔ mismatch literal mem = true := by
  induction literal generalizing mem with
  | nil => simp [startsWith, mismatch]
  | cons c literal ih =>
    cases mem with
    | nil => simp [startsWith, mismatch]
    | cons d mem =>
      simp only [startsWith, mismatch]
      split
      · exact ih
      · simp

theorem mismatch_append {literal text : List Char} (h : mismatch literal text = true)
    (mem : Memory) : mismatch literal (text ++ mem) = true := by
  induction literal generalizing text with
  | nil => simp [mismatch] at h
  | cons c literal ih =>
    cases text with
    | nil => simp [mismatch] at h
    | cons d text =>
      simp only [mismatch, List.cons_append] at h ⊢
      split
      · rename_i heq
        rw [if_pos heq] at h
        exact ih h
      · rfl

/-- Texts that do not differ: one starts with the other. -/
theorem isPrefix_or_of_not_mismatch {literal text : List Char}
    (h : mismatch literal text = false) : literal <+: text ∨ text <+: literal := by
  induction literal generalizing text with
  | nil => exact .inl List.nil_prefix
  | cons c literal ih =>
    cases text with
    | nil => exact .inr List.nil_prefix
    | cons d text =>
      simp only [mismatch] at h
      split at h
      · rename_i heq
        subst heq
        exact (ih h).imp (fun hp => List.cons_prefix_cons.mpr ⟨rfl, hp⟩)
          (fun hp => List.cons_prefix_cons.mpr ⟨rfl, hp⟩)
      · exact absurd h (by simp)

theorem not_isPrefix_of_mismatch {literal mem : List Char} (h : mismatch literal mem = true) :
    ¬ literal <+: mem := by
  intro hstart
  have htrue := startsWith_eq_true_iff.mpr hstart
  rw [startsWith_eq_false_iff.mpr h] at htrue
  exact absurd (Except.ok.inj htrue) (by simp)

/-- A comparison that was decided does not read what follows. -/
theorem startsWith_append_right {literal mem : List Char} {b : Bool}
    (h : startsWith literal mem = .ok b) (following : Memory) :
    startsWith literal (mem ++ following) = .ok b := by
  cases b with
  | true =>
    obtain ⟨rest, rfl⟩ := startsWith_eq_true_iff.mp h
    rw [List.append_assoc, startsWith_append]
  | false =>
    rw [startsWith_eq_false_iff] at h ⊢
    exact mismatch_append h following

/-- A comparison is decided unless the memory ends within the literal. -/
theorem exists_startsWith_eq {literal mem : List Char} (h : mem <+: literal → mem = literal) :
    ∃ b, startsWith literal mem = .ok b := by
  cases hmismatch : mismatch literal mem with
  | true => exact ⟨false, startsWith_eq_false_iff.mpr hmismatch⟩
  | false =>
    refine ⟨true, startsWith_eq_true_iff.mpr ?_⟩
    rcases isPrefix_or_of_not_mismatch hmismatch with hstarts | hstarts
    · exact hstarts
    · obtain rfl := h hstarts
      exact List.prefix_rfl

/-! ## Reading a string -/

/-- The string at a pointer, without its end. -/
def text : Memory → Except MemFault (List Char)
  | [] => .error .outOfBounds
  | c :: mem => if c = nul then .ok [] else (text mem).map (c :: ·)

theorem text_append_nul {chars : List Char} (hchars : nul ∉ chars) (mem : Memory) :
    text (chars ++ nul :: mem) = .ok chars := by
  induction chars with
  | nil => simp [text]
  | cons c chars ih =>
    have hc : c ≠ nul := fun h => hchars (by simp [h])
    rw [List.cons_append, text, if_neg hc, ih fun h => hchars (List.mem_cons_of_mem _ h)]
    rfl

/-- `strstr(mem, part)`: the offset of the first occurrence. -/
def strstr (part : List Char) : Memory → Except MemFault (Option Nat)
  | [] => .error .outOfBounds
  | c :: mem =>
    if part.isPrefixOf (c :: mem) then .ok (some 0)
    else if c = nul then .ok none
    else (strstr part mem).map (Option.map (· + 1))

/-- The first occurrence stands where every earlier place differs from the part. -/
theorem strstr_append {part front : List Char} {back : Memory}
    (hfront : ∀ k < front.length, mismatch part (front.drop k ++ back) = true)
    (hnul : nul ∉ front) (hback : part <+: back) (hne : back ≠ []) :
    strstr part (front ++ back) = .ok (some front.length) := by
  induction front with
  | nil =>
    obtain ⟨c, rest, rfl⟩ := List.exists_cons_of_ne_nil hne
    rw [List.nil_append, strstr, if_pos (List.isPrefixOf_iff_prefix.mpr hback)]
    rfl
  | cons c front ih =>
    have hhere : ¬ part <+: c :: (front ++ back) := not_isPrefix_of_mismatch (hfront 0 (by simp))
    have hc : c ≠ nul := fun h => hnul (by simp [h])
    have hrest := ih (fun k hk => hfront (k + 1) (by simpa using hk))
      fun h => hnul (List.mem_cons_of_mem _ h)
    rw [List.cons_append, strstr, if_neg (by rwa [List.isPrefixOf_iff_prefix]), if_neg hc, hrest]
    rfl

theorem strstr_eq_some {part : List Char} {mem : Memory} {offset : Nat}
    (h : strstr part mem = .ok (some offset)) : part <+: mem.drop offset := by
  induction mem generalizing offset with
  | nil => simp [strstr] at h
  | cons c mem ih =>
    rw [strstr] at h
    split at h
    · rename_i hhere
      obtain rfl : 0 = offset := by simpa using h
      exact List.isPrefixOf_iff_prefix.mp hhere
    · split at h
      · simp at h
      · cases hrest : strstr part mem with
        | error fault => simp [hrest, Except.map] at h
        | ok found =>
          cases found with
          | none => simp [hrest, Except.map] at h
          | some k =>
            obtain rfl : k + 1 = offset := by simpa [hrest, Except.map] using h
            exact ih hrest

/-- The search runs out of a region that holds neither the part nor the end of a string. -/
theorem strstr_eq_error {part : List Char} {mem : Memory} (hpart : ¬ part <:+: mem)
    (hnul : nul ∉ mem) : strstr part mem = .error .outOfBounds := by
  induction mem with
  | nil => rfl
  | cons c mem ih =>
    have hhere : ¬ part <+: c :: mem := fun h => hpart h.isInfix
    have hc : c ≠ nul := fun h => hnul (by simp [h])
    rw [strstr, if_neg (by rwa [List.isPrefixOf_iff_prefix]), if_neg hc,
      ih (fun h => hpart (List.infix_cons h)) fun h => hnul (List.mem_cons_of_mem _ h)]
    rfl

/-- The search ends in a region that holds the part or the end of a string. -/
theorem exists_strstr_eq {part : List Char} (hne : part ≠ []) {mem : Memory}
    (h : part <:+: mem ∨ nul ∈ mem) : ∃ found, strstr part mem = .ok found := by
  induction mem with
  | nil => simp [hne] at h
  | cons c mem ih =>
    rw [strstr]
    split
    · exact ⟨_, rfl⟩
    · rename_i hhere
      split
      · exact ⟨_, rfl⟩
      · rename_i hc
        have hrest : part <:+: mem ∨ nul ∈ mem := by
          refine h.imp ?_ ?_
          · intro hinside
            rcases List.infix_cons_iff.mp hinside with hstarts | hinside
            · exact absurd (List.isPrefixOf_iff_prefix.mpr hstarts) hhere
            · exact hinside
          · intro hmem
            exact (List.mem_cons.mp hmem).resolve_left fun heq => hc heq.symm
        obtain ⟨found, hfound⟩ := ih hrest
        exact ⟨_, by rw [hfound]; rfl⟩

/-- A part without the end character that starts in front of it ends there too. -/
theorem isPrefix_of_isPrefix_append_nul {part : List Char} (mem : List Char) (hpart : nul ∉ part)
    {following : Memory} (h : part <+: mem ++ nul :: following) : part <+: mem := by
  rcases List.prefix_or_prefix_of_prefix h (List.prefix_append mem (nul :: following)) with
    hstarts | ⟨rest, rfl⟩
  · exact hstarts
  · rw [List.prefix_append_right_inj] at h
    cases rest with
    | nil => simp
    | cons c rest =>
      obtain ⟨rfl, -⟩ := List.cons_prefix_cons.mp h
      exact absurd (by simp) hpart

/-- The search ends at the end of a string that does not hold the part. -/
theorem strstr_eq_none {part : List Char} (hpartNul : nul ∉ part) {mem : Memory}
    (hpart : ¬ part <:+: mem) (hnul : nul ∉ mem) (following : Memory) :
    strstr part (mem ++ nul :: following) = .ok none := by
  induction mem with
  | nil =>
    have hhere : ¬ part <+: nul :: following := fun h =>
      hpart (isPrefix_of_isPrefix_append_nul [] hpartNul h).isInfix
    rw [List.nil_append, strstr, if_neg (by rwa [List.isPrefixOf_iff_prefix]), if_pos rfl]
  | cons c mem ih =>
    have hhere : ¬ part <+: c :: (mem ++ nul :: following) := fun h =>
      hpart (isPrefix_of_isPrefix_append_nul (c :: mem) hpartNul h).isInfix
    have hc : c ≠ nul := fun h => hnul (by simp [h])
    rw [List.cons_append, strstr, if_neg (by rwa [List.isPrefixOf_iff_prefix]), if_neg hc,
      ih (fun h => hpart (List.infix_cons h)) fun h => hnul (List.mem_cons_of_mem _ h)]
    rfl

/-- A search that ended does not read what follows. -/
theorem strstr_append_right {part : List Char} (hpartNul : nul ∉ part) {mem : Memory}
    {found : Option Nat} (h : strstr part mem = .ok found) (following : Memory) :
    strstr part (mem ++ following) = .ok found := by
  induction mem generalizing found with
  | nil => simp [strstr] at h
  | cons c mem ih =>
    rw [strstr] at h
    rw [List.cons_append, strstr]
    by_cases hhere : part <+: c :: mem
    · rw [if_pos (List.isPrefixOf_iff_prefix.mpr hhere)] at h
      rw [if_pos (List.isPrefixOf_iff_prefix.mpr
        (by rw [← List.cons_append]; exact hhere.trans (List.prefix_append _ _)))]
      exact h
    · rw [if_neg (by rwa [List.isPrefixOf_iff_prefix])] at h
      -- the part does not start here and end behind the region: the search went on within it
      have hhere' : ¬ part <+: c :: (mem ++ following) := by
        intro hstraddle
        have hproper : c :: mem <+: part :=
          (List.prefix_or_prefix_of_prefix hstraddle
            (by rw [← List.cons_append]; exact List.prefix_append _ _)).resolve_left hhere
        have hnul : nul ∉ c :: mem := fun hmem => hpartNul (hproper.subset hmem)
        have hshort : ¬ part <:+: mem := by
          intro hinside
          have hle := hinside.length_le
          have hlt := hproper.length_le
          rw [List.length_cons] at hlt
          omega
        rw [if_neg fun heq => hnul (by simp [heq]), strstr_eq_error hshort
          fun hmem => hnul (List.mem_cons_of_mem _ hmem)] at h
        exact absurd h (by simp [Except.map])
      rw [if_neg (by rwa [List.isPrefixOf_iff_prefix])]
      split at h
      · rename_i hc
        rw [if_pos hc]
        exact h
      · rename_i hc
        rw [if_neg hc]
        cases hrest : strstr part mem with
        | error fault => simp [hrest, Except.map] at h
        | ok found' =>
          rw [hrest] at h
          rw [ih hrest]
          exact h

/-- The digits behind a sign. -/
def skipSign : Memory → Memory
  | '-' :: digits => digits
  | '+' :: digits => digits
  | digits => digits

/-- What stands behind the number at the start of a text. -/
def behindNumber (mem : Memory) : Memory :=
  (skipSign (mem.dropWhile isSpace)).dropWhile fun c => (decDigit? c).isSome

/-- A character that is no part of a number. -/
def stopsNumber (c : Char) : Bool :=
  !isSpace c && c ≠ '-' && c ≠ '+' && (decDigit? c).isNone

theorem dropWhile_append_of_exists {p : Char → Bool} {mem : Memory} (h : ∃ c ∈ mem, p c = false)
    (following : Memory) :
    (mem ++ following).dropWhile p = mem.dropWhile p ++ following := by
  induction mem with
  | nil => simp at h
  | cons c mem ih =>
    rw [List.cons_append, List.dropWhile_cons, List.dropWhile_cons]
    split
    · rename_i hc
      obtain ⟨d, hd, hdp⟩ := h
      rcases List.mem_cons.mp hd with rfl | hd
      · rw [hdp] at hc
        exact absurd hc (by simp)
      · exact ih ⟨d, hd, hdp⟩
    · rw [List.cons_append]

theorem mem_dropWhile {p : Char → Bool} {mem : Memory} {c : Char} (hc : c ∈ mem)
    (hp : p c = false) : c ∈ mem.dropWhile p := by
  induction mem with
  | nil => simp at hc
  | cons d mem ih =>
    rw [List.dropWhile_cons]
    split
    · rename_i hd
      rcases List.mem_cons.mp hc with rfl | hc
      · rw [hp] at hd
        exact absurd hd (by simp)
      · exact ih hc
    · exact hc

theorem skipSign_of_ne {c : Char} (hminus : c ≠ '-') (hplus : c ≠ '+') (rest : Memory) :
    skipSign (c :: rest) = c :: rest := by
  unfold skipSign
  split
  · rename_i heq
    exact absurd (List.cons.inj heq).1 hminus
  · rename_i heq
    exact absurd (List.cons.inj heq).1 hplus
  · rfl

theorem skipSign_append {mem : Memory} (hne : mem ≠ []) (following : Memory) :
    skipSign (mem ++ following) = skipSign mem ++ following := by
  obtain ⟨c, rest, rfl⟩ := List.exists_cons_of_ne_nil hne
  rw [List.cons_append]
  by_cases hminus : c = '-'
  · subst hminus
    rfl
  · by_cases hplus : c = '+'
    · subst hplus
      rfl
    · rw [skipSign_of_ne hminus hplus, skipSign_of_ne hminus hplus, List.cons_append]

theorem mem_skipSign {mem : Memory} {c : Char} (hc : c ∈ mem) (hminus : c ≠ '-')
    (hplus : c ≠ '+') : c ∈ skipSign mem := by
  unfold skipSign
  split
  · exact (List.mem_cons.mp hc).resolve_left hminus
  · exact (List.mem_cons.mp hc).resolve_left hplus
  · exact hc

theorem digitsPrefix_append_of_exists {digit? : Char → Option Nat} (base : Nat) {mem : Memory}
    (h : ∃ c ∈ mem, digit? c = none) (acc : Option Nat) (following : Memory) :
    digitsPrefix digit? base acc (mem ++ following) = digitsPrefix digit? base acc mem := by
  induction mem generalizing acc with
  | nil => simp at h
  | cons c mem ih =>
    rw [List.cons_append, digitsPrefix, digitsPrefix]
    split
    · rename_i d hd
      obtain ⟨e, he, hnone⟩ := h
      rcases List.mem_cons.mp he with rfl | he
      · rw [hnone] at hd
        exact absurd hd (by simp)
      · exact ih ⟨e, he, hnone⟩ _
    · rfl

/-- A number that ends within the region does not depend on what follows. -/
theorem behindNumber_append {mem : Memory} (h : ∃ c ∈ mem, stopsNumber c = true)
    (following : Memory) :
    behindNumber (mem ++ following) = behindNumber mem ++ following ∧ behindNumber mem ≠ [] := by
  obtain ⟨c, hc, hstops⟩ := h
  simp only [stopsNumber, Bool.and_eq_true, Bool.not_eq_true', decide_eq_true_eq,
    Option.isNone_iff_eq_none] at hstops
  obtain ⟨⟨⟨hspace, hminus⟩, hplus⟩, hdigit⟩ := hstops
  have hsigned : c ∈ mem.dropWhile isSpace := mem_dropWhile hc hspace
  have hdigits : c ∈ skipSign (mem.dropWhile isSpace) := mem_skipSign hsigned hminus hplus
  have hend : (decDigit? c).isSome = false := by rw [hdigit]; rfl
  constructor
  · rw [behindNumber, dropWhile_append_of_exists ⟨c, hc, hspace⟩,
      skipSign_append (List.ne_nil_of_mem hsigned),
      dropWhile_append_of_exists ⟨c, hdigits, hend⟩, behindNumber]
  · exact List.ne_nil_of_mem (mem_dropWhile hdigits hend)

theorem scanDec_append {mem : Memory} (h : ∃ c ∈ mem, stopsNumber c = true) (following : Memory) :
    scanDec (String.ofList (mem ++ following)) = scanDec (String.ofList mem) := by
  obtain ⟨c, hc, hstops⟩ := h
  simp only [stopsNumber, Bool.and_eq_true, Bool.not_eq_true', decide_eq_true_eq,
    Option.isNone_iff_eq_none] at hstops
  obtain ⟨⟨⟨hspace, hminus⟩, hplus⟩, hdigit⟩ := hstops
  have hsigned : c ∈ mem.dropWhile isSpace := mem_dropWhile hc hspace
  simp only [scanDec, scanSigned, String.toList_ofList, dropWhile_append_of_exists ⟨c, hc, hspace⟩]
  generalize mem.dropWhile isSpace = number at hsigned
  obtain ⟨d, rest, rfl⟩ := List.exists_cons_of_ne_nil (List.ne_nil_of_mem hsigned)
  have hdigits := fun (hne : c ≠ d) => digitsPrefix_append_of_exists 10
    ⟨c, (List.mem_cons.mp hsigned).resolve_left hne, hdigit⟩ none following
  rw [List.cons_append]
  split
  · rename_i heq
    obtain ⟨rfl, rfl⟩ := List.cons.inj heq
    rw [hdigits hminus]
    rfl
  · rename_i heq
    obtain ⟨rfl, rfl⟩ := List.cons.inj heq
    rw [hdigits hplus]
    rfl
  · rename_i hnotMinus hnotPlus
    split
    · rename_i heq
      exact absurd (by rw [(List.cons.inj heq).1]) (hnotMinus (rest ++ following))
    · rename_i heq
      exact absurd (by rw [(List.cons.inj heq).1]) (hnotPlus (rest ++ following))
    · rw [← List.cons_append, digitsPrefix_append_of_exists _ ⟨c, hsigned, hdigit⟩]

/-- `sscanf(mem, before ++ "%u" ++ .., &v)`: the value stored, if any. The number ends at a character
    that is read; what the format has behind it is compared only and stores nothing. -/
def sscanfU (before : List Char) (mem : Memory) : Except MemFault (Option UInt32) := do
  if ← startsWith before mem then
    let number := mem.drop before.length
    if behindNumber number = [] then .error .outOfBounds
    else .ok (scanDec (String.ofList number))
  else .ok none

/-- A number that ends within the region is scanned without what follows. -/
theorem sscanfU_of_stops (before : List Char) {number : Memory}
    (h : ∃ c ∈ number, stopsNumber c = true) (following : Memory) :
    sscanfU before (before ++ number ++ following) = .ok (scanDec (String.ofList number)) := by
  obtain ⟨hbehind, hne⟩ := behindNumber_append h following
  rw [List.append_assoc, sscanfU, startsWith_append, List.drop_left' rfl]
  simp only [Bind.bind, Except.bind, if_true]
  rw [hbehind, if_neg (List.append_ne_nil_of_left_ne_nil hne following), scanDec_append h]

/-! ## Copying -/

/-- At most `n` characters of a string. -/
def strntext : Nat → Memory → Except MemFault (List Char)
  | 0, _ => .ok []
  | _ + 1, [] => .error .outOfBounds
  | n + 1, c :: mem => if c = nul then .ok [] else (strntext n mem).map (c :: ·)

/-- `strncpy(dst, src, n)`: a string that is shorter is padded. -/
def strncpy (dst : List Char) (src : Memory) (n : Nat) : Except MemFault (List Char) :=
  if n ≤ dst.length then do
    let chars ← strntext n src
    .ok (chars ++ List.replicate (n - chars.length) nul ++ dst.drop n)
  else .error .outOfBounds

/-- `strncat(dst, src, n)`: `n` bounds what is appended, and the end is written behind it. -/
def strncat (dst : List Char) (src : Memory) (n : Nat) : Except MemFault (List Char) := do
  let front ← text dst
  let chars ← strntext n src
  if front.length + chars.length < dst.length then
    .ok (front ++ chars ++ nul :: dst.drop (front.length + chars.length + 1))
  else .error .outOfBounds

/-- `snprintf(dst, n, ..)`, which prints `text`: what goes beyond `n`, with the end, is cut. -/
def snprintf (dst : List Char) (n : Nat) (text : List Char) : Except MemFault (List Char) :=
  match n with
  | 0 => .ok dst
  | n + 1 =>
    let chars := text.take n
    if chars.length < dst.length then .ok (chars ++ nul :: dst.drop (chars.length + 1))
    else .error .outOfBounds

theorem snprintf_of_lt {dst text : List Char} {n : Nat} (htext : text.length < n)
    (hn : n ≤ dst.length) :
    snprintf dst n text = .ok (text ++ nul :: dst.drop (text.length + 1)) := by
  obtain ⟨n, rfl⟩ := Nat.exists_eq_add_of_lt htext
  have htake : text.take (text.length + n) = text := List.take_of_length_le (Nat.le_add_right _ _)
  rw [snprintf, htake]
  exact if_pos (by omega)

/-- A copy does not read behind the characters it takes. -/
theorem strntext_append_right {n : Nat} {mem : Memory} (h : n ≤ mem.length)
    (following : Memory) : strntext n (mem ++ following) = strntext n mem := by
  induction n generalizing mem with
  | zero => rfl
  | succ n ih =>
    cases mem with
    | nil => simp at h
    | cons c mem =>
      rw [List.cons_append, strntext, strntext, ih (Nat.le_of_succ_le_succ h)]

theorem exists_strntext_eq {n : Nat} {mem : Memory} (h : n ≤ mem.length) :
    ∃ chars, strntext n mem = .ok chars ∧ chars.length ≤ n := by
  induction n generalizing mem with
  | zero => exact ⟨[], rfl, Nat.le_refl 0⟩
  | succ n ih =>
    cases mem with
    | nil => simp at h
    | cons c mem =>
      rw [strntext]
      split
      · exact ⟨[], rfl, Nat.zero_le _⟩
      · obtain ⟨chars, hchars, hlen⟩ := ih (Nat.le_of_succ_le_succ h)
        exact ⟨c :: chars, by rw [hchars]; rfl, Nat.succ_le_succ hlen⟩

theorem strntext_append {chars : List Char} (hchars : nul ∉ chars) (mem : Memory) :
    strntext chars.length (chars ++ mem) = .ok chars := by
  induction chars with
  | nil => rfl
  | cons c chars ih =>
    have hc : c ≠ nul := fun h => hchars (by simp [h])
    rw [List.length_cons, List.cons_append, strntext, if_neg hc,
      ih fun h => hchars (List.mem_cons_of_mem _ h)]
    rfl

/-- A copy of a string takes its first characters. -/
theorem strntext_string {chars : List Char} (hchars : nul ∉ chars) (n : Nat) (mem : Memory) :
    strntext n (chars ++ nul :: mem) = .ok (chars.take n) := by
  induction chars generalizing n with
  | nil => cases n <;> simp [strntext]
  | cons c chars ih =>
    cases n with
    | zero => rfl
    | succ n =>
      have hc : c ≠ nul := fun h => hchars (by simp [h])
      rw [List.cons_append, strntext, if_neg hc, ih fun h => hchars (List.mem_cons_of_mem _ h)]
      rfl

/-! ## A buffer that strings are joined in -/

/-- The buffer of `size` characters holds the text, with zeros behind it. -/
structure Holds (size : Nat) (buffer chars : List Char) : Prop where
  eq : buffer = chars ++ List.replicate (size - chars.length) nul
  length_lt : chars.length < size
  nul_not_mem : nul ∉ chars

section Holds

variable {size : Nat} {buffer chars : List Char}

theorem holds_zeros (hsize : 0 < size) : Holds size (List.replicate size nul) [] :=
  ⟨by simp, hsize, by simp⟩

theorem Holds.length (h : Holds size buffer chars) : buffer.length = size := by
  have hlt := h.length_lt
  rw [h.eq, List.length_append, List.length_replicate]
  omega

theorem Holds.text (h : Holds size buffer chars) : text buffer = .ok chars := by
  obtain ⟨k, hk⟩ := Nat.exists_eq_add_of_lt h.length_lt
  have hzeros : size - chars.length = k + 1 := by omega
  rw [h.eq, hzeros, List.replicate_succ, text_append_nul h.nul_not_mem]

/-- `strncpy` to a buffer that holds the empty text. -/
theorem Holds.strncpy (h : Holds size buffer []) {str : List Char} (hstr : nul ∉ str) {n : Nat}
    (hn : n < size) (mem : Memory) :
    ∃ buffer', strncpy buffer (str ++ nul :: mem) n = .ok buffer' ∧
      Holds size buffer' (str.take n) := by
  have hlength : (str.take n).length ≤ n := by
    rw [List.length_take]
    omega
  have hcopy : CString.strncpy buffer (str ++ nul :: mem) n = .ok (str.take n
      ++ List.replicate (n - (str.take n).length) nul ++ buffer.drop n) := by
    rw [CString.strncpy, if_pos (by rw [h.length]; omega), strntext_string hstr]
    rfl
  refine ⟨_, hcopy, ⟨?_, by omega, fun hmem => hstr (List.mem_of_mem_take hmem)⟩⟩
  rw [h.eq, List.append_assoc]
  simp only [List.length_nil, Nat.sub_zero, List.nil_append, List.drop_replicate,
    List.replicate_append_replicate]
  congr 2
  omega

/-- `strncat` of a string that fits behind the text. -/
theorem Holds.strncat (h : Holds size buffer chars) {str : List Char} (hstr : nul ∉ str) {n : Nat}
    (hfits : chars.length + (str.take n).length < size) (mem : Memory) :
    ∃ buffer', strncat buffer (str ++ nul :: mem) n = .ok buffer' ∧
      Holds size buffer' (chars ++ str.take n) := by
  have hcat : CString.strncat buffer (str ++ nul :: mem) n = .ok (chars ++ str.take n
      ++ nul :: buffer.drop (chars.length + (str.take n).length + 1)) := by
    rw [CString.strncat, h.text, strntext_string hstr]
    simp only [Bind.bind, Except.bind]
    rw [if_pos (by rwa [h.length])]
  refine ⟨_, hcat, ⟨?_, by rwa [List.length_append], ?_⟩⟩
  · -- the zeros behind the text are used up from the front
    have hdrop : buffer.drop (chars.length + (str.take n).length + 1)
        = List.replicate (size - chars.length - ((str.take n).length + 1)) nul := by
      rw [h.eq, Nat.add_assoc, List.drop_length_add_append, List.drop_replicate]
    rw [hdrop, ← List.replicate_succ, List.length_append]
    congr 2
    omega
  · intro hmem
    rcases List.mem_append.mp hmem with hmem | hmem
    · exact h.nul_not_mem hmem
    · exact hstr (List.mem_of_mem_take hmem)

/-- `strncat` of a string that does not: the end is written behind the buffer. -/
theorem Holds.strncat_eq_error (h : Holds size buffer chars) {str : List Char} (hstr : nul ∉ str)
    {n : Nat} (hlong : size ≤ chars.length + (str.take n).length) (mem : Memory) :
    CString.strncat buffer (str ++ nul :: mem) n = .error .outOfBounds := by
  rw [CString.strncat, h.text, strntext_string hstr]
  simp only [Bind.bind, Except.bind]
  rw [if_neg (by rw [h.length]; omega)]

end Holds

end CString
