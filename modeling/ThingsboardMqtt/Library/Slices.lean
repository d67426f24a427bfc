import Mathlib.Algebra.Order.Group.Nat
import Mathlib.Data.List.Basic
import Mathlib.Order.MinMax

set_option autoImplicit false

/-! # A list in slices

A list that travels in slices of one size, the last of which may be shorter: `slice` is one of them,
`sliceCount` says how many there are. An empty list still takes one, empty, slice. `packs` is the
list in slices as a loop makes them, which gathers elements until a slice is full; there an empty
list takes none. -/

namespace Slices

variable {α : Type}

/-- The slice number `k` of a list. -/
def slice (size : Nat) (l : List α) (k : Nat) : List α := (l.drop (k * size)).take size

/-- How many slices carry `length` elements. -/
def sliceCount (size length : Nat) : Nat := max 1 ((length + (size - 1)) / size)

theorem take_append_slice (size : Nat) (l : List α) (k : Nat) :
    l.take (k * size) ++ slice size l k = l.take ((k + 1) * size) := by
  rw [slice, ← List.take_add, Nat.succ_mul]

/-- The first slices put together. -/
theorem flatten_slices (size : Nat) (l : List α) (n : Nat) :
    ((List.range n).map (slice size l)).flatten = l.take (n * size) := by
  induction n with
  | zero => simp
  | succ n ih =>
    rw [List.range_succ, List.map_append, List.flatten_append, ih, List.map_singleton,
      List.flatten_singleton, take_append_slice]

variable {size length : Nat}

theorem sliceCount_pos (size length : Nat) : 0 < sliceCount size length := Nat.le_max_left 1 _

/-- The slices of a list that is not empty are those that start inside of it. -/
theorem lt_sliceCount_iff (hsize : 0 < size) (hlength : 0 < length) (k : Nat) :
    k < sliceCount size length ↔ k * size < length := by
  have hround : k < (length + (size - 1)) / size ↔ k * size < length := by
    rw [← Nat.succ_le_iff, Nat.le_div_iff_mul_le hsize, Nat.succ_mul]
    omega
  rw [sliceCount, lt_max_iff, hround]
  constructor
  · rintro (hzero | hlt)
    · obtain rfl : k = 0 := by omega
      simpa using hlength
    · exact hlt
  · exact .inr

/-- All slices together carry the whole list. -/
theorem length_le_sliceCount_mul (hsize : 0 < size) (hlength : 0 < length) :
    length ≤ sliceCount size length * size :=
  Nat.le_of_not_lt fun h => Nat.lt_irrefl _ ((lt_sliceCount_iff hsize hlength _).mpr h)

theorem sliceCount_of_le (hlength : length ≤ size) : sliceCount size length = 1 := by
  unfold sliceCount
  rcases Nat.eq_zero_or_pos size with rfl | hsize
  · simp
  · refine Nat.max_eq_left ?_
    rw [Nat.div_le_iff_le_mul hsize]
    omega

theorem slice_length (l : List α) (k : Nat) :
    (slice size l k).length = min size (l.length - k * size) := by
  rw [slice, List.length_take, List.length_drop]

theorem slice_ne_nil {l : List α} {k : Nat} (hsize : 0 < size) (hk : k * size < l.length) :
    slice size l k ≠ [] := by
  intro hnil
  have hlength : (slice size l k).length = _ := slice_length l k
  rw [hnil, List.length_nil] at hlength
  omega

theorem slice_zero_of_le {l : List α} (hlength : l.length ≤ size) : slice size l 0 = l := by
  rw [slice, Nat.zero_mul, List.drop_zero, List.take_of_length_le hlength]

/-! ## Packs -/

/-- A list in slices of one size, where `waiting` is gathered for the first of them. -/
def packs (size : Nat) : List α → List α → List (List α)
  | waiting, [] => if waiting.isEmpty then [] else [waiting]
  | waiting, x :: rest =>
    if size ≤ waiting.length + 1 then (waiting ++ [x]) :: packs size [] rest
    else packs size (waiting ++ [x]) rest

theorem packs_eq_cons {waiting : List α} (hwaiting : waiting.length < size) {l : List α}
    (hne : waiting ++ l ≠ []) :
    packs size waiting l
      = (waiting ++ l).take size :: packs size [] ((waiting ++ l).drop size) := by
  induction l generalizing waiting with
  | nil =>
    rw [List.append_nil] at hne ⊢
    rw [packs, if_neg (by simpa using hne), List.take_of_length_le (Nat.le_of_lt hwaiting),
      List.drop_of_length_le (Nat.le_of_lt hwaiting)]
    rfl
  | cons x rest ih =>
    have hsplit : waiting ++ x :: rest = (waiting ++ [x]) ++ rest := by simp
    rw [packs]
    split
    · have hfull : (waiting ++ [x]).length = size := by
        rw [List.length_append, List.length_singleton]
        omega
      rw [hsplit, List.take_left' hfull, List.drop_left' hfull]
    · rw [hsplit]
      exact ih (by rw [List.length_append, List.length_singleton]; omega) (by simp)

theorem exists_slice_of_mem_packs (hsize : 0 < size) (l : List α) :
    ∀ pack ∈ packs size [] l, ∃ k, pack = slice size l k := by
  induction hlength : l.length using Nat.strong_induction_on generalizing l with
  | _ length ih =>
    intro pack hmem
    by_cases hempty : l = []
    · rw [hempty] at hmem
      exact absurd hmem List.not_mem_nil
    · rw [packs_eq_cons (by simpa using hsize) (by simpa using hempty), List.nil_append] at hmem
      obtain rfl | hmem := List.mem_cons.mp hmem
      · exact ⟨0, by rw [slice, Nat.zero_mul, List.drop_zero]⟩
      · have hpos : 0 < l.length := List.length_pos_iff.mpr hempty
        obtain ⟨k, rfl⟩ := ih (l.drop size).length (by rw [List.length_drop]; omega) _ rfl pack hmem
        exact ⟨k + 1, by rw [slice, slice, List.drop_drop, Nat.succ_mul, Nat.add_comm size]⟩

theorem flatten_packs (size : Nat) (waiting l : List α) :
    (packs size waiting l).flatten = waiting ++ l := by
  induction l generalizing waiting with
  | nil =>
    rw [packs]
    split
    · rename_i hempty
      rw [List.isEmpty_iff.mp hempty]
      rfl
    · simp
  | cons x rest ih =>
    rw [packs]
    split
    · rw [List.flatten_cons, ih]
      simp
    · rw [ih]
      simp

/-- Every pack carries something, and none more than the size. -/
theorem packs_length {waiting : List α} (hwaiting : waiting.length < size) (l : List α) :
    ∀ pack ∈ packs size waiting l, 0 < pack.length ∧ pack.length ≤ size := by
  induction l generalizing waiting with
  | nil =>
    intro pack hmem
    rw [packs] at hmem
    split at hmem
    · exact absurd hmem List.not_mem_nil
    · rename_i hempty
      rw [List.mem_singleton.mp hmem]
      refine ⟨List.length_pos_iff.mpr ?_, Nat.le_of_lt hwaiting⟩
      simpa [List.isEmpty_iff] using hempty
  | cons x rest ih =>
    intro pack hmem
    rw [packs] at hmem
    split at hmem
    · rcases List.mem_cons.mp hmem with rfl | hmem
      · rw [List.length_append, List.length_singleton]
        omega
      · have hnil : ([] : List α).length < size := Nat.lt_of_le_of_lt (Nat.zero_le _) hwaiting
        exact ih hnil pack hmem
    · exact ih (by rw [List.length_append, List.length_singleton]; omega) pack hmem

/-- Every pack but the last is full. -/
theorem packs_full {waiting : List α} (hwaiting : waiting.length < size) (l : List α) :
    ∀ pack ∈ (packs size waiting l).dropLast, pack.length = size := by
  induction l generalizing waiting with
  | nil =>
    intro pack hmem
    rw [packs] at hmem
    split at hmem <;> simp at hmem
  | cons x rest ih =>
    intro pack hmem
    rw [packs] at hmem
    split at hmem
    · rename_i hfull
      have hnil : ([] : List α).length < size := Nat.lt_of_le_of_lt (Nat.zero_le _) hwaiting
      cases hrest : packs size [] rest with
      | nil => simp [hrest] at hmem
      | cons next more =>
        rw [hrest, List.dropLast_cons_cons, ← hrest] at hmem
        rcases List.mem_cons.mp hmem with rfl | hmem
        · rw [List.length_append, List.length_singleton]
          omega
        · exact ih hnil pack hmem
    · exact ih (by rw [List.length_append, List.length_singleton]; omega) pack hmem

end Slices
