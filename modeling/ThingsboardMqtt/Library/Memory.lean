import Mathlib.Data.List.Basic
import Mathlib.Data.List.TakeDrop

set_option autoImplicit false

/-! # Heap blocks

A block of the C heap is the list of its bytes, where `none` is a byte nothing has written since
`malloc` returned the block. A copy that would leave its block is an error instead of a silent
write elsewhere, so that "every write stays inside" is the statement that no error is reached.

`Block.Holds mem bytes` says that the block starts with `bytes`, all of them written; consecutive
copies extend it (`Block.holds_memcpy`). `Block.written` counts the bytes that were written. -/

namespace CHeap

/-- What a C program must not do to memory. -/
inductive MemFault
  | outOfBounds
  deriving DecidableEq, Repr

/-- The bytes of one heap block; `none` is a byte that was never written. -/
abbrev Block := List (Option UInt8)

/-- `malloc(size)`, where the allocator's answer `ok` decides whether it returns `NULL`. -/
def malloc (size : Nat) (ok : Bool) : Option Block :=
  if ok then some (List.replicate size none) else none

/-- `memcpy(dst + offset, src, n)` for the `n` bytes of `src`. -/
def memcpy (dst : Block) (offset : Nat) (src : List UInt8) : Except MemFault Block :=
  if offset + src.length ≤ dst.length then
    .ok (dst.take offset ++ src.map some ++ dst.drop (offset + src.length))
  else
    .error .outOfBounds

/-- The block starts with exactly `bytes`, every one of them written. -/
def Block.Holds (mem : Block) (bytes : List UInt8) : Prop :=
  mem.take bytes.length = bytes.map some

theorem Block.holds_nil (mem : Block) : Block.Holds mem [] := by
  simp [Block.Holds]

theorem Block.Holds.eq_of_length {mem : Block} {bytes : List UInt8} (h : Block.Holds mem bytes)
    (hlen : mem.length ≤ bytes.length) : mem = bytes.map some := by
  have htake : mem.take bytes.length = mem := List.take_of_length_le hlen
  rw [← htake]
  exact h

/-- Copying right behind the bytes a block holds extends them and keeps the block's size. -/
theorem Block.holds_memcpy {mem : Block} {bytes : List UInt8} (h : Block.Holds mem bytes)
    (src : List UInt8) (hfit : bytes.length + src.length ≤ mem.length) :
    ∃ mem', memcpy mem bytes.length src = .ok mem' ∧ mem'.length = mem.length ∧
      Block.Holds mem' (bytes ++ src) := by
  refine ⟨mem.take bytes.length ++ src.map some ++ mem.drop (bytes.length + src.length),
    if_pos hfit, ?_, ?_⟩
  · simp only [List.length_append, List.length_take, List.length_map, List.length_drop]
    omega
  · have hpre : (bytes.map some ++ src.map some : Block).length = (bytes ++ src).length := by
      simp
    unfold Block.Holds at h ⊢
    rw [h, List.map_append, ← hpre, List.take_left']
    rfl

/-- How many bytes of the block were written. -/
def Block.written (mem : Block) : Nat := mem.countP (·.isSome)

/-- `n` bytes from `offset` on. -/
def Block.segment (mem : Block) (offset n : Nat) : Block := (mem.drop offset).take n

theorem Block.written_append (front back : Block) :
    Block.written (front ++ back) = front.written + back.written :=
  List.countP_append

theorem Block.written_le_length (mem : Block) : mem.written ≤ mem.length := List.countP_le_length

theorem Block.written_eq_length {mem : Block} :
    mem.written = mem.length ↔ ∀ byte ∈ mem, byte.isSome = true :=
  List.countP_eq_length

theorem Block.written_replicate_none (n : Nat) : Block.written (List.replicate n none) = 0 := by
  simp [Block.written, List.countP_eq_zero]

/-- A copy inside the block writes what was not written there before. -/
theorem memcpy_written {mem : Block} {offset : Nat} {src : List UInt8}
    (hfit : offset + src.length ≤ mem.length) :
    ∃ mem', memcpy mem offset src = .ok mem' ∧ mem'.length = mem.length ∧
      Block.written mem' + (mem.segment offset src.length).written
        = mem.written + src.length := by
  refine ⟨_, if_pos hfit, ?_, ?_⟩
  · simp only [List.length_append, List.length_take, List.length_map, List.length_drop]
    omega
  · have hsplit : mem.written = Block.written (mem.take offset)
        + ((mem.segment offset src.length).written
          + Block.written (mem.drop (offset + src.length))) := by
      rw [← Block.written_append, ← Block.written_append, Block.segment, ← List.drop_drop,
        List.take_append_drop, List.take_append_drop]
    have hsrc : Block.written (src.map some) = src.length := by
      have hall : ∀ byte ∈ src.map some, byte.isSome = true := by simp
      rw [Block.written_eq_length.mpr hall, List.length_map]
    rw [Block.written_append, Block.written_append, hsrc, hsplit]
    omega

end CHeap
