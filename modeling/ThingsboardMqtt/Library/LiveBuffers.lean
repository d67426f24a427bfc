import Mathlib.Data.Finset.Basic
import Mathlib.Data.Finset.Lattice.Lemmas

set_option autoImplicit false

/-! # Buffers that are live

A heap, as far as the ownership of its buffers goes: which addresses were allocated and not freed. An
address is never handed out twice, so an access to a buffer behind its free, or a second free, is an
error here whatever was allocated in between.

`Grows heap heap' owned` says what a piece of code has done to the heap: its buffers that are still
live are `owned`, and it left alone those of everybody else. Code that frees all it allocated grows the
heap by nothing (`Grows.live_eq`). -/

namespace LiveBuffers

/-- What a program must not do to a buffer. -/
inductive BufferFault
  | freed
  deriving DecidableEq, Repr

structure Heap where
  live : Finset Nat
  lastAddr : Nat
  allocated : ∀ addr ∈ live, addr ≤ lastAddr

namespace Heap

/-- No buffer is live. -/
def empty : Heap where
  live := ∅
  lastAddr := 0
  allocated := by simp

/-- `malloc`, where the allocator's answer decides whether it returns `NULL`. -/
def malloc (succeeds : Bool) (heap : Heap) : Option Nat × Heap :=
  if succeeds then
    (some (heap.lastAddr + 1),
      { live := insert (heap.lastAddr + 1) heap.live
        lastAddr := heap.lastAddr + 1
        allocated := by
          intro addr hmem
          rcases Finset.mem_insert.mp hmem with rfl | hmem
          · exact Nat.le_refl _
          · exact Nat.le_succ_of_le (heap.allocated addr hmem) })
  else (none, heap)

/-- A pointer is followed. -/
def access (addr : Nat) (heap : Heap) : Except BufferFault Unit :=
  if addr ∈ heap.live then .ok () else .error .freed

/-- `free`, which does nothing to `NULL`. -/
def free (addr : Option Nat) (heap : Heap) : Except BufferFault Heap :=
  match addr with
  | none => .ok heap
  | some addr =>
    if addr ∈ heap.live then
      .ok
        { live := heap.live.erase addr
          lastAddr := heap.lastAddr
          allocated := fun addr' hmem => heap.allocated addr' (Finset.mem_of_mem_erase hmem) }
    else .error .freed

/-- Buffers are freed one after the other. -/
def freeAll : List Nat → Heap → Except BufferFault Heap
  | [], heap => .ok heap
  | addr :: rest, heap => do
    let heap ← heap.free (some addr)
    freeAll rest heap

theorem access_of_mem {addr : Nat} {heap : Heap} (h : addr ∈ heap.live) :
    heap.access addr = .ok () := if_pos h

theorem free_of_mem {addr : Nat} {heap : Heap} (h : addr ∈ heap.live) :
    ∃ heap', heap.free (some addr) = .ok heap' ∧ heap'.live = heap.live.erase addr ∧
      heap'.lastAddr = heap.lastAddr :=
  ⟨_, if_pos h, rfl, rfl⟩

theorem freeAll_of_subset {addrs : List Nat} {heap : Heap} (hnodup : addrs.Nodup)
    (h : ∀ addr ∈ addrs, addr ∈ heap.live) :
    ∃ heap', heap.freeAll addrs = .ok heap' ∧ heap'.live = heap.live \ addrs.toFinset ∧
      heap'.lastAddr = heap.lastAddr := by
  induction addrs generalizing heap with
  | nil => exact ⟨heap, rfl, by simp, rfl⟩
  | cons addr rest ih =>
    rw [List.nodup_cons] at hnodup
    rw [List.forall_mem_cons] at h
    obtain ⟨heap₁, hfree, hlive, hlast⟩ := free_of_mem h.1
    have hrest : ∀ addr' ∈ rest, addr' ∈ heap₁.live := by
      intro addr' hmem
      rw [hlive]
      refine Finset.mem_erase.mpr ⟨?_, h.2 addr' hmem⟩
      rintro rfl
      exact hnodup.1 hmem
    obtain ⟨heap₂, hfreeAll, hlive', hlast'⟩ := ih hnodup.2 hrest
    refine ⟨heap₂, ?_, ?_, hlast'.trans hlast⟩
    · rw [freeAll, hfree]
      exact hfreeAll
    · rw [hlive', hlive, List.toFinset_cons, Finset.erase_sdiff_comm, Finset.sdiff_insert]

end Heap

/-! ## What code does to the heap -/

/-- `heap'` is `heap` with the buffers `owned`, which were allocated since. -/
structure Grows (heap heap' : Heap) (owned : Finset Nat) : Prop where
  live : heap'.live = heap.live ∪ owned
  fresh : ∀ addr ∈ owned, heap.lastAddr < addr
  lastAddr : heap.lastAddr ≤ heap'.lastAddr

namespace Grows

variable {heap heap₁ heap₂ : Heap} {owned owned₁ : Finset Nat}

theorem refl (heap : Heap) : Grows heap heap ∅ := ⟨by simp, by simp, Nat.le_refl _⟩

theorem not_mem (h : Grows heap heap₁ owned) {addr : Nat} (hmem : addr ∈ owned) :
    addr ∉ heap.live := by
  intro hlive
  exact absurd (heap.allocated addr hlive) (Nat.not_le_of_lt (h.fresh addr hmem))

theorem mem_live (h : Grows heap heap₁ owned) {addr : Nat} (hmem : addr ∈ owned) :
    addr ∈ heap₁.live := by
  rw [h.live]
  exact Finset.mem_union_right _ hmem

theorem trans (h : Grows heap heap₁ owned) (h' : Grows heap₁ heap₂ owned₁) :
    Grows heap heap₂ (owned ∪ owned₁) where
  live := by rw [h'.live, h.live, Finset.union_assoc]
  fresh := by
    intro addr hmem
    rcases Finset.mem_union.mp hmem with hmem | hmem
    · exact h.fresh addr hmem
    · exact Nat.lt_of_le_of_lt h.lastAddr (h'.fresh addr hmem)
  lastAddr := Nat.le_trans h.lastAddr h'.lastAddr

/-- Code that frees what it allocates can stand anywhere. -/
theorem trans_empty (h : Grows heap heap₁ owned) (h' : Grows heap₁ heap₂ ∅) :
    Grows heap heap₂ owned := by
  have hboth := h.trans h'
  rwa [Finset.union_empty] at hboth

theorem live_eq (h : Grows heap heap₁ ∅) : heap₁.live = heap.live := by
  rw [h.live, Finset.union_empty]

theorem malloc (heap : Heap) :
    ∃ addr heap', heap.malloc true = (some addr, heap') ∧ Grows heap heap' {addr} := by
  refine ⟨heap.lastAddr + 1, _, rfl, ?_, ?_, Nat.le_succ _⟩
  · simp only [Finset.insert_eq]
    exact Finset.union_comm _ _
  · intro addr hmem
    rw [Finset.mem_singleton.mp hmem]
    exact Nat.lt_succ_self _

theorem free (h : Grows heap heap₁ owned) {addr : Nat} (hmem : addr ∈ owned) :
    ∃ heap', heap₁.free (some addr) = .ok heap' ∧ Grows heap heap' (owned.erase addr) := by
  obtain ⟨heap', hfree, hlive, hlast⟩ := Heap.free_of_mem (h.mem_live hmem)
  refine ⟨heap', hfree, ?_, ?_, hlast.symm ▸ h.lastAddr⟩
  · rw [hlive, h.live, Finset.erase_union_distrib, Finset.erase_eq_of_notMem (h.not_mem hmem)]
  · intro addr' hmem'
    exact h.fresh addr' (Finset.mem_of_mem_erase hmem')

theorem freeAll {addrs : List Nat} (h : Grows heap heap₁ owned) (hnodup : addrs.Nodup)
    (hsubset : addrs.toFinset ⊆ owned) :
    ∃ heap', heap₁.freeAll addrs = .ok heap' ∧ Grows heap heap' (owned \ addrs.toFinset) := by
  have hlive : ∀ addr ∈ addrs, addr ∈ heap₁.live := by
    intro addr hmem
    exact h.mem_live (hsubset (List.mem_toFinset.mpr hmem))
  obtain ⟨heap', hfreeAll, hlive', hlast⟩ := Heap.freeAll_of_subset hnodup hlive
  refine ⟨heap', hfreeAll, ?_, ?_, hlast.symm ▸ h.lastAddr⟩
  · have hdisjoint : Disjoint heap.live addrs.toFinset := by
      rw [Finset.disjoint_right]
      intro addr hmem
      exact h.not_mem (hsubset hmem)
    rw [hlive', h.live, Finset.union_sdiff_distrib, Finset.sdiff_eq_self_of_disjoint hdisjoint]
  · intro addr hmem
    exact h.fresh addr (Finset.mem_sdiff.mp hmem).1

end Grows

/-! ## Who owns the buffers -/

/-- Every buffer that is live has one owner: `owned` are the buffers of all owners. -/
def Accounts (heap : Heap) (owned : Multiset Nat) : Prop := heap.live.val = owned

namespace Accounts

variable {heap : Heap} {owned others : Multiset Nat} {addr : Nat}

theorem empty : Accounts .empty 0 := rfl

theorem nodup (h : Accounts heap owned) : owned.Nodup := by
  rw [← h]
  exact heap.live.nodup

theorem malloc (h : Accounts heap owned) :
    ∃ addr heap', heap.malloc true = (some addr, heap') ∧ Accounts heap' (addr ::ₘ owned) := by
  refine ⟨heap.lastAddr + 1, _, rfl, ?_⟩
  have hnew : heap.lastAddr + 1 ∉ heap.live := by
    intro hmem
    exact absurd (heap.allocated _ hmem) (Nat.not_succ_le_self _)
  rw [Accounts, ← h]
  exact Finset.insert_val_of_notMem hnew

/-- A buffer that has an owner can be used. -/
theorem access_of_mem (h : Accounts heap owned) (hmem : addr ∈ owned) :
    heap.access addr = .ok () := by
  refine Heap.access_of_mem ?_
  rw [← Finset.mem_val, h]
  exact hmem

theorem access (h : Accounts heap (addr ::ₘ others)) : heap.access addr = .ok () :=
  h.access_of_mem (Multiset.mem_cons_self addr others)

theorem free (h : Accounts heap (addr ::ₘ others)) :
    ∃ heap', heap.free (some addr) = .ok heap' ∧ Accounts heap' others := by
  have hmem : addr ∈ heap.live := by
    rw [← Finset.mem_val, h]
    exact Multiset.mem_cons_self addr others
  obtain ⟨heap', hfree, hlive, -⟩ := Heap.free_of_mem hmem
  refine ⟨heap', hfree, ?_⟩
  rw [Accounts, hlive, Finset.erase_val, h, Multiset.erase_cons_head]

theorem freeAll {addrs : List Nat} (h : Accounts heap (↑addrs + others)) :
    ∃ heap', heap.freeAll addrs = .ok heap' ∧ Accounts heap' others := by
  induction addrs generalizing heap with
  | nil =>
    rw [Multiset.coe_nil, Multiset.zero_add] at h
    exact ⟨heap, rfl, h⟩
  | cons addr rest ih =>
    rw [← Multiset.cons_coe, Multiset.cons_add] at h
    obtain ⟨heap₁, hfree, hrest⟩ := h.free
    obtain ⟨heap₂, hfreeAll, hothers⟩ := ih hrest
    refine ⟨heap₂, ?_, hothers⟩
    rw [Heap.freeAll, hfree]
    exact hfreeAll

end Accounts

end LiveBuffers
