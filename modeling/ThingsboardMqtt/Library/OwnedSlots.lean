import Mathlib.Algebra.BigOperators.Group.Multiset.Basic
import Mathlib.Logic.Function.Basic
import Mathlib.Tactic.Abel
import ThingsboardMqtt.Library.LiveBuffers

set_option autoImplicit false

/-! # Pointers under names

A record of pointers, each of them `NULL` or the only one to a buffer on the heap. A copy that is put
under a name whose buffer was not freed loses this buffer (`fill_lost`); freeing the record first loses
nothing. Whatever is filled and freed, a live buffer stands under one name or is lost
(`Accounts.fill`, `Accounts.clear`). -/

namespace OwnedSlots

open LiveBuffers

variable {ν κ : Type}

/-- A buffer on the heap with what it holds. -/
structure OwnedBlock (κ : Type) where
  addr : Nat
  content : κ
  deriving DecidableEq, Repr

/-- The pointers of a record by their names. -/
abbrev Slots (ν κ : Type) := ν → Option (OwnedBlock κ)

/-- The heap, and the buffers on it that no pointer leads to any more. -/
structure Blocks where
  heap : Heap
  lost : Multiset Nat

/-- The address behind a pointer, unless it is `NULL`. -/
def address (pointer : Option (OwnedBlock κ)) : Multiset Nat :=
  match pointer with
  | none => 0
  | some buffer => {buffer.addr}

/-- The buffers under some names. -/
def owned (slots : Slots ν κ) (names : List ν) : Multiset Nat :=
  (names.map fun name => address (slots name)).sum

/-- What the buffer under a name holds. -/
def content (slots : Slots ν κ) (name : ν) : Option κ := (slots name).map (·.content)

variable [DecidableEq ν]

/-- `dest = strdup(src)` where `src` is not `NULL`. -/
def put (name : ν) (source : Option κ) (allocated : Bool) (slots : Slots ν κ) (blocks : Blocks) :
    Slots ν κ × Blocks :=
  match source with
  | none => (slots, blocks)
  | some content =>
    let (addr, heap) := blocks.heap.malloc allocated
    (Function.update slots name (addr.map fun addr => ⟨addr, content⟩),
      { heap := heap, lost := blocks.lost + address (slots name) })

/-- A copy of each source is put under its name. -/
def fill (source : ν → Option κ) (allocated : ν → Bool) :
    List ν → Slots ν κ → Blocks → Slots ν κ × Blocks
  | [], slots, blocks => (slots, blocks)
  | name :: rest, slots, blocks =>
    let (slots, blocks) := put name (source name) (allocated name) slots blocks
    fill source allocated rest slots blocks

/-- The buffers under some names are freed, and their pointers set to `NULL`. -/
def clear : List ν → Slots ν κ → Blocks → Except BufferFault (Slots ν κ × Blocks)
  | [], slots, blocks => .ok (slots, blocks)
  | name :: rest, slots, blocks =>
    match slots name with
    | none => clear rest slots blocks
    | some buffer => do
      let heap ← blocks.heap.free (some buffer.addr)
      clear rest (Function.update slots name none) { blocks with heap := heap }

theorem fill_append (source : ν → Option κ) (allocated : ν → Bool) (names names' : List ν)
    (slots : Slots ν κ) (blocks : Blocks) :
    fill source allocated (names ++ names') slots blocks
      = fill source allocated names' (fill source allocated names slots blocks).1
          (fill source allocated names slots blocks).2 := by
  induction names generalizing slots blocks with
  | nil => rfl
  | cons name rest ih => exact ih _ _

theorem clear_append (names names' : List ν) (slots : Slots ν κ) (blocks : Blocks) :
    clear (names ++ names') slots blocks
      = (clear names slots blocks).bind fun cleared => clear names' cleared.1 cleared.2 := by
  induction names generalizing slots blocks with
  | nil => rfl
  | cons name rest ih =>
    rw [List.cons_append, clear, clear]
    cases slots name with
    | none => exact ih slots blocks
    | some buffer =>
      cases hfree : blocks.heap.free (some buffer.addr) with
      | error fault => simp only [hfree, bind, Except.bind]
      | ok heap =>
        simp only [hfree, bind, Except.bind]
        exact ih _ _

/-! ## The buffers of a record -/

section Owned

variable {slots : Slots ν κ} {names : List ν} {name : ν}

omit [DecidableEq ν] in
theorem owned_eq_zero (h : ∀ name ∈ names, slots name = none) : owned slots names = 0 := by
  induction names with
  | nil => rfl
  | cons name rest ih =>
    rw [List.forall_mem_cons] at h
    rw [owned, List.map_cons, List.sum_cons, h.1]
    exact (Multiset.zero_add _).trans (ih h.2)

omit [DecidableEq ν] in
/-- A record owns nothing when its pointers are all `NULL`, and only then. -/
theorem owned_eq_zero_iff : owned slots names = 0 ↔ ∀ name ∈ names, slots name = none := by
  refine ⟨?_, owned_eq_zero⟩
  induction names with
  | nil => simp
  | cons name rest ih =>
    intro h
    rw [owned, List.map_cons, List.sum_cons] at h
    rw [List.forall_mem_cons]
    cases hslot : slots name with
    | none =>
      rw [hslot, address, Multiset.zero_add] at h
      exact ⟨rfl, ih h⟩
    | some buffer => simp [address, hslot] at h

theorem owned_erase (slots : Slots ν κ) (hmem : name ∈ names) :
    owned slots names = address (slots name) + owned slots (names.erase name) := by
  have hperm := (List.perm_cons_erase hmem).map fun name => address (slots name)
  rw [owned, hperm.sum_eq, List.map_cons, List.sum_cons]
  rfl

theorem owned_update (slots : Slots ν κ) (hnodup : names.Nodup) (hmem : name ∈ names)
    (pointer : Option (OwnedBlock κ)) :
    owned (Function.update slots name pointer) names
      = address pointer + owned slots (names.erase name) := by
  rw [owned_erase _ hmem, Function.update_self]
  congr 1
  refine congrArg List.sum (List.map_congr_left ?_)
  intro other hother
  rw [Function.update_of_ne ((hnodup.mem_erase_iff.mp hother).1)]

end Owned

/-- Nothing is lost by two steps when nothing is lost by either. -/
theorem add_eq_zero_iff {left right : Multiset Nat} : left + right = 0 ↔ left = 0 ∧ right = 0 := by
  simp only [← Multiset.card_eq_zero, Multiset.card_add, Nat.add_eq_zero_iff]

/-! ## What is live -/

/-- Every live buffer stands under a name of the record, is lost, or has another owner. -/
def Keeps (names : List ν) (slots : Slots ν κ) (blocks : Blocks) (others : Multiset Nat) : Prop :=
  Accounts blocks.heap (owned slots names + (blocks.lost + others))

section Keeps

variable {names : List ν} {slots : Slots ν κ} {blocks : Blocks} {others : Multiset Nat}

theorem Keeps.put (h : Keeps names slots blocks others) (hnodup : names.Nodup) {name : ν}
    (hmem : name ∈ names) (source : Option κ) (allocated : Bool) :
    Keeps names (put name source allocated slots blocks).1 (put name source allocated slots blocks).2
      others := by
  cases source with
  | none => exact h
  | some content =>
    unfold Keeps at h ⊢
    rw [owned_erase slots hmem] at h
    cases allocated with
    | false =>
      simp only [OwnedSlots.put, Heap.malloc, Bool.false_eq_true, if_false, Option.map_none]
      rw [owned_update slots hnodup hmem]
      have heq : address (none : Option (OwnedBlock κ)) + owned slots (names.erase name)
          + (blocks.lost + address (slots name) + others)
          = address (slots name) + owned slots (names.erase name) + (blocks.lost + others) := by
        rw [address, Multiset.zero_add]
        abel
      rw [heq]
      exact h
    | true =>
      obtain ⟨addr, heap, hmalloc, hkeeps⟩ := h.malloc
      simp only [OwnedSlots.put, hmalloc, Option.map_some]
      rw [owned_update slots hnodup hmem]
      have heq : address (some (⟨addr, content⟩ : OwnedBlock κ)) + owned slots (names.erase name)
          + (blocks.lost + address (slots name) + others)
          = addr ::ₘ (address (slots name) + owned slots (names.erase name)
            + (blocks.lost + others)) := by
        rw [← Multiset.singleton_add, address]
        abel
      rw [heq]
      exact hkeeps

theorem Keeps.fill (h : Keeps names slots blocks others) (hnodup : names.Nodup) {filled : List ν}
    (hsubset : filled ⊆ names) (source : ν → Option κ) (allocated : ν → Bool) :
    Keeps names (fill source allocated filled slots blocks).1
      (fill source allocated filled slots blocks).2 others := by
  induction filled generalizing slots blocks with
  | nil => exact h
  | cons name rest ih =>
    rw [List.cons_subset] at hsubset
    exact ih (h.put hnodup hsubset.1 (source name) (allocated name)) hsubset.2

/-- What stands under the names of a record can be freed. -/
theorem Keeps.clear (h : Keeps names slots blocks others) (hnodup : names.Nodup)
    {cleared : List ν} (hsubset : cleared ⊆ names) :
    ∃ slots' blocks', clear cleared slots blocks = .ok (slots', blocks') ∧
      Keeps names slots' blocks' others ∧ blocks'.lost = blocks.lost ∧
      ∀ name, slots' name = if name ∈ cleared then none else slots name := by
  induction cleared generalizing slots blocks with
  | nil => exact ⟨slots, blocks, rfl, h, rfl, fun name => by simp⟩
  | cons name rest ih =>
    rw [List.cons_subset] at hsubset
    cases hslot : slots name with
    | none =>
      obtain ⟨slots', blocks', hclear, hkeeps, hlost, hslots⟩ := ih h hsubset.2
      refine ⟨slots', blocks', by simp only [OwnedSlots.clear, hslot, hclear], hkeeps, hlost, ?_⟩
      intro other
      rw [hslots other]
      by_cases hother : other = name
      · simp [hother, hslot]
      · simp [hother]
    | some buffer =>
      have hfront : Accounts blocks.heap
          (buffer.addr ::ₘ (owned slots (names.erase name) + (blocks.lost + others))) := by
        unfold Keeps at h
        rw [owned_erase slots hsubset.1, hslot, address, Multiset.add_assoc,
          Multiset.singleton_add] at h
        exact h
      obtain ⟨heap, hfree, hrest⟩ := hfront.free
      have hkeeps : Keeps names (Function.update slots name none) { blocks with heap := heap }
          others := by
        unfold Keeps
        rw [owned_update slots hnodup hsubset.1, address, Multiset.zero_add]
        exact hrest
      obtain ⟨slots', blocks', hclear, hkeeps', hlost, hslots⟩ := ih hkeeps hsubset.2
      refine ⟨slots', blocks', ?_, hkeeps', hlost, ?_⟩
      · simp only [OwnedSlots.clear, hslot, hfree, bind, Except.bind, hclear]
      · intro other
        rw [hslots other]
        by_cases hother : other = name
        · simp [hother]
        · simp [hother]

end Keeps

/-! ## What a record holds, and what is lost -/

section Fill

variable {source : ν → Option κ} {allocated : ν → Bool}

theorem fill_content (names : List ν) (hnodup : names.Nodup) (slots : Slots ν κ) (blocks : Blocks)
    (name : ν) :
    content (fill source allocated names slots blocks).1 name
      = if name ∈ names ∧ (source name).isSome then (if allocated name then source name else none)
        else content slots name := by
  induction names generalizing slots blocks with
  | nil => simp [fill]
  | cons first rest ih =>
    rw [List.nodup_cons] at hnodup
    rw [fill, ih hnodup.2]
    by_cases hrest : name ∈ rest
    · have hne : name ≠ first := by
        rintro rfl
        exact hnodup.1 hrest
      have hkept : content (put first (source first) (allocated first) slots blocks).1 name
          = content slots name := by
        cases source first with
        | none => rfl
        | some text => simp only [put, content, Function.update_of_ne hne]
      simp only [hkept, hrest, List.mem_cons, or_true, true_and]
    · by_cases hfirst : name = first
      · subst hfirst
        cases hsource : source name with
        | none => simp [put]
        | some text =>
          cases hallocated : allocated name with
          | false => simp [hrest, put, content, Heap.malloc]
          | true => simp [hrest, put, content, Heap.malloc]
      · have hkept : content (put first (source first) (allocated first) slots blocks).1 name
            = content slots name := by
          cases source first with
          | none => rfl
          | some text => simp only [put, content, Function.update_of_ne hfirst]
        simp only [hkept, hrest, List.mem_cons, hfirst, or_self, false_and, if_false]

/-- Lost is what stood under the names that have a source. -/
theorem fill_lost (names : List ν) (hnodup : names.Nodup) (slots : Slots ν κ) (blocks : Blocks) :
    (fill source allocated names slots blocks).2.lost
      = blocks.lost + owned slots (names.filter fun name => (source name).isSome) := by
  induction names generalizing slots blocks with
  | nil => exact (Multiset.add_zero _).symm
  | cons name rest ih =>
    rw [List.nodup_cons] at hnodup
    rw [fill, ih hnodup.2]
    cases hsource : source name with
    | none => simp only [put, List.filter_cons, hsource, Option.isSome_none, Bool.false_eq_true, if_false]
    | some text =>
      have hothers : owned (put name (some text) (allocated name) slots blocks).1
            (rest.filter fun name => (source name).isSome)
          = owned slots (rest.filter fun name => (source name).isSome) := by
        refine congrArg List.sum (List.map_congr_left ?_)
        intro other hother
        have hne : other ≠ name := by
          rintro rfl
          exact hnodup.1 (List.mem_of_mem_filter hother)
        simp only [put, Function.update_of_ne hne]
      rw [hothers]
      simp only [put, List.filter_cons, hsource, Option.isSome_some, if_true]
      rw [owned, owned, List.map_cons, List.sum_cons, Multiset.add_assoc]

end Fill

end OwnedSlots
