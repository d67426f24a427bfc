import Mathlib.Data.List.Nodup
import Mathlib.Logic.Function.Basic

set_option autoImplicit false

/-! # Tickets with numbers that repeat

A desk hands out tickets, and some are kept by a holder. The number on a ticket follows from its
place in the order they are handed out; after a while the numbers repeat. Holders whose tickets are
all among the last ones have different numbers (`Desk.nodup_numbers`).

`Desk` carries what makes this true: no place is ahead of the last ticket, and no two holders share
one. -/

namespace Tickets

variable {Holder ν : Type}

/-- How many tickets were handed out, and the place of the last one each holder got; 0 is no
    ticket. -/
structure Desk (Holder : Type) where
  issued : Nat
  place : Holder → Nat
  place_le : ∀ holder, place holder ≤ issued
  place_inj : ∀ holder other, 0 < place holder → place holder = place other → holder = other

namespace Desk

/-- No ticket was handed out yet. -/
def empty : Desk Holder where
  issued := 0
  place _ := 0
  place_le _ := Nat.le_refl 0
  place_inj _ _ hpos := absurd hpos (Nat.lt_irrefl 0)

/-- A ticket is handed out and thrown away. -/
def discard (desk : Desk Holder) : Desk Holder where
  issued := desk.issued + 1
  place := desk.place
  place_le holder := Nat.le_succ_of_le (desk.place_le holder)
  place_inj := desk.place_inj

/-- A ticket is handed out to a holder, who keeps it in place of an older one. -/
def issue [DecidableEq Holder] (desk : Desk Holder) (holder : Holder) : Desk Holder where
  issued := desk.issued + 1
  place := Function.update desk.place holder (desk.issued + 1)
  place_le other := by
    rw [Function.update_apply]
    split
    · exact Nat.le_refl _
    · exact Nat.le_succ_of_le (desk.place_le other)
  place_inj first second hpos heq := by
    have hfirst := desk.place_le first
    have hsecond := desk.place_le second
    rw [Function.update_apply] at hpos
    rw [Function.update_apply, Function.update_apply] at heq
    split at heq
    · rename_i hfirstNew
      split at heq
      · rename_i hsecondNew
        exact hfirstNew.trans hsecondNew.symm
      · omega
    · rename_i hfirstOld
      rw [if_neg hfirstOld] at hpos
      split at heq
      · omega
      · exact desk.place_inj first second hpos heq

section Place

variable [DecidableEq Holder] (desk : Desk Holder) (holder : Holder)

@[simp] theorem issue_place_self : (desk.issue holder).place holder = desk.issued + 1 := by
  simp [issue]

theorem issue_place_of_ne {other : Holder} (hne : other ≠ holder) :
    (desk.issue holder).place other = desk.place other :=
  Function.update_of_ne hne _ _

end Place

/-- How many tickets were handed out since the holder got its own. -/
def age (desk : Desk Holder) (holder : Holder) : Nat := desk.issued - desk.place holder

end Desk

/-- Tickets that are fewer than `period` places apart have different numbers. -/
def DistinctWithin (period : Nat) (number : Nat → ν) : Prop :=
  ∀ place later, 0 < place → place < later → later - place < period → number place ≠ number later

/-- Two holders with the same number have the same ticket, as long as both tickets are recent. -/
theorem Desk.holder_eq {period : Nat} {number : Nat → ν} (hnumber : DistinctWithin period number)
    (desk : Desk Holder) {holder other : Holder} (hpos : 0 < desk.place holder)
    (hpos' : 0 < desk.place other) (hage : desk.age holder < period)
    (hage' : desk.age other < period)
    (heq : number (desk.place holder) = number (desk.place other)) : holder = other := by
  have hle := desk.place_le holder
  have hle' := desk.place_le other
  unfold age at hage hage'
  rcases Nat.lt_trichotomy (desk.place holder) (desk.place other) with hlt | hsame | hlt
  · exact absurd heq (hnumber _ _ hpos hlt (by omega))
  · exact desk.place_inj holder other hpos hsame
  · exact absurd heq.symm (hnumber _ _ hpos' hlt (by omega))

/-- Holders with recent tickets have different numbers. -/
theorem Desk.nodup_numbers {period : Nat} {number : Nat → ν}
    (hnumber : DistinctWithin period number) (desk : Desk Holder) {holders : List Holder}
    (hnodup : holders.Nodup)
    (hrecent : ∀ holder ∈ holders, 0 < desk.place holder ∧ desk.age holder < period) :
    (holders.map fun holder => number (desk.place holder)).Nodup := by
  refine hnodup.map_on ?_
  intro holder hmem other hmem' heq
  obtain ⟨hpos, hage⟩ := hrecent holder hmem
  obtain ⟨hpos', hage'⟩ := hrecent other hmem'
  exact desk.holder_eq hnumber hpos hpos' hage hage' heq

end Tickets
