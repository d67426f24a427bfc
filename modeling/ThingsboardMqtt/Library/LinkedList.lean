import Mathlib.Data.List.Nodup
import ThingsboardMqtt.Library.ListWalk

set_option autoImplicit false

/-! # A loop over a linked list that changes

`LIST_FOREACH_SAFE` saves the link of a cell before the body runs and goes on with the saved link.
The body may take out cells then, the current one too. A saved link to a cell that was taken out is
a read of freed memory, and a cell that is put in behind the saved link is visited as well.

Where the body leaves alone what is behind the current cell, none of this happens, and the loop
visits the cells that the list had when it started (`foreachSafe_eq_walk`). -/

namespace LinkedList

open ListWalk

variable {φ σ α : Type}

/-- What a loop must not come to: a cell that was freed, more rounds than it was given, an index that is
    not in an array, or a fault of another kind in its body. -/
inductive WalkFault (φ : Type)
  | freed
  | endless
  | outOfBounds
  | body (fault : φ)
  deriving DecidableEq, Repr

/-- How a round ends: with the next one, or by `break` or `return`. -/
inductive Flow
  | next
  | leave
  deriving DecidableEq, Repr

/-- `LIST_FOREACH_SAFE` from a link on, for some rounds at most. -/
def foreachSafe (cells : σ → List α) (addr : α → Nat)
    (body : α → σ → Except (WalkFault φ) (Flow × σ)) :
    Nat → Option Nat → σ → Except (WalkFault φ) (Flow × σ)
  | _, none, s => .ok (.next, s)
  | 0, some _, _ => .error .endless
  | rounds + 1, some link, s =>
    match splitFirst (fun x => addr x = link) (cells s) with
    | none => .error .freed
    | some (_, x, back) => do
      let (flow, s) ← body x s
      match flow with
      | .leave => .ok (.leave, s)
      | .next => foreachSafe cells addr body rounds (back.head?.map addr) s

/-- `LIST_FOREACH_SAFE` from `LIST_FIRST` on, for as many rounds as there are cells. -/
def foreachCell (cells : σ → List α) (addr : α → Nat)
    (body : α → σ → Except (WalkFault φ) (Flow × σ)) (s : σ) : Except (WalkFault φ) (Flow × σ) :=
  foreachSafe cells addr body (cells s).length ((cells s).head?.map addr) s

/-- The body, run on the elements of a list until a round leaves. -/
def walk (body : α → σ → Except (WalkFault φ) (Flow × σ)) :
    List α → σ → Except (WalkFault φ) (Flow × σ)
  | [], s => .ok (.next, s)
  | x :: rest, s => do
    let (flow, s) ← body x s
    match flow with
    | .leave => .ok (.leave, s)
    | .next => walk body rest s

/-- A round leaves alone what is behind its cell. -/
def KeepsBack (cells : σ → List α) (body : α → σ → Except (WalkFault φ) (Flow × σ)) : Prop :=
  ∀ x s front back flow s', cells s = front ++ x :: back → body x s = .ok (flow, s') →
    ∃ front', cells s' = front' ++ back

variable {cells : σ → List α} {addr : α → Nat} {body : α → σ → Except (WalkFault φ) (Flow × σ)}

theorem splitFirst_addr {front back : List α} {x : α}
    (hnodup : ((front ++ x :: back).map addr).Nodup) :
    splitFirst (fun y => decide (addr y = addr x)) (front ++ x :: back) = some (front, x, back) := by
  refine splitFirst_append_cons ?_ (by simp) back
  intro y hy
  rw [List.map_append, List.map_cons, List.nodup_append] at hnodup
  simpa using hnodup.2.2 (addr y) (List.mem_map_of_mem hy) (addr x) List.mem_cons_self

theorem foreachSafe_cons {rounds : Nat} {s : σ} {front back : List α} {x : α}
    (hcells : cells s = front ++ x :: back) (hnodup : ((cells s).map addr).Nodup) :
    foreachSafe cells addr body (rounds + 1) (some (addr x)) s
      = (body x s).bind fun result =>
          match result.1 with
          | .leave => .ok (.leave, result.2)
          | .next => foreachSafe cells addr body rounds (back.head?.map addr) result.2 := by
  rw [hcells] at hnodup
  simp only [foreachSafe, hcells, splitFirst_addr hnodup]
  rfl

/-- A loop whose rounds leave alone what is behind their cells visits the cells that were there. -/
theorem foreachSafe_eq_walk (hnodup : ∀ s, ((cells s).map addr).Nodup)
    (hkeeps : KeepsBack cells body) {rounds : Nat} {s : σ} {front back : List α}
    (hcells : cells s = front ++ back) (hrounds : back.length ≤ rounds) :
    foreachSafe cells addr body rounds (back.head?.map addr) s = walk body back s := by
  induction back generalizing rounds s front with
  | nil => cases rounds <;> rfl
  | cons x back ih =>
    obtain ⟨rounds, rfl⟩ : ∃ n, rounds = n + 1 :=
      ⟨rounds - 1, by rw [List.length_cons] at hrounds; omega⟩
    rw [List.head?_cons, Option.map_some, foreachSafe_cons hcells (hnodup s), walk]
    cases hround : body x s with
    | error fault => rfl
    | ok result =>
      obtain ⟨flow, s'⟩ := result
      cases flow with
      | leave => rfl
      | next =>
        obtain ⟨front', hcells'⟩ := hkeeps x s front back .next s' hcells hround
        exact ih hcells' (by rw [List.length_cons] at hrounds; omega)

theorem foreachCell_eq_walk (hnodup : ∀ s, ((cells s).map addr).Nodup)
    (hkeeps : KeepsBack cells body) (s : σ) :
    foreachCell cells addr body s = walk body (cells s) s := by
  have hcells : cells s = [] ++ cells s := rfl
  exact foreachSafe_eq_walk hnodup hkeeps hcells (Nat.le_refl _)

/-- The rule of a loop that goes to the end: an invariant of the cells visited, those to come and the
    state, kept by every round, which leaves the cells to come where they are. -/
theorem foreachCell_rule (hnodup : ∀ s, ((cells s).map addr).Nodup)
    {inv : List α → List α → σ → Prop}
    (hcells : ∀ done todo s, inv done todo s → ∃ front, cells s = front ++ todo)
    (hround : ∀ done x todo s, inv done (x :: todo) s →
      ∃ s', body x s = .ok (.next, s') ∧ inv (done ++ [x]) todo s')
    {s : σ} (h : inv [] (cells s) s) :
    ∃ s', foreachCell cells addr body s = .ok (.next, s') ∧ inv (cells s) [] s' := by
  have hall : ∀ (todo done : List α) (rounds : Nat) (s : σ), inv done todo s →
      todo.length ≤ rounds → ∃ s', foreachSafe cells addr body rounds (todo.head?.map addr) s
        = .ok (.next, s') ∧ inv (done ++ todo) [] s' := by
    intro todo
    induction todo with
    | nil =>
      intro done rounds s h _
      exact ⟨s, by cases rounds <;> rfl, by rwa [List.append_nil]⟩
    | cons x todo ih =>
      intro done rounds s h hrounds
      obtain ⟨rounds, rfl⟩ : ∃ n, rounds = n + 1 :=
        ⟨rounds - 1, by rw [List.length_cons] at hrounds; omega⟩
      obtain ⟨front, hfront⟩ := hcells done (x :: todo) s h
      obtain ⟨s₁, hbody, h₁⟩ := hround done x todo s h
      obtain ⟨s', hloop, h'⟩ := ih (done ++ [x]) rounds s₁ h₁
        (by rw [List.length_cons] at hrounds; omega)
      refine ⟨s', ?_, by simpa using h'⟩
      rw [List.head?_cons, Option.map_some, foreachSafe_cons hfront (hnodup s), hbody]
      exact hloop
  exact hall (cells s) [] (cells s).length s h (Nat.le_refl _)

/-! ## Loops whose rounds may do anything

A loop reads a freed cell exactly when it goes on behind a round that took out the cell whose link was
saved, which is the one behind its own (`foreachSafe_freed_iff`). -/

/-- The loop gets from a link to another one, over the cells `done`. -/
inductive Visits (cells : σ → List α) (addr : α → Nat)
    (body : α → σ → Except (WalkFault φ) (Flow × σ)) (link : Option Nat) (s : σ) :
    List α → Option Nat → σ → Prop
  | nil : Visits cells addr body link s [] link s
  | snoc {done front back : List α} {x : α} {mid last : σ}
      (visits : Visits cells addr body link s done (some (addr x)) mid)
      (hcells : cells mid = front ++ x :: back) (hround : body x mid = .ok (.next, last)) :
      Visits cells addr body link s (done ++ [x]) (back.head?.map addr) last

/-- The round of `x` takes out the cell behind `x`, and the loop goes on. -/
def Overtakes (cells : σ → List α) (addr : α → Nat)
    (body : α → σ → Except (WalkFault φ) (Flow × σ)) (s : σ) (x : α) : Prop :=
  ∃ done front y back mid last,
    Visits cells addr body ((cells s).head?.map addr) s done (some (addr x)) mid ∧
    cells mid = front ++ x :: y :: back ∧ body x mid = .ok (.next, last) ∧
    addr y ∉ (cells last).map addr

/-- A round in front of a loop. -/
theorem Visits.cons {front back done : List α} {x : α} {link : Option Nat} {s mid last : σ}
    (hcells : cells s = front ++ x :: back) (hround : body x s = .ok (.next, mid))
    (visits : Visits cells addr body (back.head?.map addr) mid done link last) :
    Visits cells addr body (some (addr x)) s (x :: done) link last := by
  induction visits with
  | nil => exact .snoc .nil hcells hround
  | snoc _ hcells' hround' ih => exact .snoc ih hcells' hround'

section

variable {inv : σ → Prop} (hnodup : ∀ s, inv s → ((cells s).map addr).Nodup)
  (hround : ∀ x s flow s', inv s → x ∈ cells s → body x s = .ok (flow, s') → inv s')

include hround

theorem Visits.invariant {done : List α} {link link' : Option Nat} {s last : σ} (hinv : inv s)
    (visits : Visits cells addr body link s done link' last) : inv last := by
  induction visits with
  | nil => exact hinv
  | snoc _ hcells hbody ih =>
    refine hround _ _ _ _ ih ?_ hbody
    rw [hcells]
    exact List.mem_append_right _ List.mem_cons_self

include hnodup

/-- What is left of a loop, behind the cells it has visited. -/
theorem Visits.foreachSafe_eq {done : List α} {link link' : Option Nat} {s last : σ} (hinv : inv s)
    (visits : Visits cells addr body link s done link' last) :
    ∀ rounds, foreachSafe cells addr body (done.length + rounds) link s
      = foreachSafe cells addr body rounds link' last := by
  induction visits with
  | nil => exact fun rounds => by rw [List.length_nil, Nat.zero_add]
  | snoc visits hcells hbody ih =>
    intro rounds
    rw [List.length_append, List.length_singleton, Nat.add_assoc, Nat.add_comm 1, ih,
      foreachSafe_cons hcells (hnodup _ (visits.invariant hround hinv)), hbody]
    rfl

omit hnodup in
/-- A loop that reads a freed cell has got to its link. -/
theorem visits_of_freed (hbody : ∀ x s, inv s → body x s ≠ .error .freed) {rounds : Nat} :
    ∀ {link : Option Nat} {s : σ}, inv s → foreachSafe cells addr body rounds link s = .error .freed →
      ∃ done link' last, Visits cells addr body link s done (some link') last ∧
        link' ∉ (cells last).map addr := by
  induction rounds with
  | zero =>
    intro link s _ h
    cases link <;> simp [foreachSafe] at h
  | succ rounds ih =>
    intro link s hinv h
    cases link with
    | none => simp [foreachSafe] at h
    | some link =>
      simp only [foreachSafe] at h
      cases hsplit : splitFirst (fun x => decide (addr x = link)) (cells s) with
      | none =>
        refine ⟨[], link, s, .nil, ?_⟩
        intro hmem
        obtain ⟨x, hx, haddr⟩ := List.mem_map.mp hmem
        exact absurd haddr (of_decide_eq_false (splitFirst_eq_none hsplit x hx))
      | some parts =>
        obtain ⟨front, x, back⟩ := parts
        obtain ⟨hcells, haddr, -⟩ := splitFirst_eq_some hsplit
        obtain rfl := of_decide_eq_true haddr
        simp only [hsplit, bind, Except.bind] at h
        cases hrun : body x s with
        | error fault =>
          simp only [hrun] at h
          exact absurd (hrun.trans h) (hbody x s hinv)
        | ok result =>
          obtain ⟨flow, mid⟩ := result
          cases flow with
          | leave => simp [hrun] at h
          | next =>
            simp only [hrun] at h
            have hmem : x ∈ cells s := by
              rw [hcells]
              exact List.mem_append_right _ List.mem_cons_self
            obtain ⟨done, link', last, visits, hmissing⟩ := ih (hround x s _ mid hinv hmem hrun) h
            exact ⟨x :: done, link', last, visits.cons hcells hrun, hmissing⟩

omit hnodup in
/-- What the rounds keep holds behind the loop, and its faults are those of the loop itself. -/
theorem foreachSafe_outcome (hbody : ∀ x s, inv s → ∃ result, body x s = .ok result) {rounds : Nat} :
    ∀ {link : Option Nat} {s : σ}, inv s →
      (∃ flow last, foreachSafe cells addr body rounds link s = .ok (flow, last) ∧ inv last) ∨
        foreachSafe cells addr body rounds link s = .error .freed ∨
        foreachSafe cells addr body rounds link s = .error .endless := by
  induction rounds with
  | zero =>
    intro link s hinv
    cases link with
    | none => exact .inl ⟨.next, s, rfl, hinv⟩
    | some link => exact .inr (.inr rfl)
  | succ rounds ih =>
    intro link s hinv
    cases link with
    | none => exact .inl ⟨.next, s, rfl, hinv⟩
    | some link =>
      cases hsplit : splitFirst (fun x => decide (addr x = link)) (cells s) with
      | none => exact .inr (.inl (by simp only [foreachSafe, hsplit]))
      | some parts =>
        obtain ⟨front, x, back⟩ := parts
        obtain ⟨⟨flow, mid⟩, hrun⟩ := hbody x s hinv
        have hmem : x ∈ cells s := by
          rw [(splitFirst_eq_some hsplit).1]
          exact List.mem_append_right _ List.mem_cons_self
        have hmid := hround x s flow mid hinv hmem hrun
        simp only [foreachSafe, hsplit, hrun, bind, Except.bind]
        cases flow with
        | leave => exact .inl ⟨.leave, mid, rfl, hmid⟩
        | next => exact ih hmid

/-- A loop reads a freed cell when a round has taken out the cell behind its own. -/
theorem foreachSafe_freed_iff (hbody : ∀ x s, inv s → body x s ≠ .error .freed) {s : σ}
    (hinv : inv s) :
    (∃ rounds, foreachSafe cells addr body rounds ((cells s).head?.map addr) s = .error .freed) ↔
      ∃ x, Overtakes cells addr body s x := by
  constructor
  · rintro ⟨rounds, h⟩
    obtain ⟨done, link', last, visits, hmissing⟩ := visits_of_freed hround hbody hinv h
    generalize hlink : some link' = link at visits
    cases visits with
    | nil =>
      -- the first cell is in the list
      obtain ⟨x, hx, haddr⟩ := Option.map_eq_some_iff.mp hlink.symm
      exact absurd (List.mem_map.mpr ⟨x, List.mem_of_head? hx, haddr⟩) hmissing
    | @snoc done front back x mid _ visits hcells hrun =>
      obtain ⟨y, hy, rfl⟩ := Option.map_eq_some_iff.mp hlink.symm
      obtain ⟨back', rfl⟩ := List.head?_eq_some_iff.mp hy
      exact ⟨x, done, front, y, back', mid, last, visits, hcells, hrun, hmissing⟩
  · rintro ⟨x, done, front, y, back, mid, last, visits, hcells, hrun, hmissing⟩
    have hall := Visits.snoc visits hcells hrun
    refine ⟨(done ++ [x]).length + 1, ?_⟩
    rw [hall.foreachSafe_eq hnodup hround hinv, List.head?_cons, Option.map_some]
    have hsplit : splitFirst (fun z => decide (addr z = addr y)) (cells last) = none := by
      cases hfound : splitFirst (fun z => decide (addr z = addr y)) (cells last) with
      | none => rfl
      | some parts =>
        obtain ⟨hlast, haddr, -⟩ := splitFirst_eq_some hfound
        have hmem : parts.2.1 ∈ cells last := by
          rw [hlast]
          exact List.mem_append_right _ List.mem_cons_self
        exact absurd (List.mem_map.mpr ⟨_, hmem, of_decide_eq_true haddr⟩) hmissing
    simp only [foreachSafe, hsplit]

end

end LinkedList
