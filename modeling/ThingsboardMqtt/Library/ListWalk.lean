import Mathlib.Data.List.Basic

set_option autoImplicit false

/-! # Walking a linked list

The loops C code runs over a `sys/queue.h` list: `splitFirst` is the search loop that breaks at the
first element that fits, and `foreachSafe` is the loop that visits every element, updates it in place
and threads a state through the visits. `AllReached` speaks of the elements that a loop comes to when
some elements end it. -/

namespace ListWalk

variable {α σ : Type}

/-- The first element that satisfies `p`, with what stands before and behind it. -/
def splitFirst (p : α → Bool) : List α → Option (List α × α × List α)
  | [] => none
  | x :: rest =>
    if p x then some ([], x, rest)
    else (splitFirst p rest).map fun (front, y, back) => (x :: front, y, back)

theorem splitFirst_eq_none {p : α → Bool} {l : List α} (h : splitFirst p l = none) :
    ∀ x ∈ l, p x = false := by
  induction l with
  | nil => simp
  | cons x rest ih =>
    simp only [splitFirst] at h
    split at h
    · exact absurd h (by simp)
    · rename_i hx
      rw [Option.map_eq_none_iff] at h
      intro y hy
      rcases List.mem_cons.mp hy with rfl | hy
      · simpa using hx
      · exact ih h y hy

theorem splitFirst_of_forall {p : α → Bool} {l : List α} (h : ∀ x ∈ l, p x = false) :
    splitFirst p l = none := by
  induction l with
  | nil => rfl
  | cons x rest ih =>
    rw [List.forall_mem_cons] at h
    rw [splitFirst, h.1, if_neg Bool.false_ne_true, ih h.2]
    rfl

theorem splitFirst_eq_some {p : α → Bool} {l front back : List α} {x : α}
    (h : splitFirst p l = some (front, x, back)) :
    l = front ++ x :: back ∧ p x = true ∧ ∀ y ∈ front, p y = false := by
  induction l generalizing front with
  | nil => simp [splitFirst] at h
  | cons y rest ih =>
    simp only [splitFirst] at h
    split at h
    · rename_i hy
      obtain ⟨rfl, rfl, rfl⟩ : [] = front ∧ y = x ∧ rest = back := by simpa using h
      exact ⟨rfl, hy, by simp⟩
    · rename_i hy
      obtain ⟨⟨front', x', back'⟩, hrest, heq⟩ := Option.map_eq_some_iff.mp h
      obtain ⟨rfl, rfl, rfl⟩ : y :: front' = front ∧ x' = x ∧ back' = back := by simpa using heq
      obtain ⟨hl, hx, hfront⟩ := ih hrest
      refine ⟨by rw [hl, List.cons_append], hx, ?_⟩
      intro z hz
      rcases List.mem_cons.mp hz with rfl | hz
      · simpa using hy
      · exact hfront z hz

theorem splitFirst_append_cons {p : α → Bool} {front : List α} {x : α}
    (hfront : ∀ y ∈ front, p y = false) (hx : p x = true) (back : List α) :
    splitFirst p (front ++ x :: back) = some (front, x, back) := by
  induction front with
  | nil => rw [List.nil_append, splitFirst, if_pos hx]
  | cons y rest ih =>
    have hy : ¬ p y = true := by simp [hfront y List.mem_cons_self]
    rw [List.cons_append, splitFirst, if_neg hy,
      ih fun z hz => hfront z (List.mem_cons_of_mem _ hz)]
    rfl

theorem splitFirst_map_eq_find? (p : α → Bool) (l : List α) :
    (splitFirst p l).map (fun parts => parts.2.1) = l.find? p := by
  induction l with
  | nil => rfl
  | cons x rest ih =>
    rw [splitFirst, List.find?_cons]
    cases hx : p x with
    | true => rfl
    | false =>
      rw [← ih, if_neg (by simp), Option.map_map]
      rfl

/-- What is found is the same, as far as `f` reads it, when an element is replaced by one that `p` and
    `f` do not tell apart. -/
theorem splitFirst_replace {β : Type} {p : α → Bool} (f : α → β) {x x' : α} (hp : p x' = p x)
    (hf : f x' = f x) (front back : List α) :
    (splitFirst p (front ++ x' :: back)).map (fun parts => f parts.2.1)
      = (splitFirst p (front ++ x :: back)).map (fun parts => f parts.2.1) := by
  induction front with
  | nil =>
    simp only [List.nil_append, splitFirst, hp]
    split
    · simp [hf]
    · simp [Option.map_map, Function.comp_def]
  | cons y rest ih =>
    simp only [List.cons_append, splitFirst]
    split
    · rfl
    · simpa [Option.map_map, Function.comp_def] using ih

theorem eq_of_singleton_eq_append_cons {x y : α} {front back : List α}
    (h : [x] = front ++ y :: back) : front = [] ∧ x = y ∧ back = [] := by
  cases front with
  | nil => simpa [eq_comm] using h
  | cons z rest => simp at h

/-- Every element that a loop comes to meets `p` with what stands behind it, where the loop ends behind
    the first element that `stops` it. -/
def AllReached (stops : α → Prop) (p : α → List α → Prop) (l : List α) : Prop :=
  ∀ front x back, l = front ++ x :: back → (∀ y ∈ front, ¬ stops y) → p x back

section Reached

variable {stops : α → Prop}

theorem allReached_nil {p : α → List α → Prop} : AllReached stops p [] := by
  intro front x back h
  exact absurd h (by simp)

theorem allReached_cons {p : α → List α → Prop} {x : α} {rest : List α} :
    AllReached stops p (x :: rest) ↔ p x rest ∧ (¬ stops x → AllReached stops p rest) := by
  constructor
  · intro h
    refine ⟨h [] x rest rfl (by simp), ?_⟩
    intro hx front y back hrest hfront
    refine h (x :: front) y back (by rw [hrest, List.cons_append]) ?_
    exact List.forall_mem_cons.mpr ⟨hx, hfront⟩
  · rintro ⟨hx, hrest⟩ front y back hl hfront
    cases front with
    | nil =>
      obtain ⟨rfl, rfl⟩ := List.cons.inj hl
      exact hx
    | cons z front =>
      obtain ⟨rfl, rfl⟩ := List.cons.inj hl
      rw [List.forall_mem_cons] at hfront
      exact hrest hfront.1 front y back rfl hfront.2

theorem allReached_of_forall {p : α → Prop} {l : List α} (h : ∀ x ∈ l, p x) :
    AllReached stops (fun x _ => p x) l := by
  rintro front x back rfl -
  exact h x (by simp)

/-- What is appended to a list does not matter when all of it meets `p`. -/
theorem allReached_append {p : α → Prop} {l l' : List α} (h : ∀ x ∈ l', p x) :
    AllReached stops (fun x _ => p x) (l ++ l') ↔ AllReached stops (fun x _ => p x) l := by
  induction l with
  | nil => exact iff_of_true (allReached_of_forall h) allReached_nil
  | cons x rest ih => rw [List.cons_append, allReached_cons, allReached_cons, ih]

end Reached

/-- Visit every element in order, replacing it and threading a state. -/
def foreachSafe (f : α → σ → α × σ) : List α → σ → List α × σ
  | [], s => ([], s)
  | x :: rest, s =>
    let (x', s') := f x s
    let (rest', s'') := foreachSafe f rest s'
    (x' :: rest', s'')

/-- The rule of the loop: an invariant of the elements visited, those to come and the state, kept by
    every visit, holds at the end. -/
theorem foreachSafe_rule {f : α → σ → α × σ} {inv : List α → List α → σ → Prop}
    (hvisit : ∀ done x rest s, inv done (x :: rest) s → inv (done ++ [(f x s).1]) rest (f x s).2) :
    ∀ (todo done : List α) (s : σ), inv done todo s →
      inv (done ++ (foreachSafe f todo s).1) [] (foreachSafe f todo s).2 := by
  intro todo
  induction todo with
  | nil =>
    intro done s h
    simpa [foreachSafe] using h
  | cons x rest ih =>
    intro done s h
    have hnext := ih _ _ (hvisit done x rest s h)
    rw [List.append_assoc, List.singleton_append] at hnext
    exact hnext

end ListWalk
