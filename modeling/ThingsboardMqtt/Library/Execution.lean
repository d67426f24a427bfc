import Mathlib.Logic.Relation

set_option autoImplicit false

/-! # Runs of a system that takes inputs

A system is a step relation `step s i s'`: in state `s` the input `i` leads to `s'`. `Run` is the
sequence of inputs of a finite run, oldest first. Restricting the inputs a run may take is
restricting the relation (`within`), so one invariant rule serves unrestricted and restricted runs.

For a step *function* that may fail, `Succeeds f` is the relation of its successful steps, and a
concrete run can be computed (`run_of_allowed`). -/

namespace Execution

variable {σ ι ε : Type}

/-- The inputs `inputs`, taken one after the other from `s`, lead to the last index. -/
inductive Run (step : σ → ι → σ → Prop) (s : σ) : List ι → σ → Prop
  | nil : Run step s [] s
  | snoc {inputs : List ι} {i : ι} {mid last : σ} (run : Run step s inputs mid)
      (taken : step mid i last) : Run step s (inputs ++ [i]) last

/-- The steps of `step` whose input meets `guard` in the state it is taken in. -/
def within (guard : σ → ι → Prop) (step : σ → ι → σ → Prop) : σ → ι → σ → Prop :=
  fun s i s' => guard s i ∧ step s i s'

/-- The successful steps of a step function. -/
def Succeeds (f : σ → ι → Except ε σ) : σ → ι → σ → Prop :=
  fun s i s' => f s i = .ok s'

/-- A computation in two parts that succeeds succeeds in both. -/
theorem exists_of_bind_eq_ok {α β : Type} {x : Except ε α} {f : α → Except ε β} {b : β}
    (h : x >>= f = .ok b) : ∃ a, x = .ok a ∧ f a = .ok b := by
  cases x with
  | error e => simp [bind, Except.bind] at h
  | ok a => exact ⟨a, rfl, h⟩

variable {step : σ → ι → σ → Prop} {s last : σ} {inputs : List ι}

/-- What every step preserves holds at the end of every run. -/
theorem Run.invariant {inv : σ → Prop} (h0 : inv s)
    (hstep : ∀ mid i next, inv mid → step mid i next → inv next)
    (run : Run step s inputs last) : inv last := by
  induction run with
  | nil => exact h0
  | snoc _ taken ih => exact hstep _ _ _ ih taken

theorem Run.mono {step' : σ → ι → σ → Prop} (hle : ∀ mid i next, step mid i next → step' mid i next)
    (run : Run step s inputs last) : Run step' s inputs last := by
  induction run with
  | nil => exact .nil
  | snoc _ taken ih => exact .snoc ih (hle _ _ _ taken)

/-- A run may be extended at its end. -/
theorem Run.append {more : List ι} {final : σ} (run : Run step s inputs last)
    (tail : Run step last more final) : Run step s (inputs ++ more) final := by
  induction tail with
  | nil => rw [List.append_nil]; exact run
  | snoc _ taken ih => rw [← List.append_assoc]; exact .snoc ih taken

theorem Run.eq_of_nil (run : Run step s [] last) : last = s := by
  generalize hinputs : ([] : List ι) = all at run
  cases run with
  | nil => rfl
  | snoc => exact absurd hinputs (by simp)

theorem Run.cons_iff {i : ι} :
    Run step s (i :: inputs) last ↔ ∃ mid, step s i mid ∧ Run step mid inputs last := by
  constructor
  · generalize hall : i :: inputs = all
    intro run
    induction run generalizing inputs with
    | nil => exact absurd hall (by simp)
    | snoc run taken ih =>
      rename_i front j mid last
      cases front with
      | nil =>
        obtain ⟨rfl, rfl⟩ := List.cons.inj hall
        rw [run.eq_of_nil] at taken
        exact ⟨_, taken, .nil⟩
      | cons k rest =>
        obtain ⟨rfl, rfl⟩ := List.cons.inj hall
        obtain ⟨first, hfirst, hrest⟩ := ih rfl
        exact ⟨first, hfirst, .snoc hrest taken⟩
  · rintro ⟨mid, taken, run⟩
    exact Run.append (.snoc .nil taken) run
/-! ## Computed runs -/

variable {f : σ → ι → Except ε σ} {guard : σ → ι → Prop} [∀ s i, Decidable (guard s i)]

/-- The state behind a step, the same state when the step fails. -/
def advance (f : σ → ι → Except ε σ) (s : σ) (i : ι) : σ :=
  match f s i with
  | .ok s' => s'
  | .error _ => s

/-- Every input of the computed run meets the guard, and its step succeeds. -/
def Takes (guard : σ → ι → Prop) (f : σ → ι → Except ε σ) : σ → List ι → Prop
  | _, [] => True
  | s, i :: rest => guard s i ∧ (f s i).isOk = true ∧ Takes guard f (advance f s i) rest

/-- The same, evaluated. -/
def allowed (guard : σ → ι → Prop) [∀ s i, Decidable (guard s i)] (f : σ → ι → Except ε σ) :
    σ → List ι → Bool
  | _, [] => true
  | s, i :: rest => decide (guard s i) && (f s i).isOk && allowed guard f (advance f s i) rest

theorem succeeds_advance {i : ι} (h : (f s i).isOk = true) : Succeeds f s i (advance f s i) := by
  unfold Succeeds advance
  cases hstep : f s i with
  | error e => simp [hstep, Except.isOk, Except.toBool] at h
  | ok s' => rfl

omit [∀ s i, Decidable (guard s i)] in
/-- A computed run is a run. -/
theorem run_of_takes : ∀ {inputs : List ι} {s : σ}, Takes guard f s inputs →
    Run (within guard (Succeeds f)) s inputs (inputs.foldl (advance f) s)
  | [], _, _ => .nil
  | i :: rest, s, ⟨hguard, hok, hrest⟩ => by
    have hfirst : Run (within guard (Succeeds f)) s ([] ++ [i]) (advance f s i) :=
      .snoc .nil ⟨hguard, succeeds_advance hok⟩
    exact hfirst.append (run_of_takes hrest)

theorem takes_of_allowed : ∀ {inputs : List ι} {s : σ}, allowed guard f s inputs = true →
    Takes guard f s inputs
  | [], _, _ => trivial
  | i :: rest, s, h => by
    simp only [allowed, Bool.and_eq_true, decide_eq_true_eq] at h
    exact ⟨h.1.1, h.1.2, takes_of_allowed h.2⟩

/-- A computed run that was evaluated is a run. -/
theorem run_of_allowed {inputs : List ι} {s : σ} (h : allowed guard f s inputs = true) :
    Run (within guard (Succeeds f)) s inputs (inputs.foldl (advance f) s) :=
  run_of_takes (takes_of_allowed h)

theorem run_of_succeeds {inputs : List ι} {s : σ}
    (h : allowed (fun _ _ => True) f s inputs = true) :
    Run (Succeeds f) s inputs (inputs.foldl (advance f) s) :=
  (run_of_allowed h).mono fun _ _ _ hstep => hstep.2

end Execution
