import Mathlib.Data.List.Basic

set_option autoImplicit false

/-! # Properties of growing traces

A trace is the list of what a system did, oldest first; a system extends it at the end.

`Always P trace` says that `P past a` holds of every action `a` of the trace and the `past` before
it: the form of "whenever the system does `a`, so and so happened before". `Monitor` is a partial
automaton that reads a trace; the traces it accepts are those that follow a protocol. -/

namespace Trace

variable {α φ : Type}

/-- Every action of the trace is right for what happened before it. -/
def Always (P : List α → α → Prop) (trace : List α) : Prop :=
  ∀ past a future, trace = past ++ a :: future → P past a

theorem always_nil (P : List α → α → Prop) : Always P [] := by
  intro past a future h
  simp at h

/-- A trace that grew by one action. -/
theorem always_snoc {P : List α → α → Prop} {trace : List α} {a : α} (h : Always P trace)
    (ha : P trace a) : Always P (trace ++ [a]) := by
  intro past b future heq
  rcases List.eq_nil_or_concat future with rfl | ⟨front, last, rfl⟩
  · obtain ⟨hpast, hb⟩ := List.append_inj' heq rfl
    rw [← hpast, ← (List.cons.inj hb).1]
    exact ha
  · rw [List.concat_eq_append, ← List.cons_append, ← List.append_assoc] at heq
    exact h past b front (List.append_inj' heq rfl).1

/-- A trace that grew by actions that are right whatever happened before. -/
theorem Always.append {P : List α → α → Prop} {trace actions : List α} (h : Always P trace)
    (hactions : ∀ a ∈ actions, ∀ past, P past a) : Always P (trace ++ actions) := by
  induction actions generalizing trace with
  | nil => rw [List.append_nil]; exact h
  | cons a rest ih =>
    rw [← List.singleton_append, ← List.append_assoc]
    exact ih (always_snoc h (hactions a List.mem_cons_self trace))
      fun b hb => hactions b (List.mem_cons_of_mem _ hb)

theorem Always.get {P : List α → α → Prop} {done : List α} (h : Always P done) {k : Nat} {a : α}
    (ha : done[k]? = some a) : P (done.take k) a := by
  obtain ⟨hk, rfl⟩ := List.getElem?_eq_some_iff.mp ha
  exact h _ _ (done.drop (k + 1)) (by rw [← List.drop_eq_getElem_cons hk, List.take_append_drop])

/-- A partial automaton: `none` is an action the protocol does not allow there. -/
structure Monitor (φ α : Type) where
  next : φ → α → Option φ

/-- The phase after the whole trace, if the protocol allows all of it. -/
def Monitor.read (monitor : Monitor φ α) (start : φ) (trace : List α) : Option φ :=
  trace.foldlM monitor.next start

theorem Monitor.read_append (monitor : Monitor φ α) (start : φ) (trace more : List α) :
    monitor.read start (trace ++ more) = (monitor.read start trace).bind (monitor.read · more) := by
  simp only [Monitor.read, List.foldlM_append]
  rfl

/-- Reading on from a known phase. -/
theorem Monitor.read_append_of_eq {monitor : Monitor φ α} {start mid : φ} {trace more : List α}
    (h : monitor.read start trace = some mid) :
    monitor.read start (trace ++ more) = monitor.read mid more := by
  rw [monitor.read_append, h, Option.bind_some]

end Trace
