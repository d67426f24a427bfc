import Mathlib.Data.List.Basic

set_option autoImplicit false

/-! # Logs cut into sessions

A log in which some entries start a new session: `current` is what was logged since the last start.
Within a session some entries turn a switch on and some turn it off again; `isOn` is where the
switch ends, and an entry is `Covered` if the switch was on at it and is still on. -/

namespace Session

variable {α : Type} (isStart on off : α → Bool)

/-- The entries behind the last start. -/
def current (log : List α) : List α :=
  log.foldl (fun session x => if isStart x then [] else session ++ [x]) []

/-- The switch at the end of a session, which begins with it off. -/
def isOn (session : List α) : Bool :=
  session.foldl (fun state x => if on x then true else if off x then false else state) false

variable {isStart on off} {log session more : List α} {x : α}

theorem current_append_start (h : isStart x = true) : current isStart (log ++ [x]) = [] := by
  simp [current, List.foldl_append, h]

theorem current_append (h : ∀ y ∈ more, isStart y = false) :
    current isStart (log ++ more) = current isStart log ++ more := by
  induction more generalizing log with
  | nil => simp
  | cons y rest ih =>
    have hy : current isStart (log ++ [y]) = current isStart log ++ [y] := by
      simp [current, List.foldl_append, h y List.mem_cons_self]
    have hrest := @ih (log ++ [y]) fun z hz => h z (List.mem_cons_of_mem _ hz)
    rw [List.append_assoc, List.singleton_append] at hrest
    rw [hrest, hy, List.append_assoc, List.singleton_append]

theorem isOn_append_on (h : on x = true) : isOn on off (session ++ [x]) = true := by
  simp [isOn, List.foldl_append, h]

theorem isOn_append_off (hon : on x = false) (hoff : off x = true) :
    isOn on off (session ++ [x]) = false := by
  simp [isOn, List.foldl_append, hon, hoff]

theorem isOn_append_of_other (h : ∀ y ∈ more, on y = false ∧ off y = false) :
    isOn on off (session ++ more) = isOn on off session := by
  induction more generalizing session with
  | nil => simp
  | cons y rest ih =>
    obtain ⟨hon, hoff⟩ := h y List.mem_cons_self
    have hrest := @ih (session ++ [y]) fun z hz => h z (List.mem_cons_of_mem _ hz)
    rw [List.append_assoc, List.singleton_append] at hrest
    rw [hrest]
    simp [isOn, List.foldl_append, hon, hoff]

/-! ## Entries under a switch -/

/-- The entry `x` of a session stands behind an `on`, and behind that `on` there is no `off`. -/
def Covered (on off x : α) (session : List α) : Prop :=
  ∃ before between after, session = before ++ on :: (between ++ x :: after) ∧
    off ∉ between ∧ off ∉ after

variable {on off : α}

theorem Covered.append (h : Covered on off x session) (hmore : off ∉ more) :
    Covered on off x (session ++ more) := by
  obtain ⟨before, between, after, rfl, hbetween, hafter⟩ := h
  refine ⟨before, between, after ++ more, by simp, hbetween, ?_⟩
  intro hmem
  exact (List.mem_append.mp hmem).elim hafter hmore

/-- An entry that is added is covered right behind an `on`. -/
theorem covered_append_on : Covered on off x (session ++ [on] ++ [x]) :=
  ⟨session, [], [], by simp, List.not_mem_nil, List.not_mem_nil⟩

theorem Covered.append_last {y : α} (h : Covered on off x session) (hx : off ≠ x) :
    Covered on off y (session ++ [y]) := by
  obtain ⟨before, between, after, rfl, hbetween, hafter⟩ := h
  refine ⟨before, between ++ x :: after, [], by simp, ?_, List.not_mem_nil⟩
  intro hmem
  rcases List.mem_append.mp hmem with hmem | hmem
  · exact hbetween hmem
  · exact (List.mem_cons.mp hmem).elim hx hafter

end Session
