import ThingsboardMqtt.Helper.Events
import ThingsboardMqtt.Library.LinkedList

set_option autoImplicit false

/-! # Callbacks that change the list they are called from

`_tbcmh_attributessubscribe_on_data` once more, with the cells of the list at their addresses. An
`on_update` may take its own entry out of the list while the loop runs, and tells so by returning 1.
What it takes out is its entry or one in front of it, so the link that the loop has saved stays good.
But behind a keyed entry that returns 1 the loop ends, and the entries behind miss the update. -/

namespace ThingsboardMqtt

open ListWalk LinkedList

variable {κ φ σ : Type}

/-! ## The list with its addresses -/

/-- `attributessubscribe_t` at an address, with its `context`. -/
structure SubscribeEntry (κ : Type) where
  addr : Nat
  subscribe : Attributessubscribe
  context : κ

/-- A client with the cells of its `attributessubscribe_list`. -/
structure SubscribedClient (κ : Type) where
  client : Client
  entries : List (SubscribeEntry κ)
  lastAddr : Nat
  agree : entries.map (·.subscribe) = client.attributessubscribeList
  allocated : ∀ entry ∈ entries, entry.addr ≤ lastAddr
  nodup : (entries.map (·.addr)).Nodup

theorem removeFirst_sublist {α : Type} (p : α → Bool) (l : List α) :
    (removeFirst p l).Sublist l := by
  unfold removeFirst
  cases hsplit : splitFirst p l with
  | none => exact List.Sublist.refl l
  | some parts =>
    obtain ⟨front, x, back⟩ := parts
    obtain ⟨rfl, -, -⟩ := splitFirst_eq_some hsplit
    exact (List.sublist_cons_self x back).append_left front

theorem removeFirst_cons {α : Type} (p : α → Bool) (x : α) (rest : List α) :
    removeFirst p (x :: rest) = if p x then rest else x :: removeFirst p rest := by
  simp only [removeFirst, splitFirst]
  cases p x with
  | true => rfl
  | false =>
    cases hsplit : splitFirst p rest with
    | none => simp
    | some parts => simp

theorem removeFirst_map {α β : Type} (f : α → β) (p : β → Bool) (l : List α) :
    removeFirst p (l.map f) = (removeFirst (fun x => p (f x)) l).map f := by
  induction l with
  | nil => rfl
  | cons x rest ih =>
    rw [List.map_cons, removeFirst_cons, removeFirst_cons, ih]
    split <;> rfl

theorem removeFirst_append_cons {α : Type} {p : α → Bool} {x : α} (hx : p x = true)
    (front back : List α) : ∃ front', removeFirst p (front ++ x :: back) = front' ++ back := by
  induction front with
  | nil => exact ⟨[], by rw [List.nil_append, removeFirst_cons, if_pos hx, List.nil_append]⟩
  | cons y front ih =>
    rw [List.cons_append, removeFirst_cons]
    split
    · exact ⟨front ++ [x], by rw [List.append_assoc, List.singleton_append]⟩
    · obtain ⟨front', hremove⟩ := ih
      exact ⟨y :: front', by rw [hremove, List.cons_append]⟩

namespace SubscribedClient

/-- The client that `tbcmh_init` makes. -/
def init (now lastHandle : Nat) : SubscribedClient κ where
  client := tbcmhInit now lastHandle
  entries := []
  lastAddr := 0
  agree := rfl
  allocated := by simp
  nodup := List.nodup_nil

/-- `tbcmh_attributes_subscribe` and `tbcmh_attributes_subscribe_of_array` -/
def tbcmhAttributesSubscribe (reader : Reader) (context : κ) (keys : List String)
    (subscribed : SubscribedClient κ) : Nat × SubscribedClient κ :=
  let result := ThingsboardMqtt.tbcmhAttributesSubscribe reader keys subscribed.client
  (result.1,
    { client := result.2
      entries := subscribed.entries ++
        [{ addr := subscribed.lastAddr + 1
           subscribe :=
            { subscribeId := result.1
              keyList := keys
              reader := reader }
           context := context }]
      lastAddr := subscribed.lastAddr + 1
      agree := by
        rw [List.map_append, subscribed.agree]
        simp only [result, ThingsboardMqtt.tbcmhAttributesSubscribe, subscribeFilled_eq,
          Client.send_attributessubscribeList, List.map_singleton]
      allocated := by
        intro entry hmem
        rcases List.mem_append.mp hmem with hmem | hmem
        · exact Nat.le_succ_of_le (subscribed.allocated entry hmem)
        · obtain rfl := List.mem_singleton.mp hmem
          exact Nat.le_refl _
      nodup := by
        rw [List.map_append, List.map_singleton, List.nodup_append]
        refine ⟨subscribed.nodup, List.nodup_singleton _, ?_⟩
        intro addr hmem addr' hmem'
        obtain ⟨entry, hentry, rfl⟩ := List.mem_map.mp hmem
        rw [List.mem_singleton.mp hmem']
        exact Nat.ne_of_lt (Nat.lt_succ_of_le (subscribed.allocated entry hentry)) })

/-- `tbcmh_attributes_unsubscribe` -/
def tbcmhAttributesUnsubscribe (subscribeId : Nat) (subscribed : SubscribedClient κ) :
    SubscribedClient κ where
  client := ThingsboardMqtt.tbcmhAttributesUnsubscribe subscribeId subscribed.client
  entries := removeFirst (fun entry => decide (entry.subscribe.subscribeId = subscribeId))
    subscribed.entries
  lastAddr := subscribed.lastAddr
  agree := by
    simp only [ThingsboardMqtt.tbcmhAttributesUnsubscribe, unsubscribeDrained_eq,
      Client.send_attributessubscribeList]
    have hmap := removeFirst_map (fun entry : SubscribeEntry κ => entry.subscribe)
      (fun subscribe => decide (subscribe.subscribeId = subscribeId)) subscribed.entries
    rw [← hmap, subscribed.agree]
    rfl
  allocated := fun entry hmem =>
    subscribed.allocated entry ((removeFirst_sublist _ _).subset hmem)
  nodup := subscribed.nodup.sublist ((removeFirst_sublist _ _).map _)

end SubscribedClient

/-! ## The loop -/

/-- The `on_update` of an entry is due for an object. -/
def SubscribeEntry.wants (object : Cjson) (entry : SubscribeEntry κ) : Bool :=
  entry.subscribe.keyList.isEmpty || entry.subscribe.keyList.any object.hasObjectItem

/-- One round of `_tbcmh_attributessubscribe_on_data`, with the `result` it has so far. -/
def updateRound (onUpdate : SubscribeEntry κ → σ → Except (WalkFault φ) (Int × σ))
    (object : Cjson) (entry : SubscribeEntry κ) (s : Int × σ) :
    Except (WalkFault φ) (Flow × (Int × σ)) :=
  if entry.subscribe.keyList.isEmpty then do
    let (_, state) ← onUpdate entry s.2
    .ok (.next, (s.1, state))
  else if entry.subscribe.keyList.any object.hasObjectItem then do
    let (result, state) ← onUpdate entry s.2
    if result = 2 then .ok (.leave, (2, state))
    else if result = 1 then .ok (.leave, (1, state))
    else .ok (.next, (result, state))
  else .ok (.next, s)

/-- `_tbcmh_attributessubscribe_on_data`, where `entries` is the list in a state of the device. -/
def tbcmhAttributessubscribeOnDataCells (entries : σ → List (SubscribeEntry κ))
    (onUpdate : SubscribeEntry κ → σ → Except (WalkFault φ) (Int × σ)) (object : Option Cjson)
    (state : σ) : Except (WalkFault φ) (Int × σ) :=
  match object with
  | none => .ok (0, state)
  | some object => do
    let (_, result) ← foreachCell (fun s => entries s.2) (·.addr) (updateRound onUpdate object)
      (0, state)
    .ok result

section

variable {entries : σ → List (SubscribeEntry κ)}
  {onUpdate : SubscribeEntry κ → σ → Except (WalkFault φ) (Int × σ)}

/-- Where the callbacks leave alone what is behind their entries, the rounds do. -/
theorem updateRound_keepsBack
    (hkeeps : ∀ entry s front back result s', entries s = front ++ entry :: back →
      onUpdate entry s = .ok (result, s') → ∃ front', entries s' = front' ++ back)
    (object : Cjson) :
    KeepsBack (fun s : Int × σ => entries s.2) (updateRound onUpdate object) := by
  intro entry s front back flow s' hentries hround
  dsimp only at hentries ⊢
  simp only [updateRound] at hround
  split at hround
  · cases hupdate : onUpdate entry s.2 with
    | error fault => simp [hupdate, bind, Except.bind] at hround
    | ok answer =>
      obtain ⟨result, state⟩ := answer
      obtain ⟨-, rfl⟩ : Flow.next = flow ∧ (s.1, state) = s' := by
        simpa [hupdate, bind, Except.bind] using hround
      exact hkeeps entry s.2 front back result state hentries hupdate
  · split at hround
    · cases hupdate : onUpdate entry s.2 with
      | error fault => simp [hupdate, bind, Except.bind] at hround
      | ok answer =>
        obtain ⟨result, state⟩ := answer
        have hstate : s'.2 = state := by
          simp only [hupdate, bind, Except.bind] at hround
          split at hround
          · rw [← (Prod.mk.inj (Except.ok.inj hround)).2]
          · split at hround
            · rw [← (Prod.mk.inj (Except.ok.inj hround)).2]
            · rw [← (Prod.mk.inj (Except.ok.inj hround)).2]
        rw [hstate]
        exact hkeeps entry s.2 front back result state hentries hupdate
    · obtain ⟨-, rfl⟩ := Prod.mk.inj (Except.ok.inj hround)
      exact ⟨front ++ [entry], by rw [hentries, List.append_assoc, List.singleton_append]⟩

/-- The loop visits the entries that were there when the message arrived. -/
theorem onDataCells_eq_walk (hnodup : ∀ s, ((entries s).map (·.addr)).Nodup)
    (hkeeps : ∀ entry s front back result s', entries s = front ++ entry :: back →
      onUpdate entry s = .ok (result, s') → ∃ front', entries s' = front' ++ back)
    (object : Cjson) (state : σ) :
    tbcmhAttributessubscribeOnDataCells entries onUpdate (some object) state
      = (walk (updateRound onUpdate object) (entries state) (0, state)).map (·.2) := by
  have hnodup' : ∀ s : Int × σ, ((entries s.2).map (·.addr)).Nodup := fun s => hnodup s.2
  have hwalk := foreachCell_eq_walk hnodup' (updateRound_keepsBack hkeeps object) (0, state)
  simp only [tbcmhAttributessubscribeOnDataCells, hwalk]
  cases walk (updateRound onUpdate object) (entries state) (0, state) <;> rfl

end

/-- The callbacks as they are when none of them changes the list. -/
def steadyUpdate (object : Cjson) (answers : UpdateAnswers) (entry : SubscribeEntry κ)
    (client : Client) : Except (WalkFault Fault) (Int × Client) :=
  (onUpdate entry.subscribe object answers client).mapError .body

theorem walk_steadyUpdate (object : Cjson) (answers : UpdateAnswers)
    (l : List (SubscribeEntry κ)) (result : Int) (client : Client) :
    (walk (updateRound (steadyUpdate object answers) object) l (result, client)).map (·.2)
      = (updateEntries object answers (l.map (·.subscribe)) result client).mapError .body := by
  induction l generalizing result client with
  | nil => rfl
  | cons entry rest ih =>
    simp only [walk, updateRound, steadyUpdate, List.map_cons, updateEntries]
    split
    · cases hupdate : onUpdate entry.subscribe object answers client with
      | error fault => rfl
      | ok answer => exact ih result answer.2
    · split
      · cases hupdate : onUpdate entry.subscribe object answers client with
        | error fault => rfl
        | ok answer =>
          obtain ⟨result', client'⟩ := answer
          simp only [Except.mapError, bind, Except.bind]
          by_cases htwo : result' = 2
          · rw [if_pos htwo, if_pos htwo]
            rfl
          rw [if_neg htwo, if_neg htwo]
          by_cases hone : result' = 1
          · rw [if_pos hone, if_pos hone]
            rfl
          rw [if_neg hone, if_neg hone]
          exact ih result' client'
      · exact ih result client

/-- Where no callback changes the list, the loop is the one over the list as it was. -/
theorem onDataCells_steadyUpdate (subscribed : SubscribedClient κ) (object : Cjson)
    (answers : UpdateAnswers) :
    tbcmhAttributessubscribeOnDataCells (fun _ => subscribed.entries)
        (steadyUpdate object answers) (some object) subscribed.client
      = (tbcmhAttributessubscribeOnData (some object) answers subscribed.client).mapError
          .body := by
  rw [onDataCells_eq_walk (fun _ => subscribed.nodup), walk_steadyUpdate, subscribed.agree]
  · rfl
  · intro entry s front back result s' hentries hupdate
    exact ⟨front ++ [entry], by rw [hentries, List.append_assoc, List.singleton_append]⟩

/-! ## Callbacks that unsubscribe themselves -/

/-- A client and the entries whose `on_update` was called, by their addresses. -/
structure Notified (κ : Type) where
  subscribed : SubscribedClient κ
  called : List Nat

/-- An `on_update` that returns 0, or unsubscribes its own id and returns 1. -/
def selfUpdate (unsubscribes : Nat → Bool) (entry : SubscribeEntry κ) (state : Notified κ) :
    Except (WalkFault Fault) (Int × Notified κ) :=
  let state := { state with called := state.called ++ [entry.addr] }
  if unsubscribes entry.addr then
    .ok (1, { state with
      subscribed := state.subscribed.tbcmhAttributesUnsubscribe entry.subscribe.subscribeId })
  else .ok (0, state)

/-- The loop ends behind the entry: its keys are asked for, and its `on_update` is due and
    unsubscribes itself. -/
def SubscribeEntry.leaves (unsubscribes : Nat → Bool) (object : Cjson)
    (entry : SubscribeEntry κ) : Bool :=
  !entry.subscribe.keyList.isEmpty && entry.wants object && unsubscribes entry.addr

/-- The message reaches every entry of the list that wants it, in order and once, and no other. -/
def NoneMissed (unsubscribes : Nat → Bool) (object : Cjson) (subscribed : SubscribedClient κ) :
    Prop :=
  ∃ result state,
    tbcmhAttributessubscribeOnDataCells (fun s : Notified κ => s.subscribed.entries)
      (selfUpdate unsubscribes) (some object) ⟨subscribed, []⟩ = .ok (result, state) ∧
    state.called = (subscribed.entries.filter (·.wants object)).map (·.addr)

/-- The entries of a list that the loop calls. -/
def calledEntries (unsubscribes : Nat → Bool) (object : Cjson) :
    List (SubscribeEntry κ) → List (SubscribeEntry κ)
  | [] => []
  | entry :: rest =>
    if entry.wants object then
      entry :: if entry.leaves unsubscribes object then []
        else calledEntries unsubscribes object rest
    else calledEntries unsubscribes object rest

/-- An entry that unsubscribes its own id takes out nothing behind it. -/
theorem selfUpdate_keepsBack {unsubscribes : Nat → Bool} {entry : SubscribeEntry κ}
    {s s' : Notified κ} {front back : List (SubscribeEntry κ)} {result : Int}
    (hentries : s.subscribed.entries = front ++ entry :: back)
    (hupdate : selfUpdate unsubscribes entry s = .ok (result, s')) :
    ∃ front', s'.subscribed.entries = front' ++ back := by
  simp only [selfUpdate] at hupdate
  split at hupdate
  · obtain ⟨-, rfl⟩ := Prod.mk.inj (Except.ok.inj hupdate)
    simp only [SubscribedClient.tbcmhAttributesUnsubscribe, hentries]
    exact removeFirst_append_cons (by simp) front back
  · obtain ⟨-, rfl⟩ := Prod.mk.inj (Except.ok.inj hupdate)
    exact ⟨front ++ [entry], by simp [hentries]⟩

/-- What the rounds over a list call. -/
theorem walk_selfUpdate (unsubscribes : Nat → Bool) (object : Cjson)
    (l : List (SubscribeEntry κ)) (result : Int) (state : Notified κ) :
    ∃ flow result' state', walk (updateRound (selfUpdate unsubscribes) object) l (result, state)
        = .ok (flow, (result', state')) ∧
      state'.called = state.called ++ (calledEntries unsubscribes object l).map (·.addr) := by
  induction l generalizing result state with
  | nil => exact ⟨.next, result, state, rfl, by simp [calledEntries]⟩
  | cons entry rest ih =>
    cases hempty : entry.subscribe.keyList.isEmpty with
    | true =>
      -- the result of an entry without keys is ignored
      have hwants : entry.wants object = true := by simp [SubscribeEntry.wants, hempty]
      have hleaves : entry.leaves unsubscribes object = false := by
        simp [SubscribeEntry.leaves, hempty]
      obtain ⟨answer, state₁, hupdate, hcalled₁⟩ : ∃ answer state₁,
          selfUpdate unsubscribes entry state = .ok (answer, state₁) ∧
            state₁.called = state.called ++ [entry.addr] := by
        simp only [selfUpdate]
        split <;> exact ⟨_, _, rfl, rfl⟩
      obtain ⟨flow, result', state', hwalk, hcalled⟩ := ih result state₁
      refine ⟨flow, result', state', ?_, ?_⟩
      · simp only [walk, updateRound, hempty, if_true, hupdate, bind, Except.bind]
        exact hwalk
      · rw [hcalled, hcalled₁, calledEntries, if_pos hwants, hleaves]
        simp
    | false =>
      cases hany : entry.subscribe.keyList.any object.hasObjectItem with
      | false =>
        have hwants : entry.wants object = false := by simp [SubscribeEntry.wants, hempty, hany]
        obtain ⟨flow, result', state', hwalk, hcalled⟩ := ih result state
        refine ⟨flow, result', state', ?_, ?_⟩
        · simp only [walk, updateRound, hempty, hany, Bool.false_eq_true, if_false, bind,
            Except.bind]
          exact hwalk
        · rw [hcalled, calledEntries, hwants]
          simp
      | true =>
        have hwants : entry.wants object = true := by simp [SubscribeEntry.wants, hany]
        cases hself : unsubscribes entry.addr with
        | true =>
          have hleaves : entry.leaves unsubscribes object = true := by
            simp [SubscribeEntry.leaves, hempty, hwants, hself]
          refine ⟨.leave, 1,
            { subscribed :=
                state.subscribed.tbcmhAttributesUnsubscribe entry.subscribe.subscribeId
              called := state.called ++ [entry.addr] }, ?_, ?_⟩
          · simp only [walk, updateRound, hempty, hany, Bool.false_eq_true, if_false, if_true,
              selfUpdate, hself, bind, Except.bind]
            rfl
          · simp [calledEntries, hwants, hleaves]
        | false =>
          have hleaves : entry.leaves unsubscribes object = false := by
            simp [SubscribeEntry.leaves, hself]
          obtain ⟨flow, result', state', hwalk, hcalled⟩ :=
            ih 0 { state with called := state.called ++ [entry.addr] }
          refine ⟨flow, result', state', ?_, ?_⟩
          · simp only [walk, updateRound, hempty, hany, Bool.false_eq_true, if_false, if_true,
              selfUpdate, hself, bind, Except.bind]
            exact hwalk
          · rw [hcalled, calledEntries, if_pos hwants, hleaves]
            simp

theorem calledEntries_sublist (unsubscribes : Nat → Bool) (object : Cjson)
    (l : List (SubscribeEntry κ)) :
    (calledEntries unsubscribes object l).Sublist (l.filter (·.wants object)) := by
  induction l with
  | nil => exact List.Sublist.refl _
  | cons entry rest ih =>
    rw [calledEntries, List.filter_cons]
    split
    · refine List.Sublist.cons_cons entry ?_
      split
      · exact List.nil_sublist _
      · exact ih
    · exact ih

/-- All that want the message are called when none stands behind one that ends the loop. -/
theorem calledEntries_eq_filter_iff (unsubscribes : Nat → Bool) (object : Cjson)
    (l : List (SubscribeEntry κ)) :
    calledEntries unsubscribes object l = l.filter (·.wants object) ↔
      l.Pairwise fun entry later =>
        entry.leaves unsubscribes object = true → later.wants object = false := by
  induction l with
  | nil => simp [calledEntries]
  | cons entry rest ih =>
    rw [List.pairwise_cons, calledEntries, List.filter_cons]
    cases hwants : entry.wants object with
    | false =>
      have hleaves : entry.leaves unsubscribes object = false := by
        simp [SubscribeEntry.leaves, hwants]
      simpa [hleaves] using ih
    | true =>
      cases hleaves : entry.leaves unsubscribes object with
      | false => simpa using ih
      | true =>
        simp only [if_true, List.cons.injEq, true_and, forall_const]
        rw [eq_comm, List.filter_eq_nil_iff]
        constructor
        · intro hnone
          have hfalse : ∀ later ∈ rest, later.wants object = false :=
            fun later hmem => by simpa using hnone later hmem
          refine ⟨hfalse, List.pairwise_of_forall_mem_list ?_⟩
          intro first _ later hlater _
          exact hfalse later hlater
        · rintro ⟨hfalse, -⟩ later hmem
          simp [hfalse later hmem]

/-- No entry misses a message exactly when behind every entry that ends the loop none wants it. -/
theorem noneMissed_iff (unsubscribes : Nat → Bool) (object : Cjson)
    (subscribed : SubscribedClient κ) :
    NoneMissed unsubscribes object subscribed ↔
      subscribed.entries.Pairwise fun entry later =>
        entry.leaves unsubscribes object = true → later.wants object = false := by
  obtain ⟨flow, result, state, hwalk, hcalled⟩ :=
    walk_selfUpdate unsubscribes object subscribed.entries 0 ⟨subscribed, []⟩
  have hdata : tbcmhAttributessubscribeOnDataCells (fun s : Notified κ => s.subscribed.entries)
      (selfUpdate unsubscribes) (some object) ⟨subscribed, []⟩ = .ok (result, state) := by
    rw [onDataCells_eq_walk (fun s : Notified κ => s.subscribed.nodup), hwalk]
    · rfl
    · intro entry s front back answer s' hentries hupdate
      exact selfUpdate_keepsBack hentries hupdate
  rw [← calledEntries_eq_filter_iff]
  constructor
  · rintro ⟨result', state', hdata', hcalled'⟩
    obtain ⟨-, rfl⟩ : result = result' ∧ state = state' := by
      simpa using hdata.symm.trans hdata'
    rw [hcalled, List.nil_append] at hcalled'
    have hlength := congrArg List.length hcalled'
    rw [List.length_map, List.length_map] at hlength
    exact (calledEntries_sublist unsubscribes object subscribed.entries).eq_of_length hlength
  · intro hall
    exact ⟨result, state, hdata, by rw [hcalled, hall, List.nil_append]⟩

/-- Two subscriptions of the same key. -/
def rivalSubscriptions : SubscribedClient Unit :=
  (((SubscribedClient.init 0 0).tbcmhAttributesSubscribe .application () ["mode"]).2
    |>.tbcmhAttributesSubscribe .application () ["mode"]).2

/-- The first unsubscribes itself, and the second misses the update. -/
theorem noneMissed_fails_rivalSubscriptions :
    ¬ ∀ unsubscribes object (subscribed : SubscribedClient Unit),
      NoneMissed unsubscribes object subscribed := by
  intro hall
  obtain ⟨result, state, hdata, hcalled⟩ :=
    hall (fun addr => addr = 1) (.object [("mode", .string "on")]) rivalSubscriptions
  have hone : (tbcmhAttributessubscribeOnDataCells
      (fun s : Notified Unit => s.subscribed.entries) (selfUpdate fun addr => addr = 1)
      (some (.object [("mode", .string "on")])) ⟨rivalSubscriptions, []⟩).map (·.2.called)
        = .ok [1] := rfl
  rw [hdata] at hone
  have hsame : state.called = [1] := Except.ok.inj hone
  rw [hcalled] at hsame
  exact absurd hsame (by decide +kernel)

end ThingsboardMqtt
