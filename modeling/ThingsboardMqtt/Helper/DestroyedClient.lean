import ThingsboardMqtt.Helper.SparedEvents

set_option autoImplicit false

/-! # A client that a callback destroys

One call of `tbcmh_run`, round by round. It comes to its end when every event it handles spares the
client; behind a callback that destroyed it only the last of the ten rounds does not read the queue. -/

namespace ThingsboardMqtt

open Execution ListWalk Relation

section Call

variable {destroyers : Destroyers}

theorem Pending.runActs {client : Client} (h : Pending destroyers client) (acts : List Act) :
    Pending destroyers (runActs acts client) := by
  have hmoves := moves_of_acts (runActs_acts (some ⟨.checkTimeout, .provision⟩) acts client) []
  exact invariant_of_moves (P := fun config => Pending destroyers config.client) h
    (fun _ _ => pending_move) hmoves

/-- A round behind which the client is there. -/
def Handles (destroyers : Destroyers) (client : Client) (round : Round) (client' : Client) : Prop :=
  ∃ event queue, client.queue = event :: queue ∧
    handleRound destroyers round event { client with queue := queue } = .ok (some client')

theorem Pending.handles {round : Round} {client client' : Client} (h : Pending destroyers client)
    (hhandles : Handles destroyers client round client') : Pending destroyers client' := by
  obtain ⟨event, queue, hqueue, hround⟩ := hhandles
  have hpending : Pending destroyers { client with queue := queue } := ⟨h.past, h.destroys⟩
  obtain ⟨slot, hevent, hbehind⟩ := exists_of_bind_eq_ok hround
  obtain ⟨next, rfl, rfl⟩ := Option.map_eq_some_iff.mp (Except.ok.inj hbehind)
  have hplain := Watched.onTbcmEventHandle_eq_ok hpending hevent
  exact (h.moves (moves_onTbcmEventHandle hqueue (fun _ => trivial) hplain)).runActs round.behind

/-- One round comes to its end exactly when the event spares the client. -/
theorem handleRound_ends_iff {last : Prop} {round : Round} (event : TbcmEvent) {client : Client}
    (hpending : Pending destroyers client) :
    Watched.Ends last id (handleRound destroyers round event client) ↔
      Spares destroyers round last event client := by
  rw [← Watched.onTbcmEventHandle_ends_iff event hpending, handleRound]
  cases Watched.onTbcmEventHandle destroyers event round.callbacks round.answers (some client) with
  | error crash => exact iff_of_false Watched.not_ends_error Watched.not_ends_error
  | ok slot => cases slot <;> simp [Watched.ends_ok, bind, Except.bind]

/-- The condition on `n` rounds: in every client that the rounds before lead to, the first event of
    the queue spares it. -/
def RoundsSpare (destroyers : Destroyers) (rounds : Nat → Round) (n : Nat) (client : Client) :
    Prop :=
  ∀ k < n, ∀ client' event,
    Run (Handles destroyers) client ((List.range k).map rounds) client' →
      client'.queue.head? = some event →
        Spares destroyers (rounds k) (k + 1 = n) event client'

theorem roundsSpare_succ {rounds : Nat → Round} {n : Nat} {client : Client} :
    RoundsSpare destroyers rounds (n + 1) client ↔
      (∀ event, client.queue.head? = some event →
        Spares destroyers (rounds 0) (0 = n) event client) ∧
      ∀ client', Handles destroyers client (rounds 0) client' →
        RoundsSpare destroyers (fun k => rounds (k + 1)) n client' := by
  have hrange : ∀ k, (List.range (k + 1)).map rounds
      = rounds 0 :: (List.range k).map fun k => rounds (k + 1) := by
    intro k
    rw [List.range_succ_eq_map, List.map_cons, List.map_map]
    rfl
  constructor
  · intro hspares
    refine ⟨fun event hevent => ?_, ?_⟩
    · have hfirst := hspares 0 (Nat.succ_pos n) client event .nil hevent
      rwa [Nat.add_right_cancel_iff] at hfirst
    · intro next hhandles k hk client' event hrun hevent
      have hlater := hspares (k + 1) (Nat.succ_lt_succ hk) client' event
        (hrange k ▸ Run.cons_iff.mpr ⟨next, hhandles, hrun⟩) hevent
      rwa [Nat.add_right_cancel_iff] at hlater
  · rintro ⟨hfirst, hlater⟩ k hk client' event hrun hevent
    cases k with
    | zero =>
      obtain rfl := Run.eq_of_nil hrun
      rw [Nat.add_right_cancel_iff]
      exact hfirst event hevent
    | succ k =>
      rw [hrange] at hrun
      obtain ⟨next, hhandles, hrest⟩ := Run.cons_iff.mp hrun
      rw [Nat.add_right_cancel_iff]
      exact hlater next hhandles k (Nat.lt_of_succ_lt_succ hk) client' event hrest hevent

theorem roundsSpare_of_queue {client : Client} (hqueue : client.queue = []) (rounds : Nat → Round)
    (n : Nat) : RoundsSpare destroyers rounds n client := by
  cases n with
  | zero => exact fun k hk => absurd hk (Nat.not_lt_zero k)
  | succ n =>
    refine roundsSpare_succ.mpr ⟨by simp [hqueue], ?_⟩
    rintro client' ⟨event, queue, hcons, -⟩
    exact absurd (hqueue.symm.trans hcons) (by simp)

variable (destroyers)

/-- A call of `tbcmh_run` comes to its end. -/
def LeavesDeadAlone (rounds : Nat → Round) (client : Client) : Prop :=
  ∃ slot, tbcmhRun destroyers rounds client = .ok slot

/-- The loop from any round on comes to its end exactly when what it handles spares the client. -/
theorem bridgeReceive_iff (rounds : Nat → Round) (n i : Nat) {client : Client}
    (hpending : Pending destroyers client) :
    (∃ slot, bridgeReceive destroyers rounds n i (some client) = .ok slot) ↔
      RoundsSpare destroyers (fun k => rounds (i + k)) n client := by
  induction n generalizing i client with
  | zero => exact iff_of_true ⟨_, rfl⟩ fun k hk => absurd hk (Nat.not_lt_zero k)
  | succ n ih =>
    have hshift : (fun k => rounds (i + (k + 1))) = fun k => rounds (i + 1 + k) := by
      funext k
      rw [Nat.add_right_comm, Nat.add_assoc]
    rw [bridgeReceive, Watched.client_bind]
    cases hqueue : client.queue with
    | nil => exact iff_of_true ⟨_, rfl⟩ (roundsSpare_of_queue hqueue _ _)
    | cons event queue =>
      have hpending' : Pending destroyers { client with queue := queue } :=
        ⟨hpending.past, hpending.destroys⟩
      have hround : Watched.Ends (0 = n) id
          (handleRound destroyers (rounds i) event { client with queue := queue }) ↔
            Spares destroyers (rounds i) (0 = n) event client :=
        handleRound_ends_iff event hpending'
      have hhandles : ∀ client', Handles destroyers client (rounds i) client' ↔
          handleRound destroyers (rounds i) event { client with queue := queue }
            = .ok (some client') := by
        intro client'
        constructor
        · rintro ⟨event', queue', hcons, hok⟩
          obtain ⟨rfl, rfl⟩ := List.cons.inj (hqueue.symm.trans hcons)
          exact hok
        · exact fun hok => ⟨event, queue, hqueue, hok⟩
      rw [roundsSpare_succ, hshift]
      simp only [hqueue, List.head?_cons, Option.some.injEq, forall_eq', Nat.add_zero, hhandles]
      rw [← hround]
      cases hevent : handleRound destroyers (rounds i) event { client with queue := queue } with
      | error crash =>
        refine iff_of_false ?_ fun h => Watched.not_ends_error h.1
        simp [bind, Except.bind]
      | ok slot =>
        cases slot with
        | none =>
          -- the loop condition reads the queue, unless this was the last round
          cases n with
          | zero => exact iff_of_true ⟨none, rfl⟩ ⟨⟨none, rfl, fun _ => rfl⟩, by simp⟩
          | succ n =>
            refine iff_of_false ?_ ?_
            · simp [bridgeReceive, Slot.client, bind, Except.bind]
            · simp [Watched.ends_ok]
        | some client' =>
          have hlive : Pending destroyers client' :=
            hpending.handles ((hhandles client').mpr hevent)
          refine (ih (i + 1) hlive).trans ?_
          simp [Watched.ends_ok]

end Call

/-- A subscription of the application, and a message it is told of. -/
def updatedClient : Client :=
  { tbcmhInit 0 0 with
    attributessubscribeList := [⟨1, ["mode"], .application⟩]
    queue := [.data (.sharedAttributes (some (.object [("mode", .string "on")])))] }

/-- The `on_update` of the subscription destroys the client. -/
def updateDestroys : Destroyers where
  onUpdate subscribeId := subscribeId = 1
  onTimeout _ _ := false

/-- A round in which the callbacks return 0 and call nothing. -/
def silentRound : Round where
  onTimeout _ _ := (0, [])
  answers := sampleEventAnswers
  behind := []

/-- Two requests that timed out, and the check that is due. -/
def timedOutClient : Client :=
  let request (uid : Nat) : Request := ⟨uid, uid, 0, .application, true⟩
  { tbcmhInit 0 0 with
    ota := .initial ⟨.connected, 2, 100, []⟩ 0
    requestList := Function.update (fun _ => []) .clientrpc [request 1, request 2]
    queue := [.checkTimeout]
    lastUid := 2 }

/-- The `on_timeout` of the second request destroys the client. -/
def timeoutDestroys : Destroyers where
  onUpdate _ := false
  onTimeout table uid := table = .clientrpc && uid = 2

/-- The `on_timeout` of the first request returns 2. -/
def endingRound : Round where
  onTimeout _ uid := (if uid = 1 then 2 else 0, [])
  answers := sampleEventAnswers
  behind := []

end ThingsboardMqtt
