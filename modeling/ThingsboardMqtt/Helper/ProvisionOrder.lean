import Mathlib.Data.List.Nodup
import ThingsboardMqtt.Helper.Moves
import ThingsboardMqtt.Helper.ProvisionAnswers

set_option autoImplicit false

/-! # Which request a provision answer reaches

The topic of a provision answer carries no id ("request_id is meaningless in provision"), so an answer
goes to the oldest request of the list, while the sweep takes requests out of it that the server may
still answer. `ProvisionWorld` is the client with the answers that are under way to it on one
connection. The server answers requests in the order in which they were published, and each answer
arrives at any later time or never.

What a callback calls is the next input of the run, as in the runs of the client. -/

namespace ThingsboardMqtt

open Execution ListWalk

/-! ## The world -/

/-- An `on_response` was invoked: `callee` is its request, with the credentials of the server's answer
    to the request `answered`. -/
structure HandedOver where
  callee : Nat
  answered : Nat
  deriving DecidableEq, Repr

/-- `unanswered` are the requests that the server will answer next, `underWay` its answers that have
    not arrived. `accepted` are the requests whose call returned `ESP_OK`; `arrived` are those whose
    answer has arrived, `swept` those that timed out. -/
structure ProvisionWorld where
  client : Client
  unanswered : List Nat
  underWay : List (Nat × Cjson)
  accepted : List Nat
  arrived : List Nat
  swept : List Nat
  handed : List HandedOver

/-- `arrive` lets the answer at an index of those under way arrive. `clock` sets what `time` returns,
    and `onTimeout` is what the callbacks of a sweep return. -/
inductive ProvisionInput
  | request (hasOnTimeout : Bool) (answers : RequestAnswers)
  | clock (now : Nat)
  | sweep (onTimeout : Request → Int)
  | answer (results : Cjson)
  | arrive (index : Nat) (answers : OtaAnswers)

/-- The request whose `on_response` an action invokes. -/
def HelperAction.callee : HelperAction → Option Nat
  | .onResponse .provision uid _ => some uid
  | _ => none

/-- The `on_response` invoked by what the answer to `answered` made the client do. -/
def handedOver (answered : Nat) (actions : List HelperAction) : List HandedOver :=
  (actions.filterMap HelperAction.callee).map (HandedOver.mk · answered)

namespace ProvisionWorld

/-- A connection before the first provision request. -/
def initial (client : Client) : ProvisionWorld where
  client := client.setRequests .provision []
  unanswered := []
  underWay := []
  accepted := []
  arrived := []
  swept := []
  handed := []

/-- The requests that have neither timed out nor been answered. -/
def waiting (world : ProvisionWorld) : List Nat :=
  world.accepted.filter fun uid => uid ∉ world.arrived ∧ uid ∉ world.swept

/-- A request call. The server gets what is published, also where the item is not created. -/
def request (world : ProvisionWorld) (hasOnTimeout : Bool) (answers : RequestAnswers) :
    ProvisionWorld :=
  match tbcmhRequest .provision .application hasOnTimeout answers world.client with
  | (returned, client) =>
    { world with
      client := client
      unanswered :=
        if world.client.lastUid < client.lastUid then world.unanswered ++ [client.lastUid]
        else world.unanswered
      accepted := if returned then world.accepted ++ [client.lastUid] else world.accepted }

/-- A sweep for timeouts. -/
def sweep (world : ProvisionWorld) (onTimeout : Request → Int) : ProvisionWorld :=
  { world with
    client := tbcmhRequestOnCheckTimeout .provision (fun request client => (onTimeout request, client))
      world.client.core.now world.client
    swept := world.swept ++
      (moveTimedOut .provision world.client.core.now world.client).1.map (·.uid) }

/-- An answer arrives. -/
def arrive (world : ProvisionWorld) (index : Nat) (answers : OtaAnswers) :
    Except Halt ProvisionWorld :=
  match world.underWay[index]? with
  | none => .error .disabled
  | some (answered, results) =>
    match tbcmhRequestOnData .provision 0 (some results) answers world.client with
    | .error fault => .error (.fault fault)
    | .ok client =>
      .ok { world with
        client := client
        underWay := world.underWay.eraseIdx index
        arrived := world.arrived ++ [answered]
        handed := world.handed ++
          handedOver answered (client.history.drop world.client.history.length) }

end ProvisionWorld

def provisionStep (world : ProvisionWorld) : ProvisionInput → Except Halt ProvisionWorld
  | .request hasOnTimeout answers => .ok (world.request hasOnTimeout answers)
  | .clock now =>
    .ok { world with client := world.client.setCore { world.client.core with now := now } }
  | .sweep onTimeout => .ok (world.sweep onTimeout)
  | .answer results =>
    match world.unanswered with
    | [] => .error .disabled
    | uid :: rest =>
      .ok { world with unanswered := rest, underWay := world.underWay ++ [(uid, results)] }
  | .arrive index answers => world.arrive index answers

/-- An answer comes in turn: its own request still waits and all earlier ones have been answered or have
    timed out, or no request waits at all. -/
def InTurn (world : ProvisionWorld) (answered : Nat) : Prop :=
  ∀ uid ∈ world.waiting, answered ∈ world.waiting ∧ answered ≤ uid

/-- The guard of the run. -/
def ArrivesInTurn (world : ProvisionWorld) : ProvisionInput → Prop
  | .arrive index _ => ∀ answer ∈ world.underWay[index]?, InTurn world answer.1
  | _ => True

/-! ## What the client does -/

theorem tbcmhRequest_provision_cases (hasOnTimeout : Bool) (answers : RequestAnswers)
    (client : Client) :
    let outcome := tbcmhRequest .provision .application hasOnTimeout answers client
    outcome.1 = false ∧ outcome.2.requestList = client.requestList ∧
        client.lastUid ≤ outcome.2.lastUid ∨
      outcome.1 = true ∧ outcome.2.lastUid = client.lastUid + 1 ∧ ∃ request : Request,
        request.uid = client.lastUid + 1 ∧
          outcome.2.requestList .provision = client.requestList .provision ++ [request] := by
  obtain ⟨published, created⟩ := answers
  simp only [tbcmhRequest, RequestCall.wellFormed, if_true, sendRequest, subscribeEmpty_eq,
    RequestCall.table]
  by_cases hconnected : tbcmhIsConnected client.core = true
  · rw [if_neg (by simp [hconnected])]
    cases published with
    | false => exact .inl ⟨rfl, rfl, Nat.le_refl _⟩
    | true =>
      cases created with
      | false => exact .inl ⟨rfl, rfl, Nat.le_succ _⟩
      | true => exact .inr ⟨rfl, rfl, ⟨client.lastUid + 1, _, _, _, _⟩, rfl, rfl⟩
  · rw [if_pos (by simp [hconnected])]
    exact .inl ⟨rfl, rfl, Nat.le_refl _⟩

theorem dealTimeout_requestList (table : RequestTable) (onTimeout : Request → Int)
    (timeoutList : List Request) :
    ∀ (clientIsValid : Bool) (client : Client),
      (dealTimeout table (fun request client => (onTimeout request, client)) clientIsValid timeoutList
          client).requestList = client.requestList ∧
        (dealTimeout table (fun request client => (onTimeout request, client)) clientIsValid
          timeoutList client).lastUid = client.lastUid := by
  induction timeoutList with
  | nil => exact fun _ _ => ⟨rfl, rfl⟩
  | cons request rest ih =>
    intro clientIsValid client
    rw [dealTimeout]
    split
    · exact ih _ _
    · exact ih _ _

theorem tbcmhRequestOnCheckTimeout_requestList (table : RequestTable) (onTimeout : Request → Int)
    (timestamp : Nat) (client : Client) :
    (tbcmhRequestOnCheckTimeout table (fun request client => (onTimeout request, client)) timestamp
        client).requestList
      = Function.update client.requestList table
          ((client.requestList table).filter fun request => !request.timedOut timestamp) ∧
      (tbcmhRequestOnCheckTimeout table (fun request client => (onTimeout request, client)) timestamp
        client).lastUid = client.lastUid := by
  rw [tbcmhRequestOnCheckTimeout, moveTimedOut, unsubscribeEmptied_eq]
  exact dealTimeout_requestList table onTimeout _ _ _

/-- An answer that is handled takes the oldest request and may invoke its `on_response`. -/
theorem tbcmhRequestOnData_provision_ok {client client' : Client} {oldest : Request}
    {rest : List Request} {requestId : Nat} {results : Cjson} {answers : OtaAnswers}
    (hlist : client.requestList .provision = oldest :: rest)
    (h : tbcmhRequestOnData .provision requestId (some results) answers client = .ok client') :
    client'.requestList .provision = rest ∧ client'.lastUid = client.lastUid ∧
      ∃ action, client'.history = client.history ++ [action] ∧
        ∀ uid, action.callee = some uid → uid = oldest.uid := by
  rw [tbcmhRequestOnData_provision hlist, unsubscribeEmptied_eq] at h
  obtain ⟨ota, -, rfl⟩ | ⟨-, rfl⟩ := doResponse_outcome h
  · refine ⟨by simp, rfl, _, rfl, ?_⟩
    intro uid huid
    exact (Option.some.inj huid).symm
  · refine ⟨by simp, rfl, _, rfl, ?_⟩
    intro uid huid
    contradiction

/-- Credentials go to the oldest request. -/
theorem tbcmhRequestOnData_provision_granted {client client' : Client} {oldest : Request}
    {rest : List Request} {requestId : Nat} {results : Cjson} {answers : OtaAnswers}
    (hlist : client.requestList .provision = oldest :: rest)
    (hgranted : Succeeded results ∧ Carries results)
    (h : tbcmhRequestOnData .provision requestId (some results) answers client = .ok client') :
    client'.history = client.history ++ [.onResponse .provision oldest.uid requestId] := by
  rw [tbcmhRequestOnData_provision hlist, unsubscribeEmptied_eq] at h
  have hstrings : StringIfPresent results "status" ∧
      StringIfPresent results "provisionDeviceStatus" := by
    by_contra hstrings
    simp only [doResponse, parseProvisionResponse_of_not_strings hstrings, bind, Except.bind] at h
    contradiction
  obtain ⟨credentials, hparse, hsome⟩ :=
    parseProvisionResponse_of_strings hstrings.1 hstrings.2
  obtain ⟨credentials, rfl⟩ := Option.isSome_iff_exists.mp (hsome.mpr hgranted)
  simp only [doResponse, hparse, bind, Except.bind] at h
  obtain rfl := Except.ok.inj h
  rfl

/-! ## Requests and answers stay matched -/

namespace ProvisionWorld

/-- The requests that have a number. -/
def numbers (world : ProvisionWorld) : List Nat :=
  world.accepted ++ world.arrived ++ world.swept ++ world.unanswered ++ world.underWay.map (·.1)

/-- The list of the client holds the requests that wait, and every `on_response` was invoked by the
    answer to its own request. -/
structure Matched (world : ProvisionWorld) : Prop where
  waiting : (world.client.requestList .provision).map (·.uid) = world.waiting
  inOrder : world.accepted.Pairwise (· < ·)
  numbered : ∀ uid ∈ world.numbers, uid ≤ world.client.lastUid
  own : ∀ handed ∈ world.handed, handed.callee = handed.answered

theorem matched_initial (client : Client) : (initial client).Matched where
  waiting := by simp [initial, waiting]
  inOrder := .nil
  numbered := by simp [initial, numbers]
  own := by simp [initial]

theorem Matched.request {world : ProvisionWorld} (h : world.Matched) (hasOnTimeout : Bool)
    (answers : RequestAnswers) : (world.request hasOnTimeout answers).Matched := by
  have hnumbered := h.numbered
  have hcases := tbcmhRequest_provision_cases hasOnTimeout answers world.client
  unfold ProvisionWorld.request
  generalize tbcmhRequest .provision .application hasOnTimeout answers world.client = outcome
    at hcases ⊢
  obtain ⟨returned, client⟩ := outcome
  simp only at hcases
  have hunanswered : ∀ uid ∈ if world.client.lastUid < client.lastUid
      then world.unanswered ++ [client.lastUid] else world.unanswered,
      uid ∈ world.unanswered ∨ uid = client.lastUid := by
    intro uid huid
    split at huid
    · simpa using huid
    · exact .inl huid
  obtain ⟨rfl, hlist, hlast⟩ | ⟨rfl, hlast, request, hrequest, hlist⟩ := hcases
  · refine ⟨by simpa [hlist, ProvisionWorld.waiting] using h.waiting, h.inOrder, ?_, h.own⟩
    intro uid huid
    simp only [numbers, List.mem_append] at huid hnumbered
    grind
  · -- the new number is larger than all others, so its request waits behind the others
    have hnew : client.lastUid ∉ world.arrived ∧ client.lastUid ∉ world.swept := by
      constructor <;> intro hmem
      · have := hnumbered client.lastUid (by simp [numbers, hmem])
        omega
      · have := hnumbered client.lastUid (by simp [numbers, hmem])
        omega
    refine ⟨?_, ?_, ?_, h.own⟩
    · have hwaiting := h.waiting
      simp only [ProvisionWorld.waiting] at hwaiting
      simp [ProvisionWorld.waiting, hlist, hwaiting, hrequest, ← hlast, hnew]
    · refine List.pairwise_append.mpr ⟨h.inOrder, List.pairwise_singleton _ _, ?_⟩
      intro uid hmem new hnew
      have := hnumbered uid (by simp [numbers, hmem])
      rw [List.mem_singleton.mp hnew]
      omega
    · intro uid huid
      simp only [numbers, List.mem_append] at huid hnumbered
      grind

theorem Matched.waiting_inOrder {world : ProvisionWorld} (h : world.Matched) :
    world.waiting.Pairwise (· < ·) :=
  h.inOrder.filter _

theorem Matched.sweep {world : ProvisionWorld} (h : world.Matched) (onTimeout : Request → Int) :
    (world.sweep onTimeout).Matched := by
  obtain ⟨hlist, huid⟩ := tbcmhRequestOnCheckTimeout_requestList .provision onTimeout
    world.client.core.now world.client
  let timedOut := (world.client.requestList .provision).filter (·.timedOut world.client.core.now)
  have hnodup : ((world.client.requestList .provision).map (·.uid)).Nodup := by
    rw [h.waiting]
    exact h.waiting_inOrder.imp Nat.ne_of_lt
  -- a number belongs to one request only, so the sweep takes the numbers it takes the requests of
  have hswept : ∀ request ∈ world.client.requestList .provision,
      (request.uid ∉ timedOut.map (·.uid)) ↔ request.timedOut world.client.core.now = false := by
    intro request hmem
    rw [← Bool.not_eq_true, not_iff_not]
    constructor
    · intro huid
      obtain ⟨other, hother, heq⟩ := List.mem_map.mp huid
      obtain ⟨hother, htimedOut⟩ := List.mem_filter.mp hother
      rwa [← List.inj_on_of_nodup_map hnodup hother hmem heq]
    · intro htimedOut
      exact List.mem_map_of_mem (List.mem_filter.mpr ⟨hmem, htimedOut⟩)
  refine ⟨?_, h.inOrder, ?_, h.own⟩
  · calc ((world.sweep onTimeout).client.requestList .provision).map (·.uid)
        = ((world.client.requestList .provision).filter fun request =>
            !request.timedOut world.client.core.now).map (·.uid) := by
          rw [ProvisionWorld.sweep, hlist, Function.update_self]
      _ = ((world.client.requestList .provision).filter fun request =>
            request.uid ∉ timedOut.map (·.uid)).map (·.uid) := by
          congr 1
          refine List.filter_congr ?_
          intro request hmem
          rw [Bool.eq_iff_iff, decide_eq_true_iff, hswept request hmem, Bool.not_eq_true']
      _ = world.waiting.filter fun uid => uid ∉ timedOut.map (·.uid) := by
          rw [← h.waiting, List.filter_map]
          rfl
      _ = (world.sweep onTimeout).waiting := by
          simp only [ProvisionWorld.waiting, ProvisionWorld.sweep, List.filter_filter, moveTimedOut]
          refine List.filter_congr ?_
          intro uid _
          simp [timedOut, Bool.and_comm, Bool.and_assoc]
  · have hnumbered := h.numbered
    have hwaiting : ∀ uid ∈ timedOut.map (·.uid), uid ∈ world.accepted := by
      intro uid hmem
      obtain ⟨request, hrequest, rfl⟩ := List.mem_map.mp hmem
      have hwaits : request.uid ∈ world.waiting := by
        rw [← h.waiting]
        exact List.mem_map_of_mem (List.mem_of_mem_filter hrequest)
      exact List.mem_of_mem_filter hwaits
    intro uid hmem
    rw [ProvisionWorld.sweep, huid]
    refine hnumbered uid ?_
    simp only [numbers, ProvisionWorld.sweep, moveTimedOut, List.mem_append] at hmem ⊢
    have := hwaiting uid
    tauto

/-- Requests that are answered in turn leave the others waiting. -/
theorem waiting_arrived {world : ProvisionWorld} {uid : Nat} {rest : List Nat}
    (hinOrder : world.waiting.Pairwise (· < ·)) (hwaiting : world.waiting = uid :: rest) :
    world.accepted.filter (fun other => other ∉ world.arrived ++ [uid] ∧ other ∉ world.swept)
      = rest := by
  have hrest : ∀ other ∈ rest, uid < other := by
    rw [hwaiting] at hinOrder
    exact fun other => List.rel_of_pairwise_cons hinOrder
  calc world.accepted.filter (fun other => other ∉ world.arrived ++ [uid] ∧ other ∉ world.swept)
      = world.waiting.filter (· ≠ uid) := by
        simp [ProvisionWorld.waiting, List.filter_filter, Bool.and_comm, Bool.and_assoc]
    _ = rest.filter (· ≠ uid) := by simp [hwaiting]
    _ = rest := by
        refine List.filter_eq_self.mpr ?_
        intro other hmem
        have := hrest other hmem
        simp only [decide_eq_true_eq]
        omega

/-- An answer that arrives is moved, and no number is new. -/
theorem Matched.numbered_arrived {world : ProvisionWorld} (h : world.Matched) {index answered : Nat}
    {results : Cjson} (hanswer : world.underWay[index]? = some (answered, results)) :
    ∀ uid ∈ world.accepted ++ (world.arrived ++ [answered]) ++ world.swept ++ world.unanswered ++
      (world.underWay.eraseIdx index).map (·.1), uid ≤ world.client.lastUid := by
  have hmem : answered ∈ world.underWay.map (·.1) :=
    List.mem_map_of_mem (List.mem_of_getElem? hanswer)
  have herase : ∀ uid ∈ (world.underWay.eraseIdx index).map (·.1),
      uid ∈ world.underWay.map (·.1) :=
    fun uid => ((List.eraseIdx_sublist world.underWay index).map _).mem
  have hnumbered := h.numbered
  simp only [numbers, List.mem_append] at hnumbered
  intro uid huid
  refine hnumbered uid ?_
  simp only [List.mem_append, List.mem_singleton] at huid
  have := herase uid
  grind

theorem Matched.arrive {world world' : ProvisionWorld} (h : world.Matched) {index : Nat}
    {answers : OtaAnswers} (hturn : ∀ answer ∈ world.underWay[index]?, InTurn world answer.1)
    (harrive : world.arrive index answers = .ok world') : world'.Matched := by
  unfold ProvisionWorld.arrive at harrive
  cases hanswer : world.underWay[index]? with
  | none => simp [hanswer] at harrive
  | some answer =>
  obtain ⟨answered, results⟩ := answer
  have hturn : InTurn world answered := hturn _ hanswer
  simp only [hanswer] at harrive
  cases hdata : tbcmhRequestOnData .provision 0 (some results) answers world.client with
  | error fault => simp [hdata] at harrive
  | ok client =>
  simp only [hdata] at harrive
  obtain rfl := Except.ok.inj harrive
  have hnumbered := h.numbered_arrived hanswer
  cases hlist : world.client.requestList .provision with
  | nil =>
    -- no request waits, and the answer is dropped
    have hsame : client = world.client := by
      simp only [tbcmhRequestOnData, hlist, splitFirst] at hdata
      exact (Except.ok.inj hdata).symm
    subst hsame
    have hnone : world.waiting = [] := by rw [← h.waiting, hlist]; rfl
    refine ⟨?_, h.inOrder, hnumbered, ?_⟩
    · have hfewer : ∀ uid ∈ world.accepted, uid ∉ world.arrived → uid ∈ world.swept := by
        simpa [ProvisionWorld.waiting] using hnone
      simp only [hlist, ProvisionWorld.waiting, List.map_nil]
      symm
      refine List.filter_eq_nil_iff.mpr ?_
      intro uid hmem
      have := hfewer uid hmem
      simp
      tauto
    · simpa [handedOver] using h.own
  | cons oldest rest =>
    have hwaiting : world.waiting = oldest.uid :: rest.map (·.uid) := by
      rw [← h.waiting, hlist]
      rfl
    -- the answer is in turn, so it is the one to the oldest request
    have howns : answered = oldest.uid := by
      obtain ⟨hwaits, hle⟩ := hturn oldest.uid (by simp [hwaiting])
      have hinOrder := h.waiting_inOrder
      rw [hwaiting] at hwaits hinOrder
      obtain rfl | hlater := List.mem_cons.mp hwaits
      · rfl
      · have := List.rel_of_pairwise_cons hinOrder hlater
        omega
    subst howns
    obtain ⟨hrest, huid, action, hhistory, hcallee⟩ := tbcmhRequestOnData_provision_ok hlist hdata
    refine ⟨?_, h.inOrder, ?_, ?_⟩
    · rw [hrest]
      exact (waiting_arrived h.waiting_inOrder hwaiting).symm
    · rw [huid]
      exact hnumbered
    · intro handed hmem
      obtain hmem | hmem := List.mem_append.mp hmem
      · exact h.own handed hmem
      · rw [hhistory, List.drop_left] at hmem
        obtain ⟨uid, huid, rfl⟩ := List.mem_map.mp hmem
        obtain ⟨_, hmem, huid⟩ := List.mem_filterMap.mp huid
        rw [List.mem_singleton.mp hmem] at huid
        exact hcallee uid huid

theorem Matched.step {world world' : ProvisionWorld} {input : ProvisionInput} (h : world.Matched)
    (hguard : ArrivesInTurn world input) (hstep : provisionStep world input = .ok world') :
    world'.Matched := by
  cases input with
  | request hasOnTimeout answers =>
    obtain rfl := Except.ok.inj hstep
    exact h.request hasOnTimeout answers
  | clock now =>
    obtain rfl := Except.ok.inj hstep
    exact ⟨h.waiting, h.inOrder, h.numbered, h.own⟩
  | sweep onTimeout =>
    obtain rfl := Except.ok.inj hstep
    exact h.sweep onTimeout
  | answer results =>
    simp only [provisionStep] at hstep
    cases hunanswered : world.unanswered with
    | nil => simp [hunanswered] at hstep
    | cons uid rest =>
      simp only [hunanswered] at hstep
      obtain rfl := Except.ok.inj hstep
      refine ⟨h.waiting, h.inOrder, ?_, h.own⟩
      have hnumbered := h.numbered
      simp only [numbers, hunanswered] at hnumbered
      intro other hmem
      refine hnumbered other ?_
      simp only [numbers, List.map_append, List.mem_append, List.mem_cons, List.map_cons,
        List.map_nil] at hmem ⊢
      tauto
  | arrive index answers => exact h.arrive hguard hstep

/-- The guard is exact: credentials that arrive out of turn are handed to another request. -/
theorem Matched.misses {world world' : ProvisionWorld} (h : world.Matched) {index answered : Nat}
    {results : Cjson} {answers : OtaAnswers}
    (hanswer : world.underWay[index]? = some (answered, results)) (hturn : ¬ InTurn world answered)
    (hgranted : Succeeded results ∧ Carries results)
    (harrive : world.arrive index answers = .ok world') :
    ∃ handed ∈ world'.handed, handed.callee ≠ handed.answered := by
  unfold ProvisionWorld.arrive at harrive
  simp only [hanswer] at harrive
  cases hlist : world.client.requestList .provision with
  | nil =>
    have hnone : world.waiting = [] := by rw [← h.waiting, hlist]; rfl
    exact absurd (by simp [InTurn, hnone]) hturn
  | cons oldest rest =>
    have hwaiting : world.waiting = oldest.uid :: rest.map (·.uid) := by
      rw [← h.waiting, hlist]
      rfl
    have hother : oldest.uid ≠ answered := by
      rintro rfl
      refine hturn ?_
      intro uid hmem
      have hinOrder := h.waiting_inOrder
      rw [hwaiting] at hmem hinOrder ⊢
      refine ⟨List.mem_cons_self, ?_⟩
      obtain rfl | hmem := List.mem_cons.mp hmem
      · exact Nat.le_refl _
      · exact Nat.le_of_lt (List.rel_of_pairwise_cons hinOrder hmem)
    cases hdata : tbcmhRequestOnData .provision 0 (some results) answers world.client with
    | error fault => simp [hdata] at harrive
    | ok client =>
      simp only [hdata] at harrive
      obtain rfl := Except.ok.inj harrive
      have hhistory := tbcmhRequestOnData_provision_granted hlist hgranted hdata
      refine ⟨⟨oldest.uid, answered⟩, ?_, hother⟩
      simp [hhistory, handedOver, HelperAction.callee]

end ProvisionWorld

/-- On one connection on which every answer comes in turn, an `on_response` gets the credentials of the
    server's answer to its own request. -/
theorem handedOwn_of_run {client : Client} {inputs : List ProvisionInput} {world : ProvisionWorld}
    (run : Run (within ArrivesInTurn (Succeeds provisionStep)) (.initial client) inputs world) :
    ∀ handed ∈ world.handed, handed.callee = handed.answered :=
  (run.invariant (ProvisionWorld.matched_initial client)
    (fun _ _ _ h hstep => h.step hstep.1 hstep.2)).own

/-! ## Late answers -/

instance (world : ProvisionWorld) (answered : Nat) : Decidable (InTurn world answered) :=
  inferInstanceAs (Decidable (∀ uid ∈ world.waiting, _ ∧ _))

instance (world : ProvisionWorld) : DecidablePred (ArrivesInTurn world)
  | .arrive index _ =>
    inferInstanceAs (Decidable (∀ answer ∈ world.underWay[index]?, InTurn world answer.1))
  | .request _ _ | .clock _ | .sweep _ | .answer _ => .isTrue trivial

/-- A client that is connected. -/
def provisioningClient : Client := (tbcmhInit 100 0).setCore ⟨.connected, 0, 100, []⟩

/-- An access token. -/
def tokenResults : Cjson :=
  .object [("credentialsType", .string "ACCESS_TOKEN"), ("credentialsValue", .string "TOKEN"),
    ("status", .string "SUCCESS")]

/-- The answer to a request arrives behind its timeout, when another request waits. -/
def lateAnswer : List ProvisionInput :=
  [.request true ⟨true, true⟩, .clock 131, .sweep fun _ => 0, .request true ⟨true, true⟩,
    .answer tokenResults, .arrive 0 sampleAnswers]

/-- The second request gets the credentials of the first. -/
theorem handedOwn_fails_lateAnswer :
    ¬ ∀ client inputs world, Run (Succeeds provisionStep) (.initial client) inputs world →
      ∀ handed ∈ world.handed, handed.callee = handed.answered := by
  intro hall
  have run : Run (Succeeds provisionStep) (.initial provisioningClient) lateAnswer
      (lateAnswer.foldl (advance provisionStep) (.initial provisioningClient)) :=
    run_of_succeeds (by decide +kernel)
  exact absurd (hall _ _ _ run) (by decide +kernel)

/-- Two requests, and the first times out. -/
def timelyAnswer : List ProvisionInput :=
  [.request true ⟨true, true⟩, .clock 131, .request true ⟨true, true⟩, .sweep fun _ => 0,
    .answer tokenResults, .answer tokenResults, .arrive 1 sampleAnswers, .arrive 0 sampleAnswers]

theorem handedOwn_of_run_timelyAnswer :
    (timelyAnswer.foldl (advance provisionStep) (.initial provisioningClient)).handed.all
      (fun handed => handed.callee = handed.answered) = true :=
  List.all_eq_true.mpr fun handed hmem =>
    decide_eq_true (handedOwn_of_run (run_of_allowed (by decide +kernel)) handed hmem)

end ThingsboardMqtt
