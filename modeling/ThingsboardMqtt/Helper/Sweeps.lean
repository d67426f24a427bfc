import ThingsboardMqtt.Helper.RequestMoves

set_option autoImplicit false

/-! # Sweeps

What a check of a request table does is read off the actions it appends to the history (`Swept`): what
timed out leaves the table and is called, and the callbacks may send requests, which come behind those
that are left. The sweep takes the requests out before it invokes the first callback, so what the
callbacks send is out of its reach. -/

namespace ThingsboardMqtt

open Relation

variable {conduct : Conduct}

def HelperAction.isResponse : HelperAction → Bool
  | .onResponse _ _ _ => true
  | _ => false

/-- The request that is accepted in a table. -/
def HelperAction.acceptedIn (table : RequestTable) : HelperAction → Option Request
  | .accepted other request => if other = table then some request else none
  | _ => none

/-- The request of a table whose `on_timeout` is invoked. -/
def HelperAction.timeoutIn (table : RequestTable) : HelperAction → Option Nat
  | .onTimeout other uid => if other = table then some uid else none
  | _ => none

/-- A check of a table at a time: what timed out leaves the table, its callbacks are invoked in the
    order of the table, the rest stays as it is, and what the callbacks send comes behind it. -/
def Swept (table : RequestTable) (timestamp : Nat) (client client' : Client) : Prop :=
  ∃ actions, client'.history = client.history ++ actions ∧
    client'.requestList table
      = (client.requestList table).filter (fun request => !request.timedOut timestamp) ++
        actions.filterMap (·.acceptedIn table) ∧
    actions.filterMap (·.timeoutIn table)
      = ((client.requestList table).filter fun request =>
          request.timedOut timestamp && request.hasOnTimeout).map (·.uid)

/-- A request that was sent between two states of the client. -/
structure SentBetween (client client' : Client) (request : Request) : Prop where
  behind : client.core.now ≤ request.timestamp
  before : request.timestamp ≤ client'.core.now
  numbered : client.lastUid < request.uid

theorem SentBetween.not_timedOut {client client' : Client} {request : Request} {timestamp : Nat}
    (h : SentBetween client client' request) (htime : timestamp ≤ client.core.now) :
    request.timedOut timestamp = false := by
  have hbehind := h.behind
  refine decide_eq_false ?_
  intro hdue
  simp only [tbMqttTimeout] at hdue
  omega

/-- A table keeps its requests and takes those that are sent; of its requests those in `called` have
    their `on_timeout` invoked, and none has its `on_response`. -/
structure Grown (table : RequestTable) (called : List Nat) (client client' : Client) : Prop where
  now : client.core.now ≤ client'.core.now
  lastUid : client.lastUid ≤ client'.lastUid
  actions : ∃ actions, client'.history = client.history ++ actions ∧
    client'.requestList table = client.requestList table ++ actions.filterMap (·.acceptedIn table) ∧
    (∀ request ∈ actions.filterMap (·.acceptedIn table), SentBetween client client' request) ∧
    actions.filterMap (·.timeoutIn table) = called ∧
    ∀ action ∈ actions, action.isResponse = false

namespace Grown

variable {table : RequestTable} {called called' : List Nat} {client client' client'' : Client}

theorem of_eq (hnow : client.core.now ≤ client'.core.now) (huid : client'.lastUid = client.lastUid)
    (hhistory : client'.history = client.history)
    (hlist : client'.requestList table = client.requestList table) : Grown table [] client client' :=
  ⟨hnow, Nat.le_of_eq huid.symm, [], by simp [hhistory], by simp [hlist], by simp, rfl, by simp⟩

theorem refl (client : Client) : Grown table [] client client := of_eq (Nat.le_refl _) rfl rfl rfl

theorem trans (h : Grown table called client client') (h' : Grown table called' client' client'') :
    Grown table (called ++ called') client client'' := by
  obtain ⟨hnow, huid, actions, hhistory, hlist, hsent, rfl, hanswers⟩ := h
  obtain ⟨hnow', huid', actions', hhistory', hlist', hsent', rfl, hanswers'⟩ := h'
  refine ⟨Nat.le_trans hnow hnow', Nat.le_trans huid huid', actions ++ actions', ?_, ?_, ?_, ?_, ?_⟩
  · rw [hhistory', hhistory, List.append_assoc]
  · rw [hlist', hlist, List.filterMap_append, List.append_assoc]
  · intro request hmem
    rw [List.filterMap_append] at hmem
    rcases List.mem_append.mp hmem with hmem | hmem
    · obtain ⟨hbehind, hbefore, hnumbered⟩ := hsent request hmem
      exact ⟨hbehind, Nat.le_trans hbefore hnow', hnumbered⟩
    · obtain ⟨hbehind, hbefore, hnumbered⟩ := hsent' request hmem
      exact ⟨Nat.le_trans hnow hbehind, hbefore, Nat.lt_of_le_of_lt huid hnumbered⟩
  · rw [List.filterMap_append]
  · intro action hmem
    exact (List.mem_append.mp hmem).elim (hanswers action) (hanswers' action)

theorem beside (h : Beside client client') : Grown table [] client client' := by
  obtain ⟨actions, hhistory, hactions⟩ := h.history
  have hnone : ∀ action ∈ actions, action.acceptedIn table = none ∧ action.timeoutIn table = none ∧
      action.isResponse = false := by
    intro action hmem
    have hbeside := hactions action hmem
    cases action with
    | onRequest | connected | unsubscribed => exact ⟨rfl, rfl, rfl⟩
    | accepted | onResponse | onTimeout => exact absurd hbeside (by simp [HelperAction.isBeside])
  have haccepted : actions.filterMap (·.acceptedIn table) = [] :=
    List.filterMap_eq_nil_iff.mpr fun action hmem => (hnone action hmem).1
  refine ⟨h.now, Nat.le_of_eq h.lastUid.symm, actions, hhistory, ?_, ?_, ?_,
    fun action hmem => (hnone action hmem).2.2⟩
  · rw [haccepted, h.requestList, List.append_nil]
  · simp [haccepted]
  · exact List.filterMap_eq_nil_iff.mpr fun action hmem => (hnone action hmem).2.1

theorem request {call : RequestCall} {hasOnTimeout : Bool} {answers : RequestAnswers}
    (outcome : RequestOutcome call hasOnTimeout answers client client') :
    Grown table [] client client' := by
  cases outcome with
  | refused | unpublished => exact of_eq (Nat.le_refl _) rfl rfl rfl
  | uncreated hconnected nextRequestId =>
    exact ⟨Nat.le_refl _, Nat.le_succ _, [], (List.append_nil _).symm, (List.append_nil _).symm,
      by simp, rfl, by simp⟩
  | accepted hconnected hok nextRequestId request huid htimestamp hcallback =>
    refine ⟨Nat.le_refl _, Nat.le_succ _, [.accepted call.table request], rfl, ?_, ?_, rfl,
      by simp [HelperAction.isResponse]⟩
    · simp only [Client.log_requestList, Client.setRequests_requestList, List.filterMap_cons,
        List.filterMap_nil, HelperAction.acceptedIn, eq_comm (a := call.table)]
      split
      · rename_i htable
        rw [htable]
      · exact (List.append_nil _).symm
    · intro sent hmem
      simp only [List.filterMap_cons, List.filterMap_nil, HelperAction.acceptedIn] at hmem
      split at hmem
      · rename_i hnone
        exact absurd hmem List.not_mem_nil
      · rename_i hsome
        split at hsome
        · obtain rfl := Option.some.inj hsome
          rw [List.mem_singleton.mp hmem]
          exact ⟨Nat.le_of_eq htimestamp.symm, Nat.le_of_eq htimestamp,
            huid ▸ Nat.lt_succ_self client.lastUid⟩
        · exact absurd hsome (by simp)

theorem act (act : Act) (client : Client) : Grown table [] client (act.run client) := by
  by_cases hconnack : act = .connack
  · subst hconnack
    rcases onMqttConnected_cases client with hsame | ⟨hlist, huid, hnow, hhistory, -⟩
    · rw [Act.run, hsame]
      exact refl client
    · exact of_eq (Nat.le_of_eq hnow.symm) huid hhistory (congrFun hlist table)
  · by_cases hrequest : ∃ call hasOnTimeout answers, act = .request call hasOnTimeout answers
    · obtain ⟨call, hasOnTimeout, answers, rfl⟩ := hrequest
      exact request (tbcmhRequest_outcome _ _ _ _ _)
    · exact beside (Beside.act act client hconnack fun call hasOnTimeout answers heq =>
        hrequest ⟨call, hasOnTimeout, answers, heq⟩)

theorem acts {site : Option Site} (acts : ReflTransGen (ActStep conduct site) client client') :
    Grown table [] client client' := by
  induction acts with
  | refl => exact refl client
  | tail _ hact ih =>
    obtain ⟨act, -, rfl⟩ := hact
    exact ih.trans (Grown.act act _)

theorem expire (table swept : RequestTable) (uid : Nat) (client : Client) :
    Grown table (if swept = table then [uid] else []) client (client.log (.onTimeout swept uid)) := by
  refine ⟨Nat.le_refl _, Nat.le_refl _, [.onTimeout swept uid], rfl, ?_,
    by simp [HelperAction.acceptedIn], ?_,
    by simp [HelperAction.isResponse]⟩
  · simp [HelperAction.acceptedIn]
  · by_cases htable : swept = table <;> simp [HelperAction.timeoutIn, htable]

end Grown

/-- No callback reports by a result of 2 that the client is gone. -/
def Callbacks.StayValid (callbacks : Callbacks conduct) : Prop :=
  ∀ site request client, ((callbacks site request).run client).1 ≠ 2

/-- The loop over the requests that timed out invokes callbacks of the swept table only; all that
    are set, if the client stays valid. -/
theorem grown_dealTimeout (callbacks : Callbacks conduct) (sweep : Sweep)
    (table swept : RequestTable) (timeoutList : List Request) :
    ∀ (clientIsValid : Bool) (client : Client), ∃ called,
      Grown table called client
        (dealTimeout swept (callbacks.onTimeout sweep swept) clientIsValid timeoutList client) ∧
      (swept ≠ table → called = []) ∧
      (swept = table → clientIsValid = true → callbacks.StayValid →
        called = (timeoutList.filter (·.hasOnTimeout)).map (·.uid)) := by
  induction timeoutList with
  | nil => exact fun _ client => ⟨[], .refl client, fun _ => rfl, fun _ _ _ => rfl⟩
  | cons request rest ih =>
    intro clientIsValid client
    simp only [dealTimeout]
    by_cases hinvoke : (clientIsValid && request.hasOnTimeout) = true
    · rw [if_pos hinvoke]
      let routine := callbacks ⟨sweep, swept⟩ request
      let logged := client.log (.onTimeout swept request.uid)
      have hexpire := Grown.expire table swept request.uid client
      have hacts : Grown table [] logged (routine.run logged).2 := .acts (routine.acts logged)
      obtain ⟨called, hgrown, hother, hswept⟩ :=
        ih (decide ((routine.run logged).1 ≠ 2)) (routine.run logged).2
      refine ⟨_, (hexpire.trans hacts).trans hgrown, ?_, ?_⟩
      · intro hne
        rw [hother hne, if_neg hne]
        rfl
      · intro heq hvalid hstay
        rw [hswept heq (decide_eq_true (hstay _ _ _)) hstay, if_pos heq]
        rw [List.filter_cons_of_pos (Bool.and_eq_true_iff.mp hinvoke).2]
        rfl
    · rw [if_neg hinvoke]
      obtain ⟨called, hgrown, hother, hswept⟩ := ih clientIsValid client
      refine ⟨called, hgrown, hother, ?_⟩
      intro heq hvalid hstay
      rw [hswept heq hvalid hstay, List.filter_cons_of_neg (by simpa [hvalid] using hinvoke)]

theorem moveTimedOut_requestList (table other : RequestTable) (timestamp : Nat) (client : Client) :
    (moveTimedOut table timestamp client).2.requestList other
      = if other = table then
          (client.requestList table).filter fun request => !request.timedOut timestamp
        else client.requestList other := by
  simp only [moveTimedOut, unsubscribeEmptied_eq, Client.send_requestList,
    Client.setRequests_requestList]

theorem moveTimedOut_history (table : RequestTable) (timestamp : Nat) (client : Client) :
    (moveTimedOut table timestamp client).2.history = client.history := by
  simp only [moveTimedOut, unsubscribeEmptied_eq, Client.send_history, Client.setRequests_history]

theorem moveTimedOut_lastUid (table : RequestTable) (timestamp : Nat) (client : Client) :
    (moveTimedOut table timestamp client).2.lastUid = client.lastUid := by
  simp only [moveTimedOut, unsubscribeEmptied_eq, Client.send_lastUid, Client.setRequests_lastUid]

theorem moveTimedOut_now (table : RequestTable) (timestamp : Nat) (client : Client) :
    (moveTimedOut table timestamp client).2.core.now = client.core.now := by
  simp only [moveTimedOut, unsubscribeEmptied_eq, Client.send_now, Client.setRequests_core]

/-- The sweep of one table leaves the others alone. -/
theorem grown_onCheckTimeout (callbacks : Callbacks conduct) (sweep : Sweep)
    {table swept : RequestTable} (hne : swept ≠ table) (timestamp : Nat) (client : Client) :
    Grown table [] client
      (tbcmhRequestOnCheckTimeout swept (callbacks.onTimeout sweep swept) timestamp client) := by
  have hmoved : Grown table [] client (moveTimedOut swept timestamp client).2 :=
    .of_eq (Nat.le_of_eq (moveTimedOut_now swept timestamp client).symm)
      (moveTimedOut_lastUid swept timestamp client) (moveTimedOut_history swept timestamp client)
      ((moveTimedOut_requestList swept table timestamp client).trans (if_neg hne.symm))
  obtain ⟨called, hgrown, hother, -⟩ := grown_dealTimeout callbacks sweep table swept
    (moveTimedOut swept timestamp client).1 true (moveTimedOut swept timestamp client).2
  exact hother hne ▸ hmoved.trans hgrown

/-- What a check of a table does, at any time and in any state. -/
theorem swept_onCheckTimeout (callbacks : Callbacks conduct) (hstay : callbacks.StayValid)
    (sweep : Sweep) (table : RequestTable) (timestamp : Nat) (client : Client) :
    Swept table timestamp client
      (tbcmhRequestOnCheckTimeout table (callbacks.onTimeout sweep table) timestamp client) := by
  obtain ⟨called, ⟨-, -, actions, hhistory, hlist, -, hcalled, -⟩, -, hswept⟩ :=
    grown_dealTimeout callbacks sweep table table (moveTimedOut table timestamp client).1 true
      (moveTimedOut table timestamp client).2
  refine ⟨actions, ?_, ?_, ?_⟩
  · rw [← moveTimedOut_history table timestamp client]
    exact hhistory
  · rw [moveTimedOut_requestList, if_pos rfl] at hlist
    exact hlist
  · rw [hcalled, hswept rfl rfl hstay]
    simp [moveTimedOut, List.filter_filter, Bool.and_comm]

/-- Requests that are sent before or behind a check, but not before the time it is made for, do not
    change what it does. -/
theorem Swept.grown {table : RequestTable} {timestamp : Nat} {client client₁ client₂ client' : Client}
    (hbefore : Grown table [] client client₁) (hswept : Swept table timestamp client₁ client₂)
    (hafter : Grown table [] client₂ client') (htime : timestamp ≤ client.core.now) :
    Swept table timestamp client client' := by
  obtain ⟨-, -, actions₁, hhistory₁, hlist₁, hsent₁, hcalled₁, -⟩ := hbefore
  obtain ⟨actions₂, hhistory₂, hlist₂, hcalled₂⟩ := hswept
  obtain ⟨-, -, actions₃, hhistory₃, hlist₃, -, hcalled₃, -⟩ := hafter
  -- what was sent before the check is too young for it
  have hsent : ∀ request ∈ actions₁.filterMap (·.acceptedIn table),
      request.timedOut timestamp = false := by
    intro request hmem
    exact (hsent₁ request hmem).not_timedOut htime
  have hkept : (actions₁.filterMap (·.acceptedIn table)).filter
      (fun request => !request.timedOut timestamp) = actions₁.filterMap (·.acceptedIn table) :=
    List.filter_eq_self.mpr fun request hmem => by simp [hsent request hmem]
  have hdue : (actions₁.filterMap (·.acceptedIn table)).filter
      (fun request => request.timedOut timestamp && request.hasOnTimeout) = [] :=
    List.filter_eq_nil_iff.mpr fun request hmem => by simp [hsent request hmem]
  refine ⟨actions₁ ++ actions₂ ++ actions₃, ?_, ?_, ?_⟩
  · rw [hhistory₃, hhistory₂, hhistory₁]
    simp only [List.append_assoc]
  · rw [hlist₃, hlist₂, hlist₁, List.filter_append, hkept]
    simp only [List.filterMap_append, List.append_assoc]
  · rw [List.filterMap_append, List.filterMap_append, hcalled₁, hcalled₂, hcalled₃, hlist₁,
      List.filter_append, hdue]
    simp

/-- What the handling of a `CHECK_TIMEOUT` event does, when a check is due. -/
theorem swept_onTbcmCheckTimeout (callbacks : Callbacks conduct) (hstay : callbacks.StayValid)
    (client : Client) (hdue : client.lastCheckTimestamp + tbMqttTimeout + 2 ≤ client.core.now)
    (table : RequestTable) :
    Swept table client.core.now client (onTbcmCheckTimeout callbacks client) := by
  rw [onTbcmCheckTimeout, if_neg (Nat.not_lt.mpr hdue)]
  have hchecked : Grown table [] client
      { client with lastCheckTimestamp := client.core.now } := .of_eq (Nat.le_refl _) rfl rfl rfl
  have hswept := fun client' => swept_onCheckTimeout callbacks hstay .checkTimeout table
    client.core.now client'
  have hother := fun swept client' (hne : swept ≠ table) =>
    grown_onCheckTimeout callbacks .checkTimeout hne client.core.now client'
  have hota : ∀ client' : Client, Grown table [] client'
      { client' with ota := tbcmhOtaupdateOnChunkCheckTimeout client.core.now client'.ota } :=
    fun client' => .beside (.ota (tbcmhOtaupdateOnChunkCheckTimeout_quiet _ _))
  cases table with
  | attributesrequest =>
    exact .grown hchecked (hswept _) (((hother .clientrpc _ (by decide)).trans
      (hother .provision _ (by decide))).trans (hota _)) (Nat.le_refl _)
  | clientrpc =>
    exact .grown (hchecked.trans (hother .attributesrequest _ (by decide))) (hswept _)
      ((hother .provision _ (by decide)).trans (hota _)) (Nat.le_refl _)
  | provision =>
    exact .grown ((hchecked.trans (hother .attributesrequest _ (by decide))).trans
      (hother .clientrpc _ (by decide))) (hswept _) (hota _) (Nat.le_refl _)

end ThingsboardMqtt
