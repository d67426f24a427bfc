import ThingsboardMqtt.Helper.Events
import ThingsboardMqtt.Helper.ServerRpc

set_option autoImplicit false

/-! # Server-side RPC in a run of the client

With the memory and the replies left out, the list of `ServerRpc` is the one of `Events`, as long as
there is memory for the copies of the methods; what a callback calls is the next thing the application
does (`Represents.serverrpcOnData`). -/

namespace ThingsboardMqtt

open Execution ListWalk LiveBuffers

variable {κ ρ : Type}

/-- The part of the client that server-side RPC reads and changes is the same. -/
structure Represents (rpc : RpcClient κ) (client : Client) : Prop where
  core : client.core = rpc.core
  methods : rpc.methods = client.serverrpcList.map some

theorem represents_init (now lastHandle : Nat) :
    Represents { rpcInit κ with core := ⟨.disconnected, 0, now, []⟩ } (tbcmhInit now lastHandle) :=
  ⟨rfl, rfl⟩

theorem core_subscribeFilled (topic : Topic) (isEmptyBefore isEmpty : Bool) (client : Client) :
    (subscribeFilled topic isEmptyBefore isEmpty client).core
      = if tbcmhIsConnected client.core && isEmptyBefore && !isEmpty then
          tbcmSubscribe client.core topic else client.core := by
  unfold subscribeFilled
  split <;> rfl

theorem core_unsubscribeDrained (topic : Topic) (isEmptyBefore isEmpty : Bool) (client : Client) :
    (unsubscribeDrained topic isEmptyBefore isEmpty client).core
      = if tbcmhIsConnected client.core && !isEmptyBefore && isEmpty then
          tbcmUnsubscribe client.core topic else client.core := by
  unfold unsubscribeDrained
  split <;> rfl

theorem core_setServerrpcList (client : Client) (list : List String) :
    ({ client with serverrpcList := list } : Client).core = client.core := rfl

theorem removeFirst_eq_erase (method : String) (list : List String) :
    removeFirst (fun entry => entry = method) list = list.erase method := by
  unfold removeFirst
  cases hsplit : splitFirst (fun entry => entry = method) list with
  | none =>
    have hother := splitFirst_eq_none hsplit
    exact (List.erase_of_not_mem fun hmem => absurd (hother method hmem) (by simp)).symm
  | some parts =>
    obtain ⟨front, entry, back⟩ := parts
    obtain ⟨rfl, hfits, hfront⟩ := splitFirst_eq_some hsplit
    obtain rfl : entry = method := of_decide_eq_true hfits
    have hnot : entry ∉ front := fun hmem => absurd (hfront entry hmem) (by simp)
    rw [List.erase_append_right _ hnot, List.erase_cons_head]

/-- Acts of the application, one after the other. -/
abbrev Acts : Client → Client → Prop := Relation.ReflTransGen (ActStep .any none)

theorem acts_single (act : Act) (client : Client) : Acts client (act.run client) :=
  .single ⟨act, trivial, rfl⟩

/-- An entry that is allocated has a copy of its method. -/
def RpcCall.copiesMethod : RpcCall κ → Bool
  | .subscribe _ allocated allocatesMethod _ _ => !allocated || allocatesMethod
  | .unsubscribe _ _ => true

namespace Represents

variable {rpc rpc' : RpcClient κ} {client : Client} (h : Represents rpc client)

include h

omit h in
theorem isEmpty_eq (h : Represents rpc client) :
    client.serverrpcList.isEmpty = rpc.serverrpcList.isEmpty := by
  have hlength := congrArg List.length h.methods
  rw [RpcClient.methods, List.length_map, List.length_map] at hlength
  rw [Bool.eq_iff_iff, List.isEmpty_iff_length_eq_zero, List.isEmpty_iff_length_eq_zero, hlength]

theorem subscribe {lockTaken allocated allocatesMethod : Bool} {method : Option String}
    {onRequest : Option κ} (hcopies : (RpcCall.subscribe lockTaken allocated allocatesMethod method
      onRequest).copiesMethod = true) :
    ∃ client', Acts client client' ∧ Represents (rpc.tbcmhServerrpcSubscribe lockTaken allocated
      allocatesMethod method onRequest).2 client' := by
  unfold RpcClient.tbcmhServerrpcSubscribe
  split
  · rename_i method onRequest
    cases allocated with
    | false => exact ⟨client, .refl, h.core, h.methods⟩
    | true =>
      obtain rfl : allocatesMethod = true := by simpa [RpcCall.copiesMethod] using hcopies
      obtain ⟨serverrpc, heap, hcreate, hname⟩ : ∃ serverrpc heap,
          serverrpcCreate true true method onRequest rpc.heap = (some serverrpc, heap) ∧
            serverrpc.name = some method := ⟨_, _, rfl, rfl⟩
      have hmethods := h.methods
      rw [RpcClient.methods] at hmethods
      rw [hcreate]
      refine ⟨_, acts_single (.serverrpcSubscribe method) client, ?_, ?_⟩
      · simp [Act.run, tbcmhServerrpcSubscribe, core_subscribeFilled, core_setServerrpcList, h.core,
          h.isEmpty_eq]
      · simp [Act.run, tbcmhServerrpcSubscribe, subscribeFilled_eq, RpcClient.methods, hmethods, hname]
  · exact ⟨client, .refl, h⟩

theorem unsubscribe {others : Multiset Nat} (howns : rpc.Owns others) {lockTaken : Bool}
    {method : Option String} {accepted : Bool}
    (hok : rpc.tbcmhServerrpcUnsubscribe lockTaken method = .ok (accepted, rpc')) :
    ∃ client', Acts client client' ∧ Represents rpc' client' := by
  unfold RpcClient.tbcmhServerrpcUnsubscribe at hok
  split at hok
  · rename_i method
    rw [howns.search] at hok
    split at hok
    swap
    · contradiction
    cases hsplit : splitFirst (fun serverrpc => serverrpc.name = some method) rpc.serverrpcList with
    | none =>
      rw [hsplit] at hok
      obtain ⟨-, rfl⟩ := Prod.mk.inj (Except.ok.inj hok)
      exact ⟨client, .refl, h⟩
    | some parts =>
      obtain ⟨front, serverrpc, back⟩ := parts
      have hremove : (front ++ back).map (·.name)
          = (removeFirst (fun entry => entry = method) client.serverrpcList).map some := by
        rw [map_name_erase hsplit, removeFirst_eq_erase,
          List.map_erase (Option.some_injective String), ← h.methods]
        rfl
      have hempty : (front ++ back).isEmpty
          = (removeFirst (fun entry => entry = method) client.serverrpcList).isEmpty := by
        have hboth := congrArg List.isEmpty hremove
        rwa [List.isEmpty_map, List.isEmpty_map] at hboth
      rw [hsplit] at hok
      simp only [Bind.bind, Except.bind] at hok
      split at hok
      · contradiction
      · obtain ⟨-, rfl⟩ := Prod.mk.inj (Except.ok.inj hok)
        refine ⟨_, acts_single (.serverrpcUnsubscribe method) client, ?_, ?_⟩
        · simp [Act.run, tbcmhServerrpcUnsubscribe, core_unsubscribeDrained, core_setServerrpcList,
            h.core, h.isEmpty_eq, hempty]
        · simp only [Act.run, tbcmhServerrpcUnsubscribe, unsubscribeDrained_eq]
          exact hremove
  · obtain ⟨-, rfl⟩ := Prod.mk.inj (Except.ok.inj hok)
    exact ⟨client, .refl, h⟩

theorem call {others : Multiset Nat} (howns : rpc.Owns others) {call : RpcCall κ}
    (hcopies : call.copiesMethod = true) {accepted : Bool}
    (hok : rpc.call call = .ok (accepted, rpc')) :
    ∃ client', Acts client client' ∧ Represents rpc' client' := by
  cases call with
  | subscribe lockTaken allocated allocatesMethod method onRequest =>
    have hacts := h.subscribe hcopies
    rw [show rpc' = _ from (Prod.mk.inj (Except.ok.inj hok)).2.symm]
    exact hacts
  | unsubscribe lockTaken method => exact h.unsubscribe howns hok

omit h in
theorem runCalls {others : Multiset Nat} {calls : List (RpcCall κ)}
    (hcopies : ∀ call ∈ calls, call.copiesMethod = true) :
    ∀ {rpc : RpcClient κ} {client : Client}, Represents rpc client → rpc.Owns others →
      rpc.runCalls calls = .ok rpc' → ∃ client', Acts client client' ∧ Represents rpc' client' := by
  induction calls with
  | nil =>
    intro rpc client h _ hok
    obtain rfl := Except.ok.inj hok
    exact ⟨client, .refl, h⟩
  | cons call rest ih =>
    intro rpc client h howns hok
    rw [List.forall_mem_cons] at hcopies
    rw [RpcClient.runCalls] at hok
    rcases RpcClient.call_cases howns call with ⟨-, accepted, rpc₁, hcall, heffect, -⟩ | ⟨-, hcall⟩
    · obtain ⟨client₁, hacts, h₁⟩ := h.call howns hcopies.1 hcall
      rw [hcall] at hok
      obtain ⟨client₂, hacts', h₂⟩ := ih hcopies.2 h₁ heffect.owns hok
      exact ⟨client₂, hacts.trans hacts', h₂⟩
    · rw [hcall] at hok
      contradiction

theorem answerRequest {json : RpcJson ρ} {answers : RpcAnswers κ ρ} {cache : Serverrpc κ}
    {requestId : UInt32} {params : Option Cjson} (howns : rpc.Owns ↑cache.buffers)
    (hcopies : ∀ onRequest request, ∀ call ∈ (answers.onRequest onRequest request).calls,
      call.copiesMethod = true)
    (hok : rpc.answerRequest json answers cache requestId params = .ok rpc') :
    ∃ client', Acts client client' ∧ Represents rpc' client' := by
  have hlogged : Represents (rpc.logCall cache.onRequest ⟨requestId, cache.name, params⟩) client :=
    ⟨h.core, h.methods⟩
  rw [RpcClient.answerRequest] at hok
  obtain ⟨⟨result, rpc₁⟩, hdone, hok⟩ := exists_of_bind_eq_ok hok
  obtain ⟨rpc₂, hsend, hok⟩ := exists_of_bind_eq_ok hok
  obtain ⟨heap, -, hok⟩ := exists_of_bind_eq_ok hok
  obtain rfl := Except.ok.inj hok
  rw [RpcClient.doRequest] at hdone
  obtain ⟨-, -, hdone⟩ := exists_of_bind_eq_ok hdone
  obtain ⟨rpc₃, hcalls, hdone⟩ := exists_of_bind_eq_ok hdone
  obtain rfl : rpc₃ = rpc₁ := by
    split at hdone
    · exact (Prod.mk.inj (Except.ok.inj hdone)).2
    · obtain ⟨-, -, hdone⟩ := exists_of_bind_eq_ok hdone
      exact (Prod.mk.inj (Except.ok.inj hdone)).2
  obtain ⟨client₁, hacts, h₁⟩ := hlogged.runCalls (hcopies _ _) howns hcalls
  obtain ⟨hcore, hlist⟩ := RpcClient.sendReply_keeps hsend
  refine ⟨client₁, hacts, h₁.core.trans hcore.symm, ?_⟩
  rw [← h₁.methods, RpcClient.methods, RpcClient.methods, hlist]

/-- A request is handled as in `Events`, and its callback makes the next calls of the application. -/
theorem serverrpcOnData (howns : rpc.Owns 0) {json : RpcJson ρ} {answers : RpcAnswers κ ρ}
    {requestId : UInt32} {object : Option Cjson} (hcache : answers.allocatesCache = true)
    (hcopies : ∀ onRequest request, ∀ call ∈ (answers.onRequest onRequest request).calls,
      call.copiesMethod = true)
    (hok : rpc.tbcmhServerrpcOnData json answers requestId object = .ok rpc') :
    ∃ client₁ client', tbcmhServerrpcOnData requestId.toNat object client = .ok client₁ ∧
      Acts client₁ client' ∧ Represents rpc' client' := by
  cases object with
  | none =>
    obtain rfl := Except.ok.inj hok
    exact ⟨client, client, rfl, .refl, h⟩
  | some object =>
    by_cases hnil : rpc.serverrpcList = []
    · have hnil' : client.serverrpcList = [] := by
        rw [← List.isEmpty_iff, h.isEmpty_eq, hnil]
        rfl
      rw [RpcClient.serverrpcOnData_nil json answers requestId _ hnil] at hok
      obtain rfl := Except.ok.inj hok
      exact ⟨client, client, by simp [tbcmhServerrpcOnData, hnil'], .refl, h⟩
    have hne : client.serverrpcList.isEmpty = false := by simp [h.isEmpty_eq, hnil]
    cases hmethod : RpcClient.requestMethod object with
    | none =>
      obtain ⟨fault, hdata⟩ := RpcClient.serverrpcOnData_null json answers requestId hmethod hnil
      rw [hdata] at hok
      contradiction
    | some method =>
      rw [RpcClient.tbcmhServerrpcOnData, hmethod, howns.search] at hok
      rw [RpcClient.requestMethod_eq] at hmethod
      split at hok
      swap
      · contradiction
      cases hsplit : splitFirst (fun serverrpc => serverrpc.name = some method)
          rpc.serverrpcList with
      | none =>
        have hunknown : method ∉ client.serverrpcList := by
          intro hmem
          refine not_mem_map_name hsplit ?_
          rw [← RpcClient.methods, h.methods]
          exact List.mem_map_of_mem hmem
        rw [hsplit] at hok
        obtain rfl := Except.ok.inj hok
        exact ⟨client, client, by simp [tbcmhServerrpcOnData, hne, hmethod, hunknown], .refl, h⟩
      | some parts =>
        obtain ⟨front, serverrpc, back⟩ := parts
        obtain ⟨hlist, hfits, -⟩ := splitFirst_eq_some hsplit
        have hmem : serverrpc ∈ rpc.serverrpcList := by simp [hlist]
        have hname : serverrpc.name = some method := of_decide_eq_true hfits
        have hknown : method ∈ client.serverrpcList := by
          have hmethods : some method ∈ rpc.methods := hname ▸ List.mem_map_of_mem hmem
          rw [h.methods] at hmethods
          simpa using hmethods
        obtain ⟨cache, heap, hclone, -, -, howned⟩ := RpcClient.cloneWoListentry_owned howns hmem
          hname answers requestId (object.getObjectItem "params")
        rw [hsplit] at hok
        simp only [Bind.bind, Except.bind, hcache, hclone] at hok
        have hlogged : Represents ({ rpc with heap := heap } : RpcClient κ)
            (client.log (.onRequest requestId.toNat method)) := ⟨h.core, h.methods⟩
        obtain ⟨client', hacts, h'⟩ := hlogged.answerRequest howned hcopies hok
        exact ⟨_, client', by simp [tbcmhServerrpcOnData, hne, hmethod, hknown], hacts, h'⟩

end Represents

end ThingsboardMqtt
