import Mathlib.Algebra.Order.Group.Multiset
import ThingsboardMqtt.Helper.Subscriptions
import ThingsboardMqtt.Library.Execution
import ThingsboardMqtt.Library.LinkedList
import ThingsboardMqtt.Library.OwnedSlots

set_option autoImplicit false

/-! # Subscribed attributes and their keys

`attributes_subscribe.c` once more, with the memory of the entries of `attributessubscribe_list` and of
their keys, and with an `on_update` that may subscribe and unsubscribe whatever it likes.

A key whose item cannot be allocated is left out, and a copy that cannot be allocated is `NULL`; an
entry that is left without keys is told of every update. The loop over the entries has saved the entry
behind the one whose `on_update` it calls, and reads it behind the call: it is gone when that `on_update`
has unsubscribed it. The header asks a callback to report such calls, which ends the loop, but behind an
entry without keys nobody reads the report (`subscriptions_of_run`). What `malloc` refuses shows in the
updates that are told (`told_as_asked_iff`). -/

namespace ThingsboardMqtt

open Execution LinkedList ListWalk LiveBuffers OwnedSlots

variable {κ : Type}

/-! ## Data -/

/-- `subscribekey_t`, with the copy of its key. -/
structure Subscribekey where
  addr : Nat
  key : Option (OwnedBlock String)
  deriving DecidableEq, Repr

/-- The buffers of an item, in the order they are freed. -/
def Subscribekey.buffers (subscribekey : Subscribekey) : List Nat :=
  (subscribekey.key.map (·.addr)).toList ++ [subscribekey.addr]

/-- `cJSON_HasObjectItem(object, subscribekey->key)`, which finds nothing under `NULL`. -/
def Subscribekey.isIn (object : Cjson) (subscribekey : Subscribekey) : Bool :=
  match subscribekey.key with
  | some key => object.hasObjectItem key.content
  | none => false

/-- `attributessubscribe_t`: where it is, `context` with `on_update`, and its keys. -/
structure SubscribeItem (κ : Type) where
  addr : Nat
  subscribeId : Nat
  keyList : List Subscribekey
  onUpdate : κ
  deriving DecidableEq, Repr

namespace SubscribeItem

/-- The buffers of an entry, in the order they are freed. -/
def buffers (item : SubscribeItem κ) : List Nat :=
  item.keyList.flatMap (·.buffers) ++ [item.addr]

/-- The `on_update` of an entry is due for an object. -/
def wants (object : Cjson) (item : SubscribeItem κ) : Bool :=
  item.keyList.isEmpty || item.keyList.any (·.isIn object)

end SubscribeItem

/-- The client, as far as subscribed attributes go: `called` are the calls of an `on_update`, oldest
    first. -/
structure SubscribeClient (κ : Type) where
  core : Core
  attributessubscribeList : List (SubscribeItem κ)
  lastSubscribeId : Nat
  heap : Heap
  called : List (κ × Cjson)

/-- An argument of a subscription, `none` for `NULL`; whether its item can be allocated, and the copy in
    it. -/
structure RequestedKey where
  key : Option String
  allocatesItem : Bool
  allocatesKey : Bool
  deriving DecidableEq, Repr

/-- `tbcmh_attributes_subscribe`, `tbcmh_attributes_subscribe_of_array` and
    `tbcmh_attributes_unsubscribe` with their arguments; whether the semaphore is taken before the
    timeout; and whether the entry can be allocated. -/
inductive SubscribeCall (κ : Type)
  | subscribe (lockTaken allocated : Bool) (onUpdate : Option κ) (keys : List RequestedKey)
  | unsubscribe (lockTaken : Bool) (subscribeId : Nat)

def SubscribeCall.unsubscribes : SubscribeCall κ → Bool
  | .subscribe .. => false
  | .unsubscribe .. => true

/-- What an `on_update` does: it calls the client, and then it returns. -/
structure UpdateReaction (κ : Type) where
  calls : List (SubscribeCall κ)
  result : Int

/-- What the callbacks do, each in the state it is called in. -/
abbrev UpdateReactions (κ : Type) := κ → Cjson → SubscribeClient κ → UpdateReaction κ

/-! ## Entries -/

/-- `_subscribekey_list_append` -/
def subscribekeyListAppend (requested : RequestedKey) (keyList : List Subscribekey) (heap : Heap) :
    List Subscribekey × Heap :=
  match requested.key with
  | none => (keyList, heap)
  | some key =>
    match heap.malloc requested.allocatesItem with
    | (none, heap) => (keyList, heap)
    | (some addr, heap) =>
      let (keyAddr, heap) := heap.malloc requested.allocatesKey
      (keyList ++ [⟨addr, keyAddr.map fun keyAddr => ⟨keyAddr, key⟩⟩], heap)

/-- "Append key", for all keys of a subscription. -/
def appendKeys : List RequestedKey → List Subscribekey → Heap → List Subscribekey × Heap
  | [], keyList, heap => (keyList, heap)
  | requested :: rest, keyList, heap =>
    let (keyList, heap) := subscribekeyListAppend requested keyList heap
    appendKeys rest keyList heap

/-- `_attributessubscribe_destroy` -/
def attributessubscribeDestroy (item : SubscribeItem κ) (heap : Heap) : Except BufferFault Heap :=
  heap.freeAll item.buffers

/-- `LIST_FOREACH_SAFE` up to the first entry with the id: the entries in front of it, it, and those
    behind. -/
def searchSubscribeId (heap : Heap) (subscribeId : Nat) :
    List (SubscribeItem κ) →
      Except BufferFault (Option (List (SubscribeItem κ) × SubscribeItem κ × List (SubscribeItem κ)))
  | [] => .ok none
  | item :: rest => do
    heap.access item.addr
    if item.subscribeId = subscribeId then .ok (some ([], item, rest))
    else do
      let found ← searchSubscribeId heap subscribeId rest
      .ok (found.map fun (front, found, back) => (item :: front, found, back))

namespace SubscribeClient

/-! ## Subscribing -/

/-- `tbcmh_attributes_subscribe` and `tbcmh_attributes_subscribe_of_array`: the id they return, `none`
    for `ESP_FAIL`. -/
def tbcmhAttributesSubscribe (lockTaken allocated : Bool) (onUpdate : Option κ)
    (keys : List RequestedKey) (client : SubscribeClient κ) : Option Nat × SubscribeClient κ :=
  match lockTaken, onUpdate with
  | true, some onUpdate =>
    match client.heap.malloc allocated with
    | (none, heap) => (none, { client with heap := heap })
    | (some addr, heap) =>
      let subscribeId := (client.lastSubscribeId + 1) % 2 ^ 32
      let (keyList, heap) := appendKeys keys [] heap
      let isEmptyBefore := client.attributessubscribeList.isEmpty
      let attributessubscribeList :=
        client.attributessubscribeList ++ [⟨addr, subscribeId, keyList, onUpdate⟩]
      let core :=
        if tbcmhIsConnected client.core && isEmptyBefore && !attributessubscribeList.isEmpty then
          tbcmSubscribe client.core .sharedAttributes
        else client.core
      (some subscribeId, { client with
        core := core
        attributessubscribeList := attributessubscribeList
        lastSubscribeId := subscribeId
        heap := heap })
  | _, _ => (none, client)

/-- `tbcmh_attributes_unsubscribe`: whether it returns `ESP_OK`. -/
def tbcmhAttributesUnsubscribe (lockTaken : Bool) (subscribeId : Nat) (client : SubscribeClient κ) :
    Except BufferFault (Bool × SubscribeClient κ) :=
  if !lockTaken then .ok (false, client)
  else do
    match ← searchSubscribeId client.heap subscribeId client.attributessubscribeList with
    | none => .ok (true, client) -- the list is what it was, and so is the topic
    | some (front, item, back) => do
      let heap ← attributessubscribeDestroy item client.heap
      let isEmptyBefore := client.attributessubscribeList.isEmpty
      let attributessubscribeList := front ++ back
      let core :=
        if tbcmhIsConnected client.core && !isEmptyBefore && attributessubscribeList.isEmpty then
          tbcmUnsubscribe client.core .sharedAttributes
        else client.core
      .ok (true, { client with
        core := core
        attributessubscribeList := attributessubscribeList
        heap := heap })

/-- A call, whose result the caller may read. -/
def call (client : SubscribeClient κ) : SubscribeCall κ → Except BufferFault (SubscribeClient κ)
  | .subscribe lockTaken allocated onUpdate keys =>
    .ok (client.tbcmhAttributesSubscribe lockTaken allocated onUpdate keys).2
  | .unsubscribe lockTaken subscribeId => do
    let (_, client) ← client.tbcmhAttributesUnsubscribe lockTaken subscribeId
    .ok client

/-- The calls of a callback. -/
def runCalls (client : SubscribeClient κ) :
    List (SubscribeCall κ) → Except BufferFault (SubscribeClient κ)
  | [] => .ok client
  | call :: rest => do
    let client ← client.call call
    client.runCalls rest

/-! ## Updates -/

/-- `attributessubscribe->on_update(..)` -/
def callOnUpdate (reactions : UpdateReactions κ) (object : Cjson) (item : SubscribeItem κ)
    (client : SubscribeClient κ) : Except (WalkFault BufferFault) (Int × SubscribeClient κ) := do
  let client := { client with called := client.called ++ [(item.onUpdate, object)] }
  let reaction := reactions item.onUpdate object client
  let client ← (client.runCalls reaction.calls).mapError .body
  .ok (reaction.result, client)

/-- One round of `_tbcmh_attributessubscribe_on_data`, with the `result` it has so far. -/
def round (reactions : UpdateReactions κ) (object : Cjson) (item : SubscribeItem κ)
    (s : Int × SubscribeClient κ) :
    Except (WalkFault BufferFault) (Flow × (Int × SubscribeClient κ)) :=
  if item.keyList.isEmpty then do
    let (_, client) ← callOnUpdate reactions object item s.2
    .ok (.next, (s.1, client))
  else if item.keyList.any (·.isIn object) then do
    let (result, client) ← callOnUpdate reactions object item s.2
    if result = 2 then .ok (.leave, (2, client))
    else if result = 1 then .ok (.leave, (1, client))
    else .ok (.next, (result, client))
  else .ok (.next, s)

/-- `_tbcmh_attributessubscribe_on_data`, for some rounds at most. -/
def tbcmhAttributessubscribeOnData (rounds : Nat) (reactions : UpdateReactions κ)
    (object : Option Cjson) (client : SubscribeClient κ) :
    Except (WalkFault BufferFault) (Int × SubscribeClient κ) :=
  match object with
  | none => .ok (0, client)
  | some object => do
    let (_, result) ← foreachSafe (fun s => s.2.attributessubscribeList) (·.addr)
      (round reactions object) rounds (client.attributessubscribeList.head?.map (·.addr)) (0, client)
    .ok result

/-- `_tbcmh_attributessubscribe_on_destroy` -/
def tbcmhAttributessubscribeOnDestroy (client : SubscribeClient κ) :
    Except BufferFault (SubscribeClient κ) := do
  let heap ← client.heap.freeAll (client.attributessubscribeList.flatMap (·.buffers))
  .ok { client with
    attributessubscribeList := []
    heap := heap }

end SubscribeClient

/-! ## Runs -/

/-- A call of the application, an update that is handled, or what others do: the connection changes, and
    `_subscribe_id`, which is static, counts the subscriptions of all clients. -/
inductive SubscribeInput (κ : Type)
  | call (call : SubscribeCall κ)
  | data (rounds : Nat) (reactions : UpdateReactions κ) (object : Option Cjson)
  | others (core : Core) (lastSubscribeId : Nat)

/-- `tbcmh_init` -/
def subscribeInit (κ : Type) : SubscribeClient κ where
  core := ⟨.disconnected, 0, 0, []⟩
  attributessubscribeList := []
  lastSubscribeId := 0
  heap := .empty
  called := []

def subscribeStep (client : SubscribeClient κ) :
    SubscribeInput κ → Except (WalkFault BufferFault) (SubscribeClient κ)
  | .call call => (client.call call).mapError .body
  | .data rounds reactions object => do
    let (_, client) ← client.tbcmhAttributessubscribeOnData rounds reactions object
    .ok client
  | .others core lastSubscribeId =>
    .ok { client with
      core := core
      lastSubscribeId := lastSubscribeId }

/-! ## Entries and their buffers -/

/-- The buffers of a list. -/
def subscribeBuffers (list : List (SubscribeItem κ)) : Multiset Nat := ↑(list.flatMap (·.buffers))

theorem subscribeBuffers_append_cons (front : List (SubscribeItem κ)) (item : SubscribeItem κ)
    (back : List (SubscribeItem κ)) : subscribeBuffers (front ++ item :: back)
      = ↑item.buffers + subscribeBuffers (front ++ back) := by
  simp only [subscribeBuffers, List.flatMap_append, List.flatMap_cons, ← Multiset.coe_add]
  exact add_left_comm _ _ _

theorem addr_sublist_buffers (list : List (SubscribeItem κ)) :
    (list.map (·.addr)).Sublist (list.flatMap (·.buffers)) := by
  induction list with
  | nil => exact List.Sublist.refl _
  | cons item rest ih =>
    rw [List.map_cons, List.flatMap_cons, SubscribeItem.buffers, List.append_assoc]
    exact (List.Sublist.cons_cons item.addr ih).trans (List.sublist_append_right _ _)

theorem subscribekeyListAppend_accounts {keyList : List Subscribekey} {heap : Heap}
    {others : Multiset Nat} (requested : RequestedKey)
    (h : Accounts heap (↑(keyList.flatMap (·.buffers)) + others)) :
    Accounts (subscribekeyListAppend requested keyList heap).2
      (↑((subscribekeyListAppend requested keyList heap).1.flatMap (·.buffers)) + others) := by
  obtain ⟨key, allocatesItem, allocatesKey⟩ := requested
  cases key with
  | none => exact h
  | some key =>
    cases allocatesItem with
    | false => exact h
    | true =>
      obtain ⟨addr, heap₁, hmalloc, h₁⟩ := h.malloc
      cases allocatesKey with
      | false =>
        have hnone : heap₁.malloc false = (none, heap₁) := rfl
        simp only [subscribekeyListAppend, hmalloc, hnone]
        rw [List.flatMap_append, List.flatMap_singleton, ← Multiset.coe_add, add_right_comm,
          add_comm]
        exact h₁
      | true =>
        obtain ⟨keyAddr, heap₂, hmallocKey, h₂⟩ := h₁.malloc
        simp only [subscribekeyListAppend, hmalloc, hmallocKey]
        rw [List.flatMap_append, List.flatMap_singleton, ← Multiset.coe_add, add_right_comm,
          add_comm]
        simp only [Subscribekey.buffers, Option.map_some, Option.toList_some, List.singleton_append,
          ← Multiset.cons_coe, Multiset.coe_nil, Multiset.cons_add, zero_add]
        exact h₂

theorem appendKeys_accounts {others : Multiset Nat} (keys : List RequestedKey) :
    ∀ {keyList : List Subscribekey} {heap : Heap},
      Accounts heap (↑(keyList.flatMap (·.buffers)) + others) →
      Accounts (appendKeys keys keyList heap).2
        (↑((appendKeys keys keyList heap).1.flatMap (·.buffers)) + others) := by
  induction keys with
  | nil => exact fun h => h
  | cons requested rest ih => exact fun h => ih (subscribekeyListAppend_accounts requested h)

theorem searchSubscribeId_eq {heap : Heap} {list : List (SubscribeItem κ)}
    (hlive : ∀ item ∈ list, heap.access item.addr = .ok ()) (subscribeId : Nat) :
    searchSubscribeId heap subscribeId list
      = .ok (splitFirst (fun item => item.subscribeId = subscribeId) list) := by
  induction list with
  | nil => rfl
  | cons item rest ih =>
    rw [List.forall_mem_cons] at hlive
    simp only [searchSubscribeId, hlive.1, ih hlive.2, splitFirst, bind, Except.bind,
      decide_eq_true_eq]
    split <;> rfl

namespace SubscribeClient

/-! ## Who owns the buffers -/

/-- The live buffers are those of the entries, each of one. -/
def Owns (client : SubscribeClient κ) : Prop :=
  Accounts client.heap (subscribeBuffers client.attributessubscribeList)

theorem Owns.nodup {client : SubscribeClient κ} (h : client.Owns) :
    (client.attributessubscribeList.map (·.addr)).Nodup :=
  (Multiset.coe_nodup.mp (Accounts.nodup h)).sublist (addr_sublist_buffers _)

theorem Owns.live {client : SubscribeClient κ} (h : client.Owns) :
    ∀ item ∈ client.attributessubscribeList, client.heap.access item.addr = .ok () := by
  intro item hmem
  refine Accounts.access_of_mem h ?_
  exact Multiset.mem_coe.mpr ((addr_sublist_buffers _).subset (List.mem_map_of_mem hmem))

theorem Owns.subscribe {client : SubscribeClient κ} (h : client.Owns) (lockTaken allocated : Bool)
    (onUpdate : Option κ) (keys : List RequestedKey) :
    (client.tbcmhAttributesSubscribe lockTaken allocated onUpdate keys).2.Owns ∧
      client.attributessubscribeList <+:
        (client.tbcmhAttributesSubscribe lockTaken allocated onUpdate keys).2.attributessubscribeList :=
    by
  unfold tbcmhAttributesSubscribe
  split
  · cases allocated with
    | false => exact ⟨h, List.prefix_refl _⟩
    | true =>
      obtain ⟨addr, heap₁, hmalloc, h₁⟩ := Accounts.malloc h
      rw [hmalloc]
      refine ⟨?_, List.prefix_append _ _⟩
      have hkeys : Accounts (appendKeys keys [] heap₁).2
          (↑((appendKeys keys [] heap₁).1.flatMap (·.buffers))
            + addr ::ₘ subscribeBuffers client.attributessubscribeList) := by
        refine appendKeys_accounts keys ?_
        rwa [List.flatMap_nil, Multiset.coe_nil, zero_add]
      rw [Owns, subscribeBuffers_append_cons, List.append_nil, SubscribeItem.buffers, ← Multiset.coe_add,
        add_assoc]
      exact hkeys
  · exact ⟨h, List.prefix_refl _⟩

theorem Owns.unsubscribe {client : SubscribeClient κ} (h : client.Owns) (lockTaken : Bool)
    (subscribeId : Nat) :
    ∃ accepted client', client.tbcmhAttributesUnsubscribe lockTaken subscribeId
        = .ok (accepted, client') ∧ client'.Owns := by
  unfold tbcmhAttributesUnsubscribe
  split
  · exact ⟨false, client, rfl, h⟩
  · rw [searchSubscribeId_eq h.live]
    cases hsplit : splitFirst (fun item => decide (item.subscribeId = subscribeId))
        client.attributessubscribeList with
    | none => exact ⟨true, client, rfl, h⟩
    | some parts =>
      obtain ⟨front, item, back⟩ := parts
      obtain ⟨hlist, -, -⟩ := splitFirst_eq_some hsplit
      rw [Owns, hlist, subscribeBuffers_append_cons] at h
      obtain ⟨heap', hfree, hothers⟩ := Accounts.freeAll h
      simp only [attributessubscribeDestroy, hfree, bind, Except.bind]
      exact ⟨true, _, rfl, hothers⟩

theorem Owns.call {client : SubscribeClient κ} (h : client.Owns) (call : SubscribeCall κ) :
    ∃ client', client.call call = .ok client' ∧ client'.Owns ∧
      (call.unsubscribes = false →
        client.attributessubscribeList <+: client'.attributessubscribeList) := by
  cases call with
  | subscribe lockTaken allocated onUpdate keys =>
    obtain ⟨howns, hgrown⟩ := h.subscribe lockTaken allocated onUpdate keys
    exact ⟨_, rfl, howns, fun _ => hgrown⟩
  | unsubscribe lockTaken subscribeId =>
    obtain ⟨accepted, client', hcall, howns⟩ := h.unsubscribe lockTaken subscribeId
    refine ⟨client', ?_, howns, fun hnone => absurd hnone (by simp [SubscribeCall.unsubscribes])⟩
    rw [SubscribeClient.call, hcall]
    rfl

theorem Owns.runCalls (calls : List (SubscribeCall κ)) :
    ∀ {client : SubscribeClient κ}, client.Owns →
      ∃ client', client.runCalls calls = .ok client' ∧ client'.Owns ∧
        ((∀ call ∈ calls, call.unsubscribes = false) →
          client.attributessubscribeList <+: client'.attributessubscribeList) := by
  induction calls with
  | nil => exact fun h => ⟨_, rfl, h, fun _ => List.prefix_refl _⟩
  | cons call rest ih =>
    intro client h
    obtain ⟨client₁, hcall, h₁, hgrown₁⟩ := h.call call
    obtain ⟨client₂, hrest, h₂, hgrown₂⟩ := ih h₁
    refine ⟨client₂, ?_, h₂, ?_⟩
    · rw [SubscribeClient.runCalls, hcall]
      exact hrest
    · intro hnone
      rw [List.forall_mem_cons] at hnone
      exact (hgrown₁ hnone.1).trans (hgrown₂ hnone.2)

/-! ## The loop -/

variable (reactions : UpdateReactions κ) (object : Cjson)

/-- An `on_update` that unsubscribes something reports it, as the header asks. -/
def Reports (reactions : UpdateReactions κ) : Prop :=
  ∀ onUpdate object client, (∃ call ∈ (reactions onUpdate object client).calls,
    call.unsubscribes = true) → (reactions onUpdate object client).result = 1

theorem Owns.callOnUpdate {client : SubscribeClient κ} (h : client.Owns) (item : SubscribeItem κ) :
    ∃ result client', SubscribeClient.callOnUpdate reactions object item client
        = .ok (result, client') ∧ client'.Owns ∧
      (Reports reactions → result ≠ 1 →
        client.attributessubscribeList <+: client'.attributessubscribeList) := by
  let called : SubscribeClient κ := { client with called := client.called ++ [(item.onUpdate, object)] }
  have hcalled : called.Owns := h
  obtain ⟨client', hcalls, howns, hgrown⟩ :=
    Owns.runCalls (reactions item.onUpdate object called).calls hcalled
  refine ⟨(reactions item.onUpdate object called).result, client', ?_, howns, ?_⟩
  · simp only [SubscribeClient.callOnUpdate, called] at hcalls ⊢
    rw [hcalls]
    rfl
  · intro hreports hresult
    refine hgrown ?_
    intro call hmem
    rw [Bool.eq_false_iff]
    intro hunsubscribes
    exact hresult (hreports _ _ _ ⟨call, hmem, hunsubscribes⟩)

/-- A round does not fail, and behind one that goes on, an entry with keys has left the list as it is
    when its callbacks report what they call. -/
theorem Owns.round {s : Int × SubscribeClient κ} (h : s.2.Owns) (item : SubscribeItem κ) :
    ∃ flow s', SubscribeClient.round reactions object item s = .ok (flow, s') ∧ s'.2.Owns ∧
      (Reports reactions → item.keyList ≠ [] → flow = .next →
        s.2.attributessubscribeList <+: s'.2.attributessubscribeList) := by
  obtain ⟨result, client', hupdate, howns, hgrown⟩ :=
    h.callOnUpdate reactions object item
  simp only [SubscribeClient.round]
  split
  · rename_i hempty
    refine ⟨.next, (s.1, client'), ?_, howns, ?_⟩
    · rw [hupdate]
      rfl
    · intro _ hkeys
      exact absurd (List.isEmpty_iff.mp hempty) hkeys
  · split
    · simp only [hupdate, bind, Except.bind]
      split
      · exact ⟨.leave, _, rfl, howns, fun _ _ hnext => absurd hnext (by simp)⟩
      · split
        · exact ⟨.leave, _, rfl, howns, fun _ _ hnext => absurd hnext (by simp)⟩
        · rename_i hone
          exact ⟨.next, _, rfl, howns, fun hreports _ _ => hgrown hreports hone⟩
    · exact ⟨.next, s, rfl, h, fun _ _ _ => List.prefix_refl _⟩

theorem owns_of_round (item : SubscribeItem κ) (s : Int × SubscribeClient κ) (flow : Flow)
    (s' : Int × SubscribeClient κ) (h : s.2.Owns) (_ : item ∈ s.2.attributessubscribeList)
    (hround : SubscribeClient.round reactions object item s = .ok (flow, s')) : s'.2.Owns := by
  obtain ⟨flow₁, s₁, hround₁, howns₁, -⟩ := h.round reactions object item
  obtain ⟨-, rfl⟩ := Prod.mk.inj (Except.ok.inj (hround₁.symm.trans hround))
  exact howns₁

/-- The `on_update` of the entry unsubscribes the one behind it, and the loop goes on. -/
def Overtaken (client : SubscribeClient κ) (item : SubscribeItem κ) : Prop :=
  Overtakes (fun s : Int × SubscribeClient κ => s.2.attributessubscribeList) (·.addr)
    (SubscribeClient.round reactions object) (0, client) item

theorem freed_iff_overtaken {client : SubscribeClient κ} (h : client.Owns) :
    (∃ rounds, client.tbcmhAttributessubscribeOnData rounds reactions (some object)
      = .error .freed) ↔ ∃ item, Overtaken reactions object client item := by
  have hnodup : ∀ s : Int × SubscribeClient κ, s.2.Owns →
      (s.2.attributessubscribeList.map (·.addr)).Nodup := fun _ howns => howns.nodup
  have hbody : ∀ (item : SubscribeItem κ) (s : Int × SubscribeClient κ), s.2.Owns →
      SubscribeClient.round reactions object item s ≠ .error .freed := by
    intro item s howns hfreed
    obtain ⟨flow, s', hround, -⟩ := howns.round reactions object item
    rw [hround] at hfreed
    contradiction
  have hloop := foreachSafe_freed_iff hnodup (owns_of_round reactions object) hbody
    (show (0, client).2.Owns from h)
  refine Iff.trans (exists_congr ?_) hloop
  intro rounds
  simp only [tbcmhAttributessubscribeOnData]
  generalize foreachSafe _ _ _ _ _ _ = outcome
  cases outcome with
  | error fault => simp [bind, Except.bind]
  | ok last => simp [bind, Except.bind]

/-- An update is handled, or a freed entry is read, or the callbacks subscribe on and on. -/
theorem Owns.data {client : SubscribeClient κ} (h : client.Owns) (rounds : Nat) :
    (∃ result client', client.tbcmhAttributessubscribeOnData rounds reactions (some object)
      = .ok (result, client') ∧ client'.Owns) ∨
    client.tbcmhAttributessubscribeOnData rounds reactions (some object) = .error .freed ∨
    client.tbcmhAttributessubscribeOnData rounds reactions (some object) = .error .endless := by
  have hbody : ∀ (item : SubscribeItem κ) (s : Int × SubscribeClient κ), s.2.Owns →
      ∃ result, SubscribeClient.round reactions object item s = .ok result := by
    intro item s howns
    obtain ⟨flow, s', hround, -⟩ := howns.round reactions object item
    exact ⟨_, hround⟩
  simp only [tbcmhAttributessubscribeOnData]
  rcases foreachSafe_outcome (owns_of_round reactions object) hbody
    (show (0, client).2.Owns from h) with ⟨flow, s', hloop, howns⟩ | hfreed | hendless
  · rw [hloop]
    exact .inl ⟨s'.1, s'.2, rfl, howns⟩
  · rw [hfreed]
    exact .inr (.inl rfl)
  · rw [hendless]
    exact .inr (.inr rfl)

/-- Who takes out the entry behind its own has no keys, when the callbacks report what they call. -/
theorem keyList_of_overtaken {client : SubscribeClient κ} (h : client.Owns)
    (hreports : Reports reactions) {item : SubscribeItem κ}
    (hovertaken : Overtaken reactions object client item) : item.keyList = [] := by
  obtain ⟨done, front, next, back, mid, last, visits, hcells, hround, hmissing⟩ := hovertaken
  have hmid : mid.2.Owns :=
    visits.invariant (owns_of_round reactions object) (show (0, client).2.Owns from h)
  obtain ⟨flow₁, s₁, hround₁, -, hgrown⟩ := hmid.round reactions object item
  obtain ⟨rfl, rfl⟩ := Prod.mk.inj (Except.ok.inj (hround₁.symm.trans hround))
  by_contra hkeys
  have hnext : next ∈ mid.2.attributessubscribeList := by
    dsimp only at hcells
    rw [hcells]
    exact List.mem_append_right _ (List.mem_cons_of_mem _ List.mem_cons_self)
  exact hmissing (List.mem_map_of_mem ((hgrown hreports hkeys rfl).subset hnext))

theorem Owns.destroy {client : SubscribeClient κ} (h : client.Owns) :
    ∃ client', client.tbcmhAttributessubscribeOnDestroy = .ok client' ∧ client'.heap.live = ∅ := by
  rw [Owns, ← add_zero (subscribeBuffers _)] at h
  obtain ⟨heap', hfree, hnone⟩ := Accounts.freeAll h
  refine ⟨{ client with attributessubscribeList := [], heap := heap' }, ?_, ?_⟩
  · rw [tbcmhAttributessubscribeOnDestroy, hfree]
    rfl
  · exact Finset.val_eq_zero.mp hnone

end SubscribeClient

/-! ## Reachable states -/

open SubscribeClient

/-- What holds of the subscriptions in a state, and of what is done with them next. -/
structure SubscriptionsKept (client : SubscribeClient κ) : Prop where
  owns : client.Owns
  calls : ∀ call, ∃ client', client.call call = .ok client'
  data : ∀ rounds reactions object,
    (∃ result client', client.tbcmhAttributessubscribeOnData rounds reactions (some object)
      = .ok (result, client')) ∨
    client.tbcmhAttributessubscribeOnData rounds reactions (some object) = .error .freed ∨
    client.tbcmhAttributessubscribeOnData rounds reactions (some object) = .error .endless
  freed : ∀ reactions object,
    (∃ rounds, client.tbcmhAttributessubscribeOnData rounds reactions (some object)
      = .error .freed) ↔ ∃ item, Overtaken reactions object client item
  keyless : ∀ reactions object item, Reports reactions →
    Overtaken reactions object client item → item.keyList = []
  destroyed : ∃ client', client.tbcmhAttributessubscribeOnDestroy = .ok client' ∧
    client'.heap.live = ∅

theorem owns_subscribeStep {client client' : SubscribeClient κ} {input : SubscribeInput κ}
    (h : client.Owns) (hok : subscribeStep client input = .ok client') : client'.Owns := by
  cases input with
  | call call =>
    obtain ⟨client₁, hcall, howns, -⟩ := h.call call
    rw [subscribeStep, hcall] at hok
    obtain rfl := Except.ok.inj hok
    exact howns
  | others core lastSubscribeId =>
    obtain rfl := Except.ok.inj hok
    exact h
  | data rounds reactions object =>
    cases object with
    | none =>
      obtain rfl := Except.ok.inj hok
      exact h
    | some object =>
      rw [subscribeStep] at hok
      rcases h.data reactions object rounds with ⟨result, client₁, hdata, howns⟩ | hfault | hfault
      · rw [hdata] at hok
        obtain rfl := Except.ok.inj hok
        exact howns
      · rw [hfault] at hok
        contradiction
      · rw [hfault] at hok
        contradiction

/-- **Subscriptions and their memory.** In every run, with any `malloc` failing and callbacks that
    subscribe and unsubscribe what they like: every live buffer belongs to one entry, a call of the
    client never touches a freed one, and handling an update reads a freed entry exactly when an
    `on_update`, behind which the loop goes on, has unsubscribed the entry behind its own; where the
    callbacks report what they unsubscribe, this is one of an entry that has no keys. Destroying the
    client frees everything. -/
theorem subscriptions_of_run {inputs : List (SubscribeInput κ)} {client : SubscribeClient κ}
    (run : Run (Succeeds subscribeStep) (subscribeInit κ) inputs client) :
    SubscriptionsKept client := by
  have howns : client.Owns :=
    run.invariant (show (subscribeInit κ).Owns from Accounts.empty)
      fun _ _ _ h hstep => owns_subscribeStep h hstep
  refine ⟨howns, ?_, ?_, ?_, ?_, howns.destroy⟩
  · intro call
    obtain ⟨client', hcall, -⟩ := howns.call call
    exact ⟨client', hcall⟩
  · intro rounds reactions object
    refine (howns.data reactions object rounds).imp_left ?_
    rintro ⟨result, client', hdata, -⟩
    exact ⟨result, client', hdata⟩
  · exact fun reactions object => freed_iff_overtaken reactions object howns
  · exact fun reactions object item hreports => keyList_of_overtaken reactions object howns hreports

/-- An entry without keys in front of one with a key. -/
def keylessFirst : List (SubscribeInput Nat) :=
  [.call (.subscribe true true (some 0) []), .call (.subscribe true true (some 1) [⟨"a", true, true⟩])]

/-- The second `on_update` unsubscribes its own entry, and reports it. -/
def unsubscribeOwn : UpdateReactions Nat := fun onUpdate _ _ =>
  if onUpdate = 1 then ⟨[.unsubscribe true 2], 1⟩ else ⟨[], 0⟩

/-- Behind these two, a subscription whose key has no copy and one that has no memory at all; then an
    update takes out the second entry, and a call the first. -/
def busySubscriptions : List (SubscribeInput Nat) :=
  keylessFirst ++
    [.call (.subscribe true true (some 2) [⟨"b", true, false⟩]), .call (.subscribe true false (some 3) []),
      .data 3 unsubscribeOwn (some (.object [("a", .null)])), .call (.unsubscribe true 1)]

/-- The entry that is left, without the copy of its key, has its memory to itself. -/
theorem subscriptions_of_run_busySubscriptions :
    SubscriptionsKept (busySubscriptions.foldl (advance subscribeStep) (subscribeInit Nat)) :=
  subscriptions_of_run (run_of_succeeds (by decide +kernel))

example : (busySubscriptions.foldl (advance subscribeStep) (subscribeInit Nat)
    ).attributessubscribeList = [⟨5, 3, [⟨6, none⟩], 2⟩] := by
  decide +kernel

/-- The first `on_update` unsubscribes the second entry, and reports it. -/
def unsubscribeSecond : UpdateReactions Nat := fun onUpdate _ _ =>
  if onUpdate = 0 then ⟨[.unsubscribe true 2], 1⟩ else ⟨[], 0⟩

example : ((keylessFirst.foldl (advance subscribeStep) (subscribeInit Nat)
    ).tbcmhAttributessubscribeOnData 2 unsubscribeSecond (some (.object []))).isOk = false := by
  decide +kernel

/-! ## What is asked for, and what is told -/

/-- The keys that were given. -/
def askedKeys (keys : List RequestedKey) : List String := keys.filterMap (·.key)

/-- The keys of which there is a copy. -/
def storedKeys (keyList : List Subscribekey) : List String :=
  keyList.filterMap fun subscribekey => subscribekey.key.map (·.content)

/-- An update is asked for: all are, without keys, and else those that have one of the keys. -/
def asks (object : Cjson) (keys : List RequestedKey) : Bool :=
  (askedKeys keys).isEmpty || (askedKeys keys).any object.hasObjectItem

theorem any_isIn (object : Cjson) (keyList : List Subscribekey) :
    keyList.any (·.isIn object) = (storedKeys keyList).any object.hasObjectItem := by
  induction keyList with
  | nil => rfl
  | cons subscribekey rest ih =>
    rw [List.any_cons, ih, Subscribekey.isIn]
    cases hkey : subscribekey.key with
    | none => simp [storedKeys, hkey]
    | some key => simp [storedKeys, hkey]

theorem subscribekeyListAppend_keys (requested : RequestedKey) (keyList : List Subscribekey)
    (heap : Heap) :
    ∃ added, (subscribekeyListAppend requested keyList heap).1 = keyList ++ added ∧
      (requested.key = none → added = []) ∧
      ∀ stored ∈ storedKeys added, requested.key = some stored := by
  obtain ⟨key, allocatesItem, allocatesKey⟩ := requested
  have hnone : ∃ added : List Subscribekey, keyList = keyList ++ added ∧ (key = none → added = []) ∧
      ∀ stored ∈ storedKeys added, key = some stored :=
    ⟨[], (List.append_nil _).symm, fun _ => rfl, by simp [storedKeys]⟩
  cases key with
  | none => exact hnone
  | some key =>
    cases allocatesItem with
    | false => exact hnone
    | true =>
      refine ⟨[⟨heap.lastAddr + 1, ((heap.malloc true).2.malloc allocatesKey).1.map
        fun keyAddr => ⟨keyAddr, key⟩⟩], rfl, fun h => absurd h (by simp), ?_⟩
      intro stored hmem
      generalize ((heap.malloc true).2.malloc allocatesKey).1 = keyAddr at hmem
      cases keyAddr with
      | none => simp [storedKeys] at hmem
      | some keyAddr => simpa [storedKeys, eq_comm] using hmem

theorem appendKeys_keys (keys : List RequestedKey) :
    ∀ (keyList : List Subscribekey) (heap : Heap),
      ∃ added, (appendKeys keys keyList heap).1 = keyList ++ added ∧
        (askedKeys keys = [] → added = []) ∧
        ∀ stored ∈ storedKeys added, stored ∈ askedKeys keys := by
  induction keys with
  | nil => exact fun keyList heap => ⟨[], (List.append_nil _).symm, fun _ => rfl, by simp [storedKeys]⟩
  | cons requested rest ih =>
    intro keyList heap
    obtain ⟨first, hfirst, hfirstNone, hfirstKeys⟩ :=
      subscribekeyListAppend_keys requested keyList heap
    obtain ⟨others, hothers, hothersNone, hothersKeys⟩ :=
      ih (subscribekeyListAppend requested keyList heap).1
        (subscribekeyListAppend requested keyList heap).2
    refine ⟨first ++ others, ?_, ?_, ?_⟩
    · rw [← List.append_assoc, ← hfirst, ← hothers]
      rfl
    · intro hnone
      rw [askedKeys, List.filterMap_cons] at hnone
      cases hkey : requested.key with
      | none =>
        rw [hkey] at hnone
        rw [hfirstNone hkey, hothersNone hnone, List.append_nil]
      | some key => simp [hkey] at hnone
    · intro stored hmem
      rw [storedKeys, List.filterMap_append, List.mem_append] at hmem
      rcases hmem with hmem | hmem
      · exact List.mem_filterMap.mpr ⟨requested, List.mem_cons_self, hfirstKeys stored hmem⟩
      · obtain ⟨asked, hasked, hkey⟩ := List.mem_filterMap.mp (hothersKeys stored hmem)
        exact List.mem_filterMap.mpr ⟨asked, List.mem_cons_of_mem _ hasked, hkey⟩

theorem hasObjectItem_congr {name other : String} (h : strcaseEq name other = true) (object : Cjson) :
    object.hasObjectItem name = object.hasObjectItem other := by
  have hlower : name.toList.map Char.toLower = other.toList.map Char.toLower := beq_iff_eq.mp h
  cases object with
  | object members => simp only [Cjson.hasObjectItem, Cjson.getObjectItem, strcaseEq, hlower]
  | null | bool | number | string | array => rfl

theorem hasObjectItem_singleton (name other : String) :
    (Cjson.object [(other, .null)]).hasObjectItem name = strcaseEq name other := by
  rw [Cjson.hasObjectItem, Cjson.getObjectItem, List.find?_cons]
  cases strcaseEq name other <;> rfl

/-- An entry with some of the keys that were given is told as asked when it has all of them. -/
theorem wants_eq_asks_iff {keys : List RequestedKey} {item : SubscribeItem κ}
    (hnone : askedKeys keys = [] → item.keyList = [])
    (hkeys : ∀ stored ∈ storedKeys item.keyList, stored ∈ askedKeys keys) :
    (∀ object, item.wants object = asks object keys) ↔
      ∀ key ∈ askedKeys keys, ∃ stored ∈ storedKeys item.keyList, strcaseEq stored key = true := by
  constructor
  · intro hall key hkey
    have hasked : (askedKeys keys).isEmpty = false :=
      List.isEmpty_eq_false_iff.mpr (List.ne_nil_of_mem hkey)
    -- an entry without keys would be told of an object without members
    have hempty : asks (.object []) keys = false := by
      rw [asks, hasked, Bool.false_or, List.any_eq_false]
      exact fun name _ => Bool.false_ne_true
    have hitem : item.keyList.isEmpty = false := by
      rw [← hall, SubscribeItem.wants, Bool.or_eq_false_iff] at hempty
      exact hempty.1
    have hasks : asks (.object [(key, .null)]) keys = true := by
      rw [asks, hasked, Bool.false_or, List.any_eq_true]
      exact ⟨key, hkey, by simp [hasObjectItem_singleton, strcaseEq]⟩
    rw [← hall, SubscribeItem.wants, hitem, Bool.false_or, any_isIn, List.any_eq_true] at hasks
    obtain ⟨stored, hstored, htold⟩ := hasks
    exact ⟨stored, hstored, by rwa [hasObjectItem_singleton] at htold⟩
  · intro hall object
    by_cases hasked : askedKeys keys = []
    · rw [SubscribeItem.wants, asks, hasked, hnone hasked]
      rfl
    · obtain ⟨key, hkey⟩ := List.exists_mem_of_ne_nil _ hasked
      have hitem : item.keyList.isEmpty = false := by
        rw [List.isEmpty_eq_false_iff]
        rintro hnil
        obtain ⟨stored, hstored, -⟩ := hall key hkey
        rw [hnil] at hstored
        exact List.not_mem_nil hstored
      rw [SubscribeItem.wants, asks, hitem, List.isEmpty_eq_false_iff.mpr hasked, Bool.false_or,
        Bool.false_or, any_isIn, Bool.eq_iff_iff, List.any_eq_true, List.any_eq_true]
      constructor
      · rintro ⟨stored, hstored, htold⟩
        exact ⟨stored, hkeys stored hstored, htold⟩
      · rintro ⟨key, hkey, htold⟩
        obtain ⟨stored, hstored, hcase⟩ := hall key hkey
        exact ⟨stored, hstored, (hasObjectItem_congr hcase object).trans htold⟩

/-! ## Callbacks that only read

What an update comes to where no callback calls the client. -/

/-- Every callback returns 0. -/
def readOnly : UpdateReactions κ := fun _ _ _ => ⟨[], 0⟩

/-- The calls that are due for an object, in the order of the subscriptions. -/
def told (object : Cjson) (list : List (SubscribeItem κ)) : List (κ × Cjson) :=
  (list.filter (·.wants object)).map fun item => (item.onUpdate, object)

theorem round_readOnly (object : Cjson) (item : SubscribeItem κ) (client : SubscribeClient κ) :
    SubscribeClient.round readOnly object item (0, client)
      = .ok (.next, (0, { client with called := client.called ++ told object [item] })) := by
  rw [told, List.filter_singleton, SubscribeItem.wants, SubscribeClient.round]
  cases item.keyList.isEmpty with
  | true => rfl
  | false =>
    cases item.keyList.any (·.isIn object) with
    | true => rfl
    | false => simp

theorem foreachSafe_readOnly (object : Cjson) {list : List (SubscribeItem κ)}
    (hnodup : (list.map (·.addr)).Nodup) (back : List (SubscribeItem κ)) :
    ∀ {front : List (SubscribeItem κ)} {client : SubscribeClient κ},
      client.attributessubscribeList = list → list = front ++ back →
      LinkedList.foreachSafe (fun s => s.2.attributessubscribeList) (·.addr)
          (SubscribeClient.round readOnly object) back.length (back.head?.map (·.addr)) (0, client)
        = .ok (.next, (0, { client with called := client.called ++ told object back })) := by
  induction back with
  | nil =>
    intro front client _ _
    rw [told, List.filter_nil, List.map_nil, List.append_nil]
    rfl
  | cons item back ih =>
    intro front client hclient hlist
    have hsplit : splitFirst (fun other => decide (other.addr = item.addr))
        client.attributessubscribeList = some (front, item, back) := by
      rw [hlist] at hnodup
      rw [hclient, hlist]
      exact splitFirst_addr hnodup
    have hback : list = (front ++ [item]) ++ back := by rw [hlist, List.append_cons]
    have hupdated : SubscribeClient.attributessubscribeList
        { client with called := client.called ++ told object [item] } = list := hclient
    rw [List.length_cons, List.head?_cons, Option.map_some]
    simp only [LinkedList.foreachSafe, hsplit, round_readOnly]
    refine (ih hupdated hback).trans ?_
    rw [List.append_assoc, told, told, told, ← List.map_append, ← List.filter_append,
      List.singleton_append]

/-- An update calls what is due for it, each once and in the order of the subscriptions. -/
theorem SubscribeClient.Owns.data_readOnly {client : SubscribeClient κ} (h : client.Owns)
    (object : Cjson) :
    client.tbcmhAttributessubscribeOnData client.attributessubscribeList.length readOnly (some object)
      = .ok (0, { client with
          called := client.called ++ told object client.attributessubscribeList }) := by
  rw [tbcmhAttributessubscribeOnData,
    foreachSafe_readOnly object h.nodup _ rfl (List.nil_append _).symm]
  rfl

/-- A subscription puts its entry behind those that are there, with keys that were given. -/
theorem subscribe_accepted (client : SubscribeClient κ) (onUpdate : κ) (keys : List RequestedKey) :
    ∃ item client', client.tbcmhAttributesSubscribe true true (some onUpdate) keys
        = (some item.subscribeId, client') ∧
      client'.attributessubscribeList = client.attributessubscribeList ++ [item] ∧
      client'.called = client.called ∧ item.onUpdate = onUpdate ∧
      (askedKeys keys = [] → item.keyList = []) ∧
      ∀ stored ∈ storedKeys item.keyList, stored ∈ askedKeys keys := by
  obtain ⟨addr, heap, hmalloc⟩ : ∃ addr heap, client.heap.malloc true = (some addr, heap) :=
    ⟨_, _, rfl⟩
  obtain ⟨added, hkeyList, hnone, hadded⟩ := appendKeys_keys keys [] heap
  rw [List.nil_append] at hkeyList
  simp only [SubscribeClient.tbcmhAttributesSubscribe, hmalloc, hkeyList]
  exact ⟨⟨addr, (client.lastSubscribeId + 1) % 2 ^ 32, added, onUpdate⟩, _, rfl, rfl, rfl, rfl, hnone,
    hadded⟩

/-- Every update calls what is due of the entries in front of a subscription, its `on_update` when it was
    asked for, and then what is due of the entries behind. -/
def TellsAsAsked (client : SubscribeClient κ) (front back : List (SubscribeItem κ)) (onUpdate : κ)
    (keys : List RequestedKey) : Prop :=
  ∀ object, ∃ client', client.tbcmhAttributessubscribeOnData client.attributessubscribeList.length
      readOnly (some object) = .ok (0, client') ∧
    client'.called = client.called ++ told object front
      ++ (if asks object keys then [(onUpdate, object)] else []) ++ told object back

theorem told_singleton (object : Cjson) (item : SubscribeItem κ) :
    told object [item] = if item.wants object then [(item.onUpdate, object)] else [] := by
  rw [told, List.filter_singleton]
  cases item.wants object <;> rfl

/-- An update of a list with the entry in it. -/
theorem SubscribeClient.Owns.tellsAsAsked_iff {client : SubscribeClient κ} (h : client.Owns)
    {front back : List (SubscribeItem κ)} {item : SubscribeItem κ}
    (hlist : client.attributessubscribeList = front ++ item :: back) (keys : List RequestedKey) :
    TellsAsAsked client front back item.onUpdate keys ↔
      ∀ object, item.wants object = asks object keys := by
  have htold : ∀ object, told object client.attributessubscribeList
      = told object front ++ told object [item] ++ told object back := by
    intro object
    rw [hlist, told, told, told, told, ← List.map_append, ← List.map_append, ← List.filter_append,
      ← List.filter_append, List.append_assoc, List.singleton_append]
  refine forall_congr' fun object => ?_
  rw [h.data_readOnly, htold, told_singleton, ← List.append_assoc, ← List.append_assoc]
  constructor
  · rintro ⟨client', hdata, hequal⟩
    obtain rfl := (Prod.mk.inj (Except.ok.inj hdata)).2
    have hsame := List.append_cancel_left (List.append_cancel_right hequal)
    cases hwants : item.wants object <;> cases hasks : asks object keys <;>
      simp_all
  · intro hwants
    rw [hwants]
    exact ⟨_, rfl, rfl⟩

/-- **Told as asked.** In every reachable state and whatever `malloc` answers, a new subscription adds to
    every later update, as long as it is there, exactly the call that was asked for, when every key has a
    copy, of itself or of a key that differs in case only. -/
theorem told_as_asked_iff {inputs : List (SubscribeInput κ)} {client : SubscribeClient κ}
    (run : Run (Succeeds subscribeStep) (subscribeInit κ) inputs client) (onUpdate : κ)
    (keys : List RequestedKey) :
    ∃ item client', client.tbcmhAttributesSubscribe true true (some onUpdate) keys
        = (some item.subscribeId, client') ∧
      client'.attributessubscribeList = client.attributessubscribeList ++ [item] ∧
      ((∀ later last front back, Run (Succeeds subscribeStep) client' later last →
          last.attributessubscribeList = front ++ item :: back →
          TellsAsAsked last front back onUpdate keys) ↔
        ∀ key ∈ askedKeys keys, ∃ stored ∈ storedKeys item.keyList, strcaseEq stored key = true) := by
  have howns : client.Owns :=
    run.invariant (show (subscribeInit κ).Owns from Accounts.empty)
      fun _ _ _ h hstep => owns_subscribeStep h hstep
  obtain ⟨howns', -⟩ := howns.subscribe true true (some onUpdate) keys
  obtain ⟨item, client', haccepted, hlist, -, rfl, hnone, hkeys⟩ :=
    subscribe_accepted client onUpdate keys
  rw [haccepted] at howns'
  refine ⟨item, client', haccepted, hlist, ?_⟩
  rw [← wants_eq_asks_iff hnone hkeys]
  constructor
  · intro hall
    exact (howns'.tellsAsAsked_iff hlist keys).mp (hall [] client' _ [] .nil hlist)
  · intro hwants later last front back hlater hlast
    have hlive : last.Owns :=
      hlater.invariant howns' fun _ _ _ h hstep => owns_subscribeStep h hstep
    exact (hlive.tellsAsAsked_iff hlast keys).mpr hwants

/-- A subscription behind `keylessFirst`, with two keys, of which the second has no copy. -/
theorem told_as_asked_iff_keylessFirst :
    ∃ item client', (keylessFirst.foldl (advance subscribeStep) (subscribeInit Nat)
        ).tbcmhAttributesSubscribe true true (some 2) [⟨"b", true, true⟩, ⟨"c", true, false⟩]
        = (some item.subscribeId, client') ∧
      client'.attributessubscribeList
        = (keylessFirst.foldl (advance subscribeStep) (subscribeInit Nat)).attributessubscribeList
          ++ [item] ∧
      ((∀ later last front back, Run (Succeeds subscribeStep) client' later last →
          last.attributessubscribeList = front ++ item :: back →
          TellsAsAsked last front back 2 [⟨"b", true, true⟩, ⟨"c", true, false⟩]) ↔
        ∀ key ∈ askedKeys [⟨"b", true, true⟩, ⟨"c", true, false⟩],
          ∃ stored ∈ storedKeys item.keyList, strcaseEq stored key = true) :=
  told_as_asked_iff (run_of_succeeds (by decide +kernel)) 2 _

end ThingsboardMqtt
