import Mathlib.Algebra.Order.Group.Multiset
import ThingsboardMqtt.Extension.DataSets

set_option autoImplicit false

/-! # What calls on a set are for

`CallPurpose` says what a call on a set of `DataSets` comes to, in terms of what is registered: no
pointers and no memory, but which searches meet a `NULL`. Every call serves its purpose (`Serves`):
where the blocks that are live have owners, it comes to this and leaves them with owners. -/

namespace ThingsboardMqtt

open ListWalk LiveBuffers

variable {κ : Type}

/-! ## What a set is for

A set lists what is registered, oldest first. The first registration of a key counts: it is the one
that is taken out, and the one whose value is uploaded. -/

/-- What is registered: `name` is `none` where the copy of the key could not be allocated. -/
structure RegisteredData (κ : Type) where
  name : Option String
  onGet : κ
  onSet : Option κ
  deriving DecidableEq, Repr

/-- A search for a key comes to a `NULL`. -/
def meetsNull (registered : List (RegisteredData κ)) : Option String → Bool
  | none => !registered.isEmpty
  | some key => (registered.takeWhile fun item => item.name ≠ some key).any (·.name.isNone)

/-- What a call comes to: its result, what is registered then, what is uploaded, and how many values are
    left to nobody. -/
structure CallEffect (κ : Type) where
  result : Bool
  registered : List (RegisteredData κ)
  uploads : List Upload
  lost : Nat

/-- Nothing is uploaded or lost. -/
def CallEffect.only (result : Bool) (registered : List (RegisteredData κ)) : CallEffect κ :=
  ⟨result, registered, [], 0⟩

/-- The purpose of a call: from what is registered to its effect, `none` where `NULL` is met. -/
abbrev CallPurpose (κ : Type) : Type := List (RegisteredData κ) → Option (CallEffect κ)

def destroyPurpose : CallPurpose κ := fun _ => some (.only true [])

def registerPurpose (allocation : ItemAllocation) (key : Option String) (onGet onSet : Option κ) :
    CallPurpose κ := fun registered =>
  match key, onGet with
  | some key, some onGet =>
    if allocation.item then
      some (.only true (registered ++ [⟨if allocation.key then some key else none, onGet, onSet⟩]))
    else some (.only false registered)
  | _, _ => some (.only false registered)

/-- The first registration of a key, with those in front of it and behind it. -/
def findRegistered (key : Option String) (registered : List (RegisteredData κ)) :
    Option (List (RegisteredData κ) × RegisteredData κ × List (RegisteredData κ)) :=
  splitFirst (fun item => item.name = key) registered

def unregisterPurpose (key : Option String) : CallPurpose κ := fun registered =>
  if key.isNone then some (.only false registered)
  else if meetsNull registered key then none
  else
    match findRegistered key registered with
    | none => some (.only false registered)
    | some (front, _, back) => some (.only true (front ++ back))

def containsPurpose (key : Option String) : CallPurpose κ := fun registered =>
  if key.isNone then some (.only false registered)
  else if meetsNull registered key then none
  else some (.only (registered.any fun item => item.name = key) registered)

/-- The value of a named key. -/
def namedValue (registered : List (RegisteredData κ)) (named : NamedKey κ) : Option Cjson :=
  (registered.find? fun item => item.name = named.key).bind fun item => named.onGet item.onGet

/-- The member that a named key adds. -/
def namedMember (registered : List (RegisteredData κ)) (named : NamedKey κ) :
    Option (String × Cjson) :=
  if named.allocatesName then do some (← named.key, ← namedValue registered named) else none

/-- A named key has a value, and its name cannot be allocated. -/
def losesValue (registered : List (RegisteredData κ)) (named : NamedKey κ) : Bool :=
  (namedValue registered named).isSome && !named.allocatesName

/-- Whether an object that is not empty is published. -/
def UploadAnswers.sends (answers : UploadAnswers) : Bool :=
  answers.allocatesText && answers.lockTaken && answers.hasMqttHandle

def uploadPurpose (topic : String) (hasClient : Bool) (answers : UploadAnswers)
    (keys : List (NamedKey κ)) : CallPurpose κ := fun registered =>
  if !hasClient || keys.isEmpty || !answers.allocatesObject then some (.only false registered)
  else if keys.any fun named => meetsNull registered named.key then none
  else
    let members := keys.filterMap (namedMember registered)
    let sent := !members.isEmpty && answers.sends
    some
      { result := sent && decide (-1 < answers.msgId)
        registered := registered
        uploads := if sent then [⟨topic, .object members⟩] else []
        lost := keys.countP (losesValue registered) }

/-! ## Memory -/

/-- An item, as it is registered. -/
def DataItem.registered (item : DataItem κ) : RegisteredData κ :=
  ⟨item.key.map (·.text), item.onGet, item.onSet⟩

/-- The blocks of a list of items. -/
def itemBuffers (items : List (DataItem κ)) : Multiset Nat := ↑(items.flatMap (·.buffers))

theorem itemBuffers_append_cons (front : List (DataItem κ)) (item : DataItem κ)
    (back : List (DataItem κ)) : itemBuffers (front ++ item :: back)
      = ↑item.buffers + itemBuffers (front ++ back) := by
  simp only [itemBuffers, List.flatMap_append, List.flatMap_cons, ← Multiset.coe_add]
  exact add_left_comm _ _ _

theorem mem_itemBuffers {items : List (DataItem κ)} {item : DataItem κ} (hmem : item ∈ items)
    {addr : Nat} (haddr : addr ∈ item.buffers) : addr ∈ itemBuffers items :=
  Multiset.mem_coe.mpr (List.mem_flatMap.mpr ⟨item, hmem, haddr⟩)

namespace DataMemory

/-- The blocks that are live are `owned`, each once, and the lost ones. -/
def Keeps (owned : Multiset Nat) (memory : DataMemory) : Prop :=
  Accounts memory.heap (↑memory.lost + owned)

variable {memory : DataMemory} {owned others : Multiset Nat}

namespace Keeps

theorem access (h : memory.Keeps owned) {addr : Nat} (hmem : addr ∈ owned) :
    memory.heap.access addr = .ok () :=
  h.access_of_mem (Multiset.mem_add.mpr (.inr hmem))

theorem malloc (h : memory.Keeps owned) :
    ∃ addr heap, memory.heap.malloc true = (some addr, heap) ∧
      (memory.setHeap heap).Keeps (addr ::ₘ owned) := by
  obtain ⟨addr, heap, hmalloc, haccounts⟩ := Accounts.malloc h
  refine ⟨addr, heap, hmalloc, ?_⟩
  rw [Keeps, Multiset.add_cons]
  exact haccounts

theorem freeAll {addrs : List Nat} (h : memory.Keeps (↑addrs + others)) :
    ∃ heap, memory.heap.freeAll addrs = .ok heap ∧ (memory.setHeap heap).Keeps others := by
  rw [Keeps, add_left_comm] at h
  exact Accounts.freeAll h

theorem free {addr : Nat} (h : memory.Keeps (addr ::ₘ others)) :
    ∃ heap, memory.heap.free (some addr) = .ok heap ∧ (memory.setHeap heap).Keeps others := by
  rw [Keeps, Multiset.add_cons] at h
  exact Accounts.free h

theorem lose {addr : Nat} (h : memory.Keeps (addr ::ₘ others)) :
    ({ memory with lost := memory.lost ++ [addr] } : DataMemory).Keeps others := by
  rw [Keeps, Multiset.add_cons] at h
  rw [Keeps, ← Multiset.coe_add, Multiset.coe_singleton, add_assoc, Multiset.singleton_add,
    Multiset.add_cons]
  exact h

theorem visit {items : List (DataItem κ)} (h : memory.Keeps (itemBuffers items + others)) :
    visitItems memory.heap items = .ok () := by
  have hlive : ∀ item ∈ items, memory.heap.access item.addr = .ok () := by
    intro item hmem
    refine h.access (Multiset.mem_add.mpr (.inl (mem_itemBuffers hmem ?_)))
    exact List.mem_append_right _ (List.mem_singleton_self _)
  clear h
  induction items with
  | nil => rfl
  | cons item rest ih =>
    rw [List.forall_mem_cons] at hlive
    rw [visitItems, hlive.1]
    exact ih hlive.2

end Keeps

end DataMemory

/-! ## Searching -/

theorem strcmpKey_eq {heap : Heap} {item : DataItem κ}
    (hlive : ∀ addr ∈ item.buffers, heap.access addr = .ok ()) (key : Option String) :
    strcmpKey heap item key
      = if item.registered.name.isNone || key.isNone then .error .nullString
        else .ok (decide (item.registered.name = key)) := by
  have haddr := hlive item.addr (List.mem_append_right _ (List.mem_singleton_self _))
  cases hkey : item.key with
  | none => simp [strcmpKey, haddr, hkey, DataItem.registered, Except.mapError, bind, Except.bind]
  | some copy =>
    have hcopy : heap.access copy.addr = .ok () := by
      refine hlive copy.addr (List.mem_append_left _ ?_)
      simp [hkey]
    cases key <;>
      simp [strcmpKey, haddr, hkey, hcopy, DataItem.registered, Except.mapError, bind, Except.bind]

theorem meetsNull_cons (item : RegisteredData κ) (rest : List (RegisteredData κ)) (key : String) :
    meetsNull (item :: rest) (some key)
      = if item.name = some key then false else item.name.isNone || meetsNull rest (some key) := by
  simp only [meetsNull, List.takeWhile_cons]
  by_cases hname : item.name = some key
  · simp [hname]
  · simp [hname]

/-- Among live items, the search finds the first of a key, unless it comes to a `NULL`. -/
theorem searchItem_eq {heap : Heap} {items : List (DataItem κ)}
    (hlive : ∀ item ∈ items, ∀ addr ∈ item.buffers, heap.access addr = .ok ())
    (key : Option String) :
    searchItem heap key items
      = if meetsNull (items.map (·.registered)) key then .error .nullString
        else .ok (splitFirst (fun item => item.registered.name = key) items) := by
  induction items with
  | nil => cases key <;> rfl
  | cons item rest ih =>
    rw [List.forall_mem_cons] at hlive
    rw [searchItem, strcmpKey_eq hlive.1, ih hlive.2, splitFirst]
    cases key with
    | none => simp [meetsNull, bind, Except.bind]
    | some key =>
      rw [List.map_cons, meetsNull_cons]
      by_cases hname : item.registered.name = some key
      · simp [hname, bind, Except.bind]
      · cases hnone : item.registered.name.isNone with
        | true => simp [hname, bind, Except.bind]
        | false =>
          cases meetsNull (rest.map (·.registered)) (some key) <;>
            simp [hname, bind, Except.bind]

/-! ## Every call serves its purpose -/

/-- In memory whose blocks have owners, a call meets `NULL` where its purpose says so; otherwise it
    comes to its effect, and the blocks have owners again. -/
def Serves (call : SetCall κ) (purpose : CallPurpose κ) : Prop :=
  ∀ items memory others, memory.Keeps (itemBuffers items + others) →
    match purpose (items.map (·.registered)) with
    | none => call items memory = .error .nullString
    | some effect => ∃ items' memory', call items memory = .ok (effect.result, items', memory') ∧
        items'.map (·.registered) = effect.registered ∧
        memory'.published = memory.published ++ effect.uploads ∧
        memory'.lost.length = memory.lost.length + effect.lost ∧
        memory'.Keeps (itemBuffers items' + others)

section Serves

variable {items : List (DataItem κ)} {memory : DataMemory} {others : Multiset Nat}

theorem live_of_keeps (h : memory.Keeps (itemBuffers items + others)) :
    ∀ item ∈ items, ∀ addr ∈ item.buffers, memory.heap.access addr = .ok () :=
  fun _ hmem _ haddr => h.access (Multiset.mem_add.mpr (.inl (mem_itemBuffers hmem haddr)))

theorem dataItemDestroy_owned {item : DataItem κ} (h : memory.Keeps (↑item.buffers + others)) :
    ∃ heap, dataItemDestroy item memory = .ok (memory.setHeap heap) ∧
      (memory.setHeap heap).Keeps others := by
  obtain ⟨heap, hfree, hkeeps⟩ := h.freeAll
  refine ⟨heap, ?_, hkeeps⟩
  rw [dataItemDestroy, hfree]
  rfl

theorem destroyItems_serves : Serves (destroyItems : SetCall κ) destroyPurpose := by
  intro items memory others h
  induction items generalizing memory with
  | nil => exact ⟨[], memory, rfl, rfl, (List.append_nil _).symm, rfl, h⟩
  | cons item rest ih =>
    have hitem := live_of_keeps h item List.mem_cons_self item.addr
      (List.mem_append_right _ (List.mem_singleton_self _))
    rw [← List.nil_append (item :: rest), itemBuffers_append_cons, add_assoc] at h
    obtain ⟨heap, hdestroy, hkeeps⟩ := dataItemDestroy_owned h
    obtain ⟨items', memory', hrest, heffect⟩ := ih (memory.setHeap heap) hkeeps
    refine ⟨items', memory', ?_, heffect⟩
    rw [destroyItems, hitem, hdestroy]
    exact hrest

theorem dataItemCreate_keeps (h : memory.Keeps others) (allocation : ItemAllocation) (key : String)
    (onGet : κ) (onSet : Option κ) (hitem : allocation.item = true) :
    ∃ item heap, dataItemCreate allocation (some key) (some onGet) onSet memory
        = (some item, memory.setHeap heap) ∧
      item.registered = ⟨if allocation.key then some key else none, onGet, onSet⟩ ∧
      (memory.setHeap heap).Keeps (↑item.buffers + others) := by
  obtain ⟨addr, heap, hmalloc, hkeeps⟩ := h.malloc
  cases hkey : allocation.key with
  | false =>
    refine ⟨⟨addr, none, onGet, onSet⟩, heap, ?_, rfl, ?_⟩
    · simp only [dataItemCreate, hitem, hmalloc, hkey]
      rfl
    · rw [DataItem.buffers, Option.map_none, Option.toList_none, List.nil_append,
        Multiset.coe_singleton, Multiset.singleton_add]
      exact hkeeps
  | true =>
    obtain ⟨keyAddr, heap', hmalloc', hkeeps'⟩ := hkeeps.malloc
    rw [show (memory.setHeap heap).heap = heap from rfl] at hmalloc'
    refine ⟨⟨addr, some ⟨keyAddr, key⟩, onGet, onSet⟩, heap', ?_, rfl, ?_⟩
    · simp only [dataItemCreate, hitem, hmalloc, hkey, hmalloc']
      rfl
    · rw [DataItem.buffers, Option.map_some, Option.toList_some, List.singleton_append,
        ← Multiset.cons_coe, Multiset.coe_singleton, Multiset.cons_add, Multiset.singleton_add]
      exact hkeeps'

theorem registerItem_serves (allocation : ItemAllocation) (key : Option String)
    (onGet onSet : Option κ) :
    Serves (registerItem allocation key onGet onSet)
      (registerPurpose allocation key onGet onSet) := by
  intro items memory others h
  have hrefused : ∃ items' memory', (.ok (false, items, memory) :
        Except DataFault (Bool × List (DataItem κ) × DataMemory)) = .ok (false, items', memory') ∧
      items'.map (·.registered) = items.map (·.registered) ∧
      memory'.published = memory.published ++ [] ∧
      memory'.lost.length = memory.lost.length + 0 ∧
      memory'.Keeps (itemBuffers items' + others) :=
    ⟨items, memory, rfl, rfl, (List.append_nil _).symm, rfl, h⟩
  cases key with
  | none => exact hrefused
  | some key =>
    cases onGet with
    | none => exact hrefused
    | some onGet =>
      cases hitem : allocation.item with
      | false =>
        simp only [registerPurpose, hitem, Bool.false_eq_true, if_false]
        have hcreate : dataItemCreate allocation (some key) (some onGet) onSet memory
            = (none, memory) := by
          simp only [dataItemCreate, hitem]
          rfl
        simp only [registerItem, hcreate]
        exact hrefused
      | true =>
        obtain ⟨item, heap, hcreate, hregistered, hkeeps⟩ :=
          dataItemCreate_keeps h allocation key onGet onSet hitem
        simp only [registerPurpose, hitem, if_true]
        have hvisit : visitItems (memory.setHeap heap).heap items = .ok () := by
          rw [add_left_comm] at hkeeps
          exact hkeeps.visit
        refine ⟨items ++ [item], memory.setHeap heap, ?_, ?_, (List.append_nil _).symm, rfl, ?_⟩
        · simp only [registerItem, hcreate, hvisit, bind, Except.bind]
          rfl
        · rw [List.map_append, List.map_singleton, hregistered]
          rfl
        · rw [itemBuffers_append_cons, List.append_nil, add_assoc]
          exact hkeeps

/-- Registrations are found where their items are. -/
theorem splitFirst_registered (key : Option String) (items : List (DataItem κ)) :
    findRegistered key (items.map (·.registered))
      = (splitFirst (fun item => item.registered.name = key) items).map fun parts =>
          (parts.1.map (·.registered), parts.2.1.registered, parts.2.2.map (·.registered)) := by
  unfold findRegistered
  induction items with
  | nil => rfl
  | cons item rest ih =>
    rw [List.map_cons, splitFirst, splitFirst]
    split
    · rfl
    · rw [ih, Option.map_map, Option.map_map]
      rfl

theorem unregisterItem_serves (key : Option String) :
    Serves (unregisterItem key : SetCall κ) (unregisterPurpose key) := by
  intro items memory others h
  cases key with
  | none => exact ⟨items, memory, rfl, rfl, (List.append_nil _).symm, rfl, h⟩
  | some key =>
    simp only [unregisterPurpose, Option.isNone_some, Bool.false_eq_true, if_false]
    have hsearch := searchItem_eq (live_of_keeps h) (some key)
    cases hnull : meetsNull (items.map (·.registered)) (some key) with
    | true =>
      rw [hnull, if_pos rfl] at hsearch
      simp only [if_true]
      simp only [unregisterItem, hsearch, bind, Except.bind]
    | false =>
      rw [hnull, if_neg Bool.false_ne_true] at hsearch
      simp only [Bool.false_eq_true, if_false, splitFirst_registered]
      cases hsplit : splitFirst (fun item => decide (item.registered.name = some key)) items with
      | none =>
        simp only [Option.map_none]
        refine ⟨items, memory, ?_, rfl, (List.append_nil _).symm, rfl, h⟩
        simp only [unregisterItem, hsearch, hsplit, bind, Except.bind]
        rfl
      | some parts =>
        obtain ⟨front, item, back⟩ := parts
        rw [(splitFirst_eq_some hsplit).1, itemBuffers_append_cons, add_assoc] at h
        obtain ⟨heap, hdestroy, hkeeps⟩ := dataItemDestroy_owned h
        simp only [Option.map_some]
        refine ⟨front ++ back, memory.setHeap heap, ?_, List.map_append, (List.append_nil _).symm,
          rfl, hkeeps⟩
        simp only [unregisterItem, hsearch, hsplit, hdestroy, bind, Except.bind]
        rfl

theorem isSome_splitFirst {α : Type} (p : α → Bool) (l : List α) :
    (splitFirst p l).isSome = l.any p := by
  rw [← List.isSome_find?, ← splitFirst_map_eq_find?, Option.isSome_map]

theorem isContained_serves (key : Option String) :
    Serves (isContained key : SetCall κ) (containsPurpose key) := by
  intro items memory others h
  cases key with
  | none => exact ⟨items, memory, rfl, rfl, (List.append_nil _).symm, rfl, h⟩
  | some key =>
    simp only [containsPurpose, Option.isNone_some, Bool.false_eq_true, if_false]
    have hsearch := searchItem_eq (live_of_keeps h) (some key)
    cases hnull : meetsNull (items.map (·.registered)) (some key) with
    | true =>
      rw [hnull, if_pos rfl] at hsearch
      simp only [if_true]
      simp only [isContained, hsearch, bind, Except.bind]
    | false =>
      rw [hnull, if_neg Bool.false_ne_true] at hsearch
      simp only [Bool.false_eq_true, if_false]
      refine ⟨items, memory, ?_, rfl, (List.append_nil _).symm, rfl, h⟩
      have hfound : (splitFirst (fun item => decide (item.registered.name = some key)) items).isSome
          = (items.map (·.registered)).any fun item => item.name = some key := by
        rw [List.any_map]
        exact isSome_splitFirst _ items
      simp only [isContained, hsearch, bind, Except.bind, hfound]
      rfl

/-- The members of an object, without their blocks. -/
def BuiltObject.values (object : BuiltObject) : List (String × Cjson) :=
  object.members.map fun member => (member.name, member.value)

theorem buffers_addMember (object : BuiltObject) (member : BuiltMember) :
    (↑(BuiltObject.buffers { object with members := object.members ++ [member] }) : Multiset Nat)
      = member.nameAddr ::ₘ member.valueAddr ::ₘ ↑object.buffers := by
  simp only [BuiltObject.buffers, List.flatMap_append, List.flatMap_cons, List.flatMap_nil,
    List.append_nil, Multiset.cons_coe, Multiset.coe_eq_coe]
  rw [List.append_assoc, List.cons_append, List.cons_append, List.nil_append]
  exact List.perm_middle.trans (List.perm_middle.cons _)

/-- The value of a named key is that of the item that is found. -/
theorem namedValue_registered (items : List (DataItem κ)) (named : NamedKey κ) :
    namedValue (items.map (·.registered)) named
      = (splitFirst (fun item => item.registered.name = named.key) items).bind fun parts =>
          named.onGet parts.2.1.onGet := by
  rw [namedValue, ← splitFirst_map_eq_find?, ← findRegistered, splitFirst_registered,
    Option.map_map, Option.bind_map]
  rfl

/-- A value that was taken is a member of the object, and a value that was not is lost. -/
theorem addItemToObject_keeps {object : BuiltObject} {valueAddr : Nat}
    (h : memory.Keeps (valueAddr ::ₘ (itemBuffers items + (↑object.buffers + others))))
    (allocatesName : Bool) (name : String) (value : Cjson) :
    ∃ object' memory', addItemToObject allocatesName (some name) value valueAddr object memory
        = (allocatesName, object', memory') ∧
      object'.values = object.values ++ (if allocatesName then [(name, value)] else []) ∧
      memory'.published = memory.published ∧
      memory'.lost.length = memory.lost.length + (!allocatesName).toNat ∧
      memory'.Keeps (itemBuffers items + (↑object'.buffers + others)) := by
  cases allocatesName with
  | false =>
    exact ⟨object, { memory with lost := memory.lost ++ [valueAddr] }, rfl,
      (List.append_nil _).symm, rfl, by simp, h.lose⟩
  | true =>
    obtain ⟨nameAddr, heap, hmalloc, hkeeps⟩ := h.malloc
    refine ⟨{ object with members := object.members ++ [⟨name, nameAddr, value, valueAddr⟩] },
      memory.setHeap heap, ?_, ?_, rfl, rfl, ?_⟩
    · simp only [addItemToObject, hmalloc]
    · simp [BuiltObject.values]
    · rw [buffers_addMember, Multiset.cons_add, Multiset.cons_add, Multiset.add_cons,
        Multiset.add_cons]
      exact hkeeps

/-- What one named key does to the object and to the memory, where its search meets no `NULL`. -/
theorem gatherValues_cons {object : BuiltObject}
    (h : memory.Keeps (itemBuffers items + (↑object.buffers + others))) (named : NamedKey κ)
    (hnull : meetsNull (items.map (·.registered)) named.key = false) (rest : List (NamedKey κ))
    (result : Bool) :
    ∃ object' memory', gatherValues items (named :: rest) result object memory
        = gatherValues items rest
            (result || (namedMember (items.map (·.registered)) named).isSome) object' memory' ∧
      object'.values = object.values ++ (namedMember (items.map (·.registered)) named).toList ∧
      memory'.published = memory.published ∧
      memory'.lost.length = memory.lost.length +
        (losesValue (items.map (·.registered)) named).toNat ∧
      memory'.Keeps (itemBuffers items + (↑object'.buffers + others)) := by
  have hsearch := searchItem_eq (live_of_keeps h) named.key
  rw [hnull, if_neg Bool.false_ne_true] at hsearch
  have hvalue := namedValue_registered items named
  cases hsplit : splitFirst (fun item => decide (item.registered.name = named.key)) items with
  | none =>
    rw [hsplit] at hsearch hvalue
    refine ⟨object, memory, ?_, ?_, rfl, ?_, h⟩
    · simp [gatherValues, hsearch, namedMember, hvalue, bind, Except.bind]
    · simp [namedMember, hvalue]
    · simp [losesValue, hvalue]
  | some parts =>
    obtain ⟨front, item, back⟩ := parts
    obtain ⟨hitems, hname, -⟩ := splitFirst_eq_some hsplit
    rw [hsplit] at hsearch hvalue
    obtain ⟨key, hkey⟩ : ∃ key, named.key = some key := by
      cases hkey : named.key with
      | none => simp [hkey, hitems, meetsNull] at hnull
      | some key => exact ⟨key, rfl⟩
    have hitem : item.key.map (·.text) = some key := (of_decide_eq_true hname).trans hkey
    cases hget : named.onGet item.onGet with
    | none =>
      rw [Option.bind_some, hget] at hvalue
      refine ⟨object, memory, ?_, ?_, rfl, ?_, h⟩
      · simp [gatherValues, hsearch, hget, namedMember, hvalue, bind, Except.bind]
      · simp [namedMember, hvalue]
      · simp [losesValue, hvalue]
    | some value =>
      rw [Option.bind_some, hget] at hvalue
      obtain ⟨valueAddr, heap, hmalloc, hkeeps⟩ := h.malloc
      obtain ⟨object', memory', hadd, hvalues, hpublished, hlost, hkeeps'⟩ :=
        addItemToObject_keeps hkeeps named.allocatesName key value
      refine ⟨object', memory', ?_, ?_, hpublished, ?_, hkeeps'⟩
      · simp only [gatherValues, hsearch, hget, hmalloc, hitem, hadd, bind, Except.bind]
        cases hnames : named.allocatesName <;> simp [namedMember, hvalue, hkey, hnames]
      · rw [hvalues]
        cases hnames : named.allocatesName <;> simp [namedMember, hvalue, hkey, hnames]
      · rw [hlost]
        simp [losesValue, hvalue, DataMemory.setHeap]

/-- The loop over the named keys. -/
theorem gatherValues_eq {object : BuiltObject}
    (h : memory.Keeps (itemBuffers items + (↑object.buffers + others)))
    (keys : List (NamedKey κ)) (result : Bool) :
    if keys.any fun named => meetsNull (items.map (·.registered)) named.key then
      gatherValues items keys result object memory = .error .nullString
    else
      ∃ object' memory', gatherValues items keys result object memory
          = .ok (result || !(keys.filterMap (namedMember (items.map (·.registered)))).isEmpty,
              object', memory') ∧
        object'.values
          = object.values ++ keys.filterMap (namedMember (items.map (·.registered))) ∧
        memory'.published = memory.published ∧
        memory'.lost.length = memory.lost.length +
          keys.countP (losesValue (items.map (·.registered))) ∧
        memory'.Keeps (itemBuffers items + (↑object'.buffers + others)) := by
  induction keys generalizing object memory result with
  | nil =>
    refine ⟨object, memory, ?_, (List.append_nil _).symm, rfl, rfl, h⟩
    simp [gatherValues]
  | cons named rest ih =>
    cases hnull : meetsNull (items.map (·.registered)) named.key with
    | true =>
      have hsearch := searchItem_eq (live_of_keeps h) named.key
      rw [hnull, if_pos rfl] at hsearch
      rw [List.any_cons, hnull, Bool.true_or, if_pos rfl]
      simp only [gatherValues, hsearch, bind, Except.bind]
    | false =>
      obtain ⟨object₁, memory₁, hround, hvalues, hpublished, hlost, hkeeps⟩ :=
        gatherValues_cons h named hnull rest result
      have hrest := ih hkeeps (result || (namedMember (items.map (·.registered)) named).isSome)
      rw [List.any_cons, hnull, Bool.false_or, hround]
      split
      · rename_i hany
        rwa [if_pos hany] at hrest
      · rename_i hany
        rw [if_neg hany] at hrest
        obtain ⟨object', memory', hloop, hvalues', hpublished', hlost', hkeeps'⟩ := hrest
        refine ⟨object', memory', ?_, ?_, hpublished'.trans hpublished, ?_, hkeeps'⟩
        · rw [hloop]
          cases hmember : namedMember (items.map (·.registered)) named with
          | none => simp [List.filterMap_cons_none hmember]
          | some member => simp [List.filterMap_cons_some hmember]
        · rw [hvalues', hvalues, List.append_assoc]
          cases hmember : namedMember (items.map (·.registered)) named with
          | none => simp [List.filterMap_cons_none hmember]
          | some member => simp [List.filterMap_cons_some hmember]
        · rw [hlost', hlost, List.countP_cons]
          cases losesValue (items.map (·.registered)) named with
          | false => simp
          | true =>
            simp only [Bool.toNat_true, if_true]
            omega

/-- The text of an object is freed, whether it was published or not. -/
theorem publishObject_keeps (h : memory.Keeps others) (topic : String) (answers : UploadAnswers)
    (object : Cjson) :
    ∃ msgId memory', publishObject topic answers object memory = .ok (msgId, memory') ∧
      decide (-1 < msgId) = (answers.sends && decide (-1 < answers.msgId)) ∧
      memory'.published = memory.published ++
        (if answers.sends then [⟨topic, object⟩] else []) ∧
      memory'.lost.length = memory.lost.length ∧ memory'.Keeps others := by
  cases htext : answers.allocatesText with
  | false =>
    refine ⟨-1, memory, ?_, ?_, ?_, rfl, h⟩
    · simp only [publishObject, htext]
      rfl
    · simp [UploadAnswers.sends, htext]
    · simp [UploadAnswers.sends, htext]
  | true =>
    obtain ⟨text, heap, hmalloc, hkeeps⟩ := h.malloc
    cases hsends : answers.lockTaken && answers.hasMqttHandle with
    | false =>
      obtain ⟨heap', hfree, hkeeps'⟩ := hkeeps.free
      refine ⟨-1, memory.setHeap heap', ?_, ?_, ?_, rfl, hkeeps'⟩
      · simp only [publishObject, htext, hmalloc, publishText, hsends, Bool.false_eq_true, if_false,
          hfree]
        rfl
      · simp [UploadAnswers.sends, htext, hsends]
      · simp [UploadAnswers.sends, htext, hsends, DataMemory.setHeap]
    | true =>
      obtain ⟨heap', hfree, hkeeps'⟩ := hkeeps.free
      refine ⟨answers.msgId, { memory.setHeap heap' with
        published := memory.published ++ [⟨topic, object⟩] }, ?_, ?_, ?_, rfl, hkeeps'⟩
      · simp only [publishObject, htext, hmalloc, publishText, hsends, if_true]
        rw [show (memory.setHeap heap).heap = heap from rfl] at hfree
        simp only [DataMemory.setHeap, hfree]
        rfl
      · simp [UploadAnswers.sends, htext, hsends]
      · simp [UploadAnswers.sends, htext, hsends]

theorem publishGathered_keeps (h : memory.Keeps others) (topic : String) (answers : UploadAnswers)
    (object : Cjson) (result : Bool) :
    ∃ msgId memory', publishGathered topic answers result object memory = .ok (msgId, memory') ∧
      decide (-1 < msgId) = (result && answers.sends && decide (-1 < answers.msgId)) ∧
      memory'.published = memory.published ++
        (if result && answers.sends then [⟨topic, object⟩] else []) ∧
      memory'.lost.length = memory.lost.length ∧ memory'.Keeps others := by
  cases result with
  | false => exact ⟨-1, memory, rfl, rfl, (List.append_nil _).symm, rfl, h⟩
  | true => exact publishObject_keeps h topic answers object

theorem uploadItems_serves (topic : String) (hasClient : Bool) (answers : UploadAnswers)
    (keys : List (NamedKey κ)) :
    Serves (uploadItems topic hasClient answers keys)
      (uploadPurpose topic hasClient answers keys) := by
  intro items memory others h
  by_cases hrefused : (!hasClient || keys.isEmpty) = true
  · simp only [uploadPurpose, hrefused, Bool.true_or, if_true]
    refine ⟨items, memory, ?_, rfl, (List.append_nil _).symm, rfl, h⟩
    rw [uploadItems, if_pos hrefused]
    rfl
  · cases hobject : answers.allocatesObject with
    | false =>
      simp only [uploadPurpose, hobject, Bool.not_false, Bool.or_true, if_true]
      refine ⟨items, memory, ?_, rfl, (List.append_nil _).symm, rfl, h⟩
      rw [uploadItems, if_neg hrefused, hobject]
      rfl
    | true =>
      obtain ⟨addr, heap, hmalloc, hkeeps⟩ := h.malloc
      have hstart : (memory.setHeap heap).Keeps (itemBuffers items +
          (↑(BuiltObject.buffers ⟨addr, []⟩) + others)) := by
        rw [add_left_comm]
        exact hkeeps
      have hloop := gatherValues_eq hstart keys false
      simp only [uploadPurpose, hrefused, hobject, Bool.not_true, Bool.or_false,
        Bool.false_eq_true, if_false]
      simp only [uploadItems, hrefused, hobject, hmalloc, Bool.false_eq_true, if_false]
      cases hnull : keys.any fun named => meetsNull (items.map (·.registered)) named.key with
      | true =>
        rw [hnull, if_pos rfl] at hloop
        simp only [hloop, if_true, bind, Except.bind]
      | false =>
        rw [hnull, if_neg Bool.false_ne_true, Bool.false_or] at hloop
        obtain ⟨object, memory₁, hgather, hvalues, hpublished, hlost, hkeeps₁⟩ := hloop
        simp only [hgather, Bool.false_eq_true, if_false, bind, Except.bind]
        obtain ⟨msgId, memory₂, hpublish, hmsgId, hpublished', hlost', hkeeps₂⟩ :=
          publishGathered_keeps hkeeps₁ topic answers object.json
            (!(keys.filterMap (namedMember (items.map (·.registered)))).isEmpty)
        rw [add_left_comm] at hkeeps₂
        obtain ⟨heap', hdelete, hkeeps'⟩ := hkeeps₂.freeAll
        have hjson : object.json
            = .object (keys.filterMap (namedMember (items.map (·.registered)))) :=
          congrArg Cjson.object hvalues
        refine ⟨items, memory₂.setHeap heap', ?_, rfl, ?_, hlost'.trans hlost, hkeeps'⟩
        · simp only [hpublish, hdelete, hmsgId]
          rfl
        · rw [← hjson]
          exact hpublished'.trans (congrArg (· ++ _) hpublished)

end Serves

end ThingsboardMqtt
