import Mathlib.Algebra.BigOperators.Group.List.Basic
import Mathlib.Data.Finset.Card
import ThingsboardMqtt.Extension.DataCalls
import ThingsboardMqtt.Library.Execution

set_option autoImplicit false

/-! # Histories of sets

Over a whole run of calls on any number of sets, what is registered, uploaded and returned is what the
calls are for (`dataSets_refine`), and every block that is live has an owner in the state
(`dataSets_accounted`): a set, which is never freed, an item, or nobody, for a value that
`cJSON_AddItemToObject` did not take. -/

namespace ThingsboardMqtt

open Execution ListWalk LiveBuffers

variable {κ : Type}

/-! ## Sets of registrations -/

/-- What is registered in the sets at all handles, what was uploaded, how many values were left to
    nobody, and the results. -/
structure RegistryWorld (κ : Type) where
  registry : Nat → List (RegisteredData κ)
  published : List Upload
  lost : Nat
  returned : List Bool

namespace RegistryWorld

def initial (κ : Type) : RegistryWorld κ := ⟨fun _ => [], [], 0, []⟩

def returns (result : Bool) (world : RegistryWorld κ) : RegistryWorld κ :=
  { world with returned := world.returned ++ [result] }

/-- A call on the set at a handle has its effect there. -/
def callSet (handle : Option Nat) (purpose : CallPurpose κ) (world : RegistryWorld κ) :
    Option (RegistryWorld κ) :=
  match handle with
  | none => some (world.returns false)
  | some handle =>
    (purpose (world.registry handle)).map fun effect =>
      { registry := Function.update world.registry handle effect.registered
        published := world.published ++ effect.uploads
        lost := world.lost + effect.lost
        returned := world.returned ++ [effect.result] }

end RegistryWorld

def DataSetKind.topic : DataSetKind → String
  | .timeseriesdata => "v1/devices/me/telemetry"
  | .clientattributes => "v1/devices/me/attributes"

/-- What the calls are for: `none` where a call meets `NULL`. -/
def dataPurpose (world : RegistryWorld κ) : DataInput κ → Option (RegistryWorld κ)
  | .create _ allocated => some (world.returns allocated)
  | .destroy _ handle => world.callSet handle destroyPurpose
  | .register _ handle allocation key onGet =>
    world.callSet handle (registerPurpose allocation key onGet none)
  | .registerWithSet handle allocation key onGet onSet =>
    if onSet.isNone then some (world.returns false)
    else if handle.isNone && allocation.item && key.isSome && onGet.isSome then none
    else world.callSet handle (registerPurpose allocation key onGet onSet)
  | .unregister _ handle key => world.callSet handle (unregisterPurpose key)
  | .isContained handle key => world.callSet handle (containsPurpose key)
  | .upload kind handle hasClient answers keys =>
    world.callSet handle (uploadPurpose kind.topic hasClient answers keys)

/-- The set a call is made on. -/
def DataInput.target : DataInput κ → Option (DataSetKind × Nat)
  | .create _ _ => none
  | .destroy kind handle => handle.map (kind, ·)
  | .register kind handle _ _ _ => handle.map (kind, ·)
  | .registerWithSet handle _ _ _ _ => handle.map (.clientattributes, ·)
  | .unregister kind handle _ => handle.map (kind, ·)
  | .isContained handle _ => handle.map (.clientattributes, ·)
  | .upload kind handle _ _ _ => handle.map (kind, ·)

/-- A handle that is not `NULL` was returned by the function that creates such sets. -/
def OwnSet (world : DataWorld κ) (input : DataInput κ) : Prop :=
  ∀ target ∈ input.target, target ∈ world.sets.map fun set => (set.kind, set.handle)

/-- The fault of a call that meets `NULL`: without a set, it is the set that is `NULL`. -/
def DataInput.nullFault (input : DataInput κ) : DataFault :=
  if input.target.isNone then .nullPointer else .nullString

namespace DataWorld

/-- What is registered. -/
def registry (world : DataWorld κ) : RegistryWorld κ where
  registry handle := ((world.sets.find? fun set => set.handle = handle).map fun set =>
    set.items.map (·.registered)).getD []
  published := world.memory.published
  lost := world.memory.lost.length
  returned := world.returned

/-- The blocks of the sets: handles, items and keys. -/
def owned (world : DataWorld κ) : Multiset Nat :=
  ↑(world.sets.map (·.handle)) + (world.sets.map fun set => itemBuffers set.items).sum

/-- Every block that is live belongs to a set, or is a value that is lost. -/
def Accounted (world : DataWorld κ) : Prop := world.memory.Keeps world.owned

theorem owned_append_cons {world : DataWorld κ} {front back : List (DataSet κ)} {set : DataSet κ}
    (hsets : world.sets = front ++ set :: back) :
    world.owned = itemBuffers set.items + (↑((front ++ set :: back).map (·.handle)) +
      ((front ++ back).map fun set => itemBuffers set.items).sum) := by
  rw [owned, hsets]
  simp only [List.map_append, List.map_cons, List.sum_append, List.sum_cons]
  rw [add_left_comm (List.sum _), add_left_comm]

variable {world : DataWorld κ}

/-- A call on a set serves its purpose, and blocks keep their owners. -/
theorem callSet_serves (h : world.Accounted) {handle : Option Nat}
    (hown : ∀ addr ∈ handle, ∃ set ∈ world.sets, set.handle = addr) {call : SetCall κ}
    {purpose : CallPurpose κ} (hserves : Serves call purpose) :
    match world.registry.callSet handle purpose with
    | none => handle.isSome ∧ world.callSet handle call = .error .nullString
    | some registry => ∃ world', world.callSet handle call = .ok world' ∧
        world'.registry = registry ∧ world'.Accounted := by
  cases handle with
  | none => exact ⟨world.returns false, rfl, rfl, h⟩
  | some handle =>
    obtain ⟨set, hmem, hhandle⟩ := hown handle rfl
    obtain ⟨front, found, back, hsplit⟩ : ∃ front found back,
        splitFirst (fun set => decide (set.handle = handle)) world.sets
          = some (front, found, back) := by
      cases hsplit : splitFirst (fun set => decide (set.handle = handle)) world.sets with
      | none =>
        have hnone := splitFirst_eq_none hsplit set hmem
        simp [hhandle] at hnone
      | some parts => exact ⟨parts.1, parts.2.1, parts.2.2, rfl⟩
    obtain ⟨hsets, hfound, hfront⟩ := splitFirst_eq_some hsplit
    have haccess : world.memory.heap.access handle = .ok () := by
      refine h.access (Multiset.mem_add.mpr (.inl ?_))
      rw [← hhandle]
      exact Multiset.mem_coe.mpr (List.mem_map_of_mem hmem)
    have hkeeps := h
    rw [Accounted, owned_append_cons hsets] at hkeeps
    have hregistry : world.registry.registry handle = found.items.map (·.registered) := by
      simp only [registry, ← splitFirst_map_eq_find?, hsplit]
      rfl
    have heffect := hserves found.items world.memory _ hkeeps
    simp only [RegistryWorld.callSet, hregistry]
    cases hpurpose : purpose (found.items.map (·.registered)) with
    | none =>
      rw [hpurpose] at heffect
      refine ⟨rfl, ?_⟩
      simp only [callSet, hsplit, haccess, heffect, bind, Except.bind, Except.mapError]
    | some effect =>
      rw [hpurpose] at heffect
      obtain ⟨items, memory, hcall, hitems, hpublished, hlost, hkeeps'⟩ := heffect
      refine ⟨_, by simp only [callSet, hsplit, haccess, hcall, bind, Except.bind,
        Except.mapError]; rfl, ?_, ?_⟩
      · simp only [registry, returns, hpublished, hlost, RegistryWorld.mk.injEq, and_true]
        funext other
        rw [hsets]
        by_cases hother : other = handle
        · subst hother
          have hnone : front.find? (fun set => decide (set.handle = other)) = none := by
            simpa using hfront
          simp [List.find?_append, hnone, of_decide_eq_true hfound, hitems]
        · have hne : ¬ found.handle = other :=
            fun heq => hother (heq.symm.trans (of_decide_eq_true hfound))
          simp [List.find?_append, hne, Function.update_of_ne hother]
      · rw [Accounted, owned_append_cons (show (returns _ _ : DataWorld κ).sets
          = front ++ { found with items := items } :: back from rfl)]
        have hhandles : (front ++ { found with items := items } :: back).map (·.handle)
            = (front ++ found :: back).map (·.handle) := by simp
        rw [hhandles]
        exact hkeeps'

end DataWorld

section Steps

variable {world : DataWorld κ}

theorem createSet_serves (h : world.Accounted) (kind : DataSetKind) (allocated : Bool) :
    (world.createSet kind allocated).registry = world.registry.returns allocated ∧
      (world.createSet kind allocated).Accounted := by
  cases allocated with
  | false => exact ⟨rfl, h⟩
  | true =>
    obtain ⟨handle, heap, hmalloc, hkeeps⟩ := h.malloc
    have hcreate : world.createSet kind true = DataWorld.returns true
        { world with
          memory := world.memory.setHeap heap
          sets := world.sets ++ [⟨kind, handle, []⟩] } := by
      simp only [DataWorld.createSet, hmalloc]
    rw [hcreate]
    constructor
    · -- where there was no set, nothing was registered, and nothing is
      simp only [DataWorld.registry, DataWorld.returns, RegistryWorld.returns,
        RegistryWorld.mk.injEq, DataMemory.setHeap, and_true]
      funext other
      rw [List.find?_append]
      cases world.sets.find? fun set => decide (set.handle = other) with
      | some set => rfl
      | none =>
        by_cases hother : handle = other
        · simp [hother]
        · simp [hother]
    · have howned : DataWorld.owned (DataWorld.returns true
          { world with
            memory := world.memory.setHeap heap
            sets := world.sets ++ [⟨kind, handle, []⟩] }) = handle ::ₘ world.owned := by
        have hempty : itemBuffers ([] : List (DataItem κ)) = 0 := rfl
        simp only [DataWorld.owned, DataWorld.returns, List.map_append, List.map_cons, List.map_nil,
          ← Multiset.coe_add, Multiset.coe_singleton, List.sum_append, List.sum_cons, List.sum_nil,
          add_zero, hempty]
        rw [add_right_comm, add_comm _ ({handle} : Multiset Nat), Multiset.singleton_add]
      rw [DataWorld.Accounted, howned]
      exact hkeeps

theorem own_of_map {kind : DataSetKind} {handle : Option Nat}
    (h : ∀ target ∈ handle.map fun handle => (kind, handle),
      target ∈ world.sets.map fun set => (set.kind, set.handle)) :
    ∀ addr ∈ handle, ∃ set ∈ world.sets, set.handle = addr := by
  intro addr haddr
  have hmem := h (kind, addr) (Option.mem_map_of_mem _ haddr)
  obtain ⟨set, hset, heq⟩ := List.mem_map.mp hmem
  exact ⟨set, hset, (Prod.mk.inj heq).2⟩

/-- Without a set, an item that can be created is put into a list that is not there. -/
theorem registerWithSet_null (h : world.Accounted) (allocation : ItemAllocation)
    (key : Option String) (onGet : Option κ) (onSet : κ) :
    world.tbceClientattributesRegisterWithSet none allocation key onGet (some onSet)
      = if allocation.item && key.isSome && onGet.isSome then .error .nullPointer
        else .ok (world.returns false) := by
  cases key with
  | none =>
    rw [Option.isSome_none, Bool.and_false, Bool.false_and]
    rfl
  | some key =>
    cases onGet with
    | none =>
      rw [Option.isSome_none, Bool.and_false]
      rfl
    | some onGet =>
      cases hitem : allocation.item with
      | false =>
        simp only [DataWorld.tbceClientattributesRegisterWithSet, dataItemCreate, hitem]
        rfl
      | true =>
        obtain ⟨item, heap, hcreate, -, -⟩ :=
          dataItemCreate_keeps h allocation key onGet (some onSet) hitem
        simp only [DataWorld.tbceClientattributesRegisterWithSet, hcreate]
        rfl

/-- Every call of the application serves its purpose, and blocks keep their owners. -/
theorem dataStep_serves (h : world.Accounted) {input : DataInput κ} (hown : OwnSet world input) :
    match dataPurpose world.registry input with
    | none => dataStep world input = .error input.nullFault
    | some registry => ∃ world', dataStep world input = .ok world' ∧
        world'.registry = registry ∧ world'.Accounted := by
  have hcall : ∀ (kind : DataSetKind) (handle : Option Nat) (call : SetCall κ)
      (purpose : CallPurpose κ), Serves call purpose → input.target = handle.map (kind, ·) →
      match world.registry.callSet handle purpose with
      | none => world.callSet handle call = .error input.nullFault
      | some registry => ∃ world', world.callSet handle call = .ok world' ∧
          world'.registry = registry ∧ world'.Accounted := by
    intro kind handle call purpose hserves htarget
    rw [OwnSet, htarget] at hown
    have hset := DataWorld.callSet_serves h (own_of_map hown) hserves
    cases hpurpose : world.registry.callSet handle purpose with
    | none =>
      rw [hpurpose] at hset
      have hsome : input.target.isNone = false := by
        rw [htarget, Option.isNone_map]
        simpa using hset.1
      rw [DataInput.nullFault, hsome]
      exact hset.2
    | some registry =>
      rw [hpurpose] at hset
      exact hset
  cases input with
  | create kind allocated =>
    obtain ⟨hregistry, haccounted⟩ := createSet_serves h kind allocated
    cases kind <;> exact ⟨_, rfl, hregistry, haccounted⟩
  | destroy kind handle =>
    have hserves := hcall kind handle _ _ destroyItems_serves rfl
    cases kind <;> exact hserves
  | register kind handle allocation key onGet =>
    have hserves := hcall kind handle _ _ (registerItem_serves allocation key onGet none) rfl
    cases kind <;> exact hserves
  | registerWithSet handle allocation key onGet onSet =>
    cases onSet with
    | none => cases handle <;> exact ⟨world.returns false, rfl, rfl, h⟩
    | some onSet =>
      cases handle with
      | some handle =>
        exact hcall .clientattributes (some handle) _ _
          (registerItem_serves allocation key onGet (some onSet)) rfl
      | none =>
        simp only [dataPurpose, dataStep, registerWithSet_null h, Option.isNone_some,
          Option.isNone_none, Bool.true_and, Bool.false_eq_true, if_false]
        cases allocation.item && key.isSome && onGet.isSome with
        | true => rfl
        | false => exact ⟨world.returns false, rfl, rfl, h⟩
  | unregister kind handle key =>
    have hserves := hcall kind handle _ _ (unregisterItem_serves key) rfl
    cases kind <;> exact hserves
  | isContained handle key =>
    exact hcall .clientattributes handle _ _ (isContained_serves key) rfl
  | upload kind handle hasClient answers keys =>
    have hserves := hcall kind handle _ _
      (uploadItems_serves kind.topic hasClient answers keys) rfl
    cases kind <;> exact hserves

end Steps

/-! ## Whole runs -/

instance (world : DataWorld κ) (input : DataInput κ) : Decidable (OwnSet world input) :=
  inferInstanceAs (Decidable (∀ target ∈ input.target, _))

theorem dataStep_eq_ok {world world' : DataWorld κ} (h : world.Accounted) {input : DataInput κ}
    (hown : OwnSet world input) (hok : dataStep world input = .ok world') :
    dataPurpose world.registry input = some world'.registry ∧ world'.Accounted := by
  have hserves := dataStep_serves h hown
  cases hpurpose : dataPurpose world.registry input with
  | none =>
    rw [hpurpose] at hserves
    rw [hserves] at hok
    contradiction
  | some registry =>
    rw [hpurpose] at hserves
    obtain ⟨world'', hok', hregistry, haccounted⟩ := hserves
    obtain rfl := Except.ok.inj (hok'.symm.trans hok)
    exact ⟨congrArg some hregistry.symm, haccounted⟩

theorem accounted_initial (κ : Type) : (DataWorld.initial κ).Accounted := Accounts.empty

theorem accounted_of_run {inputs : List (DataInput κ)} {world : DataWorld κ}
    (run : Run (within OwnSet (Succeeds dataStep)) (.initial κ) inputs world) : world.Accounted :=
  run.invariant (accounted_initial κ) fun _ _ _ h taken => (dataStep_eq_ok h taken.1 taken.2).2

/-- Whatever is created, registered, taken out, uploaded and destroyed, in whatever order, and whatever
    cannot be allocated: what is registered, uploaded, lost and returned is what the calls are for, and
    a call that meets `NULL` is the only one that goes wrong. -/
theorem dataSets_refine {inputs : List (DataInput κ)} {world : DataWorld κ}
    (run : Run (within OwnSet (Succeeds dataStep)) (.initial κ) inputs world) :
    inputs.foldlM dataPurpose (.initial κ) = some world.registry ∧
      ∀ input, OwnSet world input →
        match dataPurpose world.registry input with
        | none => dataStep world input = .error input.nullFault
        | some registry => ∃ world', dataStep world input = .ok world' ∧
            world'.registry = registry := by
  constructor
  · induction run with
    | nil => rfl
    | snoc run taken ih =>
      rw [List.foldlM_append, ih]
      have hstep := (dataStep_eq_ok (accounted_of_run run) taken.1 taken.2).1
      simp [hstep]
  · intro input hown
    have hserves := dataStep_serves (accounted_of_run run) hown
    cases hpurpose : dataPurpose world.registry input with
    | none =>
      rw [hpurpose] at hserves
      exact hserves
    | some registry =>
      rw [hpurpose] at hserves
      obtain ⟨world', hok, hregistry, -⟩ := hserves
      exact ⟨world', hok, hregistry⟩

/-- Two axes whose `on_get` returns their context, of which one is taken out again. -/
def sampleDataInputs : List (DataInput Int) :=
  [.create .timeseriesdata true,
    .register .timeseriesdata (some 1) ⟨true, true⟩ (some "temperature") (some 20),
    .register .timeseriesdata (some 1) ⟨true, true⟩ (some "humidity") (some 60),
    .upload .timeseriesdata (some 1) true ⟨true, true, true, true, 7⟩
      [⟨some "humidity", fun value => some (.number value), true⟩,
        ⟨some "temperature", fun value => some (.number value), false⟩],
    .unregister .timeseriesdata (some 1) (some "temperature")]

theorem sampleData_run : Run (within OwnSet (Succeeds dataStep)) (.initial Int) sampleDataInputs
    (sampleDataInputs.foldl (advance dataStep) (.initial Int)) :=
  run_of_allowed (by decide)

theorem dataSets_refine_sampleData :
    ∃ world, Run (within OwnSet (Succeeds dataStep)) (.initial Int) sampleDataInputs world ∧
      sampleDataInputs.foldlM dataPurpose (.initial Int) = some world.registry :=
  ⟨_, sampleData_run, (dataSets_refine sampleData_run).1⟩

/-- Every block that is live has one owner: a set that was created, whether it was destroyed or not, an
    item or its key, or nobody, for a value that was not taken; and no call uses a block that was
    freed. -/
theorem dataSets_accounted {inputs : List (DataInput κ)} {world : DataWorld κ}
    (run : Run (within OwnSet (Succeeds dataStep)) (.initial κ) inputs world) :
    world.memory.heap.live.val = ↑world.memory.lost + (↑(world.sets.map (·.handle)) +
        (world.sets.map fun set => itemBuffers set.items).sum) ∧
      (∀ input, OwnSet world input → dataStep world input ≠ .error (.buffer .freed)) ∧
      ((∀ set ∈ world.sets, set.items = []) →
        world.memory.heap.live.card = world.sets.length + world.memory.lost.length) := by
  have haccounted := accounted_of_run run
  refine ⟨haccounted, ?_, ?_⟩
  · intro input hown hfreed
    have hserves := dataStep_serves haccounted hown
    cases hpurpose : dataPurpose world.registry input with
    | none =>
      rw [hpurpose] at hserves
      have hfault := Except.error.inj (hserves.symm.trans hfreed)
      unfold DataInput.nullFault at hfault
      split at hfault <;> contradiction
    | some registry =>
      rw [hpurpose] at hserves
      obtain ⟨world', hok, -⟩ := hserves
      rw [hok] at hfreed
      contradiction
  · intro hdestroyed
    have hempty : (world.sets.map fun set => itemBuffers set.items).sum = 0 := by
      refine List.sum_eq_zero ?_
      intro buffers hmem
      obtain ⟨set, hset, rfl⟩ := List.mem_map.mp hmem
      rw [hdestroyed set hset]
      rfl
    have hlive : world.memory.heap.live.val = ↑world.memory.lost + world.owned := haccounted
    rw [DataWorld.owned, hempty, add_zero] at hlive
    rw [Finset.card, hlive, Multiset.card_add, Multiset.coe_card, Multiset.coe_card,
      List.length_map, Nat.add_comm]

/-- The set is destroyed behind the sample. -/
def destroyedDataInputs : List (DataInput Int) :=
  sampleDataInputs ++ [.destroy .timeseriesdata (some 1)]

/-- What is left is the set, and the value that was not taken. -/
theorem dataSets_accounted_destroyed :
    ∃ world, Run (within OwnSet (Succeeds dataStep)) (.initial Int) destroyedDataInputs world ∧
      world.memory.heap.live.card = 1 + 1 := by
  have hrun : Run (within OwnSet (Succeeds dataStep)) (.initial Int) destroyedDataInputs
      (destroyedDataInputs.foldl (advance dataStep) (.initial Int)) := run_of_allowed (by decide)
  exact ⟨_, hrun, (dataSets_accounted hrun).2.2 (by decide)⟩

end ThingsboardMqtt
