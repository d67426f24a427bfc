import ThingsboardMqtt.Helper.UpdateCallbacks
import ThingsboardMqtt.Library.Slices

set_option autoImplicit false

/-! # Sets of shared attributes

`tbc_extension_sharedattributes.c`: a set of attributes is subscribed in packs of at most ten keys,
each pack by one entry in the client's list, and what is left of a pack is the id of the entry in its
attributes. `_subscribe_id` is one counter for all clients. An attribute is a cell at an address, for
`tbce_sharedattributes_subscribe` gathers pointers to attributes in an array.

`tbceSharedattributesSubscribe_eq` says what the loop over the two arrays comes to: every pack of the
attributes that were not subscribed is subscribed as a whole. -/

namespace ThingsboardMqtt

open ListWalk LinkedList Slices

/-! ## States -/

/-- `on_update` and `context` of an entry: those of the set, or those of somebody else. -/
inductive Subscriber
  | sharedattributes
  | other (context : Nat)
  deriving DecidableEq, Repr

/-- `sharedattribute_t` at an address; `on_set` is called by the address. -/
structure SharedattributeCell where
  addr : Nat
  subscribeId : Int
  key : String
  deriving DecidableEq, Repr

/-- `tbce_sharedattributes_t` -/
structure TbceSharedattributes where
  client : Option Nat
  sharedattributeList : List SharedattributeCell
  lastAddr : Nat
  allocated : ∀ cell ∈ sharedattributeList, cell.addr ≤ lastAddr
  nodup : (sharedattributeList.map (·.addr)).Nodup

/-- A set, the clients by their handles, and `_subscribe_id`. -/
structure SharedWorld where
  subscribeId : Nat
  clients : Nat → SubscribedClient Subscriber
  sharedattributes : TbceSharedattributes

/-- An `uint32_t` returned as `int`. -/
def toInt32 (value : Nat) : Int := if value < 2 ^ 31 then value else value - 2 ^ 32

/-- `tbce_sharedattributes_create` -/
def tbceSharedattributesCreate : TbceSharedattributes where
  client := none
  sharedattributeList := []
  lastAddr := 0
  allocated := by simp
  nodup := List.nodup_nil

/-- Clients as `tbcmh_init` makes them, and a set that was just created. -/
def sharedInit (now lastHandle : Nat) : SharedWorld where
  subscribeId := 0
  clients _ := .init now lastHandle
  sharedattributes := tbceSharedattributesCreate

/-- `sharedattribute->subscribe_id = subscribe_id` -/
def TbceSharedattributes.setSubscribeId (addr : Nat) (subscribeId : Int)
    (set : TbceSharedattributes) : TbceSharedattributes where
  client := set.client
  sharedattributeList := set.sharedattributeList.map fun cell =>
    if cell.addr = addr then { cell with subscribeId := subscribeId } else cell
  lastAddr := set.lastAddr
  allocated := by
    intro cell hmem
    obtain ⟨cell', hmem', rfl⟩ := List.mem_map.mp hmem
    have haddr := set.allocated cell' hmem'
    split <;> exact haddr
  nodup := by
    have haddrs : ((fun cell : SharedattributeCell => cell.addr) ∘ fun cell =>
        if cell.addr = addr then { cell with subscribeId := subscribeId } else cell)
          = fun cell => cell.addr := by
      funext cell
      dsimp only [Function.comp_apply]
      split <;> rfl
    rw [List.map_map, haddrs]
    exact set.nodup

namespace SubscribedClient

/-- The static counter of the file, put into the client. -/
def withSubscribeId (subscribeId : Nat) (subscribed : SubscribedClient Subscriber) :
    SubscribedClient Subscriber :=
  { subscribed with
    client := { subscribed.client with lastSubscribeId := subscribeId }
    agree := subscribed.agree }

end SubscribedClient

namespace SharedWorld

/-- `tbcmh_attributes_subscribe_of_array` of somebody's `on_update` -/
def tbcmhAttributesSubscribeOfArray (handle : Nat) (subscriber : Subscriber) (keys : List String)
    (world : SharedWorld) : Int × SharedWorld :=
  let result := ((world.clients handle).withSubscribeId world.subscribeId)
    |>.tbcmhAttributesSubscribe .application subscriber keys
  (toInt32 result.1,
    { world with
      subscribeId := result.1
      clients := Function.update world.clients handle result.2 })

/-- `tbcmh_attributes_unsubscribe` -/
def tbcmhAttributesUnsubscribe (handle : Nat) (subscribeId : Int) (world : SharedWorld) :
    SharedWorld :=
  { world with
    clients := Function.update world.clients handle
      ((world.clients handle).tbcmhAttributesUnsubscribe (toUint32 subscribeId)) }

/-! ## The C functions -/

/-- `tbce_sharedattributes_register` -/
def tbceSharedattributesRegister (key : String) (world : SharedWorld) : SharedWorld :=
  { world with
    sharedattributes :=
      { client := world.sharedattributes.client
        sharedattributeList := world.sharedattributes.sharedattributeList ++
          [{ addr := world.sharedattributes.lastAddr + 1
             subscribeId := -1
             key := key }]
        lastAddr := world.sharedattributes.lastAddr + 1
        allocated := by
          intro cell hmem
          rcases List.mem_append.mp hmem with hmem | hmem
          · exact Nat.le_succ_of_le (world.sharedattributes.allocated cell hmem)
          · rw [List.mem_singleton.mp hmem]
        nodup := by
          rw [List.map_append, List.map_singleton, List.nodup_append]
          refine ⟨world.sharedattributes.nodup, List.nodup_singleton _, ?_⟩
          intro addr hmem addr' hmem'
          obtain ⟨cell, hcell, rfl⟩ := List.mem_map.mp hmem
          rw [List.mem_singleton.mp hmem']
          exact Nat.ne_of_lt (Nat.lt_succ_of_le (world.sharedattributes.allocated cell hcell)) } }

/-- `tbce_sharedattributes_unregister` -/
def tbceSharedattributesUnregister (key : String) (world : SharedWorld) : SharedWorld :=
  { world with
    sharedattributes :=
      { client := world.sharedattributes.client
        sharedattributeList := removeFirst (fun cell => decide (cell.key = key))
          world.sharedattributes.sharedattributeList
        lastAddr := world.sharedattributes.lastAddr
        allocated := fun cell hmem =>
          world.sharedattributes.allocated cell ((removeFirst_sublist _ _).subset hmem)
        nodup := world.sharedattributes.nodup.sublist ((removeFirst_sublist _ _).map _) } }

/-- The cells of the set. -/
def cells (world : SharedWorld) : List SharedattributeCell :=
  world.sharedattributes.sharedattributeList

def setSubscribeId (addr : Nat) (subscribeId : Int) (world : SharedWorld) : SharedWorld :=
  { world with sharedattributes := world.sharedattributes.setSubscribeId addr subscribeId }

def setClient (client : Option Nat) (world : SharedWorld) : SharedWorld :=
  { world with sharedattributes := { world.sharedattributes with client := client } }

/-- A round of `tbce_sharedattributes_unsubscribe`. -/
def unsubscribeRound (handle : Nat) (cell : SharedattributeCell) (world : SharedWorld) :
    Except (WalkFault Fault) (Flow × SharedWorld) :=
  if 0 ≤ cell.subscribeId then
    .ok (.next, (world.tbcmhAttributesUnsubscribe handle cell.subscribeId).setSubscribeId
      cell.addr (-1))
  else .ok (.next, world)

/-- `tbce_sharedattributes_unsubscribe` -/
def tbceSharedattributesUnsubscribe (world : SharedWorld) :
    Except (WalkFault Fault) SharedWorld :=
  match world.sharedattributes.client with
  | none => .ok world
  | some handle => do
    let (_, world) ← foreachCell cells (·.addr) (unsubscribeRound handle) world
    .ok (world.setClient none)

end SharedWorld

/-- `array[i] = value` -/
def arrayStore {β : Type} (array : List (Option β)) (i : Nat) (value : β) :
    Except (WalkFault Fault) (List (Option β)) :=
  if i < array.length then .ok (array.set i (some value)) else .error .outOfBounds

/-- `array[0]` to `array[count - 1]`, read one after the other. -/
def arrayLoad {β : Type} (array : List (Option β)) (count : Nat) :
    Except (WalkFault Fault) (List (Option β)) :=
  if count ≤ array.length then .ok (array.take count) else .error .outOfBounds

/-- The variables of `tbce_sharedattributes_subscribe`, and the world. -/
structure SubscribeVars where
  attributeArray : List (Option Nat)
  keyArray : List (Option String)
  count : Nat
  world : SharedWorld

/-- `attribute_array[j]->subscribe_id = subscribe_id` for the pointers that were read. -/
def assignSubscribeId (subscribeId : Int) :
    List (Option Nat) → SharedWorld → Except (WalkFault Fault) SharedWorld
  | [], world => .ok world
  | none :: _, _ => .error .freed
  | some addr :: rest, world =>
    if world.cells.any (·.addr = addr) then
      assignSubscribeId subscribeId rest (world.setSubscribeId addr subscribeId)
    else .error .freed

/-- The gathered attributes are subscribed. A key that is `NULL` is not appended. -/
def subscribeGathered (handle : Nat) (vars : SubscribeVars) :
    Except (WalkFault Fault) SubscribeVars := do
  let keys ← arrayLoad vars.keyArray vars.count
  let (subscribeId, world) := vars.world.tbcmhAttributesSubscribeOfArray handle .sharedattributes
    (keys.filterMap id)
  if 0 ≤ subscribeId then
    let attributes ← arrayLoad vars.attributeArray vars.count
    let world ← assignSubscribeId subscribeId attributes world
    .ok { vars with count := 0, world := world }
  else .ok { vars with count := 0, world := world }

/-- A round of `tbce_sharedattributes_subscribe`. -/
def subscribeRound (handle maxAttributes : Nat) (cell : SharedattributeCell)
    (vars : SubscribeVars) : Except (WalkFault Fault) (Flow × SubscribeVars) :=
  if cell.subscribeId < 0 then do
    let attributeArray ← arrayStore vars.attributeArray vars.count cell.addr
    let keyArray ← arrayStore vars.keyArray vars.count cell.key
    let vars :=
      { vars with
        attributeArray := attributeArray
        keyArray := keyArray
        count := vars.count + 1 }
    if maxAttributes ≤ vars.count then do
      let vars ← subscribeGathered handle vars
      .ok (.next, vars)
    else .ok (.next, vars)
  else .ok (.next, vars)

/-- `tbce_sharedattributes_subscribe` -/
def tbceSharedattributesSubscribe (handle maxAttributesPerSubscribe : Nat)
    (world : SharedWorld) : Except (WalkFault Fault) SharedWorld :=
  if maxAttributesPerSubscribe = 0 then .ok world
  else do
    let world ←
      if world.sharedattributes.client.isSome && world.sharedattributes.client ≠ some handle then
        world.tbceSharedattributesUnsubscribe
      else .ok world
    let maxAttributes := if maxAttributesPerSubscribe < 10 then maxAttributesPerSubscribe else 10
    let (_, vars) ← foreachCell (fun vars : SubscribeVars => vars.world.cells) (·.addr)
      (subscribeRound handle maxAttributes)
      { attributeArray := List.replicate 10 none
        keyArray := List.replicate 10 none
        count := 0
        world := world }
    let vars ← if 0 < vars.count then subscribeGathered handle vars else .ok vars
    .ok (vars.world.setClient (some handle))

/-! ## A pack at a time -/

/-- The attribute is not subscribed. -/
def SharedattributeCell.unsubscribed (cell : SharedattributeCell) : Bool :=
  decide (cell.subscribeId < 0)

/-- A cell whose address is among these gets the id. -/
def SharedattributeCell.assigned (addrs : List Nat) (subscribeId : Int)
    (cell : SharedattributeCell) : SharedattributeCell :=
  if cell.addr ∈ addrs then { cell with subscribeId := subscribeId } else cell

namespace SharedWorld

/-- The id that the next subscription returns. -/
def nextId (world : SharedWorld) : Int := toInt32 ((world.subscribeId + 1) % 2 ^ 32)

def setSubscribeIds (addrs : List Nat) (subscribeId : Int) (world : SharedWorld) : SharedWorld :=
  addrs.foldl (fun world addr => world.setSubscribeId addr subscribeId) world

/-- A pack of attributes is subscribed, and they get the id. -/
def subscribePack (handle : Nat) (world : SharedWorld) (pack : List SharedattributeCell) :
    SharedWorld :=
  let result := world.tbcmhAttributesSubscribeOfArray handle .sharedattributes (pack.map (·.key))
  if 0 ≤ result.1 then result.2.setSubscribeIds (pack.map (·.addr)) result.1 else result.2

variable (world : SharedWorld)

theorem cells_setSubscribeId (addr : Nat) (subscribeId : Int) :
    (world.setSubscribeId addr subscribeId).cells
      = world.cells.map (·.assigned [addr] subscribeId) := by
  simp only [cells, setSubscribeId, TbceSharedattributes.setSubscribeId,
    SharedattributeCell.assigned, List.mem_singleton]

theorem addr_assigned (addrs : List Nat) (subscribeId : Int) (cell : SharedattributeCell) :
    (cell.assigned addrs subscribeId).addr = cell.addr := by
  unfold SharedattributeCell.assigned
  split <;> rfl

theorem assigned_of_not_mem {addrs : List Nat} {cell : SharedattributeCell}
    (h : cell.addr ∉ addrs) (subscribeId : Int) : cell.assigned addrs subscribeId = cell :=
  if_neg h

theorem cells_setSubscribeIds (addrs : List Nat) (subscribeId : Int) :
    (world.setSubscribeIds addrs subscribeId).cells
      = world.cells.map (·.assigned addrs subscribeId) := by
  induction addrs generalizing world with
  | nil =>
    have hid : (fun cell : SharedattributeCell => cell.assigned [] subscribeId) = id := by
      funext cell
      exact assigned_of_not_mem List.not_mem_nil subscribeId
    rw [hid, List.map_id]
    rfl
  | cons addr rest ih =>
    have hstep := ih (world.setSubscribeId addr subscribeId)
    rw [cells_setSubscribeId, List.map_map] at hstep
    refine hstep.trans (List.map_congr_left ?_)
    intro cell _
    by_cases haddr : cell.addr = addr
    · simp [SharedattributeCell.assigned, haddr]
    · simp [SharedattributeCell.assigned, haddr]

theorem cells_subscribePack (handle : Nat) (pack : List SharedattributeCell) :
    (world.subscribePack handle pack).cells
      = if 0 ≤ world.nextId then world.cells.map (·.assigned (pack.map (·.addr)) world.nextId)
        else world.cells := by
  simp only [subscribePack]
  split
  · rename_i hid
    rw [cells_setSubscribeIds]
    exact (if_pos hid).symm
  · rename_i hid
    exact (if_neg hid).symm

theorem map_addr_subscribePack (handle : Nat) (pack : List SharedattributeCell) :
    (world.subscribePack handle pack).cells.map (·.addr) = world.cells.map (·.addr) := by
  rw [cells_subscribePack]
  split
  · rw [List.map_map]
    exact List.map_congr_left fun cell _ => addr_assigned _ _ cell
  · rfl

end SharedWorld

theorem assignSubscribeId_eq {addrs : List Nat} {world : SharedWorld}
    (haddrs : ∀ addr ∈ addrs, addr ∈ world.cells.map (·.addr)) (subscribeId : Int) :
    assignSubscribeId subscribeId (addrs.map some) world
      = .ok (world.setSubscribeIds addrs subscribeId) := by
  induction addrs generalizing world with
  | nil => rfl
  | cons addr rest ih =>
    have hmem : world.cells.any (·.addr = addr) = true := by
      obtain ⟨cell, hcell, haddr⟩ := List.mem_map.mp (haddrs addr List.mem_cons_self)
      exact List.any_eq_true.mpr ⟨cell, hcell, by simpa using haddr⟩
    rw [List.map_cons, assignSubscribeId, if_pos hmem]
    refine ih ?_
    intro addr' hmem'
    have hsame : (world.setSubscribeId addr subscribeId).cells.map (·.addr)
        = world.cells.map (·.addr) := by
      rw [SharedWorld.cells_setSubscribeId, List.map_map]
      exact List.map_congr_left fun cell _ => SharedWorld.addr_assigned _ _ cell
    rw [hsame]
    exact haddrs addr' (List.mem_cons_of_mem _ hmem')

/-- The arrays hold the attributes that wait to be subscribed, in front of what is left of earlier
    ones. -/
structure SubscribeVars.Gathers (vars : SubscribeVars) (waiting : List SharedattributeCell) :
    Prop where
  count : vars.count = waiting.length
  attributes : vars.attributeArray.length = 10 ∧
    vars.attributeArray.take waiting.length = waiting.map fun cell => some cell.addr
  keys : vars.keyArray.length = 10 ∧
    vars.keyArray.take waiting.length = waiting.map fun cell => some cell.key

theorem subscribeGathered_eq {vars : SubscribeVars} {waiting : List SharedattributeCell}
    (h : vars.Gathers waiting) (hsize : waiting.length ≤ 10) (handle : Nat)
    (haddrs : ∀ cell ∈ waiting, cell.addr ∈ vars.world.cells.map (·.addr)) :
    subscribeGathered handle vars
      = .ok { vars with
          count := 0
          world := vars.world.subscribePack handle waiting } := by
  have hkeys : arrayLoad vars.keyArray vars.count = .ok (waiting.map fun cell => some cell.key) := by
    rw [arrayLoad, h.count, if_pos (by rw [h.keys.1]; exact hsize), h.keys.2]
  have hattributes : arrayLoad vars.attributeArray vars.count
      = .ok ((waiting.map (·.addr)).map some) := by
    rw [arrayLoad, h.count, if_pos (by rw [h.attributes.1]; exact hsize), h.attributes.2,
      List.map_map]
    rfl
  have hfilter : (waiting.map fun cell => some cell.key).filterMap id
      = waiting.map (·.key) := by
    rw [List.filterMap_map]
    simp
  have hassign : ∀ subscribeId keys,
      assignSubscribeId subscribeId ((waiting.map (·.addr)).map some)
          (vars.world.tbcmhAttributesSubscribeOfArray handle .sharedattributes keys).2
        = .ok (SharedWorld.setSubscribeIds (waiting.map (·.addr)) subscribeId
            (vars.world.tbcmhAttributesSubscribeOfArray handle .sharedattributes keys).2) := by
    intro subscribeId keys
    refine assignSubscribeId_eq ?_ subscribeId
    intro addr hmem
    obtain ⟨cell, hcell, rfl⟩ := List.mem_map.mp hmem
    exact haddrs cell hcell
  simp only [subscribeGathered, hkeys, hattributes, hfilter, hassign, bind, Except.bind,
    SharedWorld.subscribePack]
  split <;> rfl

/-- An attribute that is not subscribed is gathered. -/
theorem SubscribeVars.Gathers.store {vars : SubscribeVars} {waiting : List SharedattributeCell}
    (h : vars.Gathers waiting) (hsize : waiting.length < 10) (cell : SharedattributeCell) :
    ∃ attributeArray keyArray,
      arrayStore vars.attributeArray vars.count cell.addr = .ok attributeArray ∧
      arrayStore vars.keyArray vars.count cell.key = .ok keyArray ∧
      SubscribeVars.Gathers
        { vars with
          attributeArray := attributeArray
          keyArray := keyArray
          count := vars.count + 1 } (waiting ++ [cell]) := by
  have hgrow : ∀ {β : Type} (array : List (Option β)) (values : List (Option β)) (value : β),
      array.length = 10 → array.take waiting.length = values →
      (array.set waiting.length (some value)).take (waiting.length + 1)
        = values ++ [some value] := by
    intro β array values value hlength htake
    rw [List.take_add_one, List.getElem?_set_self (by omega), List.take_set_of_le (Nat.le_refl _),
      htake]
    rfl
  refine ⟨_, _, if_pos (by rw [h.count, h.attributes.1]; exact hsize),
    if_pos (by rw [h.count, h.keys.1]; exact hsize), ?_, ⟨?_, ?_⟩, ⟨?_, ?_⟩⟩
  · simp [h.count]
  · simp [h.attributes.1]
  · rw [h.count, List.length_append, List.length_singleton, List.map_append, List.map_singleton]
    exact hgrow _ _ _ h.attributes.1 h.attributes.2
  · simp [h.keys.1]
  · rw [h.count, List.length_append, List.length_singleton, List.map_append, List.map_singleton]
    exact hgrow _ _ _ h.keys.1 h.keys.2

/-- The packs in which a set is subscribed. -/
def SharedWorld.unsubscribedPacks (maxAttributesPerSubscribe : Nat) (world : SharedWorld) :
    List (List SharedattributeCell) :=
  packs (min maxAttributesPerSubscribe 10) [] (world.cells.filter (·.unsubscribed))

/-- The invariant of the loop: what waits was visited, the cells to come are as they were, and
    subscribing what waits with them in packs leads to the world that the whole loop leads to. -/
structure Subscribing (handle size : Nat) (target : SharedWorld)
    (done todo : List SharedattributeCell) (vars : SubscribeVars) : Prop where
  waiting : ∃ waiting front, vars.Gathers waiting ∧ waiting.length < size ∧
    (∀ cell ∈ waiting, cell.addr ∈ front.map (·.addr)) ∧ vars.world.cells = front ++ todo ∧
    (packs size waiting (todo.filter (·.unsubscribed))).foldl
      (SharedWorld.subscribePack handle) vars.world = target

/-- A pack of cells that were visited leaves those to come as they are. -/
theorem SharedWorld.cells_subscribePack_append {world : SharedWorld}
    {front todo pack : List SharedattributeCell} (hcells : world.cells = front ++ todo)
    (hpack : ∀ cell ∈ pack, cell.addr ∈ front.map (·.addr)) (handle : Nat) :
    ∃ front', (world.subscribePack handle pack).cells = front' ++ todo ∧
      front'.map (·.addr) = front.map (·.addr) := by
  have hnodup : ((front ++ todo).map (·.addr)).Nodup := hcells ▸ world.sharedattributes.nodup
  rw [List.map_append, List.nodup_append] at hnodup
  rw [cells_subscribePack, hcells]
  split
  · refine ⟨front.map (·.assigned (pack.map (·.addr)) world.nextId), ?_, ?_⟩
    · rw [List.map_append]
      congr 1
      rw [← List.map_id todo, List.map_map]
      refine List.map_congr_left ?_
      intro cell hcell
      refine assigned_of_not_mem ?_ _
      intro hmem
      obtain ⟨cell', hcell', haddr⟩ := List.mem_map.mp hmem
      exact hnodup.2.2 cell'.addr (hpack cell' hcell') cell.addr
        (List.mem_map_of_mem hcell) haddr
    · rw [List.map_map]
      exact List.map_congr_left fun cell _ => addr_assigned _ _ cell
  · exact ⟨front, rfl, rfl⟩

theorem subscribeRound_keeps {handle size : Nat} {target : SharedWorld}
    (hsize : size ≤ 10) (hpos : 0 < size) {done todo : List SharedattributeCell}
    {cell : SharedattributeCell} {vars : SubscribeVars}
    (h : Subscribing handle size target done (cell :: todo) vars) :
    ∃ vars', subscribeRound handle size cell vars = .ok (.next, vars') ∧
      Subscribing handle size target (done ++ [cell]) todo vars' := by
  obtain ⟨waiting, front, hgathers, hlength, haddrs, hcells, htarget⟩ := h.waiting
  have hcells' : vars.world.cells = (front ++ [cell]) ++ todo := by simp [hcells]
  have haddrs' : ∀ cell' ∈ waiting ++ [cell],
      cell'.addr ∈ (front ++ [cell]).map (·.addr) := by
    intro cell' hmem
    rw [List.map_append, List.mem_append]
    rcases List.mem_append.mp hmem with hmem | hmem
    · exact .inl (haddrs cell' hmem)
    · rw [List.mem_singleton.mp hmem]
      exact .inr (List.mem_singleton_self _)
  cases hunsub : cell.unsubscribed with
  | false =>
    have hid : ¬ cell.subscribeId < 0 := by simpa [SharedattributeCell.unsubscribed] using hunsub
    refine ⟨vars, by rw [subscribeRound, if_neg hid], ⟨waiting, front ++ [cell], hgathers, hlength,
      ?_, hcells', ?_⟩⟩
    · intro cell' hmem
      exact haddrs' cell' (List.mem_append_left _ hmem)
    · rwa [List.filter_cons, hunsub] at htarget
  | true =>
    have hid : cell.subscribeId < 0 := by simpa [SharedattributeCell.unsubscribed] using hunsub
    rw [List.filter_cons, if_pos hunsub, packs] at htarget
    obtain ⟨attributeArray, keyArray, hattribute, hkey, hgathers'⟩ :=
      hgathers.store (by omega) cell
    rw [hgathers.count] at hattribute hkey hgathers'
    simp only [subscribeRound, if_pos hid, hgathers.count, hattribute, hkey, bind, Except.bind]
    by_cases hfull : size ≤ waiting.length + 1
    · -- the pack is full and subscribed
      rw [if_pos hfull, List.foldl_cons] at htarget
      have hlength' : (waiting ++ [cell]).length ≤ 10 := by
        rw [List.length_append, List.length_singleton]
        omega
      rw [if_pos hfull, subscribeGathered_eq hgathers' hlength' handle]
      · obtain ⟨front', hfront', -⟩ :=
          SharedWorld.cells_subscribePack_append hcells' haddrs' handle
        refine ⟨_, rfl, ⟨[], front', ?_, hpos, ?_, hfront', htarget⟩⟩
        · exact ⟨rfl, ⟨hgathers'.attributes.1, rfl⟩, ⟨hgathers'.keys.1, rfl⟩⟩
        · simp
      · intro cell' hmem
        rw [hcells', List.map_append]
        exact List.mem_append_left _ (haddrs' cell' hmem)
    · rw [if_neg hfull] at htarget ⊢
      refine ⟨_, rfl, ⟨waiting ++ [cell], front ++ [cell], hgathers', ?_, haddrs', hcells',
        htarget⟩⟩
      rw [List.length_append, List.length_singleton]
      omega

/-- A set that is bound to no other client is subscribed pack by pack. -/
theorem tbceSharedattributesSubscribe_eq {world : SharedWorld} {handle maxAttributes : Nat}
    (hmax : 0 < maxAttributes)
    (hclient : world.sharedattributes.client = none ∨
      world.sharedattributes.client = some handle) :
    tbceSharedattributesSubscribe handle maxAttributes world
      = .ok (((world.unsubscribedPacks maxAttributes).foldl
          (SharedWorld.subscribePack handle) world).setClient (some handle)) := by
  have hsize : (if maxAttributes < 10 then maxAttributes else 10) = min maxAttributes 10 := by
    split <;> omega
  have hbound : (world.sharedattributes.client.isSome &&
      decide (world.sharedattributes.client ≠ some handle)) = false := by
    obtain hnone | hsome := hclient
    · simp [hnone]
    · simp [hsome]
  have hten : min maxAttributes 10 ≤ 10 := Nat.min_le_right _ _
  have hpos : 0 < min maxAttributes 10 := by omega
  let start : SubscribeVars :=
    { attributeArray := List.replicate 10 none
      keyArray := List.replicate 10 none
      count := 0
      world := world }
  have hstart : Subscribing handle (min maxAttributes 10)
      ((world.unsubscribedPacks maxAttributes).foldl (SharedWorld.subscribePack handle) world) []
      start.world.cells start :=
    ⟨[], [], ⟨rfl, ⟨List.length_replicate, rfl⟩, ⟨List.length_replicate, rfl⟩⟩,
      hpos, by simp, rfl, rfl⟩
  have hnodup : ∀ vars : SubscribeVars, (vars.world.cells.map (·.addr)).Nodup :=
    fun vars => vars.world.sharedattributes.nodup
  have hcome : ∀ done todo vars, Subscribing handle (min maxAttributes 10)
      ((world.unsubscribedPacks maxAttributes).foldl (SharedWorld.subscribePack handle) world)
      done todo vars → ∃ front, vars.world.cells = front ++ todo := by
    intro done todo vars h
    obtain ⟨_, front, -, -, -, hcells, -⟩ := h.waiting
    exact ⟨front, hcells⟩
  obtain ⟨vars, hloop, hdone⟩ := foreachCell_rule hnodup hcome
    (fun _ _ _ _ h => subscribeRound_keeps hten hpos h) hstart
  obtain ⟨waiting, front, hgathers, hlength, haddrs, hcells, htarget⟩ := hdone.waiting
  rw [List.filter_nil, packs] at htarget
  simp only [tbceSharedattributesSubscribe, if_neg (Nat.ne_of_gt hmax), hbound,
    Bool.false_eq_true, if_false, hsize, bind, Except.bind]
  simp only [start] at hloop
  rw [hloop]
  -- what waits behind the loop is the last pack
  dsimp only
  by_cases hcount : 0 < vars.count
  · rw [if_pos hcount]
    have hwaiting : waiting.isEmpty = false := by
      cases waiting with
      | nil => exact absurd hgathers.count (Nat.ne_of_gt hcount)
      | cons cell rest => rfl
    rw [hwaiting] at htarget
    rw [subscribeGathered_eq hgathers (by omega)]
    · rw [← htarget]
      rfl
    · intro cell hmem
      rw [hcells, List.append_nil]
      exact haddrs cell hmem
  · rw [if_neg hcount]
    have hwaiting : waiting.isEmpty = true := by
      have hzero : waiting.length = 0 := hgathers.count ▸ Nat.eq_zero_of_not_pos hcount
      rw [List.eq_nil_of_length_eq_zero hzero]
      rfl
    rw [hwaiting] at htarget
    rw [← htarget]
    rfl

end ThingsboardMqtt
