import Mathlib.Data.List.Forall2
import ThingsboardMqtt.Extension.Sharedattributes

set_option autoImplicit false

/-! # The subscriptions of a set

A set knows its subscriptions only by the ids in its attributes. Subscribing makes one entry for each
pack of attributes that were not subscribed, and they get its id (`Partitioned`). An id from `2 ^ 31`
on is negative as `int`, and then they do not (`HoldsPack`). -/

namespace ThingsboardMqtt

open LinkedList ListWalk Slices

/-! ## One pack after the other -/

/-- An attribute of a subscription that returned `id`, which is negative from `2 ^ 31` on. -/
def SharedattributeCell.subscribedBy (id : Int) (cell : SharedattributeCell) :
    SharedattributeCell :=
  if 0 ≤ id then { cell with subscribeId := id } else cell

theorem SharedattributeCell.addr_subscribedBy (id : Int) (cell : SharedattributeCell) :
    (cell.subscribedBy id).addr = cell.addr := by
  unfold subscribedBy
  split <;> rfl

theorem SharedattributeCell.key_subscribedBy (id : Int) (cell : SharedattributeCell) :
    (cell.subscribedBy id).key = cell.key := by
  unfold subscribedBy
  split <;> rfl

/-- An entry holds a pack of attributes: it has their keys, and they have its id. -/
structure HoldsPack (world : SharedWorld) (entry : SubscribeEntry Subscriber)
    (pack : List SharedattributeCell) : Prop where
  context : entry.context = .sharedattributes
  keyList : entry.subscribe.keyList = pack.map (·.key)
  attributes : ∀ cell ∈ pack,
    cell.subscribedBy (toInt32 entry.subscribe.subscribeId) ∈ world.cells

section

variable (world : SharedWorld) (handle : Nat) (pack : List SharedattributeCell)

/-- The entry that a pack becomes. -/
def SharedWorld.packEntry : SubscribeEntry Subscriber where
  addr := (world.clients handle).lastAddr + 1
  subscribe :=
    { subscribeId := (world.subscribeId + 1) % 2 ^ 32
      keyList := pack.map (·.key)
      reader := .application }
  context := .sharedattributes

theorem SharedWorld.clients_setSubscribeIds (addrs : List Nat) (subscribeId : Int) :
    (world.setSubscribeIds addrs subscribeId).clients = world.clients ∧
      (world.setSubscribeIds addrs subscribeId).subscribeId = world.subscribeId := by
  induction addrs generalizing world with
  | nil => exact ⟨rfl, rfl⟩
  | cons addr rest ih => exact ih (world.setSubscribeId addr subscribeId)

theorem SharedWorld.entries_subscribePack :
    ((world.subscribePack handle pack).clients handle).entries
      = (world.clients handle).entries ++ [world.packEntry handle pack] := by
  have hentries : ((world.tbcmhAttributesSubscribeOfArray handle .sharedattributes
      (pack.map (·.key))).2.clients handle).entries
        = (world.clients handle).entries ++ [world.packEntry handle pack] := by
    simp only [tbcmhAttributesSubscribeOfArray, Function.update_self]
    rfl
  simp only [subscribePack]
  split
  · rw [(clients_setSubscribeIds _ _ _).1, hentries]
  · exact hentries

theorem SharedWorld.clients_subscribePack {other : Nat} (hother : other ≠ handle) :
    (world.subscribePack handle pack).clients other = world.clients other := by
  simp only [subscribePack]
  split
  · rw [(clients_setSubscribeIds _ _ _).1]
    exact Function.update_of_ne hother _ _
  · exact Function.update_of_ne hother _ _

theorem SharedWorld.subscribeId_subscribePack :
    (world.subscribePack handle pack).subscribeId = (world.subscribeId + 1) % 2 ^ 32 := by
  simp only [subscribePack]
  split
  · exact (clients_setSubscribeIds _ _ _).2
  · rfl

end

theorem SharedWorld.mem_cells_subscribePack {world : SharedWorld} (handle : Nat)
    (pack : List SharedattributeCell) {cell : SharedattributeCell} (hcell : cell ∈ world.cells) :
    (if cell.addr ∈ pack.map (·.addr) then cell.subscribedBy world.nextId else cell)
      ∈ (world.subscribePack handle pack).cells := by
  rw [cells_subscribePack]
  by_cases hid : 0 ≤ world.nextId
  · rw [if_pos hid]
    refine List.mem_map.mpr ⟨cell, hcell, ?_⟩
    rw [SharedattributeCell.assigned, SharedattributeCell.subscribedBy, if_pos hid]
  · rw [if_neg hid, SharedattributeCell.subscribedBy, if_neg hid]
    simpa using hcell

/-- What subscribing packs comes to. `subscribeIds` counts on from `_subscribe_id`. -/
structure PacksSubscribed (handle : Nat) (world world' : SharedWorld)
    (appended : List (SubscribeEntry Subscriber)) (packs : List (List SharedattributeCell)) :
    Prop where
  entries : (world'.clients handle).entries = (world.clients handle).entries ++ appended
  others : ∀ other ≠ handle, world'.clients other = world.clients other
  holds : List.Forall₂ (HoldsPack world') appended packs
  subscribeIds : appended.map (·.subscribe.subscribeId)
    = (List.range packs.length).map fun k => (world.subscribeId + k + 1) % 2 ^ 32
  kept : ∀ cell ∈ world.cells, cell.addr ∉ packs.flatten.map (·.addr) → cell ∈ world'.cells
  addrs : world'.cells.map (·.addr) = world.cells.map (·.addr)

theorem packsSubscribed_foldl (handle : Nat) {packs : List (List SharedattributeCell)}
    {world : SharedWorld} (hmem : ∀ cell ∈ packs.flatten, cell ∈ world.cells)
    (hnodup : (packs.flatten.map (·.addr)).Nodup) :
    ∃ appended, PacksSubscribed handle world
      (packs.foldl (SharedWorld.subscribePack handle) world) appended packs := by
  induction packs generalizing world with
  | nil =>
    exact ⟨[], (List.append_nil _).symm, fun _ _ => rfl, .nil, rfl, fun cell hcell _ => hcell, rfl⟩
  | cons pack rest ih =>
    rw [List.flatten_cons, List.map_append, List.nodup_append] at hnodup
    obtain ⟨-, hrest, hdisjoint⟩ := hnodup
    have hapart : ∀ cell ∈ rest.flatten, cell.addr ∉ pack.map (·.addr) := by
      intro cell hcell hpack
      exact hdisjoint cell.addr hpack cell.addr (List.mem_map_of_mem hcell) rfl
    have hmem' : ∀ cell ∈ rest.flatten, cell ∈ (world.subscribePack handle pack).cells := by
      intro cell hcell
      have hnext := SharedWorld.mem_cells_subscribePack handle pack
        (hmem cell (List.mem_append_right _ hcell))
      rwa [if_neg (hapart cell hcell)] at hnext
    obtain ⟨appended, hsubscribed⟩ := ih hmem' hrest
    refine ⟨world.packEntry handle pack :: appended, ?_, ?_, ?_, ?_, ?_, ?_⟩
    · rw [List.foldl_cons, hsubscribed.entries, SharedWorld.entries_subscribePack,
        List.append_assoc, List.singleton_append]
    · intro other hother
      rw [List.foldl_cons, hsubscribed.others other hother,
        SharedWorld.clients_subscribePack world handle pack hother]
    · refine .cons ⟨rfl, rfl, ?_⟩ hsubscribed.holds
      intro cell hcell
      have hcell' := SharedWorld.mem_cells_subscribePack handle pack
        (hmem cell (List.mem_append_left _ hcell))
      rw [if_pos (List.mem_map_of_mem hcell)] at hcell'
      refine hsubscribed.kept _ hcell' ?_
      rw [SharedattributeCell.addr_subscribedBy]
      intro hlater
      exact hdisjoint cell.addr (List.mem_map_of_mem hcell) cell.addr hlater rfl
    · rw [List.map_cons, hsubscribed.subscribeIds, SharedWorld.subscribeId_subscribePack,
        List.length_cons, List.range_succ_eq_map, List.map_cons, List.map_map]
      congr 1
      refine List.map_congr_left ?_
      intro k _
      simp only [Function.comp_apply]
      omega
    · intro cell hcell hnone
      rw [List.flatten_cons, List.map_append, List.mem_append, not_or] at hnone
      have hcell' := SharedWorld.mem_cells_subscribePack handle pack hcell
      rw [if_neg hnone.1] at hcell'
      exact hsubscribed.kept cell hcell' hnone.2
    · rw [List.foldl_cons, hsubscribed.addrs, SharedWorld.map_addr_subscribePack]

theorem SharedWorld.foldl_subscribePack (handle : Nat) (packs : List (List SharedattributeCell))
    (world : SharedWorld) (hlt : world.subscribeId + packs.length < 2 ^ 32) :
    (packs.foldl (subscribePack handle) world).subscribeId = world.subscribeId + packs.length := by
  induction packs generalizing world with
  | nil => rfl
  | cons pack rest ih =>
    rw [List.length_cons] at hlt ⊢
    have hnext : (world.subscribePack handle pack).subscribeId = world.subscribeId + 1 := by
      rw [subscribeId_subscribePack, Nat.mod_eq_of_lt (by omega)]
    rw [List.foldl_cons, ih _ (by rw [hnext]; omega), hnext]
    omega

theorem exists_of_forall₂_right {α β : Type} {R : α → β → Prop} {l : List α} {l' : List β}
    (h : List.Forall₂ R l l') {b : β} (hb : b ∈ l') : ∃ a ∈ l, R a b := by
  induction h with
  | nil => exact absurd hb List.not_mem_nil
  | cons hhead _ ih =>
    rcases List.mem_cons.mp hb with rfl | hb
    · exact ⟨_, List.mem_cons_self, hhead⟩
    · obtain ⟨a, ha, hR⟩ := ih hb
      exact ⟨a, List.mem_cons_of_mem _ ha, hR⟩

theorem exists_of_forall₂_left {α β : Type} {R : α → β → Prop} {l : List α} {l' : List β}
    (h : List.Forall₂ R l l') {a : α} (ha : a ∈ l) : ∃ b ∈ l', R a b :=
  exists_of_forall₂_right h.flip ha

/-- The element that stands across from one of the other list. -/
theorem split_of_forall₂ {α β : Type} {R : α → β → Prop} {l : List α} {front back : List β} {b : β}
    (h : List.Forall₂ R l (front ++ b :: back)) :
    ∃ lfront a lback, l = lfront ++ a :: lback ∧ List.Forall₂ R lfront front ∧ R a b ∧
      List.Forall₂ R lback back := by
  induction front generalizing l with
  | nil =>
    cases h with
    | cons hhead htail => exact ⟨[], _, _, rfl, .nil, hhead, htail⟩
  | cons c front ih =>
    cases h with
    | cons hhead htail =>
      obtain ⟨lfront, a, lback, rfl, hfront, hmid, hback⟩ := ih htail
      exact ⟨_ :: lfront, a, lback, rfl, .cons hhead hfront, hmid, hback⟩

theorem SharedWorld.eq_of_addr {world : SharedWorld} {cell cell' : SharedattributeCell}
    (hcell : cell ∈ world.cells) (hcell' : cell' ∈ world.cells) (haddr : cell.addr = cell'.addr) :
    cell = cell' :=
  List.inj_on_of_nodup_map world.sharedattributes.nodup hcell hcell' haddr

/-- An attribute that was subscribed stays as it was. -/
theorem PacksSubscribed.kept_subscribed {handle : Nat} {world world' : SharedWorld}
    {appended : List (SubscribeEntry Subscriber)} {packs : List (List SharedattributeCell)}
    (h : PacksSubscribed handle world world' appended packs)
    (hflatten : packs.flatten = world.cells.filter (·.unsubscribed))
    {cell : SharedattributeCell} (hcell : cell ∈ world.cells)
    (hsubscribed : cell.unsubscribed = false) : cell ∈ world'.cells := by
  refine h.kept cell hcell ?_
  rw [hflatten]
  intro hmem
  obtain ⟨other, hother, haddr⟩ := List.mem_map.mp hmem
  have hsame := SharedWorld.eq_of_addr (List.mem_of_mem_filter hother) hcell haddr
  rw [← hsame, (List.mem_filter.mp hother).2] at hsubscribed
  contradiction

/-- A cell behind the subscriptions was subscribed before, or is in a pack of one of the new entries. -/
theorem PacksSubscribed.cell_cases {handle : Nat} {world world' : SharedWorld}
    {appended : List (SubscribeEntry Subscriber)} {packs : List (List SharedattributeCell)}
    (h : PacksSubscribed handle world world' appended packs)
    (hflatten : packs.flatten = world.cells.filter (·.unsubscribed))
    {cell' : SharedattributeCell} (hcell' : cell' ∈ world'.cells) :
    (cell' ∈ world.cells ∧ cell'.unsubscribed = false) ∨
      ∃ entry ∈ appended, ∃ pack ∈ packs, HoldsPack world' entry pack ∧ ∃ cell ∈ pack,
        cell' = cell.subscribedBy (toInt32 entry.subscribe.subscribeId) := by
  have haddr := List.mem_map_of_mem (f := fun cell : SharedattributeCell => cell.addr) hcell'
  rw [h.addrs] at haddr
  obtain ⟨cell, hcell, haddr⟩ := List.mem_map.mp haddr
  cases hunsubscribed : cell.unsubscribed with
  | true =>
    have hmem : cell ∈ packs.flatten := by
      rw [hflatten]
      exact List.mem_filter.mpr ⟨hcell, hunsubscribed⟩
    obtain ⟨pack, hpack, hin⟩ := List.mem_flatten.mp hmem
    obtain ⟨entry, hentry, hholds⟩ := exists_of_forall₂_right h.holds hpack
    refine .inr ⟨entry, hentry, pack, hpack, hholds, cell, hin, ?_⟩
    refine SharedWorld.eq_of_addr hcell' (hholds.attributes cell hin) ?_
    rw [SharedattributeCell.addr_subscribedBy]
    exact haddr.symm
  | false =>
    have hkept := h.kept_subscribed hflatten hcell hunsubscribed
    obtain rfl : cell = cell' := SharedWorld.eq_of_addr hkept hcell' haddr
    exact .inl ⟨hcell, hunsubscribed⟩

/-- The ids of the new entries, when the counter does not wrap. -/
theorem PacksSubscribed.ids {handle : Nat} {world world' : SharedWorld}
    {appended : List (SubscribeEntry Subscriber)} {packs : List (List SharedattributeCell)}
    (h : PacksSubscribed handle world world' appended packs)
    (hlt : world.subscribeId + packs.length < 2 ^ 32) :
    (∀ entry ∈ appended, world.subscribeId < entry.subscribe.subscribeId ∧
        entry.subscribe.subscribeId ≤ world.subscribeId + packs.length) ∧
      (appended.map (·.subscribe.subscribeId)).Nodup := by
  have hbelow : ∀ k < packs.length,
      (world.subscribeId + k + 1) % 2 ^ 32 = world.subscribeId + k + 1 := by
    intro k hk
    exact Nat.mod_eq_of_lt (by omega)
  constructor
  · intro entry hentry
    have hid := List.mem_map_of_mem (f := fun entry : SubscribeEntry Subscriber =>
      entry.subscribe.subscribeId) hentry
    rw [h.subscribeIds] at hid
    obtain ⟨k, hk, hid⟩ := List.mem_map.mp hid
    have hin := List.mem_range.mp hk
    rw [hbelow k hin] at hid
    omega
  · rw [h.subscribeIds]
    refine List.Nodup.map_on ?_ List.nodup_range
    intro k hk k' hk' hsame
    rw [hbelow k (List.mem_range.mp hk), hbelow k' (List.mem_range.mp hk')] at hsame
    omega

/-- The entry of a pack by the place of the pack. -/
theorem PacksSubscribed.entry_of_split {handle : Nat} {world world' : SharedWorld}
    {appended : List (SubscribeEntry Subscriber)} {front back : List (List SharedattributeCell)}
    {pack : List SharedattributeCell}
    (h : PacksSubscribed handle world world' appended (front ++ pack :: back)) :
    ∃ lfront entry lback, appended = lfront ++ entry :: lback ∧
      List.Forall₂ (HoldsPack world') lfront front ∧ HoldsPack world' entry pack ∧
      List.Forall₂ (HoldsPack world') lback back ∧
      entry.subscribe.subscribeId = (world.subscribeId + front.length + 1) % 2 ^ 32 := by
  obtain ⟨lfront, entry, lback, rfl, hfront, hmid, hback⟩ := split_of_forall₂ h.holds
  refine ⟨lfront, entry, lback, rfl, hfront, hmid, hback, ?_⟩
  have hids := congrArg (·[front.length]?) h.subscribeIds
  simpa [← hfront.length_eq] using hids

/-! ## The partition -/

theorem SharedWorld.flatten_unsubscribedPacks (maxAttributes : Nat) (world : SharedWorld) :
    (world.unsubscribedPacks maxAttributes).flatten = world.cells.filter (·.unsubscribed) := by
  rw [unsubscribedPacks, flatten_packs, List.nil_append]

/-- The packs of a set are subscribed. -/
theorem SharedWorld.packsSubscribed_unsubscribedPacks (handle maxAttributes : Nat)
    (world : SharedWorld) :
    ∃ appended, PacksSubscribed handle world
      ((world.unsubscribedPacks maxAttributes).foldl (subscribePack handle) world) appended
      (world.unsubscribedPacks maxAttributes) := by
  apply packsSubscribed_foldl
  · intro cell hcell
    rw [flatten_unsubscribedPacks] at hcell
    exact List.mem_of_mem_filter hcell
  · rw [flatten_unsubscribedPacks]
    exact world.sharedattributes.nodup.sublist (List.filter_sublist.map _)

/-- An entry of the set with the keys of a pack, and the attributes of the pack have its id. -/
structure AssignedPack (world : SharedWorld) (entry : SubscribeEntry Subscriber)
    (pack : List SharedattributeCell) : Prop where
  context : entry.context = .sharedattributes
  keyList : entry.subscribe.keyList = pack.map (·.key)
  attributes : ∀ cell ∈ pack,
    { cell with subscribeId := entry.subscribe.subscribeId } ∈ world.cells

/-- A set is partitioned: `appended` are the new entries, `packs` the attributes of each. -/
structure Partitioned (handle maxAttributes : Nat) (world world' : SharedWorld)
    (appended : List (SubscribeEntry Subscriber)) (packs : List (List SharedattributeCell)) :
    Prop where
  entries : (world'.clients handle).entries = (world.clients handle).entries ++ appended
  others : ∀ other ≠ handle, world'.clients other = world.clients other
  flatten : packs.flatten = world.cells.filter (·.unsubscribed)
  assigned : List.Forall₂ (AssignedPack world') appended packs
  distinct : (appended.map (·.subscribe.subscribeId)).Nodup
  length : ∀ entry ∈ appended,
    0 < entry.subscribe.keyList.length ∧ entry.subscribe.keyList.length ≤ min maxAttributes 10
  full : ∀ entry ∈ appended.dropLast, entry.subscribe.keyList.length = min maxAttributes 10
  kept : ∀ cell ∈ world.cells, cell.unsubscribed = false → cell ∈ world'.cells
  addrs : world'.cells.map (·.addr) = world.cells.map (·.addr)
  client : world'.sharedattributes.client = some handle

/-- What holds of all packs holds of their entries. -/
theorem forall_keyList_length {world : SharedWorld} {appended : List (SubscribeEntry Subscriber)}
    {packs : List (List SharedattributeCell)} {P : Nat → Prop}
    (hholds : List.Forall₂ (HoldsPack world) appended packs)
    (hpacks : ∀ pack ∈ packs, P pack.length) :
    ∀ entry ∈ appended, P entry.subscribe.keyList.length := by
  induction hholds with
  | nil => simp
  | cons hhead _ ih =>
    rw [List.forall_mem_cons] at hpacks ⊢
    refine ⟨?_, ih hpacks.2⟩
    rw [hhead.keyList, List.length_map]
    exact hpacks.1

theorem forall₂_dropLast {α β : Type} {R : α → β → Prop} {l : List α} {l' : List β}
    (h : List.Forall₂ R l l') : List.Forall₂ R l.dropLast l'.dropLast := by
  induction h with
  | nil => exact .nil
  | cons hhead htail ih =>
    cases htail with
    | nil => exact .nil
    | cons hnext hrest =>
      rw [List.dropLast_cons_cons, List.dropLast_cons_cons]
      exact .cons hhead ih

theorem toInt32_of_lt {value : Nat} (h : value < 2 ^ 31) : toInt32 value = value := if_pos h

theorem HoldsPack.assignedPack {world : SharedWorld} {entry : SubscribeEntry Subscriber}
    {pack : List SharedattributeCell} (h : HoldsPack world entry pack)
    (hid : entry.subscribe.subscribeId < 2 ^ 31) : AssignedPack world entry pack where
  context := h.context
  keyList := h.keyList
  attributes := by
    intro cell hcell
    have hassigned := h.attributes cell hcell
    rwa [toInt32_of_lt hid, SharedattributeCell.subscribedBy, if_pos (Int.natCast_nonneg _)]
      at hassigned

/-- Subscribing a set partitions its attributes. -/
theorem partitioned_of_subscribe {handle maxAttributes : Nat} {world : SharedWorld}
    (hmax : 0 < maxAttributes)
    (hclient : world.sharedattributes.client = none ∨
      world.sharedattributes.client = some handle)
    (hids : world.subscribeId + (world.unsubscribedPacks maxAttributes).length < 2 ^ 31) :
    ∃ world' appended packs,
      tbceSharedattributesSubscribe handle maxAttributes world = .ok world' ∧
        Partitioned handle maxAttributes world world' appended packs := by
  obtain ⟨appended, h⟩ := world.packsSubscribed_unsubscribedPacks handle maxAttributes
  have hsize : ([] : List SharedattributeCell).length < min maxAttributes 10 := by
    rw [List.length_nil]
    omega
  have hlength : ∀ pack ∈ world.unsubscribedPacks maxAttributes,
      0 < pack.length ∧ pack.length ≤ min maxAttributes 10 := packs_length hsize _
  have hfull : ∀ pack ∈ (world.unsubscribedPacks maxAttributes).dropLast,
      pack.length = min maxAttributes 10 := packs_full hsize _
  obtain ⟨hknown, hdistinct⟩ := h.ids (by omega)
  have hnatural : ∀ entry ∈ appended, entry.subscribe.subscribeId < 2 ^ 31 := by
    intro entry hentry
    have hle := (hknown entry hentry).2
    omega
  refine ⟨_, appended, _, tbceSharedattributesSubscribe_eq hmax hclient, h.entries, h.others,
    world.flatten_unsubscribedPacks maxAttributes, ?_, hdistinct, ?_, ?_, ?_, h.addrs, rfl⟩
  · refine ((List.forall₂_and_left _ _).mpr ⟨hnatural, h.holds⟩).imp ?_
    rintro entry pack ⟨hid, hholds⟩
    have hassigned := hholds.assignedPack hid
    exact ⟨hassigned.context, hassigned.keyList, hassigned.attributes⟩
  · exact forall_keyList_length (P := fun n => 0 < n ∧ n ≤ min maxAttributes 10) h.holds hlength
  · exact forall_keyList_length (P := fun n => n = min maxAttributes 10)
      (forall₂_dropLast h.holds) hfull
  · intro cell hcell hsubscribed
    exact h.kept_subscribed (world.flatten_unsubscribedPacks maxAttributes) hcell hsubscribed

/-- Three attributes that are not subscribed. -/
def threeAttributes : SharedWorld :=
  (((sharedInit 0 0).tbceSharedattributesRegister "mode").tbceSharedattributesRegister "rate"
    ).tbceSharedattributesRegister "unit"

theorem partitioned_threeAttributes :
    ∃ world' appended packs, tbceSharedattributesSubscribe 0 2 threeAttributes = .ok world' ∧
      Partitioned 0 2 threeAttributes world' appended packs :=
  partitioned_of_subscribe (by decide) (.inl rfl) (by decide +kernel)

end ThingsboardMqtt
