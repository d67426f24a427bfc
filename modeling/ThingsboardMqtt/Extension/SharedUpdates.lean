import ThingsboardMqtt.Extension.SharedSubscriptions

set_option autoImplicit false

/-! # Updates of a set

A message is handed to every entry of the client's list that has a key in it, and the `on_update` of a
set hands it to every attribute of the whole set. So an attribute is set once for each entry of the
set that the message reaches (`called_of_onData`): once in all when the keys of the message are keys
of one pack, and more often when they are spread over several. -/

namespace ThingsboardMqtt

open LinkedList ListWalk Slices

/-! ## The two loops -/

/-- The device while a message is handled: `called` are the attributes whose `on_set` was called. -/
structure Setting where
  world : SharedWorld
  called : List Nat

/-- A round of `_tbce_sharedattributes_on_update`, with the `result` it has so far. `onSet` is what the
    `on_set` of an attribute returns. -/
def onSetRound (onSet : Nat → Int) (object : Cjson) (cell : SharedattributeCell)
    (s : Int × Setting) : Except (WalkFault Fault) (Flow × (Int × Setting)) :=
  if 0 ≤ cell.subscribeId && object.hasObjectItem cell.key then
    let result := onSet cell.addr
    let state := { s.2 with called := s.2.called ++ [cell.addr] }
    if result = 2 then .ok (.leave, (result, state))
    else if result = 1 then .ok (.leave, (result, state))
    else .ok (.next, (result, state))
  else .ok (.next, s)

/-- `_tbce_sharedattributes_on_update` -/
def tbceSharedattributesOnUpdate (onSet : Nat → Int) (object : Cjson) (state : Setting) :
    Except (WalkFault Fault) (Int × Setting) := do
  let (_, result) ← foreachCell (fun s : Int × Setting => s.2.world.cells) (·.addr)
    (onSetRound onSet object) (0, state)
  .ok result

/-- The `on_update` of an entry; `others` is what those of somebody else return. -/
def sharedOnUpdate (onSet others : Nat → Int) (object : Cjson)
    (entry : SubscribeEntry Subscriber) (state : Setting) :
    Except (WalkFault Fault) (Int × Setting) :=
  match entry.context with
  | .sharedattributes => tbceSharedattributesOnUpdate onSet object state
  | .other _ => .ok (others entry.addr, state)

/-- `_tbcmh_attributessubscribe_on_data` of the client a set is subscribed to. -/
def sharedOnData (handle : Nat) (onSet others : Nat → Int) (object : Cjson)
    (world : SharedWorld) : Except (WalkFault Fault) (Int × Setting) :=
  tbcmhAttributessubscribeOnDataCells (fun s : Setting => (s.world.clients handle).entries)
    (sharedOnUpdate onSet others object) (some object) ⟨world, []⟩

/-- With callbacks that return 0, every attribute is set once if its key is in the object, and not at
    all otherwise. -/
def SetOnce (handle : Nat) (others : Nat → Int) (object : Cjson) (world : SharedWorld) : Prop :=
  ∃ result state, sharedOnData handle (fun _ => 0) others object world = .ok (result, state) ∧
    ∀ cell ∈ world.cells,
      state.called.count cell.addr = if object.hasObjectItem cell.key then 1 else 0

/-! ## How often an attribute is set -/

/-- The attributes that one `on_update` of the set sets. -/
def SharedWorld.setBy (object : Cjson) (world : SharedWorld) : List Nat :=
  (world.cells.filter fun cell => 0 ≤ cell.subscribeId && object.hasObjectItem cell.key).map
    (·.addr)

/-- Somebody else's `on_update` ends the loop behind its entry. -/
def SubscribeEntry.endsLoop (others : Nat → Int) (object : Cjson)
    (entry : SubscribeEntry Subscriber) : Bool :=
  entry.context ≠ .sharedattributes && !entry.subscribe.keyList.isEmpty && entry.wants object &&
    (others entry.addr = 1 || others entry.addr = 2)

/-- How many entries of the set a message reaches. -/
def reached (others : Nat → Int) (object : Cjson) : List (SubscribeEntry Subscriber) → Nat
  | [] => 0
  | entry :: rest =>
    if entry.endsLoop others object then 0
    else (if entry.context = .sharedattributes ∧ entry.wants object = true then 1 else 0)
      + reached others object rest

theorem tbceSharedattributesOnUpdate_eq (object : Cjson) (state : Setting) :
    tbceSharedattributesOnUpdate (fun _ => 0) object state
      = .ok (0, { state with called := state.called ++ state.world.setBy object }) := by
  have hnodup : ∀ s : Int × Setting, (s.2.world.cells.map (·.addr)).Nodup :=
    fun s => s.2.world.sharedattributes.nodup
  let inv (done todo : List SharedattributeCell) (s : Int × Setting) : Prop :=
    s = (0, { state with
      called := state.called ++ (done.filter fun cell =>
        0 ≤ cell.subscribeId && object.hasObjectItem cell.key).map (·.addr) }) ∧
      state.world.cells = done ++ todo
  have hcome : ∀ done todo s, inv done todo s → ∃ front, s.2.world.cells = front ++ todo := by
    rintro done todo s ⟨rfl, hcells⟩
    exact ⟨done, hcells⟩
  have hround : ∀ done cell todo s, inv done (cell :: todo) s →
      ∃ s', onSetRound (fun _ => 0) object cell s = .ok (.next, s') ∧
        inv (done ++ [cell]) todo s' := by
    rintro done cell todo s ⟨rfl, hcells⟩
    have hcells' : state.world.cells = done ++ [cell] ++ todo := by simp [hcells]
    cases hset : (0 ≤ cell.subscribeId && object.hasObjectItem cell.key : Bool) with
    | true =>
      refine ⟨_, by simp only [onSetRound, hset, if_true]; rfl, ?_, hcells'⟩
      simp [List.filter_append, hset]
    | false =>
      refine ⟨_, by simp only [onSetRound, hset, Bool.false_eq_true, if_false]; rfl, ?_, hcells'⟩
      simp [List.filter_append, hset]
  have hstart : inv [] state.world.cells (0, state) := ⟨by simp, rfl⟩
  obtain ⟨s', hloop, hdone, -⟩ := foreachCell_rule hnodup hcome hround
    (s := ((0 : Int), state)) hstart
  simp only [tbceSharedattributesOnUpdate, hloop, hdone, bind, Except.bind]
  rfl

theorem updateRound_sharedOnUpdate (others : Nat → Int) (object : Cjson)
    (entry : SubscribeEntry Subscriber) (result : Int) (state : Setting) :
    ∃ flow result',
      updateRound (sharedOnUpdate (fun _ => 0) others object) object entry (result, state)
        = .ok (flow, (result', { state with
            called := state.called ++
              if entry.context = .sharedattributes ∧ entry.wants object = true then
                state.world.setBy object else [] })) ∧
      (flow = .leave ↔ entry.endsLoop others object = true) := by
  unfold updateRound SubscribeEntry.endsLoop SubscribeEntry.wants
  cases hcontext : entry.context with
  | sharedattributes =>
    have hupdate : sharedOnUpdate (fun _ => 0) others object entry state
        = .ok (0, { state with called := state.called ++ state.world.setBy object }) := by
      simp only [sharedOnUpdate, hcontext]
      exact tbceSharedattributesOnUpdate_eq object state
    cases hempty : entry.subscribe.keyList.isEmpty with
    | true => exact ⟨.next, result, by simp [hupdate, bind, Except.bind], by simp⟩
    | false =>
      cases hany : entry.subscribe.keyList.any object.hasObjectItem with
      | true => exact ⟨.next, 0, by simp [hupdate, bind, Except.bind], by simp⟩
      | false => exact ⟨.next, result, by simp, by simp⟩
  | other context =>
    have hupdate : sharedOnUpdate (fun _ => 0) others object entry state
        = .ok (others entry.addr, state) := by
      simp only [sharedOnUpdate, hcontext]
    cases hempty : entry.subscribe.keyList.isEmpty with
    | true => exact ⟨.next, result, by simp [hupdate, bind, Except.bind], by simp⟩
    | false =>
      cases hany : entry.subscribe.keyList.any object.hasObjectItem with
      | false => exact ⟨.next, result, by simp, by simp⟩
      | true =>
        simp only [Bool.false_eq_true, if_false, if_true, hupdate, bind, Except.bind]
        by_cases htwo : others entry.addr = 2
        · exact ⟨.leave, 2, by simp [htwo], by simp [htwo]⟩
        · by_cases hone : others entry.addr = 1
          · exact ⟨.leave, 1, by simp [hone], by simp [hone]⟩
          · exact ⟨.next, others entry.addr, by simp [htwo, hone], by simp [htwo, hone]⟩

theorem walk_sharedOnUpdate (others : Nat → Int) (object : Cjson)
    (l : List (SubscribeEntry Subscriber)) (result : Int) (state : Setting) :
    ∃ flow result',
      walk (updateRound (sharedOnUpdate (fun _ => 0) others object) object) l (result, state)
        = .ok (flow, (result', { state with
            called := state.called ++
              (List.replicate (reached others object l) (state.world.setBy object)).flatten })) := by
  induction l generalizing result state with
  | nil => exact ⟨.next, result, by simp [walk, reached]⟩
  | cons entry rest ih =>
    obtain ⟨flow, result₁, hround, hflow⟩ :=
      updateRound_sharedOnUpdate others object entry result state
    cases flow with
    | leave =>
      have hends := hflow.mp rfl
      have hother : entry.context ≠ .sharedattributes := by
        simp only [SubscribeEntry.endsLoop, Bool.and_eq_true, decide_eq_true_eq] at hends
        exact hends.1.1.1
      refine ⟨.leave, result₁, ?_⟩
      simp only [walk, hround, bind, Except.bind, reached, hends, if_true]
      simp [hother]
    | next =>
      have hgoes : entry.endsLoop others object = false := by
        rw [Bool.eq_false_iff]
        intro hends
        exact absurd (hflow.mpr hends) (by decide)
      obtain ⟨flow, result₂, hrest⟩ := ih result₁ { state with
        called := state.called ++
          if entry.context = .sharedattributes ∧ entry.wants object = true then
            state.world.setBy object else [] }
      refine ⟨flow, result₂, ?_⟩
      simp only [walk, hround, bind, Except.bind, hrest, reached, hgoes, Bool.false_eq_true,
        if_false]
      split
      · rw [Nat.add_comm, List.replicate_succ, List.flatten_cons, List.append_assoc]
      · simp

/-- An attribute is set once for every entry of the set that the message reaches. -/
theorem called_of_onData (handle : Nat) (others : Nat → Int) (object : Cjson)
    (world : SharedWorld) :
    ∃ result state, sharedOnData handle (fun _ => 0) others object world = .ok (result, state) ∧
      state.called = (List.replicate (reached others object (world.clients handle).entries)
        (world.setBy object)).flatten := by
  obtain ⟨flow, result, hwalk⟩ :=
    walk_sharedOnUpdate others object (world.clients handle).entries 0 ⟨world, []⟩
  refine ⟨result, { world := world, called := [] ++ _ }, ?_, List.nil_append _⟩
  rw [sharedOnData, onDataCells_eq_walk (fun s : Setting => (s.world.clients handle).nodup), hwalk]
  · rfl
  · intro entry s front back answer s' hentries hupdate
    have hworld : s'.world = s.world := by
      simp only [sharedOnUpdate] at hupdate
      split at hupdate
      · rw [tbceSharedattributesOnUpdate_eq] at hupdate
        rw [← (Prod.mk.inj (Except.ok.inj hupdate)).2]
      · rw [← (Prod.mk.inj (Except.ok.inj hupdate)).2]
    exact ⟨front ++ [entry], by rw [hworld, hentries, List.append_assoc, List.singleton_append]⟩

/-- One `on_update` of the set sets an attribute once or not at all. -/
theorem SharedWorld.count_setBy {world : SharedWorld} {cell : SharedattributeCell}
    (hcell : cell ∈ world.cells) (object : Cjson) :
    (world.setBy object).count cell.addr
      = if 0 ≤ cell.subscribeId ∧ object.hasObjectItem cell.key = true then 1 else 0 := by
  have hnodup : (world.setBy object).Nodup :=
    world.sharedattributes.nodup.sublist (List.filter_sublist.map _)
  split
  · rename_i hset
    refine List.count_eq_one_of_mem hnodup (List.mem_map_of_mem (List.mem_filter.mpr ⟨hcell, ?_⟩))
    simpa using hset
  · rename_i hnone
    rw [List.count_eq_zero]
    intro hmem
    obtain ⟨cell', hcell', haddr⟩ := List.mem_map.mp hmem
    obtain ⟨hin, hset⟩ := List.mem_filter.mp hcell'
    obtain rfl := eq_of_addr hin hcell haddr
    exact hnone (by simpa using hset)

/-- In every state, every attribute is set once exactly when those with a key in the object are
    subscribed and the message reaches one entry of the set. -/
theorem setOnce_iff_reached (handle : Nat) (others : Nat → Int) (object : Cjson)
    (world : SharedWorld) :
    SetOnce handle others object world ↔ ∀ cell ∈ world.cells,
      object.hasObjectItem cell.key = true →
        0 ≤ cell.subscribeId ∧ reached others object (world.clients handle).entries = 1 := by
  obtain ⟨result, state, hdata, hcalled⟩ := called_of_onData handle others object world
  have hcount : ∀ cell ∈ world.cells, state.called.count cell.addr
      = reached others object (world.clients handle).entries *
          if 0 ≤ cell.subscribeId ∧ object.hasObjectItem cell.key = true then 1 else 0 := by
    intro cell hcell
    rw [hcalled, List.count_flatten, List.map_replicate, List.sum_replicate_nat,
      SharedWorld.count_setBy hcell]
  have honce : SetOnce handle others object world ↔ ∀ cell ∈ world.cells,
      state.called.count cell.addr = if object.hasObjectItem cell.key then 1 else 0 := by
    constructor
    · rintro ⟨result', state', hdata', hall⟩
      obtain ⟨-, rfl⟩ : result = result' ∧ state = state' := by
        simpa using hdata.symm.trans hdata'
      exact hall
    · intro hall
      exact ⟨result, state, hdata, hall⟩
  rw [honce]
  refine forall₂_congr ?_
  intro cell hcell
  rw [hcount cell hcell]
  cases object.hasObjectItem cell.key with
  | false => simp
  | true =>
    by_cases hid : 0 ≤ cell.subscribeId
    · simp [hid]
    · simp [hid]

/-! ## Packs and messages -/

/-- A pack has a key in the object. -/
def packHasKey (object : Cjson) (pack : List SharedattributeCell) : Bool :=
  pack.any fun cell => object.hasObjectItem cell.key

/-- A set whose attributes were registered and not subscribed. -/
structure Registered (handle : Nat) (world : SharedWorld) : Prop where
  client : world.sharedattributes.client = none
  unsubscribed : ∀ cell ∈ world.cells, cell.unsubscribed = true
  apart : ∀ entry ∈ (world.clients handle).entries, entry.context ≠ .sharedattributes

/-- The keys of the message are keys of one pack, whose id is not negative as `int`, and nobody's entry
    in front of those of the set ends the loop. -/
def OnePack (handle maxAttributes : Nat) (others : Nat → Int) (object : Cjson)
    (world : SharedWorld) : Prop :=
  (∀ entry ∈ (world.clients handle).entries, entry.endsLoop others object = false) ∧
    ∃ front pack back, world.unsubscribedPacks maxAttributes = front ++ pack :: back ∧
      packHasKey object pack = true ∧ (∀ other ∈ front ++ back, packHasKey object other = false) ∧
      (world.subscribeId + front.length + 1) % 2 ^ 32 < 2 ^ 31

theorem reached_append {others : Nat → Int} {object : Cjson}
    {l : List (SubscribeEntry Subscriber)} (hapart : ∀ entry ∈ l, entry.context ≠ .sharedattributes)
    (l' : List (SubscribeEntry Subscriber)) :
    reached others object (l ++ l')
      = if ∀ entry ∈ l, entry.endsLoop others object = false then reached others object l'
        else 0 := by
  induction l with
  | nil => simp
  | cons entry rest ih =>
    rw [List.forall_mem_cons] at hapart
    rw [List.cons_append, reached, ih hapart.2]
    cases hends : entry.endsLoop others object with
    | true => simp [hends]
    | false => simp [hends, hapart.1]

theorem reached_eq_countP {others : Nat → Int} {object : Cjson}
    {l : List (SubscribeEntry Subscriber)} (hset : ∀ entry ∈ l, entry.context = .sharedattributes) :
    reached others object l = l.countP (·.wants object) := by
  induction l with
  | nil => rfl
  | cons entry rest ih =>
    rw [List.forall_mem_cons] at hset
    have hends : entry.endsLoop others object = false := by
      simp [SubscribeEntry.endsLoop, hset.1]
    rw [reached, hends, ih hset.2, List.countP_cons]
    cases entry.wants object <;> simp [hset.1, Nat.add_comm]

theorem HoldsPack.wants_eq {world : SharedWorld} {entry : SubscribeEntry Subscriber}
    {pack : List SharedattributeCell} (h : HoldsPack world entry pack) (hpack : pack ≠ [])
    (object : Cjson) : entry.wants object = packHasKey object pack := by
  have hempty : pack.isEmpty = false := by simpa [List.isEmpty_iff] using hpack
  rw [SubscribeEntry.wants, h.keyList, List.isEmpty_map, hempty, Bool.false_or, List.any_map]
  rfl

theorem countP_of_forall₂ {α β : Type} {R : α → β → Prop} {p : α → Bool} {q : β → Bool}
    {l : List α} {l' : List β} (h : List.Forall₂ R l l')
    (hpq : ∀ a, ∀ b ∈ l', R a b → p a = q b) : l.countP p = l'.countP q := by
  induction h with
  | nil => rfl
  | cons hhead _ ih =>
    rw [List.countP_cons, List.countP_cons, hpq _ _ List.mem_cons_self hhead,
      ih fun a b hb => hpq a b (List.mem_cons_of_mem _ hb)]

theorem countP_eq_one_iff {α : Type} {p : α → Bool} {l : List α} :
    l.countP p = 1 ↔ ∃ front x back, l = front ++ x :: back ∧ p x = true ∧
      ∀ y ∈ front ++ back, p y = false := by
  constructor
  · intro hone
    obtain ⟨front, x, back, rfl, hx⟩ : ∃ front x back, l = front ++ x :: back ∧ p x = true := by
      obtain ⟨x, hmem, hx⟩ := List.countP_pos_iff.mp (by omega : 0 < l.countP p)
      obtain ⟨front, back, hsplit⟩ := List.append_of_mem hmem
      exact ⟨front, x, back, hsplit, hx⟩
    rw [List.countP_append, List.countP_cons, if_pos hx] at hone
    refine ⟨front, x, back, rfl, hx, ?_⟩
    have hzero : (front ++ back).countP p = 0 := by
      rw [List.countP_append]
      omega
    intro y hy
    simpa using List.countP_eq_zero.mp hzero y hy
  · rintro ⟨front, x, back, rfl, hx, hothers⟩
    have hzero : (front ++ back).countP p = 0 :=
      List.countP_eq_zero.mpr fun y hy => by simp [hothers y hy]
    rw [List.countP_append] at hzero
    rw [List.countP_append, List.countP_cons, if_pos hx]
    omega

/-- How many entries of a set that was just subscribed a message reaches. -/
theorem reached_of_packs {handle : Nat} {world world' : SharedWorld}
    {appended : List (SubscribeEntry Subscriber)} {packs : List (List SharedattributeCell)}
    (h : PacksSubscribed handle world world' appended packs)
    (hapart : ∀ entry ∈ (world.clients handle).entries, entry.context ≠ .sharedattributes)
    (hpacks : ∀ pack ∈ packs, pack ≠ []) (others : Nat → Int) (object : Cjson) :
    reached others object (world'.clients handle).entries
      = if ∀ entry ∈ (world.clients handle).entries, entry.endsLoop others object = false then
          packs.countP (packHasKey object) else 0 := by
  have hset : ∀ entry ∈ appended, entry.context = .sharedattributes := by
    intro entry hentry
    obtain ⟨pack, -, hholds⟩ := exists_of_forall₂_left h.holds hentry
    exact hholds.context
  rw [h.entries, reached_append hapart, reached_eq_countP hset,
    countP_of_forall₂ h.holds fun entry pack hpack hholds =>
      hholds.wants_eq (hpacks pack hpack) object]

theorem toInt32_nonneg_iff {value : Nat} (hvalue : value < 2 ^ 32) :
    0 ≤ toInt32 value ↔ value < 2 ^ 31 := by
  unfold toInt32
  split <;> omega

/-- An attribute that was not subscribed is, when the id of its subscription is not negative. -/
theorem SharedattributeCell.subscribedBy_nonneg_iff {cell : SharedattributeCell}
    (hcell : cell.unsubscribed = true) {id : Nat} (hid : id < 2 ^ 32) :
    0 ≤ (cell.subscribedBy (toInt32 id)).subscribeId ↔ id < 2 ^ 31 := by
  have hneg : cell.subscribeId < 0 := by simpa [unsubscribed] using hcell
  rw [← toInt32_nonneg_iff hid, subscribedBy]
  split
  · exact Iff.rfl
  · omega

/-- A message to a set that was just subscribed. -/
theorem setOnce_iff_of_packs {handle : Nat} {world world' : SharedWorld}
    {appended : List (SubscribeEntry Subscriber)} {packs : List (List SharedattributeCell)}
    (h : PacksSubscribed handle world world' appended packs) (hregistered : Registered handle world)
    (hflatten : packs.flatten = world.cells.filter (·.unsubscribed))
    (hpacks : ∀ pack ∈ packs, pack ≠ []) (others : Nat → Int) (object : Cjson) :
    SetOnce handle others object world' ↔
      (∀ cell ∈ world.cells, object.hasObjectItem cell.key = false) ∨
        ((∀ entry ∈ (world.clients handle).entries, entry.endsLoop others object = false) ∧
          ∃ front pack back, packs = front ++ pack :: back ∧ packHasKey object pack = true ∧
            (∀ other ∈ front ++ back, packHasKey object other = false) ∧
            (world.subscribeId + front.length + 1) % 2 ^ 32 < 2 ^ 31) := by
  have hall : packs.flatten = world.cells := by
    rw [hflatten]
    exact List.filter_eq_self.mpr hregistered.unsubscribed
  have hreached := reached_of_packs h hregistered.apart hpacks others object
  -- every cell is in a pack, and what it has become has the id of the entry of the pack
  have hcells : ∀ cell' ∈ world'.cells, ∃ entry ∈ appended, ∃ pack ∈ packs,
      HoldsPack world' entry pack ∧ ∃ cell ∈ pack,
        cell' = cell.subscribedBy (toInt32 entry.subscribe.subscribeId) := by
    intro cell' hcell'
    obtain ⟨hcell, hsubscribed⟩ | hpack := h.cell_cases hflatten hcell'
    · rw [hregistered.unsubscribed cell' hcell] at hsubscribed
      contradiction
    · exact hpack
  have hcell : ∀ pack ∈ packs, ∀ cell ∈ pack, cell ∈ world.cells := by
    intro pack hpack cell hcell
    rw [← hall]
    exact List.mem_flatten_of_mem hpack hcell
  rw [setOnce_iff_reached, hreached]
  constructor
  · intro hset
    by_cases hnone : ∀ cell ∈ world.cells, object.hasObjectItem cell.key = false
    · exact .inl hnone
    right
    obtain ⟨cell, hmem, hkey⟩ : ∃ cell ∈ world.cells, object.hasObjectItem cell.key = true := by
      simpa using hnone
    -- the message reaches the set once, for it has the key of an attribute
    have hwhole : ∀ pack ∈ packs, ∀ entry, HoldsPack world' entry pack → ∀ cell ∈ pack,
        object.hasObjectItem cell.key = true →
          0 ≤ (cell.subscribedBy (toInt32 entry.subscribe.subscribeId)).subscribeId ∧
          (if ∀ entry ∈ (world.clients handle).entries, entry.endsLoop others object = false then
            packs.countP (packHasKey object) else 0) = 1 := by
      intro pack hpack entry hholds cell hin hkey
      refine hset _ (hholds.attributes cell hin) ?_
      rw [SharedattributeCell.key_subscribedBy]
      exact hkey
    rw [← hall] at hmem
    obtain ⟨pack, hpack, hin⟩ := List.mem_flatten.mp hmem
    obtain ⟨entry, -, hholds⟩ := exists_of_forall₂_right h.holds hpack
    obtain ⟨-, hone⟩ := hwhole pack hpack entry hholds cell hin hkey
    split at hone
    · rename_i hquiet
      obtain ⟨front, hit, back, rfl, hhit, hmiss⟩ := countP_eq_one_iff.mp hone
      refine ⟨hquiet, front, hit, back, rfl, hhit, hmiss, ?_⟩
      obtain ⟨_, entry, _, -, -, hholds, -, hid⟩ := h.entry_of_split
      obtain ⟨cell, hin, hkey⟩ := List.any_eq_true.mp hhit
      have hmemhit : hit ∈ front ++ hit :: back := List.mem_append_right _ List.mem_cons_self
      have hnonneg := (hwhole hit hmemhit entry hholds cell hin hkey).1
      have hunsubscribed := hregistered.unsubscribed cell (hcell hit hmemhit cell hin)
      rw [SharedattributeCell.subscribedBy_nonneg_iff hunsubscribed (by omega), hid] at hnonneg
      exact hnonneg
    · contradiction
  · rintro (hnone | ⟨hquiet, front, hit, back, rfl, hhit, hmiss, hid⟩) cell' hcell' hkey'
    · obtain ⟨entry, -, pack, hpack, -, cell, hin, rfl⟩ := hcells cell' hcell'
      rw [SharedattributeCell.key_subscribedBy, hnone cell (hcell pack hpack cell hin)] at hkey'
      contradiction
    · rw [if_pos hquiet]
      refine ⟨?_, countP_eq_one_iff.mpr ⟨front, hit, back, rfl, hhit, hmiss⟩⟩
      obtain ⟨entry, hentry, pack, hpack, hholds, cell, hin, rfl⟩ := hcells cell' hcell'
      rw [SharedattributeCell.key_subscribedBy] at hkey'
      have hwants : entry.wants object = true := by
        rw [hholds.wants_eq (hpacks pack hpack)]
        exact List.any_eq_true.mpr ⟨cell, hin, hkey'⟩
      obtain ⟨lfront, chosen, lback, rfl, hfront, hchosen, hback, hchosenId⟩ := h.entry_of_split
      -- the entries around the chosen one do not want the message
      have hapart : ∀ other ∈ front ++ back, HoldsPack world' entry other → False := by
        intro other hother hholds'
        have hin' : other ∈ front ++ hit :: back := by
          rcases List.mem_append.mp hother with hother | hother
          · exact List.mem_append_left _ hother
          · exact List.mem_append_right _ (List.mem_cons_of_mem _ hother)
        rw [hholds'.wants_eq (hpacks other hin'), hmiss other hother] at hwants
        contradiction
      have hsame : entry = chosen := by
        rcases List.mem_append.mp hentry with hentry | hentry
        · obtain ⟨other, hother, hholds'⟩ := exists_of_forall₂_left hfront hentry
          exact (hapart other (List.mem_append_left _ hother) hholds').elim
        · rcases List.mem_cons.mp hentry with hentry | hentry
          · exact hentry
          · obtain ⟨other, hother, hholds'⟩ := exists_of_forall₂_left hback hentry
            exact (hapart other (List.mem_append_right _ hother) hholds').elim
      have hunsubscribed := hregistered.unsubscribed cell (hcell pack hpack cell hin)
      rw [hsame, hchosenId]
      exact (SharedattributeCell.subscribedBy_nonneg_iff hunsubscribed (by omega)).mpr hid

theorem PacksSubscribed.setClient {handle : Nat} {world world' : SharedWorld}
    {appended : List (SubscribeEntry Subscriber)} {packs : List (List SharedattributeCell)}
    (h : PacksSubscribed handle world world' appended packs) (client : Nat) :
    PacksSubscribed handle world (world'.setClient (some client)) appended packs where
  entries := h.entries
  others := h.others
  holds := h.holds.imp fun _ _ hholds => ⟨hholds.context, hholds.keyList, hholds.attributes⟩
  subscribeIds := h.subscribeIds
  kept := h.kept
  addrs := h.addrs

/-- A message sets the attributes of a set that was just subscribed once exactly when its keys are keys
    of one pack, or of none. -/
theorem setOnce_iff {handle maxAttributes : Nat} {world : SharedWorld} (hmax : 0 < maxAttributes)
    (h : Registered handle world) (others : Nat → Int) (object : Cjson) :
    ∃ world', tbceSharedattributesSubscribe handle maxAttributes world = .ok world' ∧
      (SetOnce handle others object world' ↔
        (∀ cell ∈ world.cells, object.hasObjectItem cell.key = false) ∨
          OnePack handle maxAttributes others object world) := by
  obtain ⟨appended, hsubscribed⟩ := world.packsSubscribed_unsubscribedPacks handle maxAttributes
  have hpacks : ∀ pack ∈ world.unsubscribedPacks maxAttributes, pack ≠ [] := by
    intro pack hpack
    have hsize : ([] : List SharedattributeCell).length < min maxAttributes 10 := by
      rw [List.length_nil]
      omega
    exact List.ne_nil_of_length_pos (packs_length hsize _ pack hpack).1
  exact ⟨_, tbceSharedattributesSubscribe_eq hmax (.inl h.client),
    setOnce_iff_of_packs (hsubscribed.setClient handle) h
      (world.flatten_unsubscribedPacks maxAttributes) hpacks others object⟩

/-- Two attributes in two packs, of which the message has both keys. -/
def spreadUpdate : Cjson := .object [("mode", .number 1), ("rate", .number 2)]

theorem setOnce_iff_threeAttributes :
    ∃ world', tbceSharedattributesSubscribe 0 2 threeAttributes = .ok world' ∧
      (SetOnce 0 (fun _ => 0) spreadUpdate world' ↔
        (∀ cell ∈ threeAttributes.cells, spreadUpdate.hasObjectItem cell.key = false) ∨
          OnePack 0 2 (fun _ => 0) spreadUpdate threeAttributes) :=
  setOnce_iff (by decide) ⟨rfl, by decide, by decide⟩ _ _

theorem setOnce_fails_spreadUpdate :
    ∃ world', tbceSharedattributesSubscribe 0 1 threeAttributes = .ok world' ∧
      (threeAttributes.cells.map (·.key)).Nodup ∧
      ¬ SetOnce 0 (fun _ => 0) spreadUpdate world' := by
  refine ⟨_, rfl, by decide, ?_⟩
  rw [setOnce_iff_reached]
  decide +kernel

end ThingsboardMqtt
