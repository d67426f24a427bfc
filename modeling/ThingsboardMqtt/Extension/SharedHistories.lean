import ThingsboardMqtt.Extension.SharedSubscriptions
import ThingsboardMqtt.Library.Execution

set_option autoImplicit false

/-! # Unsubscribing a set

`tbce_sharedattributes_unsubscribe` takes out the entries whose ids are still in an attribute. So an
entry whose last attribute was unregistered stays in the client's list, and so does one whose id is
negative as `int`. In histories without these, every entry of the set has an attribute with its id
(`Linked`), and goes. -/

namespace ThingsboardMqtt

open Execution LinkedList ListWalk

/-! ## One call -/

/-- A cell behind `tbce_sharedattributes_unsubscribe`. -/
def SharedattributeCell.dropped (cell : SharedattributeCell) : SharedattributeCell :=
  if 0 ≤ cell.subscribeId then { cell with subscribeId := -1 } else cell

theorem SharedattributeCell.dropped_neg (cell : SharedattributeCell) :
    cell.dropped.subscribeId < 0 := by
  unfold dropped
  split
  · exact Int.negSucc_lt_zero 0
  · omega

/-- No cell of a list has the id of an entry. -/
def Unheld (cells : List SharedattributeCell) (entry : SubscribeEntry Subscriber) : Prop :=
  ∀ cell ∈ cells, 0 ≤ cell.subscribeId → entry.subscribe.subscribeId ≠ toUint32 cell.subscribeId

instance (cells : List SharedattributeCell) (entry : SubscribeEntry Subscriber) :
    Decidable (Unheld cells entry) :=
  inferInstanceAs (Decidable (∀ cell ∈ cells, _))

/-- Where ids are distinct, the first entry with an id is the only one. -/
theorem removeFirst_eq_filter {α β : Type} [DecidableEq β] (f : α → β) {l : List α}
    (hnodup : (l.map f).Nodup) (b : β) :
    removeFirst (fun x => decide (f x = b)) l = l.filter fun x => decide (f x ≠ b) := by
  induction l with
  | nil => rfl
  | cons x rest ih =>
    rw [List.map_cons, List.nodup_cons] at hnodup
    rw [removeFirst_cons, List.filter_cons]
    by_cases hx : f x = b
    · have hrest : ∀ y ∈ rest, f y ≠ b := fun y hy hsame =>
        hnodup.1 (hx ▸ hsame ▸ List.mem_map_of_mem hy)
      simp only [hx, decide_true, if_true, ne_eq, not_true_eq_false, decide_false,
        Bool.false_eq_true, if_false]
      exact (List.filter_eq_self.mpr fun y hy => decide_eq_true (hrest y hy)).symm
    · simp only [hx, decide_false, Bool.false_eq_true, if_false, ne_eq, not_false_eq_true,
        decide_true, if_true]
      rw [ih hnodup.2]

/-- The invariant of the loop of `tbce_sharedattributes_unsubscribe`. -/
structure Unsubscribing (handle : Nat) (start : SharedWorld)
    (done todo : List SharedattributeCell) (world : SharedWorld) : Prop where
  entries : (world.clients handle).entries
    = (start.clients handle).entries.filter fun entry => decide (Unheld done entry)
  cells : world.cells = done.map (·.dropped) ++ todo
  others : ∀ other ≠ handle, world.clients other = start.clients other
  subscribeId : world.subscribeId = start.subscribeId

theorem unsubscribeRound_keeps {handle : Nat} {start : SharedWorld}
    (hdistinct : ((start.clients handle).entries.map (·.subscribe.subscribeId)).Nodup)
    {done todo : List SharedattributeCell} {cell : SharedattributeCell} {world : SharedWorld}
    (h : Unsubscribing handle start done (cell :: todo) world) :
    ∃ world', SharedWorld.unsubscribeRound handle cell world = .ok (.next, world') ∧
      Unsubscribing handle start (done ++ [cell]) todo world' := by
  have hunheld : ∀ entry, Unheld (done ++ [cell]) entry ↔ Unheld done entry ∧
      (0 ≤ cell.subscribeId → entry.subscribe.subscribeId ≠ toUint32 cell.subscribeId) := by
    intro entry
    simp [Unheld, or_imp, forall_and]
  by_cases hid : 0 ≤ cell.subscribeId
  · refine ⟨_, if_pos hid, ?_, ?_, ?_, h.subscribeId⟩
    · have hentries : (((world.tbcmhAttributesUnsubscribe handle cell.subscribeId).setSubscribeId
          cell.addr (-1)).clients handle).entries
            = removeFirst (fun entry => decide (entry.subscribe.subscribeId
                = toUint32 cell.subscribeId)) (world.clients handle).entries := by
        simp only [SharedWorld.setSubscribeId, SharedWorld.tbcmhAttributesUnsubscribe,
          Function.update_self]
        rfl
      rw [hentries, h.entries, removeFirst_eq_filter
        (fun entry : SubscribeEntry Subscriber => entry.subscribe.subscribeId)
        (hdistinct.sublist (List.filter_sublist.map _)), List.filter_filter]
      refine List.filter_congr ?_
      intro entry _
      simp [hunheld, hid, Bool.and_comm]
    · have hnodup : (world.cells.map (·.addr)).Nodup := world.sharedattributes.nodup
      rw [h.cells, List.map_append, List.map_cons, List.nodup_append, List.nodup_cons] at hnodup
      obtain ⟨-, ⟨hback, -⟩, hfront⟩ := hnodup
      have hcells : ((world.tbcmhAttributesUnsubscribe handle cell.subscribeId).setSubscribeId
          cell.addr (-1)).cells = world.cells.map (·.assigned [cell.addr] (-1)) :=
        SharedWorld.cells_setSubscribeId _ _ _
      have hkeep : ∀ l : List SharedattributeCell, cell.addr ∉ l.map (·.addr) →
          l.map (·.assigned [cell.addr] (-1)) = l := by
        intro l hnone
        refine (List.map_congr_left ?_).trans (List.map_id l)
        intro other hother
        refine SharedWorld.assigned_of_not_mem ?_ _
        intro hmem
        exact hnone (List.mem_singleton.mp hmem ▸ List.mem_map_of_mem hother)
      have hcell : cell.assigned [cell.addr] (-1) = cell.dropped := by
        rw [SharedattributeCell.assigned, if_pos (List.mem_singleton_self _),
          SharedattributeCell.dropped, if_pos hid]
      rw [hcells, h.cells, List.map_append, List.map_cons, hcell, hkeep _ ?_, hkeep _ hback]
      · simp
      · intro hmem
        exact hfront cell.addr hmem cell.addr List.mem_cons_self rfl
    · intro other hother
      rw [← h.others other hother]
      exact Function.update_of_ne hother _ _
  · refine ⟨world, if_neg hid, ?_, ?_, h.others, h.subscribeId⟩
    · rw [h.entries]
      refine List.filter_congr ?_
      intro entry _
      simp [hunheld, hid]
    · rw [h.cells, List.map_append, List.map_singleton, SharedattributeCell.dropped, if_neg hid]
      simp

theorem tbceSharedattributesUnsubscribe_eq {handle : Nat} {world : SharedWorld}
    (hclient : world.sharedattributes.client = some handle)
    (hdistinct : ((world.clients handle).entries.map (·.subscribe.subscribeId)).Nodup) :
    ∃ world', world.tbceSharedattributesUnsubscribe = .ok world' ∧
      Unsubscribing handle world world.cells [] world' ∧
      world'.sharedattributes.client = none := by
  have hnodup : ∀ world : SharedWorld, (world.cells.map (·.addr)).Nodup :=
    fun world => world.sharedattributes.nodup
  have hstart : Unsubscribing handle world [] world.cells world :=
    ⟨by simp [Unheld], rfl, fun _ _ => rfl, rfl⟩
  have hcome : ∀ done todo world', Unsubscribing handle world done todo world' →
      ∃ front, world'.cells = front ++ todo := fun _ _ _ h => ⟨_, h.cells⟩
  obtain ⟨world', hloop, hdone⟩ := foreachCell_rule hnodup hcome
    (fun _ _ _ _ h => unsubscribeRound_keeps hdistinct h) hstart
  refine ⟨world'.setClient none, ?_, ⟨hdone.entries, hdone.cells, hdone.others,
    hdone.subscribeId⟩, rfl⟩
  simp only [SharedWorld.tbceSharedattributesUnsubscribe, hclient, hloop, bind, Except.bind]

/-! ## Histories -/

/-- The calls on a set, and what others do with their clients and with the client of the set. -/
inductive SharedInput
  | register (key : String)
  | unregister (key : String)
  | subscribe (maxAttributesPerSubscribe : Nat)
  | unsubscribe
  | otherSubscribe (other context : Nat) (keys : List String)
  | otherUnsubscribe (other : Nat) (subscribeId : Int)
  deriving DecidableEq, Repr

/-- One step; the set is subscribed to one client. -/
def sharedStep (handle : Nat) (world : SharedWorld) :
    SharedInput → Except (WalkFault Fault) SharedWorld
  | .register key => .ok (world.tbceSharedattributesRegister key)
  | .unregister key => .ok (world.tbceSharedattributesUnregister key)
  | .subscribe maxAttributes => tbceSharedattributesSubscribe handle maxAttributes world
  | .unsubscribe => world.tbceSharedattributesUnsubscribe
  | .otherSubscribe other context keys =>
    .ok (world.tbcmhAttributesSubscribeOfArray other (.other context) keys).2
  | .otherUnsubscribe other subscribeId =>
    .ok (world.tbcmhAttributesUnsubscribe other subscribeId)

/-- Unsubscribing the set takes out its entries and no other. -/
def UnsubscribesAll (handle : Nat) (world : SharedWorld) : Prop :=
  ∃ world', world.tbceSharedattributesUnsubscribe = .ok world' ∧
    (world'.clients handle).entries
      = (world.clients handle).entries.filter fun entry =>
          decide (entry.context ≠ .sharedattributes)

/-- The id of an attribute is in another one of the set, too. -/
def SharesId (world : SharedWorld) (cell : SharedattributeCell) : Prop :=
  ∃ other ∈ world.cells, other.addr ≠ cell.addr ∧ other.subscribeId = cell.subscribeId

instance (world : SharedWorld) (cell : SharedattributeCell) : Decidable (SharesId world cell) :=
  inferInstanceAs (Decidable (∃ other ∈ world.cells, _))

/-- The condition on a step: an attribute that is unregistered is not the last of a subscription, and
    fewer than `2 ^ 31` ids are used. -/
def KeepsLinks (world : SharedWorld) : SharedInput → Prop
  | .unregister key =>
    ∀ cell, world.cells.find? (fun cell => decide (cell.key = key)) = some cell →
      0 ≤ cell.subscribeId → SharesId world cell
  | .subscribe maxAttributes =>
    world.subscribeId + (world.unsubscribedPacks maxAttributes).length < 2 ^ 31
  | .otherSubscribe _ _ _ => world.subscribeId + 1 < 2 ^ 31
  | _ => True

/-- The invariant: every entry of the set has its id in an attribute, and the ids in the attributes are
    ids of such entries only. -/
structure Linked (handle : Nat) (world : SharedWorld) : Prop where
  client : world.sharedattributes.client = none ∨ world.sharedattributes.client = some handle
  counter : world.subscribeId < 2 ^ 31
  known : ∀ entry ∈ (world.clients handle).entries,
    entry.subscribe.subscribeId ≤ world.subscribeId
  distinct : ((world.clients handle).entries.map (·.subscribe.subscribeId)).Nodup
  held : ∀ entry ∈ (world.clients handle).entries, entry.context = .sharedattributes →
    ∃ cell ∈ world.cells, cell.subscribeId = entry.subscribe.subscribeId
  own : ∀ cell ∈ world.cells, 0 ≤ cell.subscribeId →
    cell.subscribeId ≤ world.subscribeId ∧ ∀ entry ∈ (world.clients handle).entries,
      (entry.subscribe.subscribeId : Int) = cell.subscribeId → entry.context = .sharedattributes
  unbound : world.sharedattributes.client = none → ∀ cell ∈ world.cells, cell.subscribeId < 0

/-- An id that is not negative is passed to `tbcmh_attributes_unsubscribe` as it is. -/
theorem eq_toUint32_iff {id : Nat} {subscribeId : Int} (hnonneg : 0 ≤ subscribeId)
    (hlt : subscribeId < 2 ^ 32) : id = toUint32 subscribeId ↔ (id : Int) = subscribeId := by
  unfold toUint32
  rw [Int.emod_eq_of_lt hnonneg hlt]
  omega

namespace Linked

variable {handle : Nat} {world world' : SharedWorld}

/-- The entries without an id in an attribute are those of others. -/
theorem unheld_iff (h : Linked handle world) {entry : SubscribeEntry Subscriber}
    (hentry : entry ∈ (world.clients handle).entries) :
    Unheld world.cells entry ↔ entry.context ≠ .sharedattributes := by
  have hcounter := h.counter
  constructor
  · intro hunheld hcontext
    obtain ⟨cell, hcell, hid⟩ := h.held entry hentry hcontext
    have hnonneg : 0 ≤ cell.subscribeId := by omega
    have hknown := (h.own cell hcell hnonneg).1
    exact hunheld cell hcell hnonneg ((eq_toUint32_iff hnonneg (by omega)).mpr hid.symm)
  · intro hcontext cell hcell hnonneg hid
    obtain ⟨hknown, hown⟩ := h.own cell hcell hnonneg
    exact hcontext (hown entry hentry ((eq_toUint32_iff hnonneg (by omega)).mp hid))

/-- Where the invariant holds, unsubscribing takes out the entries of the set. -/
theorem unsubscribesAll (h : Linked handle world) : UnsubscribesAll handle world := by
  obtain hnone | hsome := h.client
  · refine ⟨world, by rw [SharedWorld.tbceSharedattributesUnsubscribe, hnone], ?_⟩
    refine (List.filter_eq_self.mpr ?_).symm
    intro entry hentry
    rw [decide_eq_true_eq]
    intro hcontext
    obtain ⟨cell, hcell, hid⟩ := h.held entry hentry hcontext
    have hneg := h.unbound hnone cell hcell
    omega
  · obtain ⟨world', hunsubscribe, hdone, -⟩ :=
      tbceSharedattributesUnsubscribe_eq hsome h.distinct
    refine ⟨world', hunsubscribe, ?_⟩
    rw [hdone.entries]
    refine List.filter_congr ?_
    intro entry hentry
    rw [decide_eq_decide]
    exact h.unheld_iff hentry

end Linked

/-- What `removeFirst` takes out is what `find?` finds. -/
theorem mem_removeFirst_or_find {α : Type} {p : α → Bool} {x : α} {l : List α} (hx : x ∈ l) :
    x ∈ removeFirst p l ∨ l.find? p = some x := by
  induction l with
  | nil => exact absurd hx List.not_mem_nil
  | cons y rest ih =>
    rw [removeFirst_cons, List.find?_cons]
    cases hy : p y with
    | true =>
      rcases List.mem_cons.mp hx with rfl | hx
      · exact .inr rfl
      · exact .inl hx
    | false =>
      rcases List.mem_cons.mp hx with rfl | hx
      · exact .inl List.mem_cons_self
      · rcases ih hx with hrest | hfind
        · exact .inl (List.mem_cons_of_mem _ hrest)
        · exact .inr hfind

namespace Linked

variable {handle : Nat} {world : SharedWorld}

theorem register (h : Linked handle world) (key : String) :
    Linked handle (world.tbceSharedattributesRegister key) where
  client := h.client
  counter := h.counter
  known := h.known
  distinct := h.distinct
  held := by
    intro entry hentry hcontext
    obtain ⟨cell, hcell, hid⟩ := h.held entry hentry hcontext
    exact ⟨cell, List.mem_append_left _ hcell, hid⟩
  own := by
    intro cell hcell hid
    rcases List.mem_append.mp hcell with hcell | hcell
    · exact h.own cell hcell hid
    · rw [List.mem_singleton.mp hcell] at hid
      exact absurd hid (by simp)
  unbound := by
    intro hnone cell hcell
    rcases List.mem_append.mp hcell with hcell | hcell
    · exact h.unbound hnone cell hcell
    · rw [List.mem_singleton.mp hcell]
      exact Int.negSucc_lt_zero 0

theorem unregister (h : Linked handle world) {key : String}
    (hkeeps : KeepsLinks world (.unregister key)) :
    Linked handle (world.tbceSharedattributesUnregister key) where
  client := h.client
  counter := h.counter
  known := h.known
  distinct := h.distinct
  held := by
    intro entry hentry hcontext
    obtain ⟨cell, hcell, hid⟩ := h.held entry hentry hcontext
    rcases mem_removeFirst_or_find (p := fun cell => decide (cell.key = key)) hcell with
      hrest | hfind
    · exact ⟨cell, hrest, hid⟩
    · -- the attribute goes, and another one has the id
      obtain ⟨other, hother, haddr, hsame⟩ := hkeeps cell hfind (by omega)
      refine ⟨other, ?_, hsame.trans hid⟩
      rcases mem_removeFirst_or_find (p := fun cell => decide (cell.key = key)) hother with
        hrest | hfind'
      · exact hrest
      · rw [hfind] at hfind'
        exact absurd (congrArg (·.addr) (Option.some.inj hfind')).symm haddr
  own := fun cell hcell => h.own cell ((removeFirst_sublist _ _).subset hcell)
  unbound := fun hnone cell hcell => h.unbound hnone cell ((removeFirst_sublist _ _).subset hcell)

theorem unsubscribe {world' : SharedWorld} (h : Linked handle world)
    (hok : world.tbceSharedattributesUnsubscribe = .ok world') : Linked handle world' := by
  obtain hnone | hsome := h.client
  · rw [SharedWorld.tbceSharedattributesUnsubscribe, hnone] at hok
    obtain rfl := Except.ok.inj hok
    exact h
  · obtain ⟨world'', hunsubscribe, hdone, hclient⟩ :=
      tbceSharedattributesUnsubscribe_eq hsome h.distinct
    obtain rfl : world'' = world' := Except.ok.inj (hunsubscribe.symm.trans hok)
    have hsub : (world''.clients handle).entries.Sublist (world.clients handle).entries := by
      rw [hdone.entries]
      exact List.filter_sublist
    have hneg : ∀ cell ∈ world''.cells, cell.subscribeId < 0 := by
      intro cell hcell
      rw [hdone.cells, List.append_nil] at hcell
      obtain ⟨cell', -, rfl⟩ := List.mem_map.mp hcell
      exact cell'.dropped_neg
    refine ⟨.inl hclient, hdone.subscribeId ▸ h.counter, ?_, h.distinct.sublist (hsub.map _), ?_,
      ?_, fun _ => hneg⟩
    · intro entry hentry
      rw [hdone.subscribeId]
      exact h.known entry (hsub.subset hentry)
    · intro entry hentry hcontext
      rw [hdone.entries, List.mem_filter, decide_eq_true_eq] at hentry
      exact absurd hcontext ((h.unheld_iff hentry.1).mp hentry.2)
    · intro cell hcell hid
      have hlt := hneg cell hcell
      omega

theorem otherUnsubscribe (h : Linked handle world) (other : Nat) (subscribeId : Int) :
    Linked handle (world.tbcmhAttributesUnsubscribe other subscribeId) := by
  have hsub : ((world.tbcmhAttributesUnsubscribe other subscribeId).clients handle).entries.Sublist
      (world.clients handle).entries := by
    by_cases hother : handle = other
    · subst hother
      simp only [SharedWorld.tbcmhAttributesUnsubscribe, Function.update_self]
      exact removeFirst_sublist _ _
    · simp only [SharedWorld.tbcmhAttributesUnsubscribe, Function.update_of_ne hother]
      exact List.Sublist.refl _
  exact ⟨h.client, h.counter, fun entry hentry => h.known entry (hsub.subset hentry),
    h.distinct.sublist (hsub.map _), fun entry hentry => h.held entry (hsub.subset hentry),
    fun cell hcell hid => ⟨(h.own cell hcell hid).1, fun entry hentry =>
      (h.own cell hcell hid).2 entry (hsub.subset hentry)⟩, h.unbound⟩

theorem append (h : Linked handle world) {added : List (SubscribeEntry Subscriber)} (counter : Nat)
    (hnew : ∀ entry ∈ added, world.subscribeId < entry.subscribe.subscribeId ∧
      entry.subscribe.subscribeId ≤ counter)
    (hnodup : (added.map (·.subscribe.subscribeId)).Nodup) (hcounter : world.subscribeId ≤ counter) :
    (∀ entry ∈ (world.clients handle).entries ++ added, entry.subscribe.subscribeId ≤ counter) ∧
      (((world.clients handle).entries ++ added).map (·.subscribe.subscribeId)).Nodup := by
  constructor
  · intro entry hentry
    rcases List.mem_append.mp hentry with hold | hadded
    · exact Nat.le_trans (h.known entry hold) hcounter
    · exact (hnew entry hadded).2
  · rw [List.map_append, List.nodup_append]
    refine ⟨h.distinct, hnodup, ?_⟩
    intro id hid id' hid'
    obtain ⟨entry, hentry, rfl⟩ := List.mem_map.mp hid
    obtain ⟨entry', hentry', rfl⟩ := List.mem_map.mp hid'
    exact Nat.ne_of_lt (Nat.lt_of_le_of_lt (h.known entry hentry) (hnew entry' hentry').1)

theorem otherSubscribe (h : Linked handle world) (other context : Nat) (keys : List String)
    (hcounter : world.subscribeId + 1 < 2 ^ 31) :
    Linked handle (world.tbcmhAttributesSubscribeOfArray other (.other context) keys).2 := by
  have hmod : (world.subscribeId + 1) % 2 ^ 32 = world.subscribeId + 1 :=
    Nat.mod_eq_of_lt (by omega)
  have hid : (world.tbcmhAttributesSubscribeOfArray other (.other context) keys).2.subscribeId
      = world.subscribeId + 1 := by
    rw [← hmod]
    rfl
  obtain ⟨added, hentries, hnodup, hadded⟩ : ∃ added,
      ((world.tbcmhAttributesSubscribeOfArray other (.other context) keys).2.clients
        handle).entries = (world.clients handle).entries ++ added ∧
      (added.map (·.subscribe.subscribeId)).Nodup ∧ ∀ entry ∈ added,
        entry.subscribe.subscribeId = world.subscribeId + 1 ∧ entry.context = .other context := by
    by_cases hother : handle = other
    · subst hother
      refine ⟨[{ addr := (world.clients handle).lastAddr + 1
                 subscribe :=
                  { subscribeId := (world.subscribeId + 1) % 2 ^ 32
                    keyList := keys
                    reader := .application }
                 context := .other context }], ?_, List.nodup_singleton _, ?_⟩
      · simp only [SharedWorld.tbcmhAttributesSubscribeOfArray, Function.update_self]
        rfl
      · intro entry hentry
        rw [List.mem_singleton.mp hentry]
        exact ⟨hmod, rfl⟩
    · refine ⟨[], ?_, List.nodup_nil, by simp⟩
      simp only [SharedWorld.tbcmhAttributesSubscribeOfArray, Function.update_of_ne hother]
      exact (List.append_nil _).symm
  have hnew : ∀ entry ∈ added, world.subscribeId < entry.subscribe.subscribeId ∧
      entry.subscribe.subscribeId ≤ world.subscribeId + 1 := by
    intro entry hentry
    rw [(hadded entry hentry).1]
    omega
  obtain ⟨hknown, hdistinct⟩ := h.append (world.subscribeId + 1) hnew hnodup (Nat.le_succ _)
  refine ⟨h.client, by rw [hid]; exact hcounter, by rwa [hid, hentries], by rwa [hentries], ?_, ?_,
    h.unbound⟩
  · intro entry hentry hcontext
    rw [hentries] at hentry
    rcases List.mem_append.mp hentry with hold | hnew
    · exact h.held entry hold hcontext
    · rw [(hadded entry hnew).2] at hcontext
      contradiction
  · intro cell hcell hnonneg
    obtain ⟨hle, hown⟩ := h.own cell hcell hnonneg
    rw [hid, hentries]
    refine ⟨by omega, ?_⟩
    intro entry hentry hsame
    rcases List.mem_append.mp hentry with hold | hnew
    · exact hown entry hold hsame
    · have hnext := (hadded entry hnew).1
      omega

theorem subscribe {world' : SharedWorld} (h : Linked handle world) {maxAttributes : Nat}
    (hkeeps : KeepsLinks world (.subscribe maxAttributes))
    (hok : tbceSharedattributesSubscribe handle maxAttributes world = .ok world') :
    Linked handle world' := by
  rcases Nat.eq_zero_or_pos maxAttributes with rfl | hmax
  · rw [tbceSharedattributesSubscribe, if_pos rfl] at hok
    obtain rfl := Except.ok.inj hok
    exact h
  rw [tbceSharedattributesSubscribe_eq hmax h.client] at hok
  obtain rfl := Except.ok.inj hok
  obtain ⟨appended, hpacks⟩ := world.packsSubscribed_unsubscribedPacks handle maxAttributes
  have hcounter : world.subscribeId + (world.unsubscribedPacks maxAttributes).length < 2 ^ 31 :=
    hkeeps
  have hflatten := world.flatten_unsubscribedPacks maxAttributes
  have hlength : ∀ pack ∈ world.unsubscribedPacks maxAttributes, pack ≠ [] := by
    intro pack hpack
    have hsize : ([] : List SharedattributeCell).length < min maxAttributes 10 := by
      rw [List.length_nil]
      omega
    exact List.length_pos_iff.mp (Slices.packs_length hsize _ pack hpack).1
  generalize world.unsubscribedPacks maxAttributes = packs at hpacks hcounter hflatten hlength
  have hsubscribeId := SharedWorld.foldl_subscribePack handle packs world (by omega)
  generalize packs.foldl (SharedWorld.subscribePack handle) world = world' at hpacks hsubscribeId
  obtain ⟨hnew, hnodup⟩ := hpacks.ids (by omega)
  obtain ⟨hknown, hdistinct⟩ := h.append _ hnew hnodup (Nat.le_add_right _ _)
  have hentries := hpacks.entries
  have hnatural : ∀ entry ∈ appended,
      toInt32 entry.subscribe.subscribeId = entry.subscribe.subscribeId := by
    intro entry hentry
    have hle := (hnew entry hentry).2
    exact toInt32_of_lt (by omega)
  refine ⟨.inr rfl, ?_, ?_, ?_, ?_, ?_, fun hnone => ?_⟩
  · exact hsubscribeId ▸ hcounter
  · intro entry hentry
    have hle := hknown entry (hentries ▸ hentry)
    exact hsubscribeId ▸ hle
  · exact hentries ▸ hdistinct
  · intro entry hentry hcontext
    have hmem : entry ∈ (world.clients handle).entries ++ appended := hentries ▸ hentry
    rcases List.mem_append.mp hmem with hold | hadded
    · obtain ⟨cell, hcell, hid⟩ := h.held entry hold hcontext
      have hsubscribed : cell.unsubscribed = false := by
        simp only [SharedattributeCell.unsubscribed, decide_eq_false_iff_not]
        omega
      exact ⟨cell, hpacks.kept_subscribed hflatten hcell hsubscribed, hid⟩
    · obtain ⟨pack, hpack, hholds⟩ := exists_of_forall₂_left hpacks.holds hadded
      obtain ⟨cell, hcell⟩ := List.exists_mem_of_ne_nil pack (hlength pack hpack)
      refine ⟨_, hholds.attributes cell hcell, ?_⟩
      rw [hnatural entry hadded, SharedattributeCell.subscribedBy,
        if_pos (Int.natCast_nonneg _)]
  · intro cell hcell hnonneg
    have hcounter' : ((SharedWorld.setClient (some handle) world').subscribeId : Int)
        = world.subscribeId + packs.length := by
      rw [← Int.natCast_add, ← hsubscribeId]
      rfl
    rw [hcounter']
    obtain ⟨hcell', hsubscribed⟩ | ⟨entry, hentry, pack, hpack, hholds, cell', hcell', rfl⟩ :=
      hpacks.cell_cases hflatten hcell
    · obtain ⟨hle, hown⟩ := h.own cell hcell' hnonneg
      refine ⟨by omega, ?_⟩
      intro entry hentry hid
      have hmem : entry ∈ (world.clients handle).entries ++ appended := hentries ▸ hentry
      rcases List.mem_append.mp hmem with hold | hadded
      · exact hown entry hold hid
      · have hlt := (hnew entry hadded).1
        omega
    · rw [hnatural entry hentry, SharedattributeCell.subscribedBy,
        if_pos (Int.natCast_nonneg _)] at hnonneg ⊢
      have hle := (hnew entry hentry).2
      refine ⟨by dsimp only; omega, ?_⟩
      intro entry' hentry' hid
      have hmem : entry' ∈ (world.clients handle).entries ++ appended := hentries ▸ hentry'
      -- the ids of the list are distinct, so it is the entry of the pack
      have hsame : entry' = entry := List.inj_on_of_nodup_map hdistinct hmem
        (List.mem_append_right _ hentry) (Int.ofNat.inj hid)
      rw [hsame]
      exact hholds.context
  · contradiction

end Linked

theorem linked_sharedInit (handle now lastHandle : Nat) :
    Linked handle (sharedInit now lastHandle) where
  client := .inl rfl
  counter := Nat.two_pow_pos 31
  known := fun _ hentry => absurd hentry List.not_mem_nil
  distinct := List.nodup_nil
  held := fun _ hentry => absurd hentry List.not_mem_nil
  own := fun _ hcell => absurd hcell List.not_mem_nil
  unbound := fun _ _ hcell => absurd hcell List.not_mem_nil

/-- What a step that meets the condition preserves. -/
theorem linked_step {handle : Nat} {world world' : SharedWorld} {input : SharedInput}
    (h : Linked handle world) (hkeeps : KeepsLinks world input)
    (hstep : sharedStep handle world input = .ok world') : Linked handle world' := by
  cases input with
  | register key =>
    obtain rfl := Except.ok.inj hstep
    exact h.register key
  | unregister key =>
    obtain rfl := Except.ok.inj hstep
    exact h.unregister hkeeps
  | subscribe maxAttributes => exact h.subscribe hkeeps hstep
  | unsubscribe => exact h.unsubscribe hstep
  | otherSubscribe other context keys =>
    obtain rfl := Except.ok.inj hstep
    exact h.otherSubscribe other context keys hkeeps
  | otherUnsubscribe other subscribeId =>
    obtain rfl := Except.ok.inj hstep
    exact h.otherUnsubscribe other subscribeId

instance (world : SharedWorld) (input : SharedInput) : Decidable (KeepsLinks world input) :=
  match input with
  | .unregister key =>
    match hfind : world.cells.find? (fun cell => decide (cell.key = key)) with
    | none => .isTrue fun cell hcell => by rw [hfind] at hcell; contradiction
    | some cell =>
      decidable_of_iff (0 ≤ cell.subscribeId → SharesId world cell)
        ⟨fun h cell' hcell' => Option.some.inj (hfind.symm.trans hcell') ▸ h, fun h => h cell hfind⟩
  | .subscribe _ | .otherSubscribe _ _ _ => inferInstanceAs (Decidable (_ < _))
  | .register _ | .unsubscribe | .otherUnsubscribe _ _ => inferInstanceAs (Decidable True)

/-- In a history whose steps all meet the condition, unsubscribing takes out the entries of the set and
    no other. -/
theorem unsubscribesAll_of_run {handle now lastHandle : Nat} {inputs : List SharedInput}
    {world : SharedWorld}
    (run : Run (within KeepsLinks (Succeeds (sharedStep handle))) (sharedInit now lastHandle)
      inputs world) : UnsubscribesAll handle world :=
  (run.invariant (linked_sharedInit handle now lastHandle) fun _ _ _ h hstep =>
    linked_step h hstep.1 hstep.2).unsubscribesAll

/-- Two attributes in one subscription, one of which is unregistered, beside a subscription of somebody
    else. -/
def sharedSubscription : List SharedInput :=
  [.register "mode", .otherSubscribe 0 7 ["mode"], .register "rate", .subscribe 10,
    .unregister "mode"]

theorem unsubscribesAll_sharedSubscription :
    UnsubscribesAll 0 (sharedSubscription.foldl (advance (sharedStep 0)) (sharedInit 0 0)) :=
  unsubscribesAll_of_run (run_of_allowed (by decide +kernel))

/-- The only attribute of a subscription is unregistered. -/
def orphanedSubscription : List SharedInput :=
  [.register "mode", .subscribe 10, .unregister "mode"]

/-- The subscription stays. -/
theorem unsubscribesAll_fails_orphanedSubscription :
    ¬ ∀ inputs world, Run (Succeeds (sharedStep 0)) (sharedInit 0 0) inputs world →
      UnsubscribesAll 0 world := by
  intro hall
  obtain ⟨world', hunsubscribe, hentries⟩ :=
    hall orphanedSubscription _ (run_of_succeeds (by decide +kernel))
  have hone : ((orphanedSubscription.foldl (advance (sharedStep 0))
      (sharedInit 0 0)).tbceSharedattributesUnsubscribe).map
        (fun world => (world.clients 0).entries.length) = .ok 1 := by decide +kernel
  rw [hunsubscribe] at hone
  have hlength : (world'.clients 0).entries.length = 1 := Except.ok.inj hone
  rw [hentries] at hlength
  exact absurd hlength (by decide +kernel)

end ThingsboardMqtt
