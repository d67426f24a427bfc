import ThingsboardMqtt.Extension.InitialValues
import ThingsboardMqtt.Extension.SharedUpdates

set_option autoImplicit false

/-! # Initial values of shared attributes

`tbce_sharedattributes_initialized` requests the keys of a set in groups. The `on_response` hands the
shared attributes of a response to `_tbce_sharedattributes_on_update`, which leaves out the attributes
that are not subscribed. So the server's values reach the set exactly when each attribute
that has one is subscribed and exactly one request asks for it (`initialised_iff`), which is always so
for keys that a request can carry and that differ by more than case (`canInitialise_iff_subscribed`). -/

namespace ThingsboardMqtt

open CHeap CString LinkedList ListWalk Slices

/-! ## The C functions -/

/-- The keys of a set. -/
def TbceSharedattributes.keys (set : TbceSharedattributes) : List Key :=
  set.sharedattributeList.map fun cell => Key.ofString cell.key

namespace Initialising

/-- `tbce_sharedattributes_initialized`; memory is left. -/
def tbceSharedattributesInitialized (maxAttributesPerRequest : UInt32)
    (state : Initialising TbceSharedattributes) :
    Except MemFault (Initialising TbceSharedattributes) := do
  let requests ← ThingsboardMqtt.tbceSharedattributesInitialized true
    (state.set.sharedattributeList.map fun cell => ⟨some (Key.ofString cell.key)⟩)
    maxAttributesPerRequest
  .ok (requests.foldl tbcmhAttributesRequest state)

/-- A round of `_tbce_sharedattributes_on_update`, with the `result` it has so far. -/
def onUpdateRound (onSet : Nat → Cjson → Int) (object : Cjson) (cell : SharedattributeCell)
    (s : Int × Initialising TbceSharedattributes) :
    Except (WalkFault Fault) (Flow × (Int × Initialising TbceSharedattributes)) :=
  if 0 ≤ cell.subscribeId && object.hasObjectItem cell.key then
    match object.getObjectItem cell.key with
    | some value =>
      let result := onSet cell.addr value
      let state := { s.2 with called := s.2.called ++ [(cell.addr, value)] }
      if result = 2 then .ok (.leave, (result, state))
      else if result = 1 then .ok (.leave, (result, state))
      else .ok (.next, (result, state))
    | none => .ok (.next, s)
  else .ok (.next, s)

/-- `_tbce_sharedattributes_on_update` -/
def tbceSharedattributesOnUpdate (onSet : Nat → Cjson → Int) (object : Option Cjson)
    (state : Initialising TbceSharedattributes) :
    Except (WalkFault Fault) (Int × Initialising TbceSharedattributes) :=
  match object with
  | none => .ok (0, state)
  | some object => do
    let (_, result) ← foreachCell
      (fun s : Int × Initialising TbceSharedattributes => s.2.set.sharedattributeList) (·.addr)
      (onUpdateRound onSet object) (0, state)
    .ok result

/-- `_tbce_sharedattributes_on_initialized` -/
def tbceSharedattributesOnInitialized (onSet : Nat → Cjson → Int) :
    OnResponse TbceSharedattributes := fun _ sharedAttributes state => do
  let (_, state) ← tbceSharedattributesOnUpdate onSet sharedAttributes state
  .ok state

end Initialising

/-! ## The values of the server -/

/-- Whatever the server responds, and in whatever order: each attribute whose key the server holds is
    set once, to the server's value. -/
def Initialised (values : String → Option Cjson) (maxAttributesPerRequest : UInt32)
    (sharedattributes : TbceSharedattributes) (client : Client) : Prop :=
  ∃ state, Initialising.tbceSharedattributesInitialized maxAttributesPerRequest
      (.start sharedattributes client) = .ok state ∧
    ∀ answers objects arrivals,
      List.Forall₂
        (fun sent object => Responds "shared" values (sent.keys.sharedKeys.getD []) object)
        state.sent objects →
      arrivals.Perm ((state.sent.map (·.request.requestId)).zip objects) →
      ∃ state', state.receive (Initialising.tbceSharedattributesOnInitialized fun _ _ => 0) answers
          arrivals = .ok state' ∧
        ∀ cell ∈ sharedattributes.sharedattributeList, ∀ value, values cell.key = some value →
          state'.called.filter (fun call => call.1 = cell.addr) = [(cell.addr, value)]

/-! ## When the values reach the set -/

namespace TbceSharedattributes

/-- The keys of each group fit in the buffer. -/
def KeysFit (maxAttributesPerRequest : UInt32) (set : TbceSharedattributes) : Prop :=
  ∀ k, (joined (batch (batchSize maxAttributesPerRequest) set.keys k)).length < maxKeysLen

/-- The requests, one for each group. -/
def requests (maxAttributesPerRequest : UInt32) (set : TbceSharedattributes) : List KeysRequest :=
  (groupTexts maxAttributesPerRequest set.keys).map fun text => ⟨none, some text⟩

/-- The texts of the requests that are sent. -/
def requestTexts (maxAttributesPerRequest : UInt32) (set : TbceSharedattributes) :
    List (List Char) :=
  (groupTexts maxAttributesPerRequest set.keys).filter fun text => text ≠ []

end TbceSharedattributes

/-- An attribute is subscribed, one request asks for its key, and not for one of another value that
    differs from it by case. -/
structure ReachedOnce (values : String → Option Cjson) (texts : List (List Char))
    (cell : SharedattributeCell) (value : Cjson) : Prop where
  subscribed : 0 ≤ cell.subscribeId
  once : texts.countP (asksFor values cell.key) = 1
  same : ∀ text ∈ texts, ∀ name ∈ requestedNames text, strcaseEq cell.key name = true →
    ∀ other, values name = some other → other = value

/-- The keys of the groups fit, and the server's values reach their attributes. -/
def CanInitialise (values : String → Option Cjson) (maxAttributesPerRequest : UInt32)
    (set : TbceSharedattributes) : Prop :=
  set.KeysFit maxAttributesPerRequest ∧
    ∀ cell ∈ set.sharedattributeList, ∀ value, values cell.key = some value →
      ReachedOnce values (set.requestTexts maxAttributesPerRequest) cell value

/-! ## A response -/

/-- What an attribute is set to by an object. -/
def SharedattributeCell.setTo (object : Option Cjson) (cell : SharedattributeCell) :
    Option (Nat × Cjson) :=
  if 0 ≤ cell.subscribeId then
    (object.bind (·.getObjectItem cell.key)).map fun value => (cell.addr, value)
  else none

namespace Initialising

/-- A round calls the `on_set` of an attribute that is subscribed and has a member. -/
theorem onUpdateRound_eq (object : Cjson) (cell : SharedattributeCell)
    (state : Initialising TbceSharedattributes) :
    onUpdateRound (fun _ _ => 0) object cell (0, state)
      = .ok (.next, (0, { state with
          called := state.called ++ (cell.setTo (some object)).toList })) := by
  by_cases hsubscribed : 0 ≤ cell.subscribeId
  · cases hitem : object.getObjectItem cell.key <;>
      simp [onUpdateRound, Cjson.hasObjectItem, SharedattributeCell.setTo, hsubscribed, hitem]
  · simp [onUpdateRound, SharedattributeCell.setTo, hsubscribed]

/-- One `on_update` of the set goes through all its attributes. -/
theorem tbceSharedattributesOnUpdate_eq (object : Option Cjson)
    (state : Initialising TbceSharedattributes) :
    state.tbceSharedattributesOnUpdate (fun _ _ => 0) object
      = .ok (0, { state with called := state.called ++
          state.set.sharedattributeList.filterMap (·.setTo object) }) := by
  cases object with
  | none =>
    have hnone : ∀ cells : List SharedattributeCell,
        cells.filterMap (fun cell => cell.setTo none) = [] :=
      fun cells => List.filterMap_eq_nil_iff.mpr fun cell _ => by simp [SharedattributeCell.setTo]
    rw [tbceSharedattributesOnUpdate, hnone, List.append_nil]
  | some object =>
    have hnodup : ∀ s : Int × Initialising TbceSharedattributes,
        (s.2.set.sharedattributeList.map (·.addr)).Nodup := fun s => s.2.set.nodup
    let inv (done todo : List SharedattributeCell)
        (s : Int × Initialising TbceSharedattributes) : Prop :=
      s = (0, { state with
        called := state.called ++ done.filterMap (·.setTo (some object)) }) ∧
        state.set.sharedattributeList = done ++ todo
    have hcome : ∀ done todo s, inv done todo s →
        ∃ front, s.2.set.sharedattributeList = front ++ todo := by
      rintro done todo s ⟨rfl, hcells⟩
      exact ⟨done, hcells⟩
    have hround : ∀ done cell todo s, inv done (cell :: todo) s →
        ∃ s', onUpdateRound (fun _ _ => 0) object cell s = .ok (.next, s') ∧
          inv (done ++ [cell]) todo s' := by
      rintro done cell todo s ⟨rfl, hcells⟩
      refine ⟨_, onUpdateRound_eq object cell _, ?_, by simp [hcells]⟩
      rw [List.filterMap_append, ← List.append_assoc]
      cases hset : cell.setTo (some object) <;> simp [hset]
    have hstart : inv [] state.set.sharedattributeList (0, state) := ⟨by simp, rfl⟩
    obtain ⟨s', hloop, hdone, -⟩ := foreachCell_rule hnodup hcome hround
      (s := ((0 : Int), state)) hstart
    simp only [tbceSharedattributesOnUpdate, hloop, hdone, bind, Except.bind]

theorem sets_onInitialized :
    Sets (tbceSharedattributesOnInitialized fun _ _ => 0) fun set object =>
      set.sharedattributeList.filterMap (·.setTo (object.getObjectItem "shared")) := by
  intro object state
  simp only [tbceSharedattributesOnInitialized, tbceSharedattributesOnUpdate_eq, bind, Except.bind]

end Initialising

section Initialized

variable {maxAttributesPerRequest : UInt32} {set : TbceSharedattributes} {client : Client}

theorem TbceSharedattributes.keys_eq (set : TbceSharedattributes) :
    set.keys = (set.sharedattributeList.map (·.key)).map Key.ofString := by
  rw [keys, List.map_map]
  rfl

theorem TbceSharedattributes.filterMap_key (set : TbceSharedattributes) :
    (set.sharedattributeList.map fun cell =>
      (⟨some (Key.ofString cell.key)⟩ : Sharedattribute)).filterMap Sharedattribute.key
      = set.keys := by
  rw [List.filterMap_map, keys, ← List.filterMap_eq_map]
  rfl

/-- The function stays in its buffer exactly when the keys of each group fit. -/
theorem initialized_iff_keysFit :
    (∃ state, Initialising.tbceSharedattributesInitialized maxAttributesPerRequest
        (.start set client) = .ok state) ↔ set.KeysFit maxAttributesPerRequest := by
  have hfit := keysFit_iff (.sharedattributesInitialized true
    (set.sharedattributeList.map fun cell => ⟨some (Key.ofString cell.key)⟩)
    maxAttributesPerRequest)
  rw [KeyLoop.KeysFit, set.filterMap_key, KeyLoop.run] at hfit
  rw [TbceSharedattributes.KeysFit, ← hfit.trans (forall_prop_of_true rfl),
    Initialising.tbceSharedattributesInitialized, Initialising.start]
  cases tbceSharedattributesInitialized true _ maxAttributesPerRequest with
  | error fault => simp [bind, Except.bind]
  | ok requests => simp [bind, Except.bind]

theorem initialized_eq (hfit : set.KeysFit maxAttributesPerRequest) (client : Client) :
    Initialising.tbceSharedattributesInitialized maxAttributesPerRequest (.start set client)
      = .ok ((set.requests maxAttributesPerRequest).foldl
          Initialising.tbcmhAttributesRequest (.start set client)) := by
  obtain ⟨sent, hsent⟩ := (requestRegistered_clearedKeys_iff (fun sent => ⟨none, some sent⟩)
    maxAttributesPerRequest set.keys).mpr hfit
  simp only [Initialising.tbceSharedattributesInitialized, tbceSharedattributesInitialized,
    Initialising.start, set.filterMap_key, hsent, bind, Except.bind]
  exact congrArg Except.ok (congrArg (List.foldl _ _) (requestRegistered_groupTexts hsent))

theorem isSome_of_mem_requests (maxAttributesPerRequest : UInt32) (set : TbceSharedattributes) :
    ∀ keys ∈ set.requests maxAttributesPerRequest,
      (keys.clientKeys.isSome || keys.sharedKeys.isSome) = true := by
  intro keys hkeys
  obtain ⟨pack, -, rfl⟩ := List.mem_map.mp hkeys
  rfl

/-- The requests that are published carry the texts that are not empty. -/
theorem carried_requests (hfit : set.KeysFit maxAttributesPerRequest) :
    ((set.requests maxAttributesPerRequest).filter (·.published)).map
        (fun keys => keys.sharedKeys.getD [])
      = set.requestTexts maxAttributesPerRequest := by
  have hpublished : (groupTexts maxAttributesPerRequest set.keys).filter
        ((·.published) ∘ fun text => (⟨none, some text⟩ : KeysRequest))
      = set.requestTexts maxAttributesPerRequest := by
    refine List.filter_congr fun text htext => ?_
    obtain ⟨pack, hpack, rfl⟩ := List.mem_map.mp htext
    obtain ⟨k, rfl⟩ := exists_slice_of_mem_packs (batchSize_pos _) set.keys pack hpack
    exact (published_text (hfit k)).2
  rw [TbceSharedattributes.requests, List.filter_map, List.map_map, hpublished]
  exact List.map_id _

theorem SharedattributeCell.addr_of_setTo {cell : SharedattributeCell} {object : Option Cjson}
    {call : Nat × Cjson} (h : cell.setTo object = some call) : call.1 = cell.addr := by
  unfold setTo at h
  split at h
  · obtain ⟨value, -, rfl⟩ := Option.map_eq_some_iff.mp h
    rfl
  · contradiction

/-- The values reach the set exactly when, of the responses to its requests, one sets each attribute
    whose key the server holds. -/
theorem initialised_iff_setTo {values : String → Option Cjson}
    (hconnected : tbcmhIsConnected client.core = true)
    (hfree : set.KeysFit maxAttributesPerRequest →
      NumbersFree (set.requests maxAttributesPerRequest) client) :
    Initialised values maxAttributesPerRequest set client ↔
      set.KeysFit maxAttributesPerRequest ∧
        ∀ objects,
          List.Forall₂ (Responds "shared" values) (set.requestTexts maxAttributesPerRequest)
            objects →
          ∀ cell ∈ set.sharedattributeList, ∀ value, values cell.key = some value →
            objects.filterMap (fun object => cell.setTo (object.getObjectItem "shared"))
              = [(cell.addr, value)] := by
  by_cases hfit : set.KeysFit maxAttributesPerRequest
  · have hstate := initialized_eq hfit client
    have hstart : tbcmhIsConnected (Initialising.start set client).client.core = true := hconnected
    obtain ⟨new, hsends⟩ := Initialising.sends_all hstart
      (isSome_of_mem_requests maxAttributesPerRequest set)
    generalize (set.requests maxAttributesPerRequest).foldl
      Initialising.tbcmhAttributesRequest (.start set client) = state at hstate hsends
    have hsent : state.sent = new := hsends.sent
    have hcarried : new.map (fun sent => sent.keys.sharedKeys.getD [])
        = set.requestTexts maxAttributesPerRequest := by
      rw [← carried_requests hfit, ← hsends.carried, List.map_map]
      rfl
    have hresponds : ∀ objects,
        List.Forall₂ (fun sent object => Responds "shared" values (sent.keys.sharedKeys.getD [])
          object) state.sent objects ↔
        List.Forall₂ (Responds "shared" values) (set.requestTexts maxAttributesPerRequest)
          objects := by
      intro objects
      rw [hsent, ← hcarried, List.forall₂_map_left_iff]
    have hreceive := hsends.receive Initialising.sets_onInitialized
      (fun _ _ _ => SharedattributeCell.addr_of_setTo) set.nodup (hfree hfit)
    constructor
    · rintro ⟨state', hstate', hall⟩
      obtain rfl : state = state' := Except.ok.inj (hstate.symm.trans hstate')
      refine ⟨hfit, ?_⟩
      intro objects hobjects cell hcell value hvalue
      have hresponses := (hresponds objects).mpr hobjects
      obtain ⟨received, hreceived, hset⟩ := hall sampleAnswers objects _ hresponses (List.Perm.refl _)
      obtain ⟨received', hreceived', hcalls⟩ := hreceive sampleAnswers objects _
        hresponses.length_eq.symm (List.Perm.refl _)
      obtain rfl : received = received' := Except.ok.inj (hreceived.symm.trans hreceived')
      have hperm := hcalls cell hcell
      rw [hset cell hcell value hvalue] at hperm
      exact List.perm_singleton.mp hperm.symm
    · rintro ⟨-, hall⟩
      refine ⟨state, hstate, ?_⟩
      intro answers objects arrivals hresponses harrivals
      obtain ⟨received, hreceived, hcalls⟩ := hreceive answers objects arrivals
        hresponses.length_eq.symm harrivals
      refine ⟨received, hreceived, ?_⟩
      intro cell hcell value hvalue
      have hperm := hcalls cell hcell
      rw [hall objects ((hresponds objects).mp hresponses) cell hcell value hvalue] at hperm
      exact List.perm_singleton.mp hperm
  · refine iff_of_false ?_ fun h => hfit h.1
    rintro ⟨state, hstate, -⟩
    exact hfit (initialized_iff_keysFit.mp ⟨state, hstate⟩)

end Initialized

/-! ## What the server responds -/

section Responses

variable {values : String → Option Cjson} {text : List Char}

theorem getObjectItem_cons {key name : String} (hcase : strcaseEq key name = true) (value : Cjson)
    (members : List (String × Cjson)) :
    (Cjson.object ((name, value) :: members)).getObjectItem key = some value := by
  simp [Cjson.getObjectItem, hcase]

/-- The response whose members are in the order of these names. -/
def response (values : String → Option Cjson) (names : List String) : Cjson :=
  .object [("shared", .object (names.filterMap fun name => (values name).map fun value =>
    (name, value)))]

theorem getObjectItem_response (values : String → Option Cjson) (names : List String) :
    (response values names).getObjectItem "shared"
      = some (.object (names.filterMap fun name => (values name).map fun value =>
          (name, value))) := by
  exact getObjectItem_cons (by decide : strcaseEq "shared" "shared" = true) _ []

/-- A server may respond in any order. -/
theorem responds_response {names : List String} (hnodup : names.Nodup)
    (hnames : ∀ name, name ∈ names ↔ name ∈ requestedNames text) :
    Responds "shared" values text (response values names) := by
  unfold Responds
  rw [getObjectItem_response]
  refine ⟨?_, ?_⟩
  · refine hnodup.sublist ?_
    clear hnodup hnames
    induction names with
    | nil => exact List.Sublist.refl _
    | cons name rest ih =>
      cases hheld : values name with
      | none =>
        rw [List.filterMap_cons_none (by simp [hheld])]
        exact ih.cons name
      | some value =>
        rw [List.filterMap_cons_some (by rw [hheld]; rfl)]
        exact ih.cons_cons name
  · intro name value
    rw [← hnames, List.mem_filterMap]
    constructor
    · rintro ⟨name', hmem, hsome⟩
      obtain ⟨value', hheld, heq⟩ := Option.map_eq_some_iff.mp hsome
      obtain ⟨rfl, rfl⟩ := Prod.mk.inj heq
      exact ⟨hmem, hheld⟩
    · rintro ⟨hmem, hheld⟩
      exact ⟨name, hmem, by rw [hheld]; rfl⟩

theorem exists_responds {name : String} (hname : name ∈ requestedNames text) {value : Cjson}
    (hheld : values name = some value) {key : String} (hcase : strcaseEq key name = true) :
    ∃ object, Responds "shared" values text object ∧ respondedValue "shared" object key = some value := by
  have hnodup := List.nodup_dedup (requestedNames text)
  refine ⟨response values (name :: (requestedNames text).dedup.erase name),
    responds_response ?_ ?_, ?_⟩
  · exact List.nodup_cons.mpr ⟨hnodup.not_mem_erase, hnodup.erase name⟩
  · intro other
    rw [List.mem_cons, hnodup.mem_erase_iff, List.mem_dedup]
    constructor
    · rintro (rfl | ⟨-, hmem⟩)
      · exact hname
      · exact hmem
    · intro hmem
      by_cases hsame : other = name
      · exact .inl hsame
      · exact .inr ⟨hsame, hmem⟩
  · rw [respondedValue, getObjectItem_response, Option.bind_some,
      List.filterMap_cons_some (by rw [hheld]; rfl)]
    exact getObjectItem_cons hcase value _

end Responses

/-! ## The condition -/

section Condition

variable {values : String → Option Cjson} {texts : List (List Char)} {cell : SharedattributeCell}
  {value : Cjson}

theorem SharedattributeCell.setTo_eq_some_iff {object : Cjson} {call : Nat × Cjson} :
    cell.setTo (object.getObjectItem "shared") = some call ↔
      0 ≤ cell.subscribeId ∧ ∃ value, respondedValue "shared" object cell.key = some value ∧
        call = (cell.addr, value) := by
  unfold setTo respondedValue
  split
  · rename_i hsubscribed
    rw [Option.map_eq_some_iff]
    constructor
    · rintro ⟨value, hvalue, rfl⟩
      exact ⟨hsubscribed, value, hvalue, rfl⟩
    · rintro ⟨-, value, hvalue, rfl⟩
      exact ⟨value, hvalue, rfl⟩
  · rename_i hsubscribed
    exact iff_of_false (by simp) fun h => hsubscribed h.1

/-- How many responses set an attribute that is subscribed. -/
theorem length_filterMap_setTo (hsubscribed : 0 ≤ cell.subscribeId) {objects : List Cjson}
    (hobjects : List.Forall₂ (Responds "shared" values) texts objects) :
    (objects.filterMap fun object => cell.setTo (object.getObjectItem "shared")).length
      = texts.countP (asksFor values cell.key) := by
  rw [List.length_filterMap_eq_countP]
  refine (countP_of_forall₂ hobjects ?_).symm
  intro text object _ hresponds
  rw [← hresponds.isSome_respondedValue, SharedattributeCell.setTo, if_pos hsubscribed,
    Option.isSome_map]
  rfl

/-- Where the condition holds, an attribute is set once, to its value. -/
theorem ReachedOnce.filterMap_setTo (h : ReachedOnce values texts cell value)
    {objects : List Cjson} (hobjects : List.Forall₂ (Responds "shared" values) texts objects) :
    objects.filterMap (fun object => cell.setTo (object.getObjectItem "shared"))
      = [(cell.addr, value)] := by
  have hlength := (length_filterMap_setTo h.subscribed hobjects).trans h.once
  obtain ⟨call, hcall⟩ := List.length_eq_one_iff.mp hlength
  have hmem : call ∈ objects.filterMap fun object => cell.setTo (object.getObjectItem "shared") :=
    hcall ▸ List.mem_singleton_self call
  obtain ⟨object, hobject, hset⟩ := List.mem_filterMap.mp hmem
  obtain ⟨-, found, hfound, rfl⟩ := SharedattributeCell.setTo_eq_some_iff.mp hset
  obtain ⟨text, htext, hresponds⟩ := exists_of_forall₂_right hobjects hobject
  obtain ⟨name, hname, hcase, hheld⟩ := hresponds.exists_of_respondedValue hfound
  rw [hcall, h.same text htext name hname hcase found hheld]

theorem forall₂_responds (values : String → Option Cjson) (texts : List (List Char)) :
    List.Forall₂ (Responds "shared" values) texts
      (texts.map fun text => response values (requestedNames text).dedup) := by
  rw [List.forall₂_map_right_iff, List.forall₂_same]
  exact fun text _ => responds_response (List.nodup_dedup _) fun name => List.mem_dedup

/-- Where an attribute is set once to its value by all responses, the condition holds. -/
theorem reachedOnce_of_setTo
    (h : ∀ objects, List.Forall₂ (Responds "shared" values) texts objects →
      objects.filterMap (fun object => cell.setTo (object.getObjectItem "shared"))
        = [(cell.addr, value)]) :
    ReachedOnce values texts cell value := by
  have hresponses := forall₂_responds values texts
  have hone := h _ hresponses
  have hsubscribed : 0 ≤ cell.subscribeId := by
    have hmem := hone ▸ List.mem_singleton_self (cell.addr, value)
    obtain ⟨object, -, hset⟩ := List.mem_filterMap.mp hmem
    exact (SharedattributeCell.setTo_eq_some_iff.mp hset).1
  refine ⟨hsubscribed, ?_, ?_⟩
  · rw [← length_filterMap_setTo hsubscribed hresponses, hone, List.length_singleton]
  · -- the other value stands first in a response
    intro text htext name hname hcase other hheld
    obtain ⟨front, back, rfl⟩ := List.append_of_mem htext
    obtain ⟨object, hobject, hvalue⟩ := exists_responds hname hheld hcase
    have hobjects := List.rel_append (forall₂_responds values front)
      (.cons hobject (forall₂_responds values back))
    have hmem : object ∈ front.map (fun text => response values (requestedNames text).dedup) ++
        object :: back.map fun text => response values (requestedNames text).dedup :=
      List.mem_append_right _ List.mem_cons_self
    have hset : cell.setTo (object.getObjectItem "shared") = some (cell.addr, other) :=
      SharedattributeCell.setTo_eq_some_iff.mpr ⟨hsubscribed, other, hvalue, rfl⟩
    have hcall : (cell.addr, other) ∈ [(cell.addr, value)] := by
      rw [← h _ hobjects]
      exact List.mem_filterMap.mpr ⟨object, hmem, hset⟩
    exact (Prod.mk.inj (List.mem_singleton.mp hcall)).2

end Condition

/-! ## Keys that a request can carry -/

/-- The keys of the set can be requested. -/
def TbceSharedattributes.Requestable (maxAttributesPerRequest : UInt32)
    (set : TbceSharedattributes) : Prop :=
  RequestableKeys maxAttributesPerRequest (set.sharedattributeList.map (·.key))

/-- One element of all lists fits, so one list has it. -/
theorem countP_any_eq_one {α β : Type} {f : α → List β} {p : β → Bool} {l : List α}
    (h : (l.flatMap f).countP p = 1) : l.countP (fun x => (f x).any p) = 1 := by
  have hnone : ∀ l : List α, (l.flatMap f).countP p = 0 →
      l.countP (fun x => (f x).any p) = 0 := by
    intro l hzero
    refine List.countP_eq_zero.mpr fun x hx hany => ?_
    obtain ⟨y, hy, hp⟩ := List.any_eq_true.mp hany
    exact List.countP_eq_zero.mp hzero y (List.mem_flatMap.mpr ⟨x, hx, hy⟩) hp
  induction l with
  | nil => simp at h
  | cons x rest ih =>
    rw [List.flatMap_cons, List.countP_append] at h
    rw [List.countP_cons]
    cases hany : (f x).any p with
    | true =>
      have hpos : 0 < (f x).countP p := List.countP_pos_iff.mpr (List.any_eq_true.mp hany)
      simp [hnone rest (by omega)]
    | false =>
      have hzero : (f x).countP p = 0 := by
        refine List.countP_eq_zero.mpr fun y hy hp => ?_
        rw [List.any_eq_true.mpr ⟨y, hy, hp⟩] at hany
        contradiction
      simp [ih (by omega)]

namespace TbceSharedattributes.Requestable

variable {maxAttributesPerRequest : UInt32} {set : TbceSharedattributes}
  (h : set.Requestable maxAttributesPerRequest)

include h

theorem keysFit : set.KeysFit maxAttributesPerRequest := by
  intro k
  rw [set.keys_eq]
  exact h.length_joined k

theorem names : (set.requestTexts maxAttributesPerRequest).flatMap requestedNames
    = set.sharedattributeList.map (·.key) := by
  have hall : set.requestTexts maxAttributesPerRequest
      = groupTexts maxAttributesPerRequest set.keys := by
    rw [requestTexts, set.keys_eq]
    exact List.filter_eq_self.mpr fun text htext => by simpa using h.grouped.nonempty text htext
  rw [hall, set.keys_eq]
  exact RequestableKeys.names h

theorem eq_of_strcaseEq {cell other : SharedattributeCell} (hcell : cell ∈ set.sharedattributeList)
    (hother : other ∈ set.sharedattributeList) (hcase : strcaseEq cell.key other.key = true) :
    cell = other := by
  have hapart : (set.sharedattributeList.map fun cell => cell.key.toList.map Char.toLower).Nodup := by
    have hnodup := h.apart
    rwa [List.map_map] at hnodup
  exact List.inj_on_of_nodup_map hapart hcell hother (by simpa [strcaseEq] using hcase)

/-- One request asks for a key that the server holds. -/
theorem countP_asksFor {values : String → Option Cjson} {cell : SharedattributeCell}
    (hcell : cell ∈ set.sharedattributeList) (hheld : (values cell.key).isSome = true) :
    (set.requestTexts maxAttributesPerRequest).countP (asksFor values cell.key) = 1 := by
  refine countP_any_eq_one ?_
  rw [h.names, List.countP_map]
  have hnodup : set.sharedattributeList.Nodup := List.Nodup.of_map _ set.nodup
  rw [← List.count_eq_one_of_mem hnodup hcell, List.count]
  refine List.countP_congr ?_
  intro other hother
  simp only [Function.comp_apply, Bool.and_eq_true, beq_iff_eq]
  constructor
  · rintro ⟨-, hcase⟩
    exact (h.eq_of_strcaseEq hcell hother hcase).symm
  · rintro rfl
    exact ⟨hheld, by simp [strcaseEq]⟩

end TbceSharedattributes.Requestable

/-- For such keys the values reach the set exactly when every attribute whose key the server holds is
    subscribed. -/
theorem canInitialise_iff_subscribed {maxAttributesPerRequest : UInt32}
    {set : TbceSharedattributes} (h : set.Requestable maxAttributesPerRequest)
    (values : String → Option Cjson) :
    CanInitialise values maxAttributesPerRequest set ↔
      ∀ cell ∈ set.sharedattributeList, (values cell.key).isSome = true → 0 ≤ cell.subscribeId := by
  constructor
  · rintro ⟨-, hreached⟩ cell hcell hheld
    obtain ⟨value, hvalue⟩ := Option.isSome_iff_exists.mp hheld
    exact (hreached cell hcell value hvalue).subscribed
  · intro hsubscribed
    refine ⟨h.keysFit, ?_⟩
    intro cell hcell value hvalue
    have hheld : (values cell.key).isSome = true := by rw [hvalue]; rfl
    refine ⟨hsubscribed cell hcell hheld, h.countP_asksFor hcell hheld, ?_⟩
    intro text htext name hname hcase other hother
    have hmem : name ∈ set.sharedattributeList.map (·.key) := by
      rw [← h.names]
      exact List.mem_flatMap.mpr ⟨text, htext, hname⟩
    obtain ⟨cell', hcell', rfl⟩ := List.mem_map.mp hmem
    obtain rfl := h.eq_of_strcaseEq hcell hcell' hcase
    exact Option.some.inj (hother.symm.trans hvalue)

/-! ## Every value reaches its attribute -/

section Initialised

variable {values : String → Option Cjson} {maxAttributesPerRequest : UInt32} 
  {set : TbceSharedattributes} {client : Client}

theorem canInitialise_of_initialised (hconnected : tbcmhIsConnected client.core = true)
    (hfree : set.KeysFit maxAttributesPerRequest →
      NumbersFree (set.requests maxAttributesPerRequest) client)
    (h : Initialised values maxAttributesPerRequest set client) :
    CanInitialise values maxAttributesPerRequest set := by
  obtain ⟨hfit, hall⟩ := (initialised_iff_setTo hconnected hfree).mp h
  refine ⟨hfit, ?_⟩
  intro cell hcell value hvalue
  exact reachedOnce_of_setTo fun objects hobjects => hall objects hobjects cell hcell value hvalue

/-- The server's values reach a set, whatever the server responds and in whatever order, exactly when
    the keys of the groups fit and every attribute whose key the server holds is subscribed and is
    asked for once. -/
theorem initialised_iff (values : String → Option Cjson) (maxAttributesPerRequest : UInt32)
    (set : TbceSharedattributes) {client : Client}
    (hconnected : tbcmhIsConnected client.core = true)
    (hfree : set.KeysFit maxAttributesPerRequest →
      NumbersFree (set.requests maxAttributesPerRequest) client) :
    Initialised values maxAttributesPerRequest set client ↔
      CanInitialise values maxAttributesPerRequest set := by
  refine ⟨canInitialise_of_initialised hconnected hfree, ?_⟩
  rintro ⟨hfit, hreached⟩
  refine (initialised_iff_setTo hconnected hfree).mpr ⟨hfit, ?_⟩
  intro objects hobjects cell hcell value hvalue
  exact (hreached cell hcell value hvalue).filterMap_setTo hobjects

end Initialised

/-- A set of two attributes that are subscribed. -/
def twoAttributes : TbceSharedattributes where
  client := none
  sharedattributeList := [⟨1, 0, "mode"⟩, ⟨2, 1, "rate"⟩]
  lastAddr := 2
  allocated := by decide
  nodup := by decide

/-- The server holds a value of both. -/
def bothHeld (key : String) : Option Cjson :=
  if key = "mode" then some (.string "eco") else if key = "rate" then some (.number 5) else none

/-- A client that is connected, with a request of the application that waits. -/
def waitingClient : Client :=
  (tbcmhRequest (.sharedattributes ["other"]) .application false ⟨true, true⟩ connectedClient).2

theorem requestable_twoAttributes : twoAttributes.Requestable 1 where
  strings := by decide
  requestable := by
    intro key hkey
    have hcases : key = "mode" ∨ key = "rate" := by simpa [twoAttributes] using hkey
    rcases hcases with rfl | rfl <;> exact ⟨by decide, by decide⟩
  fit := groupsFit_of_length (by decide) 1
  apart := by decide

/-- Each of the two attributes gets its value by a request of its own, while a request of the
    application waits for its response. -/
theorem initialised_iff_twoGroups :
    (twoAttributes.requests 1).length = 2 ∧
      (waitingClient.requestList .attributesrequest).length = 1 ∧
      Initialised bothHeld 1 twoAttributes waitingClient := by
  have hfree : NumbersFree (twoAttributes.requests 1) waitingClient := by
    unfold NumbersFree
    decide
  have hsubscribed : CanInitialise bothHeld 1 twoAttributes :=
    (canInitialise_iff_subscribed requestable_twoAttributes bothHeld).mpr (by decide)
  exact ⟨by decide, by decide,
    (initialised_iff bothHeld 1 twoAttributes (by decide) fun _ => hfree).mpr hsubscribed⟩

/-- A set of one attribute that is registered and not subscribed. -/
def unsubscribedAttribute : TbceSharedattributes where
  client := none
  sharedattributeList := [⟨1, -1, "rate"⟩]
  lastAddr := 1
  allocated := by simp
  nodup := List.nodup_singleton _

/-- The server holds a value of the attribute. -/
def rateHeld (key : String) : Option Cjson := if key = "rate" then some (.number 5) else none

/-- The value of an attribute that is not subscribed does not reach it. -/
theorem initialised_fails_unsubscribedAttribute :
    ¬ Initialised rateHeld 1 unsubscribedAttribute connectedClient := by
  intro h
  obtain ⟨-, hreached⟩ := canInitialise_of_initialised (by decide)
    (fun _ => numbersFree_connectedClient _) h
  have hsubscribed := (hreached ⟨1, -1, "rate"⟩ List.mem_cons_self (.number 5) rfl).subscribed
  exact absurd hsubscribed (by decide)

end ThingsboardMqtt
