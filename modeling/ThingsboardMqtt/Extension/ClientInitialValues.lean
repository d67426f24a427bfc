import ThingsboardMqtt.Extension.DataSets
import ThingsboardMqtt.Extension.InitialValues

set_option autoImplicit false

/-! # Initial values of client attributes

`tbce_clientattributes_initialize` requests the keys of the attributes with an `on_set`, in groups, and
the `on_response` sets them from the client attributes of a response. For keys that a request can carry
and that differ by more than case, every such attribute gets the server's value once
(`comesBack_of_requestable`). -/

namespace ThingsboardMqtt

open CHeap CString LinkedList ListWalk Slices

variable {κ : Type}

/-! ## The C functions -/

/-- The attributes of a set, at different addresses. -/
structure RegisteredItems (κ : Type) where
  items : List (DataItem κ)
  nodup : (items.map (·.addr)).Nodup

/-- An attribute, as the loop over the keys reads it. -/
def DataItem.clientattribute (item : DataItem κ) : Clientattribute where
  key := item.key.map fun copy => Key.ofString copy.text
  onSet := item.onSet.isSome

namespace Initialising

/-- `tbce_clientattributes_initialize` -/
def tbceClientattributesInitialize (allocated : Bool) (maxAttributesPerRequest : UInt32)
    (state : Initialising (RegisteredItems κ)) :
    Except MemFault (Initialising (RegisteredItems κ)) := do
  let requests ← ThingsboardMqtt.tbceClientattributesInitialize allocated
    (state.set.items.map (·.clientattribute)) maxAttributesPerRequest
  .ok (requests.foldl tbcmhAttributesRequest state)

/-- A round of `_tbce_clientattributes_on_initialized`. -/
def onInitializedRound (onSet : κ → Cjson → Int) (object : Cjson) (item : DataItem κ)
    (state : Initialising (RegisteredItems κ)) :
    Except (WalkFault Fault) (Flow × Initialising (RegisteredItems κ)) :=
  match item.key, item.onSet with
  | some copy, some context =>
    match object.getObjectItem copy.text with
    | some value =>
      let result := onSet context value
      let state := { state with called := state.called ++ [(item.addr, value)] }
      if result = 2 then .ok (.leave, state)
      else if result = 1 then .ok (.leave, state)
      else .ok (.next, state)
    | none => .ok (.next, state)
  | _, _ => .ok (.next, state)

/-- `_tbce_clientattributes_on_initialized` -/
def tbceClientattributesOnInitialized (onSet : κ → Cjson → Int) :
    OnResponse (RegisteredItems κ) := fun clientAttributes _ state =>
  match clientAttributes with
  | none => .ok state
  | some object => do
    let (_, state) ← foreachCell
      (fun state : Initialising (RegisteredItems κ) => state.set.items) (·.addr)
      (onInitializedRound onSet object) state
    .ok state

end Initialising

/-! ## The keys -/

/-- The key of an attribute that is initialised. -/
def DataItem.initialKey (item : DataItem κ) : Option String :=
  if item.onSet.isSome then item.key.map (·.text) else none

/-- The keys of the attributes that are initialised can be requested. -/
def RequestableItems (maxAttributesPerRequest : UInt32) (items : List (DataItem κ)) : Prop :=
  RequestableKeys maxAttributesPerRequest (items.filterMap (·.initialKey))

/-- What an attribute is set to by an object. -/
def DataItem.setTo (object : Option Cjson) (item : DataItem κ) : Option (Nat × Cjson) := do
  let text ← item.initialKey
  let value ← (← object).getObjectItem text
  some (item.addr, value)

/-! ## A response -/

/-- An `on_set` reports that it took the value, or that it did not. -/
def StaysRegistered (onSet : κ → Cjson → Int) : Prop :=
  ∀ context value, onSet context value ≠ 1 ∧ onSet context value ≠ 2

theorem DataItem.addr_of_setTo {item : DataItem κ} {object : Option Cjson} {call : Nat × Cjson}
    (h : item.setTo object = some call) : call.1 = item.addr := by
  simp only [setTo, Option.bind_eq_bind, Option.bind_eq_some_iff] at h
  obtain ⟨_, -, _, -, _, -, hcall⟩ := h
  rw [← Option.some.inj hcall]

namespace Initialising

variable {onSet : κ → Cjson → Int}

theorem onInitializedRound_eq (honSet : StaysRegistered onSet) (object : Cjson)
    (item : DataItem κ) (state : Initialising (RegisteredItems κ)) :
    onInitializedRound onSet object item state
      = .ok (.next, { state with
          called := state.called ++ (item.setTo (some object)).toList }) := by
  cases hkey : item.key with
  | none => simp [onInitializedRound, DataItem.setTo, DataItem.initialKey, hkey]
  | some copy =>
    cases hset : item.onSet with
    | none => simp [onInitializedRound, DataItem.setTo, DataItem.initialKey, hkey, hset]
    | some context =>
      cases hitem : object.getObjectItem copy.text with
      | none =>
        simp [onInitializedRound, DataItem.setTo, DataItem.initialKey, hkey, hset, hitem]
      | some value =>
        obtain ⟨hone, htwo⟩ := honSet context value
        simp [onInitializedRound, DataItem.setTo, DataItem.initialKey, hkey, hset, hitem, hone,
          htwo]

/-- One `on_response` of the set goes through all its attributes. -/
theorem sets_clientattributes (honSet : StaysRegistered onSet) :
    Sets (tbceClientattributesOnInitialized onSet) fun set object =>
      set.items.filterMap (·.setTo (object.getObjectItem "client")) := by
  intro response state
  dsimp only
  generalize response.getObjectItem "client" = clientAttributes
  cases clientAttributes with
  | none =>
    have hnone : state.set.items.filterMap (·.setTo none) = [] :=
      List.filterMap_eq_nil_iff.mpr fun item _ => by simp [DataItem.setTo]
    rw [tbceClientattributesOnInitialized, hnone, List.append_nil]
  | some object =>
    have hnodup : ∀ s : Initialising (RegisteredItems κ), (s.set.items.map (·.addr)).Nodup :=
      fun s => s.set.nodup
    let inv (done todo : List (DataItem κ)) (s : Initialising (RegisteredItems κ)) : Prop :=
      s = { state with called := state.called ++ done.filterMap (·.setTo (some object)) } ∧
        state.set.items = done ++ todo
    have hcome : ∀ done todo s, inv done todo s → ∃ front, s.set.items = front ++ todo := by
      rintro done todo s ⟨rfl, hitems⟩
      exact ⟨done, hitems⟩
    have hround : ∀ done item todo s, inv done (item :: todo) s →
        ∃ s', onInitializedRound onSet object item s = .ok (.next, s') ∧
          inv (done ++ [item]) todo s' := by
      rintro done item todo s ⟨rfl, hitems⟩
      refine ⟨_, onInitializedRound_eq honSet object item _, ?_, by simp [hitems]⟩
      rw [List.filterMap_append, ← List.append_assoc]
      cases hset : item.setTo (some object) <;> simp [hset]
    have hstart : inv [] state.set.items state := ⟨by simp, rfl⟩
    obtain ⟨s', hloop, hdone, -⟩ := foreachCell_rule hnodup hcome hround hstart
    simp only [tbceClientattributesOnInitialized, hloop, hdone, bind, Except.bind]

end Initialising

/-! ## The requests -/

section Requests

variable {set : RegisteredItems κ} {maxAttributesPerRequest : UInt32}

theorem filterMap_requestedKey (items : List (DataItem κ)) :
    (items.map (·.clientattribute)).filterMap Clientattribute.requestedKey
      = (items.filterMap (·.initialKey)).map Key.ofString := by
  rw [List.filterMap_map, List.map_filterMap]
  refine List.filterMap_congr ?_
  intro item _
  simp only [Function.comp_apply, DataItem.clientattribute, Clientattribute.requestedKey,
    DataItem.initialKey]
  split
  · rw [Option.map_map]
    rfl
  · rfl

/-- The requests, one for each group. -/
def itemRequests (maxAttributesPerRequest : UInt32) (items : List (DataItem κ)) :
    List KeysRequest :=
  (groupTexts maxAttributesPerRequest ((items.filterMap (·.initialKey)).map Key.ofString)).map
    fun text => ⟨some text, none⟩

theorem RequestableItems.initialize_eq
    (h : RequestableItems maxAttributesPerRequest set.items) (client : Client) :
    Initialising.tbceClientattributesInitialize true maxAttributesPerRequest (.start set client)
      = .ok ((itemRequests maxAttributesPerRequest set.items).foldl
          Initialising.tbcmhAttributesRequest (.start set client)) := by
  obtain ⟨sent, hsent⟩ := (requestRegistered_clearedKeys_iff (fun sent => ⟨some sent, none⟩)
    maxAttributesPerRequest _).mpr h.length_joined
  simp only [Initialising.tbceClientattributesInitialize, tbceClientattributesInitialize,
    Initialising.start, filterMap_requestedKey, hsent, bind, Except.bind]
  exact congrArg Except.ok (congrArg (List.foldl _ _) (requestRegistered_groupTexts hsent))

/-- All requests are published, with the texts of the keys. -/
theorem RequestableItems.carried (h : RequestableItems maxAttributesPerRequest set.items) :
    ((itemRequests maxAttributesPerRequest set.items).filter (·.published)).map
        (fun keys => keys.clientKeys.getD [])
      = groupTexts maxAttributesPerRequest
          ((set.items.filterMap (·.initialKey)).map Key.ofString) := by
  have hall : ∀ keys ∈ itemRequests maxAttributesPerRequest set.items, keys.published = true := by
    intro keys hkeys
    obtain ⟨text, htext, rfl⟩ := List.mem_map.mp hkeys
    have hne := h.grouped.nonempty text htext
    obtain ⟨pack, hpack, rfl⟩ := List.mem_map.mp htext
    obtain ⟨k, rfl⟩ := exists_slice_of_mem_packs (batchSize_pos _) _ pack hpack
    exact (published_text (h.length_joined k)).1.trans (decide_eq_true hne)
  rw [List.filter_eq_self.mpr hall, itemRequests, List.map_map]
  exact List.map_id _

end Requests

/-! ## What a response sets -/

/-- A response sets an attribute to the server's value, if its request asks for the key. -/
theorem Responds.setTo {values : String → Option Cjson} {clientKeys : List Char}
    {object : Cjson} (h : Responds "client" values clientKeys object) {text : String}
    (hapart : ∀ name ∈ requestedNames clientKeys, strcaseEq text name = true → text = name)
    {item : DataItem κ} (hitem : item.initialKey = some text) :
    item.setTo (object.getObjectItem "client")
      = if text ∈ requestedNames clientKeys then (values text).map (item.addr, ·) else none := by
  have hset : item.setTo (object.getObjectItem "client")
      = (respondedValue "client" object text).map (item.addr, ·) := by
    rw [DataItem.setTo, hitem, respondedValue]
    cases object.getObjectItem "client" with
    | none => rfl
    | some client => cases hvalue : client.getObjectItem text <;> simp [hvalue]
  rw [hset, h.respondedValue_eq hapart]
  split <;> rfl

/-- Of lists without a common element, one has an element of their union. -/
theorem filterMap_mem_of_nodup {α β γ : Type} [DecidableEq β] {f : α → List β} {l : List α}
    (hnodup : (l.flatMap f).Nodup) {b : β} (hmem : b ∈ l.flatMap f) (found : Option γ) :
    l.filterMap (fun x => if b ∈ f x then found else none) = found.toList := by
  induction l with
  | nil => exact absurd hmem List.not_mem_nil
  | cons x rest ih =>
    rw [List.flatMap_cons, List.nodup_append] at hnodup
    obtain ⟨-, hrest, hapart⟩ := hnodup
    by_cases hb : b ∈ f x
    · have hnone : rest.filterMap (fun x => if b ∈ f x then found else none) = [] := by
        rw [List.filterMap_eq_nil_iff]
        intro y hy
        refine if_neg fun hby => ?_
        exact hapart b hb b (List.mem_flatMap.mpr ⟨y, hy, hby⟩) rfl
      cases found with
      | none => simp
      | some c => simp [hb, hnone]
    · have hmem' : b ∈ rest.flatMap f := by
        rw [List.flatMap_cons, List.mem_append] at hmem
        exact hmem.resolve_left hb
      simpa [List.filterMap_cons, hb] using ih hrest hmem'

/-! ## Every value comes back -/

/-- Whatever the server that holds `values` responds, and in whatever order, each attribute of the set
    with an `on_set` and a key gets the value of its key once, if there is one. -/
def ComesBack (values : String → Option Cjson) (maxAttributesPerRequest : UInt32)
    (set : RegisteredItems κ) (client : Client) : Prop :=
  ∃ state, Initialising.tbceClientattributesInitialize true maxAttributesPerRequest
      (.start set client) = .ok state ∧
    ∀ (onSet : κ → Cjson → Int) (answers : OtaAnswers) (objects : List Cjson)
      (arrivals : List (Nat × Cjson)), StaysRegistered onSet →
      List.Forall₂
        (fun sent object => Responds "client" values (sent.keys.clientKeys.getD []) object)
        state.sent objects →
      arrivals.Perm ((state.sent.map (·.request.requestId)).zip objects) →
      ∃ state', state.receive (Initialising.tbceClientattributesOnInitialized onSet) answers
          arrivals = .ok state' ∧
        ∀ item ∈ set.items, state'.called.filter (fun call => call.1 = item.addr)
          = ((item.initialKey.bind values).map (item.addr, ·)).toList

section Restart

variable {maxAttributesPerRequest : UInt32} {set : RegisteredItems κ} {client : Client}

/-- What responses to all texts set an attribute to. -/
theorem RequestableItems.filterMap_setTo (h : RequestableItems maxAttributesPerRequest set.items)
    {values : String → Option Cjson} {objects : List Cjson}
    (hobjects : List.Forall₂ (Responds "client" values) (groupTexts maxAttributesPerRequest
      ((set.items.filterMap (·.initialKey)).map Key.ofString)) objects)
    {item : DataItem κ} (hitem : item ∈ set.items) :
    objects.filterMap (fun object => item.setTo (object.getObjectItem "client"))
      = ((item.initialKey.bind values).map (item.addr, ·)).toList := by
  have hnames := h.names
  generalize groupTexts maxAttributesPerRequest
    ((set.items.filterMap (·.initialKey)).map Key.ofString) = texts at hobjects hnames
  cases hkey : item.initialKey with
  | none =>
    rw [Option.bind_none, Option.map_none, Option.toList_none, List.filterMap_eq_nil_iff]
    intro object _
    rw [DataItem.setTo, hkey]
    rfl
  | some text =>
    have htext : text ∈ texts.flatMap requestedNames := by
      rw [hnames]
      exact List.mem_filterMap.mpr ⟨item, hitem, hkey⟩
    have hnodup : (texts.flatMap requestedNames).Nodup := by
      rw [hnames]
      exact List.Nodup.of_map _ h.apart
    have hset : objects.filterMap (fun object => item.setTo (object.getObjectItem "client"))
        = texts.filterMap fun clientKeys => if text ∈ requestedNames clientKeys
            then (values text).map (item.addr, ·) else none := by
      have hapart : ∀ clientKeys ∈ texts, ∀ name ∈ requestedNames clientKeys,
          strcaseEq text name = true → text = name := by
        intro clientKeys hmem name hname hcase
        refine h.eq_of_strcaseEq (hnames ▸ htext) (hnames ▸ ?_) hcase
        exact List.mem_flatMap.mpr ⟨clientKeys, hmem, hname⟩
      clear hnames htext hnodup
      induction hobjects with
      | nil => rfl
      | cons hresponds _ ih =>
        rw [List.forall_mem_cons] at hapart
        rw [List.filterMap_cons, List.filterMap_cons, hresponds.setTo hapart.1 hkey,
          ih hapart.2]
    rw [hset, filterMap_mem_of_nodup hnodup htext, Option.bind_some]

/-- The values come back to a set whose keys can be requested. -/
theorem comesBack_of_requestable (h : RequestableItems maxAttributesPerRequest set.items)
    (hconnected : tbcmhIsConnected client.core = true)
    (hfree : NumbersFree (itemRequests maxAttributesPerRequest set.items) client)
    (values : String → Option Cjson) : ComesBack values maxAttributesPerRequest set client := by
  have hstart : tbcmhIsConnected (Initialising.start set client).client.core = true := hconnected
  have hkeys : ∀ keys ∈ itemRequests maxAttributesPerRequest set.items,
      (keys.clientKeys.isSome || keys.sharedKeys.isSome) = true := by
    intro keys hmem
    obtain ⟨text, -, rfl⟩ := List.mem_map.mp hmem
    rfl
  obtain ⟨new, hsends⟩ := Initialising.sends_all hstart hkeys
  refine ⟨_, h.initialize_eq client, ?_⟩
  intro onSet answers objects arrivals honSet hresponds harrivals
  obtain ⟨state', hreceive, hcalls⟩ := hsends.receive (Initialising.sets_clientattributes honSet)
    (fun _ _ _ => DataItem.addr_of_setTo) set.nodup hfree answers objects arrivals
    hresponds.length_eq.symm harrivals
  refine ⟨state', hreceive, ?_⟩
  intro item hitem
  have hcarried : List.Forall₂ (Responds "client" values) (groupTexts maxAttributesPerRequest
      ((set.items.filterMap (·.initialKey)).map Key.ofString)) objects := by
    have htexts := h.carried
    rw [← hsends.carried, List.map_map] at htexts
    rw [hsends.sent] at hresponds
    rwa [← htexts, List.forall₂_map_left_iff]
  have hperm := hcalls item hitem
  rw [h.filterMap_setTo hcarried hitem] at hperm
  cases hvalue : item.initialKey.bind values with
  | none =>
    rw [hvalue] at hperm
    exact List.perm_nil.mp hperm
  | some value =>
    rw [hvalue] at hperm
    exact List.perm_singleton.mp hperm

end Restart

end ThingsboardMqtt
