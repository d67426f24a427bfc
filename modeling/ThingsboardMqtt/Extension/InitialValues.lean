import Mathlib.Data.List.Flatten
import Mathlib.Data.List.TakeWhile
import ThingsboardMqtt.Helper.Events
import ThingsboardMqtt.Helper.KeyGroups
import ThingsboardMqtt.Library.LinkedList

set_option autoImplicit false

/-! # Initial values

`tbce_sharedattributes_initialized` and `tbce_clientattributes_initialize` request the keys of a set in
groups. The responses may arrive in any order: each carries the number of its request, and all requests
of the set have the same `on_response`. So what the responses set does not depend on their order
(`Sends.receive`). What a set is, and what its `on_response` does with the client attributes and the
shared attributes of a response, is left to `SharedInitialValues` and `ClientInitialValues`. -/

namespace ThingsboardMqtt

open CHeap CString LinkedList ListWalk Slices

variable {σ : Type}

/-! ## The C functions -/

/-- A request of the set that was sent, with the keys it carries. -/
structure SentKeys where
  request : Request
  keys : KeysRequest

/-- A set and its client: `sent` are the requests whose context is the set, and `called` are the calls
    of `on_set`, by the address of the attribute. -/
structure Initialising (σ : Type) where
  set : σ
  client : Client
  sent : List SentKeys
  called : List (Nat × Cjson)

/-- An `on_response` with the set as its context: it gets the client attributes and the shared
    attributes of a response. -/
abbrev OnResponse (σ : Type) :=
  Option Cjson → Option Cjson → Initialising σ → Except (WalkFault Fault) (Initialising σ)

/-- The C string of a key ends at the first NUL. -/
def Key.ofString (key : String) : Key where
  chars := key.toList.takeWhile fun c => c != nul
  nul_not_mem := by
    intro hmem
    simpa using List.mem_takeWhile_imp hmem

/-- A request without keys is not published. -/
def KeysRequest.published (keys : KeysRequest) : Bool :=
  (tbcmAttributesRequestExPayload keys.clientKeys keys.sharedKeys).isSome

namespace Initialising

/-- Nothing was requested for the set. -/
def start (set : σ) (client : Client) : Initialising σ := ⟨set, client, [], []⟩

/-- `tbcmh_attributes_request`, called for a set: there is no `on_timeout`. -/
def tbcmhAttributesRequest (state : Initialising σ) (keys : KeysRequest) : Initialising σ :=
  let client := (tbcmhRequest
    (.attributes (keys.clientKeys.map String.ofList) (keys.sharedKeys.map String.ofList))
    .application false ⟨keys.published, true⟩ state.client).2
  let appended := (client.requestList .attributesrequest).drop
    (state.client.requestList .attributesrequest).length
  { state with
    client := client
    sent := state.sent ++ appended.map (⟨·, keys⟩) }

/-- `_tbcmh_attributesrequest_on_data`: the request that is found may be one of the set, whose
    `on_response` gets the attributes of the response. -/
def tbcmhAttributesrequestOnData (onResponse : OnResponse σ) (answers : OtaAnswers)
    (requestId : Nat) (object : Cjson) (state : Initialising σ) :
    Except (WalkFault Fault) (Initialising σ) :=
  let found := splitFirst (RequestTable.attributesrequest.isAnswered requestId)
    (state.client.requestList .attributesrequest)
  match tbcmhRequestOnData .attributesrequest requestId (some object) answers state.client with
  | .error fault => .error (.body fault)
  | .ok client =>
    let state := { state with client := client }
    match found with
    | none => .ok state
    | some (_, request, _) =>
      if request ∈ state.sent.map (·.request) then
        onResponse (object.getObjectItem "client") (object.getObjectItem "shared") state
      else .ok state

/-- Responses arrive one after the other. -/
def receive (onResponse : OnResponse σ) (answers : OtaAnswers) :
    List (Nat × Cjson) → Initialising σ → Except (WalkFault Fault) (Initialising σ)
  | [], state => .ok state
  | (requestId, object) :: rest, state => do
    let state ← state.tbcmhAttributesrequestOnData onResponse answers requestId object
    state.receive onResponse answers rest

end Initialising

/-! ## The server -/

/-- The names in a text of keys. -/
def requestedNames (keys : List Char) : List String := (keys.splitOn ',').map String.ofList

/-- A response to a request for these keys, by a server that holds `values`: each name with its value,
    in any order, in the member for this kind of attributes, which is missing where there is none. -/
def Responds (kind : String) (values : String → Option Cjson) (keys : List Char) (object : Cjson) :
    Prop :=
  match object.getObjectItem kind with
  | some (.object members) =>
    (members.map (·.1)).Nodup ∧ ∀ name value,
      (name, value) ∈ members ↔ name ∈ requestedNames keys ∧ values name = some value
  | some _ => False
  | none => ∀ name ∈ requestedNames keys, values name = none

/-- A request for these keys asks for one that the server holds and that is `key` but for case. -/
def asksFor (values : String → Option Cjson) (key : String) (keys : List Char) : Bool :=
  (requestedNames keys).any fun name => (values name).isSome && strcaseEq key name

/-- The numbers of those that are published, when requests for these keys are made one after the
    other: each takes one. -/
def publishedNumbers : List KeysRequest → Core → List Nat
  | [], _ => []
  | keys :: rest, core =>
    match tbcmhGetRequestId core with
    | (requestId, core) =>
      if keys.published then requestId :: publishedNumbers rest core
      else publishedNumbers rest core

/-- No request that waits has a number that these requests get. -/
def NumbersFree (requests : List KeysRequest) (client : Client) : Prop :=
  ∀ waiting ∈ client.requestList .attributesrequest,
    waiting.requestId ∉ publishedNumbers requests client.core

/-- The texts in which the loop over these keys requests them. -/
def groupTexts (maxAttributesPerRequest : UInt32) (keys : List Key) : List (List Char) :=
  (packs (batchSize maxAttributesPerRequest) [] keys).map joined

/-- Keys that differ by more than case, and each of which can be requested. -/
structure RequestableKeys (maxAttributesPerRequest : UInt32) (keys : List String) : Prop where
  strings : ∀ key ∈ keys, nul ∉ key.toList
  requestable : ∀ key ∈ keys, (Key.ofString key).Requestable
  fit : GroupsFit maxAttributesPerRequest (keys.map Key.ofString)
  apart : (keys.map fun key => key.toList.map Char.toLower).Nodup

/-! ## Responses in any order -/

/-- The requests `own` wait, behind those of others, for the responses with these numbers. -/
structure Awaits (others own : List Request) (requestIds : List Nat) (client : Client) : Prop where
  requests : client.requestList .attributesrequest = others ++ own
  application : ∀ request ∈ own, request.reader = .application
  free : ∀ request ∈ others, request.requestId ∉ requestIds
  numbers : (own.map (·.requestId)).Perm requestIds

/-- A response is handed to an own request with its number, and the others wait on. -/
theorem Awaits.onData {others own : List Request} {requestId : Nat} {requestIds : List Nat}
    {client : Client} (h : Awaits others own (requestId :: requestIds) client)
    (answers : OtaAnswers) (object : Cjson) :
    ∃ front request back client', own = front ++ request :: back ∧
      splitFirst (RequestTable.attributesrequest.isAnswered requestId)
          (client.requestList .attributesrequest) = some (others ++ front, request, back) ∧
      tbcmhRequestOnData .attributesrequest requestId (some object) answers client = .ok client' ∧
      Awaits others (front ++ back) requestIds client' := by
  obtain ⟨request, hmem, hid⟩ : ∃ request ∈ own, request.requestId = requestId :=
    List.mem_map.mp (h.numbers.mem_iff.mpr List.mem_cons_self)
  have hanswered : RequestTable.attributesrequest.isAnswered requestId request = true := by
    simp [RequestTable.isAnswered, hid]
  -- the first request of the owner with this number
  obtain ⟨⟨front, first, back⟩, hsplit⟩ : ∃ parts,
      splitFirst (RequestTable.attributesrequest.isAnswered requestId) own = some parts := by
    refine Option.ne_none_iff_exists'.mp fun hnone => ?_
    rw [splitFirst_eq_none hnone request hmem] at hanswered
    contradiction
  obtain ⟨rfl, hfirst, hfront⟩ := splitFirst_eq_some hsplit
  have hfirstId : first.requestId = requestId := by
    simpa [RequestTable.isAnswered] using hfirst
  have hothers : ∀ request ∈ others ++ front,
      RequestTable.attributesrequest.isAnswered requestId request = false := by
    intro request hrequest
    rcases List.mem_append.mp hrequest with hrequest | hrequest
    · have hne : request.requestId ≠ requestId :=
        fun heq => h.free request hrequest (heq ▸ List.mem_cons_self)
      simp [RequestTable.isAnswered, hne]
    · exact hfront request hrequest
  have hfound : splitFirst (RequestTable.attributesrequest.isAnswered requestId)
      (client.requestList .attributesrequest) = some (others ++ front, first, back) := by
    rw [h.requests, ← List.append_assoc]
    exact splitFirst_append_cons hothers hfirst back
  have hkept : ∀ request ∈ front ++ back, request ∈ front ++ first :: back := by
    intro request hrequest
    rw [List.mem_append] at hrequest
    rw [List.mem_append, List.mem_cons]
    exact hrequest.imp_right .inr
  have hreader : first.reader = .application :=
    h.application first (List.mem_append_right _ List.mem_cons_self)
  let client' := (unsubscribeEmptied .attributesrequest false
    (client.setRequests .attributesrequest (others ++ front ++ back))).log
      (.onResponse .attributesrequest first.uid requestId)
  refine ⟨front, first, back, client', rfl, hfound, ?_, ?_, ?_, ?_, ?_⟩
  · simp only [tbcmhRequestOnData, hfound, doResponse, hreader]
    rfl
  · simp [client', unsubscribeEmptied_eq]
  · exact fun request hrequest => h.application request (hkept request hrequest)
  · exact fun request hrequest hin => h.free request hrequest (List.mem_cons_of_mem _ hin)
  · have hnumbers := h.numbers
    rw [List.map_append, List.map_cons, hfirstId] at hnumbers
    rw [List.map_append]
    exact (List.perm_middle.symm.trans hnumbers).cons_inv

/-- What an `on_response` comes to: the calls of `on_set` for a response. -/
def Sets (onResponse : OnResponse σ) (calls : σ → Cjson → List (Nat × Cjson)) : Prop :=
  ∀ (object : Cjson) (state : Initialising σ),
    onResponse (object.getObjectItem "client") (object.getObjectItem "shared") state
      = .ok { state with called := state.called ++ calls state.set object }

namespace Initialising

/-- What the responses to all requests of the set come to. -/
theorem receive_eq {onResponse : OnResponse σ} {calls : σ → Cjson → List (Nat × Cjson)}
    (hsets : Sets onResponse calls) {others own : List Request} {arrivals : List (Nat × Cjson)}
    {state : Initialising σ} (h : Awaits others own (arrivals.map (·.1)) state.client)
    (hsent : ∀ request ∈ own, request ∈ state.sent.map (·.request)) (answers : OtaAnswers) :
    ∃ client, state.receive onResponse answers arrivals = .ok { state with
      client := client
      called := state.called ++ arrivals.flatMap fun arrival => calls state.set arrival.2 } := by
  induction arrivals generalizing own state with
  | nil => exact ⟨state.client, by rw [receive, List.flatMap_nil, List.append_nil]⟩
  | cons arrival rest ih =>
    obtain ⟨requestId, object⟩ := arrival
    obtain ⟨front, request, back, client, rfl, hfound, hdata, hawaits⟩ := h.onData answers object
    have hown := hsent request (List.mem_append_right _ List.mem_cons_self)
    have hrest : ∀ request ∈ front ++ back, request ∈ state.sent.map (·.request) := by
      intro request hmem
      rw [List.mem_append] at hmem
      refine hsent request ?_
      rw [List.mem_append, List.mem_cons]
      exact hmem.imp_right .inr
    let next : Initialising σ := { state with
      client := client
      called := state.called ++ calls state.set object }
    have hone : state.tbcmhAttributesrequestOnData onResponse answers requestId object
        = .ok next := by
      simp only [tbcmhAttributesrequestOnData, hfound, hdata, if_pos hown, hsets object, next]
    have hnext : Awaits others (front ++ back) (rest.map (·.1)) next.client := hawaits
    obtain ⟨client', hreceive⟩ := ih hnext hrest
    refine ⟨client', ?_⟩
    simp only [receive, hone, bind, Except.bind]
    rw [hreceive, List.flatMap_cons, ← List.append_assoc]

end Initialising

/-! ## The requests -/

/-- The counter alone decides which numbers are taken. -/
theorem publishedNumbers_congr {core core' : Core}
    (hcounter : core.nextRequestId = core'.nextRequestId) (requests : List KeysRequest) :
    publishedNumbers requests core = publishedNumbers requests core' := by
  induction requests generalizing core core' with
  | nil => rfl
  | cons keys rest ih =>
    have hrest : publishedNumbers rest (tbcmhGetRequestId core).2
        = publishedNumbers rest (tbcmhGetRequestId core').2 :=
      ih (by simp only [tbcmhGetRequestId, hcounter])
    have hnumber : (tbcmhGetRequestId core).1 = (tbcmhGetRequestId core').1 := by
      simp only [tbcmhGetRequestId, hcounter]
    simp only [publishedNumbers, hrest, hnumber]

/-- Between two states requests for these keys were made, and `new` are those that were published. -/
structure Sends (requests : List KeysRequest) (new : List SentKeys)
    (state state' : Initialising σ) : Prop where
  set : state'.set = state.set
  called : state'.called = state.called
  sent : state'.sent = state.sent ++ new
  waiting : state'.client.requestList .attributesrequest
    = state.client.requestList .attributesrequest ++ new.map (·.request)
  connected : tbcmhIsConnected state'.client.core = true
  application : ∀ keys ∈ new, keys.request.reader = .application
  carried : new.map (·.keys) = requests.filter (·.published)
  numbers : new.map (·.request.requestId) = publishedNumbers requests state.client.core

/-- The numbers behind the first request are those that follow its own. -/
theorem Sends.cons {keys : KeysRequest} {rest : List KeysRequest} {new new' : List SentKeys}
    {state₁ state₂ state₃ : Initialising σ} (h : Sends [keys] new state₁ state₂)
    (hcounter : state₂.client.core.nextRequestId
      = (tbcmhGetRequestId state₁.client.core).2.nextRequestId)
    (h' : Sends rest new' state₂ state₃) : Sends (keys :: rest) (new ++ new') state₁ state₃ where
  set := h'.set.trans h.set
  called := h'.called.trans h.called
  sent := by rw [h'.sent, h.sent, List.append_assoc]
  waiting := by rw [h'.waiting, h.waiting, List.map_append, List.append_assoc]
  connected := h'.connected
  application request hmem :=
    (List.mem_append.mp hmem).elim (h.application request) (h'.application request)
  carried := by
    rw [List.map_append, h.carried, h'.carried, ← List.filter_append, List.singleton_append]
  numbers := by
    rw [List.map_append, h.numbers, h'.numbers, publishedNumbers_congr hcounter]
    cases hpublished : keys.published <;> simp [publishedNumbers, hpublished]

/-- What a request call does to the table and to the counter. -/
theorem tbcmhRequest_sends {client : Client} (hconnected : tbcmhIsConnected client.core = true)
    {call : RequestCall} (hcall : call.wellFormed = true) (reader : Reader) (hasOnTimeout : Bool)
    (published : Bool) :
    (tbcmhRequest call reader hasOnTimeout ⟨published, true⟩ client).2.core.nextRequestId
        = (tbcmhGetRequestId client.core).2.nextRequestId ∧
      ∃ request : Request, request.reader = reader ∧
        request.requestId = (tbcmhGetRequestId client.core).1 ∧
        (tbcmhRequest call reader hasOnTimeout ⟨published, true⟩ client).2.requestList call.table
          = client.requestList call.table ++ if published then [request] else [] := by
  rw [tbcmhRequest, if_pos hcall, sendRequest, if_neg (by simp [hconnected]), subscribeEmpty_eq]
  cases published with
  | false =>
    exact ⟨rfl, ⟨0, (tbcmhGetRequestId client.core).1, 0, reader, false⟩, rfl, rfl,
      (List.append_nil _).symm⟩
  | true => exact ⟨rfl, _, rfl, rfl, Client.setRequests_requestList_self _ _ _⟩

namespace Initialising

theorem sends_one {state : Initialising σ} (hconnected : tbcmhIsConnected state.client.core = true)
    {keys : KeysRequest} (hkeys : (keys.clientKeys.isSome || keys.sharedKeys.isSome) = true) :
    (∃ new, Sends [keys] new state (state.tbcmhAttributesRequest keys)) ∧
      (state.tbcmhAttributesRequest keys).client.core.nextRequestId
        = (tbcmhGetRequestId state.client.core).2.nextRequestId := by
  have hcall : (RequestCall.attributes (keys.clientKeys.map String.ofList)
      (keys.sharedKeys.map String.ofList)).wellFormed = true := by
    simpa [RequestCall.wellFormed] using hkeys
  have hstays := (tbcmhRequest_outcome (.attributes (keys.clientKeys.map String.ofList)
    (keys.sharedKeys.map String.ofList)) .application false ⟨keys.published, true⟩
    state.client).sameLink.isConnected
  obtain ⟨hcounter, request, hreader, hnumber, hlist⟩ :=
    tbcmhRequest_sends hconnected hcall .application false keys.published
  rw [RequestCall.table] at hlist
  refine ⟨⟨if keys.published then [⟨request, keys⟩] else [], rfl, rfl, ?_, ?_,
    hstays.trans hconnected, ?_, ?_, ?_⟩, hcounter⟩
  · rw [tbcmhAttributesRequest, hlist, List.drop_left]
    cases keys.published <;> rfl
  · refine hlist.trans ?_
    cases keys.published <;> rfl
  · cases keys.published <;> simp [hreader]
  · cases hpublished : keys.published <;> simp [hpublished]
  · cases hpublished : keys.published <;> simp [publishedNumbers, hpublished, hnumber]

/-- The requests of a call are made one after the other. -/
theorem sends_all {state : Initialising σ} (hconnected : tbcmhIsConnected state.client.core = true)
    {requests : List KeysRequest}
    (hkeys : ∀ keys ∈ requests, (keys.clientKeys.isSome || keys.sharedKeys.isSome) = true) :
    ∃ new, Sends requests new state (requests.foldl tbcmhAttributesRequest state) := by
  induction requests generalizing state with
  | nil =>
    exact ⟨[], rfl, rfl, (List.append_nil _).symm, (List.append_nil _).symm, hconnected,
      fun _ hmem => absurd hmem List.not_mem_nil, rfl, rfl⟩
  | cons keys rest ih =>
    rw [List.forall_mem_cons] at hkeys
    obtain ⟨⟨new, hone⟩, hcounter⟩ := sends_one hconnected hkeys.1
    obtain ⟨new', hrest⟩ := ih hone.connected hkeys.2
    exact ⟨new ++ new', hone.cons hcounter hrest⟩

end Initialising

/-- A text without keys is not published, whichever attributes it asks for. -/
theorem published_text {text : List Char} (hlength : text.length < maxKeysLen) :
    (⟨some text, none⟩ : KeysRequest).published = decide (text ≠ []) ∧
      (⟨none, some text⟩ : KeysRequest).published = decide (text ≠ []) := by
  have hnone : keysLen none = 0 := rfl
  have htext := keysLen_of_lt (some text)
    (by rw [Option.getD_some]; unfold maxKeysLen at hlength; omega)
  rw [Option.getD_some] at htext
  unfold KeysRequest.published tbcmAttributesRequestExPayload
  cases text with
  | nil => simp [hnone, htext]
  | cons c rest => simp [hnone, htext]

theorem requestRegistered_groupTexts {request : List Char → KeysRequest}
    {maxAttributesPerRequest : UInt32} {keys : List Key} {sent : List KeysRequest}
    (hsent : requestRegistered request maxAttributesPerRequest keys clearedKeys 0 = .ok sent) :
    sent = (groupTexts maxAttributesPerRequest keys).map request := by
  have hempty : Holds maxKeysLen clearedKeys (joined []) := holds_clearedKeys
  rw [groupTexts, List.map_map]
  exact requestRegistered_ok hempty hsent

namespace RequestableKeys

variable {maxAttributesPerRequest : UInt32} {keys : List String}
  (h : RequestableKeys maxAttributesPerRequest keys)

include h

theorem requestable_map : ∀ key ∈ keys.map Key.ofString, key.Requestable := by
  intro key hkey
  obtain ⟨name, hname, rfl⟩ := List.mem_map.mp hkey
  exact h.requestable name hname

theorem length_joined (k : Nat) :
    (joined (batch (batchSize maxAttributesPerRequest) (keys.map Key.ofString) k)).length
      < maxKeysLen :=
  joined_batch h.requestable_map h.fit k ▸ Nat.lt_succ_of_le (h.fit k)

theorem grouped : Grouped (batchSize maxAttributesPerRequest) (keys.map Key.ofString)
    (groupTexts maxAttributesPerRequest (keys.map Key.ofString)) := by
  rw [groupTexts, map_joined_packs h.requestable_map h.fit]
  exact grouped_packs (batchSize_pos _) h.requestable_map

theorem names :
    (groupTexts maxAttributesPerRequest (keys.map Key.ofString)).flatMap requestedNames = keys := by
  have hstrings : ∀ key ∈ keys, String.ofList (Key.ofString key).chars = key := by
    intro key hkey
    have hchars : key.toList.takeWhile (fun c => c != nul) = key.toList :=
      List.takeWhile_eq_self_iff.mpr fun c hc =>
        bne_iff_ne.mpr (ne_of_mem_of_not_mem hc (h.strings key hkey))
    simp [Key.ofString, hchars]
  calc (groupTexts maxAttributesPerRequest (keys.map Key.ofString)).flatMap requestedNames
      = ((groupTexts maxAttributesPerRequest (keys.map Key.ofString)).flatMap
          (·.splitOn ',')).map String.ofList := by
        rw [List.map_flatMap]
        rfl
    _ = keys.map fun key => String.ofList (Key.ofString key).chars := by
        rw [h.grouped.keys, List.map_map, List.map_map]
        rfl
    _ = keys := (List.map_congr_left hstrings).trans (List.map_id _)

theorem eq_of_strcaseEq {key name : String} (hkey : key ∈ keys) (hname : name ∈ keys)
    (hcase : strcaseEq key name = true) : key = name :=
  List.inj_on_of_nodup_map h.apart hkey hname (by simpa [strcaseEq] using hcase)

end RequestableKeys

theorem length_commaText (keys : List Key) :
    (commaText keys).length = (keys.flatMap fun key => ',' :: key.chars).length - 1 := by
  cases keys with
  | nil => rfl
  | cons key rest =>
    rw [commaText_cons, List.flatMap_cons, List.length_append, List.length_append,
      List.length_cons]
    omega

/-- Keys that fit in one text fit in groups. -/
theorem groupsFit_of_length {keys : List Key} (h : (commaText keys).length ≤ 255)
    (maxAttributesPerRequest : UInt32) : GroupsFit maxAttributesPerRequest keys := by
  intro k
  have hsublist : (batch (batchSize maxAttributesPerRequest) keys k).Sublist keys :=
    (List.take_sublist _ _).trans (List.drop_sublist _ _)
  have hlength := (hsublist.flatMap fun key => ',' :: key.chars).length_le
  rw [length_commaText] at h ⊢
  omega

/-! ## What the responses set -/

/-- The calls of an element are told apart by its address. -/
theorem filter_filterMap_addr {α β : Type} (addr : α → Nat) {f : α → Option (Nat × β)}
    (hf : ∀ x call, f x = some call → call.1 = addr x) {l : List α}
    (hnodup : (l.map addr).Nodup) {x : α} (hx : x ∈ l) :
    (l.filterMap f).filter (fun call => call.1 = addr x) = (f x).toList := by
  have hother : ∀ others : List α, addr x ∉ others.map addr →
      (others.filterMap f).filter (fun call => call.1 = addr x) = [] := by
    intro others hnot
    rw [List.filter_eq_nil_iff]
    intro call hcall haddr
    obtain ⟨other, hmem, hset⟩ := List.mem_filterMap.mp hcall
    have hsame := (hf other call hset).symm.trans (by simpa using haddr)
    exact hnot (hsame ▸ List.mem_map_of_mem hmem)
  obtain ⟨front, back, rfl⟩ := List.append_of_mem hx
  rw [List.map_append, List.map_cons, List.nodup_append] at hnodup
  obtain ⟨-, hback, hapart⟩ := hnodup
  have hfront : addr x ∉ front.map addr := fun hmem => hapart _ hmem _ List.mem_cons_self rfl
  rw [List.filterMap_append, List.filter_append, hother front hfront, List.nil_append]
  cases hset : f x with
  | none =>
    rw [List.filterMap_cons_none hset, hother back (List.nodup_cons.mp hback).1, Option.toList_none]
  | some call =>
    rw [List.filterMap_cons_some hset, List.filter_cons_of_pos (by simp [hf x call hset]),
      hother back (List.nodup_cons.mp hback).1, Option.toList_some]

/-- What an attribute is set to by the responses to all requests does not depend on their order. -/
theorem Sends.receive {α : Type} {items : σ → List α} {addr : α → Nat}
    {setTo : Cjson → α → Option (Nat × Cjson)} {onResponse : OnResponse σ}
    (hsets : Sets onResponse fun set object => (items set).filterMap (setTo object))
    (haddr : ∀ object item call, setTo object item = some call → call.1 = addr item)
    {set : σ} (hnodup : ((items set).map addr).Nodup) {client : Client}
    {requests : List KeysRequest} {new : List SentKeys} {state : Initialising σ}
    (h : Sends requests new (.start set client) state)
    (hfree : NumbersFree requests client) (answers : OtaAnswers) :
    ∀ objects arrivals, objects.length = state.sent.length →
      arrivals.Perm ((state.sent.map (·.request.requestId)).zip objects) →
      ∃ state', state.receive onResponse answers arrivals = .ok state' ∧
        ∀ item ∈ items set, (state'.called.filter fun call => call.1 = addr item).Perm
          (objects.filterMap fun object => setTo object item) := by
  intro objects arrivals hlength harrivals
  have hsent : state.sent = new := h.sent
  have hids : (arrivals.map (·.1)).Perm (state.sent.map (·.request.requestId)) := by
    have hmap := harrivals.map (·.1)
    rwa [List.map_fst_zip (by rw [List.length_map, hlength])] at hmap
  have hobjects : (arrivals.map (·.2)).Perm objects := by
    have hmap := harrivals.map (·.2)
    rwa [List.map_snd_zip (by rw [List.length_map, hlength])] at hmap
  have hawaits : Awaits (client.requestList .attributesrequest) (new.map (·.request))
      (arrivals.map (·.1)) state.client := by
    refine ⟨h.waiting, ?_, ?_, ?_⟩
    · intro request hmem
      obtain ⟨keys, hkeys, rfl⟩ := List.mem_map.mp hmem
      exact h.application keys hkeys
    · intro waiting hmem hin
      refine hfree waiting hmem ?_
      rw [hids.mem_iff, hsent, h.numbers] at hin
      exact hin
    · rw [List.map_map]
      rw [hsent] at hids
      exact hids.symm
  obtain ⟨client', hreceive⟩ := Initialising.receive_eq hsets hawaits
    (fun request hmem => by rwa [hsent]) answers
  refine ⟨_, hreceive, ?_⟩
  intro item hitem
  have hcalls : (state.called ++ arrivals.flatMap fun arrival =>
        (items state.set).filterMap (setTo arrival.2)).filter (fun call => call.1 = addr item)
      = (arrivals.map (·.2)).filterMap fun object => setTo object item := by
    rw [h.called, Initialising.start, List.nil_append, h.set, List.filter_flatMap,
      List.filterMap_map, List.filterMap_eq_flatMap_toList]
    exact List.flatMap_congr fun arrival _ =>
      filter_filterMap_addr addr (haddr arrival.2) hnodup hitem
  rw [hcalls]
  exact hobjects.filterMap _

/-! ## What the server responds -/

section Responses

variable {kind : String} {values : String → Option Cjson} {text : List Char}

/-- The value of a key in a response. -/
def respondedValue (kind : String) (object : Cjson) (key : String) : Option Cjson :=
  (object.getObjectItem kind).bind (·.getObjectItem key)

/-- A value in a response is that of a name that the request asks for. -/
theorem Responds.exists_of_respondedValue {object value : Cjson} {key : String}
    (h : Responds kind values text object) (hvalue : respondedValue kind object key = some value) :
    ∃ name ∈ requestedNames text, strcaseEq key name = true ∧ values name = some value := by
  unfold Responds at h
  unfold respondedValue at hvalue
  split at h
  · rename_i members hmembers
    rw [hmembers, Option.bind_some, Cjson.getObjectItem] at hvalue
    obtain ⟨⟨name, value'⟩, hfind, rfl⟩ := Option.map_eq_some_iff.mp hvalue
    obtain ⟨hname, hheld⟩ := (h.2 name value').mp (List.mem_of_find?_eq_some hfind)
    have hcase := List.find?_some
      (p := fun member : String × Cjson => strcaseEq key member.1) hfind
    exact ⟨name, hname, hcase, hheld⟩
  · contradiction
  · rename_i hnone
    rw [hnone] at hvalue
    contradiction

/-- A response has a value for a key exactly when the request asks for it. -/
theorem Responds.isSome_respondedValue {object : Cjson} (h : Responds kind values text object)
    (key : String) : (respondedValue kind object key).isSome = asksFor values key text := by
  rw [Bool.eq_iff_iff, Option.isSome_iff_exists, asksFor, List.any_eq_true]
  constructor
  · rintro ⟨value, hvalue⟩
    obtain ⟨name, hname, hcase, hheld⟩ := h.exists_of_respondedValue hvalue
    exact ⟨name, hname, by simp [hheld, hcase]⟩
  · rintro ⟨name, hname, hasks⟩
    rw [Bool.and_eq_true] at hasks
    obtain ⟨value, hheld⟩ := Option.isSome_iff_exists.mp hasks.1
    unfold Responds at h
    unfold respondedValue
    split at h
    · rename_i members hmembers
      have hmem := (h.2 name value).mpr ⟨hname, hheld⟩
      have hfound : (members.find? fun member => strcaseEq key member.1).isSome = true :=
        List.find?_isSome.mpr ⟨_, hmem, hasks.2⟩
      obtain ⟨member, hfind⟩ := Option.isSome_iff_exists.mp hfound
      exact ⟨member.2, by rw [hmembers, Option.bind_some, Cjson.getObjectItem, hfind]; rfl⟩
    · contradiction
    · rw [h name hname] at hheld
      contradiction

/-- A response has the value of a key that the request asks for, if no other key fits it. -/
theorem Responds.respondedValue_eq {object : Cjson} (h : Responds kind values text object)
    {key : String}
    (hapart : ∀ name ∈ requestedNames text, strcaseEq key name = true → key = name) :
    respondedValue kind object key = if key ∈ requestedNames text then values key else none := by
  cases hvalue : respondedValue kind object key with
  | some value =>
    obtain ⟨name, hname, hcase, hheld⟩ := h.exists_of_respondedValue hvalue
    obtain rfl := hapart name hname hcase
    rw [if_pos hname, hheld]
  | none =>
    have hasks := h.isSome_respondedValue key
    rw [hvalue, Option.isSome_none, asksFor, Eq.comm, List.any_eq_false] at hasks
    split
    · rename_i hname
      cases hheld : values key with
      | none => rfl
      | some value => exact absurd (hasks key hname) (by simp [hheld, strcaseEq])
    · rfl

end Responses

/-- A client that is connected and has no requests. -/
def connectedClient : Client := (tbcmhInit 0 0).setCore ⟨.connected, 0, 0, [.connack]⟩

theorem numbersFree_connectedClient (requests : List KeysRequest) :
    NumbersFree requests connectedClient :=
  fun _ hwaiting => absurd hwaiting List.not_mem_nil

end ThingsboardMqtt
