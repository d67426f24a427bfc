import ThingsboardMqtt.Helper.Events
import ThingsboardMqtt.Helper.RequestBuffers

set_option autoImplicit false

/-! # Requests that fail

A request call that returns `ESP_FAIL` leaves the list, the lock and the heap as they were, with one
exception: the exits of the two calls that join keys free the buffer of the keys if it is `NULL`. So
these two leave nothing exactly when they fail in front of that buffer, or not at all
(`leavesNoTrace_iff`). -/

namespace ThingsboardMqtt

open CHeap CString LiveBuffers

/-! ## Joined keys -/

/-- A call comes to the buffer of the keys, and gets it. -/
structure GetsKeys (env : RequestEnv) (args : RequestArgs) (count : Int) (client : Client) :
    Prop where
  hasClient : args.hasClient = true
  count : 0 < count
  lockTaken : env.lockTaken = true
  connected : tbcmhIsConnected client.core = true
  allocated : env.allocates .keys = true

section JoinedKeys

variable {env : RequestEnv} {args : RequestArgs} {request : List Char → KeysRequest} {count : Int}
  {keys : List Key} {world : RequestWorld}

/-- In front of the buffer of the keys, a call fails without a trace. -/
theorem joinedKeysRequest_of_not_getsKeys (h : ¬ GetsKeys env args count world.client) :
    world.joinedKeysRequest env args request count keys = .ok (false, world) := by
  unfold RequestWorld.joinedKeysRequest
  cases hclient : args.hasClient with
  | false => rfl
  | true =>
    by_cases hcount : count ≤ 0
    · simp only [hcount, if_true]
      rfl
    · cases hlock : env.lockTaken with
      | false => simp [hcount, RequestWorld.takeLock, hlock]
      | true =>
        simp only [Bool.not_true, Bool.false_eq_true, if_false, hcount, RequestWorld.takeLock, hlock,
          if_true]
        cases hconnected : tbcmhIsConnected world.client.core with
        | false => rfl
        | true =>
          have hkeys : env.allocates .keys = false := by
            rw [Bool.eq_false_iff]
            intro hallocated
            exact h ⟨hclient, Int.not_le.mp hcount, hlock, hconnected, hallocated⟩
          simp only [Bool.not_true, Bool.false_eq_true, if_false, RequestWorld.malloc_none hkeys]
          rfl

/-- With the buffer, the keys are joined. -/
theorem joinedKeysRequest_of_getsKeys (request : List Char → KeysRequest) (keys : List Key)
    (h : GetsKeys env args count world.client) :
    ∃ buffer heap, Grows world.heap heap {buffer} ∧
      world.joinedKeysRequest env args request count keys
        = RequestWorld.requestJoinedKeys env args request count keys buffer
            { world with
              lockDepth := world.lockDepth + 1
              heap := heap } := by
  obtain ⟨buffer, heap, hmalloc, hgrows⟩ := RequestWorld.malloc_some
    { world with lockDepth := world.lockDepth + 1 } h.allocated
  refine ⟨buffer, heap, hgrows, ?_⟩
  simp only [RequestWorld.joinedKeysRequest, h.hasClient, Int.not_le.mpr h.count,
    RequestWorld.takeLock, h.lockTaken, h.connected, hmalloc, Bool.not_true, Bool.false_eq_true,
    if_false, if_true]

/-- The keys are there and fit in their buffer. -/
def KeysGiven (count : Int) (keys : List Key) : Prop :=
  count.toNat ≤ keys.length ∧ (joined (keys.take count.toNat)).length < maxKeysLen

theorem requestJoinedKeys_of_not_keysGiven (h : ¬ KeysGiven count keys) (buffer : Nat)
    (result : Bool × RequestWorld) :
    world.requestJoinedKeys env args request count keys buffer ≠ .ok result := by
  unfold RequestWorld.requestJoinedKeys
  by_cases hmissing : keys.length < count.toNat
  · rw [if_pos hmissing]
    exact nofun
  · have hlong : maxKeysLen ≤ ((keys.take count.toNat).foldl appended []).length := by
      by_contra hshort
      exact h ⟨Nat.not_lt.mp hmissing, Nat.not_le.mp hshort⟩
    rw [if_neg hmissing, copyKeys_of_long holds_clearedKeys hlong]
    exact nofun

/-- The request of joined keys is published and gets its item. -/
def RequestEnv.accepts (env : RequestEnv) (args : RequestArgs) (count : Int) (keys : List Key)
    (client : Client) : Bool :=
  !(joined (keys.take count.toNat)).isEmpty && env.sends client.hasMqttHandle && env.creates args

/-- Keys that fit are requested. When the request fails, their buffer is still live. -/
theorem requestJoinedKeys_of_keysGiven (env : RequestEnv) (args : RequestArgs)
    (world : RequestWorld) (hrequest : ∀ chars, (((request chars).clientKeys.getD []).isEmpty &&
      ((request chars).sharedKeys.getD []).isEmpty) = chars.isEmpty)
    (h : KeysGiven count keys) (hconnected : tbcmhIsConnected world.client.core = true)
    {heap : Heap} {buffer : Nat} (hbuffer : Grows heap world.heap {buffer}) :
    ∃ world', world.requestJoinedKeys env args request count keys buffer
        = .ok (env.accepts args count keys world.client, world') ∧
      world'.lockDepth = world.lockDepth - 1 ∧
      (env.accepts args count keys world.client = false → Grows heap world'.heap {buffer}) ∧
      (world'.client = world.client ∧ env.accepts args count keys world.client = false ∨
        ∃ answers, sendRequest .attributesrequest args.reader args.hasOnTimeout answers world.client
          = (env.accepts args count keys world.client, world'.client)) := by
  obtain ⟨joinedKeys, hcopy, hholds⟩ := copyKeys_of_fits holds_clearedKeys h.2
  obtain ⟨world₁, hreturns⟩ := requestConnected_returns env args none
    (returnsWhen_tbcmAttributesRequestEx (request (joined (keys.take count.toNat))).clientKeys
      (request (joined (keys.take count.toNat))).sharedKeys)
    (publishesTo_tbcmAttributesRequestEx _ _) world
  rw [hrequest] at hreturns
  have heffect := requestConnected_effect (publishesTo_tbcmAttributesRequestEx _ _) hconnected
    hreturns
  obtain ⟨owned, hgrows, hnone⟩ := heffect.heap
  have hall := hbuffer.trans hgrows
  have hrun : world.requestJoinedKeys env args request count keys buffer
      = if env.accepts args count keys world.client then do
          let world ← world₁.giveLock.free (some buffer)
          .ok (true, world)
        else world₁.keysRequestFail (some buffer) := by
    unfold RequestWorld.requestJoinedKeys
    rw [if_neg (Nat.not_lt.mpr h.1), hcopy]
    simp only [Except.mapError, bind, Except.bind, hholds.text]
    unfold attributesrequestCreate
    rw [show (keys.take count.toNat).foldl appended [] = joined (keys.take count.toNat) from rfl,
      hreturns]
    rfl
  rw [hrun]
  cases haccepts : env.accepts args count keys world.client with
  | false =>
    rw [RequestEnv.accepts] at haccepts
    obtain rfl := hnone haccepts
    rw [Finset.union_empty] at hall
    refine ⟨world₁.giveLock, rfl, congrArg (· - 1) heffect.lockDepth, fun _ => hall, ?_⟩
    rw [haccepts] at heffect
    exact heffect.client
  | true =>
    rw [RequestEnv.accepts] at haccepts
    rw [haccepts] at heffect
    have hreturned : Grows heap world₁.giveLock.heap ({buffer} ∪ owned) := hall
    obtain ⟨heap', hfree, -⟩ := RequestWorld.free_of_grows hreturned
      (Finset.mem_union_left _ (Finset.mem_singleton_self buffer))
    refine ⟨{ world₁.giveLock with heap := heap' }, ?_, congrArg (· - 1) heffect.lockDepth,
      by simp, heffect.client⟩
    simp only [if_true, hfree, bind, Except.bind]

end JoinedKeys

/-! ## The calls with one way out -/

theorem tbcmhAttributesRequest_effect {env : RequestEnv} {args : RequestArgs}
    {clientKeys sharedKeys : Option Key} {world world' : RequestWorld} {accepted : Bool}
    (hrun : world.tbcmhAttributesRequest env args clientKeys sharedKeys = .ok (accepted, world')) :
    RequestEffect .attributesrequest args world accepted world' := by
  unfold RequestWorld.tbcmhAttributesRequest at hrun
  split at hrun
  · cases hrun
    exact .refused _ _ _
  · split at hrun
    · cases hrun
      exact .refused _ _ _
    · exact requestLocked_effect (publishesTo_tbcmAttributesRequestEx _ _) hrun

theorem tbcmhTwowayClientrpcRequest_effect {env : RequestEnv} {args : RequestArgs}
    {method : Option String} {params : Option Cjson} {world world' : RequestWorld} {accepted : Bool}
    (hrun : world.tbcmhTwowayClientrpcRequest env args method params = .ok (accepted, world')) :
    RequestEffect .clientrpc args world accepted world' := by
  unfold RequestWorld.tbcmhTwowayClientrpcRequest at hrun
  split at hrun
  · cases hrun
    exact .refused _ _ _
  · split at hrun
    · cases hrun
      exact .refused _ _ _
    · refine requestLocked_effect ?_ hrun
      split
      · exact publishesTo_withPrinted publishesTo_tbcmClientrpcRequestEx
      · exact publishesTo_tbcmClientrpcRequestEx true

/-! ## The params of a provision -/

/-- The members join the buffers of the object. -/
theorem addMembers_eq (env : RequestEnv) (members : List ParamsMember) {params : List Nat}
    {world : RequestWorld} {heap : Heap} (hgrows : Grows heap world.heap params.toFinset)
    (hnodup : params.Nodup) :
    ∃ params' heap', world.addMembers env members params
        = (params', { world with heap := heap' }) ∧
      Grows heap heap' params'.toFinset ∧ params'.Nodup := by
  induction members generalizing params world with
  | nil => exact ⟨params, world.heap, rfl, hgrows, hnodup⟩
  | cons member rest ih =>
    obtain ⟨key, value⟩ := member
    cases value with
    | none => exact ih hgrows hnodup
    | some value =>
      cases hallocates : env.allocates (.member key) with
      | false =>
        simp only [RequestWorld.addMembers, RequestWorld.malloc_none hallocates]
        exact ih hgrows hnodup
      | true =>
        obtain ⟨addr, heap₁, hmalloc, hmember⟩ := RequestWorld.malloc_some world hallocates
        have hnew : addr ∉ params := by
          intro hmem
          exact hmember.not_mem (Finset.mem_singleton_self addr)
            (hgrows.mem_live (List.mem_toFinset.mpr hmem))
        have hall : Grows heap heap₁ (params ++ [addr]).toFinset := by
          rw [List.toFinset_append]
          exact hgrows.trans hmember
        obtain ⟨params', heap', hadd, hgrows', hnodup'⟩ :=
          @ih _ { world with heap := heap₁ } hall (by simpa using hnodup.concat hnew)
        refine ⟨params', heap', ?_, hgrows', hnodup'⟩
        simp only [RequestWorld.addMembers, hmalloc]
        exact hadd

/-- The object is deleted, and what else was allocated stays. -/
theorem cjsonDelete_of_grows {params : List Nat} {world : RequestWorld} {heap : Heap}
    {owned : Finset Nat} (hgrows : Grows heap world.heap (params.toFinset ∪ owned))
    (hnodup : params.Nodup) :
    ∃ heap', world.cjsonDelete params = .ok { world with heap := heap' } ∧
      ∃ rest, Grows heap heap' rest ∧ (owned = ∅ → rest = ∅) := by
  obtain ⟨heap', hfree, hrest⟩ := hgrows.freeAll hnodup Finset.subset_union_left
  refine ⟨heap', ?_, _, hrest, ?_⟩
  · rw [RequestWorld.cjsonDelete, hfree]
    rfl
  · rintro rfl
    rw [Finset.union_empty, Finset.sdiff_self]

theorem provisionRequestWithParams_effect {env : RequestEnv} {args : RequestArgs}
    {world world' : RequestWorld} {accepted : Bool}
    (hrun : world.provisionRequestWithParams env args = .ok (accepted, world')) :
    RequestEffect .provision args world accepted world' := by
  unfold RequestWorld.provisionRequestWithParams at hrun
  split at hrun
  · cases hrun
    exact .refused _ _ _
  · exact requestLocked_effect (publishesTo_withPrinted publishesTo_tbcmProvisionRequest) hrun

/-- The params are deleted behind the request, whether it was made or not. -/
theorem tbcmhProvisionRequest_effect {env : RequestEnv} {args : RequestArgs}
    {config : Option TbcProvisionConfig} {world world' : RequestWorld} {accepted : Bool}
    (hrun : world.tbcmhProvisionRequest env args config = .ok (accepted, world')) :
    RequestEffect .provision args world accepted world' := by
  unfold RequestWorld.tbcmhProvisionRequest at hrun
  split at hrun
  · cases hrun
    exact .refused _ _ _
  · cases hallocates : env.allocates .params with
    | false =>
      rw [RequestWorld.malloc_none hallocates] at hrun
      cases hrun
      exact .refused _ _ _
    | true =>
      obtain ⟨params, heap₁, hmalloc, hgrows⟩ := RequestWorld.malloc_some world hallocates
      rw [hmalloc] at hrun
      have hparams : Grows world.heap ({ world with heap := heap₁ } : RequestWorld).heap
          [params].toFinset := hgrows
      cases config with
      | none => contradiction
      | some config =>
        dsimp only at hrun
        cases hmembers : config.members with
        | none =>
          rw [← Finset.union_empty [params].toFinset] at hparams
          obtain ⟨heap₂, hdelete, rest, hrest, hnone⟩ :=
            cjsonDelete_of_grows hparams (List.nodup_singleton params)
          simp only [hmembers, hdelete, bind, Except.bind] at hrun
          cases hrun
          exact ⟨rfl, ⟨rest, hrest, fun _ => hnone rfl⟩, .inl ⟨rfl, rfl⟩⟩
        | some members =>
          obtain ⟨object, heap₂, hadd, hobject, hnodup⟩ := addMembers_eq env members
            hparams (List.nodup_singleton params)
          simp only [hmembers, hadd, bind, Except.bind] at hrun
          split at hrun
          · contradiction
          · rename_i result hresult
            obtain ⟨accepted', world₁⟩ := result
            have heffect := provisionRequestWithParams_effect hresult
            obtain ⟨owned, hgrows', hnone⟩ := heffect.heap
            obtain ⟨heap₃, hdelete, rest, hrest, hempty⟩ := cjsonDelete_of_grows
              (hobject.trans hgrows') hnodup
            simp only [hdelete] at hrun
            cases hrun
            exact ⟨heffect.lockDepth, ⟨rest, hrest, fun hfail => hempty (hnone hfail)⟩,
              heffect.client⟩

/-! ## The five calls -/

/-- When the call fails, the lists, the lock and the heap are as they were. -/
def LeavesNoTrace (function : RequestFunction) (env : RequestEnv) (args : RequestArgs)
    (world : RequestWorld) : Prop :=
  ∀ world', function.run env args world = .ok (false, world') →
    world'.client.requestList = world.client.requestList ∧
      world'.lockDepth = world.lockDepth ∧ world'.heap.live = world.heap.live

/-- A buffer of keys is not allocated, or the call does not return, or it succeeds. -/
def RequestFunction.FreesKeys (function : RequestFunction) (env : RequestEnv) (args : RequestArgs)
    (client : Client) : Prop :=
  match function with
  | .clientattributes count keys | .sharedattributes count keys =>
    GetsKeys env args count client → KeysGiven count keys →
      env.accepts args count keys client = true
  | .attributes _ _ | .twowayClientrpc _ _ | .provision _ => True

theorem RequestEffect.leavesNoTrace {table : RequestTable} {args : RequestArgs}
    {world world' : RequestWorld} (h : RequestEffect table args world false world') :
    world'.client.requestList = world.client.requestList ∧
      world'.lockDepth = world.lockDepth ∧ world'.heap.live = world.heap.live :=
  ⟨h.requestList, h.lockDepth, h.live⟩

theorem joinedKeysRequest_leavesNoTrace_iff {env : RequestEnv} {args : RequestArgs}
    {request : List Char → KeysRequest} {count : Int} {keys : List Key} {world : RequestWorld}
    (hrequest : ∀ chars, (((request chars).clientKeys.getD []).isEmpty &&
      ((request chars).sharedKeys.getD []).isEmpty) = chars.isEmpty) :
    (∀ world', world.joinedKeysRequest env args request count keys = .ok (false, world') →
        world'.client.requestList = world.client.requestList ∧
          world'.lockDepth = world.lockDepth ∧ world'.heap.live = world.heap.live) ↔
      (GetsKeys env args count world.client → KeysGiven count keys →
        env.accepts args count keys world.client = true) := by
  constructor
  · intro hleaves hgets hgiven
    by_contra hfails
    rw [Bool.not_eq_true] at hfails
    obtain ⟨buffer, heap, hgrows, hrun⟩ := joinedKeysRequest_of_getsKeys request keys hgets
    obtain ⟨world', hjoined, -, hlive, -⟩ := requestJoinedKeys_of_keysGiven env args
      { world with
        lockDepth := world.lockDepth + 1
        heap := heap }
      hrequest hgiven hgets.connected hgrows
    rw [hjoined, hfails] at hrun
    have hkept := hlive hfails
    have hsame := (hleaves world' hrun).2.2
    refine hkept.not_mem (Finset.mem_singleton_self buffer) ?_
    rw [← hsame]
    exact hkept.mem_live (Finset.mem_singleton_self buffer)
  · intro hfrees world' hrun
    by_cases hgets : GetsKeys env args count world.client
    · obtain ⟨buffer, heap, hgrows, hjoined⟩ := joinedKeysRequest_of_getsKeys request keys hgets
      rw [hrun] at hjoined
      by_cases hgiven : KeysGiven count keys
      · obtain ⟨world₁, haccepted, -⟩ := requestJoinedKeys_of_keysGiven env args
          { world with
            lockDepth := world.lockDepth + 1
            heap := heap }
          hrequest hgiven hgets.connected hgrows
        rw [haccepted, hfrees hgets hgiven] at hjoined
        simp at hjoined
      · exact absurd hjoined.symm (requestJoinedKeys_of_not_keysGiven hgiven buffer _)
    · rw [joinedKeysRequest_of_not_getsKeys hgets] at hrun
      cases hrun
      exact ⟨rfl, rfl, rfl⟩

theorem leavesNoTrace_clientattributes (count : Int) (keys : List Key) (env : RequestEnv)
    (args : RequestArgs) (world : RequestWorld) :
    LeavesNoTrace (.clientattributes count keys) env args world ↔
      (GetsKeys env args count world.client → KeysGiven count keys →
        env.accepts args count keys world.client = true) :=
  joinedKeysRequest_leavesNoTrace_iff fun chars => by simp

theorem leavesNoTrace_sharedattributes (count : Int) (keys : List Key) (env : RequestEnv)
    (args : RequestArgs) (world : RequestWorld) :
    LeavesNoTrace (.sharedattributes count keys) env args world ↔
      (GetsKeys env args count world.client → KeysGiven count keys →
        env.accepts args count keys world.client = true) :=
  joinedKeysRequest_leavesNoTrace_iff fun chars => by simp

/-- A request that fails leaves no trace exactly when it frees its keys. -/
theorem leavesNoTrace_iff (function : RequestFunction) (env : RequestEnv) (args : RequestArgs)
    (world : RequestWorld) :
    LeavesNoTrace function env args world ↔ function.FreesKeys env args world.client := by
  cases function with
  | attributes clientKeys sharedKeys =>
    refine iff_of_true ?_ trivial
    intro world' hrun
    exact (tbcmhAttributesRequest_effect hrun).leavesNoTrace
  | clientattributes count keys => exact leavesNoTrace_clientattributes count keys env args world
  | sharedattributes count keys => exact leavesNoTrace_sharedattributes count keys env args world
  | twowayClientrpc method params =>
    refine iff_of_true ?_ trivial
    intro world' hrun
    exact (tbcmhTwowayClientrpcRequest_effect hrun).leavesNoTrace
  | provision config =>
    refine iff_of_true ?_ trivial
    intro world' hrun
    exact (tbcmhProvisionRequest_effect hrun).leavesNoTrace

/-- A connected client without requests, whose lock is free. -/
def connectedWorld : RequestWorld where
  client :=
    { (tbcmhInit 0 0).setCore ⟨.connected, 0, 0, [.connack]⟩ with hasMqttHandle := true }
  lockDepth := 0
  heap := .empty

/-- Memory is left, and the message cannot be published. -/
def unpublished : RequestEnv where
  lockTaken := true
  allocates _ := true
  messageId := -1

theorem leavesNoTrace_fails_unpublished :
    ¬ LeavesNoTrace (.clientattributes 1 [⟨['m', 'o', 'd', 'e'], by decide⟩]) unpublished
      ⟨true, true, .application, true⟩ connectedWorld := by
  intro hleaves
  have hfrees := (leavesNoTrace_clientattributes _ _ _ _ _).mp hleaves
  have hgets : GetsKeys unpublished ⟨true, true, .application, true⟩ 1 connectedWorld.client :=
    ⟨rfl, by decide, rfl, rfl, rfl⟩
  exact absurd (hfrees hgets ⟨by decide, by decide +kernel⟩) (by decide +kernel)

/-! ## The calls of `Requests` -/

/-- The call without its buffers. -/
def RequestFunction.call : RequestFunction → RequestCall
  | .attributes clientKeys sharedKeys =>
    .attributes (clientKeys.map fun key => String.ofList key.chars)
      (sharedKeys.map fun key => String.ofList key.chars)
  | .clientattributes count keys =>
    .clientattributes ((keys.take count.toNat).map fun key => String.ofList key.chars)
  | .sharedattributes count keys =>
    .sharedattributes ((keys.take count.toNat).map fun key => String.ofList key.chars)
  | .twowayClientrpc method _ => .twowayClientrpc method
  | .provision _ => .provision

/-- With well-formed arguments, the client is left as in `tbcmhRequest`. -/
theorem RequestEffect.request {table : RequestTable} {args : RequestArgs}
    {world world' : RequestWorld} {accepted : Bool}
    (h : RequestEffect table args world accepted world') {call : RequestCall}
    (htable : call.table = table) (hcall : call.wellFormed = true) :
    world'.client = world.client ∧ accepted = false ∨
      ∃ answers, tbcmhRequest call args.reader args.hasOnTimeout answers world.client
        = (accepted, world'.client) := by
  refine h.client.imp_right ?_
  rintro ⟨answers, hsend⟩
  exact ⟨answers, by rw [tbcmhRequest, if_pos hcall, htable, hsend]⟩

theorem joinedKeysRequest_request {env : RequestEnv} {args : RequestArgs}
    {request : List Char → KeysRequest} {count : Int} {keys : List Key}
    {world world' : RequestWorld} {accepted : Bool} {call : RequestCall}
    (hrequest : ∀ chars, (((request chars).clientKeys.getD []).isEmpty &&
      ((request chars).sharedKeys.getD []).isEmpty) = chars.isEmpty)
    (htable : call.table = .attributesrequest)
    (hcall : keys.take count.toNat ≠ [] → call.wellFormed = true)
    (hrun : world.joinedKeysRequest env args request count keys = .ok (accepted, world')) :
    world'.client = world.client ∧ accepted = false ∨
      ∃ answers, tbcmhRequest call args.reader args.hasOnTimeout answers world.client
        = (accepted, world'.client) := by
  by_cases hgets : GetsKeys env args count world.client
  · obtain ⟨buffer, heap, hgrows, hjoined⟩ := joinedKeysRequest_of_getsKeys request keys hgets
    rw [hrun] at hjoined
    by_cases hgiven : KeysGiven count keys
    · have hcount := hgets.count
      have htaken : keys.take count.toNat ≠ [] := by
        have hlength : (keys.take count.toNat).length = count.toNat :=
          List.length_take_of_le hgiven.1
        intro hempty
        rw [hempty, List.length_nil] at hlength
        omega
      obtain ⟨world₁, haccepted, -, -, hclient⟩ := requestJoinedKeys_of_keysGiven env args
        { world with
          lockDepth := world.lockDepth + 1
          heap := heap }
        hrequest hgiven hgets.connected hgrows
      rw [haccepted] at hjoined
      cases hjoined
      refine hclient.imp_right ?_
      rintro ⟨answers, hsend⟩
      exact ⟨answers, by rw [tbcmhRequest, if_pos (hcall htaken), htable, hsend]⟩
    · exact absurd hjoined.symm (requestJoinedKeys_of_not_keysGiven hgiven buffer _)
  · rw [joinedKeysRequest_of_not_getsKeys hgets] at hrun
    cases hrun
    exact .inl ⟨rfl, rfl⟩

/-- With the buffers and the lock left out, a call is that of `Requests`, or it fails in front of it. -/
theorem tbcmhRequest_of_run {function : RequestFunction} {env : RequestEnv} {args : RequestArgs}
    {world world' : RequestWorld} {accepted : Bool}
    (hrun : function.run env args world = .ok (accepted, world')) :
    world'.client = world.client ∧ accepted = false ∨
      ∃ answers, tbcmhRequest function.call args.reader args.hasOnTimeout answers world.client
        = (accepted, world'.client) := by
  cases function with
  | attributes clientKeys sharedKeys =>
    cases hkeys : clientKeys.isNone && sharedKeys.isNone with
    | true =>
      simp only [RequestFunction.run, RequestWorld.tbcmhAttributesRequest, hkeys, if_true,
        ite_self] at hrun
      cases hrun
      exact .inl ⟨rfl, rfl⟩
    | false =>
      refine (tbcmhAttributesRequest_effect hrun).request rfl ?_
      cases clientKeys <;> cases sharedKeys <;> simp_all [RequestFunction.call, RequestCall.wellFormed]
  | clientattributes count keys =>
    exact joinedKeysRequest_request (fun chars => by simp) rfl
      (by simp [RequestFunction.call, RequestCall.wellFormed]) hrun
  | sharedattributes count keys =>
    exact joinedKeysRequest_request (fun chars => by simp) rfl
      (by simp [RequestFunction.call, RequestCall.wellFormed]) hrun
  | twowayClientrpc method params =>
    cases method with
    | none =>
      simp only [RequestFunction.run, RequestWorld.tbcmhTwowayClientrpcRequest, Option.isNone_none,
        if_true, ite_self] at hrun
      cases hrun
      exact .inl ⟨rfl, rfl⟩
    | some method => exact (tbcmhTwowayClientrpcRequest_effect hrun).request rfl rfl
  | provision config => exact (tbcmhProvisionRequest_effect hrun).request rfl rfl

end ThingsboardMqtt
