import ThingsboardMqtt.Library.CString

set_option autoImplicit false

/-! # The keys of an attributes request

Four functions join keys with commas in a buffer of `MAX_KEYS_LEN` bytes: the two that request the
attributes an application names (`attributes_request.c`), and the two that request the registered
ones in batches (`tbc_extension_clientattributes.c`, `tbc_extension_sharedattributes.c`). Each append
is bounded by `MAX_KEYS_LEN-1`, whatever the buffer already holds, so the loop stays in its buffer
exactly when the joined keys of every batch do (`keysFit_iff`). -/

namespace ThingsboardMqtt

open CHeap CString

/-- `MAX_KEYS_LEN` -/
def maxKeysLen : Nat := 256

/-- A key: a C string. -/
structure Key where
  chars : List Char
  nul_not_mem : nul ∉ chars

/-- The memory of a key. -/
def Key.memory (key : Key) : Memory := key.chars ++ [nul]

/-- The keys handed to `tbcm_attributes_request_ex`, a missing list is `NULL`. -/
structure KeysRequest where
  clientKeys : Option (List Char)
  sharedKeys : Option (List Char)
  deriving DecidableEq, Repr

/-- `memset(client_keys, 0x00, MAX_KEYS_LEN)` -/
def clearedKeys : List Char := List.replicate maxKeysLen nul

/-- The copy of one key, the same in the four functions. -/
def copyKey (keys : List Char) (key : Key) : Except MemFault (List Char) := do
  let front ← text keys
  if front.length = 0 then strncpy keys key.memory (maxKeysLen - 1)
  else do
    let keys ← strncat keys [',', nul] (maxKeysLen - 1)
    strncat keys key.memory (maxKeysLen - 1)

/-! ## The keys an application names -/

/-- `while (i<count)` -/
def copyKeys (buffer : List Char) : List Key → Except MemFault (List Char)
  | [] => .ok buffer
  | key :: rest => do
    let buffer ← copyKey buffer key
    copyKeys buffer rest

/-- The requests a function sends. `allocated` is whether `TBC_MALLOC` succeeds. -/
def keysRequest (request : List Char → KeysRequest) (isConnected allocated : Bool)
    (keys : List Key) : Except MemFault (List KeysRequest) :=
  if keys.length = 0 then .ok []
  else if !isConnected then .ok []
  else if !allocated then .ok []
  else do
    let buffer ← copyKeys clearedKeys keys
    let sent ← text buffer
    .ok [request sent]

/-- `tbcmh_clientattributes_request` -/
def tbcmhClientattributesRequest (isConnected allocated : Bool) (keys : List Key) :
    Except MemFault (List KeysRequest) :=
  keysRequest (fun sent => ⟨some sent, none⟩) isConnected allocated keys

/-- `tbcmh_sharedattributes_request` -/
def tbcmhSharedattributesRequest (isConnected allocated : Bool) (keys : List Key) :
    Except MemFault (List KeysRequest) :=
  keysRequest (fun sent => ⟨none, some sent⟩) isConnected allocated keys

/-! ## The registered keys -/

/-- The loop over the registered keys: `i` of them are in the buffer, which is sent and cleared when
    `i` reaches `max_attributes_per_request`, and at the end. -/
def requestRegistered (request : List Char → KeysRequest) (maxAttributesPerRequest : UInt32) :
    List Key → List Char → Nat → Except MemFault (List KeysRequest)
  | [], buffer, i =>
    if 0 < i then do
      let sent ← text buffer
      .ok [request sent]
    else .ok []
  | key :: rest, buffer, i => do
    let buffer ← copyKey buffer key
    if maxAttributesPerRequest.toNat ≤ i + 1 then do
      let sent ← text buffer
      let later ← requestRegistered request maxAttributesPerRequest rest clearedKeys 0
      .ok (request sent :: later)
    else requestRegistered request maxAttributesPerRequest rest buffer (i + 1)

/-- `clientattribute_t`: the key is `NULL` when it could not be allocated, `onSet` is whether there is
    a callback. -/
structure Clientattribute where
  key : Option Key
  onSet : Bool

/-- `sharedattribute_t` -/
structure Sharedattribute where
  key : Option Key

/-- `clientattribute->key && clientattribute->on_set` -/
def Clientattribute.requestedKey (clientattribute : Clientattribute) : Option Key :=
  if clientattribute.onSet then clientattribute.key else none

/-- `tbce_clientattributes_initialize` -/
def tbceClientattributesInitialize (allocated : Bool) (clientattributes : List Clientattribute)
    (maxAttributesPerRequest : UInt32) : Except MemFault (List KeysRequest) :=
  if !allocated then .ok []
  else requestRegistered (fun sent => ⟨some sent, none⟩) maxAttributesPerRequest
    (clientattributes.filterMap Clientattribute.requestedKey) clearedKeys 0

/-- `tbce_sharedattributes_initialized` -/
def tbceSharedattributesInitialized (allocated : Bool) (sharedattributes : List Sharedattribute)
    (maxAttributesPerRequest : UInt32) : Except MemFault (List KeysRequest) :=
  if !allocated then .ok []
  else requestRegistered (fun sent => ⟨none, some sent⟩) maxAttributesPerRequest
    (sharedattributes.filterMap Sharedattribute.key) clearedKeys 0

/-! ## Joined keys -/

/-- The text with one more key: a key is cut at `MAX_KEYS_LEN-1`, and a comma stands in front of it
    unless nothing does. -/
def appended (chars : List Char) (key : Key) : List Char :=
  if chars = [] then key.chars.take (maxKeysLen - 1)
  else chars ++ [','] ++ key.chars.take (maxKeysLen - 1)

def joined (keys : List Key) : List Char := keys.foldl appended []

theorem length_le_foldl_appended (chars : List Char) (keys : List Key) :
    chars.length ≤ (keys.foldl appended chars).length := by
  induction keys generalizing chars with
  | nil => exact Nat.le_refl _
  | cons key rest ih =>
    refine Nat.le_trans ?_ (ih (appended chars key))
    unfold appended
    split
    · rename_i hempty
      rw [hempty]
      exact Nat.zero_le _
    · simp only [List.length_append]
      omega

section Copy

variable {buffer chars : List Char} (hbuffer : Holds maxKeysLen buffer chars) {key : Key}

include hbuffer

theorem copyKey_of_ne (hne : chars ≠ []) :
    copyKey buffer key = strncat buffer [',', nul] (maxKeysLen - 1) >>= fun keys =>
      strncat keys key.memory (maxKeysLen - 1) := by
  have hlength : chars.length ≠ 0 := fun h => hne (List.eq_nil_of_length_eq_zero h)
  rw [copyKey, hbuffer.text]
  exact if_neg hlength

theorem strncat_comma (hroom : chars.length + 1 < maxKeysLen) :
    ∃ buffer', strncat buffer [',', nul] (maxKeysLen - 1) = .ok buffer' ∧
      Holds maxKeysLen buffer' (chars ++ [',']) := by
  have hcomma : (([','] : List Char).take (maxKeysLen - 1)) = [','] := rfl
  obtain ⟨buffer', hcat, hholds⟩ := hbuffer.strncat (by decide : nul ∉ [','])
    (n := maxKeysLen - 1) (by rwa [hcomma]) []
  rw [hcomma] at hholds
  exact ⟨buffer', hcat, hholds⟩

theorem copyKey_of_fits (hfits : (appended chars key).length < maxKeysLen) :
    ∃ buffer', copyKey buffer key = .ok buffer' ∧
      Holds maxKeysLen buffer' (appended chars key) := by
  unfold appended at hfits ⊢
  by_cases hempty : chars = []
  · subst hempty
    obtain ⟨buffer', hcopy, hholds⟩ := hbuffer.strncpy key.nul_not_mem
      (n := maxKeysLen - 1) (by decide) []
    refine ⟨buffer', ?_, hholds⟩
    rw [copyKey, hbuffer.text]
    exact hcopy
  · rw [if_neg hempty] at hfits ⊢
    rw [copyKey_of_ne hbuffer hempty]
    rw [List.length_append, List.length_append, List.length_singleton] at hfits
    obtain ⟨buffer', hcat, hholds⟩ := strncat_comma hbuffer (by omega)
    rw [hcat]
    exact hholds.strncat key.nul_not_mem (by rwa [List.length_append, List.length_singleton]) []

theorem copyKey_of_long (hlong : maxKeysLen ≤ (appended chars key).length) :
    copyKey buffer key = .error .outOfBounds := by
  unfold appended at hlong
  by_cases hempty : chars = []
  · -- the first key is cut to the buffer
    rw [if_pos hempty, List.length_take] at hlong
    unfold maxKeysLen at hlong
    omega
  · rw [if_neg hempty, List.length_append, List.length_append, List.length_singleton] at hlong
    rw [copyKey_of_ne hbuffer hempty]
    by_cases hroom : chars.length + 1 < maxKeysLen
    · obtain ⟨buffer', hcat, hholds⟩ := strncat_comma hbuffer hroom
      rw [hcat]
      exact hholds.strncat_eq_error key.nul_not_mem
        (by rwa [List.length_append, List.length_singleton]) []
    · have hcomma : strncat buffer [',', nul] (maxKeysLen - 1) = .error .outOfBounds :=
        hbuffer.strncat_eq_error (by decide : nul ∉ [',']) (n := maxKeysLen - 1)
          (Nat.le_of_not_lt hroom) []
      rw [hcomma]
      rfl

end Copy

theorem copyKeys_of_fits {buffer chars : List Char} (hbuffer : Holds maxKeysLen buffer chars)
    {keys : List Key} (hfits : (keys.foldl appended chars).length < maxKeysLen) :
    ∃ buffer', copyKeys buffer keys = .ok buffer' ∧
      Holds maxKeysLen buffer' (keys.foldl appended chars) := by
  induction keys generalizing buffer chars with
  | nil => exact ⟨buffer, rfl, hbuffer⟩
  | cons key rest ih =>
    rw [List.foldl_cons] at hfits ⊢
    obtain ⟨buffer', hcopy, hholds⟩ := copyKey_of_fits hbuffer
      (Nat.lt_of_le_of_lt (length_le_foldl_appended _ rest) hfits)
    rw [copyKeys, hcopy]
    exact ih hholds hfits

theorem copyKeys_of_long {buffer chars : List Char} (hbuffer : Holds maxKeysLen buffer chars)
    {keys : List Key} (hlong : maxKeysLen ≤ (keys.foldl appended chars).length) :
    copyKeys buffer keys = .error .outOfBounds := by
  induction keys generalizing buffer chars with
  | nil => exact absurd hlong (Nat.not_le_of_lt hbuffer.length_lt)
  | cons key rest ih =>
    rw [List.foldl_cons] at hlong
    rw [copyKeys]
    by_cases hfits : (appended chars key).length < maxKeysLen
    · obtain ⟨buffer', hcopy, hholds⟩ := copyKey_of_fits hbuffer hfits
      rw [hcopy]
      exact ih hholds hlong
    · rw [copyKey_of_long hbuffer (Nat.le_of_not_lt hfits)]
      rfl

theorem holds_clearedKeys : Holds maxKeysLen clearedKeys [] := holds_zeros (by decide)

/-- The keys an application names fit exactly when all of them do. -/
theorem keysRequest_iff (request : List Char → KeysRequest) (isConnected allocated : Bool)
    (keys : List Key) :
    (∃ sent, keysRequest request isConnected allocated keys = .ok sent) ↔
      (isConnected = true → allocated = true → (joined keys).length < maxKeysLen) := by
  unfold keysRequest
  by_cases hkeys : keys.length = 0
  · rw [List.eq_nil_of_length_eq_zero hkeys]
    simp [joined, maxKeysLen]
  · rw [if_neg hkeys]
    cases isConnected with
    | false => simp
    | true =>
      cases allocated with
      | false => simp
      | true =>
        simp only [Bool.not_true, Bool.false_eq_true, if_false, forall_const]
        constructor
        · intro hsent
          by_contra hlong
          rw [copyKeys_of_long holds_clearedKeys (Nat.le_of_not_lt hlong)] at hsent
          obtain ⟨sent, hsent⟩ := hsent
          exact absurd hsent (by simp [Bind.bind, Except.bind])
        · intro hfits
          obtain ⟨buffer, hcopy, hholds⟩ := copyKeys_of_fits holds_clearedKeys hfits
          refine ⟨[request (joined keys)], ?_⟩
          rw [hcopy]
          simp only [Bind.bind, Except.bind, hholds.text]
          rfl

/-! ## Batches -/

/-- The number of keys behind which the buffer is sent. -/
def batchSize (maxAttributesPerRequest : UInt32) : Nat := max 1 maxAttributesPerRequest.toNat

/-- The keys of a batch. -/
def batch (size : Nat) (keys : List Key) (k : Nat) : List Key := (keys.drop (k * size)).take size

theorem batch_drop (size : Nat) (keys : List Key) (k : Nat) :
    batch size (keys.drop size) k = batch size keys (k + 1) := by
  rw [batch, batch, List.drop_drop, Nat.succ_mul, Nat.add_comm size]

theorem and_forall_batch (size : Nat) (keys : List Key) :
    ((keys.take size).foldl appended []).length < maxKeysLen ∧
        (∀ k, (joined (batch size keys (k + 1))).length < maxKeysLen) ↔
      ∀ k, (joined (batch size keys k)).length < maxKeysLen := by
  have hfirst : batch size keys 0 = keys.take size := by
    rw [batch, Nat.zero_mul, List.drop_zero]
  constructor
  · rintro ⟨hzero, hlater⟩ k
    cases k with
    | zero =>
      rw [hfirst]
      exact hzero
    | succ k => exact hlater k
  · intro hall
    have hzero := hall 0
    rw [hfirst] at hzero
    exact ⟨hzero, fun k => hall (k + 1)⟩

/-- The loop from any state: what is in the buffer fits with the keys up to the next request, and so
    does every later batch. -/
theorem requestRegistered_iff (request : List Char → KeysRequest)
    (maxAttributesPerRequest : UInt32) (keys : List Key) {buffer chars : List Char} {i : Nat}
    (hbuffer : Holds maxKeysLen buffer chars) (hi : i < batchSize maxAttributesPerRequest) :
    (∃ sent, requestRegistered request maxAttributesPerRequest keys buffer i = .ok sent) ↔
      ((keys.take (batchSize maxAttributesPerRequest - i)).foldl appended chars).length
          < maxKeysLen ∧
        ∀ k, (joined (batch (batchSize maxAttributesPerRequest)
          (keys.drop (batchSize maxAttributesPerRequest - i)) k)).length < maxKeysLen := by
  induction keys generalizing buffer chars i with
  | nil =>
    have hsent : ∃ sent, requestRegistered request maxAttributesPerRequest [] buffer i = .ok sent := by
      rw [requestRegistered, hbuffer.text]
      split
      · exact ⟨[request chars], rfl⟩
      · exact ⟨[], rfl⟩
    have hnone : (joined []).length < maxKeysLen := by decide
    simp [hsent, batch, hnone, hbuffer.length_lt]
  | cons key rest ih =>
    obtain ⟨room, hroom⟩ := Nat.exists_eq_add_of_lt hi
    have hleft : batchSize maxAttributesPerRequest - i = room + 1 := by omega
    rw [hleft, List.take_succ_cons, List.drop_succ_cons, List.foldl_cons, requestRegistered]
    by_cases hfits : (appended chars key).length < maxKeysLen
    · obtain ⟨buffer', hcopy, hholds⟩ := copyKey_of_fits hbuffer hfits
      simp only [hcopy, Bind.bind, Except.bind]
      have hsize : maxAttributesPerRequest.toNat ≤ i + 1 ↔ room = 0 := by
        unfold batchSize at hroom
        omega
      by_cases hlast : room = 0
      · -- the buffer is sent and cleared
        rw [if_pos (hsize.mpr hlast), hholds.text, hlast, List.take_zero, List.drop_zero,
          List.foldl_nil]
        have hlater := ih (i := 0) holds_clearedKeys (by unfold batchSize; omega)
        rw [Nat.sub_zero] at hlater
        simp only [batch_drop] at hlater
        rw [← and_forall_batch, ← hlater]
        cases requestRegistered request maxAttributesPerRequest rest clearedKeys 0 with
        | error fault => simp
        | ok later => simp [hfits]
      · rw [if_neg fun h => hlast (hsize.mp h)]
        have hnext := ih (i := i + 1) hholds (by omega)
        rwa [show batchSize maxAttributesPerRequest - (i + 1) = room by omega] at hnext
    · have hlong : ¬ ((rest.take room).foldl appended (appended chars key)).length < maxKeysLen :=
        fun h => hfits (Nat.lt_of_le_of_lt (length_le_foldl_appended _ _) h)
      rw [copyKey_of_long hbuffer (Nat.le_of_not_lt hfits)]
      simp [hlong, Bind.bind, Except.bind]

/-! ## The four loops -/

/-- A call of one of the four functions. -/
inductive KeyLoop
  | clientattributesRequest (isConnected allocated : Bool) (keys : List Key)
  | sharedattributesRequest (isConnected allocated : Bool) (keys : List Key)
  | clientattributesInitialize (allocated : Bool) (clientattributes : List Clientattribute)
    (maxAttributesPerRequest : UInt32)
  | sharedattributesInitialized (allocated : Bool) (sharedattributes : List Sharedattribute)
    (maxAttributesPerRequest : UInt32)

namespace KeyLoop

/-- The requests the call sends, unless it leaves its buffer. -/
def run : KeyLoop → Except MemFault (List KeysRequest)
  | clientattributesRequest isConnected allocated keys =>
    tbcmhClientattributesRequest isConnected allocated keys
  | sharedattributesRequest isConnected allocated keys =>
    tbcmhSharedattributesRequest isConnected allocated keys
  | clientattributesInitialize allocated clientattributes maxAttributesPerRequest =>
    tbceClientattributesInitialize allocated clientattributes maxAttributesPerRequest
  | sharedattributesInitialized allocated sharedattributes maxAttributesPerRequest =>
    tbceSharedattributesInitialized allocated sharedattributes maxAttributesPerRequest

/-- Joined keys leave room for the end: all of them, or those of every batch. -/
def KeysFit : KeyLoop → Prop
  | clientattributesRequest isConnected allocated keys
  | sharedattributesRequest isConnected allocated keys =>
    isConnected = true → allocated = true → (joined keys).length < maxKeysLen
  | clientattributesInitialize allocated clientattributes maxAttributesPerRequest =>
    allocated = true → ∀ k, (joined (batch (batchSize maxAttributesPerRequest)
      (clientattributes.filterMap Clientattribute.requestedKey) k)).length < maxKeysLen
  | sharedattributesInitialized allocated sharedattributes maxAttributesPerRequest =>
    allocated = true → ∀ k, (joined (batch (batchSize maxAttributesPerRequest)
      (sharedattributes.filterMap Sharedattribute.key) k)).length < maxKeysLen

end KeyLoop

/-- The registered keys fit exactly when every batch does. -/
theorem requestRegistered_clearedKeys_iff (request : List Char → KeysRequest)
    (maxAttributesPerRequest : UInt32) (keys : List Key) :
    (∃ sent, requestRegistered request maxAttributesPerRequest keys clearedKeys 0 = .ok sent) ↔
      ∀ k, (joined (batch (batchSize maxAttributesPerRequest) keys k)).length < maxKeysLen := by
  have hloop := requestRegistered_iff request maxAttributesPerRequest keys (i := 0)
    holds_clearedKeys (by unfold batchSize; omega)
  rw [Nat.sub_zero] at hloop
  simp only [batch_drop] at hloop
  rw [hloop, and_forall_batch]

/-- A loop stays in its buffer exactly when the joined keys fit. -/
theorem keysFit_iff (loop : KeyLoop) : (∃ sent, loop.run = .ok sent) ↔ loop.KeysFit := by
  cases loop with
  | clientattributesRequest isConnected allocated keys =>
    exact keysRequest_iff _ isConnected allocated keys
  | sharedattributesRequest isConnected allocated keys =>
    exact keysRequest_iff _ isConnected allocated keys
  | clientattributesInitialize allocated clientattributes maxAttributesPerRequest =>
    unfold KeyLoop.run KeyLoop.KeysFit tbceClientattributesInitialize
    cases allocated with
    | false => simp
    | true => simpa using requestRegistered_clearedKeys_iff _ maxAttributesPerRequest _
  | sharedattributesInitialized allocated sharedattributes maxAttributesPerRequest =>
    unfold KeyLoop.run KeyLoop.KeysFit tbceSharedattributesInitialized
    cases allocated with
    | false => simp
    | true => simpa using requestRegistered_clearedKeys_iff _ maxAttributesPerRequest _

/-- A key of two hundred characters. -/
def longKey : Key := ⟨List.replicate 200 'a', by decide⟩

/-- Two long keys in one request leave the buffer. -/
theorem keysFit_fails_longKeys : ¬ ∃ sent,
    (KeyLoop.clientattributesRequest true true [longKey, longKey]).run = .ok sent := by
  rintro ⟨sent, hsent⟩
  have herror : (KeyLoop.clientattributesRequest true true [longKey, longKey]).run
      = .error .outOfBounds := by
    decide +kernel
  rw [herror] at hsent
  exact absurd hsent (by simp)

end ThingsboardMqtt
