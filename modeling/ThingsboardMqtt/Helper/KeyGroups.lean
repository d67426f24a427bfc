import ThingsboardMqtt.Helper.KeyLists
import ThingsboardMqtt.Helper.RequestTexts
import ThingsboardMqtt.Library.Slices

set_option autoImplicit false

/-! # Keys in groups

What the four loops of `KeyLists` hand on, where the joined keys fit: the registered keys go out in
groups of one size, the last of which may be smaller (`requestRegistered_ok`), and the keys that an
application names in one. The server splits a text at its commas, so keys that are not empty and hold
no comma arrive as they are, each once and in order. -/

namespace ThingsboardMqtt

open CHeap CString Slices

/-! ## Joined keys -/

/-- A key that can be requested. -/
def Key.Requestable (key : Key) : Prop := key.chars ≠ [] ∧ ',' ∉ key.chars

/-- Keys with commas between them. -/
def commaText (keys : List Key) : List Char := List.intercalate [','] (keys.map (·.chars))

theorem commaText_cons (key : Key) (rest : List Key) :
    commaText (key :: rest) = key.chars ++ rest.flatMap fun key => ',' :: key.chars := by
  induction rest generalizing key with
  | nil => simp [commaText]
  | cons next rest ih =>
    have hrest := ih next
    simp only [commaText, List.map_cons] at hrest ⊢
    rw [List.intercalate_cons_cons, hrest]
    simp

theorem take_of_mem_commaText {keys : List Key} (hfits : (commaText keys).length < maxKeysLen)
    {key : Key} (hmem : key ∈ keys) : key.chars.take (maxKeysLen - 1) = key.chars := by
  have hle : key.chars.length ≤ (commaText keys).length := by
    cases keys with
    | nil => exact absurd hmem List.not_mem_nil
    | cons first rest =>
      rw [commaText_cons, List.length_append]
      obtain rfl | hmem := List.mem_cons.mp hmem
      · exact Nat.le_add_right _ _
      · have hsub := (List.sublist_flatten_of_mem
          (List.mem_map_of_mem (f := fun key : Key => ',' :: key.chars) hmem)).length_le
        rw [← List.flatMap_def, List.length_cons] at hsub
        omega
  refine List.take_of_length_le ?_
  unfold maxKeysLen at hfits ⊢
  omega

theorem joined_eq_commaText {keys : List Key} (hkeys : ∀ key ∈ keys, key.Requestable)
    (hfits : (commaText keys).length < maxKeysLen) : joined keys = commaText keys := by
  have htake : ∀ key ∈ keys, key.chars.take (maxKeysLen - 1) = key.chars :=
    fun key => take_of_mem_commaText hfits
  have hbehind : ∀ (rest : List Key) (chars : List Char), chars ≠ [] →
      (∀ key ∈ rest, key.chars.take (maxKeysLen - 1) = key.chars) →
      rest.foldl appended chars = chars ++ rest.flatMap fun key => ',' :: key.chars := by
    intro rest
    induction rest with
    | nil => simp
    | cons key rest ih =>
      intro chars hchars hrest
      rw [List.forall_mem_cons] at hrest
      have hnext : appended chars key = chars ++ ',' :: key.chars := by
        rw [appended, if_neg hchars, hrest.1, List.append_assoc, List.singleton_append]
      rw [List.foldl_cons, hnext, ih _ (by simp) hrest.2, List.flatMap_cons, List.append_assoc]
  cases keys with
  | nil => rfl
  | cons key rest =>
    rw [List.forall_mem_cons] at hkeys htake
    have hfirst : appended [] key = key.chars := by rw [appended, if_pos rfl, htake.1]
    rw [joined, List.foldl_cons, hfirst, hbehind rest _ hkeys.1.1 htake.2, commaText_cons]

/-- The server finds the keys between the commas. -/
theorem splitOn_commaText {keys : List Key} (hkeys : ∀ key ∈ keys, key.Requestable)
    (hne : keys ≠ []) : (commaText keys).splitOn ',' = keys.map (·.chars) := by
  refine List.splitOn_intercalate ',' ?_ (by simpa using hne)
  intro chars hmem
  obtain ⟨key, hkey, rfl⟩ := List.mem_map.mp hmem
  exact (hkeys key hkey).2

/-! ## The loops -/

theorem joined_concat (keys : List Key) (key : Key) :
    joined (keys ++ [key]) = appended (joined keys) key := by
  rw [joined, List.foldl_append]
  rfl

/-- The loop over the registered keys hands on a text for every pack of them. -/
theorem requestRegistered_ok {request : List Char → KeysRequest} {maxAttributesPerRequest : UInt32}
    {keys waiting : List Key} {buffer : List Char} {sent : List KeysRequest}
    (hbuffer : Holds maxKeysLen buffer (joined waiting))
    (hsent : requestRegistered request maxAttributesPerRequest keys buffer waiting.length = .ok sent) :
    sent = (packs (batchSize maxAttributesPerRequest) waiting keys).map
      fun pack => request (joined pack) := by
  induction keys generalizing waiting buffer sent with
  | nil =>
    rw [requestRegistered, hbuffer.text] at hsent
    cases waiting with
    | nil => exact (Except.ok.inj hsent).symm
    | cons key waiting => exact (Except.ok.inj hsent).symm
  | cons key rest ih =>
    rw [requestRegistered] at hsent
    by_cases hfits : (appended (joined waiting) key).length < maxKeysLen
    · obtain ⟨buffer', hcopy, hholds⟩ := copyKey_of_fits hbuffer hfits
      rw [← joined_concat] at hholds
      have hlength : waiting.length + 1 = (waiting ++ [key]).length := by simp
      simp only [hcopy, Bind.bind, Except.bind] at hsent
      have hsize : maxAttributesPerRequest.toNat ≤ waiting.length + 1 ↔
          batchSize maxAttributesPerRequest ≤ waiting.length + 1 := by
        unfold batchSize
        omega
      rw [packs]
      by_cases hfull : maxAttributesPerRequest.toNat ≤ waiting.length + 1
      · rw [if_pos hfull, hholds.text] at hsent
        rw [if_pos (hsize.mp hfull)]
        cases hlater : requestRegistered request maxAttributesPerRequest rest clearedKeys 0 with
        | error fault => simp [hlater] at hsent
        | ok later =>
          simp only [hlater] at hsent
          obtain rfl := Except.ok.inj hsent
          have hempty : Holds maxKeysLen clearedKeys (joined []) := holds_clearedKeys
          rw [List.map_cons, ih hempty hlater]
      · rw [if_neg hfull, hlength] at hsent
        rw [if_neg fun h => hfull (hsize.mpr h)]
        exact ih hholds hsent
    · rw [copyKey_of_long hbuffer (Nat.le_of_not_lt hfits)] at hsent
      simp [Bind.bind, Except.bind] at hsent

/-! ## Groups -/

/-- The texts carry the keys, each once and in order: `size` keys a text, except possibly in the last
    one, and none is empty. -/
structure Grouped (size : Nat) (keys : List Key) (texts : List (List Char)) : Prop where
  keys : texts.flatMap (·.splitOn ',') = keys.map (·.chars)
  full : ∀ text ∈ texts.dropLast, (text.splitOn ',').length = size
  bounded : ∀ text ∈ texts, (text.splitOn ',').length ≤ size
  nonempty : ∀ text ∈ texts, text ≠ []

/-- A group of keys fits with its commas. -/
def GroupsFit (maxAttributesPerRequest : UInt32) (keys : List Key) : Prop :=
  ∀ k, (commaText (batch (batchSize maxAttributesPerRequest) keys k)).length ≤ 255

theorem batchSize_pos (maxAttributesPerRequest : UInt32) : 0 < batchSize maxAttributesPerRequest :=
  Nat.lt_of_lt_of_le Nat.zero_lt_one (Nat.le_max_left _ _)

/-- Texts of packs of keys that fit carry the keys. -/
theorem grouped_packs {size : Nat} (hsize : 0 < size) {keys : List Key}
    (hkeys : ∀ key ∈ keys, key.Requestable) :
    Grouped size keys ((packs size [] keys).map commaText) := by
  have hmem : ∀ pack ∈ packs size [] keys, ∀ key ∈ pack, key.Requestable := by
    intro pack hpack key hkey
    have hflat : key ∈ (packs size [] keys).flatten := List.mem_flatten_of_mem hpack hkey
    rw [flatten_packs, List.nil_append] at hflat
    exact hkeys key hflat
  have hnil : ([] : List Key).length < size := hsize
  have hne : ∀ pack ∈ packs size [] keys, pack ≠ [] := fun pack hpack =>
    List.ne_nil_of_length_pos (packs_length hnil keys pack hpack).1
  have hsplit : ∀ pack ∈ packs size [] keys, (commaText pack).splitOn ',' = pack.map (·.chars) :=
    fun pack hpack => splitOn_commaText (hmem pack hpack) (hne pack hpack)
  refine ⟨?_, ?_, ?_, ?_⟩
  · calc ((packs size [] keys).map commaText).flatMap (·.splitOn ',')
        = ((packs size [] keys).map fun pack => pack.map (·.chars)).flatten := by
          rw [List.flatMap_map, List.flatMap_def]
          congr 1
          exact List.map_congr_left hsplit
      _ = keys.map (·.chars) := by rw [← List.map_flatten, flatten_packs, List.nil_append]
  · intro text htext
    rw [← List.map_dropLast] at htext
    obtain ⟨pack, hpack, rfl⟩ := List.mem_map.mp htext
    rw [hsplit pack (List.mem_of_mem_dropLast hpack), List.length_map]
    exact packs_full hnil keys pack hpack
  · intro text htext
    obtain ⟨pack, hpack, rfl⟩ := List.mem_map.mp htext
    rw [hsplit pack hpack, List.length_map]
    exact (packs_length hnil keys pack hpack).2
  · intro text htext
    obtain ⟨pack, hpack, rfl⟩ := List.mem_map.mp htext
    cases pack with
    | nil => exact absurd rfl (hne _ hpack)
    | cons key rest =>
      rw [commaText_cons]
      exact List.append_ne_nil_of_left_ne_nil (hmem _ hpack key List.mem_cons_self).1 _

section Fit

variable {maxAttributesPerRequest : UInt32} {keys : List Key}
  (hkeys : ∀ key ∈ keys, key.Requestable) (hfit : GroupsFit maxAttributesPerRequest keys)

include hkeys hfit

theorem joined_batch (k : Nat) :
    joined (batch (batchSize maxAttributesPerRequest) keys k)
      = commaText (batch (batchSize maxAttributesPerRequest) keys k) :=
  joined_eq_commaText
    (fun key hmem => hkeys key (List.mem_of_mem_drop (List.mem_of_mem_take hmem)))
    (Nat.lt_succ_of_le (hfit k))

theorem map_joined_packs :
    (packs (batchSize maxAttributesPerRequest) [] keys).map joined
      = (packs (batchSize maxAttributesPerRequest) [] keys).map commaText := by
  refine List.map_congr_left ?_
  intro pack hpack
  obtain ⟨k, rfl⟩ := exists_slice_of_mem_packs (batchSize_pos _) keys pack hpack
  exact joined_batch hkeys hfit k

end Fit

/-- The registered keys go out in groups. -/
theorem requestRegistered_grouped (request : List Char → KeysRequest)
    {maxAttributesPerRequest : UInt32} {keys : List Key} (hkeys : ∀ key ∈ keys, key.Requestable)
    (hfit : GroupsFit maxAttributesPerRequest keys) :
    ∃ texts, requestRegistered request maxAttributesPerRequest keys clearedKeys 0
        = .ok (texts.map request) ∧
      Grouped (batchSize maxAttributesPerRequest) keys texts := by
  obtain ⟨sent, hsent⟩ := (requestRegistered_clearedKeys_iff request maxAttributesPerRequest keys).mpr
    fun k => joined_batch hkeys hfit k ▸ Nat.lt_succ_of_le (hfit k)
  have hempty : Holds maxKeysLen clearedKeys (joined []) := holds_clearedKeys
  have htexts := requestRegistered_ok hempty hsent
  refine ⟨_, ?_, grouped_packs (batchSize_pos _) hkeys⟩
  rw [← map_joined_packs hkeys hfit, List.map_map, hsent, htexts]
  rfl

/-- The keys that an application names go out in one text. -/
theorem keysRequest_grouped (request : List Char → KeysRequest) {keys : List Key} (hne : keys ≠ [])
    (hkeys : ∀ key ∈ keys, key.Requestable) (hfit : (commaText keys).length ≤ 255) :
    keysRequest request true true keys = .ok [request (commaText keys)] := by
  have hjoined := joined_eq_commaText hkeys (Nat.lt_succ_of_le hfit)
  obtain ⟨buffer, hcopy, hholds⟩ := copyKeys_of_fits holds_clearedKeys
    (show (joined keys).length < maxKeysLen from hjoined ▸ Nat.lt_succ_of_le hfit)
  have htext : text buffer = .ok (commaText keys) := by
    rw [← hjoined]
    exact hholds.text
  rw [keysRequest, if_neg (by simpa using hne), hcopy]
  simp only [Bind.bind, Except.bind, htext]
  rfl

/-! ## What is published -/

/-- One request is published, whose payload carries the keys between `front` and the end. -/
def PublishesOnce (front : String) (keys : List Key)
    (outcome : Except MemFault (List KeysRequest)) : Prop :=
  ∃ request printed text, outcome = .ok [request] ∧
    tbcmAttributesRequestExPayload request.clientKeys request.sharedKeys = some printed ∧
    printed.Whole ∧ printed.text = front.toList ++ text ++ r#""}"#.toList ∧
    text.splitOn ',' = keys.map (·.chars)

/-- The payload that carries the keys an application names. -/
theorem payload_commaText {keys : List Key} (hne : keys ≠ [])
    (hkeys : ∀ key ∈ keys, key.Requestable) (hfit : (commaText keys).length ≤ 255) :
    (∃ printed, tbcmAttributesRequestExPayload (some (commaText keys)) none = some printed ∧
        printed.Whole ∧ printed.text
          = r#"{"clientKeys":""#.toList ++ commaText keys ++ r#""}"#.toList) ∧
      ∃ printed, tbcmAttributesRequestExPayload none (some (commaText keys)) = some printed ∧
        printed.Whole ∧ printed.text
          = r#"{"sharedKeys":""#.toList ++ commaText keys ++ r#""}"#.toList := by
  have htext : commaText keys ≠ [] := by
    cases keys with
    | nil => exact absurd rfl hne
    | cons key rest =>
      rw [commaText_cons]
      exact List.append_ne_nil_of_left_ne_nil (hkeys key List.mem_cons_self).1 _
  have hclient : "clientKeys".length = 10 := rfl
  have hshared : "sharedKeys".length = 10 := rfl
  constructor
  · have hwhole := @tbcmAttributesRequestExPayload_whole (some (commaText keys)) none (by
        simp only [Outgoing.InInt, hclient, hshared, Option.getD_some, Option.getD_none,
          List.length_nil]
        omega)
    rw [if_neg (by simp [htext])] at hwhole
    obtain ⟨printed, hprinted, hpayload, hwhole⟩ := hwhole
    exact ⟨printed, hprinted, hwhole, hpayload.trans (by simp [attributesPayload, htext])⟩
  · have hwhole := @tbcmAttributesRequestExPayload_whole none (some (commaText keys)) (by
        simp only [Outgoing.InInt, hclient, hshared, Option.getD_some, Option.getD_none,
          List.length_nil]
        omega)
    rw [if_neg (by simp [htext])] at hwhole
    obtain ⟨printed, hprinted, hpayload, hwhole⟩ := hwhole
    exact ⟨printed, hprinted, hwhole, hpayload.trans (by simp [attributesPayload])⟩

/-- Keys go out once each, in order, in full groups but the last; and the keys that an application
    names go out in one request, which a call that names none does not send. -/
theorem keysGrouped :
    (∀ (clientattributes : List Clientattribute) (maxAttributesPerRequest : UInt32),
      (∀ key ∈ clientattributes.filterMap Clientattribute.requestedKey, key.Requestable) →
      GroupsFit maxAttributesPerRequest
        (clientattributes.filterMap Clientattribute.requestedKey) →
      ∃ texts, tbceClientattributesInitialize true clientattributes maxAttributesPerRequest
          = .ok (texts.map fun text => ⟨some text, none⟩) ∧
        Grouped (max 1 maxAttributesPerRequest.toNat)
          (clientattributes.filterMap Clientattribute.requestedKey) texts) ∧
    (∀ (sharedattributes : List Sharedattribute) (maxAttributesPerRequest : UInt32),
      (∀ key ∈ sharedattributes.filterMap Sharedattribute.key, key.Requestable) →
      GroupsFit maxAttributesPerRequest (sharedattributes.filterMap Sharedattribute.key) →
      ∃ texts, tbceSharedattributesInitialized true sharedattributes maxAttributesPerRequest
          = .ok (texts.map fun text => ⟨none, some text⟩) ∧
        Grouped (max 1 maxAttributesPerRequest.toNat)
          (sharedattributes.filterMap Sharedattribute.key) texts) ∧
    (∀ keys : List Key, keys ≠ [] → (∀ key ∈ keys, key.Requestable) →
      (commaText keys).length ≤ 255 →
      PublishesOnce r#"{"clientKeys":""# keys (tbcmhClientattributesRequest true true keys) ∧
      PublishesOnce r#"{"sharedKeys":""# keys (tbcmhSharedattributesRequest true true keys)) ∧
    tbcmhClientattributesRequest true true [] = .ok [] ∧
      tbcmhSharedattributesRequest true true [] = .ok [] := by
  refine ⟨?_, ?_, ?_, rfl, rfl⟩
  · intro clientattributes maxAttributesPerRequest hkeys hfit
    exact requestRegistered_grouped _ hkeys hfit
  · intro sharedattributes maxAttributesPerRequest hkeys hfit
    exact requestRegistered_grouped _ hkeys hfit
  · intro keys hne hkeys hfit
    have hsplit := splitOn_commaText hkeys hne
    obtain ⟨⟨printed, hclient, hwhole, htext⟩, printed', hshared, hwhole', htext'⟩ :=
      payload_commaText hne hkeys hfit
    exact ⟨⟨_, printed, _, keysRequest_grouped _ hne hkeys hfit, hclient, hwhole, htext, hsplit⟩,
      _, printed', _, keysRequest_grouped _ hne hkeys hfit, hshared, hwhole', htext', hsplit⟩

/-- Two keys that an application names. -/
theorem keysGrouped_twoKeys :
    PublishesOnce r#"{"clientKeys":""# [⟨['a'], by decide⟩, ⟨['b'], by decide⟩]
      (tbcmhClientattributesRequest true true [⟨['a'], by decide⟩, ⟨['b'], by decide⟩]) :=
  (keysGrouped.2.2.1 [⟨['a'], by decide⟩, ⟨['b'], by decide⟩] (by simp)
    (by simp [Key.Requestable]) (by decide)).1

end ThingsboardMqtt
