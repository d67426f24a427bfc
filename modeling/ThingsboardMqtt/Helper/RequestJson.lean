import ThingsboardMqtt.Helper.RequestTexts
import ThingsboardMqtt.Library.Json

set_option autoImplicit false

/-! # The payloads of requests as JSON

The payloads that are printed by hand put a method or keys between quotes as they are, where the rest
of the library has cJSON write the escapes. So a payload is an object of the given strings exactly
when they hold nothing that is to be escaped (`requestsJson_iff`). -/

namespace ThingsboardMqtt

open Json

/-- A text that is published as a whole and is an object with these members, and no others. -/
def PrintedText.Carries (printed : PrintedText) (members : List (List Nat × Json)) : Prop :=
  printed.Whole ∧ HasMembers printed.text members

/-! ## RPC requests -/

/-- The members of an RPC request. -/
def rpcMembers (method : List Char) (params : Json) : List (List Nat × Json) :=
  [(units "method".toList, .string (units method)), (units "params".toList, params)]

theorem clientrpcRequestEx_text (method params : List Char) :
    (tbcmClientrpcRequestExPayload method params).text
      = '{' :: memberText "method".toList ('"' :: (method ++ '"' :: ',' ::
          memberText "params".toList (params ++ ['}']))) := by
  simp [tbcmClientrpcRequestExPayload, memberText]

/-- The payload of an RPC request is an object of the method and the parameters exactly when the
    method is plain. -/
theorem clientrpcRequestEx_members {params : List Char} {value : Json}
    (hparams : parse params = some value) (method : List Char) :
    HasMembers (tbcmClientrpcRequestExPayload method params).text (rpcMembers method value)
      ↔ Plain method := by
  have hname : Plain "method".toList := by decide
  have hparamsName : Plain "params".toList := by decide
  rw [clientrpcRequestEx_text]
  constructor
  · intro h
    refine plain_of_hasMembers hname ?_ h
    intro found hmem
    have hne : units "method".toList ≠ units "params".toList := by decide
    rw [rpcMembers, List.mem_cons, List.mem_singleton, Prod.mk.injEq, Prod.mk.injEq] at hmem
    rcases hmem with ⟨-, rfl⟩ | ⟨hsame, -⟩
    · rfl
    · exact absurd hsame hne
  · intro hplain
    obtain ⟨fuel, hfuel, hobject⟩ := parse_object hname ('"' :: (method ++ '"' :: ',' ::
      memberText "params".toList (params ++ ['}'])))
    have hlength : params.length ≤ fuel + 1 := by
      simp [memberText] at hfuel
      omega
    obtain ⟨rest, hvalue, hskip⟩ := value_of_parse hparams hlength
      (closing_cons.mpr (.inr (.inr rfl)) : Closing ['}'])
    refine ⟨rpcMembers method value, ?_, List.Perm.refl _⟩
    rw [hobject, value_plain hplain]
    cases fuel with
    | zero => omega
    | succ fuel =>
      simp only [Option.bind_some]
      rw [moreMembers_comma hparamsName, hvalue]
      simp only [Option.bind_some]
      rw [moreMembers_close _ _ hskip]
      rfl

/-! ## Attributes requests -/

/-- The members of an attributes request: the keys that there are. -/
def keysMembers (clientKeys sharedKeys : List Char) : List (List Nat × Json) :=
  (if clientKeys = [] then [] else [(units "clientKeys".toList, .string (units clientKeys))]) ++
    if sharedKeys = [] then [] else [(units "sharedKeys".toList, .string (units sharedKeys))]

theorem hasMembers_one {name : List Char} (hname : Plain name) (chars : List Char) :
    HasMembers ('{' :: memberText name ('"' :: (chars ++ '"' :: ['}'])))
        [(units name, .string (units chars))] ↔ Plain chars := by
  constructor
  · intro h
    refine plain_of_hasMembers hname ?_ h
    intro found hmem
    simpa using hmem
  · intro hplain
    obtain ⟨fuel, hfuel, hobject⟩ := parse_object hname ('"' :: (chars ++ '"' :: ['}']))
    refine ⟨_, ?_, List.Perm.refl _⟩
    rw [hobject, value_plain hplain]
    rfl

theorem length_of_hasMembers_one {name chars : List Char} (hname : Plain name)
    {members : List (List Nat × Json)}
    (hfirst : ∀ found, (units name, found) ∈ members → found = .string (units chars))
    (h : HasMembers ('{' :: memberText name ('"' :: (chars ++ '"' :: ['}']))) members) :
    members.length = 1 := by
  obtain ⟨found, hparse, hperm⟩ := (hasMembers_one hname chars).mpr (plain_of_hasMembers hname hfirst h)
  obtain ⟨found', hparse', hperm'⟩ := h
  obtain rfl : found = found' := by
    rw [hparse, Option.some.injEq, Json.object.injEq] at hparse'
    exact hparse'
  rw [← hperm'.length_eq, hperm.length_eq, List.length_singleton]

theorem hasMembers_two {name name' : List Char} (hname : Plain name) (hname' : Plain name')
    (hne : units name ≠ units name') (chars chars' : List Char) :
    HasMembers ('{' :: memberText name ('"' :: (chars ++ '"' :: ',' :: ' ' ::
        memberText name' ('"' :: (chars' ++ '"' :: ['}'])))))
      [(units name, .string (units chars)), (units name', .string (units chars'))]
        ↔ Plain chars ∧ Plain chars' := by
  obtain ⟨fuel, hfuel, hobject⟩ := parse_object hname ('"' :: (chars ++ '"' :: ',' :: ' ' ::
    memberText name' ('"' :: (chars' ++ '"' :: ['}']))))
  have hcount : ∃ count, fuel = count + 1 := ⟨fuel - 1, by omega⟩
  obtain ⟨count, rfl⟩ := hcount
  constructor
  · intro h
    have hplain : Plain chars := by
      refine plain_of_hasMembers hname ?_ h
      intro found hmem
      rw [List.mem_cons, List.mem_singleton, Prod.mk.injEq, Prod.mk.injEq] at hmem
      rcases hmem with ⟨-, rfl⟩ | ⟨hsame, -⟩
      · rfl
      · exact absurd hsame hne
    refine ⟨hplain, ?_⟩
    obtain ⟨found, hparse, hperm⟩ := h
    rw [hobject, value_plain hplain, Option.bind_some, moreMembers_space,
      moreMembers_comma hname', value_string] at hparse
    simp only [Option.bind_eq_some_iff, Option.some.injEq] at hparse
    obtain ⟨_, ⟨second, ⟨written, hbody, rfl⟩, more, -, rfl⟩, hfound⟩ := hparse
    split at hfound
    · simp only [Option.some.injEq, Json.object.injEq] at hfound
      have hmem := hperm.mem_iff.mp (hfound ▸ List.mem_cons_of_mem _ List.mem_cons_self)
      rw [List.mem_cons, List.mem_singleton, Prod.mk.injEq, Prod.mk.injEq] at hmem
      rcases hmem with ⟨hsame, -⟩ | ⟨-, hwritten⟩
      · exact absurd hsame.symm hne
      · simp only [Json.string.injEq] at hwritten
        have hread : body (chars' ++ '"' :: ['}']) = some (units chars', written.2) := by
          rw [hbody, ← hwritten]
        exact plain_of_body hread
    · simp at hfound
  · rintro ⟨hplain, hplain'⟩
    refine ⟨_, ?_, List.Perm.refl _⟩
    rw [hobject, value_plain hplain, Option.bind_some, moreMembers_space, moreMembers_comma hname',
      value_plain hplain']
    rfl

/-- The payload of an attributes request is an object of the keys exactly when they are plain. -/
theorem attributesPayload_members {clientKeys sharedKeys : List Char}
    (h : ¬(clientKeys = [] ∧ sharedKeys = [])) :
    HasMembers (attributesPayload clientKeys sharedKeys) (keysMembers clientKeys sharedKeys)
      ↔ Plain clientKeys ∧ Plain sharedKeys := by
  have hclient : Plain "clientKeys".toList := by decide
  have hshared : Plain "sharedKeys".toList := by decide
  have hnil : Plain [] := fun _ hmem => absurd hmem List.not_mem_nil
  have hne : units "clientKeys".toList ≠ units "sharedKeys".toList := by decide
  by_cases hclientNil : clientKeys = []
  · have hsharedNil : sharedKeys ≠ [] := fun hnil => h ⟨hclientNil, hnil⟩
    subst hclientNil
    have htext : attributesPayload [] sharedKeys
        = '{' :: memberText "sharedKeys".toList ('"' :: (sharedKeys ++ '"' :: ['}'])) := by
      simp [attributesPayload, memberText]
    rw [htext, keysMembers, if_pos rfl, if_neg hsharedNil, List.nil_append, hasMembers_one hshared]
    exact ⟨fun hplain => ⟨hnil, hplain⟩, And.right⟩
  · by_cases hsharedNil : sharedKeys = []
    · subst hsharedNil
      have htext : attributesPayload clientKeys []
          = '{' :: memberText "clientKeys".toList ('"' :: (clientKeys ++ '"' :: ['}'])) := by
        simp [attributesPayload, memberText, hclientNil]
      rw [htext, keysMembers, if_neg hclientNil, if_pos rfl, List.append_nil,
        hasMembers_one hclient]
      exact ⟨fun hplain => ⟨hplain, hnil⟩, And.left⟩
    · have htext : attributesPayload clientKeys sharedKeys
          = '{' :: memberText "clientKeys".toList ('"' :: (clientKeys ++ '"' :: ',' :: ' ' ::
              memberText "sharedKeys".toList ('"' :: (sharedKeys ++ '"' :: ['}'])))) := by
        simp [attributesPayload, memberText, hclientNil, hsharedNil]
      rw [htext, keysMembers, if_neg hclientNil, if_neg hsharedNil]
      exact hasMembers_two hclient hshared hne clientKeys sharedKeys

/-! ## Sizes beyond `int` -/

theorem intOfSizeT_le (value : Nat) :
    intOfSizeT value ≤ value ∧ (2 ^ 31 ≤ value → intOfSizeT value ≤ value - 2 ^ 32) := by
  unfold intOfSizeT
  split
  · omega
  · omega

theorem keysLen_le (keys : Option (List Char)) :
    ((keys.getD []).length < 2 ^ 31 → keysLen keys = (keys.getD []).length) ∧
      -2 ^ 31 ≤ keysLen keys ∧
      (2 ^ 31 ≤ (keys.getD []).length → keysLen keys ≤ (keys.getD []).length - 2 ^ 32) := by
  refine ⟨keysLen_of_lt keys, ?_⟩
  cases keys with
  | none => simp [keysLen]
  | some keys =>
    rw [keysLen, Option.getD_some]
    split
    · unfold intOfSizeT
      split
      · omega
      · omega
    · omega

theorem intOfSizeT_sizeT_le {value : Int} (h : -2 ^ 31 ≤ value) :
    intOfSizeT (sizeT value) ≤ value ∧
      (2 ^ 31 ≤ value → intOfSizeT (sizeT value) ≤ value - 2 ^ 32) := by
  unfold intOfSizeT sizeT
  split
  · omega
  · omega

/-- A payload of an RPC request is whole only if its lengths are within `int`. -/
theorem inInt_of_clientrpcRequestEx {method params : List Char}
    (h : (tbcmClientrpcRequestExPayload method params).Whole) :
    (Outgoing.clientrpcRequestEx method params).InInt := by
  have hlength := h.1
  have hmethod : "method".length = 6 := rfl
  have hparams : "params".length = 6 := rfl
  have hsize := intOfSizeT_le (6 + method.length + 6 + params.length + 20)
  rw [clientrpcRequestEx_text] at hlength
  simp only [tbcmClientrpcRequestExPayload, hmethod, hparams] at hlength
  simp [memberText] at hlength
  simp only [Outgoing.InInt, hmethod, hparams]
  omega

/-- The keys that are requested are looked up by name. -/
theorem eq_of_mem_keysMembers {clientKeys sharedKeys : List Char} {found : Json} :
    ((units "clientKeys".toList, found) ∈ keysMembers clientKeys sharedKeys →
      found = .string (units clientKeys)) ∧
    ((units "sharedKeys".toList, found) ∈ keysMembers clientKeys sharedKeys →
      found = .string (units sharedKeys)) := by
  have hne : units "clientKeys".toList ≠ units "sharedKeys".toList := by decide
  unfold keysMembers
  constructor
  · intro hmem
    rcases List.mem_append.mp hmem with hmem | hmem
    · split at hmem
      · exact absurd hmem List.not_mem_nil
      · exact (Prod.mk.inj (List.mem_singleton.mp hmem)).2
    · split at hmem
      · exact absurd hmem List.not_mem_nil
      · exact absurd (Prod.mk.inj (List.mem_singleton.mp hmem)).1 hne
  · intro hmem
    rcases List.mem_append.mp hmem with hmem | hmem
    · split at hmem
      · exact absurd hmem List.not_mem_nil
      · exact absurd (Prod.mk.inj (List.mem_singleton.mp hmem)).1 hne.symm
    · split at hmem
      · exact absurd hmem List.not_mem_nil
      · exact (Prod.mk.inj (List.mem_singleton.mp hmem)).2

/-- A payload carries all keys only if their lengths are within `int`. -/
theorem inInt_of_attributesRequestEx {clientKeys sharedKeys : Option (List Char)}
    {printed : PrintedText}
    (hprinted : tbcmAttributesRequestExPayload clientKeys sharedKeys = some printed)
    (h : printed.Carries (keysMembers (clientKeys.getD []) (sharedKeys.getD []))) :
    (Outgoing.attributesRequestEx clientKeys sharedKeys).InInt := by
  have hclientName : "clientKeys".length = 10 := rfl
  have hsharedName : "sharedKeys".length = 10 := rfl
  have hclient := keysLen_le clientKeys
  have hshared := keysLen_le sharedKeys
  obtain ⟨hwhole, hmembers⟩ := h
  have hlength := hwhole.1
  simp only [tbcmAttributesRequestExPayload, hclientName, hsharedName] at hprinted
  simp only [Outgoing.InInt, hclientName, hsharedName]
  have hempty : ∀ keys : Option (List Char), (keys.getD []).length < 2 ^ 31 → keysLen keys ≤ 0 →
      keys.getD [] = [] := by
    intro keys hlt hle
    rw [keysLen_of_lt keys hlt] at hle
    exact List.eq_nil_of_length_eq_zero (by omega)
  split at hprinted
  · simp at hprinted
  · rename_i hsome
    obtain rfl := Option.some.inj hprinted
    have hsize := @intOfSizeT_sizeT_le
      (10 + keysLen clientKeys + 10 + keysLen sharedKeys + 20) (by omega)
    by_cases hboth : 0 < keysLen clientKeys ∧ 0 < keysLen sharedKeys
    · simp only [if_pos hboth] at hlength
      simp at hlength
      omega
    · -- one list is printed, and the other one is empty or would be missing
      by_cases hpos : 0 < keysLen clientKeys
      · simp only [if_neg hboth, if_pos hpos] at hlength hmembers
        have hone := @length_of_hasMembers_one "clientKeys".toList _ (by decide) _
          (fun found hmem => eq_of_mem_keysMembers.1 hmem) (by simpa [memberText] using hmembers)
        simp at hlength
        by_cases hlt : (sharedKeys.getD []).length < 2 ^ 31
        · rw [hempty sharedKeys hlt (by omega), List.length_nil]
          omega
        · have hsome : sharedKeys.getD [] ≠ [] := fun hnil => hlt (by rw [hnil]; decide)
          have hsome' : clientKeys.getD [] ≠ [] := fun hnil => by simp [hnil] at hclient; omega
          simp [keysMembers, hsome, hsome'] at hone
      · simp only [if_neg hboth, if_neg hpos] at hlength hmembers
        have hone := @length_of_hasMembers_one "sharedKeys".toList _ (by decide) _
          (fun found hmem => eq_of_mem_keysMembers.2 hmem) (by simpa [memberText] using hmembers)
        simp at hlength
        by_cases hlt : (clientKeys.getD []).length < 2 ^ 31
        · rw [hempty clientKeys hlt (by omega), List.length_nil]
          omega
        · have hsome : clientKeys.getD [] ≠ [] := fun hnil => hlt (by rw [hnil]; decide)
          have hsome' : sharedKeys.getD [] ≠ [] := fun hnil => by simp [hnil] at hshared; omega
          simp [keysMembers, hsome, hsome'] at hone

/-- A payload carries what it was given exactly when nothing in it is to be escaped and the lengths
    are within `int`. -/
theorem requestsJson_iff (method params : List Char)
    (clientKeys sharedKeys : Option (List Char)) :
    (∀ value, parse params = some value →
      ((tbcmClientrpcRequestExPayload method params).Carries (rpcMembers method value) ↔
        Plain method ∧ (Outgoing.clientrpcRequestEx method params).InInt)) ∧
    (¬(clientKeys.getD [] = [] ∧ sharedKeys.getD [] = []) →
      ((∃ printed, tbcmAttributesRequestExPayload clientKeys sharedKeys = some printed ∧
          printed.Carries (keysMembers (clientKeys.getD []) (sharedKeys.getD []))) ↔
        (Plain (clientKeys.getD []) ∧ Plain (sharedKeys.getD [])) ∧
          (Outgoing.attributesRequestEx clientKeys sharedKeys).InInt)) := by
  constructor
  · intro value hparams
    rw [PrintedText.Carries, clientrpcRequestEx_members hparams]
    constructor
    · rintro ⟨hwhole, hplain⟩
      exact ⟨hplain, inInt_of_clientrpcRequestEx hwhole⟩
    · rintro ⟨hplain, hint⟩
      exact ⟨tbcmClientrpcRequestExPayload_whole hint, hplain⟩
  · intro hsome
    have hpayload : (Outgoing.attributesRequestEx clientKeys sharedKeys).InInt →
        ∃ printed, tbcmAttributesRequestExPayload clientKeys sharedKeys = some printed ∧
          printed.text = attributesPayload (clientKeys.getD []) (sharedKeys.getD []) ∧
          printed.Whole := by
      intro hint
      have hwhole := tbcmAttributesRequestExPayload_whole hint
      rwa [if_neg hsome] at hwhole
    constructor
    · rintro ⟨printed, hprinted, hcarries⟩
      have hint := inInt_of_attributesRequestEx hprinted hcarries
      obtain ⟨_, hsame, htext, -⟩ := hpayload hint
      obtain rfl := Option.some.inj (hprinted.symm.trans hsame)
      exact ⟨(attributesPayload_members hsome).mp (htext ▸ hcarries.2), hint⟩
    · rintro ⟨hplain, hint⟩
      obtain ⟨printed, hprinted, htext, hwhole⟩ := hpayload hint
      refine ⟨printed, hprinted, hwhole, ?_⟩
      rw [htext]
      exact (attributesPayload_members hsome).mpr hplain

theorem requestsJson_iff_getTime :
    (tbcmClientrpcRequestExPayload "getTime".toList "{}".toList).Carries
        (rpcMembers "getTime".toList (.object [])) ∧
      ∃ printed, tbcmAttributesRequestExPayload (some "mode".toList) none = some printed ∧
        printed.Carries (keysMembers "mode".toList []) := by
  obtain ⟨hrpc, hkeys⟩ :=
    requestsJson_iff "getTime".toList "{}".toList (some "mode".toList) none
  exact ⟨(hrpc (.object []) rfl).mpr ⟨by decide, by unfold Outgoing.InInt; decide⟩,
    (hkeys (by decide)).mpr ⟨⟨by decide, by decide⟩, by unfold Outgoing.InInt; decide⟩⟩

/-- A quote in the name of a method. -/
theorem requestsJson_fails_quote :
    ¬∀ (method params : List Char) (value : Json), parse params = some value →
      (tbcmClientrpcRequestExPayload method params).Carries (rpcMembers method value) := by
  intro h
  have hcarries := h ['a', '"', 'b'] "{}".toList (.object []) rfl
  have hmembers := (clientrpcRequestEx_members rfl ['a', '"', 'b']).mp hcarries.2
  exact absurd hmembers (by decide)

end ThingsboardMqtt
