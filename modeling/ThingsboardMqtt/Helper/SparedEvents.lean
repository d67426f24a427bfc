import ThingsboardMqtt.Helper.ProvisionAnswers
import ThingsboardMqtt.Helper.SparedSweeps
import ThingsboardMqtt.Ota.Negotiations

set_option autoImplicit false

/-! # Events that spare the client

Whether the handling of an event comes to its end is read off the event and the client before it
(`Spares`): which subscriptions and requests the loops come to, and what the message carries. -/

namespace ThingsboardMqtt

open Execution ListWalk Relation

section Condition

variable (destroyers : Destroyers) (round : Round) (last : Prop)

/-- The object has a key of the entry, or the entry has none. -/
def Attributessubscribe.wants (object : Cjson) (entry : Attributessubscribe) : Bool :=
  entry.keyList.isEmpty || entry.keyList.any object.hasObjectItem

/-- The loop over the subscriptions ends behind an entry. -/
structure EndsUpdate (object : Cjson) (answers : UpdateAnswers) (entry : Attributessubscribe) :
    Prop where
  wants : entry.wants object = true
  keyed : entry.keyList.isEmpty = false
  result : destroyers.updates entry = true ∨ entry.reader = .application ∧
    (answers.result entry.subscribeId = 1 ∨ answers.result entry.subscribeId = 2)

/-- An `on_update` destroys the client only in the last round, and not where the loop goes on to
    another entry; and that of an OTA item finds the strings it compares. -/
structure EntrySpares (object : Cjson) (answers : UpdateAnswers) (ota : OtaWorld)
    (entry : Attributessubscribe) (behind : List Attributessubscribe) : Prop where
  destroys : destroyers.updates entry = true →
    last ∧ (entry.keyList.isEmpty = false ∨ behind = [])
  strings : ∀ otaType addr, entry.reader = .otaupdate otaType addr →
    Negotiable otaType object (answers.ota entry.subscribeId) ota

/-- What the loop over the subscriptions comes to and invokes spares the client. -/
def UpdateSpares (object : Cjson) (answers : UpdateAnswers) (ota : OtaWorld)
    (entries : List Attributessubscribe) : Prop :=
  AllReached (EndsUpdate destroyers object answers)
    (fun entry behind => entry.wants object = true →
      EntrySpares destroyers last object answers ota entry behind) entries

/-- The callback of the request that a response answers finds the strings it compares, and that of a
    failed provision destroys the client only in the last round. -/
def AnswerSpares (table : RequestTable) (object : Cjson) (answers : OtaAnswers) (ota : OtaWorld)
    (request : Request) : Prop :=
  match table with
  | .attributesrequest => ∀ otaType addr shared, request.reader = .otaupdate otaType addr →
      object.getObjectItem "shared" = some shared → Negotiable otaType shared answers ota
  | .clientrpc => True
  | .provision =>
    (StringIfPresent object "status" ∧ StringIfPresent object "provisionDeviceStatus") ∧
      (Succeeded object ∧ Carries object ∨
        request.hasOnTimeout = true ∧ (destroyers.onTimeout .provision request.uid = true → last))

/-- The event is handled to its end, and behind it the client is there or the round was the last. -/
def Spares (event : TbcmEvent) (client : Client) : Prop :=
  match event with
  | .connected => True
  | .disconnected => ∀ table, SweepSpares destroyers round table (client.requestList table)
  | .checkTimeout => client.lastCheckTimestamp + tbMqttTimeout + 2 ≤ client.core.now →
      ∀ table, SweepSpares destroyers round table
        ((client.requestList table).filter (·.timedOut client.core.now))
  | .data (.sharedAttributes (some object)) =>
    UpdateSpares destroyers last object round.answers.update client.ota
      client.attributessubscribeList
  | .data (.response table requestId (some object)) => ∀ request,
      (client.requestList table).find? (table.isAnswered requestId) = some request →
        AnswerSpares destroyers last table object round.answers.ota client.ota request
  | .data (.serverrpcRequest _ (some object)) =>
    client.serverrpcList = [] ∨ ∃ method, object.getObjectItem "method" = some (.string method)
  | .data _ => True

end Condition

namespace Watched

variable {destroyers : Destroyers} {round : Round}

/-! ## Messages -/

/-- A call that comes to its end, with the client there unless nothing follows. -/
def Ends (last : Prop) {α : Type} (f : α → Slot) (result : Except Crash α) : Prop :=
  ∃ a, result = .ok a ∧ (f a = none → last)

section Ends

variable {last : Prop} {α : Type} {f : α → Slot}

theorem ends_ok {a : α} : Ends last f (.ok a) ↔ (f a = none → last) := by
  simp [Ends]

theorem not_ends_error {crash : Crash} : ¬ Ends last f (.error crash) := by
  simp [Ends]

end Ends

/-- An `on_update` that does not destroy the client is the one of the helper. -/
theorem onUpdate_of_spares {entry : Attributessubscribe} (h : destroyers.updates entry = false)
    (object : Cjson) (answers : UpdateAnswers) (client : Client) :
    onUpdate destroyers entry object answers client
      = (liftFault (ThingsboardMqtt.onUpdate entry object answers client)).map
        fun (result, client) => (result, some client) := by
  rw [onUpdate, if_neg (by simp [h])]
  rfl

/-- What an `on_update` of the helper does, where there is nothing that it lacks. -/
theorem plainOnUpdate_cases {object : Cjson} {answers : UpdateAnswers} {ota : OtaWorld}
    (entry : Attributessubscribe) {client : Client} (hsame : SameOffers ota client.ota) :
    (∃ result client',
        ThingsboardMqtt.onUpdate entry object answers client = .ok (result, client') ∧
        (∀ otaType addr, entry.reader = .otaupdate otaType addr →
          Negotiable otaType object (answers.ota entry.subscribeId) ota) ∧
        (result = 1 ∨ result = 2 ↔ entry.reader = .application ∧
          (answers.result entry.subscribeId = 1 ∨ answers.result entry.subscribeId = 2)) ∧
        SameOffers ota client'.ota) ∨
      (∃ fault, ThingsboardMqtt.onUpdate entry object answers client = .error fault) ∧
        ∃ otaType addr, entry.reader = .otaupdate otaType addr ∧
          ¬ Negotiable otaType object (answers.ota entry.subscribeId) ota := by
  unfold ThingsboardMqtt.onUpdate
  cases hreader : entry.reader with
  | application => exact .inl ⟨_, client, rfl, by simp, by simp, hsame⟩
  | otaupdate otaType addr =>
    have hok := otaupdateOnAttributesupdate_ok_iff otaType object (answers.ota entry.subscribeId)
      client.ota
    rw [hsame.negotiable_iff] at hok
    cases hupdate : otaupdateOnAttributesupdate otaType (some object)
      (answers.ota entry.subscribeId) client.ota with
    | error fault =>
      refine .inr ⟨⟨fault, by simp [bind, Except.bind, hupdate]⟩, otaType, addr, rfl, ?_⟩
      intro hnegotiable
      obtain ⟨ota', hota⟩ := hok.mpr hnegotiable
      rw [hupdate] at hota
      contradiction
    | ok ota' =>
      refine .inl ⟨0, { client with ota := ota' }, by simp [bind, Except.bind, hupdate], ?_,
        by simp, hsame.trans (.onAttributesupdate hupdate)⟩
      intro _ _ heq
      obtain ⟨rfl, rfl⟩ := Reader.otaupdate.inj heq
      exact hok.mp ⟨ota', hupdate⟩

section Entries

variable {last : Prop} {object : Cjson} {answers : UpdateAnswers} {ota : OtaWorld}
  {entry : Attributessubscribe}

/-- An entry that ends the loop is keyed, and the object has one of its keys. -/
theorem wants_keyed (hkeyed : entry.keyList.isEmpty = false) (hwants : entry.wants object = true) :
    entry.keyList.any object.hasObjectItem = true := by
  simpa [Attributessubscribe.wants, hkeyed] using hwants

theorem not_endsUpdate_of_keyless (hkeyless : entry.keyList.isEmpty = true) :
    ¬ EndsUpdate destroyers object answers entry := by
  intro hends
  exact absurd (hends.keyed.symm.trans hkeyless) (by simp)

/-- Behind a destroying `on_update` the loop ends when the entry is keyed; otherwise it goes on to
    the next entry, which is freed. -/
theorem updateEntries_of_destroys (hwants : entry.wants object = true)
    (hdestroys : destroyers.updates entry = true) (rest : List Attributessubscribe) (result : Int)
    (client : Client) :
    Ends last (·.2)
        (updateEntries destroyers object answers (entry :: rest) result (some client)) ↔
      last ∧ (entry.keyList.isEmpty = false ∨ rest = []) := by
  rw [updateEntries, client_bind, onUpdate, if_pos hdestroys]
  cases hkeyless : entry.keyList.isEmpty with
  | true =>
    cases rest with
    | nil => simp [updateEntries, ends_ok, bind, Except.bind]
    | cons next rest => simp [updateEntries, not_ends_error, bind, Except.bind, Slot.client]
  | false => simp [wants_keyed hkeyless hwants, ends_ok, bind, Except.bind]

/-- Behind any other the loop goes on with what the helper has, unless it ends or lacks a string. -/
theorem updateEntries_of_spares (hwants : entry.wants object = true)
    (hdestroys : destroyers.updates entry = false) {client : Client}
    (hsame : SameOffers ota client.ota) (rest : List Attributessubscribe) (result : Int) :
    ∃ result' client', SameOffers ota client'.ota ∧
      (Ends last (·.2)
          (updateEntries destroyers object answers (entry :: rest) result (some client)) ↔
        (∀ otaType addr, entry.reader = .otaupdate otaType addr →
          Negotiable otaType object (answers.ota entry.subscribeId) ota) ∧
        (¬ EndsUpdate destroyers object answers entry →
          Ends last (·.2)
            (updateEntries destroyers object answers rest result' (some client')))) := by
  rw [updateEntries, client_bind, onUpdate_of_spares hdestroys]
  rcases plainOnUpdate_cases entry hsame with
    ⟨result', client', hupdate, hstrings, hresult, hsame'⟩ |
    ⟨⟨fault, hupdate⟩, otaType, addr, hreader, hmissing⟩
  · rw [hupdate]
    cases hkeyless : entry.keyList.isEmpty with
    | true =>
      refine ⟨result, client', hsame', ?_⟩
      rw [and_iff_right hstrings]
      simp [not_endsUpdate_of_keyless hkeyless, liftFault, Except.map, Except.mapError, bind,
        Except.bind]
    | false =>
      refine ⟨result', client', hsame', ?_⟩
      have hends : EndsUpdate destroyers object answers entry ↔ result' = 1 ∨ result' = 2 := by
        rw [hresult]
        refine ⟨fun h => h.result.resolve_left (by simp [hdestroys]), fun h => ?_⟩
        exact ⟨hwants, hkeyless, .inr h⟩
      rw [and_iff_right hstrings, hends, wants_keyed hkeyless hwants]
      by_cases htwo : result' = 2
      · simp [htwo, ends_ok, liftFault, Except.map, Except.mapError, bind, Except.bind]
      · by_cases hone : result' = 1
        · simp [hone, ends_ok, liftFault, Except.map, Except.mapError, bind, Except.bind]
        · simp [htwo, hone, liftFault, Except.map, Except.mapError, bind, Except.bind]
  · refine ⟨result, client, hsame, iff_of_false ?_ fun h => hmissing (h.1 otaType addr hreader)⟩
    rw [hupdate]
    cases hkeyless : entry.keyList.isEmpty with
    | true =>
      simp [not_ends_error, liftFault, Except.map, Except.mapError, bind, Except.bind]
    | false =>
      simp [wants_keyed hkeyless hwants, not_ends_error, liftFault, Except.map, Except.mapError,
        bind, Except.bind]

/-- The loop over the subscriptions, where no `on_update` in front has destroyed the client. -/
theorem updateEntries_ends_iff (entries : List Attributessubscribe) (result : Int) {client : Client}
    (hsame : SameOffers ota client.ota) :
    Ends last (·.2) (updateEntries destroyers object answers entries result (some client)) ↔
      UpdateSpares destroyers last object answers ota entries := by
  unfold UpdateSpares
  induction entries generalizing result client with
  | nil => exact iff_of_true (ends_ok.mpr (by simp)) allReached_nil
  | cons entry rest ih =>
    rw [allReached_cons]
    cases hwants : entry.wants object with
    | false =>
      have hends : ¬ EndsUpdate destroyers object answers entry :=
        fun h => absurd (h.wants.symm.trans hwants) (by simp)
      simp only [Attributessubscribe.wants, Bool.or_eq_false_iff] at hwants
      simpa [updateEntries, client_bind, hwants, hends] using ih result hsame
    | true =>
      cases hdestroys : destroyers.updates entry with
      | true =>
        have hreader : entry.reader = .application := by
          simp only [Destroyers.updates, Bool.and_eq_true, decide_eq_true_eq] at hdestroys
          exact hdestroys.1
        have hspares : EntrySpares destroyers last object answers ota entry rest ↔
            last ∧ (entry.keyList.isEmpty = false ∨ rest = []) := by
          refine ⟨fun h => h.destroys hdestroys, fun h => ⟨fun _ => h, ?_⟩⟩
          intro otaType addr hota
          exact absurd (hreader.symm.trans hota) (by simp)
        rw [updateEntries_of_destroys hwants hdestroys, imp_iff_right rfl, hspares, iff_self_and]
        rintro ⟨-, hkeyed | rfl⟩ hgoes
        · exact absurd ⟨hwants, hkeyed, .inl hdestroys⟩ hgoes
        · exact allReached_nil
      | false =>
        have hspares : EntrySpares destroyers last object answers ota entry rest ↔
            ∀ otaType addr, entry.reader = .otaupdate otaType addr →
              Negotiable otaType object (answers.ota entry.subscribeId) ota :=
          ⟨fun h => h.strings, fun h => ⟨fun h' => absurd (hdestroys.symm.trans h') (by simp), h⟩⟩
        obtain ⟨result', client', hsame', hloop⟩ :=
          updateEntries_of_spares hwants hdestroys hsame rest result
        rw [hloop, imp_iff_right rfl, hspares, ih result' hsame']

end Entries

theorem doProvisionResponse_ends_iff {last : Prop} (request : Request) (requestId : Nat)
    (object : Cjson) (answers : OtaAnswers) (ota : OtaWorld) (client : Client) :
    Ends last id (doProvisionResponse destroyers request requestId object answers client) ↔
      AnswerSpares destroyers last .provision object answers ota request := by
  unfold doProvisionResponse doResponse AnswerSpares
  by_cases hstrings : StringIfPresent object "status" ∧
      StringIfPresent object "provisionDeviceStatus"
  · obtain ⟨credentials, hparse, hgranted⟩ :=
      parseProvisionResponse_of_strings hstrings.1 hstrings.2
    rw [hparse, ← hgranted, and_iff_right hstrings]
    cases credentials with
    | some credentials =>
      simp [ends_ok, liftFault, Except.mapError, bind, Except.bind]
    | none =>
      -- a response that reports a failure goes to `on_timeout`
      cases hcallback : request.hasOnTimeout with
      | false => simp [not_ends_error, liftFault, Except.mapError, bind, Except.bind]
      | true =>
        cases hdestroys : destroyers.onTimeout .provision request.uid with
        | false => simp [ends_ok, liftFault, Except.mapError, bind, Except.bind]
        | true => simp [ends_ok, liftFault, Except.mapError, bind, Except.bind]
  · rw [parseProvisionResponse_of_not_strings hstrings]
    simp [not_ends_error, hstrings, liftFault, Except.mapError, bind, Except.bind]

theorem attributesResponse_ends_iff {last : Prop} (request : Request) (requestId : Nat)
    (object : Cjson) (answers : OtaAnswers) {ota : OtaWorld} {client : Client}
    (hsame : SameOffers ota client.ota) :
    Ends last id (do
        let client ← liftFault
          (doResponse .attributesrequest request requestId object answers client)
        .ok (some client)) ↔
      AnswerSpares destroyers last .attributesrequest object answers ota request := by
  unfold doResponse AnswerSpares
  cases hreader : request.reader with
  | application => simp [ends_ok, liftFault, Except.mapError, bind, Except.bind]
  | otaupdate otaType addr =>
    cases hshared : object.getObjectItem "shared" with
    | none =>
      simp [ends_ok, otaupdateOnAttributesupdate, liftFault, Except.mapError, bind, Except.bind]
    | some shared =>
      have hspares : (∀ otaType' addr' shared',
          Reader.otaupdate otaType addr = .otaupdate otaType' addr' → some shared = some shared' →
            Negotiable otaType' shared' answers ota) ↔
          Negotiable otaType shared answers client.ota := by
        rw [hsame.negotiable_iff]
        refine ⟨fun h => h otaType addr shared rfl rfl, fun h => ?_⟩
        rintro otaType' addr' shared' hreader' hshared'
        obtain ⟨rfl, rfl⟩ := Reader.otaupdate.inj hreader'
        exact Option.some.inj hshared' ▸ h
      rw [hspares, ← otaupdateOnAttributesupdate_ok_iff]
      simp only [show (client.log (.onResponse .attributesrequest request.uid requestId)).ota
        = client.ota from rfl]
      cases otaupdateOnAttributesupdate otaType (some shared) answers client.ota with
      | error fault => simp [not_ends_error, liftFault, Except.mapError, bind, Except.bind]
      | ok ota' => simp [ends_ok, liftFault, Except.mapError, bind, Except.bind]

theorem tbcmhRequestOnData_ends_iff {last : Prop} (table : RequestTable) (requestId : Nat)
    (object : Cjson) (answers : OtaAnswers) (client : Client) :
    Ends last id
        (tbcmhRequestOnData destroyers table requestId (some object) answers (some client)) ↔
      ∀ request, (client.requestList table).find? (table.isAnswered requestId) = some request →
        AnswerSpares destroyers last table object answers client.ota request := by
  rw [tbcmhRequestOnData, client_bind, ← splitFirst_map_eq_find?]
  cases splitFirst (table.isAnswered requestId) (client.requestList table) with
  | none => simp [ends_ok]
  | some found =>
    obtain ⟨front, request, back⟩ := found
    simp only [Option.map_some, Option.some.injEq, forall_eq']
    cases table with
    | provision => exact doProvisionResponse_ends_iff request requestId object answers client.ota _
    | attributesrequest =>
      refine attributesResponse_ends_iff request requestId object answers ?_
      rw [unsubscribeEmptied_eq]
      exact ⟨rfl, rfl⟩
    | clientrpc =>
      simp [AnswerSpares, doResponse, ends_ok, liftFault, Except.mapError, bind, Except.bind]

theorem serverrpcRequest_ends_iff {last : Prop} (requestId : Nat) (object : Cjson)
    (client : Client) :
    Ends last id (do
        let client ← liftFault (tbcmhServerrpcOnData requestId (some object) client)
        .ok (some client)) ↔
      client.serverrpcList = [] ∨
        ∃ method, object.getObjectItem "method" = some (.string method) := by
  simp only [tbcmhServerrpcOnData]
  cases client.serverrpcList with
  | nil => simp [ends_ok, liftFault, Except.mapError, bind, Except.bind]
  | cons first rest =>
    cases hitem : object.getObjectItem "method" with
    | none =>
      simp [Cjson.getStringValue, not_ends_error, liftFault, Except.mapError, bind, Except.bind]
    | some item =>
      cases item with
      | string method =>
        by_cases hmem : method ∈ first :: rest <;>
          simp [Cjson.getStringValue, hmem, ends_ok, liftFault, Except.mapError, bind, Except.bind]
      | null | bool | number | array | object =>
        simp [Cjson.getStringValue, not_ends_error, liftFault, Except.mapError, bind, Except.bind]

/-! ## Events -/

/-- An event is handled to its end exactly when it spares the client. -/
theorem onTbcmEventHandle_ends_iff {last : Prop} (event : TbcmEvent) {client : Client}
    (hpending : Pending destroyers client) :
    Ends last id (onTbcmEventHandle destroyers event round.callbacks round.answers (some client)) ↔
      Spares destroyers round last event client := by
  cases event with
  | connected => exact iff_of_true (ends_ok.mpr (by simp)) trivial
  | disconnected =>
    rcases onTbcmDisonnected_outcome hpending with ⟨hspares, hok⟩ | ⟨hnot, herror⟩
    · exact iff_of_true ⟨_, hok, by simp⟩ hspares
    · refine iff_of_false ?_ hnot
      rw [onTbcmEventHandle, herror]
      exact not_ends_error
  | checkTimeout =>
    by_cases hdue : client.lastCheckTimestamp + tbMqttTimeout + 2 ≤ client.core.now
    · rcases onTbcmCheckTimeout_outcome hdue with ⟨hspares, hok⟩ | ⟨hnot, herror⟩
      · exact iff_of_true ⟨_, hok, by simp⟩ fun _ => hspares
      · refine iff_of_false ?_ fun hspares => hnot (hspares hdue)
        rw [onTbcmEventHandle, herror]
        exact not_ends_error
    · exact iff_of_true ⟨_, onTbcmCheckTimeout_of_early hdue, by simp⟩ fun h => absurd h hdue
  | data data =>
    cases data with
    | response table requestId object =>
      cases object with
      | none => exact iff_of_true (ends_ok.mpr (by simp)) trivial
      | some object => exact tbcmhRequestOnData_ends_iff table requestId object _ client
    | sharedAttributes object =>
      cases object with
      | none => exact iff_of_true (ends_ok.mpr (by simp)) trivial
      | some object =>
        refine Iff.trans ?_ (updateEntries_ends_iff client.attributessubscribeList 0
          (SameOffers.refl client.ota))
        simp only [onTbcmEventHandle, onTbcmDataHandle, tbcmhAttributessubscribeOnData, client_bind]
        cases updateEntries destroyers object round.answers.update client.attributessubscribeList 0
          (some client) with
        | error crash => exact iff_of_false not_ends_error not_ends_error
        | ok answer => exact (ends_ok (f := id)).trans (ends_ok (f := Prod.snd)).symm
    | serverrpcRequest requestId object =>
      cases object with
      | none => exact iff_of_true (ends_ok.mpr (by simp)) trivial
      | some object => exact serverrpcRequest_ends_iff requestId object client
    | fwResponse requestId chunkId payload => exact iff_of_true (ends_ok.mpr (by simp)) trivial

/-! ## A client that is there behind an event -/

theorem liftFault_eq_ok {α : Type} {result : Except Fault α} {a : α} :
    liftFault result = .ok a ↔ result = .ok a := by
  cases result <;> simp [liftFault, Except.mapError]

/-- An `on_update` that left the client is the one of the helper; another returned 2. -/
theorem onUpdate_eq_ok {entry : Attributessubscribe} {object : Cjson} {answers : UpdateAnswers}
    {client : Client} {result : Int} {slot : Slot}
    (h : onUpdate destroyers entry object answers client = .ok (result, slot)) :
    result = 2 ∧ slot = none ∨ ∃ client', slot = some client' ∧
      ThingsboardMqtt.onUpdate entry object answers client = .ok (result, client') := by
  unfold onUpdate at h
  split at h
  · obtain ⟨rfl, rfl⟩ := Prod.mk.inj (Except.ok.inj h)
    exact .inl ⟨rfl, rfl⟩
  · obtain ⟨⟨result', client'⟩, hupdate, hok⟩ := exists_of_bind_eq_ok h
    obtain ⟨rfl, rfl⟩ := Prod.mk.inj (Except.ok.inj hok)
    exact .inr ⟨client', rfl, liftFault_eq_ok.mp hupdate⟩

theorem updateEntries_none {object : Cjson} {answers : UpdateAnswers}
    {entries : List Attributessubscribe} {start result : Int} {slot : Slot}
    (h : updateEntries destroyers object answers entries start none = .ok (result, slot)) :
    slot = none := by
  cases entries with
  | nil => exact (Prod.mk.inj (Except.ok.inj h)).2.symm
  | cons entry rest => exact absurd h (by simp [updateEntries, Slot.client, bind, Except.bind])

theorem updateEntries_eq_ok {object : Cjson} {answers : UpdateAnswers}
    {entries : List Attributessubscribe} {start result : Int} {client client' : Client}
    (h : updateEntries destroyers object answers entries start (some client)
      = .ok (result, some client')) :
    ThingsboardMqtt.updateEntries object answers entries start client = .ok (result, client') := by
  induction entries generalizing start client with
  | nil =>
    obtain ⟨rfl, hslot⟩ := Prod.mk.inj (Except.ok.inj h)
    rw [← Option.some.inj hslot]
    rfl
  | cons entry rest ih =>
    rw [updateEntries, client_bind] at h
    rw [ThingsboardMqtt.updateEntries]
    split at h
    · rename_i hkeyless
      obtain ⟨⟨answer, slot⟩, hupdate, hrest⟩ := exists_of_bind_eq_ok h
      rcases onUpdate_eq_ok hupdate with ⟨-, rfl⟩ | ⟨next, rfl, hplain⟩
      · exact absurd (updateEntries_none hrest) (by simp)
      · rw [if_pos hkeyless, hplain]
        exact ih hrest
    · rename_i hkeyed
      rw [if_neg hkeyed]
      split at h
      · rename_i hany
        obtain ⟨⟨answer, slot⟩, hupdate, hrest⟩ := exists_of_bind_eq_ok h
        rcases onUpdate_eq_ok hupdate with ⟨rfl, rfl⟩ | ⟨next, rfl, hplain⟩
        · exact absurd (Prod.mk.inj (Except.ok.inj hrest)).2 (by simp)
        · rw [if_pos hany, hplain]
          simp only [bind, Except.bind] at hrest ⊢
          split at hrest
          · rename_i htwo
            obtain ⟨rfl, hslot⟩ := Prod.mk.inj (Except.ok.inj hrest)
            rw [if_pos htwo, Option.some.inj hslot]
          · rename_i htwo
            rw [if_neg htwo]
            split at hrest
            · rename_i hone
              obtain ⟨rfl, hslot⟩ := Prod.mk.inj (Except.ok.inj hrest)
              rw [if_pos hone, Option.some.inj hslot]
            · rename_i hone
              rw [if_neg hone]
              exact ih hrest
      · rename_i hnone
        rw [if_neg hnone]
        exact ih h

theorem tbcmhRequestOnData_eq_ok {table : RequestTable} {requestId : Nat} {object : Option Cjson}
    {answers : OtaAnswers} {client client' : Client}
    (h : tbcmhRequestOnData destroyers table requestId object answers (some client)
      = .ok (some client')) :
    ThingsboardMqtt.tbcmhRequestOnData table requestId object answers client = .ok client' := by
  cases object with
  | none => exact congrArg Except.ok (Option.some.inj (Except.ok.inj h))
  | some object =>
    rw [tbcmhRequestOnData, client_bind] at h
    rw [ThingsboardMqtt.tbcmhRequestOnData]
    rcases hfound : splitFirst (table.isAnswered requestId) (client.requestList table) with
      _ | ⟨front, request, back⟩
    · rw [hfound] at h
      exact congrArg Except.ok (Option.some.inj (Except.ok.inj h))
    · rw [hfound] at h
      by_cases htable : table = .provision
      · subst htable
        obtain ⟨credentials, -, hresponse⟩ := exists_of_bind_eq_ok ((if_pos rfl).symm.trans h)
        split at hresponse
        · exact absurd (Except.ok.inj hresponse) (by simp)
        · obtain ⟨next, hplain, hok⟩ := exists_of_bind_eq_ok hresponse
          rw [← Option.some.inj (Except.ok.inj hok)]
          exact liftFault_eq_ok.mp hplain
      · obtain ⟨next, hplain, hok⟩ := exists_of_bind_eq_ok ((if_neg htable).symm.trans h)
        rw [← Option.some.inj (Except.ok.inj hok)]
        exact liftFault_eq_ok.mp hplain

theorem onTbcmDataHandle_eq_ok {data : TbcmPublishData} {answers : EventAnswers}
    {client client' : Client}
    (h : onTbcmDataHandle destroyers data answers (some client) = .ok (some client')) :
    ThingsboardMqtt.onTbcmDataHandle data answers client = .ok client' := by
  cases data with
  | response table requestId object => exact tbcmhRequestOnData_eq_ok h
  | sharedAttributes object =>
    obtain ⟨⟨result, slot⟩, hdata, hslot⟩ := exists_of_bind_eq_ok h
    obtain rfl := Except.ok.inj hslot
    have hplain : ThingsboardMqtt.tbcmhAttributessubscribeOnData object answers.update client
        = .ok (result, client') := by
      cases object with
      | none =>
        obtain ⟨rfl, hsame⟩ := Prod.mk.inj (Except.ok.inj hdata)
        rw [← Option.some.inj hsame]
        rfl
      | some object => exact updateEntries_eq_ok hdata
    simp only [ThingsboardMqtt.onTbcmDataHandle, hplain]
    rfl
  | serverrpcRequest requestId object =>
    rw [onTbcmDataHandle, client_bind] at h
    obtain ⟨next, hplain, hok⟩ := exists_of_bind_eq_ok h
    rw [← Option.some.inj (Except.ok.inj hok)]
    exact liftFault_eq_ok.mp hplain
  | fwResponse requestId chunkId payload =>
    exact congrArg Except.ok (Option.some.inj (Except.ok.inj h))

/-- Where the client is there behind an event, the helper did what it does without the slot. -/
theorem onTbcmEventHandle_eq_ok {event : TbcmEvent} {client client' : Client}
    (hpending : Pending destroyers client)
    (h : onTbcmEventHandle destroyers event round.callbacks round.answers (some client)
      = .ok (some client')) :
    ThingsboardMqtt.onTbcmEventHandle event round.callbacks round.answers client = .ok client' := by
  cases event with
  | connected => exact congrArg Except.ok (Option.some.inj (Except.ok.inj h))
  | disconnected =>
    rcases @onTbcmDisonnected_outcome destroyers round client hpending with
      ⟨-, hok⟩ | ⟨-, herror⟩
    · exact congrArg Except.ok (Option.some.inj (Except.ok.inj (hok.symm.trans h)))
    · exact absurd (herror.symm.trans h) (by simp)
  | data data => exact onTbcmDataHandle_eq_ok h
  | checkTimeout =>
    by_cases hdue : client.lastCheckTimestamp + tbMqttTimeout + 2 ≤ client.core.now
    · rcases @onTbcmCheckTimeout_outcome destroyers round client hdue with
        ⟨-, hok⟩ | ⟨-, herror⟩
      · exact congrArg Except.ok (Option.some.inj (Except.ok.inj (hok.symm.trans h)))
      · exact absurd (herror.symm.trans h) (by simp)
    · rw [onTbcmEventHandle, onTbcmCheckTimeout_of_early hdue] at h
      rw [← Option.some.inj (Except.ok.inj h)]
      exact congrArg Except.ok (if_pos (Nat.lt_of_not_le hdue))

end Watched

end ThingsboardMqtt
