import ThingsboardMqtt.Library.OwnedSlots
import ThingsboardMqtt.Wapper.TransportConfig

set_option autoImplicit false

/-! # The copy of a transport configuration

`tbc_transport_storage.c`: the wrapper and the helper each keep a copy of the configuration they are
connected with. `tbc_transport_storage_fill_from_config` copies what is not `NULL` and does not look at
what the record has; `tbc_transport_storage_free_fields` frees it all. So a copy into a record that was
not freed keeps the fields the configuration lacks, and loses the buffers of those it has. -/

namespace ThingsboardMqtt

open LiveBuffers OwnedSlots

/-- The pointers of `tbc_transport_storage_t`. -/
inductive TransportField
  | schema
  | host
  | path
  | clientId
  | username
  | password
  | token
  | certPem
  | clientCertPem
  | clientKeyPem
  | clientKeyPassword
  deriving DecidableEq, Repr

/-- What a copy holds: a text up to its `NUL`, or as many bytes behind a pointer as its length says. -/
inductive CopiedText
  | string (text : String)
  | bytes (text : String) (size : Nat)
  deriving DecidableEq, Repr

/-- `tbc_transport_config_t` with its `log_rxtx_package`. -/
structure LoggedTransportConfig extends TbcTransportConfig where
  logRxtxPackage : Bool
  deriving DecidableEq, Repr

/-- `tbc_transport_storage_t`, where `pointers` is what its pointers are or what they lead to. -/
structure TbcTransportStorage (pointer : Type) where
  pointers : TransportField → Option pointer
  port : Nat
  type : TbcTransportCredentialsType
  certLen : Nat
  skipCertCommonNameCheck : Bool
  clientCertLen : Nat
  clientKeyLen : Nat
  clientKeyPasswordLen : Nat
  logRxtxPackage : Bool

/-- A record of zeros, and what `tbc_transport_storage_free_fields` leaves. -/
def TbcTransportStorage.zero {pointer : Type} : TbcTransportStorage pointer where
  pointers := fun _ => none
  port := 0
  type := .none
  certLen := 0
  skipCertCommonNameCheck := false
  clientCertLen := 0
  clientKeyLen := 0
  clientKeyPasswordLen := 0
  logRxtxPackage := false

/-- `TBC_FIELD_MEMDUP` where there is a length, `TBC_FIELD_STRDUP` where there is none. -/
def memdupOrStrdup (text : Option String) (len : Nat) : Option CopiedText :=
  if len > 0 then text.map fun text => .bytes text len else text.map .string

/-- What is copied into a field. -/
def TransportField.source (config : TbcTransportConfig) : TransportField → Option CopiedText
  | .schema => config.address.schema.map .string
  | .host => config.address.host.map .string
  | .path => config.address.path.map .string
  | .clientId => config.credentials.clientId.map .string
  | .username => config.credentials.username.map .string
  | .password => config.credentials.password.map .string
  | .token => config.credentials.token.map .string
  | .certPem => memdupOrStrdup config.verification.certPem config.verification.certLen
  | .clientCertPem =>
    memdupOrStrdup config.authentication.clientCertPem config.authentication.clientCertLen
  | .clientKeyPem =>
    memdupOrStrdup config.authentication.clientKeyPem config.authentication.clientKeyLen
  | .clientKeyPassword =>
    memdupOrStrdup config.authentication.clientKeyPassword
      config.authentication.clientKeyPasswordLen

/-- A record with its pointers. -/
abbrev StoredTransport := TbcTransportStorage (OwnedBlock CopiedText)

/-- The fields in the order they are filled and freed. -/
def addressFields : List TransportField := [.schema, .host, .path]

def credentialsFields : List TransportField := [.clientId, .username, .password, .token]

def verificationFields : List TransportField := [.certPem]

def authenticationFields : List TransportField := [.clientCertPem, .clientKeyPem, .clientKeyPassword]

def transportFields : List TransportField :=
  addressFields ++ credentialsFields ++ verificationFields ++ authenticationFields

theorem mem_transportFields (field : TransportField) : field ∈ transportFields := by
  cases field <;> decide

theorem nodup_transportFields : transportFields.Nodup := by decide

/-! ## The C functions -/

section Fill

variable (allocated : TransportField → Bool) (config : TbcTransportConfig) (storage : StoredTransport)
  (blocks : Blocks)

/-- `_transport_address_storage_fill_from_config` -/
def transportAddressStorageFillFromConfig : StoredTransport × Blocks :=
  let (pointers, blocks) := fill (·.source config) allocated addressFields storage.pointers blocks
  ({ storage with pointers := pointers, port := config.address.port }, blocks)

/-- `_transport_credentials_storage_fill_from_config` -/
def transportCredentialsStorageFillFromConfig : StoredTransport × Blocks :=
  let (pointers, blocks) := fill (·.source config) allocated credentialsFields storage.pointers blocks
  ({ storage with type := config.credentials.type, pointers := pointers }, blocks)

/-- `_transport_verification_storage_fill_from_config` -/
def transportVerificationStorageFillFromConfig : StoredTransport × Blocks :=
  let (pointers, blocks) := fill (·.source config) allocated verificationFields storage.pointers blocks
  ({ storage with
      pointers := pointers
      certLen := config.verification.certLen
      skipCertCommonNameCheck := config.verification.skipCertCommonNameCheck }, blocks)

/-- `_transport_authentication_storage_fill_from_config` -/
def transportAuthenticationStorageFillFromConfig : StoredTransport × Blocks :=
  let (pointers, blocks) := fill (·.source config) allocated authenticationFields storage.pointers
    blocks
  ({ storage with
      pointers := pointers
      clientCertLen := config.authentication.clientCertLen
      clientKeyLen := config.authentication.clientKeyLen
      clientKeyPasswordLen := config.authentication.clientKeyPasswordLen }, blocks)

end Fill

/-- `tbc_transport_storage_fill_from_config`, where the allocator's answers decide what is copied. -/
def tbcTransportStorageFillFromConfig (allocated : TransportField → Bool)
    (config : LoggedTransportConfig) (storage : StoredTransport) (blocks : Blocks) :
    StoredTransport × Blocks :=
  let transport := config.toTbcTransportConfig
  let (storage, blocks) := transportAddressStorageFillFromConfig allocated transport storage blocks
  let (storage, blocks) :=
    transportCredentialsStorageFillFromConfig allocated transport storage blocks
  let (storage, blocks) :=
    transportVerificationStorageFillFromConfig allocated transport storage blocks
  let (storage, blocks) :=
    transportAuthenticationStorageFillFromConfig allocated transport storage blocks
  ({ storage with logRxtxPackage := config.logRxtxPackage }, blocks)

section Free

variable (storage : StoredTransport) (blocks : Blocks)

/-- `_transport_address_storage_free_fields` -/
def transportAddressStorageFreeFields : Except BufferFault (StoredTransport × Blocks) := do
  let (pointers, blocks) ← clear addressFields storage.pointers blocks
  .ok ({ storage with pointers := pointers, port := 0 }, blocks)

/-- `_transport_credentials_storage_free_fields` -/
def transportCredentialsStorageFreeFields : Except BufferFault (StoredTransport × Blocks) := do
  let (pointers, blocks) ← clear credentialsFields storage.pointers blocks
  .ok ({ storage with type := .none, pointers := pointers }, blocks)

/-- `_transport_verification_storage_free_fields` -/
def transportVerificationStorageFreeFields : Except BufferFault (StoredTransport × Blocks) := do
  let (pointers, blocks) ← clear verificationFields storage.pointers blocks
  .ok ({ storage with pointers := pointers, certLen := 0, skipCertCommonNameCheck := false }, blocks)

/-- `_transport_authentication_storage_free_fields` -/
def transportAuthenticationStorageFreeFields : Except BufferFault (StoredTransport × Blocks) := do
  let (pointers, blocks) ← clear authenticationFields storage.pointers blocks
  .ok ({ storage with
    pointers := pointers
    clientCertLen := 0
    clientKeyLen := 0
    clientKeyPasswordLen := 0 }, blocks)

/-- `tbc_transport_storage_free_fields` -/
def tbcTransportStorageFreeFields : Except BufferFault (StoredTransport × Blocks) := do
  let (storage, blocks) ← transportAddressStorageFreeFields storage blocks
  let (storage, blocks) ← transportCredentialsStorageFreeFields storage blocks
  let (storage, blocks) ← transportVerificationStorageFreeFields storage blocks
  let (storage, blocks) ← transportAuthenticationStorageFreeFields storage blocks
  .ok ({ storage with logRxtxPackage := false }, blocks)

end Free

/-! ## What they do -/

/-- A configuration that is copied, with the allocator's answers. -/
structure CopiedConfig where
  config : LoggedTransportConfig
  allocated : TransportField → Bool

/-- A record over what it had: the fields that the configuration has are its own, or `NULL` where they
    could not be copied. -/
def CopiedConfig.over (copied : CopiedConfig) (below : TbcTransportStorage CopiedText) :
    TbcTransportStorage CopiedText where
  pointers := fun field =>
    if (field.source copied.config.toTbcTransportConfig).isSome then
      if copied.allocated field then field.source copied.config.toTbcTransportConfig else none
    else below.pointers field
  port := copied.config.address.port
  type := copied.config.credentials.type
  certLen := copied.config.verification.certLen
  skipCertCommonNameCheck := copied.config.verification.skipCertCommonNameCheck
  clientCertLen := copied.config.authentication.clientCertLen
  clientKeyLen := copied.config.authentication.clientKeyLen
  clientKeyPasswordLen := copied.config.authentication.clientKeyPasswordLen
  logRxtxPackage := copied.config.logRxtxPackage

namespace TbcTransportStorage

/-- What the pointers of a record lead to. -/
def contents (storage : StoredTransport) : TbcTransportStorage CopiedText :=
  { storage with pointers := content storage.pointers }

/-- The buffers of a record. -/
def buffers (storage : StoredTransport) : Multiset Nat := owned storage.pointers transportFields

theorem buffers_zero : (zero : StoredTransport).buffers = 0 := owned_eq_zero fun _ _ => rfl

end TbcTransportStorage

section Copies

open TbcTransportStorage

variable {storage : StoredTransport} {blocks : Blocks} {others : Multiset Nat}

theorem tbcTransportStorageFill_eq (allocated : TransportField → Bool)
    (config : LoggedTransportConfig) (storage : StoredTransport) (blocks : Blocks) :
    let filled := fill (·.source config.toTbcTransportConfig) allocated transportFields
      storage.pointers blocks
    tbcTransportStorageFillFromConfig allocated config storage blocks
      = ({ pointers := filled.1
           port := config.address.port
           type := config.credentials.type
           certLen := config.verification.certLen
           skipCertCommonNameCheck := config.verification.skipCertCommonNameCheck
           clientCertLen := config.authentication.clientCertLen
           clientKeyLen := config.authentication.clientKeyLen
           clientKeyPasswordLen := config.authentication.clientKeyPasswordLen
           logRxtxPackage := config.logRxtxPackage }, filled.2) := by
  simp only [tbcTransportStorageFillFromConfig, transportAddressStorageFillFromConfig,
    transportCredentialsStorageFillFromConfig, transportVerificationStorageFillFromConfig,
    transportAuthenticationStorageFillFromConfig, transportFields, fill_append]

/-- A copy keeps the account of the buffers, lays the configuration over what the record had, and loses
    the buffers of the fields that the configuration has. -/
theorem tbcTransportStorageFill_keeps
    (h : Accounts blocks.heap (storage.buffers + (blocks.lost + others))) (copied : CopiedConfig) :
    let filled := tbcTransportStorageFillFromConfig copied.allocated copied.config storage blocks
    Accounts filled.2.heap (filled.1.buffers + (filled.2.lost + others)) ∧
      filled.1.contents = copied.over storage.contents ∧
      filled.2.lost = blocks.lost + owned storage.pointers (transportFields.filter fun field =>
        (field.source copied.config.toTbcTransportConfig).isSome) := by
  simp only [tbcTransportStorageFill_eq]
  refine ⟨?_, ?_, ?_⟩
  · exact Keeps.fill h nodup_transportFields (List.Subset.refl _) _ copied.allocated
  · simp only [contents, CopiedConfig.over, TbcTransportStorage.mk.injEq, and_true]
    funext field
    rw [fill_content transportFields nodup_transportFields]
    simp only [mem_transportFields, true_and]
  · exact fill_lost transportFields nodup_transportFields storage.pointers blocks

theorem tbcTransportStorageFree_eq (storage : StoredTransport) (blocks : Blocks) :
    tbcTransportStorageFreeFields storage blocks
      = (clear transportFields storage.pointers blocks).map fun cleared =>
          ({ (.zero : StoredTransport) with pointers := cleared.1 }, cleared.2) := by
  simp only [tbcTransportStorageFreeFields, transportAddressStorageFreeFields,
    transportCredentialsStorageFreeFields, transportVerificationStorageFreeFields,
    transportAuthenticationStorageFreeFields, transportFields, clear_append, bind, Except.bind]
  cases clear addressFields storage.pointers blocks with
  | error fault => rfl
  | ok addressed =>
    dsimp only
    cases clear credentialsFields addressed.1 addressed.2 with
    | error fault => rfl
    | ok credited =>
      dsimp only
      cases clear verificationFields credited.1 credited.2 with
      | error fault => rfl
      | ok verified =>
        dsimp only
        cases clear authenticationFields verified.1 verified.2 with
        | error fault => rfl
        | ok authenticated => rfl

/-- A record is freed, each buffer once, and is a record of zeros. -/
theorem tbcTransportStorageFreeFields_keeps
    (h : Accounts blocks.heap (storage.buffers + (blocks.lost + others))) :
    ∃ heap, tbcTransportStorageFreeFields storage blocks
        = .ok (.zero, { blocks with heap := heap }) ∧
      Accounts heap (blocks.lost + others) := by
  obtain ⟨slots, blocks', hclear, hkeeps, hlost, hslots⟩ :=
    Keeps.clear h nodup_transportFields (List.Subset.refl _)
  have hnone : slots = fun _ => none := by
    funext field
    rw [hslots field, if_pos (mem_transportFields field)]
  have hblocks : blocks' = { blocks with heap := blocks'.heap } := by rw [← hlost]
  refine ⟨blocks'.heap, ?_, ?_⟩
  · rw [tbcTransportStorageFree_eq, hclear, hnone, ← hblocks]
    rfl
  · rw [Keeps, hlost, owned_eq_zero fun field _ => by rw [hnone], Multiset.zero_add] at hkeeps
    exact hkeeps

end Copies

end ThingsboardMqtt
