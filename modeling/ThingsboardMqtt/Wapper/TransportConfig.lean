import ThingsboardMqtt.Ota.Fwupdate
import ThingsboardMqtt.Wapper.Connection

set_option autoImplicit false

/-! # Transport configurations that are rejected

`_tbc_transport_config_fill_to_mqtt_client_config` checks a transport configuration while it copies
it, and returns `NULL` at the first thing that is wrong. What it has copied by then stays in the
configuration of the esp-mqtt client. `tbcm_connect` does not look at the result, so the half-filled
configuration is what it starts a client with, unless esp-mqtt refuses it. -/

namespace ThingsboardMqtt

/-! ## Configurations -/

/-- `tbc_transport_address_config_t` -/
structure TbcTransportAddressConfig where
  schema : Option String
  host : Option String
  port : Nat
  path : Option String
  deriving DecidableEq, Repr

/-- `tbc_transport_credentials_type_t`; `other` is a value that is none of the enumeration's. -/
inductive TbcTransportCredentialsType
  | none
  | accessToken
  | basicMqtt
  | x509
  | other (value : Nat)
  deriving DecidableEq, Repr

/-- `tbc_transport_credentials_config_t` -/
structure TbcTransportCredentialsConfig where
  type : TbcTransportCredentialsType
  clientId : Option String
  username : Option String
  password : Option String
  token : Option String
  deriving DecidableEq, Repr

/-- `tbc_transport_verification_config_t` -/
structure TbcTransportVerificationConfig where
  certPem : Option String
  certLen : Nat
  skipCertCommonNameCheck : Bool
  deriving DecidableEq, Repr

/-- `tbc_transport_authentication_config_t` -/
structure TbcTransportAuthenticationConfig where
  clientCertPem : Option String
  clientCertLen : Nat
  clientKeyPem : Option String
  clientKeyLen : Nat
  clientKeyPassword : Option String
  clientKeyPasswordLen : Nat
  deriving DecidableEq, Repr

/-- `tbc_transport_config_t` -/
structure TbcTransportConfig where
  address : TbcTransportAddressConfig
  credentials : TbcTransportCredentialsConfig
  verification : TbcTransportVerificationConfig
  authentication : TbcTransportAuthenticationConfig
  deriving DecidableEq, Repr

/-- `esp_mqtt_transport_t` -/
inductive EspMqttTransport
  | unknown
  | overTcp
  | overSsl
  | overWs
  | overWss
  deriving DecidableEq, Repr

/-- The fields of `esp_mqtt_client_config_t` that are filled. -/
structure EspMqttClientConfig where
  transport : EspMqttTransport
  host : Option String
  port : Nat
  path : Option String
  clientId : Option String
  username : Option String
  password : Option String
  certPem : Option String
  certLen : Nat
  skipCertCommonNameCheck : Bool
  clientCertPem : Option String
  clientCertLen : Nat
  clientKeyPem : Option String
  clientKeyLen : Nat
  clientkeyPassword : Option String
  clientkeyPasswordLen : Nat
  deriving DecidableEq, Repr

/-- `esp_mqtt_client_config_t mqtt_cfg = {0}` -/
def EspMqttClientConfig.zero : EspMqttClientConfig where
  transport := .unknown
  host := none
  port := 0
  path := none
  clientId := none
  username := none
  password := none
  certPem := none
  certLen := 0
  skipCertCommonNameCheck := false
  clientCertPem := none
  clientCertLen := 0
  clientKeyPem := none
  clientKeyLen := 0
  clientkeyPassword := none
  clientkeyPasswordLen := 0

/-- What keeps a configuration from being filled: `strcmp` gets `NULL`, or the function returns `NULL`
    and leaves what it has filled. -/
inductive FillStop
  | fault (fault : Fault)
  | null (mqttConfig : EspMqttClientConfig)
  deriving DecidableEq, Repr

/-- The `mqtt_config->transport` and the `mqtt_config->port` of a schema, and `tlsEnabled`. -/
def schemaTransport (schema : String) : Option (EspMqttTransport × Nat × Bool) :=
  if schema = "mqtt" then some (.overTcp, 1883, false)
  else if schema = "mqtts" then some (.overSsl, 8883, true)
  else if schema = "ws" then some (.overWs, 80, false)
  else if schema = "wss" then some (.overWss, 443, true)
  else none

/-- The part `address`; it returns `tlsEnabled` too. -/
def fillAddress (address : TbcTransportAddressConfig) (mqttConfig : EspMqttClientConfig) :
    Except FillStop (Bool × EspMqttClientConfig) :=
  match address.schema with
  | none => .error (.fault .nullString)
  | some schema =>
    match schemaTransport schema with
    | none => .error (.null mqttConfig)
    | some (transport, port, tlsEnabled) =>
      let mqttConfig := { mqttConfig with transport := transport, port := port }
      match address.host with
      | none => .error (.null mqttConfig)
      | some host =>
        .ok (tlsEnabled,
          { mqttConfig with
            host := some host
            port := if address.port ≠ 0 then address.port else port
            path := address.path <|> mqttConfig.path })

/-- The part `credentials` -/
def fillCredentials (credentials : TbcTransportCredentialsConfig) (tlsEnabled : Bool)
    (mqttConfig : EspMqttClientConfig) : Except FillStop EspMqttClientConfig :=
  match credentials.type with
  | .none => .ok { mqttConfig with username := credentials.username }
  | .accessToken =>
    if credentials.token = none then .error (.null mqttConfig)
    else .ok { mqttConfig with username := credentials.token }
  | .basicMqtt =>
    if credentials.clientId = none ∧ credentials.username = none then .error (.null mqttConfig)
    else
      .ok { mqttConfig with
        clientId := credentials.clientId
        username := credentials.username
        password := credentials.password }
  | .x509 => if tlsEnabled then .ok mqttConfig else .error (.null mqttConfig)
  | .other _ => .error (.null mqttConfig)

/-- The part `authentication` -/
def fillAuthentication (transport : TbcTransportConfig) (tlsEnabled : Bool)
    (mqttConfig : EspMqttClientConfig) : Except FillStop EspMqttClientConfig :=
  if tlsEnabled then
    if transport.verification.certPem = none then .error (.null mqttConfig)
    else
      let mqttConfig :=
        { mqttConfig with
          certPem := transport.verification.certPem
          certLen := transport.verification.certLen
          skipCertCommonNameCheck := transport.verification.skipCertCommonNameCheck }
      if transport.credentials.type = .x509 then
        if transport.authentication.clientCertPem = none then .error (.null mqttConfig)
        else if transport.authentication.clientKeyPem = none then .error (.null mqttConfig)
        else
          .ok { mqttConfig with
            clientCertPem := transport.authentication.clientCertPem
            clientCertLen := transport.authentication.clientCertLen
            clientKeyPem := transport.authentication.clientKeyPem
            clientKeyLen := transport.authentication.clientKeyLen
            clientkeyPassword := transport.authentication.clientKeyPassword
            clientkeyPasswordLen := transport.authentication.clientKeyPasswordLen }
      else .ok mqttConfig
  else .ok mqttConfig

/-- `_tbc_transport_config_fill_to_mqtt_client_config` -/
def tbcTransportConfigFillToMqttClientConfig (transport : TbcTransportConfig)
    (mqttConfig : EspMqttClientConfig) : Except FillStop EspMqttClientConfig := do
  let (tlsEnabled, mqttConfig) ← fillAddress transport.address mqttConfig
  let mqttConfig ← fillCredentials transport.credentials tlsEnabled mqttConfig
  fillAuthentication transport tlsEnabled mqttConfig

/-! ## What is rejected -/

/-- The schemas that are known. -/
def IsSchema (schema : String) : Prop :=
  schema = "mqtt" ∨ schema = "mqtts" ∨ schema = "ws" ∨ schema = "wss"

/-- The schemas with TLS. -/
def TlsSchema (schema : String) : Prop := schema = "mqtts" ∨ schema = "wss"

/-- Everything for which a transport configuration is rejected. -/
inductive Rejected (transport : TbcTransportConfig) (schema : String) : Prop
  | schema (h : ¬ IsSchema schema)
  | host (h : transport.address.host = none)
  | token (h : transport.credentials.type = .accessToken ∧ transport.credentials.token = none)
  | basicMqtt (h : transport.credentials.type = .basicMqtt ∧
      transport.credentials.clientId = none ∧ transport.credentials.username = none)
  | x509 (h : transport.credentials.type = .x509 ∧ ¬ TlsSchema schema)
  | type (h : ∃ value, transport.credentials.type = .other value)
  | certPem (h : TlsSchema schema ∧ transport.verification.certPem = none)
  | clientCertPem (h : transport.credentials.type = .x509 ∧
      transport.authentication.clientCertPem = none)
  | clientKeyPem (h : transport.credentials.type = .x509 ∧
      transport.authentication.clientKeyPem = none)

theorem schemaTransport_eq_none {schema : String} :
    schemaTransport schema = none ↔ ¬ IsSchema schema := by
  unfold schemaTransport IsSchema
  split_ifs <;> simp_all

theorem schemaTransport_eq_some {schema : String} {transport : EspMqttTransport} {port : Nat}
    {tlsEnabled : Bool} (h : schemaTransport schema = some (transport, port, tlsEnabled)) :
    IsSchema schema ∧ (tlsEnabled = true ↔ TlsSchema schema) := by
  unfold schemaTransport at h
  unfold IsSchema TlsSchema
  split_ifs at h <;> simp_all

theorem fillAddress_cases {address : TbcTransportAddressConfig} {schema : String}
    (hschema : address.schema = some schema) (mqttConfig : EspMqttClientConfig) :
    ((¬ IsSchema schema ∨ address.host = none) ∧
        ∃ half, fillAddress address mqttConfig = .error (.null half)) ∨
      (IsSchema schema ∧ address.host ≠ none) ∧ ∃ tlsEnabled filled,
        fillAddress address mqttConfig = .ok (tlsEnabled, filled) ∧
          (tlsEnabled = true ↔ TlsSchema schema) := by
  simp only [fillAddress, hschema]
  cases htransport : schemaTransport schema with
  | none => exact .inl ⟨.inl (schemaTransport_eq_none.mp htransport), _, rfl⟩
  | some result =>
    obtain ⟨transport, port, tlsEnabled⟩ := result
    obtain ⟨hknown, htls⟩ := schemaTransport_eq_some htransport
    cases hhost : address.host with
    | none => exact .inl ⟨.inr rfl, _, rfl⟩
    | some host => exact .inr ⟨⟨hknown, by simp⟩, _, _, rfl, htls⟩

/-- What is wrong with the credentials. -/
def BadCredentials (credentials : TbcTransportCredentialsConfig) (tlsEnabled : Bool) : Prop :=
  credentials.type = .accessToken ∧ credentials.token = none ∨
    credentials.type = .basicMqtt ∧ credentials.clientId = none ∧ credentials.username = none ∨
    credentials.type = .x509 ∧ tlsEnabled = false ∨
    ∃ value, credentials.type = .other value

theorem fillCredentials_cases (credentials : TbcTransportCredentialsConfig) (tlsEnabled : Bool)
    (mqttConfig : EspMqttClientConfig) :
    (BadCredentials credentials tlsEnabled ∧
        ∃ half, fillCredentials credentials tlsEnabled mqttConfig = .error (.null half)) ∨
      ¬ BadCredentials credentials tlsEnabled ∧
        ∃ filled, fillCredentials credentials tlsEnabled mqttConfig = .ok filled := by
  unfold fillCredentials BadCredentials
  cases htype : credentials.type with
  | none => exact .inr ⟨by simp, _, rfl⟩
  | accessToken =>
    by_cases htoken : credentials.token = none
    · exact .inl ⟨by simp [htoken], _, if_pos htoken⟩
    · exact .inr ⟨by simp [htoken], _, if_neg htoken⟩
  | basicMqtt =>
    by_cases hnames : credentials.clientId = none ∧ credentials.username = none
    · exact .inl ⟨by simp [hnames], _, if_pos hnames⟩
    · exact .inr ⟨by simpa using hnames, _, if_neg hnames⟩
  | x509 =>
    cases tlsEnabled with
    | true => exact .inr ⟨by simp, _, rfl⟩
    | false => exact .inl ⟨by simp, _, rfl⟩
  | other value => exact .inl ⟨by simp, _, rfl⟩

/-- What is missing of the certificates. -/
def MissingCertificate (transport : TbcTransportConfig) : Prop :=
  transport.verification.certPem = none ∨
    transport.credentials.type = .x509 ∧
      (transport.authentication.clientCertPem = none ∨
        transport.authentication.clientKeyPem = none)

theorem fillAuthentication_cases (transport : TbcTransportConfig) (tlsEnabled : Bool)
    (mqttConfig : EspMqttClientConfig) :
    ((tlsEnabled = true ∧ MissingCertificate transport) ∧
        ∃ half, fillAuthentication transport tlsEnabled mqttConfig = .error (.null half)) ∨
      ¬ (tlsEnabled = true ∧ MissingCertificate transport) ∧
        ∃ filled, fillAuthentication transport tlsEnabled mqttConfig = .ok filled := by
  unfold fillAuthentication MissingCertificate
  cases tlsEnabled with
  | false => exact .inr ⟨by simp, _, rfl⟩
  | true =>
    by_cases hcert : transport.verification.certPem = none
    · exact .inl ⟨by simp [hcert], _, by simp [hcert]; rfl⟩
    by_cases hx509 : transport.credentials.type = .x509
    · by_cases hclientCert : transport.authentication.clientCertPem = none
      · exact .inl ⟨by simp [hx509, hclientCert], _, by simp [hcert, hx509, hclientCert]; rfl⟩
      by_cases hclientKey : transport.authentication.clientKeyPem = none
      · exact .inl ⟨by simp [hx509, hclientKey], _, by
          simp [hcert, hx509, hclientCert, hclientKey]; rfl⟩
      · exact .inr ⟨by simp [hcert, hclientCert, hclientKey], _, by
          simp [hcert, hx509, hclientCert, hclientKey]; rfl⟩
    · exact .inr ⟨by simp [hcert, hx509], _, by simp [hcert, hx509]; rfl⟩

/-- A configuration with a schema is filled, or it is rejected and `NULL` is returned. -/
theorem fill_cases {transport : TbcTransportConfig} {schema : String}
    (hschema : transport.address.schema = some schema) (mqttConfig : EspMqttClientConfig) :
    (Rejected transport schema ∧ ∃ half,
        tbcTransportConfigFillToMqttClientConfig transport mqttConfig = .error (.null half)) ∨
      ¬ Rejected transport schema ∧ ∃ filled,
        tbcTransportConfigFillToMqttClientConfig transport mqttConfig = .ok filled := by
  unfold tbcTransportConfigFillToMqttClientConfig
  obtain ⟨hbad, half, haddress⟩ | ⟨⟨hknown, hhost⟩, tlsEnabled, addressed, haddress, htls⟩ :=
    fillAddress_cases hschema mqttConfig
  · left
    refine ⟨?_, half, by rw [haddress]; rfl⟩
    obtain hunknown | hhost := hbad
    · exact .schema hunknown
    · exact .host hhost
  obtain ⟨hbad, half, hcredentials⟩ | ⟨hgood, credited, hcredentials⟩ :=
    fillCredentials_cases transport.credentials tlsEnabled addressed
  · left
    refine ⟨?_, half, by rw [haddress]; simp [bind, Except.bind, hcredentials]⟩
    obtain htoken | hnames | ⟨hx509, hplain⟩ | hother := hbad
    · exact .token htoken
    · exact .basicMqtt hnames
    · exact .x509 ⟨hx509, fun hschema => by simp [htls.mpr hschema] at hplain⟩
    · exact .type hother
  obtain ⟨⟨htrue, hmissing⟩, half, hauthentication⟩ | ⟨hcomplete, filled, hauthentication⟩ :=
    fillAuthentication_cases transport tlsEnabled credited
  · left
    refine ⟨?_, half, by rw [haddress]; simp [bind, Except.bind, hcredentials, hauthentication]⟩
    obtain hcert | ⟨hx509, hcert | hkey⟩ := hmissing
    · exact .certPem ⟨htls.mp htrue, hcert⟩
    · exact .clientCertPem ⟨hx509, hcert⟩
    · exact .clientKeyPem ⟨hx509, hkey⟩
  · right
    refine ⟨?_, filled, by rw [haddress]; simp [bind, Except.bind, hcredentials, hauthentication]⟩
    -- X.509 credentials are good with TLS only, so the certificates were looked at
    have hx509 : transport.credentials.type = .x509 → tlsEnabled = true := by
      intro htype
      by_contra hplain
      exact hgood (.inr (.inr (.inl ⟨htype, by simpa using hplain⟩)))
    intro hrejected
    cases hrejected with
    | schema h => exact h hknown
    | host h => exact hhost h
    | token h => exact hgood (.inl h)
    | basicMqtt h => exact hgood (.inr (.inl h))
    | x509 h => exact h.2 (htls.mp (hx509 h.1))
    | type h => exact hgood (.inr (.inr (.inr h)))
    | certPem h => exact hcomplete ⟨htls.mpr h.1, .inl h.2⟩
    | clientCertPem h => exact hcomplete ⟨hx509 h.1, .inr ⟨h.1, .inl h.2⟩⟩
    | clientKeyPem h => exact hcomplete ⟨hx509 h.1, .inr ⟨h.1, .inr h.2⟩⟩

/-! ## What is done with a rejected configuration -/

/-- Whether `esp_mqtt_client_init` returns a handle for a configuration, and whether
    `esp_mqtt_client_start` succeeds for it. -/
structure EspMqtt where
  inits : EspMqttClientConfig → Bool
  starts : EspMqttClientConfig → Bool

/-- A call of esp-mqtt that `tbcm_connect` makes, with the handle or `NULL` it returns, or whether it
    succeeds. -/
inductive EspMqttCall
  | clientInit (mqttCfg : EspMqttClientConfig) (handle : Option Nat)
  | clientStart (handle : Option Nat) (ok : Bool)
  deriving DecidableEq, Repr

/-- `tbcm_connect` without events in between, on a configuration that is not `NULL`, with the calls it
    makes. -/
def Tbcm.tbcmConnect (espMqtt : EspMqtt) (config : TbcTransportConfig) (onEvent : Option TbcmOnEvent)
    (client : Tbcm) : Except Fault (Bool × List EspMqttCall × Tbcm) :=
  let client := client.connect onEvent
  match tbcTransportConfigFillToMqttClientConfig config .zero with
  | .error (.fault fault) => .error fault
  -- the result is not looked at
  | .error (.null mqttCfg) | .ok mqttCfg =>
    let client := client.clientInit (espMqtt.inits mqttCfg) onEvent
    let calls := [.clientInit mqttCfg client.mqttHandle]
    if client.mqttHandle = none then .ok (false, calls, client)
    else
      let calls := calls ++ [.clientStart client.mqttHandle (espMqtt.starts mqttCfg)]
      let client := client.clientStart (espMqtt.starts mqttCfg) onEvent
      if espMqtt.starts mqttCfg then .ok (true, calls, client.connectReturn onEvent)
      else .ok (false, calls, client)

/-- The configuration that esp-mqtt is handed. -/
def handedConfig (config : TbcTransportConfig) : Option EspMqttClientConfig :=
  match tbcTransportConfigFillToMqttClientConfig config .zero with
  | .error (.fault _) => none
  | .error (.null mqttCfg) | .ok mqttCfg => some mqttCfg

/-- esp-mqtt makes no running client of a configuration. -/
def EspMqtt.Refuses (espMqtt : EspMqtt) (mqttCfg : EspMqttClientConfig) : Prop :=
  espMqtt.inits mqttCfg = false ∨ espMqtt.starts mqttCfg = false

/-- When the configuration is rejected, `tbcm_connect` returns `false`, no client is started, and there
    is neither a connection nor a handle. -/
def RejectedNeverConnects (espMqtt : EspMqtt) (config : TbcTransportConfig)
    (onEvent : Option TbcmOnEvent) (client : Tbcm) : Prop :=
  ∀ half, tbcTransportConfigFillToMqttClientConfig config .zero = .error (.null half) →
    ∃ calls client', Tbcm.tbcmConnect espMqtt config onEvent client = .ok (false, calls, client') ∧
      client'.started = client.started ∧ client'.state = .disconnected ∧
      client'.mqttHandle = none

/-- The calls that start a client of a configuration. -/
def startCalls (mqttCfg : EspMqttClientConfig) (handle : Nat) : List EspMqttCall :=
  [.clientInit mqttCfg (some handle), .clientStart (some handle) true]

/-- What `tbcm_connect` does with a configuration it was handed a result for. -/
theorem Tbcm.tbcmConnect_of_handed {config : TbcTransportConfig} {mqttCfg : EspMqttClientConfig}
    (h : handedConfig config = some mqttCfg) (espMqtt : EspMqtt) (onEvent : Option TbcmOnEvent)
    (client : Tbcm) :
    ∃ returned calls client',
      Tbcm.tbcmConnect espMqtt config onEvent client = .ok (returned, calls, client') ∧
      (espMqtt.Refuses mqttCfg ∧ returned = false ∧ client'.started = client.started ∧
          client'.state = .disconnected ∧ client'.mqttHandle = none ∨
        ¬ espMqtt.Refuses mqttCfg ∧ returned = true ∧ ∃ handle, calls = startCalls mqttCfg handle ∧
          client'.started = client.started ++ [handle]) := by
  have hhanded : Tbcm.tbcmConnect espMqtt config onEvent client
      = (let client := (client.connect onEvent).clientInit (espMqtt.inits mqttCfg) onEvent
        let calls := [.clientInit mqttCfg client.mqttHandle]
        if client.mqttHandle = none then .ok (false, calls, client)
        else
          let calls := calls ++ [.clientStart client.mqttHandle (espMqtt.starts mqttCfg)]
          let client := client.clientStart (espMqtt.starts mqttCfg) onEvent
          if espMqtt.starts mqttCfg then .ok (true, calls, client.connectReturn onEvent)
          else .ok (false, calls, client)) := by
    unfold handedConfig at h
    unfold Tbcm.tbcmConnect
    split at h
    · contradiction
    · obtain rfl := Option.some.inj h
      simp [*]
    · obtain rfl := Option.some.inj h
      simp [*]
  rw [hhanded]
  cases hinits : espMqtt.inits mqttCfg with
  | false => exact ⟨_, _, _, rfl, .inl ⟨.inl hinits, rfl, rfl, rfl, rfl⟩⟩
  | true =>
    cases hstarts : espMqtt.starts mqttCfg with
    | false => exact ⟨_, _, _, rfl, .inl ⟨.inr hstarts, rfl, rfl, rfl, rfl⟩⟩
    | true =>
      refine ⟨_, _, _, rfl, .inr ⟨?_, rfl, client.lastHandle + 1, rfl, rfl⟩⟩
      simp [EspMqtt.Refuses, hinits, hstarts]

/-- A rejected configuration never connects exactly when esp-mqtt refuses what it is handed. -/
theorem rejectedNeverConnects_iff (espMqtt : EspMqtt) (config : TbcTransportConfig)
    (onEvent : Option TbcmOnEvent) (client : Tbcm) :
    RejectedNeverConnects espMqtt config onEvent client ↔
      ∀ schema, config.address.schema = some schema → Rejected config schema →
        ∀ mqttCfg, handedConfig config = some mqttCfg → espMqtt.Refuses mqttCfg := by
  constructor
  · intro hnever schema hschema hrejected mqttCfg hhanded
    obtain ⟨-, half, hfill⟩ | ⟨haccepted, -⟩ := fill_cases hschema .zero
    · obtain ⟨calls, client', hconnect, -⟩ := hnever half hfill
      obtain ⟨returned, calls', client'', hconnect', ⟨hrefuses, -⟩ | ⟨-, htrue, -⟩⟩ :=
        Tbcm.tbcmConnect_of_handed hhanded espMqtt onEvent client
      · exact hrefuses
      · rw [hconnect', htrue] at hconnect
        simp at hconnect
    · exact absurd hrejected haccepted
  · intro hrefuses half hfill
    have hhanded : handedConfig config = some half := by
      simp [handedConfig, hfill]
    cases hschema : config.address.schema with
    | none =>
      simp [tbcTransportConfigFillToMqttClientConfig, fillAddress, hschema, bind, Except.bind]
        at hfill
    | some schema =>
    obtain ⟨hrejected, -⟩ | ⟨-, filled, hfilled⟩ := fill_cases hschema .zero
    · obtain ⟨returned, calls, client', hconnect, ⟨-, rfl, hstarted, hstate, hhandle⟩ |
        ⟨hstarts, -⟩⟩ := Tbcm.tbcmConnect_of_handed hhanded espMqtt onEvent client
      · exact ⟨calls, client', hconnect, hstarted, hstate, hhandle⟩
      · exact absurd (hrefuses schema hschema hrejected half hhanded) hstarts
    · rw [hfilled] at hfill
      contradiction

/-- TLS with an access token and without the certificate of a CA. -/
def unverifiedConfig : TbcTransportConfig where
  address :=
    { schema := some "mqtts"
      host := some "demo.thingsboard.io"
      port := 0
      path := none }
  credentials :=
    { type := .accessToken
      clientId := none
      username := none
      password := none
      token := some "TOKEN" }
  verification :=
    { certPem := none
      certLen := 0
      skipCertCommonNameCheck := false }
  authentication :=
    { clientCertPem := none
      clientCertLen := 0
      clientKeyPem := none
      clientKeyLen := 0
      clientKeyPassword := none
      clientKeyPasswordLen := 0 }

/-- A client is started without the certificate. -/
theorem rejectedNeverConnects_fails_unverifiedConfig :
    ¬ ∀ espMqtt config onEvent client,
      RejectedNeverConnects espMqtt config onEvent client := by
  intro hall
  obtain ⟨half, hfill⟩ : ∃ half, tbcTransportConfigFillToMqttClientConfig unverifiedConfig .zero
      = .error (.null half) := ⟨_, rfl⟩
  obtain ⟨calls, client', hconnect, -⟩ := hall ⟨fun _ => true, fun _ => true⟩ unverifiedConfig
    (some 1) tbcmInit half hfill
  have htrue : (Tbcm.tbcmConnect ⟨fun _ => true, fun _ => true⟩ unverifiedConfig (some 1)
      tbcmInit).map (·.1) = .ok true := by decide +kernel
  rw [hconnect] at htrue
  simp [Except.map] at htrue

end ThingsboardMqtt
