import ThingsboardMqtt.Helper.Events
import ThingsboardMqtt.Wapper.TransportConfig

set_option autoImplicit false

/-! # What a provision answer leads to

`_tbcmh_provision_on_data` hands an answer to the oldest request: to its `on_response` with the
credentials that `__parse_provision_response` finds, to its `on_timeout` when there are none. Two
things are not checked on the way, that the members `status` and `provisionDeviceStatus` are strings
and that there is an `on_timeout`; and credentials without any name are accepted, which
`_tbc_transport_config_fill_to_mqtt_client_config` rejects. -/

namespace ThingsboardMqtt

open ListWalk

/-! ## Answers -/

/-- A member of that name is a string, where there is one. -/
def StringIfPresent (results : Cjson) (name : String) : Prop :=
  ∀ item, results.getObjectItem name = some item → ∃ value, item = .string value

/-- The answer reports success. -/
def Succeeded (results : Cjson) : Prop :=
  parseStringItem results "status" = some "SUCCESS" ∨
    parseStringItem results "provisionDeviceStatus" = some "SUCCESS"

/-- The answer carries credentials of one of the three types. -/
def Carries (results : Cjson) : Prop :=
  (parseStringItem results "credentialsType" = some "ACCESS_TOKEN" ∨
      parseStringItem results "credentialsType" = some "X509_CERTIFICATE") ∧
    (parseStringItem results "credentialsValue").isSome ∨
  parseStringItem results "credentialsType" = some "MQTT_BASIC" ∧
    (results.getObjectItem "credentialsValue").isSome

instance (results : Cjson) : Decidable (Succeeded results) :=
  inferInstanceAs (Decidable (_ ∨ _))

instance (results : Cjson) : Decidable (Carries results) :=
  inferInstanceAs (Decidable (_ ∧ _ ∨ _ ∧ _))

theorem isSuccess_of_stringIfPresent {results : Cjson} {name : String}
    (h : StringIfPresent results name) :
    isSuccess (results.getObjectItem name)
      = .ok (decide (parseStringItem results name = some "SUCCESS")) := by
  cases hitem : results.getObjectItem name with
  | none => simp [isSuccess, parseStringItem, hitem, Cjson.getStringValue]
  | some item =>
    obtain ⟨value, rfl⟩ := h item hitem
    simp [isSuccess, parseStringItem, hitem, Cjson.getStringValue]

theorem isSuccess_of_not_stringIfPresent {results : Cjson} {name : String}
    (h : ¬ StringIfPresent results name) :
    isSuccess (results.getObjectItem name) = .error .nullString := by
  simp only [StringIfPresent, not_forall, not_exists] at h
  obtain ⟨item, hitem, hstring⟩ := h
  rw [hitem]
  cases item with
  | string value => exact absurd rfl (hstring value)
  | null | bool | number | array | object => rfl

/-- What an answer whose two status members are strings is parsed to. -/
theorem parseProvisionResponse_of_strings {results : Cjson} (hstatus : StringIfPresent results "status")
    (hdevice : StringIfPresent results "provisionDeviceStatus") :
    ∃ credentials, parseProvisionResponse results = .ok credentials ∧
      (credentials.isSome ↔ Succeeded results ∧ Carries results) := by
  unfold parseProvisionResponse
  rw [isSuccess_of_stringIfPresent hstatus, isSuccess_of_stringIfPresent hdevice]
  simp only [bind, Except.bind]
  by_cases hsucceeded : Succeeded results
  · rw [if_neg (by simpa [Succeeded, or_iff_not_imp_left] using hsucceeded)]
    simp only [hsucceeded, true_and, Carries]
    split
    · rename_i htype
      exact ⟨_, rfl, by simp [htype]⟩
    · rename_i htype
      exact ⟨_, rfl, by simp [htype]⟩
    · rename_i htype
      exact ⟨_, rfl, by simp [htype]⟩
    · rename_i htoken hbasic hx509
      refine ⟨none, rfl, ?_⟩
      have htype : ∀ text, text = "ACCESS_TOKEN" ∨ text = "MQTT_BASIC" ∨ text = "X509_CERTIFICATE" →
          parseStringItem results "credentialsType" ≠ some text := by
        rintro text (rfl | rfl | rfl)
        · exact htoken
        · exact hbasic
        · exact hx509
      simp [htype]
  · have hfailed : ¬ (Succeeded results ∧ Carries results) := fun h => hsucceeded h.1
    rw [if_pos (by simpa [Succeeded] using hsucceeded)]
    exact ⟨none, rfl, by simpa using hfailed⟩

/-- An answer with another status member is not parsed to the end. -/
theorem parseProvisionResponse_of_not_strings {results : Cjson}
    (h : ¬ (StringIfPresent results "status" ∧ StringIfPresent results "provisionDeviceStatus")) :
    parseProvisionResponse results = .error .nullString := by
  unfold parseProvisionResponse
  by_cases hstatus : StringIfPresent results "status"
  · have hdevice : ¬ StringIfPresent results "provisionDeviceStatus" :=
      fun hdevice => h ⟨hstatus, hdevice⟩
    rw [isSuccess_of_stringIfPresent hstatus, isSuccess_of_not_stringIfPresent hdevice]
    rfl
  · rw [isSuccess_of_not_stringIfPresent hstatus]
    rfl

/-! ## One callback for every answer -/

/-- The callbacks that are due for an answer. -/
def callbacksDue (results : Cjson) (request : Request) (requestId : Nat) : List HelperAction :=
  if Succeeded results ∧ Carries results then [.onResponse .provision request.uid requestId]
  else if request.hasOnTimeout then [.onTimeout .provision request.uid]
  else []

/-- An answer takes the oldest request from the list, and the callbacks that are due for it are
    invoked, without a `NULL` string or callback. -/
def AnsweredOnce (requestId : Nat) (results : Cjson) (answers : OtaAnswers) (client : Client)
    (oldest : Request) (rest : List Request) : Prop :=
  ∃ client', tbcmhRequestOnData .provision requestId (some results) answers client = .ok client' ∧
    client'.requestList = Function.update client.requestList .provision rest ∧
    client'.history = client.history ++ callbacksDue results oldest requestId

/-- Any request is an answer's, so it is the oldest one that is taken. -/
theorem tbcmhRequestOnData_provision {client : Client} {oldest : Request} {rest : List Request}
    (hlist : client.requestList .provision = oldest :: rest) (requestId : Nat) (results : Cjson)
    (answers : OtaAnswers) :
    tbcmhRequestOnData .provision requestId (some results) answers client
      = doResponse .provision oldest requestId results answers
          (unsubscribeEmptied .provision false (client.setRequests .provision rest)) := by
  have hfirst : splitFirst (RequestTable.provision.isAnswered requestId)
      (client.requestList .provision) = some ([], oldest, rest) := by
    rw [hlist, splitFirst, if_pos (by simp [RequestTable.isAnswered])]
  simp only [tbcmhRequestOnData, hfirst, List.nil_append]

/-- An answer is handled as it should exactly when its status members are strings and, unless it brings
    credentials, its request has an `on_timeout`. -/
theorem answeredOnce_iff {client : Client} {oldest : Request} {rest : List Request}
    (hlist : client.requestList .provision = oldest :: rest) (requestId : Nat) (results : Cjson)
    (answers : OtaAnswers) :
    AnsweredOnce requestId results answers client oldest rest ↔
      (StringIfPresent results "status" ∧ StringIfPresent results "provisionDeviceStatus") ∧
        (Succeeded results ∧ Carries results ∨ oldest.hasOnTimeout = true) := by
  unfold AnsweredOnce callbacksDue
  rw [tbcmhRequestOnData_provision hlist, unsubscribeEmptied_eq]
  by_cases hstrings : StringIfPresent results "status" ∧
      StringIfPresent results "provisionDeviceStatus"
  · obtain ⟨credentials, hparse, hgranted⟩ :=
      parseProvisionResponse_of_strings hstrings.1 hstrings.2
    simp only [hstrings, true_and, doResponse, hparse, bind, Except.bind]
    cases credentials with
    | some credentials =>
      have hgranted := hgranted.mp rfl
      simp only [hgranted, and_self, true_or, if_true, iff_true]
      exact ⟨_, rfl, rfl, rfl⟩
    | none =>
      have hrefused : ¬ (Succeeded results ∧ Carries results) := by simpa using hgranted
      simp only [hrefused, false_or, if_false]
      -- without credentials `on_timeout` is called, set or not
      cases hcallback : oldest.hasOnTimeout with
      | true =>
        simp only [if_true, iff_true]
        exact ⟨_, rfl, rfl, rfl⟩
      | false => simp
  · have hfault := parseProvisionResponse_of_not_strings hstrings
    simp only [hstrings, false_and, iff_false, doResponse, hfault, bind, Except.bind]
    rintro ⟨client', hok, -⟩
    contradiction

/-- The answer of a server that does not know the provision key. -/
def failedResults : Cjson :=
  .object [("status", .string "FAILURE"), ("errorMsg", .string "Failed to find profile")]

/-- A provision request without an `on_timeout`. -/
def untimedRequest : Request where
  uid := 1
  requestId := 1
  timestamp := 100
  reader := .application
  hasOnTimeout := false

/-- A refusal calls the `on_timeout` that was not given. -/
theorem answeredOnce_fails_untimedRequest :
    ¬ ∀ client oldest rest requestId results answers,
      client.requestList .provision = oldest :: rest →
        AnsweredOnce requestId results answers client oldest rest := by
  intro hall
  have hlist : ((tbcmhInit 100 0).setRequests .provision [untimedRequest]).requestList .provision
      = [untimedRequest] := rfl
  obtain ⟨client', hok, -⟩ := hall _ _ _ 0 failedResults sampleAnswers hlist
  have hfault : tbcmhRequestOnData .provision 0 (some failedResults) sampleAnswers
      ((tbcmhInit 100 0).setRequests .provision [untimedRequest]) = .error .nullCallback := rfl
  rw [hfault] at hok
  contradiction

/-- An access token, for a request without an `on_timeout`. -/
theorem answeredOnce_iff_token :
    AnsweredOnce 0
        (.object [("credentialsType", .string "ACCESS_TOKEN"), ("credentialsValue", .string "T"),
          ("status", .string "SUCCESS")])
        sampleAnswers ((tbcmhInit 100 0).setRequests .provision [untimedRequest]) untimedRequest
        [] := by
  refine (answeredOnce_iff rfl _ _ _).mpr ⟨⟨?_, ?_⟩, .inl (by decide +kernel)⟩
  · intro item hitem
    exact ⟨"SUCCESS", (Option.some.inj hitem).symm⟩
  · intro item hitem
    contradiction

/-! ## Connecting with the credentials -/

/-- `*credentials` behind `__parse_provision_response`, all of it `NULL` before. -/
def Credentials.config : Credentials → TbcTransportCredentialsConfig
  | .accessToken token =>
    { type := .accessToken
      clientId := none
      username := none
      password := none
      token := some token }
  | .basicMqtt clientId username password =>
    { type := .basicMqtt
      clientId := clientId
      username := username
      password := password
      token := none }
  | .x509 token =>
    { type := .x509
      clientId := none
      username := none
      password := none
      token := some token }

/-- The schema and the host are valid, and the certificates that the schema and the type of the
    credentials take are there. -/
structure Suits (transport : TbcTransportConfig) (type : TbcTransportCredentialsType) : Prop where
  schema : ∃ schema, transport.address.schema = some schema ∧ IsSchema schema ∧
    (TlsSchema schema → transport.verification.certPem ≠ none) ∧ (type = .x509 → TlsSchema schema)
  host : transport.address.host ≠ none
  certificates : type = .x509 → transport.authentication.clientCertPem ≠ none ∧
    transport.authentication.clientKeyPem ≠ none

/-- Basic MQTT credentials with neither a client id nor a username. -/
def Nameless (results : Cjson) : Prop :=
  parseStringItem results "credentialsType" = some "MQTT_BASIC" ∧
    ∀ credentialsValue, results.getObjectItem "credentialsValue" = some credentialsValue →
      parseStringItem credentialsValue "clientId" = none ∧
        parseStringItem credentialsValue "username" = none ∧
        parseStringItem credentialsValue "userName" = none

/-- Credentials of an answer have a token, or the names that the answer has. -/
theorem Credentials.of_parse {results : Cjson} {credentials : Credentials}
    (h : parseProvisionResponse results = .ok (some credentials)) :
    (credentials.config.type = .accessToken ∧ credentials.config.token ≠ none ∨
        credentials.config.type = .x509) ∧ ¬ Nameless results ∨
      credentials.config.type = .basicMqtt ∧
        (credentials.config.clientId = none ∧ credentials.config.username = none ↔
          Nameless results) := by
  unfold parseProvisionResponse at h
  cases hstatus : isSuccess (results.getObjectItem "status") with
  | error fault => simp [hstatus, bind, Except.bind] at h
  | ok status =>
  cases hdevice : isSuccess (results.getObjectItem "provisionDeviceStatus") with
  | error fault => simp [hstatus, hdevice, bind, Except.bind] at h
  | ok deviceStatus =>
  simp only [hstatus, hdevice, bind, Except.bind] at h
  split at h
  · exact absurd (Except.ok.inj h) (by simp)
  split at h
  · rename_i htype
    obtain ⟨token, -, rfl⟩ := Option.map_eq_some_iff.mp (Except.ok.inj h)
    exact .inl ⟨.inl ⟨rfl, by simp [config]⟩, by simp [Nameless, htype]⟩
  · rename_i htype
    obtain ⟨credentialsValue, hvalue, rfl⟩ := Option.map_eq_some_iff.mp (Except.ok.inj h)
    exact .inr ⟨rfl, by simp [config, Nameless, htype, hvalue]⟩
  · rename_i htype
    obtain ⟨token, -, rfl⟩ := Option.map_eq_some_iff.mp (Except.ok.inj h)
    exact .inl ⟨.inr rfl, by simp [Nameless, htype]⟩
  · exact absurd (Except.ok.inj h) (by simp)

/-- Credentials that were accepted fill a configuration that suits them, unless they are basic MQTT
    credentials without a name. -/
theorem fill_provisioned_iff {results : Cjson} {credentials : Credentials}
    (hparse : parseProvisionResponse results = .ok (some credentials)) {transport : TbcTransportConfig}
    (hsuits : Suits transport credentials.config.type) (mqttConfig : EspMqttClientConfig) :
    (∃ filled, tbcTransportConfigFillToMqttClientConfig
        { transport with credentials := credentials.config } mqttConfig = .ok filled) ↔
      ¬ Nameless results := by
  obtain ⟨schema, hschema, hknown, hca, htls⟩ := hsuits.schema
  have hcredentials := Credentials.of_parse hparse
  obtain ⟨hrejected, half, hnull⟩ | ⟨haccepted, filled, hfilled⟩ :=
    @fill_cases { transport with credentials := credentials.config } schema hschema mqttConfig
  · rw [hnull]
    suffices hnameless : Nameless results by simp [hnameless]
    -- of all that a configuration is rejected for, only the names are left
    cases hrejected with
    | schema h => exact absurd hknown h
    | host h => exact absurd h hsuits.host
    | certPem h => exact absurd h.2 (hca h.1)
    | clientCertPem h => exact absurd h.2 (hsuits.certificates h.1).1
    | clientKeyPem h => exact absurd h.2 (hsuits.certificates h.1).2
    | x509 h => exact absurd (htls h.1) h.2
    | token h =>
      obtain ⟨⟨-, htoken⟩ | htype, -⟩ | ⟨htype, -⟩ := hcredentials
      · exact absurd h.2 htoken
      · exact absurd (h.1.symm.trans htype) (by simp)
      · exact absurd (h.1.symm.trans htype) (by simp)
    | basicMqtt h =>
      obtain ⟨⟨htype, -⟩ | htype, -⟩ | ⟨-, hnames⟩ := hcredentials
      · exact absurd (h.1.symm.trans htype) (by simp)
      · exact absurd (h.1.symm.trans htype) (by simp)
      · exact hnames.mp h.2
    | type h =>
      obtain ⟨value, htype⟩ := h
      cases credentials <;> simp [Credentials.config] at htype
  · rw [hfilled]
    suffices hnamed : ¬ Nameless results by simp [hnamed]
    intro hnameless
    obtain ⟨-, hnamed⟩ | ⟨htype, hnames⟩ := hcredentials
    · exact hnamed hnameless
    · exact haccepted (.basicMqtt ⟨htype, hnames.mpr hnameless⟩)

/-- MQTT without TLS. -/
def plainConfig : TbcTransportConfig :=
  { unverifiedConfig with address := { unverifiedConfig.address with schema := some "mqtt" } }

/-- Basic MQTT credentials with a password alone. -/
def namelessResults : Cjson :=
  .object [("status", .string "SUCCESS"), ("credentialsType", .string "MQTT_BASIC"),
    ("credentialsValue", .object [("password", .string "PASSWORD")])]

theorem suits_plainConfig {type : TbcTransportCredentialsType} (htype : type ≠ .x509) :
    Suits plainConfig type where
  schema := ⟨"mqtt", rfl, .inl rfl, by simp [TlsSchema], fun h => absurd h htype⟩
  host := by simp [plainConfig, unverifiedConfig]
  certificates h := absurd h htype

/-- A password alone is accepted, and does not connect. -/
theorem fill_provisioned_fails_nameless :
    ¬ ∀ results credentials transport mqttConfig,
      parseProvisionResponse results = .ok (some credentials) →
        Suits transport credentials.config.type →
          ∃ filled, tbcTransportConfigFillToMqttClientConfig
            { transport with credentials := credentials.config } mqttConfig = .ok filled := by
  intro hall
  have hparse : parseProvisionResponse namelessResults
      = .ok (some (.basicMqtt none none (some "PASSWORD"))) := by
    rfl
  obtain ⟨filled, hfilled⟩ := hall _ _ plainConfig .zero hparse
    (suits_plainConfig (by simp [Credentials.config]))
  contradiction

/-- A client id is enough. -/
theorem fill_provisioned_iff_clientId :
    (∃ filled, tbcTransportConfigFillToMqttClientConfig
        { plainConfig with credentials := (Credentials.basicMqtt (some "ID") none none).config } .zero
          = .ok filled) ↔
      ¬ Nameless (.object [("status", .string "SUCCESS"), ("credentialsType", .string "MQTT_BASIC"),
        ("credentialsValue", .object [("clientId", .string "ID")])]) :=
  fill_provisioned_iff rfl (suits_plainConfig (by simp [Credentials.config])) .zero

end ThingsboardMqtt
