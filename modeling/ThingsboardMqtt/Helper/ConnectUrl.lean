import ThingsboardMqtt.Helper.Cjson
import ThingsboardMqtt.Library.Scanf
import ThingsboardMqtt.Wapper.TransportConfig

set_option autoImplicit false

/-! # Connecting by a URL

`tbcmh_connect_using_url` takes a URL apart, fills a transport configuration and connects with it
(`tbc_mqtt_helper.c`). Three places look at the scheme: the default port is chosen without regard to
case, the log prints it, and the transport is chosen with regard to case. A missing scheme or host is
`NULL` in all of them. `http_parser_parse_url` is a parameter: it tells where the parts of a URL are. -/

namespace ThingsboardMqtt

open Scanf

/-! ## The parts of a URL -/

/-- `puri.field_data[..]`: where a part starts and how long it is. A part that is missing has no
    length. -/
structure UrlField where
  off : Nat
  len : Nat
  deriving DecidableEq, Repr

/-- `struct http_parser_url` -/
structure HttpParserUrl where
  schema : UrlField
  host : UrlField
  port : UrlField
  path : UrlField
  query : UrlField
  userinfo : UrlField
  deriving DecidableEq, Repr

/-- Whether the strings that are copied from the URL can be allocated. -/
structure UrlMallocs where
  schema : Bool
  host : Bool
  path : Bool
  userinfo : Bool
  username : Bool
  password : Bool
  deriving DecidableEq, Repr

/-- The characters of a part. -/
def UrlField.text (field : UrlField) (uri : String) : String :=
  String.ofList ((uri.toList.drop field.off).take field.len)

/-- `_create_string` -/
def createString (uri : String) (field : UrlField) (allocated : Bool) : Option String :=
  if field.len = 0 then none else if allocated then some (field.text uri) else none

/-- `strtol(uri + off, NULL, 10)` as a `uint32_t`. The port of a URL starts with a digit, so neither
    white space nor a sign is skipped. -/
def strtol (uri : String) (field : UrlField) : Nat :=
  (digitsPrefix decDigit? 10 none (uri.toList.drop field.off)).getD 0 % 2 ^ 32

/-- The path that is built of a path and a query. -/
def pathWithQuery (uri : String) (puri : HttpParserUrl) : Option String :=
  if puri.path.len = 0 ∧ puri.query.len = 0 then none
  else if puri.query.len = 0 then some (puri.path.text uri)
  else if puri.path.len = 0 then some ("/?" ++ puri.query.text uri)
  else some (puri.path.text uri ++ "?" ++ puri.query.text uri)

/-- What `_parse_uri` makes of the user info: username and password. -/
def parseUserinfo (mallocs : UrlMallocs) (userinfo : String) : Option String × Option String :=
  let username := userinfo.toList.takeWhile (· ≠ ':')
  (if mallocs.username then some (String.ofList username) else none,
    match userinfo.toList.drop username.length with
    | ':' :: password => if mallocs.password then some (String.ofList password) else none
    | _ => none)

/-- `_parse_uri`: the address, the username and the password, `none` when it fails. -/
def parseUri (httpParserParseUrl : String → Option HttpParserUrl) (mallocs : UrlMallocs)
    (uri : String) : Option (TbcTransportAddressConfig × Option String × Option String) :=
  match httpParserParseUrl uri with
  | none => none
  | some puri =>
    if (pathWithQuery uri puri).isSome ∧ mallocs.path = false then none
    else
      let userinfo := createString uri puri.userinfo mallocs.userinfo
      some
        ({ schema := createString uri puri.schema mallocs.schema
           host := createString uri puri.host mallocs.host
           port := if puri.port.len = 0 then 0 else strtol uri puri.port
           path := pathWithQuery uri puri },
          (userinfo.map (parseUserinfo mallocs)).getD (none, none))

/-! ## Connecting -/

/-- A string that is handed to `strcasecmp` or to a `%s`. -/
def notNull : Option String → Except Fault String
  | none => .error .nullString
  | some text => .ok text

/-- `tbcmh_client`, as far as `tbcmh_connect` reads it. -/
structure TbcmhConnection where
  tbmqttclient : Option Tbcm
  deriving DecidableEq, Repr

/-- `tbcmh_connect` of a configuration that is not `NULL`, with the calls of esp-mqtt; `bridgeSend` is
    `_on_tbcm_event_bridge_send`. -/
def tbcmhConnect (espMqtt : EspMqtt) (bridgeSend : TbcmOnEvent) (config : TbcTransportConfig) :
    Option TbcmhConnection → Except Fault (Bool × List EspMqttCall × Option TbcmhConnection)
  | none => .ok (false, [], none)
  | some client =>
    match client.tbmqttclient with
    | none => .ok (false, [], some client)
    | some tbmqttclient =>
      if tbmqttclient.state ≠ .disconnected then .ok (false, [], some client)
      else do
        -- "connecting to %s://%s:%d ..."
        let _ ← notNull config.address.schema
        let _ ← notNull config.address.host
        let (result, calls, tbmqttclient) ←
          Tbcm.tbcmConnect espMqtt config (some bridgeSend) tbmqttclient
        .ok (result, calls, some { client with tbmqttclient := some tbmqttclient })

/-- `tbc_transport_config_esay_t` -/
structure TbcTransportConfigEsay where
  uri : Option String
  accessToken : Option String
  deriving DecidableEq, Repr

/-- The default port of a scheme, without regard to case; zero for another one. -/
def defaultPort (schema : String) : Nat :=
  if strcaseEq schema "mqtt" then 1883
  else if strcaseEq schema "mqtts" then 8883
  else if strcaseEq schema "ws" then 80
  else if strcaseEq schema "wss" then 443
  else 0

/-- The transport configuration that `tbcmh_connect_using_url` connects with, if the URL can be
    taken apart. -/
def urlTransport (httpParserParseUrl : String → Option HttpParserUrl) (mallocs : UrlMallocs)
    (uri accessToken : String) : Except Fault (Option TbcTransportConfig) :=
  match parseUri httpParserParseUrl mallocs uri with
  | none => .ok none
  | some (address, username, password) => do
    let port ← if address.port = 0 then (notNull address.schema).map defaultPort
      else .ok address.port
    .ok (some
      { address := { address with port := port }
        credentials :=
          { type := .accessToken
            clientId := none
            username := username
            password := password
            token := some accessToken }
        verification :=
          { certPem := none
            certLen := 0
            skipCertCommonNameCheck := false }
        authentication :=
          { clientCertPem := none
            clientCertLen := 0
            clientKeyPem := none
            clientKeyLen := 0
            clientKeyPassword := none
            clientKeyPasswordLen := 0 } })

/-- `tbcmh_connect_using_url` -/
def tbcmhConnectUsingUrl (httpParserParseUrl : String → Option HttpParserUrl) (mallocs : UrlMallocs)
    (espMqtt : EspMqtt) (bridgeSend : TbcmOnEvent) (config : Option TbcTransportConfigEsay)
    (client : Option TbcmhConnection) :
    Except Fault (Bool × List EspMqttCall × Option TbcmhConnection) :=
  match config with
  | none => .ok (false, [], client)
  | some config =>
    match config.uri, config.accessToken with
    | some uri, some accessToken => do
      match ← urlTransport httpParserParseUrl mallocs uri accessToken with
      | none => .ok (false, [], client)
      | some transport => tbcmhConnect espMqtt bridgeSend transport client
    | _, _ => .ok (false, [], client)

/-! ## The configuration of a URL -/

/-- The port that stands in a URL. -/
def explicitPort (uri : String) (puri : HttpParserUrl) : Option Nat :=
  if puri.port.len = 0 then none
  else digitsPrefix decDigit? 10 none ((uri.toList.drop puri.port.off).take puri.port.len)

/-- The parts of a URL are as they are written there: a port is a number of 16 bits, and no digit
    stands behind it. -/
structure AsWritten (httpParserParseUrl : String → Option HttpParserUrl) : Prop where
  port : ∀ uri puri, httpParserParseUrl uri = some puri → puri.port.len ≠ 0 →
    (∃ port, explicitPort uri puri = some port ∧ port < 2 ^ 16) ∧
      ∀ c ∈ (uri.toList.drop (puri.port.off + puri.port.len)).head?, decDigit? c = none

/-- The configuration has the transport of the scheme, the host, the path with the query, and the port
    of the URL or the default one of the scheme. -/
structure OfUrl (uri : String) (puri : HttpParserUrl) (mqttCfg : EspMqttClientConfig) : Prop where
  scheme : ∃ transport port tlsEnabled,
    schemaTransport (puri.schema.text uri) = some (transport, port, tlsEnabled) ∧
      mqttCfg.transport = transport ∧ mqttCfg.port = (explicitPort uri puri).getD port
  host : mqttCfg.host = some (puri.host.text uri)
  path : mqttCfg.path = pathWithQuery uri puri

/-- The esp-mqtt clients that were started. -/
def startedClients (client : Option TbcmhConnection) : List Nat :=
  match client.bind (·.tbmqttclient) with
  | none => []
  | some tbmqttclient => tbmqttclient.started

/-- What was called has started one client, of a configuration that is as the URL says. -/
def StartedOfUrl (uri : String) (puri : HttpParserUrl) (calls : List EspMqttCall)
    (started started' : List Nat) : Prop :=
  ∃ handle mqttCfg, calls = startCalls mqttCfg handle ∧ started' = started ++ [handle] ∧
    OfUrl uri puri mqttCfg

/-- No string is `NULL`, and either no client is started and the result is `false`, or one is
    initialised and started as the URL says. -/
def ConnectsAsWritten (httpParserParseUrl : String → Option HttpParserUrl) (mallocs : UrlMallocs)
    (espMqtt : EspMqtt) (bridgeSend : TbcmOnEvent) (uri accessToken : String)
    (client : Option TbcmhConnection) : Prop :=
  ∃ returned calls client',
    tbcmhConnectUsingUrl httpParserParseUrl mallocs espMqtt bridgeSend
        (some ⟨some uri, some accessToken⟩) client = .ok (returned, calls, client') ∧
      (returned = false ∧ startedClients client' = startedClients client ∨
        returned = true ∧ ∃ puri, httpParserParseUrl uri = some puri ∧
          StartedOfUrl uri puri calls (startedClients client) (startedClients client'))

/-- The configuration whose handle and start esp-mqtt decides on. -/
def handedByUrl (httpParserParseUrl : String → Option HttpParserUrl) (mallocs : UrlMallocs)
    (uri accessToken : String) : Option EspMqttClientConfig :=
  match urlTransport httpParserParseUrl mallocs uri accessToken with
  | .ok (some transport) => handedConfig transport
  | _ => none

/-- The client can be connected: it is there, and it is not connected. -/
def Connectable (client : Option TbcmhConnection) : Prop :=
  ∃ tbmqttclient, client.bind (·.tbmqttclient) = some tbmqttclient ∧
    tbmqttclient.state = .disconnected

/-- There is a scheme, if there is no port or the client can be connected. In the latter case there is
    a host too, and esp-mqtt starts no client of what it is handed unless the scheme is a known one in
    lower case and the port is not an explicit zero. -/
def UrlPartsHandled (puri : HttpParserUrl) (mallocs : UrlMallocs) (espMqtt : EspMqtt) (uri : String)
    (client : Option TbcmhConnection) (handed : Option EspMqttClientConfig) : Prop :=
  ((explicitPort uri puri).getD 0 = 0 ∨ Connectable client →
      createString uri puri.schema mallocs.schema ≠ none) ∧
    (Connectable client →
      createString uri puri.host mallocs.host ≠ none ∧
        (IsSchema (puri.schema.text uri) ∧ explicitPort uri puri ≠ some 0 ∨
          ∀ mqttCfg, handed = some mqttCfg → espMqtt.Refuses mqttCfg))

/-- A URL that can be taken apart has the parts that are looked at. -/
def UrlHandled (httpParserParseUrl : String → Option HttpParserUrl) (mallocs : UrlMallocs)
    (espMqtt : EspMqtt) (uri accessToken : String) (client : Option TbcmhConnection) : Prop :=
  ∀ puri, httpParserParseUrl uri = some puri →
    ((pathWithQuery uri puri).isSome = true → mallocs.path = true) →
    UrlPartsHandled puri mallocs espMqtt uri client
      (handedByUrl httpParserParseUrl mallocs uri accessToken)

theorem strtol_eq {httpParserParseUrl : String → Option HttpParserUrl}
    (hparser : AsWritten httpParserParseUrl) {uri : String} {puri : HttpParserUrl}
    (hparse : httpParserParseUrl uri = some puri) :
    (if puri.port.len = 0 then 0 else strtol uri puri.port) = (explicitPort uri puri).getD 0 := by
  by_cases hlen : puri.port.len = 0
  · rw [if_pos hlen, explicitPort, if_pos hlen]
    rfl
  · obtain ⟨⟨port, hport, hlt⟩, hend⟩ := hparser.port uri puri hparse hlen
    have hsplit : uri.toList.drop puri.port.off
        = (uri.toList.drop puri.port.off).take puri.port.len
          ++ uri.toList.drop (puri.port.off + puri.port.len) := by
      rw [← List.drop_drop, List.take_append_drop]
    rw [if_neg hlen, strtol, hsplit, digitsPrefix_append _ _ _ _ hend, hport]
    rw [explicitPort, if_neg hlen] at hport
    rw [hport, Option.getD_some]
    omega

theorem defaultPort_of_schema {schema : String} {transport : EspMqttTransport} {port : Nat}
    {tlsEnabled : Bool} (h : schemaTransport schema = some (transport, port, tlsEnabled)) :
    defaultPort schema = port ∧ 0 < port := by
  unfold schemaTransport at h
  split_ifs at h with hmqtt hmqtts hws hwss
  · obtain ⟨-, rfl, -⟩ := by simpa using h
    subst hmqtt
    decide
  · obtain ⟨-, rfl, -⟩ := by simpa using h
    subst hmqtts
    decide
  · obtain ⟨-, rfl, -⟩ := by simpa using h
    subst hws
    decide
  · obtain ⟨-, rfl, -⟩ := by simpa using h
    subst hwss
    decide

/-- What is filled of an address with an access token: nothing for an unknown scheme, and everything
    but the certificates else. -/
theorem handedConfig_accessToken {transport : TbcTransportConfig} {schema host : String}
    (hschema : transport.address.schema = some schema) (hhost : transport.address.host = some host)
    (htype : transport.credentials.type = .accessToken) (htoken : transport.credentials.token ≠ none)
    (hcert : transport.verification.certPem = none) :
    match schemaTransport schema with
    | none => handedConfig transport = some .zero
    | some (kind, port, _) => ∃ mqttCfg, handedConfig transport = some mqttCfg ∧
        mqttCfg.transport = kind ∧ mqttCfg.host = some host ∧
        mqttCfg.path = transport.address.path ∧
        mqttCfg.port = if transport.address.port ≠ 0 then transport.address.port else port := by
  cases hkind : schemaTransport schema with
  | none =>
    simp [handedConfig, tbcTransportConfigFillToMqttClientConfig, fillAddress, hschema, hkind, bind,
      Except.bind]
  | some result =>
    obtain ⟨kind, port, tlsEnabled⟩ := result
    have hpath : (transport.address.path <|> EspMqttClientConfig.zero.path)
        = transport.address.path := by
      cases transport.address.path <;> rfl
    cases tlsEnabled with
    | false =>
      simp [handedConfig, tbcTransportConfigFillToMqttClientConfig, fillAddress, hschema, hkind, hhost,
        fillCredentials, htype, htoken, fillAuthentication, bind, Except.bind, hpath]
    | true =>
      simp [handedConfig, tbcTransportConfigFillToMqttClientConfig, fillAddress, hschema, hkind, hhost,
        fillCredentials, htype, htoken, fillAuthentication, hcert, bind, Except.bind, hpath]

/-! ## What connecting comes to -/

theorem eq_text_of_createString {uri : String} {field : UrlField} {allocated : Bool} {text : String}
    (h : createString uri field allocated = some text) : text = field.text uri := by
  unfold createString at h
  split_ifs at h
  exact (Option.some.inj h).symm

theorem startCalls_inj {mqttCfg mqttCfg' : EspMqttClientConfig} {handle handle' : Nat}
    (h : startCalls mqttCfg handle = startCalls mqttCfg' handle') : mqttCfg = mqttCfg' := by
  simp only [startCalls, List.cons.injEq, EspMqttCall.clientInit.injEq] at h
  exact h.1.1

theorem tbcmhConnect_of_not_connectable {client : Option TbcmhConnection} (h : ¬ Connectable client)
    (espMqtt : EspMqtt) (bridgeSend : TbcmOnEvent) (config : TbcTransportConfig) :
    tbcmhConnect espMqtt bridgeSend config client = .ok (false, [], client) := by
  cases client with
  | none => rfl
  | some client =>
    obtain ⟨tbmqttclient⟩ := client
    cases tbmqttclient with
    | none => rfl
    | some tbmqttclient =>
      have hstate : tbmqttclient.state ≠ .disconnected := fun hstate => h ⟨tbmqttclient, rfl, hstate⟩
      exact if_pos hstate

/-- A client that can be connected: the scheme and the host are printed, and esp-mqtt takes the
    configuration or refuses it. -/
theorem tbcmhConnect_of_connectable {client : Option TbcmhConnection} (h : Connectable client)
    (espMqtt : EspMqtt) (bridgeSend : TbcmOnEvent) (config : TbcTransportConfig) :
    (config.address.schema = none ∨ config.address.host = none) ∧
        tbcmhConnect espMqtt bridgeSend config client = .error .nullString ∨
      (config.address.schema ≠ none ∧ config.address.host ≠ none) ∧
        ∀ mqttCfg, handedConfig config = some mqttCfg → ∃ returned calls client',
          tbcmhConnect espMqtt bridgeSend config client = .ok (returned, calls, client') ∧
            (espMqtt.Refuses mqttCfg ∧ returned = false ∧
                startedClients client' = startedClients client ∨
              ¬ espMqtt.Refuses mqttCfg ∧ returned = true ∧ ∃ handle,
                calls = startCalls mqttCfg handle ∧
                startedClients client' = startedClients client ++ [handle]) := by
  obtain ⟨tbmqttclient, hclient, hstate⟩ := h
  obtain ⟨_, rfl, hsome⟩ := Option.bind_eq_some_iff.mp hclient
  have hstarted : startedClients (some (TbcmhConnection.mk (some tbmqttclient)))
      = tbmqttclient.started := rfl
  cases hschema : config.address.schema with
  | none =>
    refine .inl ⟨.inl rfl, ?_⟩
    simp only [tbcmhConnect, hsome, hstate, hschema]
    rfl
  | some schema =>
    cases hhost : config.address.host with
    | none =>
      refine .inl ⟨.inr rfl, ?_⟩
      simp only [tbcmhConnect, hsome, hstate, hschema, hhost]
      rfl
    | some host =>
      refine .inr ⟨⟨by simp, by simp⟩, ?_⟩
      intro mqttCfg hhanded
      obtain ⟨returned, calls, tbmqttclient', hconnect, hcases⟩ :=
        Tbcm.tbcmConnect_of_handed hhanded espMqtt (some bridgeSend) tbmqttclient
      refine ⟨returned, calls, some ⟨some tbmqttclient'⟩, ?_, ?_⟩
      · simp only [tbcmhConnect, hsome, hstate, hschema, hhost, notNull, hconnect]
        rfl
      · simp only [startedClients, Option.bind_some, hsome]
        obtain ⟨hrefuses, hreturned, hsame, -, -⟩ | hstarted := hcases
        · exact .inl ⟨hrefuses, hreturned, hsame⟩
        · exact .inr hstarted

/-- The configuration of a URL that can be taken apart. -/
structure Transports (uri : String) (puri : HttpParserUrl) (mallocs : UrlMallocs)
    (transport : TbcTransportConfig) : Prop where
  schema : transport.address.schema = createString uri puri.schema mallocs.schema
  host : transport.address.host = createString uri puri.host mallocs.host
  path : transport.address.path = pathWithQuery uri puri
  port : ∀ schema, createString uri puri.schema mallocs.schema = some schema →
    transport.address.port = if (explicitPort uri puri).getD 0 = 0 then defaultPort schema
      else (explicitPort uri puri).getD 0
  type : transport.credentials.type = .accessToken
  token : transport.credentials.token ≠ none
  certPem : transport.verification.certPem = none

theorem urlTransport_cases {httpParserParseUrl : String → Option HttpParserUrl}
    (hparser : AsWritten httpParserParseUrl) {uri : String} {puri : HttpParserUrl}
    (hparse : httpParserParseUrl uri = some puri) {mallocs : UrlMallocs}
    (hpath : (pathWithQuery uri puri).isSome = true → mallocs.path = true) (accessToken : String) :
    if (explicitPort uri puri).getD 0 = 0 ∧ createString uri puri.schema mallocs.schema = none then
      urlTransport httpParserParseUrl mallocs uri accessToken = .error .nullString
    else
      ∃ transport, urlTransport httpParserParseUrl mallocs uri accessToken = .ok (some transport) ∧
        Transports uri puri mallocs transport := by
  have hport := strtol_eq hparser hparse
  have halloc : ¬ ((pathWithQuery uri puri).isSome = true ∧ mallocs.path = false) := by
    rintro ⟨hsome, hfails⟩
    rw [hpath hsome] at hfails
    contradiction
  simp only [urlTransport, parseUri, hparse, if_neg halloc, hport]
  by_cases hzero : (explicitPort uri puri).getD 0 = 0
  · cases hschema : createString uri puri.schema mallocs.schema with
    | none =>
      rw [if_pos ⟨hzero, rfl⟩, if_pos hzero]
      rfl
    | some schema =>
      rw [if_neg (by simp), if_pos hzero]
      refine ⟨_, rfl, ⟨hschema.symm, rfl, rfl, ?_, rfl, by simp, rfl⟩⟩
      intro schema' hsame
      obtain rfl := Option.some.inj (hschema.symm.trans hsame)
      rw [if_pos hzero]
  · rw [if_neg fun h => hzero h.1, if_neg hzero]
    exact ⟨_, rfl, ⟨rfl, rfl, rfl, fun _ _ => (if_neg hzero).symm, rfl, by simp, rfl⟩⟩

/-- What esp-mqtt is handed is what the URL says exactly for a known scheme in lower case and a port
    that is not zero. -/
theorem Transports.ofUrl_iff {uri : String} {puri : HttpParserUrl} {mallocs : UrlMallocs}
    {transport : TbcTransportConfig} (h : Transports uri puri mallocs transport)
    (hschema : createString uri puri.schema mallocs.schema ≠ none)
    (hhost : createString uri puri.host mallocs.host ≠ none) :
    ∃ mqttCfg, handedConfig transport = some mqttCfg ∧
      (OfUrl uri puri mqttCfg ↔
        IsSchema (puri.schema.text uri) ∧ explicitPort uri puri ≠ some 0) := by
  obtain ⟨schema, hschema⟩ := Option.ne_none_iff_exists'.mp hschema
  obtain ⟨host, hhost⟩ := Option.ne_none_iff_exists'.mp hhost
  have hport := h.port schema hschema
  have hhanded := handedConfig_accessToken (h.schema.trans hschema) (h.host.trans hhost) h.type
    h.token h.certPem
  obtain rfl := eq_text_of_createString hschema
  obtain rfl := eq_text_of_createString hhost
  cases hkind : schemaTransport (puri.schema.text uri) with
  | none =>
    rw [hkind] at hhanded
    refine ⟨_, hhanded, ?_⟩
    constructor
    · intro hurl
      obtain ⟨_, _, _, hsome, -⟩ := hurl.scheme
      simp [hkind] at hsome
    · rintro ⟨hknown, -⟩
      exact absurd hknown (schemaTransport_eq_none.mp hkind)
  | some result =>
    obtain ⟨kind, port, tlsEnabled⟩ := result
    rw [hkind] at hhanded
    obtain ⟨mqttCfg, hhanded, hkind', hhost', hpath', hport'⟩ := hhanded
    obtain ⟨hdefault, hpos⟩ := defaultPort_of_schema hkind
    have hknown := (schemaTransport_eq_some hkind).1
    have hport'' : mqttCfg.port = if (explicitPort uri puri).getD 0 = 0 then port
        else (explicitPort uri puri).getD 0 := by
      rw [hport', hport, hdefault]
      split_ifs <;> rfl
    refine ⟨mqttCfg, hhanded, ?_⟩
    constructor
    · intro hurl
      refine ⟨hknown, ?_⟩
      intro hzero
      obtain ⟨_, port', _, hsame, -, hurlPort⟩ := hurl.scheme
      rw [hport'', hzero, Option.getD_some, if_pos rfl, Option.getD_some] at hurlPort
      omega
    · rintro ⟨-, hne⟩
      refine ⟨⟨kind, port, tlsEnabled, hkind, hkind', ?_⟩, hhost', hpath'.trans h.path⟩
      rw [hport'']
      cases hexplicit : explicitPort uri puri with
      | none => rfl
      | some explicit =>
        have hnonzero : explicit ≠ 0 := fun hzero => hne (by rw [hexplicit, hzero])
        rw [Option.getD_some, if_neg hnonzero, Option.getD_some]

theorem Transports.connects_iff {uri : String} {puri : HttpParserUrl} {mallocs : UrlMallocs}
    {transport : TbcTransportConfig} (h : Transports uri puri mallocs transport)
    (hpresent : ¬ ((explicitPort uri puri).getD 0 = 0 ∧
      createString uri puri.schema mallocs.schema = none))
    (espMqtt : EspMqtt) (bridgeSend : TbcmOnEvent) (client : Option TbcmhConnection) :
    (∃ returned calls client',
        tbcmhConnect espMqtt bridgeSend transport client = .ok (returned, calls, client') ∧
        (returned = false ∧ startedClients client' = startedClients client ∨
          returned = true ∧
            StartedOfUrl uri puri calls (startedClients client) (startedClients client'))) ↔
      UrlPartsHandled puri mallocs espMqtt uri client (handedConfig transport) := by
  by_cases hconn : Connectable client
  · obtain ⟨hmissing, hfault⟩ | ⟨⟨hschema, hhost⟩, hconnects⟩ :=
      tbcmhConnect_of_connectable hconn espMqtt bridgeSend transport
    · -- a `NULL` is printed
      rw [h.schema, h.host] at hmissing
      constructor
      · rintro ⟨_, _, _, hrun, -⟩
        simp [hfault] at hrun
      · intro hhandled
        rcases hmissing with hschema | hhost
        · exact absurd hschema (hhandled.1 (.inr hconn))
        · exact absurd hhost (hhandled.2 hconn).1
    · rw [h.schema] at hschema
      rw [h.host] at hhost
      obtain ⟨mqttCfg, hhanded, hurl⟩ := h.ofUrl_iff hschema hhost
      obtain ⟨returned, calls, client', hrun, hcases⟩ := hconnects mqttCfg hhanded
      constructor
      · rintro ⟨returned', calls', client'', hrun', hresult⟩
        refine ⟨fun _ => hschema, fun _ => ⟨hhost, ?_⟩⟩
        rw [hrun, Except.ok.injEq, Prod.mk.injEq, Prod.mk.injEq] at hrun'
        obtain ⟨rfl, rfl, rfl⟩ := hrun'
        rcases hcases with ⟨hrefuses, -, -⟩ | ⟨-, htrue, handle, hcalls, -⟩
        · right
          intro mqttCfg' hsame
          obtain rfl := Option.some.inj (hhanded.symm.trans hsame)
          exact hrefuses
        · rcases hresult with ⟨hfalse, -⟩ | ⟨-, handle', mqttCfg', hcalls', -, hofUrl⟩
          · rw [htrue] at hfalse
            contradiction
          · -- the calls that were made are those of one configuration
            obtain rfl : mqttCfg = mqttCfg' := startCalls_inj (hcalls.symm.trans hcalls')
            exact .inl (hurl.mp hofUrl)
      · intro hhandled
        refine ⟨returned, calls, client', hrun, ?_⟩
        rcases hcases with ⟨-, hfalse, hsame⟩ | ⟨hstarts, htrue, handle, hcalls, hstarted⟩
        · exact .inl ⟨hfalse, hsame⟩
        · rcases (hhandled.2 hconn).2 with hknown | hrefuses
          · exact .inr ⟨htrue, handle, mqttCfg, hcalls, hstarted, hurl.mpr hknown⟩
          · exact absurd (hrefuses mqttCfg hhanded) hstarts
  · have hrun := tbcmhConnect_of_not_connectable hconn espMqtt bridgeSend transport
    constructor
    · intro _
      refine ⟨?_, fun hconn' => absurd hconn' hconn⟩
      rintro (hzero | hconn')
      · exact fun hnone => hpresent ⟨hzero, hnone⟩
      · exact absurd hconn' hconn
    · exact fun _ => ⟨false, [], client, hrun, .inl ⟨rfl, rfl⟩⟩

section Connect

variable {httpParserParseUrl : String → Option HttpParserUrl} {mallocs : UrlMallocs}
  {uri accessToken : String}

/-- A URL that does not parse, or whose path cannot be copied, starts no client. -/
theorem connectsAsWritten_of_refused
    (hnone : urlTransport httpParserParseUrl mallocs uri accessToken = .ok none)
    (espMqtt : EspMqtt) (bridgeSend : TbcmOnEvent) (client : Option TbcmhConnection) :
    ConnectsAsWritten httpParserParseUrl mallocs espMqtt bridgeSend uri accessToken client := by
  refine ⟨false, [], client, ?_, .inl ⟨rfl, rfl⟩⟩
  simp only [tbcmhConnectUsingUrl, hnone]
  rfl

/-- `strcasecmp` of a scheme that is missing. -/
theorem not_connectsAsWritten_of_fault
    (hfault : urlTransport httpParserParseUrl mallocs uri accessToken = .error .nullString)
    (espMqtt : EspMqtt) (bridgeSend : TbcmOnEvent) (client : Option TbcmhConnection) :
    ¬ ConnectsAsWritten httpParserParseUrl mallocs espMqtt bridgeSend uri accessToken client := by
  rintro ⟨_, _, _, hrun, -⟩
  have hnull : tbcmhConnectUsingUrl httpParserParseUrl mallocs espMqtt bridgeSend
      (some ⟨some uri, some accessToken⟩) client = .error .nullString := by
    simp only [tbcmhConnectUsingUrl, hfault]
    rfl
  simp [hnull] at hrun

/-- With a transport the URL connects as `tbcmh_connect` does with it. -/
theorem connectsAsWritten_of_transport {transport : TbcTransportConfig} {puri : HttpParserUrl}
    (hparse : httpParserParseUrl uri = some puri)
    (htransport : urlTransport httpParserParseUrl mallocs uri accessToken = .ok (some transport))
    (espMqtt : EspMqtt) (bridgeSend : TbcmOnEvent) (client : Option TbcmhConnection) :
    ConnectsAsWritten httpParserParseUrl mallocs espMqtt bridgeSend uri accessToken client ↔
      ∃ returned calls client',
        tbcmhConnect espMqtt bridgeSend transport client = .ok (returned, calls, client') ∧
        (returned = false ∧ startedClients client' = startedClients client ∨
          returned = true ∧
            StartedOfUrl uri puri calls (startedClients client) (startedClients client')) := by
  have hrun : tbcmhConnectUsingUrl httpParserParseUrl mallocs espMqtt bridgeSend
      (some ⟨some uri, some accessToken⟩) client
        = tbcmhConnect espMqtt bridgeSend transport client := by
    simp only [tbcmhConnectUsingUrl, htransport]
    rfl
  unfold ConnectsAsWritten
  rw [hrun]
  constructor
  · rintro ⟨returned, calls, client', hconnect, hfalse | ⟨htrue, puri', hpuri, hstarted⟩⟩
    · exact ⟨returned, calls, client', hconnect, .inl hfalse⟩
    · obtain rfl := Option.some.inj (hparse.symm.trans hpuri)
      exact ⟨returned, calls, client', hconnect, .inr ⟨htrue, hstarted⟩⟩
  · rintro ⟨returned, calls, client', hconnect, hfalse | ⟨htrue, hstarted⟩⟩
    · exact ⟨returned, calls, client', hconnect, .inl hfalse⟩
    · exact ⟨returned, calls, client', hconnect, .inr ⟨htrue, puri, hparse, hstarted⟩⟩

/-- A URL whose path can be copied goes right when its parts do. -/
theorem urlHandled_iff_of_parsed {puri : HttpParserUrl} (hparse : httpParserParseUrl uri = some puri)
    (hpath : (pathWithQuery uri puri).isSome = true → mallocs.path = true) (espMqtt : EspMqtt)
    (client : Option TbcmhConnection) :
    UrlHandled httpParserParseUrl mallocs espMqtt uri accessToken client ↔
      UrlPartsHandled puri mallocs espMqtt uri client
        (handedByUrl httpParserParseUrl mallocs uri accessToken) := by
  constructor
  · exact fun h => h puri hparse hpath
  · intro h puri' hpuri _
    obtain rfl := Option.some.inj (hparse.symm.trans hpuri)
    exact h

end Connect

/-- The parts of `mqtt://host:1884/p?q`. -/
def fullUrl : HttpParserUrl where
  schema := ⟨0, 4⟩
  host := ⟨7, 4⟩
  port := ⟨12, 4⟩
  path := ⟨16, 2⟩
  query := ⟨19, 1⟩
  userinfo := ⟨0, 0⟩

/-- The parts of `/path`. -/
def pathOnly : HttpParserUrl where
  schema := ⟨0, 0⟩
  host := ⟨0, 0⟩
  port := ⟨0, 0⟩
  path := ⟨0, 5⟩
  query := ⟨0, 0⟩
  userinfo := ⟨0, 0⟩

/-- A parser of the two. -/
def parseTwoUrls (uri : String) : Option HttpParserUrl :=
  if uri = "mqtt://host:1884/p?q" then some fullUrl
  else if uri = "/path" then some pathOnly
  else none

theorem asWritten_parseTwoUrls : AsWritten parseTwoUrls := by
  refine ⟨?_⟩
  intro uri puri hparse hport
  unfold parseTwoUrls at hparse
  split_ifs at hparse with hfull hpath
  · obtain rfl := Option.some.inj hparse
    subst hfull
    refine ⟨⟨1884, by decide, by decide⟩, ?_⟩
    have hbehind : ("mqtt://host:1884/p?q".toList.drop (fullUrl.port.off + fullUrl.port.len)).head?
        = some '/' := by decide
    intro c hc
    rw [hbehind] at hc
    obtain rfl := Option.some.inj hc
    rfl
  · obtain rfl := Option.some.inj hparse
    exact absurd rfl hport

end ThingsboardMqtt
