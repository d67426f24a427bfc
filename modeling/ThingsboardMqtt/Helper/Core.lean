import Mathlib.Data.List.Basic

set_option autoImplicit false

/-! # The client all parts of the helper share

`Core` is what the parts of the helper read and change of the MQTT client: whether it is connected,
the request id counter, the clock and the packets handed to the network, oldest first. `connack`
marks the start of a new clean session in that list, so that what the broker knows is a function
of it. -/

namespace ThingsboardMqtt

/-- `TB_MQTT_TIMEOUT`, in seconds. -/
def tbMqttTimeout : Nat := 30

/-- The topics the helper subscribes. -/
inductive Topic
  | sharedAttributes
  | attributesResponse
  | serverrpcRequest
  | clientrpcResponse
  | provisionResponse
  | fwResponse
  deriving DecidableEq, Repr

/-- The `TB_MQTT_TOPIC_.._SUBSCRIBE` strings of `tbc_mqtt_protocol.h`. -/
def Topic.filter : Topic → String
  | .sharedAttributes => "v1/devices/me/attributes"
  | .attributesResponse => "v1/devices/me/attributes/response/+"
  | .serverrpcRequest => "v1/devices/me/rpc/request/+"
  | .clientrpcResponse => "v1/devices/me/rpc/response/+"
  | .provisionResponse => "/provision/response"
  | .fwResponse => "v2/fw/response/+/chunk/+"

/-- `tbcm_state_t` -/
inductive TbcmState
  | disconnected
  | connecting
  | connected
  deriving DecidableEq, Repr

/-- The tables of requests that wait for a response. -/
inductive RequestTable
  | attributesrequest
  | clientrpc
  | provision
  deriving DecidableEq, Repr

/-- Where the responses to the requests of a table arrive. -/
def RequestTable.responseTopic : RequestTable → Topic
  | .attributesrequest => .attributesResponse
  | .clientrpc => .clientrpcResponse
  | .provision => .provisionResponse

/-- What the network sees: `request` is the publication of the request `uid` of a table. -/
inductive Packet
  | connack
  | subscribe (topic : Topic)
  | unsubscribe (topic : Topic)
  | request (table : RequestTable) (uid : Nat)
  deriving DecidableEq, Repr

structure Core where
  state : TbcmState
  nextRequestId : UInt16
  now : Nat
  sent : List Packet
  deriving DecidableEq, Repr

/-- `tbcmh_is_connected` -/
def tbcmhIsConnected (core : Core) : Bool := core.state = .connected

/-- `tbcm_subscribe`, called while connected -/
def tbcmSubscribe (core : Core) (topic : Topic) : Core :=
  { core with sent := core.sent ++ [.subscribe topic] }

/-- `tbcm_unsubscribe`, called while connected -/
def tbcmUnsubscribe (core : Core) (topic : Topic) : Core :=
  { core with sent := core.sent ++ [.unsubscribe topic] }

/-- `_tbcmh_get_request_id`: the counter skips zero. -/
def tbcmhGetRequestId (core : Core) : Nat × Core :=
  let next := core.nextRequestId + 1
  let next := if next ≤ 0 then 1 else next
  (next.toNat, { core with nextRequestId := next })

theorem tbcmhGetRequestId_pos (core : Core) : 0 < (tbcmhGetRequestId core).1 := by
  simp only [tbcmhGetRequestId]
  split
  · decide
  · rename_i h
    exact UInt16.lt_iff_toNat_lt.mp (UInt16.not_le.mp h)

end ThingsboardMqtt
