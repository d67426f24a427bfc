import ThingsboardMqtt.Helper.Correlation
import ThingsboardMqtt.Helper.Downlink

set_option autoImplicit false

/-! # Runs on the bytes of the server

`WireClient` is the client on its payload buffer. Where the client is given an event, it is given the
bytes of an `MQTT_EVENT_DATA`. A run of it is a run of the client in which such an input is replaced by
the events it came to, and the messages of the server say which these are (`wireRun_refines`): so what
holds in every run of the client holds for the bytes of the server. One thing that follows is that no
`on_response` is called but for a message that arrived whole (`answered_le_of_wireRun`).

What arrives while an `on_timeout` runs is an act of that callback and stands there as an event. -/

namespace ThingsboardMqtt

open Execution Relation

variable {conduct : Conduct} {parse : List UInt8 → Option Cjson}

/-! ## Runs -/

structure WireClient where
  buffer : TbcmPayloadBuffer
  client : Client

inductive WireInput (conduct : Conduct)
  | data (event : WireEvent)
  | client (input : ClientInput conduct)

inductive WireHalt
  | disabled
  | client (halt : Halt)
  | wire (fault : WireFault)

/-- An event with data that meets `p` is put into the queue. -/
def Act.receives (p : TbcmPublishData → Bool) : Act → Bool
  | .receive data => p data
  | _ => false

def ClientInput.receives (p : TbcmPublishData → Bool) : ClientInput conduct → Bool
  | .act taken => taken.receives p
  | _ => false

/-- The events are put into the queue. -/
def receiveAll (received : List TbcmPublishData) (client : Client) : Client :=
  received.foldl (fun client data => (Act.receive data).run client) client

/-- Data comes from the MQTT client while there is one, and from nowhere else. -/
def wireStep (parse : List UInt8 → Option Cjson) (wire : WireClient) :
    WireInput conduct → Except WireHalt WireClient
  | .data event =>
    if wire.client.hasMqttHandle && wire.client.control ≠ .destroyed then
      match wireEvent parse wire.buffer event with
      | .ok (buffer, result) => .ok ⟨buffer, receiveAll result.received wire.client⟩
      | .error fault => .error (.wire fault)
    else .error .disabled
  | .client input =>
    if input.receives fun _ => true then .error .disabled
    else
      match clientStep wire.client input with
      | .ok client => .ok { wire with client := client }
      | .error halt => .error (.client halt)

/-- The data events of a run. -/
def dataEvents : List (WireInput conduct) → List WireEvent
  | [] => []
  | .data event :: inputs => event :: dataEvents inputs
  | .client _ :: inputs => dataEvents inputs

/-- The inputs of the client: every data event is replaced by what it came to. -/
def weave : List (WireInput conduct) → List (List TbcmPublishData) → List (ClientInput conduct)
  | .data _ :: inputs, first :: received =>
    first.map (fun data => .act (.receive data)) ++ weave inputs received
  | .client input :: inputs, received => input :: weave inputs received
  | _, _ => []

theorem dataEvents_append (inputs more : List (WireInput conduct)) :
    dataEvents (inputs ++ more) = dataEvents inputs ++ dataEvents more := by
  induction inputs with
  | nil => rfl
  | cons input inputs ih =>
    cases input with
    | data event => simp only [List.cons_append, dataEvents, ih]
    | client input => simp only [List.cons_append, dataEvents, ih]

/-- Inputs that use up what was received are woven apart from the later ones. -/
theorem weave_append (more : List (WireInput conduct)) (received' : List (List TbcmPublishData))
    (inputs : List (WireInput conduct)) :
    ∀ received : List (List TbcmPublishData), received.length = (dataEvents inputs).length →
      weave (inputs ++ more) (received ++ received') = weave inputs received ++ weave more received' := by
  induction inputs with
  | nil =>
    intro received hlength
    obtain rfl := List.length_eq_zero_iff.mp hlength
    rfl
  | cons input inputs ih =>
    intro received hlength
    cases input with
    | data event =>
      obtain ⟨first, rest, rfl⟩ := List.exists_cons_of_length_eq_add_one hlength
      simp only [List.cons_append, weave, List.append_assoc]
      rw [ih rest (Nat.succ.inj hlength)]
    | client input => simp only [List.cons_append, weave, ih received hlength]

/-! ## The client below -/

theorem receiveAll_append (front : List TbcmPublishData) (data : TbcmPublishData) (client : Client) :
    receiveAll (front ++ [data]) client = (Act.receive data).run (receiveAll front client) := by
  rw [receiveAll, List.foldl_append]
  rfl

theorem run_receiveAll (client : Client) (hcontrol : client.control ≠ .destroyed)
    (received : List TbcmPublishData) :
    Run (Succeeds clientStep) client
        (received.map fun data => (.act (.receive data) : ClientInput conduct))
        (receiveAll received client) ∧
      (receiveAll received client).control = client.control := by
  induction received using List.reverseRecOn with
  | nil => exact ⟨.nil, rfl⟩
  | append_singleton front data ih =>
    obtain ⟨run, hsame⟩ := ih
    rw [List.map_append, receiveAll_append, Act.run_control]
    refine ⟨.snoc run ?_, hsame⟩
    rw [← hsame] at hcontrol
    simp only [Succeeds, clientStep, if_neg hcontrol]

theorem length_wireAll {events : List WireEvent} :
    ∀ {buffer buffer' : TbcmPayloadBuffer} {results : List WireResult},
      wireAll parse buffer events = .ok (buffer', results) → results.length = events.length := by
  induction events with
  | nil =>
    intro buffer buffer' results h
    obtain ⟨-, rfl⟩ := Prod.mk.inj (Except.ok.inj h)
    rfl
  | cons event rest ih =>
    intro buffer buffer' results h
    simp only [wireAll, bind, Except.bind] at h
    cases hevent : wireEvent parse buffer event with
    | error fault => simp [hevent] at h
    | ok first =>
      cases hrest : wireAll parse first.1 rest with
      | error fault => simp [hevent, hrest] at h
      | ok others =>
        simp only [hevent, hrest] at h
        obtain ⟨-, rfl⟩ := Prod.mk.inj (Except.ok.inj h)
        rw [List.length_cons, ih hrest, List.length_cons]

/-- A run is a run of the payload buffer and, with the data events replaced, one of the client. -/
theorem clientRun_of_wireRun {buffer : TbcmPayloadBuffer} {client : Client}
    {inputs : List (WireInput conduct)} {wire : WireClient}
    (run : Run (Succeeds (wireStep parse)) ⟨buffer, client⟩ inputs wire) :
    ∃ results, wireAll parse buffer (dataEvents inputs) = .ok (wire.buffer, results) ∧
      Run (Succeeds clientStep) client (weave inputs (results.map (·.received))) wire.client := by
  induction run with
  | nil => exact ⟨[], rfl, .nil⟩
  | @snoc inputs input mid last _ taken ih =>
    obtain ⟨results, hwire, hclient⟩ := ih
    have hlength : (results.map (·.received)).length = (dataEvents inputs).length := by
      rw [List.length_map, length_wireAll hwire]
    cases input with
    | data event =>
      simp only [Succeeds, wireStep] at taken
      split at taken
      · rename_i hlive
        simp only [Bool.and_eq_true, decide_eq_true_eq] at hlive
        cases hevent : wireEvent parse mid.buffer event with
        | error fault => simp [hevent] at taken
        | ok first =>
          simp only [hevent] at taken
          obtain rfl := Except.ok.inj taken
          have hone : wireAll parse mid.buffer [event] = .ok (first.1, [first.2]) := by
            simp only [wireAll, hevent, bind, Except.bind]
          refine ⟨results ++ [first.2], ?_, ?_⟩
          · rw [dataEvents_append]
            exact wireAll_append hwire hone
          · rw [List.map_append, weave_append _ _ _ _ hlength]
            simp only [List.map_cons, List.map_nil, weave, List.append_nil]
            exact hclient.append (run_receiveAll mid.client hlive.2 first.2.received).1
      · simp at taken
    | client input =>
      simp only [Succeeds, wireStep] at taken
      split at taken
      · simp at taken
      · cases hstep : clientStep mid.client input with
        | error halt => simp [hstep] at taken
        | ok next =>
          simp only [hstep] at taken
          obtain rfl := Except.ok.inj taken
          refine ⟨results, ?_, ?_⟩
          · rw [dataEvents_append]
            simpa [dataEvents] using hwire
          · have hwoven := weave_append [.client input] [] inputs _ hlength
            rw [List.append_nil] at hwoven
            rw [hwoven]
            exact .snoc hclient hstep

/-! ## A sample run -/

/-- A `cJSON_ParseWithLength` that knows the empty object. -/
def sampleParse (bytes : List UInt8) : Option Cjson :=
  if bytes = charBytes ['{', '}'] then some (.object []) else none

/-- The response to the first request, in two fragments. -/
def sampleDownlink : Downlink where
  topic := .printed (.clientrpcResponse 1)
  payload := charBytes ['{', '}']
  fragments :=
    [⟨⟨some (charBytes ['{']), ⟨true, true⟩⟩, [], true, true⟩,
      ⟨⟨some (charBytes ['}']), ⟨true, true⟩⟩, [], true, true⟩]
  contiguous := by decide
  payload_ne_nil := by decide
  following := by simp

/-- A request, the bytes of its response, and the handling of it. -/
def sampleWireInputs (conduct : Conduct) (h : conduct.result 0) : List (WireInput conduct) :=
  (sampleRequest h).map .client ++ (sampleDownlink.events.map .data ++
    [.client (.tbcmhRun (fun _ _ => .silent h) sampleEventAnswers)])

/-- The state behind it. -/
def sampleWire (conduct : Conduct) (h : conduct.result 0) : WireClient :=
  (sampleWireInputs conduct h).foldl (advance (wireStep sampleParse)) ⟨.empty, tbcmhInit 100 0⟩

/-! ## The messages of the server -/

theorem wireAll_prefix {events more : List WireEvent} :
    ∀ {buffer last : TbcmPayloadBuffer} {results : List WireResult},
      wireAll parse buffer (events ++ more) = .ok (last, results) →
      ∃ buffer' first rest, wireAll parse buffer events = .ok (buffer', first) ∧
        wireAll parse buffer' more = .ok (last, rest) ∧ results = first ++ rest := by
  induction events with
  | nil => exact fun h => ⟨_, [], _, rfl, h, rfl⟩
  | cons event events ih =>
    intro buffer last results h
    simp only [List.cons_append, wireAll, bind, Except.bind] at h
    cases hevent : wireEvent parse buffer event with
    | error fault => simp [hevent] at h
    | ok one =>
      cases hmore : wireAll parse one.1 (events ++ more) with
      | error fault => simp [hevent, hmore] at h
      | ok others =>
        simp only [hevent, hmore] at h
        obtain ⟨rfl, rfl⟩ := Prod.mk.inj (Except.ok.inj h)
        obtain ⟨buffer', first, rest, hfirst, hrest, hsplit⟩ := ih hmore
        refine ⟨buffer', one.2 :: first, rest, ?_, hrest, ?_⟩
        · simp only [wireAll, hevent, hfirst, bind, Except.bind]
        · rw [hsplit, List.cons_append]

/-- A response to the request with this id, with a payload that is JSON. -/
def isResponseTo (table : RequestTable) (requestId : Nat) : TbcmPublishData → Bool
  | .response table' requestId' (some _) => table' = table && requestId' = requestId
  | _ => false

/-- An event with data that meets `p`. -/
def TbcmEvent.carries (p : TbcmPublishData → Bool) : TbcmEvent → Bool
  | .data published => p published
  | _ => false

/-- An `on_response` is called with this id. -/
def HelperAction.isAnswer (table : RequestTable) (requestId : Nat) : HelperAction → Bool
  | .onResponse table' _ requestId' => table' = table && requestId' = requestId
  | _ => false

/-- Everything may happen, but no such response arrives in the middle of an `on_timeout`. -/
def answerlessConduct (table : RequestTable) (requestId : Nat) : Conduct where
  act _ _ act := act.receives (isResponseTo table requestId) = false
  result _ := True
  connected _ _ := True
  destroy _ := True
  destroy_of_empty _ _ := trivial

/-- How many such responses wait in the queue. -/
def Client.queued (p : TbcmPublishData → Bool) (client : Client) : Nat :=
  client.queue.countP (·.carries p)

section Queue

variable {p : TbcmPublishData → Bool}

theorem queued_bridgeSend_le (event : TbcmEvent) (client : Client) :
    (bridgeSend event client).queued p ≤ client.queued p + if event.carries p then 1 else 0 := by
  rw [bridgeSend, Client.queued, Client.queued]
  split
  · exact Nat.le_of_eq (List.countP_append.trans (congrArg _ List.countP_singleton))
  · exact Nat.le_add_right _ _

theorem queued_run_le (act : Act) (client : Client) :
    (act.run client).queued p ≤ client.queued p + if act.receives p then 1 else 0 := by
  cases act with
  | connack =>
    rw [Act.run, onMqttConnected]
    split
    · exact queued_bridgeSend_le .connected _
    · exact Nat.le_add_right _ _
  | connectionLost =>
    rw [Act.run, onMqttDisconnected]
    split
    · exact queued_bridgeSend_le .disconnected _
    · exact Nat.le_add_right _ _
  | receive data => exact queued_bridgeSend_le (.data data) client
  | responseTimer => exact queued_bridgeSend_le .checkTimeout client
  | request call hasOnTimeout answers =>
    have hqueue := (tbcmhRequest_outcome call .application hasOnTimeout answers client).sameLink.queue
    rw [Client.queued, Act.run, hqueue]
    exact Nat.le_add_right _ _
  | attributesSubscribe _ | attributesUnsubscribe _ | serverrpcSubscribe _
  | serverrpcUnsubscribe _ =>
    simp only [Act.run, tbcmhAttributesSubscribe, tbcmhAttributesUnsubscribe,
      tbcmhServerrpcSubscribe, tbcmhServerrpcUnsubscribe, subscribeFilled_eq,
      unsubscribeDrained_eq]
    exact Nat.le_add_right _ _
  | tick _ | otaupdateSubscribe _ _ _ | otaupdateUnsubscribe _ => exact Nat.le_add_right _ _

/-- Without an act that receives, nothing is put into the queue. -/
theorem queued_move_le {config config' : Config}
    (hacts : ∀ site client act, conduct.act site client act → act.receives p = false)
    (move : Move conduct config config') :
    config'.client.queued p ≤ config.client.queued p := by
  cases move with
  | act client detached site act allowed =>
    have hle := queued_run_le (p := p) act client
    rwa [hacts site client act allowed, if_neg (by simp)] at hle
  | dequeue client event queue hqueue hother =>
    simp only [Client.queued, Client.idle, hqueue, List.countP_cons]
    exact Nat.le_add_right _ _
  | connected client queue answers hqueue allowed =>
    have hlink := onTbcmConnected_sameLink answers { client with queue := queue }
    simp only [Client.queued, Client.idle, hlink.queue, hqueue, List.countP_cons]
    exact Nat.le_add_right _ _
  | take client table requestId front request back hlist =>
    simp only [Client.queued, unsubscribeEmptied_eq]
    exact Nat.le_refl _
  | openSweep client sweep table timestamp hall =>
    simp only [Client.queued, moveTimedOut, unsubscribeEmptied_eq]
    exact Nat.le_refl _
  | destroy client allowed => exact Nat.zero_le _
  | ota | handOver | respond | expire | drop | closeSweep | clear | checked | connect | stop
  | setControl => exact Nat.le_refl _

theorem queued_moves_le {config config' : Config}
    (hacts : ∀ site client act, conduct.act site client act → act.receives p = false)
    (moves : ReflTransGen (Move conduct) config config') :
    config'.client.queued p ≤ config.client.queued p := by
  induction moves with
  | refl => exact Nat.le_refl _
  | tail _ move ih => exact Nat.le_trans (queued_move_le hacts move) ih

end Queue

section Answers

variable {table : RequestTable} {requestId : Nat}

/-- The calls of `on_response` with this id, and the responses that are still to be handled. -/
def Client.answerCount (table : RequestTable) (requestId : Nat) (client : Client) : Nat :=
  client.history.countP (·.isAnswer table requestId) + client.queued (isResponseTo table requestId)

theorem answerlessConduct_act {site : Option Site} {client : Client} {act : Act}
    (h : (answerlessConduct table requestId).act site client act) :
    act.receives (isResponseTo table requestId) = false := h

theorem permitted_answerless {client : Client}
    {input : ClientInput (answerlessConduct table requestId)} (hact : ¬ ∃ act, input = .act act) :
    Permitted client input := by
  cases input with
  | act act => exact absurd ⟨act, rfl⟩ hact
  | tbcmhRun callbacks answers =>
    simp only [Permitted]
    split <;> trivial
  | destroy => exact fun _ => trivial
  | connect | disconnect | emptied | stop => trivial

theorem countP_isAnswer_of_unanswered {client client' : Client} (h : Unanswered client client') :
    client'.history.countP (·.isAnswer table requestId)
      = client.history.countP (·.isAnswer table requestId) := by
  obtain ⟨actions, hhistory, hactions⟩ := h
  rw [hhistory, List.countP_append, Nat.add_eq_left, List.countP_eq_zero]
  intro action hmem hanswer
  have hresponse := hactions action hmem
  cases action with
  | onResponse => exact absurd hresponse (by simp [HelperAction.isResponse])
  | accepted | onTimeout | onRequest | connected | unsubscribed =>
    exact absurd hanswer (by simp [HelperAction.isAnswer])

/-- A response is used up by the `on_response` that is called for it. -/
theorem answerCount_step {client client' : Client}
    {input : ClientInput (answerlessConduct table requestId)} (hstopped : StoppedWhenDue client.idle)
    (hok : clientStep client input = .ok client') :
    client'.answerCount table requestId ≤ client.answerCount table requestId
      + if input.receives (isResponseTo table requestId) then 1 else 0 := by
  have hacts : ∀ site client act, (answerlessConduct table requestId).act site client act →
      act.receives (isResponseTo table requestId) = false := fun _ _ _ => answerlessConduct_act
  rcases clientStep_answered hok with hnone | ⟨callbacks, answers, table', requestId', object, queue,
    rfl, hqueue, request, -, -, hhistory⟩
  · rw [Client.answerCount, Client.answerCount, countP_isAnswer_of_unanswered hnone, Nat.add_assoc]
    refine Nat.add_le_add_left ?_ _
    by_cases hact : ∃ act, input = .act act
    · obtain ⟨act, rfl⟩ := hact
      cases clientStep_outcome hok with
      | act _ _ => exact queued_run_le act client
    · exact Nat.le_trans (queued_moves_le hacts (moves_of_step hstopped (permitted_answerless hact) hok))
        (Nat.le_add_right _ _)
  · have hevent : onTbcmDataHandle (.response table' requestId' object) answers
        { client with queue := queue } = .ok client' := handled_of_tbcmhRun hqueue hok
    cases object with
    | none =>
      -- such a response is dropped, so that no `on_response` was called
      obtain rfl := Except.ok.inj hevent
      exact absurd (congrArg List.length hhistory) (by simp)
    | some object =>
      have hmoves : client'.queued (isResponseTo table requestId)
          ≤ Client.queued (isResponseTo table requestId) { client with queue := queue } :=
        queued_moves_le hacts (moves_onTbcmDataHandle hevent)
      have hqueued : client.queued (isResponseTo table requestId)
          = Client.queued (isResponseTo table requestId) { client with queue := queue }
            + [HelperAction.onResponse table' request.uid requestId'].countP
                (·.isAnswer table requestId) := by
        rw [Client.queued, hqueue, List.countP_cons, List.countP_singleton]
        rfl
      rw [Client.answerCount, Client.answerCount, hhistory, List.countP_append, hqueued]
      omega

/-- The calls of `on_response` of a run, by the responses that were put into the queue. -/
theorem answerCount_le_of_run {now lastHandle : Nat}
    {inputs : List (ClientInput (answerlessConduct table requestId))} {client : Client}
    (run : Run (Succeeds clientStep) (tbcmhInit now lastHandle) inputs client) :
    StoppedWhenDue client.idle ∧
      client.answerCount table requestId
        ≤ inputs.countP (·.receives (isResponseTo table requestId)) := by
  induction run with
  | nil => exact ⟨fun _ h => absurd h (by simp [Client.idle, tbcmhInit]), Nat.le_refl _⟩
  | @snoc inputs input mid last _ taken ih =>
    obtain ⟨hstopped, hle⟩ := ih
    refine ⟨?_, ?_⟩
    · by_cases hact : ∃ act, input = .act act
      · obtain ⟨act, rfl⟩ := hact
        cases clientStep_outcome taken with
        | act _ _ =>
          exact stoppedWhenDue_move hstopped
            (.act mid [] none act trivial : Move .any mid.idle (act.run mid).idle)
      · exact invariant_of_moves hstopped (fun _ _ => stoppedWhenDue_move)
          (moves_of_step hstopped (permitted_answerless hact) taken)
    · rw [List.countP_append, List.countP_singleton]
      exact Nat.le_trans (answerCount_step hstopped taken) (Nat.add_le_add_right hle _)

end Answers

/-! ## Answers of the server -/

/-- A message that answers the request with this id: its topic says so, all of it arrived, and it is
    JSON. -/
def Downlink.isAnswer (parse : List UInt8 → Option Cjson) (table : RequestTable) (requestId : Nat)
    (downlink : Downlink) : Bool :=
  downlink.Whole && isResponseTo table requestId (downlink.published parse)

theorem not_receives_of_wireRun {wire wire' : WireClient} {inputs : List (WireInput conduct)}
    (run : Run (Succeeds (wireStep parse)) wire inputs wire') :
    ∀ input, .client input ∈ inputs → input.receives (fun _ => true) = false := by
  induction run with
  | nil => exact fun _ h => absurd h List.not_mem_nil
  | snoc _ taken ih =>
    intro input hmem
    rcases List.mem_append.mp hmem with hbefore | hlast
    · exact ih input hbefore
    · rw [← List.mem_singleton.mp hlast] at taken
      simp only [Succeeds, wireStep] at taken
      split at taken
      · simp at taken
      · rename_i hother
        exact Bool.eq_false_iff.mpr hother

theorem ClientInput.receives_of_not_receives {p : TbcmPublishData → Bool} {input : ClientInput conduct}
    (h : input.receives (fun _ => true) = false) : input.receives p = false := by
  cases input with
  | act act =>
    cases act with
    | receive data => exact absurd h (by simp [ClientInput.receives, Act.receives])
    | _ => rfl
  | _ => rfl

/-- The client is given what was received, and no other data. -/
theorem countP_weave_le (p : TbcmPublishData → Bool) (inputs : List (WireInput conduct)) :
    (∀ input, .client input ∈ inputs → input.receives (fun _ => true) = false) →
      ∀ received : List (List TbcmPublishData),
        (weave inputs received).countP (·.receives p) ≤ received.flatten.countP p := by
  induction inputs with
  | nil => exact fun _ _ => Nat.zero_le _
  | cons input inputs ih =>
    intro hinputs received
    have hrest := ih fun input hmem => hinputs input (List.mem_cons_of_mem _ hmem)
    cases input with
    | client input =>
      have hother := ClientInput.receives_of_not_receives (p := p) (hinputs input List.mem_cons_self)
      rw [weave, List.countP_cons_of_neg (by simp [hother])]
      exact hrest received
    | data event =>
      cases received with
      | nil => exact Nat.zero_le _
      | cons first received =>
        rw [weave, List.countP_append, List.flatten_cons, List.countP_append, List.countP_map]
        exact Nat.add_le_add (Nat.le_refl _) (hrest received)

theorem countP_handed_le (p : TbcmPublishData → Bool) {downlinks : List Downlink}
    {results : List (List WireResult)} (hhanded : List.Forall₂ (Handed parse) downlinks results) :
    (results.flatten.map (·.received)).flatten.countP p
      ≤ downlinks.countP fun downlink => downlink.Whole && p (downlink.published parse) := by
  induction hhanded with
  | nil => exact Nat.le_refl _
  | @cons downlink first downlinks results hfirst _ ih =>
    rw [List.flatten_cons, List.map_append, List.flatten_append, List.countP_append,
      List.countP_cons, Nat.add_comm]
    refine Nat.add_le_add ih ?_
    rw [← List.flatMap_def, hfirst]
    split
    · rename_i hwhole
      rw [List.countP_singleton]
      simp [hwhole.1]
    · exact Nat.zero_le _

/-- **No answer without a message.** In every run on the bytes of the server an `on_response` is called
    for an id at most as often as whole messages with that id in their topic, and JSON in them, arrived;
    those that are still in the queue are counted too. -/
theorem answered_le_of_wireRun {table : RequestTable} {requestId now lastHandle : Nat}
    {buffer : TbcmPayloadBuffer} {inputs : List (WireInput (answerlessConduct table requestId))}
    {wire : WireClient} {downlinks : List Downlink}
    (run : Run (Succeeds (wireStep parse)) ⟨buffer, tbcmhInit now lastHandle⟩ inputs wire)
    (hdata : dataEvents inputs = downlinks.flatMap (·.events)) :
    wire.client.answerCount table requestId
      ≤ downlinks.countP (·.isAnswer parse table requestId) := by
  obtain ⟨last, results, hall, hhanded⟩ := wireAll_downlinks parse downlinks buffer
  obtain ⟨results', hwire, hclient⟩ := clientRun_of_wireRun run
  rw [hdata] at hwire
  obtain ⟨-, rfl⟩ := Prod.mk.inj (Except.ok.inj (hall.symm.trans hwire))
  calc wire.client.answerCount table requestId
      ≤ (weave inputs (results.flatten.map (·.received))).countP
          (·.receives (isResponseTo table requestId)) := (answerCount_le_of_run hclient).2
    _ ≤ (results.flatten.map (·.received)).flatten.countP (isResponseTo table requestId) :=
        countP_weave_le _ inputs (not_receives_of_wireRun run) _
    _ ≤ downlinks.countP (·.isAnswer parse table requestId) := countP_handed_le _ hhanded

/-- The run above: the response and the call for it. -/
theorem answered_le_of_wireRun_sampleDownlink :
    (sampleWire (answerlessConduct .clientrpc 1) trivial).client.answerCount .clientrpc 1
      ≤ [sampleDownlink].countP (·.isAnswer sampleParse .clientrpc 1) :=
  answered_le_of_wireRun (run_of_succeeds (by decide +kernel)) rfl

example : (sampleWire .any trivial).client.answerCount .clientrpc 1 = 1 := by
  decide +kernel

end ThingsboardMqtt
