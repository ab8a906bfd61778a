import IndustrialGateway.RuntimeManager
import IndustrialGateway.StoredRoutes

/-!
# Topic requests

`topic_responder.py` and `topic_request_client.py` with the broker between them.
The responder answers a MAC with the topic that its table gives; the client
waits for the answer and hands it to the configuration service. Payloads are
JSON documents that were read already.
-/

namespace IndustrialGateway

open ConfigService

variable {F : Type} [PyRuntime F]

/-- A message; a payload that is no JSON is `none`. -/
structure TopicMessage (F : Type) where
  topic : String
  payload : Option (PyValue F)

-- ---------------------------------------------------------------------------
-- The responder
-- ---------------------------------------------------------------------------

/-- The table of the responder and the sensors that its database gives for a MAC. -/
structure TopicResponder (F : Type) where
  deviceMap : OrderedDict String (Settings F)
  fetchSensorRows : String → Except PyException (List (Settings F))

namespace TopicResponder

def requestTopic : String := "C-S/request-topic"

def requestSensorCode : String := "C-S/request-sensor_cd"

/-- `refresh_mapping_once`, after the query. -/
def refreshMapping (responder : TopicResponder F) (rows : List (Settings F)) : TopicResponder F :=
  { responder with
    deviceMap := .ofList <| (rows.filter fun row => (optional row "mac_address").truthy).map fun row =>
      ((optional row "mac_address").text, row) }

/-- The topic of a row of the table. -/
def mappingTopic (mapping : Settings F) : String :=
  (optional mapping "plant_cd").text ++ "/" ++ (optional mapping "plant_bd").text ++ "/" ++
    (optional mapping "process_type").text ++ "/" ++ (optional mapping "line_code").text ++ "/" ++
    (optional mapping "equip_name").text ++ "/-/"

def topicValue (responder : TopicResponder F) (mac : String) : String :=
  let mapping := (responder.deviceMap.get? mac).getD ∅
  if mapping.isEmpty then "Unknown MAC" else mappingTopic mapping

/-- `_publish`. -/
def publish (topic : String) (payload : PyValue F) : Except PyException (List (TopicMessage F)) := do
  payload.checkJson
  return [⟨topic, some payload⟩]

def publishTopicResponse (responder : TopicResponder F) (mac : String) :
    Except PyException (List (TopicMessage F)) :=
  publish ("S-C/request-topic/" ++ mac) (.dict [("topic", .str (responder.topicValue mac))])

def publishSensorCodeResponse (responder : TopicResponder F) (mac : String) :
    Except PyException (List (TopicMessage F)) := do
  let rows ← responder.fetchSensorRows mac
  publish ("S-C/request-sensor_cd/" ++ mac) (.list (rows.map fun row => .dict row.entries))

/-- What is published for a message. -/
def handlePayload (responder : TopicResponder F) (message : TopicMessage F) :
    Except PyException (List (TopicMessage F)) :=
  match message.payload with
  | none => .ok []
  | some (.dict data) =>
    let mac := PyText.strip (valueOr (optional (.ofList data) "mac") (.str "")).text
    if mac = "" then .ok []
    else if message.topic = requestTopic then responder.publishTopicResponse mac
    else if message.topic = requestSensorCode then responder.publishSensorCodeResponse mac
    else .ok []
  | some data =>
    .error ⟨.attributeError, "'" ++ data.typeName ++ "' object has no attribute 'get'"⟩

end TopicResponder

-- ---------------------------------------------------------------------------
-- The client
-- ---------------------------------------------------------------------------

/-- What the MQTT client is made of. -/
structure TopicClient (F : Type) where
  clientId : String
  username : Option String
  password : PyValue F
  host : String
  port : Int

/-- The broker: whether a client can connect, and the messages that a request
brings back before the client stops to wait. -/
structure TopicBroker (F : Type) where
  connect : TopicClient F → Except PyException Unit
  answers : TopicMessage F → List (TopicMessage F)

/-- `state` with the two events: a part is there when its event is set. -/
structure TopicAnswer where
  topic : Option String
  sensorCount : Option Nat

def TopicAnswer.onMessage (mac : String) (state : TopicAnswer) (message : TopicMessage F) :
    TopicAnswer :=
  match message.payload with
  | some (.dict payload) =>
    if message.topic = "S-C/request-topic/" ++ mac then
      { state with topic := some (valueOr (optional (.ofList payload) "topic") (.str "")).text }
    else state
  | some (.list payload) =>
    if message.topic = "S-C/request-sensor_cd/" ++ mac then
      { state with sensorCount := some payload.length }
    else state
  | _ => state

def topicClient (mqttConfig : Settings F) (millis : Int) : Except PyException (TopicClient F) := do
  let username := optional mqttConfig "username"
  return {
    clientId := (valueOr (optional mqttConfig "client_id") (.str "industrial-gateway")).text ++
      "-topic-request-" ++ PyText.textOfInt millis
    username := if username.truthy then some username.text else none
    password := if username.truthy then valueOr (optional mqttConfig "password") .none else .none
    host := (valueOr (optional mqttConfig "host") (.str "localhost")).text
    port := ← (valueOr (optional mqttConfig "port") (.int 1883)).toInt }

/-- `millis` is the clock. -/
def requestTopicByMac (broker : TopicBroker F) (millis : Int) : TopicResolver F :=
  fun macAddress mqttConfig => do
    let mac := PyText.strip macAddress
    raiseUnless (mac ≠ "") "mac_address is required"
    broker.connect (← topicClient mqttConfig millis)
    let request : PyValue F := .dict [("mac", .str mac)]
    let state := (broker.answers ⟨"C-S/request-topic", some request⟩).foldl
      (TopicAnswer.onMessage mac) ⟨none, none⟩
    if state.topic.isNone then .error ⟨.other "TimeoutError", "topic response timeout for " ++ mac⟩
    let state := (broker.answers ⟨"C-S/request-sensor_cd", some request⟩).foldl
      (TopicAnswer.onMessage mac) state
    return .ofList [("topic", .str (state.topic.getD "")),
      ("sensor_count", .int (state.sensorCount.getD 0))]

/-- A broker that brings the requests to the responder and its answers back. -/
def TopicResponder.broker (responder : TopicResponder F)
    (connect : TopicClient F → Except PyException Unit) : TopicBroker F where
  connect := connect
  answers message :=
    match responder.handlePayload message with
    | .ok messages => messages
    | .error _ => []

end IndustrialGateway
