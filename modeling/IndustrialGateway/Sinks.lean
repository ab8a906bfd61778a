import IndustrialGateway.Lib.Fallible
import IndustrialGateway.Lib.PyJson
import IndustrialGateway.Models

/-!
# The sinks

`MqttSink` of `sinks/mqtt.py` and `PostgresSink` of `sinks/database.py`, the two
classes of the sink registry. The client and the connection are given as what
their calls do to the broker or the database, whose state is `σ`.
-/

namespace IndustrialGateway

variable {F σ : Type}

/-- `message.payload["device"]` and `message.payload["tags"]`, where the payload
has these keys. -/
def Payload.device? : Payload F → Option (Option Int × String)
  | .measurement deviceId deviceName _ _ => some (deviceId, deviceName)
  | .status _ _ => none

def Payload.tags? : Payload F → Option (List (TagPayload F))
  | .measurement _ _ _ tags => some tags
  | .status _ _ => none

/-- `payload[key]`. -/
def payloadItem [PyRuntime F] (key : String) (value : Option α) : Except PyException α :=
  match value with
  | some value => .ok value
  | none => .error ⟨.keyError, PyRuntime.reprStr F key⟩

def textValue (text : Option String) : PyValue F := (text.map PyValue.str).getD .none

-- ---------------------------------------------------------------------------
-- MQTT
-- ---------------------------------------------------------------------------

/-- `client.publish(topic, payload, qos)`, which gives `rc`. -/
abbrev MqttClient (σ : Type) : Type :=
  (topic payload : String) → (qos : Int) → Fallible PyException σ Int

structure MqttSink (σ : Type) where
  config : MqttConfig
  client : Option (MqttClient σ) := none

/-- What is read of a `datetime`: its date and clock as text, its microseconds
and its offset in the format `%z`. -/
structure IsoTime where
  dateTime : String
  microsecond : Nat
  offset : String

/-- `connect` makes the client, connects it and starts its loop. -/
def MqttSink.start (connect : MqttConfig → Fallible PyException σ (MqttClient σ))
    (sink : MqttSink σ) : Fallible PyException σ (MqttSink σ) :=
  if sink.config.enabled = false then pure sink
  else do
    let client ← connect sink.config
    return { sink with client := some client }

def MqttSink.effectiveTopic (sink : MqttSink σ) (message : BatchMessage F) : String :=
  if message.useMessageTopic then PyText.stripChar '/' message.topic
  else PyText.stripChar '/' sink.config.baseTopic

section Mqtt

-- `datetime.fromisoformat`; `none` is its `ValueError`
variable (fromisoformat : String → Option IsoTime)

def parseTimestamp (timestamp : String) : Option IsoTime :=
  let text := PyText.strip timestamp
  if text = "" then none
  else if text.toList.getLast? = some 'Z' then
    fromisoformat (String.ofList text.toList.dropLast ++ "+00:00")
  else fromisoformat text

def mqttTimestamp (timestamp : String) : String :=
  match parseTimestamp fromisoformat timestamp with
  | none => PyText.replaceChar 'T' ' ' timestamp
  | some parsed =>
    parsed.dateTime ++ "." ++ PyTime.pad 3 (parsed.microsecond / 1000) ++
      String.ofList (parsed.offset.toList.take 3)

def tagEntries (tags : List (TagPayload F)) : List (String × PyValue F) :=
  (tags.filter fun tag => tag.name ≠ "").map fun tag => (tag.name, tag.value)

variable [PyRuntime F]

def SensorStatus.entries (sensor : SensorStatus) : List (String × PyValue F) :=
  [("sensor_code", .str sensor.sensorCode), ("conn_status", .str sensor.connStatus),
    ("last_seen", .str sensor.lastSeen), ("health_score", .float (PyRuntime.lit sensor.healthScore)),
    ("error_msg", textValue sensor.errorMsg), ("update_time", .str sensor.updateTime)]

/-- A status goes out as it is, a measurement as its time and its values by name. -/
def mqttPayload : Payload F → List (String × PyValue F)
  | .status timestamp sensors =>
    [("timestamp", .str timestamp), ("sensors", .list (sensors.map fun sensor => .dict sensor.entries))]
  | .measurement _ _ timestamp tags =>
    ((OrderedDict.ofList [("timestamp", .str (mqttTimestamp fromisoformat timestamp))]).update
      (tagEntries tags)).entries

def MqttSink.publishBatch (sink : MqttSink σ) (message : BatchMessage F) :
    Fallible PyException σ Unit :=
  match sink.client with
  | none => .raise ⟨.runtimeError, "MQTT sink is not started"⟩
  | some client => do
    let payload ← .lift (PyValue.dumps "" (.dict (mqttPayload fromisoformat message.payload)))
    let rc ← client (sink.effectiveTopic message) payload message.qos
    if rc ≠ 0 then .raise ⟨.runtimeError, "MQTT publish failed with rc=" ++ PyText.textOfInt rc⟩
    else pure ()

end Mqtt

-- ---------------------------------------------------------------------------
-- PostgreSQL
-- ---------------------------------------------------------------------------

/-- The parameters of one insert statement. -/
structure Params where
  deviceId : Option Int
  deviceName : String
  tagName : String
  tagAddress : Int
  valueJson : String
  quality : Quality
  error : Option String
  tagTimestamp : String
  deriving DecidableEq

/-- `cursor.execute` on a cursor of its own, and `commit`. -/
structure Connection (σ : Type) where
  execute : String → Option Params → Fallible PyException σ Unit
  commit : Fallible PyException σ Unit

structure PostgresSink (F σ : Type) where
  config : OrderedDict String (PyValue F)
  connection : Option (Connection σ) := none

def createTableSql (table : String) : String :=
  "\n    CREATE TABLE IF NOT EXISTS " ++ table ++ " (\n" ++
  "        id BIGINT GENERATED BY DEFAULT AS IDENTITY PRIMARY KEY,\n" ++
  "        device_id INTEGER,\n" ++
  "        device_name VARCHAR(255) NOT NULL,\n" ++
  "        tag_name VARCHAR(255) NOT NULL,\n" ++
  "        tag_address INTEGER,\n" ++
  "        value_json TEXT,\n" ++
  "        quality VARCHAR(32) NOT NULL,\n" ++
  "        error TEXT,\n" ++
  "        tag_timestamp VARCHAR(64) NOT NULL,\n" ++
  "        inserted_at TIMESTAMP DEFAULT CURRENT_TIMESTAMP\n" ++
  "    )\n    "

def insertSql (table placeholder : String) : String :=
  let placeholders := String.intercalate ", " (List.replicate 8 placeholder)
  "INSERT INTO " ++ table ++ " " ++
    "(device_id, device_name, tag_name, tag_address, value_json, quality, error, tag_timestamp) " ++
    "VALUES (" ++ placeholders ++ ")"

section Postgres

variable [PyRuntime F]

def paramsOfTag (device : Option Int × String) (timestamp : String) (tag : TagPayload F) :
    Except PyException Params := do
  let valueJson ← PyValue.dumps " " tag.value
  return {
    deviceId := device.1
    deviceName := device.2
    tagName := tag.name
    tagAddress := tag.address
    valueJson
    quality := tag.quality
    error := tag.error
    tagTimestamp := if tag.timestamp = "" then timestamp else tag.timestamp }

def paramsFromMessage (message : BatchMessage F) : Except PyException (List Params) := do
  let device ← payloadItem (F := F) "device" message.payload.device?
  let tags ← payloadItem (F := F) "tags" message.payload.tags?
  tags.mapM (paramsOfTag device message.payload.timestamp)

-- `str.isalnum` for one character
variable (isAlnum : Char → Bool)

def safeTableName (value : PyValue F) : Except PyException String :=
  match value with
  | .str s =>
    let rest := s.toList.filter (· ≠ '_')
    if rest ≠ [] ∧ rest.all isAlnum then .ok s
    else .error ⟨.valueError, "table name may only contain letters, numbers, and underscores"⟩
  | value =>
    .error ⟨.attributeError, "'" ++ value.typeName ++ "' object has no attribute 'replace'"⟩

namespace PostgresSink

def tableName (sink : PostgresSink F σ) : Except PyException String :=
  safeTableName isAlnum ((sink.config.get? "table").getD (.str "gateway_tag_values"))

def start (connect : OrderedDict String (PyValue F) → Fallible PyException σ (Connection σ))
    (sink : PostgresSink F σ) : Fallible PyException σ (PostgresSink F σ) := do
  let connection ← connect sink.config
  if ((sink.config.get? "auto_create").getD (.bool true)).truthy then
    let table ← .lift (sink.tableName isAlnum)
    connection.execute (createTableSql table) none
    connection.commit
  return { sink with connection := some connection }

def insertRows (connection : Connection σ) (sql : String) : List Params → Fallible PyException σ Unit
  | [] => pure ()
  | params :: rest => do
    connection.execute sql (some params)
    insertRows connection sql rest

def publishBatch (sink : PostgresSink F σ) (message : BatchMessage F) : Fallible PyException σ Unit :=
  match sink.connection with
  | none => .raise ⟨.runtimeError, "database sink is not started"⟩
  | some connection => do
    let table ← .lift (sink.tableName isAlnum)
    let rows ← .lift (paramsFromMessage message)
    insertRows connection (insertSql table "%s") rows
    connection.commit

end PostgresSink

end Postgres

-- ---------------------------------------------------------------------------
-- The registry
-- ---------------------------------------------------------------------------

/-- A sink of one of the registered classes. -/
inductive RegisteredSink (F σ : Type) where
  | mqtt (sink : MqttSink σ)
  | postgresql (sink : PostgresSink F σ)

def RegisteredSink.publishBatch [PyRuntime F] (fromisoformat : String → Option IsoTime)
    (isAlnum : Char → Bool) (sink : RegisteredSink F σ) (message : BatchMessage F) :
    Fallible PyException σ Unit :=
  match sink with
  | .mqtt sink => sink.publishBatch fromisoformat message
  | .postgresql sink => sink.publishBatch isAlnum message

end IndustrialGateway
