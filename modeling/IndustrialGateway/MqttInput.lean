import IndustrialGateway.ClientIds
import IndustrialGateway.Lib.PyLoads
import IndustrialGateway.OpcUaModes

/-!
# Messages of MQTT inputs

`MqttInputDriver._on_message` of `drivers/mqtt.py`: a message is an object whose fields
are the values of the device's tags. A message that cannot be read gives every tag the
same error; in one that can be read each tag stands for itself.
-/

namespace IndustrialGateway

open ConfigService

variable {F : Type}

namespace MqttInput

-- ---------------------------------------------------------------------------
-- Reading a message
-- ---------------------------------------------------------------------------

inductive MessagePayload where
  | bytes (data : ByteArray)
  | str (text : String)

/-- A `datetime` without and with a time zone. -/
inductive ParsedTime where
  | naive (time : Int)
  | aware (time : Datetime)

/-- What the driver calls of the standard library. -/
structure Decoders (F : Type) where
  /-- `data.decode("utf-8")`. -/
  utf8 : ByteArray → Except PyException String
  /-- `json.loads(text)`. -/
  json : String → Except PyException (PyValue F)
  /-- `datetime.fromisoformat(text)`; `none` is its `ValueError`. -/
  fromisoformat : String → Option ParsedTime
  /-- `datetime.strptime(text, "%Y-%m-%d %H:%M:%S")`. -/
  strptime : String → Except PyException ParsedTime
  /-- `parsed.astimezone()` of a naive time. -/
  astimezone : Int → Except PyException Datetime

/-- UTF-8 and JSON as they are read here, and the given decoders on the rest. -/
def Decoders.reading [PyRuntime F] (py : Decoders F) : Decoders F where
  utf8 data :=
    match String.fromUTF8? data with
    | some text => .ok text
    | none => py.utf8 data
  json text :=
    match JsonReader.loads text with
    | some value => .ok value
    | none => py.json text
  fromisoformat := py.fromisoformat
  strptime := py.strptime
  astimezone := py.astimezone

def payloadText (py : Decoders F) : MessagePayload → Except PyException String
  | .str text => .ok text
  | .bytes data => py.utf8 data

def fieldPath (value : PyValue F) : List String → PyValue F
  | [] => value
  | part :: parts =>
    match value with
    | .dict kvs =>
      match OrderedDict.lookup part kvs with
      | some value => fieldPath value parts
      | none => .none
    | _ => .none

/-- `_field_value`. -/
def fieldValue (payload : PyValue F) (field : String) : PyValue F :=
  fieldPath payload (PyText.split '.' field)

section

variable [PyRuntime F]

def timestampField (connection : Settings F) : String :=
  PyText.strip (valueOr (optional connection "timestamp_field") (.str "")).text

def payloadTimestamp (py : Decoders F) (payload : PyValue F) (connection : Settings F) :
    Except PyException (Option Datetime) :=
  if timestampField connection = "" then .ok none
  else
    match fieldValue payload (timestampField connection) with
    | .none => .ok none
    | value =>
      let text := PyText.strip value.text
      if text = "" then .ok none
      else do
        let parsed ← match py.fromisoformat text with
          | some parsed => .ok parsed
          | none => py.strptime text
        match parsed with
        | .aware time => return some time
        | .naive time => return some (← py.astimezone time)

theorem payloadTimestamp_unset (py : Decoders F) (payload : PyValue F) (connection : Settings F)
    (h : timestampField connection = "") : payloadTimestamp py payload connection = .ok none := if_pos h

-- ---------------------------------------------------------------------------
-- Values
-- ---------------------------------------------------------------------------

/-- A text that reads as a number becomes the number. -/
def autoValue : PyValue F → PyValue F
  | .str s =>
    let text := PyText.strip s
    if text = "" then .str s
    else if text.toList.any (· ∈ ['.', 'e', 'E']) then
      match PyRuntime.parse text with
      | some x => .float x
      | none => .str s
    else
      match PyText.intOfText text with
      | some n => .int n
      | none => .str s
  | value => value

/-- Apart from `auto` the types convert as those of OPC UA nodes do. -/
def coerceValue (value : PyValue F) (tag : TagSpec F) : Except PyException (PyValue F) :=
  if tag.dataType = "auto" then .ok (autoValue value)
  else OpcUa.coerceValue OpcUa.builtins value tag

omit [PyRuntime F] in
/-- The field of a tag. -/
def field (tag : TagSpec F) : String := textOr tag.nodeId tag.name

/-- What `_tag_result` makes of what it finds in the field, or raises. -/
def foundValue (found : PyValue F) (tag : TagSpec F) : Except PyException (PyValue F) :=
  match found with
  | .none => .error ⟨.keyError, PyRuntime.reprStr F (field tag)⟩
  | value => coerceValue value tag

def tagValue (payload : PyValue F) (tag : TagSpec F) : Except PyException (PyValue F) :=
  foundValue (fieldValue payload (field tag)) tag

/-- The payload and the time of a message, or what `_on_message` catches. -/
def readMessage (py : Decoders F) (connection : Settings F) (now : Datetime) (message : MessagePayload) :
    Except PyException (PyValue F × Datetime) := do
  let payload ← py.json (← payloadText py message)
  let timestamp ← payloadTimestamp py payload connection
  return (payload, timestamp.getD now)

/-- `_on_message`: what is emitted. -/
def onMessage (py : Decoders F) (device : DeviceSpec F) (tags : List (TagSpec F)) (now : Datetime)
    (message : MessagePayload) : ReadResult F :=
  match readMessage py device.connection now message with
  | .ok (payload, timestamp) =>
    ⟨device, timestamp, tags.map fun tag => tagResult tag timestamp (tagValue payload tag), none⟩
  | .error exc => ⟨device, now, tags.map fun tag => bad tag now exc.message, none⟩

end

end MqttInput

end IndustrialGateway
