import IndustrialGateway.Lib.PyExcept
import IndustrialGateway.Lib.PyTime
import IndustrialGateway.Lib.PyValue

/-!
# Devices, tags, results and messages

The records of `models.py` and the validators that guard the configuration
store. A tag's function, data type and orders are texts, since a record exists
before its validator has seen it.
-/

namespace IndustrialGateway

structure DeviceSpec (F : Type) where
  id : Option Int
  name : String
  driverType : String
  enabled : Bool
  pollIntervalMs : Int
  deviceGroup : String := ""
  connection : OrderedDict String (PyValue F) := ∅
  deriving DecidableEq

structure TagSpec (F : Type) where
  name : String
  address : Int
  function : String
  dataType : String
  tagGroup : String := ""
  id : Option Int := none
  deviceId : Option Int := none
  scale : F
  offset : F
  enabled : Bool := true
  unitId : Option Int := none
  wordCount : Option Int := none
  byteOrder : String := "big"
  wordOrder : String := "big"
  nodeId : Option String := none
  deriving DecidableEq

structure MqttConfig where
  host : String := "localhost"
  port : Int := 1883
  baseTopic : String := "industrial"
  username : Option String := none
  password : Option String := none
  clientId : String := "industrial-gateway"
  qos : Int := 0
  enabled : Bool := true
  deriving DecidableEq

structure SinkConfig (F : Type) where
  sinkType : String := "mqtt"
  enabled : Bool := true
  config : OrderedDict String (PyValue F) := ∅
  deriving DecidableEq

structure OutputRouteConfig (F : Type) where
  id : Option Int := none
  deviceId : Option Int := none
  tagGroup : String := ""
  sinkType : String := "mqtt"
  enabled : Bool := true
  config : OrderedDict String (PyValue F) := ∅
  deriving DecidableEq

inductive Quality where
  | good
  | bad
  deriving DecidableEq, Repr

def Quality.text : Quality → String
  | .good => "good"
  | .bad => "bad"

structure TagResult (F : Type) where
  name : String
  address : Int
  value : PyValue F
  quality : Quality
  error : Option String
  timestamp : Datetime
  nodeId : Option String := none
  tagGroup : String := ""
  deriving DecidableEq

/-- `TagResult.to_payload`; an absent key is `none`. -/
structure TagPayload (F : Type) where
  name : String
  address : Int
  value : PyValue F
  quality : Quality
  error : Option String
  timestamp : String
  nodeId : Option String
  tagGroup : Option String
  deriving DecidableEq

def TagResult.toPayload (tag : TagResult F) : TagPayload F where
  name := tag.name
  address := tag.address
  value := tag.value
  quality := tag.quality
  error := tag.error
  timestamp := PyTime.isoMillis tag.timestamp
  nodeId := tag.nodeId
  tagGroup := if tag.tagGroup = "" then none else some tag.tagGroup

/-- Good quality and no error: the tags whose values are published. -/
def TagResult.isGood (tag : TagResult F) : Bool :=
  tag.quality = .good && !textTruthy tag.error

structure ReadResult (F : Type) where
  device : DeviceSpec F
  timestamp : Datetime
  tags : List (TagResult F)
  error : Option String := none
  deriving DecidableEq

/-- One entry of a status message. -/
structure SensorStatus where
  sensorCode : String
  connStatus : String
  lastSeen : String
  healthScore : Nat
  errorMsg : Option String
  updateTime : String
  deriving DecidableEq

/-- The two shapes of a message payload: a measurement with its tags and a
status with its sensors. -/
inductive Payload (F : Type) where
  | measurement (deviceId : Option Int) (deviceName timestamp : String) (tags : List (TagPayload F))
  | status (timestamp : String) (sensors : List SensorStatus)
  deriving DecidableEq

def Payload.timestamp : Payload F → String
  | .measurement _ _ timestamp _ => timestamp
  | .status timestamp _ => timestamp

structure BatchMessage (F : Type) where
  topic : String
  payload : Payload F
  qos : Int := 0
  useMessageTopic : Bool := false
  deriving DecidableEq

def topicToken (value : String) : String := PyText.replaceChar ' ' '-' (PyText.strip value)

def BatchMessage.fromResults (device : DeviceSpec F) (tags : List (TagResult F))
    (timestamp : Datetime) (mqtt : MqttConfig) : BatchMessage F where
  topic := PyText.stripChar '/' mqtt.baseTopic ++ "/" ++ topicToken device.name ++ "/data"
  qos := mqtt.qos
  payload := .measurement device.id device.name (PyTime.isoMillis timestamp)
    (tags.map TagResult.toPayload)

-- ---------------------------------------------------------------------------
-- Validation
-- ---------------------------------------------------------------------------

def raiseUnless (ok : Bool) (message : String) : Except PyException Unit :=
  if ok then .ok () else .error ⟨.valueError, message⟩

@[simp] theorem raiseUnless_eq_ok {ok : Bool} {message : String} :
    raiseUnless ok message = .ok () ↔ ok = true := by
  cases ok <;> simp [raiseUnless]

theorem raiseUnless_bind_eq_ok {ok : Bool} {message : String} {f : Unit → Except PyException α} :
    raiseUnless ok message >>= f = .ok b ↔ ok = true ∧ f () = .ok b := by
  cases ok <;> simp [raiseUnless, bind, Except.bind]

/-- `not name.strip()` is the first check of every validator. -/
def nameGiven (name : String) : Bool := PyText.strip name ≠ ""

def dataTypes : List String :=
  ["auto", "bool", "int16", "uint16", "int32", "uint32", "float32", "float64", "string"]

def modbusFunctions : List String :=
  ["holding_register", "input_register", "coil", "discrete_input"]

def orders : List String := ["big", "little"]

def wordCountAtLeastOne : Option Int → Bool
  | none => false
  | some n => 1 ≤ n

section Validation

variable [PyRuntime F]

def validateCommonTagFields (tag : TagSpec F) : Except PyException Unit := do
  raiseUnless (dataTypes.contains tag.dataType) ("unsupported tag data type: " ++ tag.dataType)
  raiseUnless (!PyRuntime.eqInt tag.scale 0) "tag scale cannot be zero"
  raiseUnless (tag.dataType != "string" || wordCountAtLeastOne tag.wordCount)
    "string tag count must be at least 1"
  raiseUnless (tag.dataType = "string" || tag.wordCount = none || wordCountAtLeastOne tag.wordCount)
    "tag count must be at least 1"
  raiseUnless (orders.contains tag.byteOrder) "tag byte_order must be big or little"
  raiseUnless (orders.contains tag.wordOrder) "tag word_order must be big or little"

def unitIdInRange : Option Int → Bool
  | none => true
  | some n => 1 ≤ n && n ≤ 247

def validateModbusTag (tag : TagSpec F) : Except PyException Unit := do
  raiseUnless (nameGiven tag.name) "tag name is required"
  raiseUnless (0 ≤ tag.address) "tag address must be zero or greater"
  raiseUnless (modbusFunctions.contains tag.function)
    ("unsupported Modbus function: " ++ tag.function)
  raiseUnless (unitIdInRange tag.unitId) "tag unit_id must be between 1 and 247"
  validateCommonTagFields tag

def nodeIdGiven : Option String → Bool
  | none => false
  | some s => PyText.strip s ≠ ""

/-- The two node drivers differ in the function they want and in the words of
their errors. -/
def validateNodeTag (function functionError nodeIdError : String) (tag : TagSpec F) :
    Except PyException Unit := do
  raiseUnless (nameGiven tag.name) "tag name is required"
  raiseUnless (tag.function = function) (functionError ++ tag.function)
  raiseUnless (nodeIdGiven tag.nodeId) nodeIdError
  validateCommonTagFields tag

def validateOpcuaTag (tag : TagSpec F) : Except PyException Unit :=
  validateNodeTag "opcua_node" "unsupported OPC UA function: " "OPC UA tag node_id is required" tag

def validateMqttTag (tag : TagSpec F) : Except PyException Unit :=
  validateNodeTag "json_field" "unsupported MQTT function: " "MQTT tag JSON field is required" tag

def validateTag (driverType : String) (tag : TagSpec F) : Except PyException Unit :=
  if driverType = "opcua" then validateOpcuaTag tag
  else if driverType = "mqtt" then validateMqttTag tag
  else validateModbusTag tag

/-- What the checks on scale, type, count and orders leave. -/
structure CommonFieldsOk (tag : TagSpec F) : Prop where
  dataType : tag.dataType ∈ dataTypes
  scale : PyRuntime.eqInt tag.scale 0 = false
  stringCount : tag.dataType = "string" → ∃ n, tag.wordCount = some n ∧ 1 ≤ n
  count : ∀ n, tag.wordCount = some n → 1 ≤ n
  byteOrder : tag.byteOrder ∈ orders
  wordOrder : tag.wordOrder ∈ orders

theorem wordCountAtLeastOne_iff {wc : Option Int} :
    wordCountAtLeastOne wc = true ↔ ∃ n, wc = some n ∧ 1 ≤ n := by
  cases wc <;> simp [wordCountAtLeastOne]

theorem validateCommonTagFields_ok {tag : TagSpec F} :
    validateCommonTagFields tag = .ok () ↔ CommonFieldsOk tag := by
  simp only [validateCommonTagFields, raiseUnless_bind_eq_ok, raiseUnless_eq_ok,
    List.contains_iff_mem, Bool.not_eq_true', Bool.or_eq_true, bne_iff_ne, decide_eq_true_eq,
    wordCountAtLeastOne_iff]
  constructor
  · rintro ⟨htype, hscale, hstring, hcount, hbyte, hword⟩
    refine ⟨htype, hscale, fun h => hstring.resolve_left (not_not_intro h), ?_, hbyte, hword⟩
    intro n hn
    by_cases h : tag.dataType = "string"
    · obtain ⟨m, hm, hpos⟩ := hstring.resolve_left (not_not_intro h)
      rw [hn] at hm
      exact Option.some.inj hm ▸ hpos
    · rcases hcount with (h' | h') | ⟨m, hm, hpos⟩
      · exact absurd h' h
      · rw [hn] at h'; cases h'
      · rw [hn] at hm; exact Option.some.inj hm ▸ hpos
  · intro h
    refine ⟨h.dataType, h.scale, ?_, ?_, h.byteOrder, h.wordOrder⟩
    · by_cases ht : tag.dataType = "string"
      · exact .inr (h.stringCount ht)
      · exact .inl ht
    · cases hn : tag.wordCount with
      | none => exact .inl (.inr rfl)
      | some n => exact .inr ⟨n, rfl, h.count n hn⟩

structure ModbusTagOk (tag : TagSpec F) : Prop where
  name : PyText.strip tag.name ≠ ""
  address : 0 ≤ tag.address
  function : tag.function ∈ modbusFunctions
  unitId : ∀ n, tag.unitId = some n → 1 ≤ n ∧ n ≤ 247
  common : CommonFieldsOk tag

theorem validateModbusTag_ok {tag : TagSpec F} :
    validateModbusTag tag = .ok () ↔ ModbusTagOk tag := by
  have hunit : unitIdInRange tag.unitId = true ↔ ∀ n, tag.unitId = some n → 1 ≤ n ∧ n ≤ 247 := by
    cases tag.unitId <;> simp [unitIdInRange]
  simp only [validateModbusTag, raiseUnless_bind_eq_ok, validateCommonTagFields_ok, nameGiven,
    List.contains_iff_mem, decide_eq_true_eq, hunit]
  exact ⟨fun ⟨a, b, c, d, e⟩ => ⟨a, b, c, d, e⟩, fun ⟨a, b, c, d, e⟩ => ⟨a, b, c, d, e⟩⟩

structure NodeTagOk (function : String) (tag : TagSpec F) : Prop where
  name : PyText.strip tag.name ≠ ""
  function : tag.function = function
  nodeId : ∃ s, tag.nodeId = some s ∧ PyText.strip s ≠ ""
  common : CommonFieldsOk tag

theorem validateNodeTag_ok {function functionError nodeIdError : String} {tag : TagSpec F} :
    validateNodeTag function functionError nodeIdError tag = .ok () ↔ NodeTagOk function tag := by
  have hnode : nodeIdGiven tag.nodeId = true ↔ ∃ s, tag.nodeId = some s ∧ PyText.strip s ≠ "" := by
    cases tag.nodeId <;> simp [nodeIdGiven]
  simp only [validateNodeTag, raiseUnless_bind_eq_ok, validateCommonTagFields_ok, nameGiven,
    decide_eq_true_eq, hnode]
  exact ⟨fun ⟨a, b, c, d⟩ => ⟨a, b, c, d⟩, fun ⟨a, b, c, d⟩ => ⟨a, b, c, d⟩⟩

/-- Every validator runs the common checks. -/
theorem commonFieldsOk_of_validateTag {driverType : String} {tag : TagSpec F}
    (h : validateTag driverType tag = .ok ()) :
    PyText.strip tag.name ≠ "" ∧ CommonFieldsOk tag := by
  unfold validateTag at h
  split at h
  · have h := validateNodeTag_ok.mp h; exact ⟨h.name, h.common⟩
  · split at h
    · have h := validateNodeTag_ok.mp h; exact ⟨h.name, h.common⟩
    · have h := validateModbusTag_ok.mp h; exact ⟨h.name, h.common⟩

end Validation

end IndustrialGateway
