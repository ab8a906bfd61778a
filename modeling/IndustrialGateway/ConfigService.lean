import IndustrialGateway.ConfigSchema
import IndustrialGateway.ConfigStore
import IndustrialGateway.Lib.Csv

/-!
# The configuration service

`config_service.py`: payloads of the web API and rows of CSV files become
devices, tags, sinks and routes of the store. Payloads are dictionaries of any
values, rows are texts. An import saves each row before it reads the next.
-/

namespace IndustrialGateway

abbrev Settings (F : Type) := OrderedDict String (PyValue F)

namespace ConfigService

open ConfigStore

variable {F : Type} [PyRuntime F]

-- ---------------------------------------------------------------------------
-- Values
-- ---------------------------------------------------------------------------

/-- `payload[key]`. -/
def required (payload : Settings F) (key : String) : Except PyException (PyValue F) :=
  match payload.get? key with
  | some value => .ok value
  | none => .error ⟨.keyError, "'" ++ key ++ "'"⟩

/-- `payload.get(key, default)`. -/
def optional (payload : Settings F) (key : String) (default : PyValue F := .none) : PyValue F :=
  (payload.get? key).getD default

/-- `value or other`. -/
def valueOr (value other : PyValue F) : PyValue F := if value.truthy then value else other

/-- `value in (None, "")`. -/
def isBlank : PyValue F → Bool
  | .none => true
  | .str s => s = ""
  | _ => false

def optionalInt (value : PyValue F) : Except PyException (Option Int) := do
  if isBlank value then return none
  return some (← value.toInt)

def csvTruths : List String := ["1", "true", "yes", "y", "on"]

def csvBool (value : PyValue F) (default : Bool) : Bool :=
  if isBlank value then default else csvTruths.contains (PyText.lower (PyText.strip value.text))

/-- `int(text)` and `float(text)` of a cell. -/
def csvInt (F : Type) [PyRuntime F] (s : String) : Except PyException Int :=
  (PyValue.str s : PyValue F).toInt

def csvFloat (s : String) : Except PyException F := (PyValue.str s : PyValue F).toFloat

/-- `float(text or default)`. -/
def csvFloatOr (s : String) (default : Nat) : Except PyException F :=
  if s = "" then .ok (PyRuntime.lit default) else csvFloat s

/-- A cell as a value: a text, or `None` where the row is too short. -/
def cellValue : Option String → PyValue F
  | some s => .str s
  | none => .none

/-- `row.get(key)` and `row.get(key) or default`. -/
def cell (row : Csv.Row) (key : String) : Option String := (row.get? key).join

def cellOr (row : Csv.Row) (key : String) (default : String := "") : String :=
  textOr (cell row key) default

def csvOptionalInt (value : Option String) : Except PyException (Option Int) :=
  match value with
  | none => .ok none
  | some s => if PyText.strip s = "" then .ok none else (csvInt F s).map some

-- ---------------------------------------------------------------------------
-- Payloads
-- ---------------------------------------------------------------------------

def deviceFromPayload (deviceId : Option Int) (payload : Settings F) :
    Except PyException (DeviceSpec F) := do
  let driverType := (← required payload "driver_type").text
  return {
    id := deviceId
    deviceGroup := (optional payload "device_group" (.str "")).text
    name := (← required payload "name").text
    driverType
    enabled := (optional payload "enabled" (.bool true)).truthy
    pollIntervalMs := ← (optional payload "poll_interval_ms" (.int 1000)).toInt
    connection := ← normalizeConnectionForDriver driverType
      (valueOr (optional payload "connection") (.dict [])) }

/-- A tag of a payload before the validator has seen its function, data type and
node id, which may be any values. -/
structure TagDraft (F : Type) where
  tag : TagSpec F
  function : PyValue F
  dataType : PyValue F
  nodeId : PyValue F

def tagFromPayload (tagId : Option Int) (deviceId : Int) (payload : Settings F) :
    Except PyException (TagDraft F) := do
  let wordCount ← optionalInt (optional payload "count" (optional payload "word_count"))
  let unitId ← optionalInt (optional payload "unit_id")
  let name := (← required payload "name").text
  let address ← (optional payload "address" (.int 0)).toInt
  let function ← required payload "function"
  let dataType ← required payload "data_type"
  let scale ← (optional payload "scale" (.float (PyRuntime.lit 1))).toFloat
  let offset ← (optional payload "offset" (.float (PyRuntime.lit 0))).toFloat
  return {
    tag := {
      id := tagId
      deviceId
      tagGroup := (optional payload "tag_group" (.str "")).text
      name, address
      function := ""
      dataType := ""
      scale, offset
      enabled := (optional payload "enabled" (.bool true)).truthy
      unitId, wordCount
      byteOrder := (optional payload "byte_order" (.str "big")).text
      wordOrder := (optional payload "word_order" (.str "big")).text }
    function, dataType
    nodeId := valueOr (optional payload "node_id") .none }

/-- The validator looks the value up in a set of texts. -/
def textOfChoice (error : String) : PyValue F → Except PyException String
  | .str s => .ok s
  | .list _ => .error ⟨.typeError, "unhashable type: 'list'"⟩
  | .dict _ => .error ⟨.typeError, "unhashable type: 'dict'"⟩
  | v => .error ⟨.valueError, error ++ v.text⟩

/-- The validator compares the value with one text. -/
def textOfFunction (function error : String) : PyValue F → Except PyException String
  | .str s => do
    raiseUnless (s = function) (error ++ s)
    return s
  | v => .error ⟨.valueError, error ++ v.text⟩

/-- The validator of a node driver strips the node id. -/
def textOfNodeId (error : String) : PyValue F → Except PyException (Option String)
  | .none => .error ⟨.valueError, error⟩
  | .str s => do
    raiseUnless (PyText.strip s ≠ "") error
    return some s
  | v => .error ⟨.attributeError, "'" ++ v.typeName ++ "' object has no attribute 'strip'"⟩

/-- What SQLite makes of a node id that no validator has seen. -/
def storedNodeId : PyValue F → Except PyException (Option String)
  | .none => .ok none
  | .str s => .ok (some s)
  | .bool b => .ok (some (if b then "1" else "0"))
  | .int n => do
    sqlInteger n
    return some (PyText.textOfInt n)
  | .float x => .ok (some (PyRuntime.repr x))
  | v => .error ⟨.other "ProgrammingError",
      "Error binding parameter: type '" ++ v.typeName ++ "' is not supported"⟩

-- The checks of the validators up to the last value that may be no text, in their order;
-- `saveTag` then validates the tag as a whole.

def TagDraft.nodeSpec (draft : TagDraft F) (function functionError nodeIdError : String) :
    Except PyException (TagSpec F) := do
  raiseUnless (nameGiven draft.tag.name) "tag name is required"
  let function ← textOfFunction function functionError draft.function
  let nodeId ← textOfNodeId nodeIdError draft.nodeId
  let dataType ← textOfChoice "unsupported tag data type: " draft.dataType
  return { draft.tag with function, dataType, nodeId }

def TagDraft.modbusSpec (draft : TagDraft F) : Except PyException (TagSpec F) := do
  raiseUnless (nameGiven draft.tag.name) "tag name is required"
  raiseUnless (0 ≤ draft.tag.address) "tag address must be zero or greater"
  let function ← textOfChoice "unsupported Modbus function: " draft.function
  raiseUnless (modbusFunctions.contains function) ("unsupported Modbus function: " ++ function)
  raiseUnless (unitIdInRange draft.tag.unitId) "tag unit_id must be between 1 and 247"
  let dataType ← textOfChoice "unsupported tag data type: " draft.dataType
  validateCommonTagFields { draft.tag with function, dataType }
  let nodeId ← storedNodeId draft.nodeId
  return { draft.tag with function, dataType, nodeId }

def TagDraft.spec (draft : TagDraft F) (driverType : String) : Except PyException (TagSpec F) :=
  if driverType = "opcua" then
    draft.nodeSpec "opcua_node" "unsupported OPC UA function: " "OPC UA tag node_id is required"
  else if driverType = "mqtt" then
    draft.nodeSpec "json_field" "unsupported MQTT function: " "MQTT tag JSON field is required"
  else draft.modbusSpec

/-- Only the three values that may be no text are new. -/
theorem TagDraft.spec_ok {draft : TagDraft F} {driverType : String} {tag : TagSpec F}
    (h : draft.spec driverType = .ok tag) :
    ∃ function dataType nodeId, tag = { draft.tag with function, dataType, nodeId } ∧
      ((∃ error, textOfNodeId error draft.nodeId = .ok nodeId) ∨
        storedNodeId draft.nodeId = .ok nodeId) := by
  have hnode {function functionError nodeIdError : String}
      (h : draft.nodeSpec function functionError nodeIdError = .ok tag) :
      ∃ function dataType nodeId, tag = { draft.tag with function, dataType, nodeId } ∧
        ((∃ error, textOfNodeId error draft.nodeId = .ok nodeId) ∨
          storedNodeId draft.nodeId = .ok nodeId) := by
    simp only [nodeSpec, bind_eq_ok, pure, Except.pure, Except.ok.injEq] at h
    obtain ⟨_, -, _, -, _, hnodeId, _, -, rfl⟩ := h
    exact ⟨_, _, _, rfl, .inl ⟨_, hnodeId⟩⟩
  unfold TagDraft.spec at h
  split at h
  · exact hnode h
  · split at h
    · exact hnode h
    · simp only [modbusSpec, bind_eq_ok, pure, Except.pure, Except.ok.injEq] at h
      obtain ⟨_, -, _, -, _, -, _, -, _, -, _, -, _, -, _, hnodeId, rfl⟩ := h
      exact ⟨_, _, _, rfl, .inr hnodeId⟩

def saveTagDraft (draft : TagDraft F) : StoreAct F Int := do
  let tag ← .lift (draft.spec (← driverTypeForDevice draft.tag.deviceId))
  saveTag tag

-- ---------------------------------------------------------------------------
-- Devices and tags
-- ---------------------------------------------------------------------------

def getDevice (deviceId : Int) : StoreAct F (DeviceSpec F) := do
  match ← .read fun store => store.listDevices.find? fun d => d.id = some deviceId with
  | some device => pure device
  | none => .raise ⟨.keyError, "'device not found: " ++ PyText.textOfInt deviceId ++ "'"⟩

def createDevice (payload : Settings F) : StoreAct F (DeviceSpec F) := do
  let device ← .lift (deviceFromPayload none payload)
  getDevice (← saveDevice device)

def updateDevice (deviceId : Int) (payload : Settings F) : StoreAct F (DeviceSpec F) := do
  let _ ← getDevice deviceId
  let _ ← saveDevice (← .lift (deviceFromPayload (some deviceId) payload))
  getDevice deviceId

def deleteDevice (deviceId : Int) : StoreAct F Unit := do
  let _ ← getDevice deviceId
  .commit fun store => .ok ((), store.deleteDevice deviceId)

def allTags (store : ConfigStore F) : List (TagSpec F) :=
  store.listDevices.flatMap fun device => store.listTags (device.id.getD 0)

def getTag (tagId : Int) : StoreAct F (TagSpec F) := do
  match ← .read fun store => (allTags store).find? fun tag => tag.id = some tagId with
  | some tag => pure tag
  | none => .raise ⟨.keyError, "'tag not found: " ++ PyText.textOfInt tagId ++ "'"⟩

def createTag (deviceId : Int) (payload : Settings F) : StoreAct F (TagSpec F) := do
  let _ ← getDevice deviceId
  getTag (← saveTagDraft (← .lift (tagFromPayload none deviceId payload)))

def updateTag (tagId : Int) (payload : Settings F) : StoreAct F (TagSpec F) := do
  let existing ← getTag tagId
  let deviceId ← .lift
    (valueOr (optional payload "device_id") (.int (existing.deviceId.getD 0))).toInt
  let _ ← saveTagDraft (← .lift (tagFromPayload (some tagId) deviceId payload))
  getTag tagId

def deleteTag (tagId : Int) : StoreAct F Unit := do
  let _ ← getTag tagId
  .commit fun store => .ok ((), store.deleteTag tagId)

omit [PyRuntime F] in
theorem readOnly_getDevice {deviceId : Int} :
    Fallible.ReadOnly (getDevice deviceId : StoreAct F (DeviceSpec F)) := by
  refine .bind (.read _) fun found => ?_
  cases found
  · exact .raise _
  · exact .pure _

omit [PyRuntime F] in
theorem readOnly_getTag {tagId : Int} : Fallible.ReadOnly (getTag tagId : StoreAct F (TagSpec F)) := by
  refine .bind (.read _) fun found => ?_
  cases found
  · exact .raise _
  · exact .pure _

-- ---------------------------------------------------------------------------
-- Sinks and routes
-- ---------------------------------------------------------------------------

def saveSinkConfig (payload : Settings F) : StoreAct F (SinkConfig F) := do
  let sinkType := (← .lift (required payload "sink_type")).text
  let config ← .lift (normalizePluginConfig sinkType (valueOr (optional payload "config") (.dict [])))
  ConfigStore.saveSinkConfig ⟨sinkType, (optional payload "enabled" (.bool true)).truthy, config⟩
  .read fun store => store.getSinkConfig (some sinkType)

/-- `str(config.get(key) or payload.get(key) or default).strip()`. -/
def routeText (config payload : Settings F) (key : String) (default : String := "") : String :=
  PyText.strip (valueOr (optional config key)
    (valueOr (optional payload key) (.str default))).text

def setText (values : Settings F) (key text : String) : Settings F :=
  if text = "" then values else values.set key (.str text)

def heartbeatInterval (value : PyValue F) : Except PyException Int := do
  let seconds ← (PyValue.float (← value.toFloat) : PyValue F).toInt
  return max 1 seconds

/-- `_route_config`: the known settings of a route, from the nested `config` or
the payload itself. -/
def routeConfig (payload : Settings F) : Except PyException (Settings F) := do
  let config ← match valueOr (optional payload "config") (.dict []) with
    | .dict kvs => pure (OrderedDict.ofList kvs)
    | v => .error ⟨.attributeError, "'" ++ v.typeName ++ "' object has no attribute 'get'"⟩
  let routeKind := routeText config payload "route_kind" "data"
  let mut values : Settings F := ∅
  if routeKind = "system_heartbeat" then
    values := values.set "route_kind" (.str routeKind)
    let sensorCode := routeText config payload "sensor_code" "SYSTEM"
    values := values.set "sensor_code" (.str (if sensorCode = "" then "SYSTEM" else sensorCode))
    let interval := optional config "heartbeat_interval_s" (optional payload "heartbeat_interval_s")
    if !isBlank interval then
      values := values.set "heartbeat_interval_s" (.int (← heartbeatInterval interval))
  values := setText values "topic" (routeText config payload "topic")
  let dynamic := optional config "dynamic_topic_enabled" (optional config "request_topic_by_mac"
    (optional payload "dynamic_topic_enabled" (optional payload "request_topic_by_mac")))
  if csvBool dynamic false then
    values := values.set "dynamic_topic_enabled" (.bool true)
  values := setText values "mac_address" (routeText config payload "mac_address")
  values := setText values "resolved_topic" (routeText config payload "resolved_topic")
  let resolvedCount := optional config "resolved_sensor_count"
    (optional payload "resolved_sensor_count")
  if !isBlank resolvedCount then
    values := values.set "resolved_sensor_count" (.int (← resolvedCount.toInt))
  values := setText values "resolved_error" (routeText config payload "resolved_error")
  return setText values "resolved_at" (routeText config payload "resolved_at")

/-- `device_id` values that mean no device. -/
def noDevice : PyValue F → Bool
  | .none => true
  | .str s => ["", "all", "system_heartbeat"].contains s
  | _ => false

def isText (value : Option (PyValue F)) (s : String) : Bool :=
  match value with
  | some (.str t) => t = s
  | _ => false

def systemHeartbeatConfig (config : Settings F) : Settings F :=
  let config := config.set "route_kind" (.str "system_heartbeat")
  if config.contains "sensor_code" then config else config.set "sensor_code" (.str "SYSTEM")

def routeDeviceId (value : PyValue F) : StoreAct F (Option Int) :=
  if noDevice value then pure none
  else do
    let deviceId ← .lift value.toInt
    let _ ← getDevice deviceId
    return some deviceId

/-- `_route_to_dict`, but for the settings it repeats beside the config. -/
def routeToDict (route : OutputRouteConfig F) : Except PyException (OutputRouteConfig F) := do
  return { route with config := ← routeConfig (.ofList [("config", .dict route.config.entries)]) }

def listOutputRoutes (store : ConfigStore F) : Except PyException (List (OutputRouteConfig F)) :=
  store.listOutputRoutes.mapM routeToDict

/-- `next(route for route in self.list_output_routes() if route["id"] == saved_id)`. -/
def nextOutputRoute (routeId : Int) : StoreAct F (OutputRouteConfig F) := do
  let routes ← .lift (← .read listOutputRoutes)
  match routes.find? fun route => route.id = some routeId with
  | some route => pure route
  | none => .raise ⟨.other "StopIteration", ""⟩

def saveOutputRoute (payload : Settings F) : StoreAct F (OutputRouteConfig F) := do
  let routeId := optional payload "id"
  let deviceIdValue := optional payload "device_id"
  let config ← .lift (routeConfig payload)
  let isSystemHeartbeat := isText (config.get? "route_kind") "system_heartbeat" ||
    isText (some deviceIdValue) "system_heartbeat"
  let deviceId ← routeDeviceId deviceIdValue
  let savedId ← ConfigStore.saveOutputRoute {
    id := ← .lift (optionalInt routeId)
    deviceId
    tagGroup := if isSystemHeartbeat then ""
      else PyText.strip (optional payload "tag_group" (.str "")).text
    sinkType := "mqtt"
    enabled := (optional payload "enabled" (.bool true)).truthy
    config := if isSystemHeartbeat then systemHeartbeatConfig config else config }
  nextOutputRoute savedId

def deleteOutputRoute (routeId : Int) : StoreAct F Unit := do
  .lift (sqlInteger routeId)
  .commit fun store => .ok ((), store.deleteRoute routeId)

-- ---------------------------------------------------------------------------
-- Route topics
-- ---------------------------------------------------------------------------

/-- What asks a server for the topic of a MAC, with the settings of the sink. -/
abbrev TopicResolver (F : Type) := String → Settings F → Except PyException (Settings F)

/-- The dictionary that `resolve_output_route_topic` returns. -/
structure ResolvedRoute (F : Type) where
  route : OutputRouteConfig F
  resolvedTopic : String
  sensorCount : Int
  resolvedAt : String
  error : Option String

def receivedTopicPath (topic : String) : String :=
  let stripped := PyText.lstripChar '/' topic
  if PyText.startsWith "C-S/" stripped then stripped else "C-S/" ++ stripped

def routeByRequiredId (routes : List (OutputRouteConfig F)) (routeId : Int) :
    Except PyException (OutputRouteConfig F) :=
  match routes.find? fun route => route.id = some routeId with
  | some route => .ok route
  | none => .error ⟨.keyError, "'route not found: " ++ PyText.textOfInt routeId ++ "'"⟩

/-- The body of the `try`: the topic and the sensor count of the answer. -/
def resolveTopic (resolver : TopicResolver F) (macAddress : String) (mqttConfig : Settings F) :
    Except PyException (String × Int) := do
  let resolved ← resolver macAddress mqttConfig
  let topic := receivedTopicPath (valueOr (optional resolved "topic") (.str "")).text
  raiseUnless (topic ≠ "C-S/") "topic response is empty"
  return (topic, ← (valueOr (optional resolved "sensor_count") (.int 0)).toInt)

/-- `now` is the text of the clock. -/
def resolveOutputRouteTopic (resolver : TopicResolver F) (now : String) (routeId : Int) :
    StoreAct F (ResolvedRoute F) := do
  let route ← .lift (routeByRequiredId (← .read ConfigStore.listOutputRoutes) routeId)
  let config ← .lift (routeConfig (.ofList [("config", .dict route.config.entries)]))
  let macAddress := PyText.strip (valueOr (optional config "mac_address") (.str "")).text
  .lift (raiseUnless (macAddress ≠ "") "route mac_address is required")
  let sink ← .read fun store => store.getSinkConfig (some "mqtt")
  match resolveTopic resolver macAddress sink.config with
  | .error e =>
    let _ ← ConfigStore.saveOutputRoute { route with
      config := config.update [
        ("dynamic_topic_enabled", .bool true), ("mac_address", .str macAddress),
        ("resolved_error", .str e.message), ("resolved_at", .str now)] }
    return ⟨← nextOutputRoute routeId, "", 0, now, some e.message⟩
  | .ok (topic, sensorCount) =>
    let _ ← ConfigStore.saveOutputRoute { route with
      config := config.update [
        ("dynamic_topic_enabled", .bool true), ("mac_address", .str macAddress),
        ("resolved_topic", .str topic), ("resolved_sensor_count", .int sensorCount),
        ("resolved_error", .str ""), ("resolved_at", .str now)] }
    return ⟨← nextOutputRoute routeId, topic, sensorCount, now, none⟩

/-- `now` is the clock when the route with an id is resolved. -/
def refreshDynamicOutputRouteTopics (resolver : TopicResolver F) (now : Int → String) :
    StoreAct F (List (ResolvedRoute F)) := do
  (← .read ConfigStore.listOutputRoutes).foldlM (fun results route => do
    let config ← .lift (routeConfig (.ofList [("config", .dict route.config.entries)]))
    if !route.enabled || route.sinkType ≠ "mqtt" then return results
    if !(optional config "dynamic_topic_enabled").truthy ||
        !(optional config "mac_address").truthy then return results
    let routeId := route.id.getD 0
    return results ++ [← resolveOutputRouteTopic resolver (now routeId) routeId]) []

-- ---------------------------------------------------------------------------
-- CSV rows
-- ---------------------------------------------------------------------------

def csvConnectionValue (kind : ConnectionFieldKind) (value : String) :
    Except PyException (PyValue F) :=
  match kind with
  | .int => (csvInt F value).map .int
  | .float => (csvFloat value).map .float
  | .text | .choice => .ok (.str value)

def csvPluginValue (kind : PluginFieldKind) (value : String) : Except PyException (PyValue F) :=
  match kind with
  | .int => (csvInt F value).map .int
  | .bool => .ok (.bool (csvBool (.str value : PyValue F) false))
  | .text | .password => .ok (.str value)

/-- The settings of the non-blank cells. -/
def csvSettings (fields : List (String × (String → Except PyException (PyValue F))))
    (row : Csv.Row) : Except PyException (Settings F) :=
  fields.foldlM (fun values field =>
    match cell row field.1 with
    | none => .ok values
    | some s => if PyText.strip s = "" then .ok values else (field.2 s).map (values.set field.1)) ∅

def csvConnection (driverType : String) (row : Csv.Row) : Except PyException (Settings F) := do
  let values ← csvSettings
    ((connectionFieldsForDriver driverType).map fun f => (f.key, csvConnectionValue f.kind)) row
  normalizeConnectionForDriver driverType (.dict values.entries)

def csvPluginConfig (sinkType : String) (row : Csv.Row) : Except PyException (Settings F) := do
  let values ← csvSettings
    ((pluginFields sinkType).map fun f => (f.key, csvPluginValue f.kind)) row
  normalizePluginConfig sinkType (.dict values.entries)

def deviceFromCsvRow (row : Csv.Row) : Except PyException (DeviceSpec F) := do
  let driverType := PyText.strip (cellOr row "driver_type" "modbus_tcp")
  return {
    id := none
    deviceGroup := PyText.strip (cellOr row "device_group")
    name := PyText.strip (cellOr row "device_name" (cellOr row "name"))
    driverType
    enabled := csvBool (cellValue (cell row "enabled") : PyValue F) true
    pollIntervalMs := ← csvInt F (cellOr row "poll_interval_ms" "1000")
    connection := ← csvConnection driverType row }

def tagFromCsvRow (row : Csv.Row) (driverType tagNameKey : String) :
    Except PyException (TagSpec F) := do
  let name := PyText.strip (cellOr row tagNameKey)
  raiseUnless (name ≠ "") "tag name is required"
  let nodeId := PyText.strip (cellOr row "node_id")
  let enabledKey := if tagNameKey = "tag_name" then "tag_enabled" else "enabled"
  let address ← csvInt F (cellOr row "address" "0")
  let scale ← csvFloatOr (cellOr row "scale") 1
  let offset ← csvFloatOr (cellOr row "offset") 0
  return {
    name
    deviceId := none
    tagGroup := PyText.strip (cellOr row "tag_group")
    nodeId := if nodeId = "" then none else some nodeId
    address
    function := PyText.strip (cellOr row "function"
      ((tagFunctionChoicesForDriver driverType).headD ""))
    dataType := PyText.strip (cellOr row "data_type"
      ((tagTypeChoicesForDriver driverType).headD ""))
    scale, offset
    enabled := csvBool (cellValue (cell row enabledKey) : PyValue F) true
    unitId := ← csvOptionalInt (F := F) (cell row "unit_id")
    wordCount := ← csvOptionalInt (F := F)
      (if row.contains "count" then cell row "count" else cell row "word_count")
    byteOrder := PyText.strip (cellOr row "byte_order" "big")
    wordOrder := PyText.strip (cellOr row "word_order" "big") }

-- ---------------------------------------------------------------------------
-- Imports
-- ---------------------------------------------------------------------------

/-- `for row in csv.DictReader(...)`, after the check of the header. -/
def forRows (csvText : String) (init : β) (body : β → Csv.Row → StoreAct F β) : StoreAct F β :=
  let reader := Csv.dictReader csvText
  match reader.fieldnames with
  | .error message => .raise ⟨.csvError, message⟩
  | .ok none => .raise ⟨.valueError, "CSV header is required"⟩
  | .ok (some _) => do
    let result ← reader.rows.foldlM body init
    match reader.error with
    | some message => .raise ⟨.csvError, message⟩
    | none => pure result

def deviceImportKey (device : DeviceSpec F) : String × String := (device.deviceGroup, device.name)

def devicesByKey (store : ConfigStore F) : OrderedDict (String × String) (DeviceSpec F) :=
  .ofList (store.listDevices.map fun device => (deviceImportKey device, device))

def existingTagId (tags : List (TagSpec F)) (imported : TagSpec F) : Option Int :=
  (tags.find? fun tag => tag.tagGroup = imported.tagGroup ∧ tag.name = imported.name).bind TagSpec.id

def upsertTag (deviceId : Int) (tag : TagSpec F) : StoreAct F Int := do
  let existingId ← .read fun store => existingTagId (store.listTags deviceId) tag
  saveTag { tag with id := existingId, deviceId }

def importTagsRow (deviceId : Int) (driverType : String) (imported : Nat) (row : Csv.Row) :
    StoreAct F Nat := do
  let _ ← upsertTag deviceId (← .lift (tagFromCsvRow row driverType "name"))
  return imported + 1

def importTagsCsv (deviceId : Int) (csvText : String) : StoreAct F Nat := do
  let device ← getDevice deviceId
  forRows csvText 0 (importTagsRow deviceId device.driverType)

def validateSameDeviceConfig (existing imported : DeviceSpec F) : Except PyException Unit :=
  raiseUnless (existing.driverType = imported.driverType && existing.enabled = imported.enabled &&
      existing.pollIntervalMs = imported.pollIntervalMs &&
      PyValue.dictEq existing.connection imported.connection)
    ("device '" ++ imported.name ++ "' in group '" ++ textOr imported.deviceGroup "default" ++
      "' already exists with different connection/settings")

/-- What `import_devices_csv` carries from row to row. -/
structure DeviceImport (F : Type) where
  devicesByKey : OrderedDict (String × String) (DeviceSpec F)
  devices : Nat
  tags : Nat

/-- The device of a row: saved when its key is new, else the same as before. -/
def importDevice (state : DeviceImport F) (device : DeviceSpec F) :
    StoreAct F (DeviceSpec F × DeviceImport F) := do
  let key := deviceImportKey device
  match state.devicesByKey.get? key with
  | none =>
    let existing := { device with id := some (← saveDevice device) }
    return (existing, { state with
      devicesByKey := state.devicesByKey.set key existing
      devices := state.devices + 1 })
  | some existing =>
    .lift (validateSameDeviceConfig existing device)
    return (existing, state)

def importDevicesRow (state : DeviceImport F) (row : Csv.Row) : StoreAct F (DeviceImport F) := do
  let (existing, state) ← importDevice state (← .lift (deviceFromCsvRow row))
  if PyText.strip (cellOr row "tag_name") = "" then return state
  let tag ← .lift (tagFromCsvRow row existing.driverType "tag_name")
  let _ ← upsertTag (existing.id.getD 0) tag
  return { state with tags := state.tags + 1 }

def importDevicesCsv (csvText : String) : StoreAct F (Nat × Nat) := do
  let devices ← .read devicesByKey
  let result ← forRows csvText ⟨devices, 0, 0⟩ importDevicesRow
  return (result.devices, result.tags)

def csvRouteDeviceId (row : Csv.Row) (devices : OrderedDict (String × String) (DeviceSpec F)) :
    Except PyException (Option Int) :=
  if PyText.strip (cellOr row "route_kind") = "system_heartbeat" then .ok none
  else
    let deviceName := PyText.strip (cellOr row "device_name")
    if deviceName = "" then .ok none
    else
      let deviceGroup := PyText.strip (cellOr row "device_group")
      match devices.get? (deviceGroup, deviceName) with
      | some device => .ok device.id
      | none => .error ⟨.valueError, "route device '" ++ deviceName ++ "' in group '" ++
          textOr deviceGroup "default" ++ "' does not exist"⟩

def existingRouteId (routes : List (OutputRouteConfig F)) (deviceId : Option Int)
    (tagGroup sinkType : String) : Option Int :=
  (routes.find? fun route => route.deviceId = deviceId ∧ route.tagGroup = tagGroup ∧
    route.sinkType = sinkType).bind OutputRouteConfig.id

/-- A row as the payload of `_route_config`. -/
def rowPayload (row : Csv.Row) : Settings F :=
  .ofList (row.entries.map fun e => (e.1, cellValue e.2))

def importPluginRouteRow (devices : OrderedDict (String × String) (DeviceSpec F))
    (existingRoutes : List (OutputRouteConfig F)) (row : Csv.Row) : StoreAct F Int := do
  let sinkType := PyText.strip (cellOr row "sink_type" "mqtt")
  let deviceId ← .lift (csvRouteDeviceId row devices)
  let tagGroup := PyText.strip (cellOr row "tag_group")
  ConfigStore.saveOutputRoute {
    id := existingRouteId existingRoutes deviceId tagGroup sinkType
    deviceId, tagGroup, sinkType
    enabled := csvBool (cellValue (cell row "enabled") : PyValue F) true
    config := ← .lift (routeConfig (rowPayload row)) }

/-- The known routes after one was saved. -/
def replaceRoute (existingRoutes : List (OutputRouteConfig F)) (routeId : Int) :
    StoreAct F (List (OutputRouteConfig F)) :=
  .read fun store => existingRoutes.filter (fun route => route.id ≠ some routeId) ++
    store.listOutputRoutes.filter fun route => route.id = some routeId

structure RouteImport (F : Type) where
  existingRoutes : List (OutputRouteConfig F)
  imported : Nat

def importPluginRoutesRow (devices : OrderedDict (String × String) (DeviceSpec F))
    (state : RouteImport F) (row : Csv.Row) : StoreAct F (RouteImport F) := do
  let routeId ← importPluginRouteRow devices state.existingRoutes row
  return ⟨← replaceRoute state.existingRoutes routeId, state.imported + 1⟩

def importPluginRoutesCsv (csvText : String) : StoreAct F Nat := do
  let devices ← .read devicesByKey
  let existingRoutes ← .read ConfigStore.listOutputRoutes
  let result ← forRows csvText ⟨existingRoutes, 0⟩ (importPluginRoutesRow devices)
  return result.imported

structure PluginImport (F : Type) where
  existingRoutes : List (OutputRouteConfig F)
  selectedConfig : Option (SinkConfig F)
  plugins : Nat
  routes : Nat

def importPluginRow (row : Csv.Row) : StoreAct F (SinkConfig F) := do
  let sinkType := PyText.strip (cellOr row "sink_type" "mqtt")
  let config : SinkConfig F := {
    sinkType
    enabled := csvBool (cellValue (cell row "enabled") : PyValue F) true
    config := ← .lift (csvPluginConfig sinkType row) }
  ConfigStore.saveSinkConfig config
  return config

def importPluginsRow (devices : OrderedDict (String × String) (DeviceSpec F))
    (state : PluginImport F) (row : Csv.Row) : StoreAct F (PluginImport F) := do
  if PyText.lower (PyText.strip (cellOr row "record_type" "plugin")) = "route" then
    let routeId ← importPluginRouteRow devices state.existingRoutes row
    return { state with
      existingRoutes := ← replaceRoute state.existingRoutes routeId
      routes := state.routes + 1 }
  let config ← importPluginRow row
  return { state with
    selectedConfig :=
      if csvBool (cellValue (cell row "selected") : PyValue F) false then some config
      else state.selectedConfig
    plugins := state.plugins + 1 }

def importPluginsCsv (csvText : String) : StoreAct F (Nat × Nat) := do
  let devices ← .read devicesByKey
  let existingRoutes ← .read ConfigStore.listOutputRoutes
  let result ← forRows csvText ⟨existingRoutes, none, 0, 0⟩ (importPluginsRow devices)
  match result.selectedConfig with
  | some config => ConfigStore.saveSinkConfig config
  | none => pure ()
  return (result.plugins, result.routes)

-- ---------------------------------------------------------------------------
-- Exports
-- ---------------------------------------------------------------------------

/-- `_DEVICE_CSV_FIELDS`. -/
def deviceCsvFields : List String :=
  ["device_group", "device_name", "driver_type", "enabled", "poll_interval_ms", "host", "port",
    "max_block_gap", "max_registers_per_read", "max_bits_per_read", "baudrate", "parity", "stopbits",
    "bytesize", "timeout", "endpoint", "mode", "subscription_interval_ms", "topic_filter",
    "client_id", "username", "password", "qos", "topic_mac_index", "timestamp_field",
    "sensor_id_field", "tag_group", "tag_name", "node_id", "address", "function", "data_type",
    "scale", "offset", "tag_enabled", "unit_id", "count", "word_count", "byte_order", "word_order"]

/-- `value or ""` of an optional integer. -/
def intOrBlank : Option Int → PyValue F
  | none => .str ""
  | some n => if n = 0 then .str "" else .int n

def boolInt (b : Bool) : PyValue F := .int (if b then 1 else 0)

/-- The columns of a tag. -/
def tagCsvColumns (tag : TagSpec F) : List (String × PyValue F) :=
  [("tag_group", .str tag.tagGroup), ("tag_name", .str tag.name),
    ("node_id", .str (tag.nodeId.getD "")), ("address", .int tag.address),
    ("function", .str tag.function), ("data_type", .str tag.dataType), ("scale", .float tag.scale),
    ("offset", .float tag.offset), ("tag_enabled", boolInt tag.enabled),
    ("unit_id", intOrBlank tag.unitId), ("count", intOrBlank tag.wordCount),
    ("word_count", intOrBlank tag.wordCount), ("byte_order", .str tag.byteOrder),
    ("word_order", .str tag.wordOrder)]

def addConnectionColumn (connection row : Settings F) (key : String) : Settings F :=
  if row.contains key then row
  else match connection.get? key with
    | some value => row.set key value
    | none => row

def deviceCsvColumns (device : DeviceSpec F) : List (String × PyValue F) :=
  [("device_group", .str device.deviceGroup), ("device_name", .str device.name),
    ("driver_type", .str device.driverType), ("enabled", boolInt device.enabled),
    ("poll_interval_ms", .int device.pollIntervalMs)]

def deviceCsvRow (device : DeviceSpec F) (tag : Option (TagSpec F)) : Settings F :=
  let row := deviceCsvFields.foldl (addConnectionColumn device.connection)
    (.ofList (deviceCsvColumns device))
  match tag with
  | none => row
  | some tag => row.update (tagCsvColumns tag)

/-- What the writer makes of a value: nothing of `None`, else its text. -/
def csvText : PyValue F → String
  | .none => ""
  | value => value.text

def csvCell (row : Settings F) (key : String) : String := csvText (optional row key (.str ""))

def exportDevicesCsv (store : ConfigStore F) : String :=
  let rows := store.listDevices.flatMap fun device =>
    match store.listTags (device.id.getD 0) with
    | [] => [deviceCsvRow device none]
    | tags => tags.map fun tag => deviceCsvRow device (some tag)
  Csv.dictWriter deviceCsvFields (rows.map csvCell)

/-- `_PLUGIN_ROUTE_CSV_FIELDS`. -/
def pluginRouteCsvFields : List String :=
  ["record_type", "device_group", "device_name", "tag_group", "sink_type", "enabled", "route_kind",
    "topic", "heartbeat_interval_s", "sensor_code", "request_topic_by_mac", "dynamic_topic_enabled",
    "mac_address", "resolved_topic", "resolved_sensor_count", "resolved_error", "resolved_at"]

def pluginRouteCsvRow (route : OutputRouteConfig F) (device : Option (DeviceSpec F)) :
    Except PyException (Settings F) := do
  let config ← routeConfig (.ofList [("config", .dict route.config.entries)])
  let dynamicTopic := (optional config "dynamic_topic_enabled" (.bool false)).truthy
  return .ofList [
    ("record_type", .str "route"),
    ("device_group", .str ((device.map DeviceSpec.deviceGroup).getD "")),
    ("device_name", .str (if isText (config.get? "route_kind") "system_heartbeat" then
      "System Heartbeat" else (device.map DeviceSpec.name).getD "")),
    ("tag_group", .str route.tagGroup),
    ("sink_type", .str route.sinkType),
    ("enabled", boolInt route.enabled),
    ("route_kind", optional config "route_kind" (.str "data")),
    ("topic", optional config "topic" (.str "")),
    ("heartbeat_interval_s", optional config "heartbeat_interval_s" (.str "")),
    ("sensor_code", optional config "sensor_code" (.str "")),
    ("request_topic_by_mac", boolInt dynamicTopic),
    ("dynamic_topic_enabled", boolInt dynamicTopic),
    ("mac_address", optional config "mac_address" (.str "")),
    ("resolved_topic", optional config "resolved_topic" (.str "")),
    ("resolved_sensor_count", optional config "resolved_sensor_count" (.str "")),
    ("resolved_error", optional config "resolved_error" (.str "")),
    ("resolved_at", optional config "resolved_at" (.str ""))]

def devicesById (store : ConfigStore F) : OrderedDict (Option Int) (DeviceSpec F) :=
  .ofList (store.listDevices.map fun device => (device.id, device))

/-- The rows of all routes, with the devices that they are for. -/
def pluginRouteCsvRows (store : ConfigStore F) : Except PyException (List (Settings F)) :=
  store.listOutputRoutes.mapM fun route =>
    pluginRouteCsvRow route ((devicesById store).get? route.deviceId)

def exportPluginRoutesCsv (store : ConfigStore F) : Except PyException String := do
  return Csv.dictWriter pluginRouteCsvFields ((← pluginRouteCsvRows store).map csvCell)

/-- `_PLUGIN_CSV_FIELDS`. -/
def pluginCsvFields : List String :=
  ["record_type", "sink_type", "selected", "enabled", "device_group", "device_name", "tag_group",
    "topic", "route_kind", "heartbeat_interval_s", "sensor_code", "host", "port", "base_topic",
    "username", "password", "client_id", "qos", "topic_request_on_start", "topic_refresh_interval_s",
    "request_topic_by_mac", "dynamic_topic_enabled", "mac_address", "resolved_topic",
    "resolved_sensor_count", "resolved_error", "resolved_at", "database", "table", "auto_create",
    "server", "driver", "trust_server_certificate"]

def pluginCsvColumns (config : SinkConfig F) (selected : Bool) : List (String × PyValue F) :=
  [("record_type", .str "plugin"), ("sink_type", .str config.sinkType),
    ("selected", boolInt selected), ("enabled", boolInt config.enabled)]

def pluginCsvRow (config : SinkConfig F) (selected : Bool) : Settings F :=
  pluginCsvFields.foldl (addConnectionColumn config.config)
    (.ofList (pluginCsvColumns config selected))

/-- The stored sink configs and that of the selected type. -/
def exportedSinkConfigs (store : ConfigStore F) : OrderedDict String (SinkConfig F) :=
  let configs := OrderedDict.ofList
    (store.listSinkConfigs.map fun config => (config.sinkType, config))
  let selected := store.getSelectedSinkType
  if configs.contains selected then configs
  else configs.set selected (store.getSinkConfig (some selected))

def pluginCsvRows (store : ConfigStore F) : List (Settings F) :=
  (exportedSinkConfigs store).values.map fun config =>
    pluginCsvRow config (config.sinkType = store.getSelectedSinkType)

def exportPluginsCsv (store : ConfigStore F) : Except PyException String := do
  let routes ← pluginRouteCsvRows store
  return Csv.dictWriter pluginCsvFields ((pluginCsvRows store ++ routes).map csvCell)

end ConfigService

end IndustrialGateway
