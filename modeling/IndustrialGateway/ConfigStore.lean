import IndustrialGateway.Lib.Fallible
import IndustrialGateway.Lib.Table
import IndustrialGateway.Models

/-!
# The configuration store

`store.py` over the tables of its schema. The foreign keys are fields of the
store, so a tag or route of a device that is not there cannot be stored. Each
statement commits by itself; the integers go through SQLite's 64 bits and a NaN
becomes a `NULL`.
-/

namespace IndustrialGateway

-- ---------------------------------------------------------------------------
-- Rows
-- ---------------------------------------------------------------------------

structure DeviceRow (F : Type) where
  deviceGroup : String
  name : String
  driverType : String
  enabled : Bool
  pollIntervalMs : Int
  connection : OrderedDict String (PyValue F)
  deriving DecidableEq

structure TagRow (F : Type) where
  deviceId : Int
  tagGroup : String
  name : String
  address : Int
  function : String
  dataType : String
  scale : F
  offset : F
  enabled : Bool
  unitId : Option Int
  wordCount : Option Int
  byteOrder : String
  wordOrder : String
  nodeId : Option String
  deriving DecidableEq

structure SinkRow (F : Type) where
  enabled : Bool
  config : OrderedDict String (PyValue F)
  deriving DecidableEq

structure OutputRouteRow (F : Type) where
  deviceId : Option Int
  tagGroup : String
  sinkType : String
  enabled : Bool
  config : OrderedDict String (PyValue F)
  deriving DecidableEq

def DeviceRow.spec (row : DeviceRow F) (id : Int) : DeviceSpec F where
  id := id
  name := row.name
  driverType := row.driverType
  enabled := row.enabled
  pollIntervalMs := row.pollIntervalMs
  deviceGroup := row.deviceGroup
  connection := row.connection

def TagRow.spec (row : TagRow F) (id : Int) : TagSpec F where
  name := row.name
  address := row.address
  function := row.function
  dataType := row.dataType
  tagGroup := row.tagGroup
  id := id
  deviceId := row.deviceId
  scale := row.scale
  offset := row.offset
  enabled := row.enabled
  unitId := row.unitId
  wordCount := row.wordCount
  byteOrder := row.byteOrder
  wordOrder := row.wordOrder
  nodeId := row.nodeId

def OutputRouteRow.route (row : OutputRouteRow F) (id : Int) : OutputRouteConfig F where
  id := id
  deviceId := row.deviceId
  tagGroup := row.tagGroup
  sinkType := row.sinkType
  enabled := row.enabled
  config := row.config

-- ---------------------------------------------------------------------------
-- The store
-- ---------------------------------------------------------------------------

structure ConfigStore (F : Type) where
  devices : Table (DeviceRow F)
  tags : Table (TagRow F)
  mqttConfig : Option MqttConfig
  sinkConfigs : OrderedDict String (SinkRow F)
  sinkSelection : Option String
  outputRoutes : Table (OutputRouteRow F)
  tagDevice : ∀ id row, tags.get? id = some row → (devices.get? row.deviceId).isSome
  routeDevice : ∀ id row deviceId, outputRoutes.get? id = some row →
    row.deviceId = some deviceId → (devices.get? deviceId).isSome

abbrev StoreAct (F α : Type) := Fallible PyException (ConfigStore F) α

namespace ConfigStore

/-- `initialize` on a new file. -/
def initialized : ConfigStore F where
  devices := ∅
  tags := ∅
  mqttConfig := none
  sinkConfigs := ∅
  sinkSelection := none
  outputRoutes := ∅
  tagDevice := by simp
  routeDevice := by simp

/-- The devices of the tags and routes are still there. -/
theorem isSome_get?_insert {devices : Table (DeviceRow F)} {row : DeviceRow F} {id : Int}
    (h : (devices.get? id).isSome) : ((devices.insert row).get? id).isSome := by
  rw [Table.get?_insert]
  split
  · rfl
  · exact h

-- ---------------------------------------------------------------------------
-- Statements
-- ---------------------------------------------------------------------------

def insertDevice (store : ConfigStore F) (row : DeviceRow F) : ConfigStore F :=
  { store with
    devices := store.devices.insert row
    tagDevice := fun id tag h => isSome_get?_insert (store.tagDevice id tag h)
    routeDevice := fun id route d h hd => isSome_get?_insert (store.routeDevice id route d h hd) }

def updateDevice (store : ConfigStore F) (id : Int) (row : DeviceRow F) : ConfigStore F :=
  { store with
    devices := store.devices.update id row
    tagDevice := fun i tag h => by
      rw [Table.isSome_get?_update]
      exact store.tagDevice i tag h
    routeDevice := fun i route d h hd => by
      rw [Table.isSome_get?_update]
      exact store.routeDevice i route d h hd }

/-- The tags and routes of the device go with it. -/
def deleteDevice (store : ConfigStore F) (id : Int) : ConfigStore F :=
  { store with
    devices := store.devices.filter fun i _ => i ≠ id
    tags := store.tags.filter fun _ tag => tag.deviceId ≠ id
    outputRoutes := store.outputRoutes.filter fun _ route => route.deviceId ≠ some id
    tagDevice := fun i tag h => by
      obtain ⟨h, hne⟩ := Option.filter_eq_some_iff.mp ((Table.get?_filter ..).symm.trans h)
      obtain ⟨device, hd⟩ := Option.isSome_iff_exists.mp (store.tagDevice i tag h)
      simp [Table.get?_filter, hd, Option.filter, of_decide_eq_true hne]
    routeDevice := fun i route d h hd => by
      obtain ⟨h, hne⟩ := Option.filter_eq_some_iff.mp ((Table.get?_filter ..).symm.trans h)
      obtain ⟨device, hdev⟩ := Option.isSome_iff_exists.mp (store.routeDevice i route d h hd)
      have hne : d ≠ id := by simpa [hd] using hne
      simp [Table.get?_filter, hdev, Option.filter, hne] }

def foreignKeyError : PyException := ⟨.integrityError, "FOREIGN KEY constraint failed"⟩

def insertTag (store : ConfigStore F) (row : TagRow F) : Except PyException (ConfigStore F) :=
  if h : (store.devices.get? row.deviceId).isSome then
    .ok { store with
      tags := store.tags.insert row
      tagDevice := fun i tag ht => by
        rw [Table.get?_insert] at ht
        split at ht
        · exact Option.some.inj ht ▸ h
        · exact store.tagDevice i tag ht }
  else .error foreignKeyError

def updateTag (store : ConfigStore F) (id : Int) (row : TagRow F) :
    Except PyException (ConfigStore F) :=
  if h : (store.tags.get? id).isSome → (store.devices.get? row.deviceId).isSome then
    .ok { store with
      tags := store.tags.update id row
      tagDevice := fun i tag ht => by
        rw [Table.get?_update] at ht
        split at ht
        · rename_i hi
          obtain ⟨old, ho, rfl⟩ := Option.map_eq_some_iff.mp ht
          exact h (by simp [hi, ho])
        · exact store.tagDevice i tag ht }
  else .error foreignKeyError

def deleteTag (store : ConfigStore F) (id : Int) : ConfigStore F :=
  { store with
    tags := store.tags.filter fun i _ => i ≠ id
    tagDevice := fun i tag h =>
      store.tagDevice i tag (Option.filter_eq_some_iff.mp ((Table.get?_filter ..).symm.trans h)).1 }

def insertRoute (store : ConfigStore F) (row : OutputRouteRow F) :
    Except PyException (ConfigStore F) :=
  if h : ∀ deviceId, row.deviceId = some deviceId → (store.devices.get? deviceId).isSome then
    .ok { store with
      outputRoutes := store.outputRoutes.insert row
      routeDevice := fun i route d hr hd => by
        rw [Table.get?_insert] at hr
        split at hr
        · exact h d (Option.some.inj hr ▸ hd)
        · exact store.routeDevice i route d hr hd }
  else .error foreignKeyError

def updateRoute (store : ConfigStore F) (id : Int) (row : OutputRouteRow F) :
    Except PyException (ConfigStore F) :=
  if h : (store.outputRoutes.get? id).isSome →
      ∀ deviceId, row.deviceId = some deviceId → (store.devices.get? deviceId).isSome then
    .ok { store with
      outputRoutes := store.outputRoutes.update id row
      routeDevice := fun i route d hr hd => by
        rw [Table.get?_update] at hr
        split at hr
        · rename_i hi
          obtain ⟨old, ho, rfl⟩ := Option.map_eq_some_iff.mp hr
          exact h (by simp [hi, ho]) d hd
        · exact store.routeDevice i route d hr hd }
  else .error foreignKeyError

def deleteRoute (store : ConfigStore F) (id : Int) : ConfigStore F :=
  { store with
    outputRoutes := store.outputRoutes.filter fun i _ => i ≠ id
    routeDevice := fun i route d h hd => store.routeDevice i route d
      (Option.filter_eq_some_iff.mp ((Table.get?_filter ..).symm.trans h)).1 hd }

def upsertSinkConfig (store : ConfigStore F) (sinkType : String) (row : SinkRow F) :
    ConfigStore F :=
  { store with
    sinkConfigs := store.sinkConfigs.set sinkType row
    sinkSelection := some sinkType }

-- ---------------------------------------------------------------------------
-- Binding
-- ---------------------------------------------------------------------------

def sqlInteger (n : Int) : Except PyException Unit :=
  if -2 ^ 63 ≤ n ∧ n < 2 ^ 63 then .ok ()
  else .error ⟨.overflowError, "Python int too large to convert to SQLite INTEGER"⟩

/-- The id of the next row; there is none after the largest one. -/
def nextRowId (table : Table α) : Except PyException Int :=
  if table.nextId < 2 ^ 63 then .ok table.nextId
  else .error ⟨.other "OperationalError", "database or disk is full"⟩

def sqlIntegerOrNull : Option Int → Except PyException Unit
  | none => .ok ()
  | some n => sqlInteger n

section Methods

variable [PyRuntime F]

/-- A NaN is bound as `NULL`. -/
def sqlReal (column : String) (x : F) : Except PyException Unit :=
  if PyRuntime.isNaN x then
    .error ⟨.integrityError, "NOT NULL constraint failed: tags." ++ column⟩
  else .ok ()

def deviceRow (device : DeviceSpec F) : Except PyException (DeviceRow F) := do
  PyValue.checkJsonDict device.connection.entries
  sqlInteger device.pollIntervalMs
  return {
    deviceGroup := device.deviceGroup
    name := device.name
    driverType := device.driverType
    enabled := device.enabled
    pollIntervalMs := device.pollIntervalMs
    connection := device.connection }

def tagRow (deviceId : Int) (tag : TagSpec F) : Except PyException (TagRow F) := do
  sqlInteger deviceId
  sqlInteger tag.address
  sqlIntegerOrNull tag.unitId
  sqlIntegerOrNull tag.wordCount
  sqlReal "scale" tag.scale
  sqlReal "offset" tag.offset
  return {
    deviceId
    tagGroup := tag.tagGroup
    name := tag.name
    address := tag.address
    function := tag.function
    dataType := tag.dataType
    scale := tag.scale
    offset := tag.offset
    enabled := tag.enabled
    unitId := tag.unitId
    wordCount := tag.wordCount
    byteOrder := tag.byteOrder
    wordOrder := tag.wordOrder
    nodeId := tag.nodeId }

def routeRow (route : OutputRouteConfig F) : Except PyException (OutputRouteRow F) := do
  PyValue.checkJsonDict route.config.entries
  sqlIntegerOrNull route.deviceId
  return {
    deviceId := route.deviceId
    tagGroup := route.tagGroup
    sinkType := route.sinkType
    enabled := route.enabled
    config := route.config }

-- ---------------------------------------------------------------------------
-- Devices
-- ---------------------------------------------------------------------------

def validateDevice (device : DeviceSpec F) : Except PyException Unit := do
  raiseUnless (nameGiven device.name) "device name is required"
  raiseUnless (nameGiven device.driverType) "device driver_type is required"
  raiseUnless (100 ≤ device.pollIntervalMs) "device poll_interval_ms must be at least 100"

def saveDevice (device : DeviceSpec F) : StoreAct F Int := do
  .lift (validateDevice device)
  .commit fun store => do
    let row ← deviceRow device
    match device.id with
    | none => return (← nextRowId store.devices, store.insertDevice row)
    | some id =>
      sqlInteger id
      return (id, store.updateDevice id row)

def listDevices (store : ConfigStore F) : List (DeviceSpec F) :=
  orderBy (fun d : DeviceSpec F => toLex (d.deviceGroup, d.name))
    (store.devices.rows.entries.map fun e => e.2.spec e.1)

-- ---------------------------------------------------------------------------
-- Tags
-- ---------------------------------------------------------------------------

def listTags (store : ConfigStore F) (deviceId : Int) : List (TagSpec F) :=
  orderBy (fun t : TagSpec F => toLex (t.tagGroup, t.name))
    ((store.tags.rows.entries.filter fun e => e.2.deviceId = deviceId).map fun e => e.2.spec e.1)

def requiredDeviceId : Option Int → StoreAct F Int
  | none => .raise ⟨.valueError, "tag device_id is required"⟩
  | some deviceId => pure deviceId

def driverTypeForDevice (deviceId : Option Int) : StoreAct F String := do
  let deviceId ← requiredDeviceId deviceId
  .lift (sqlInteger deviceId)
  match ← .read fun store => store.devices.get? deviceId with
  | none => .raise ⟨.valueError, "device not found: " ++ PyText.textOfInt deviceId⟩
  | some row => pure row.driverType

/-- Another tag of the device with the group and name. -/
def hasTagName (store : ConfigStore F) (deviceId : Int) (tag : TagSpec F) : Bool :=
  store.tags.rows.entries.any fun e =>
    e.2.deviceId = deviceId ∧ e.2.tagGroup = tag.tagGroup ∧ e.2.name = tag.name ∧
      tag.id ≠ some e.1

def validateUniqueTagName (deviceId : Int) (tag : TagSpec F) : StoreAct F Unit := do
  .lift (sqlIntegerOrNull tag.id)
  if ← .read fun store => store.hasTagName deviceId tag then
    .raise ⟨.valueError, "tag name already exists in group '" ++ textOr tag.tagGroup "default" ++
      "': " ++ tag.name⟩

/-- The statement of `save_tag`, which gives the id of the tag. -/
def writeTag (deviceId : Int) (tag : TagSpec F) (store : ConfigStore F) :
    Except PyException (Int × ConfigStore F) := do
  let row ← tagRow deviceId tag
  match tag.id with
  | none => return (← nextRowId store.tags, ← store.insertTag row)
  | some id => return (id, ← store.updateTag id row)

def saveTag (tag : TagSpec F) : StoreAct F Int := do
  .lift (validateTag (← driverTypeForDevice tag.deviceId) tag)
  let deviceId ← requiredDeviceId tag.deviceId
  validateUniqueTagName deviceId tag
  .commit (writeTag deviceId tag)

-- ---------------------------------------------------------------------------
-- Sinks and routes
-- ---------------------------------------------------------------------------

def getMqttConfig (store : ConfigStore F) : MqttConfig := store.mqttConfig.getD {}

def saveSinkConfig (config : SinkConfig F) : StoreAct F Unit :=
  .commit fun store => do
    PyValue.checkJsonDict config.config.entries
    return ((), store.upsertSinkConfig config.sinkType ⟨config.enabled, config.config⟩)

def getSelectedSinkType (store : ConfigStore F) : String := store.sinkSelection.getD "mqtt"

def optionalText : Option String → PyValue F
  | none => .none
  | some s => .str s

def getSinkConfig (store : ConfigStore F) (sinkType : Option String) : SinkConfig F :=
  let requested := textOr sinkType store.getSelectedSinkType
  match store.sinkConfigs.get? requested with
  | some row => ⟨requested, row.enabled, row.config⟩
  | none =>
    let mqtt := store.getMqttConfig
    if requested ≠ "mqtt" then ⟨requested, false, ∅⟩
    else ⟨"mqtt", mqtt.enabled, .ofList [
      ("host", .str mqtt.host), ("port", .int mqtt.port), ("base_topic", .str mqtt.baseTopic),
      ("username", optionalText mqtt.username), ("password", optionalText mqtt.password),
      ("client_id", .str mqtt.clientId), ("qos", .int mqtt.qos)]⟩

def listSinkConfigs (store : ConfigStore F) : List (SinkConfig F) :=
  orderBy SinkConfig.sinkType
    (store.sinkConfigs.entries.map fun e => ⟨e.1, e.2.enabled, e.2.config⟩)

def saveOutputRoute (route : OutputRouteConfig F) : StoreAct F Int :=
  .commit fun store => do
    let row ← routeRow route
    match route.id with
    | none => return (← nextRowId store.outputRoutes, ← store.insertRoute row)
    | some id =>
      sqlInteger id
      return (id, ← store.updateRoute id row)

/-- Routes of all devices come last. -/
def routeOrder (route : OutputRouteConfig F) : Bool ×ₗ Int ×ₗ String ×ₗ String :=
  toLex (route.deviceId.isNone, toLex (route.deviceId.getD 0,
    toLex (route.tagGroup, route.sinkType)))

def listOutputRoutes (store : ConfigStore F) : List (OutputRouteConfig F) :=
  orderBy routeOrder (store.outputRoutes.rows.entries.map fun e => e.2.route e.1)

end Methods

end ConfigStore

end IndustrialGateway
