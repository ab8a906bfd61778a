import IndustrialGateway.Lib.Act
import IndustrialGateway.ResultQueue

/-!
# The publisher

`SinkPublisher` of `workers.py`: it caches the latest result of every tag,
keeps a status for every device and sends measurement, status and heartbeat
messages to the sink. Each method is an action on the publisher's state; what
it hands to the sink, to the status queue and to the log queue are its events.
The sink's behaviour during a call is an argument of the call.
-/

namespace IndustrialGateway

variable {F : Type}

structure OutputRoute (F : Type) where
  /-- `id(route)`, by which the publisher remembers heartbeats. -/
  objectId : Nat
  deviceId : Option Int
  tagGroup : String
  sinkType : String
  mqttConfig : MqttConfig
  topic : String := ""
  routeKind : String := "data"
  heartbeatIntervalS : F
  sensorCode : String := "SYSTEM"
  deriving DecidableEq

abbrev DeviceKey := String × String

def deviceKey (device : DeviceSpec F) : DeviceKey :=
  match device.id with
  | some id => ("id", PyText.textOfInt id)
  | none => ("name", device.name)

def tagKey (tag : TagResult F) : String :=
  textOr tag.nodeId (tag.name ++ ":" ++ PyText.textOfInt tag.address)

def tagTopicGroup (tag : TagResult F) : Option String :=
  match tag.nodeId with
  | none => none
  | some nodeId =>
    let text := (PyText.after ";s=".toList nodeId.toList).getD nodeId.toList
    let first := PyText.strip (String.ofList ((PyText.splitChars '.' text).headD []))
    if PyText.startsWith "PHH" (PyText.upper first) then some first else none

def tagOutputGroup (tag : TagResult F) : Option String :=
  if tag.tagGroup ≠ "" then some tag.tagGroup else tagTopicGroup tag

def topicWithGroup (topic group : String) : String :=
  let parts := PyText.split '/' (PyText.stripChar '/' topic)
  if 2 ≤ parts.length then
    String.intercalate "/" (parts.dropLast ++ [group, parts.getLastD ""])
  else PyText.stripChar '/' topic ++ "/" ++ group

/-- The first data route for the device and group, else for the device and no
group, else for no device and the group. -/
def routeFor (routes : List (OutputRoute F)) (device : DeviceSpec F) (tagGroup : String) :
    Option (OutputRoute F) :=
  let data := routes.filter fun route => route.routeKind = "data"
  let exact := data.filter fun route => route.deviceId = device.id ∧ route.tagGroup = tagGroup
  let deviceDefault := data.filter fun route => route.deviceId = device.id ∧ route.tagGroup = ""
  let groupDefault := data.filter fun route => route.deviceId = none ∧ route.tagGroup = tagGroup
  exact.head?.or (deviceDefault.head?.or groupDefault.head?)

structure LogRecord (F : Type) where
  level : String
  source : String
  message : String
  data : List (String × PyValue F)
  deriving DecidableEq

/-- What is put on the status queue. -/
inductive StatusEvent where
  | text (message : String)
  | tagUpdate (device tagGroup tag nodeId mode timestamp quality : String) (error : Option String)
  | serverStatus (device status timestamp : String) (error : Option String)
  deriving DecidableEq

/-- What a message reports on. This is not part of the message: it records which
call of `publish_batch` sent it. -/
inductive About (F : Type) where
  | group (device : DeviceSpec F) (group : Option String)
  | systemHeartbeat
  deriving DecidableEq

/-- One call of `sink.publish_batch`. -/
structure Sent (F : Type) where
  about : About F
  pluginType : String
  message : BatchMessage F
  deriving DecidableEq

inductive Output (F : Type) where
  | sent (s : Sent F)
  | status (e : StatusEvent)
  | log (r : LogRecord F)
  deriving DecidableEq

/-- The sink during one call: the exception with which `publish_batch` fails on
a message, if it does. -/
abbrev Sink (F : Type) := BatchMessage F → Option PyException

inductive DeviceStatus where
  | good
  | bad
  | disconnected
  | stale
  deriving DecidableEq, Repr

def DeviceStatus.text : DeviceStatus → String
  | .good => "good"
  | .bad => "bad"
  | .disconnected => "disconnected"
  | .stale => "stale"

/-- An entry of `_latest`. -/
structure Snapshot (F : Type) where
  device : DeviceSpec F
  tags : OrderedDict String (TagResult F)
  lastReceivedAt : Option Datetime
  lastSourceTimestamp : Option Datetime
  deriving DecidableEq

/-- An entry of `_device_statuses`. -/
structure DeviceState (F : Type) where
  device : DeviceSpec F
  status : DeviceStatus
  reason : String
  changedAt : Datetime
  lastPublishedAt : Option Datetime
  lastReceivedAt : Option Datetime
  lastSourceTimestamp : Option Datetime
  deriving DecidableEq

/-- The arguments of `SinkPublisher.__init__` that do not change. -/
structure PublisherConfig (F : Type) where
  mqttConfig : MqttConfig
  pluginType : String := "mqtt"
  staleTimeoutS : F
  statusPublishIntervalS : F

/-- The publisher's state. A snapshot stands under the key of its device. -/
structure SinkPublisher (F : Type) where
  outputRoutes : List (OutputRoute F) := []
  latest : OrderedDict DeviceKey (Snapshot F) := ∅
  keyed : ∀ key snapshot, latest.get? key = some snapshot → deviceKey snapshot.device = key
  deviceStatuses : OrderedDict DeviceKey (DeviceState F) := ∅
  heartbeatPublishedAt : OrderedDict Nat Datetime := ∅

/-- An action of the publisher. -/
abbrev PublisherAct (F : Type) := Act (SinkPublisher F) (Output F)

def runtimeMode (device : DeviceSpec F) : String :=
  if device.driverType = "modbus_rtu_monitor" then "Monitoring"
  else if device.driverType = "mqtt" then "Subscription"
  else if device.driverType = "opcua" then
    match device.connection.get? "mode" with
    | some (.str "subscription") => "Subscription"
    | _ => "Polling"
  else "Polling"

namespace SinkPublisher

/-- The publisher as `__init__` leaves it. -/
def fresh (outputRoutes : List (OutputRoute F)) : SinkPublisher F where
  outputRoutes := outputRoutes
  keyed := by simp

def setState (p : SinkPublisher F) (key : DeviceKey) (state : DeviceState F) : SinkPublisher F :=
  { p with deviceStatuses := p.deviceStatuses.set key state }

def setSnapshot (p : SinkPublisher F) (snapshot : Snapshot F) : SinkPublisher F where
  outputRoutes := p.outputRoutes
  latest := p.latest.set (deviceKey snapshot.device) snapshot
  keyed := by
    intro key s h
    rw [OrderedDict.get?_set] at h
    split at h
    · cases h; assumption
    · exact p.keyed key s h
  deviceStatuses := p.deviceStatuses
  heartbeatPublishedAt := p.heartbeatPublishedAt

def setHeartbeat (p : SinkPublisher F) (route : OutputRoute F) (now : Datetime) : SinkPublisher F :=
  { p with heartbeatPublishedAt := p.heartbeatPublishedAt.set route.objectId now }

@[simp] theorem latest_setState (p : SinkPublisher F) (key : DeviceKey) (state : DeviceState F) :
    (p.setState key state).latest = p.latest := rfl

@[simp] theorem deviceStatuses_setState (p : SinkPublisher F) (key : DeviceKey)
    (state : DeviceState F) :
    (p.setState key state).deviceStatuses = p.deviceStatuses.set key state := rfl

@[simp] theorem latest_setSnapshot (p : SinkPublisher F) (snapshot : Snapshot F) :
    (p.setSnapshot snapshot).latest = p.latest.set (deviceKey snapshot.device) snapshot := rfl

@[simp] theorem deviceStatuses_setSnapshot (p : SinkPublisher F) (snapshot : Snapshot F) :
    (p.setSnapshot snapshot).deviceStatuses = p.deviceStatuses := rfl

@[simp] theorem latest_setHeartbeat (p : SinkPublisher F) (route : OutputRoute F) (now : Datetime) :
    (p.setHeartbeat route now).latest = p.latest := rfl

@[simp] theorem deviceStatuses_setHeartbeat (p : SinkPublisher F) (route : OutputRoute F)
    (now : Datetime) : (p.setHeartbeat route now).deviceStatuses = p.deviceStatuses := rfl

def deviceStatus (p : SinkPublisher F) (device : DeviceSpec F) : Option DeviceStatus :=
  (p.deviceStatuses.get? (deviceKey device)).map DeviceState.status

/-- `data` as `_log` completes it for a plugin record. -/
def pluginLog (cfg : PublisherConfig F) (message : String) (data : List (String × PyValue F)) :
    Output F :=
  .log ⟨"ERROR", "plugin", message,
    ((OrderedDict.ofList [("plugin", .str cfg.pluginType)]).update data).entries⟩

section Messages

/-- The entry of a status message for one tag. -/
def sensorStatus (connStatus : String) (errorMsg : Option String) (timestamp : Datetime)
    (tag : TagResult F) : SensorStatus where
  sensorCode := tag.name
  connStatus := if tag.isGood then connStatus else "off"
  lastSeen := PyTime.isoMillis tag.timestamp
  healthScore := if connStatus = "on" ∧ tag.isGood then 100 else 0
  errorMsg := if textTruthy tag.error then tag.error else errorMsg
  updateTime := PyTime.isoMillis timestamp

def ctmStatusMessage (measurement : BatchMessage F) (tags : List (TagResult F)) (connStatus : String)
    (errorMsg : Option String) (timestamp : Datetime) : BatchMessage F where
  topic := PyText.rstripChar '/' measurement.topic ++ "/status"
  payload := .status measurement.payload.timestamp
    (tags.map (sensorStatus connStatus errorMsg timestamp))
  qos := measurement.qos
  useMessageTopic := true

/-- `_telegraf_status_time`. -/
def telegrafStatusTime (t : Datetime) : String :=
  PyTime.date t ++ " " ++ PyTime.clock t ++ "." ++ PyTime.millis t ++ "+00"

def systemHeartbeatStatusMessage (route : OutputRoute F) (timestamp : Datetime) :
    BatchMessage F where
  topic := PyText.rstripChar '/' route.topic ++ "/status"
  payload := .status (telegrafStatusTime timestamp) [{
    sensorCode := if route.sensorCode = "" then "SYSTEM" else route.sensorCode
    connStatus := "on"
    lastSeen := telegrafStatusTime timestamp
    healthScore := 100
    errorMsg := none
    updateTime := telegrafStatusTime timestamp }]
  qos := route.mqttConfig.qos
  useMessageTopic := true

def measurementMessage (cfg : PublisherConfig F) (routes : List (OutputRoute F))
    (device : DeviceSpec F) (tags : List (TagResult F)) (group : Option String)
    (timestamp : Datetime) : BatchMessage F × String :=
  let route := routeFor routes device (group.getD "")
  let mqttConfig := (route.map OutputRoute.mqttConfig).getD cfg.mqttConfig
  let message := BatchMessage.fromResults device tags timestamp mqttConfig
  let message :=
    if textTruthy group && route.all (fun r => r.tagGroup ≠ group.getD "") then
      { message with topic := topicWithGroup message.topic (group.getD "") }
    else message
  match route with
  | none => (message, cfg.pluginType)
  | some r =>
    ({ message with
        topic := if r.topic = "" then message.topic else r.topic
        useMessageTopic := true }, r.sinkType)

theorem payload_measurementMessage (cfg : PublisherConfig F) (routes : List (OutputRoute F))
    (device : DeviceSpec F) (tags : List (TagResult F)) (group : Option String) (now : Datetime) :
    (measurementMessage cfg routes device tags group now).1.payload =
      .measurement device.id device.name (PyTime.isoMillis now) (tags.map TagResult.toPayload) := by
  have hroute : ∀ route : Option (OutputRoute F),
      (BatchMessage.fromResults device tags now
        ((route.map OutputRoute.mqttConfig).getD cfg.mqttConfig)).payload =
      .measurement device.id device.name (PyTime.isoMillis now) (tags.map TagResult.toPayload) :=
    fun _ => rfl
  simp only [measurementMessage]
  cases routeFor routes device (group.getD "") with
  | none => simp only []; split <;> exact hroute none
  | some route => simp only []; split <;> exact hroute (some route)

end Messages

-- ---------------------------------------------------------------------------
-- Sending
-- ---------------------------------------------------------------------------

variable (cfg : PublisherConfig F) (sink : Sink F)

def publishMessage (about : About F) (pluginType : String) (message : BatchMessage F)
    (deviceName : String) : List (Output F) :=
  .sent ⟨about, pluginType, message⟩ ::
    match sink message with
    | none => []
    | some exc =>
      [.status (.text (deviceName ++ ": publish failed: " ++ exc.message)),
        pluginLog cfg "sink publish failed"
          [("device", .str deviceName), ("plugin", .str pluginType), ("error", .str exc.message)]]

def publishDeviceStatus (device : DeviceSpec F) (now : Datetime) : PublisherAct F :=
  .look fun p =>
    match p.deviceStatuses.get? (deviceKey device) with
    | none => .skip
    | some state =>
      Act.seq
        (.modify fun p => p.setState (deviceKey device) { state with lastPublishedAt := some now })
        (match p.latest.get? (deviceKey device) with
          | none => .skip
          | some snapshot =>
            let connStatus := if state.status = .good then "on" else "off"
            let errorMsg := if connStatus = "on" then none else some state.reason
            Act.forEach (fun (group, tags) =>
                let (message, pluginType) :=
                  measurementMessage cfg p.outputRoutes device tags group now
                .emitAll (publishMessage cfg sink (.group device group) pluginType
                  (ctmStatusMessage message tags connStatus errorMsg now) device.name))
              (OrderedDict.groupBy tagOutputGroup snapshot.tags.values).entries)

def emitRuntimeTagStatus (device : DeviceSpec F) (status : DeviceStatus) (error : String)
    (timestamp : Datetime) : PublisherAct F :=
  .look fun p =>
    match p.latest.get? (deviceKey device) with
    | none => .skip
    | some snapshot =>
      .emitAll (snapshot.tags.values.map fun tag =>
        .status (.tagUpdate device.name tag.tagGroup tag.name (tag.nodeId.getD "")
          (runtimeMode device) (PyTime.iso timestamp) status.text
          (if status = .good then none else some error)))

variable [PyRuntime F]

def publishStatusHeartbeatIfDue (device : DeviceSpec F) (now : Datetime) : PublisherAct F :=
  if PyRuntime.le cfg.statusPublishIntervalS (PyRuntime.lit 0) then .skip
  else .look fun p =>
    match p.deviceStatuses.get? (deviceKey device) with
    | none => .skip
    | some state =>
      let intervalStartedAt := state.lastPublishedAt.getD state.changedAt
      if PyRuntime.le cfg.statusPublishIntervalS (PyRuntime.totalSeconds (now - intervalStartedAt)) then
        publishDeviceStatus cfg sink device now
      else .skip

def setDeviceStatus (device : DeviceSpec F) (status : DeviceStatus) (reason : String)
    (now : Datetime) (lastReceivedAt lastSourceTimestamp : Option Datetime) : PublisherAct F :=
  .look fun p =>
    let key := deviceKey device
    let fresh : PublisherAct F := .modify fun p => p.setState key
      { device, status, reason, changedAt := now, lastPublishedAt := none, lastReceivedAt,
        lastSourceTimestamp }
    let announce : PublisherAct F :=
      Act.seq (emitRuntimeTagStatus device status reason now) (publishDeviceStatus cfg sink device now)
    match p.deviceStatuses.get? key with
    | some current =>
      if current.status = status then
        Act.seq
          (.modify fun p => p.setState key { current with reason, lastReceivedAt, lastSourceTimestamp })
          (publishStatusHeartbeatIfDue cfg sink device now)
      else fresh.seq announce
    | none => if status ≠ .good then fresh.seq announce else fresh

def refreshStaleSnapshot (now : Datetime) (snapshot : Snapshot F) : PublisherAct F :=
  .look fun p =>
    match snapshot.lastReceivedAt with
    | none => .skip
    | some lastReceivedAt =>
      if PyRuntime.le cfg.staleTimeoutS (PyRuntime.totalSeconds (now - lastReceivedAt)) ∧
          p.deviceStatus snapshot.device = some .good then
        setDeviceStatus cfg sink snapshot.device .stale "message timeout" now (some lastReceivedAt)
          snapshot.lastSourceTimestamp
      else if p.deviceStatus snapshot.device ≠ some .good then
        publishStatusHeartbeatIfDue cfg sink snapshot.device now
      else .skip

def refreshStaleStatuses (now : Datetime) : PublisherAct F :=
  if PyRuntime.le cfg.staleTimeoutS (PyRuntime.lit 0) then .skip
  else .look fun p => Act.forEach (refreshStaleSnapshot cfg sink now) p.latest.values

/-- The heartbeat interval of the route has not passed. -/
def heartbeatTooEarly (p : SinkPublisher F) (now : Datetime) (route : OutputRoute F) : Bool :=
  match p.heartbeatPublishedAt.get? route.objectId with
  | none => false
  | some lastPublishedAt =>
    PyRuntime.lt (PyRuntime.totalSeconds (now - lastPublishedAt)) route.heartbeatIntervalS

def publishSystemHeartbeat (now : Datetime) (route : OutputRoute F) : PublisherAct F :=
  if route.routeKind ≠ "system_heartbeat" ∨ route.topic = "" then .skip
  else .look fun p =>
    if p.heartbeatTooEarly now route then .skip
    else Act.seq
      (.modify fun p => p.setHeartbeat route now)
      (.emitAll (publishMessage cfg sink .systemHeartbeat route.sinkType
        (systemHeartbeatStatusMessage route now) "System Heartbeat"))

def publishSystemHeartbeats (now : Datetime) : PublisherAct F :=
  .look fun p => Act.forEach (publishSystemHeartbeat cfg sink now) p.outputRoutes

-- ---------------------------------------------------------------------------
-- The two calls of the publisher's loop
-- ---------------------------------------------------------------------------

omit [PyRuntime F] in
/-- The measurement and the status message of one output group; nothing when no
tag of the group is good. -/
def publishGroup (device : DeviceSpec F) (now : Datetime) (routes : List (OutputRoute F))
    (group : Option String) (tags : List (TagResult F)) : List (Output F) :=
  let goodTags := tags.filter TagResult.isGood
  if goodTags.isEmpty then []
  else
    let (message, pluginType) := measurementMessage cfg routes device goodTags group now
    publishMessage cfg sink (.group device group) pluginType message device.name ++
      publishMessage cfg sink (.group device group) pluginType
        (ctmStatusMessage message tags "on" none now) device.name

def publishSnapshot (now : Datetime) (snapshot : Snapshot F) : PublisherAct F :=
  .look fun p =>
    if p.deviceStatus snapshot.device ≠ some .good then .skip
    else .emitAll ((OrderedDict.groupBy tagOutputGroup snapshot.tags.values).entries.flatMap
      fun (group, tags) => publishGroup cfg sink snapshot.device now p.outputRoutes group tags)

def publishCached (now : Datetime) : PublisherAct F :=
  (refreshStaleStatuses cfg sink now).seq <|
    (publishSystemHeartbeats cfg sink now).seq <|
      .look fun p => Act.forEach (publishSnapshot cfg sink now) p.latest.values

/-- The log and status events of one tag of a result. -/
def reportTag (device : DeviceSpec F) (tag : TagResult F) : List (Output F) :=
  (if tag.isGood then [] else
    [.log ⟨"ERROR", "driver", "tag read failed",
      [("device", .str device.name), ("driver", .str device.driverType),
        ("tag_group", .str tag.tagGroup), ("tag", .str tag.name),
        ("node_id", .str (tag.nodeId.getD "")), ("quality", .str tag.quality.text),
        ("error", (tag.error.map .str).getD .none)]⟩]) ++
    [.status (.tagUpdate device.name tag.tagGroup tag.name (tag.nodeId.getD "") (runtimeMode device)
      (PyTime.iso tag.timestamp) tag.quality.text tag.error)]

/-- The latest result of every tag of the device. -/
def cachedTags (p : SinkPublisher F) (key : DeviceKey) : OrderedDict String (TagResult F) :=
  ((p.latest.get? key).map Snapshot.tags).getD ∅

/-- The snapshot of the device after the result is cached. -/
def cachedSnapshot (p : SinkPublisher F) (result : ReadResult F) (receivedAt : Datetime) :
    Snapshot F where
  device := result.device
  tags := (p.cachedTags (deviceKey result.device)).update
    (result.tags.map fun tag => (tagKey tag, tag))
  lastReceivedAt := some receivedAt
  lastSourceTimestamp := some result.timestamp

/-- Any good tag makes the device good, else any bad tag makes it bad; a result
without tags makes it good. -/
def resultStatus (tags : List (TagResult F)) : DeviceStatus :=
  if tags.any TagResult.isGood then .good
  else if tags.any (fun tag => !tag.isGood) then .bad
  else .good

def statusReason : DeviceStatus → String
  | .bad => "tag read failed"
  | _ => "data received"

def cacheResult (result : ReadResult F) (receivedAt : Datetime) : PublisherAct F :=
  Act.seq
    (.modify fun p => p.setSnapshot (cachedSnapshot p result receivedAt)) <|
    Act.seq (.emitAll (result.tags.flatMap (reportTag result.device))) <|
      setDeviceStatus cfg sink result.device (resultStatus result.tags)
        (statusReason (resultStatus result.tags)) receivedAt (some receivedAt) (some result.timestamp)

/-- `publish_once` after `inbox.get` has returned a result. -/
def publishResult (result : ReadResult F) (receivedAt : Datetime) : PublisherAct F :=
  if textTruthy result.error then
    Act.seq
      (.emitAll [.status (.text (result.device.name ++ ": read failed: " ++ result.error.getD "")),
        .log ⟨"ERROR", "driver", "read result error",
          [("device", .str result.device.name), ("driver", .str result.device.driverType),
            ("error", .str (result.error.getD ""))]⟩])
      (setDeviceStatus cfg sink result.device .disconnected (result.error.getD "") receivedAt none none)
  else cacheResult cfg sink result receivedAt

/-- One call of the publisher's loop. -/
inductive Call (F : Type) where
  | publishOnce (result : ReadResult F) (now : Datetime) (sink : Sink F)
  | publishCached (now : Datetime) (sink : Sink F)

def Call.time : Call F → Datetime
  | .publishOnce _ now _ => now
  | .publishCached now _ => now

def call : Call F → PublisherAct F
  | .publishOnce result now sink => publishResult cfg sink result now
  | .publishCached now sink => publishCached cfg sink now

/-- `publish_once`: the oldest queued result, if there is one. -/
def publishOnce (q : LatestReadResultQueue F) (now : Datetime) :
    LatestReadResultQueue F × PublisherAct F :=
  match q.get with
  | none => (q, .skip)
  | some (result, rest) => (rest, publishResult cfg sink result now)

end SinkPublisher

end IndustrialGateway
