import IndustrialGateway.ConfigService
import IndustrialGateway.StatusQueue

/-!
# The runtime manager

`runtime_manager.py` with the registry it looks classes up in. `start` launches
a publisher, a refresh thread, a topic responder and a worker for each enabled
device, one after the other; any of the lookups, constructors and thread starts
on the way may raise. What the classes and threads do then is given from
outside.
-/

namespace IndustrialGateway

variable {F : Type} [PyRuntime F]

-- ---------------------------------------------------------------------------
-- The registry
-- ---------------------------------------------------------------------------

/-- The classes under their normalised keys. A class is its name. -/
structure Registry where
  items : OrderedDict String String

namespace Registry

def normalize (key : String) : String := PyText.lower (PyText.strip key)

def register (registry : Registry) (key item : String) : Except PyException Registry := do
  let normalized := normalize key
  raiseUnless (normalized ≠ "") "registry key is required"
  return ⟨registry.items.set normalized item⟩

/-- The text of a `KeyError` is the `repr` of its message. -/
def get (F : Type) [PyRuntime F] (registry : Registry) (key : String) : Except PyException String :=
  match registry.items.get? (normalize key) with
  | some item => .ok item
  | none => .error ⟨.keyError, PyRuntime.reprStr F ("unknown registry key: " ++ key)⟩

end Registry

/-- `defaults.driver_registry`. -/
def defaultDriverRegistry : Registry := ⟨.ofList [
  ("modbus_tcp", "ModbusTcpDriver"), ("modbus_serial", "ModbusSerialDriver"),
  ("modbus_rtu_monitor", "ModbusRtuMonitorDriver"), ("opcua", "OpcUaDriver"),
  ("mqtt", "MqttInputDriver")]⟩

/-- `defaults.sink_registry` without the PostgreSQL plugin. -/
def defaultSinkRegistry : Registry := ⟨.ofList [("mqtt", "MqttSink")]⟩

-- ---------------------------------------------------------------------------
-- State
-- ---------------------------------------------------------------------------

inductive WorkerRole where
  | publisher
  | topicRefresh
  | topicResponder
  | poller
  | subscriptionWorker
  deriving DecidableEq, Repr

/-- A thread object. `startCall` is the call of `start` that made it, and
`started` says whether its own `start` succeeded. -/
structure Worker where
  ident : Nat
  startCall : Nat
  role : WorkerRole
  started : Bool
  deriving DecidableEq, Repr

/-- The publisher with the arguments it was made with. -/
structure PublisherRef (F : Type) where
  worker : Worker
  sinkClass : String
  sinkConfig : OrderedDict String (PyValue F)
  baseTopic : PyValue F
  qos : Int
  pluginType : String
  outputRoutes : List (OutputRoute F)
  staleTimeoutS : F
  statusPublishIntervalS : F

/-- A poller or subscription worker with its driver class, device and tags. -/
structure DeviceWorker (F : Type) where
  worker : Worker
  driverClass : String
  device : DeviceSpec F
  tags : List (TagSpec F)

structure RuntimeManager (F : Type) where
  store : ConfigStore F
  driverRegistry : Registry
  sinkRegistry : Registry
  resultQueue : LatestReadResultQueue F := .empty
  statusQueue : LatestStatusQueue := {}
  pollers : List (DeviceWorker F) := []
  subscriptionWorkers : List (DeviceWorker F) := []
  publisher : Option (PublisherRef F) := none
  topicResponder : Option Worker := none
  topicRefreshThread : Option Worker := none
  topicRefreshStop : Bool := false
  running : Bool := false
  healthIntervalS : Int := 10
  runtimeLogEnabled : Bool := false
  runtimeTags : OrderedDict (String × String) (Settings F) := ∅
  serverStatuses : OrderedDict String (Settings F) := ∅
  logs : List String := []
  /-- The threads that run, and the threads whose stop event is set. -/
  live : List Worker := []
  stopEvents : List Worker := []
  /-- Fresh `id`s for threads and routes, and the number of calls of `start`. -/
  nextIdent : Nat := 0
  nextRouteId : Nat := 0
  startCalls : Nat := 0

abbrev ManagerAct (F α : Type) := Fallible PyException (RuntimeManager F) α

/-- What happens outside during a call of `start`: the topic server, the clock,
the environment variable of the responder, and what the constructors and the
threads raise. -/
structure StartEnv (F : Type) where
  resolver : ConfigService.TopicResolver F := fun _ _ => .ok ∅
  now : Int → String := fun _ => ""
  responderEnabled : Bool := false
  sinkInit : String → Settings F → Option PyException := fun _ _ => none
  publisherInit : Option PyException := none
  publisherStart : Option PyException := none
  refreshStart : Option PyException := none
  responderInit : Option PyException := none
  responderStart : Option PyException := none
  workerInit : DeviceSpec F → Option PyException := fun _ => none
  workerStart : DeviceSpec F → Option PyException := fun _ => none

/-- What `snapshot` returns. -/
structure RuntimeSnapshot (F : Type) where
  running : Bool
  deviceCount : Nat
  healthIntervalS : Int
  runtimeLogEnabled : Bool
  runtimeTags : List (Settings F)
  serverStatuses : List (Settings F)
  logs : List String

-- ---------------------------------------------------------------------------
-- Configuration
-- ---------------------------------------------------------------------------

open ConfigService

/-- `_float_config`; an `OverflowError` is not caught. -/
def floatConfig (config : Settings F) (key : String) (default : Nat) : Except PyException F :=
  match (optional config key (.float (PyRuntime.lit default))).toFloat with
  | .ok x => .ok x
  | .error e =>
    if e.type = .typeError ∨ e.type = .valueError then .ok (PyRuntime.lit default) else .error e

def boolConfig (config : Settings F) (key : String) (default : Bool) : Bool :=
  match optional config key (.bool default) with
  | .bool b => b
  | value => csvTruths.contains (PyText.lower (PyText.strip value.text))

def usesSubscriptionWorker (device : DeviceSpec F) : Bool :=
  device.driverType = "mqtt" || (device.driverType = "opcua" &&
    isText (device.connection.get? "mode") "subscription")

def routePublishTopic (config : Settings F) : PyValue F :=
  if (optional config "dynamic_topic_enabled").truthy && (optional config "resolved_topic").truthy then
    optional config "resolved_topic"
  else optional config "topic"

def routeTopic (baseTopic : String) (topic : PyValue F) : String :=
  let rawTopic := PyText.strip (valueOr topic (.str "")).text
  if PyText.startsWith "C-S/" rawTopic then rawTopic
  else
    let topic := PyText.stripChar '/' rawTopic
    let base := PyText.stripChar '/' baseTopic
    if topic = "" then ""
    else if base = "" ∨ topic = base ∨ PyText.startsWith (base ++ "/") topic then topic
    else base ++ "/" ++ topic

def outputRoute (sinkConfig : Settings F) (route : OutputRouteConfig F) (objectId : Nat) :
    Except PyException (OutputRoute F) := do
  let baseTopic := PyText.stripChar '/'
    (valueOr (optional sinkConfig "base_topic") (.str "industrial")).text
  return {
    mqttConfig := { baseTopic, qos := ← (optional sinkConfig "qos" (.int 0)).toInt }
    objectId
    deviceId := route.deviceId
    tagGroup := route.tagGroup
    sinkType := route.sinkType
    topic := routeTopic baseTopic (routePublishTopic route.config)
    routeKind := (valueOr (optional route.config "route_kind") (.str "data")).text
    heartbeatIntervalS := ← floatConfig route.config "heartbeat_interval_s" 1
    sensorCode := (valueOr (optional route.config "sensor_code") (.str "SYSTEM")).text }

/-- `_output_routes`: new route objects from the stored routes. -/
def outputRoutes (store : ConfigStore F) (firstId : Nat) : Except PyException (List (OutputRoute F)) :=
  let selectedSink := store.getSinkConfig none
  if selectedSink.sinkType ≠ "mqtt" then .ok []
  else
    let routes := store.listOutputRoutes.filter fun route => route.enabled && route.sinkType = "mqtt"
    (routes.zipIdx firstId).mapM fun (route, id) => outputRoute selectedSink.config route id

def initialRuntimeTags (store : ConfigStore F) : OrderedDict (String × String) (Settings F) :=
  .ofList <| (store.listDevices.filter DeviceSpec.enabled).flatMap fun device =>
    ((store.listTags (device.id.getD 0)).filter TagSpec.enabled).map fun tag =>
      ((device.name, textOr tag.nodeId tag.name), .ofList [
        ("type", .str "tag_update"), ("device", .str device.name), ("tag_group", .str tag.tagGroup),
        ("tag", .str tag.name), ("node_id", .str (tag.nodeId.getD "")),
        ("mode", .str (runtimeMode device)), ("timestamp", .str ""), ("quality", .str "unknown"),
        ("error", .none)])

namespace RuntimeManager

def snapshot (m : RuntimeManager F) : RuntimeSnapshot F where
  running := m.running
  deviceCount := m.pollers.length + m.subscriptionWorkers.length
  healthIntervalS := m.healthIntervalS
  runtimeLogEnabled := m.runtimeLogEnabled
  runtimeTags := m.runtimeTags.values
  serverStatuses := m.serverStatuses.values
  logs := m.logs

def onStore (act : StoreAct F α) : ManagerAct F α :=
  .zoom store (fun m store => { m with store }) act

-- ---------------------------------------------------------------------------
-- Events
-- ---------------------------------------------------------------------------

/-- `_record_status`: the event to send, and the manager with the tag's or the
server's new state. -/
def recordStatus (m : RuntimeManager F) (item : StatusEvent) : Settings F × RuntimeManager F :=
  match item with
  | .tagUpdate device _ tag nodeId _ _ _ _ =>
    let key := (device, tagOf nodeId tag)
    let merged := ((m.runtimeTags.get? key).getD ∅).update item.entries
    (merged, { m with runtimeTags := m.runtimeTags.set key merged })
  | .serverStatus device _ _ _ =>
    let item := .ofList item.entries
    (item, { m with serverStatuses := m.serverStatuses.set device item })
  | .text message => (.ofList [("type", .str "status"), ("message", .str message)], m)

/-- One round of the loop of `drain_events`; `none` when the queue is empty. -/
def drainRound (m : RuntimeManager F) : Option (Settings F × RuntimeManager F) :=
  m.statusQueue.getNowait.map fun (item, statusQueue) => { m with statusQueue }.recordStatus item

def drainRounds : Nat → RuntimeManager F → List (Settings F) × RuntimeManager F
  | 0, m => ([], m)
  | limit + 1, m =>
    match m.drainRound with
    | none => ([], m)
    | some (event, m) =>
      let (events, m) := drainRounds limit m
      (event :: events, m)

/-- The deque `logs` has room for 500 lines. -/
def appendLogs (m : RuntimeManager F) (lines : List String) : RuntimeManager F :=
  let logs := m.logs ++ lines
  { m with logs := logs.drop (logs.length - 500) }

/-- `drain_events`; `lines` is what the logger hands over. -/
def drainEvents (m : RuntimeManager F) (lines : List String) (limit : Nat := 1000) :
    List (Settings F) × RuntimeManager F :=
  let (events, m) := drainRounds limit m
  (events ++ lines.map fun line => .ofList [("type", .str "log"), ("message", .str line)],
    m.appendLogs lines)

-- ---------------------------------------------------------------------------
-- Start
-- ---------------------------------------------------------------------------

/-- A thread object whose `start` succeeds unless it raises. -/
def newWorker (m : RuntimeManager F) (role : WorkerRole) (raised : Option PyException) : Worker :=
  ⟨m.nextIdent, m.startCalls, role, raised.isNone⟩

/-- A new thread: `assign` keeps the object before its `start` is called. -/
def launch (role : WorkerRole) (raised : Option PyException)
    (assign : Worker → RuntimeManager F → RuntimeManager F) : ManagerAct F Worker := do
  let worker ← .read fun m => m.newWorker role raised
  .modify fun m => assign worker { m with nextIdent := m.nextIdent + 1 }
  .raiseIf raised
  .modify fun m => { m with live := m.live ++ [worker] }
  return worker

def newOutputRoutes : ManagerAct F (List (OutputRoute F)) := do
  let routes ← .lift (← .read fun m => outputRoutes m.store m.nextRouteId)
  .modify fun m => { m with nextRouteId := m.nextRouteId + routes.length }
  return routes

/-- `_refresh_dynamic_route_topics`, but for its log records. -/
def refreshDynamicRouteTopics (resolver : TopicResolver F) (now : Int → String) :
    ManagerAct F Unit := do
  let _ ← onStore (refreshDynamicOutputRouteTopics resolver now)
  if ← .read fun m => m.publisher.isSome then
    let outputRoutes ← newOutputRoutes
    .modify fun m => { m with publisher := m.publisher.map fun p => { p with outputRoutes } }

/-- The state that a call of `start` begins with. -/
def reset (healthIntervalS : Option Int) (runtimeLogEnabled : Option Bool) (m : RuntimeManager F) :
    RuntimeManager F :=
  { m with
    healthIntervalS := healthIntervalS.getD m.healthIntervalS
    runtimeLogEnabled := runtimeLogEnabled.getD m.runtimeLogEnabled
    topicRefreshStop := false
    resultQueue := .empty
    statusQueue := m.statusQueue.clear
    runtimeTags := initialRuntimeTags m.store
    serverStatuses := ∅
    startCalls := m.startCalls + 1 }

def requestTopicsOnStart (env : StartEnv F) (sinkConfig : SinkConfig F) : ManagerAct F Unit :=
  if sinkConfig.sinkType = "mqtt" && boolConfig sinkConfig.config "topic_request_on_start" true then
    refreshDynamicRouteTopics env.resolver env.now
  else pure ()

/-- `start` up to the start of the publisher. -/
def startPublisher (env : StartEnv F) : ManagerAct F (SinkConfig F) := do
  let sinkConfig ← .read fun m => m.store.getSinkConfig none
  requestTopicsOnStart env sinkConfig
  let sinkClass ← .lift (← .read fun m => m.sinkRegistry.get F sinkConfig.sinkType)
  let config := sinkConfig.config.set "enabled" (.bool sinkConfig.enabled)
  .raiseIf (env.sinkInit sinkClass config)
  let qos ← .lift (optional sinkConfig.config "qos" (.int 0)).toInt
  let routes ← newOutputRoutes
  let staleTimeoutS ← .lift (floatConfig sinkConfig.config "message_stale_timeout_s" 15)
  let statusPublishIntervalS ← .lift (floatConfig sinkConfig.config "status_publish_interval_s" 60)
  .raiseIf env.publisherInit
  let _ ← launch .publisher env.publisherStart fun worker m => { m with
    publisher := some {
      worker, sinkClass
      sinkConfig := config
      baseTopic := optional sinkConfig.config "base_topic" (.str "industrial")
      qos
      pluginType := sinkConfig.sinkType
      outputRoutes := routes
      staleTimeoutS, statusPublishIntervalS } }
  return sinkConfig

/-- `_start_topic_refresh_thread`. -/
def startTopicRefreshThread (env : StartEnv F) (config : Settings F) : ManagerAct F Unit := do
  let intervalS ← .lift (floatConfig config "topic_refresh_interval_s" 300)
  if PyRuntime.le intervalS (PyRuntime.lit 0) then pure ()
  else do
    .modify fun m => { m with topicRefreshStop := false }
    let _ ← launch .topicRefresh env.refreshStart fun worker m =>
      { m with topicRefreshThread := some worker }

def startTopicResponder (env : StartEnv F) : ManagerAct F Unit := do
  .modify fun m => { m with topicResponder := none }
  if !env.responderEnabled then pure ()
  else do
    .raiseIf env.responderInit
    let _ ← launch .topicResponder env.responderStart fun worker m =>
      { m with topicResponder := some worker }

/-- The worker of a device joins its list once it runs. -/
def startDevice (env : StartEnv F) (device : DeviceSpec F) : ManagerAct F Unit := do
  if !device.enabled then pure ()
  else do
    let driverClass ← .lift (← .read fun m => m.driverRegistry.get F device.driverType)
    let tags ← .read fun m => m.store.listTags (device.id.getD 0)
    .raiseIf (env.workerInit device)
    if usesSubscriptionWorker device then
      let worker ← launch .subscriptionWorker (env.workerStart device) fun _ m => m
      .modify fun m => { m with
        subscriptionWorkers := m.subscriptionWorkers ++ [⟨worker, driverClass, device, tags⟩] }
    else
      let worker ← launch .poller (env.workerStart device) fun _ m => m
      .modify fun m => { m with pollers := m.pollers ++ [⟨worker, driverClass, device, tags⟩] }

/-- `start` after the start of the publisher. -/
def startWorkers (env : StartEnv F) (config : Settings F) : ManagerAct F Unit := do
  startTopicRefreshThread env config
  startTopicResponder env
  .modify fun m => { m with pollers := [], subscriptionWorkers := [] }
  forM (← .read fun m => m.store.listDevices) (startDevice env)

def start (env : StartEnv F) (healthIntervalS : Option Int) (runtimeLogEnabled : Option Bool) :
    ManagerAct F (RuntimeSnapshot F) := do
  if ← .read running then .read snapshot
  else do
    .modify (reset healthIntervalS runtimeLogEnabled)
    let sinkConfig ← startPublisher env
    startWorkers env sinkConfig.config
    .modify fun m => { m with running := true }
    .read snapshot

-- ---------------------------------------------------------------------------
-- Stop
-- ---------------------------------------------------------------------------

def deviceWorkers (m : RuntimeManager F) : List Worker :=
  (m.pollers ++ m.subscriptionWorkers).map DeviceWorker.worker

def setStop (workers : RuntimeManager F → List Worker) : ManagerAct F Unit :=
  .modify fun m => { m with stopEvents := m.stopEvents ++ workers m }

/-- `join(timeout=2)`: `ends` says which threads end in time. -/
def join (ends : Worker → Bool) (worker : Worker) : ManagerAct F Unit :=
  if worker.started then
    .modify fun m => { m with live := m.live.filter fun w => !(decide (w = worker) && ends w) }
  else .raise ⟨.runtimeError, "cannot join thread before it is started"⟩

def publisherWorker (m : RuntimeManager F) : List Worker :=
  m.publisher.toList.map PublisherRef.worker

def stop (ends : Worker → Bool) : ManagerAct F (RuntimeSnapshot F) := do
  if !(← .read running) then .read snapshot
  else do
    setStop fun m => m.deviceWorkers ++ m.topicResponder.toList
    .modify fun m => { m with topicRefreshStop := true }
    forM (← .read fun m => m.topicRefreshThread.toList) (join ends)
    .modify fun m => { m with topicRefreshThread := none }
    setStop publisherWorker
    forM (← .read fun m => m.deviceWorkers ++ m.topicResponder.toList ++ m.publisherWorker) (join ends)
    .modify fun m => { m with running := false }
    .read snapshot

end RuntimeManager

end IndustrialGateway
