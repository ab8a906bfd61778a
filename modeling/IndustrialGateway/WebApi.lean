import IndustrialGateway.RuntimeManager
import IndustrialGateway.TagFile

/-!
# The web API

`web/auth.py` and the endpoints of `web/api.py` behind its session check. A
request is answered from the service or the manager, and what they raise becomes
the status of the answer. A session token is what the signer of the application
makes of the user name. Every request but the login goes through the check, so
nothing changes before somebody has logged in.
-/

namespace IndustrialGateway

namespace WebApi

open Fallible ConfigService

variable {F : Type}

-- ---------------------------------------------------------------------------
-- Sessions
-- ---------------------------------------------------------------------------

structure AuthSettings where
  username : String
  password : String
  sessionSecret : String

/-- `itsdangerous.URLSafeSerializer` with the salt of the sessions: what it signs with a
secret, and what it reads from a text, `none` for its `BadSignature`. -/
structure Serializer (F : Type) where
  dumps : String → PyValue F → String
  loads : String → String → Option (PyValue F)

def isAscii (s : String) : Bool := s.toList.all fun c => c.toNat < 128

/-- What an endpoint returns: JSON, or a file. -/
inductive Content (F : Type) where
  | json (value : PyValue F)
  | csv (text : String)

def object (fields : List (String × PyValue F)) : Content F := .json (.dict fields)

/-- The `render` of Starlette's responses: what it raises for a content that it cannot
write, such as a NaN or a text with a lone surrogate. Plain ASCII texts it can write. -/
structure Renderer (F : Type) where
  render : Content F → Option PyException
  render_ascii : ∀ fields : List (String × String),
    (∀ field ∈ fields, isAscii field.1 ∧ isAscii field.2) →
      render (object (fields.map fun field => (field.1, .str field.2))) = none

structure App (F : Type) where
  authSettings : AuthSettings
  serializer : Serializer F
  renderer : Renderer F
  /-- The text of the `UnicodeDecodeError` for a body that is not UTF-8. -/
  decodeError : ByteArray → String

/-- What ends a request: an `HTTPException` with its detail, or another exception. -/
inductive Failure where
  | http (statusCode : Nat) (error message : String)
  | raised (exc : PyException)
  deriving DecidableEq

def loginRequired : Failure := .http 401 "unauthorized" "Login required"

def sessionData (settings : AuthSettings) : Settings F := .ofList [("username", .str settings.username)]

def createSessionToken (app : App F) : String :=
  app.serializer.dumps app.authSettings.sessionSecret (.dict (sessionData app.authSettings).entries)

def readSessionToken [PyRuntime F] (app : App F) (token : String) : Except Failure (Settings F) :=
  match app.serializer.loads app.authSettings.sessionSecret token with
  | none => .error loginRequired
  | some (.dict data) =>
    if isText (OrderedDict.lookup "username" data) app.authSettings.username then
      .ok (sessionData app.authSettings)
    else .error loginRequired
  | some data => .error (.raised
      ⟨.attributeError, "'" ++ data.typeName ++ "' object has no attribute 'get'"⟩)

def requireSession [PyRuntime F] (app : App F) (token : Option String) : Except Failure (Settings F) :=
  match token with
  | none => .error loginRequired
  | some token => if token = "" then .error loginRequired else readSessionToken app token

/-- `hmac.compare_digest` on texts. -/
def compareDigest (a b : String) : Except PyException Bool :=
  if isAscii a && isAscii b then .ok (a = b)
  else .error ⟨.typeError, "comparing strings with non-ASCII characters is not supported"⟩

def verifyLogin (settings : AuthSettings) (username password : String) : Except PyException Bool := do
  if ← compareDigest username settings.username then compareDigest password settings.password
  else return false

-- ---------------------------------------------------------------------------
-- Contents
-- ---------------------------------------------------------------------------

def intOrNone : Option Int → PyValue F
  | none => .none
  | some n => .int n

def textOrNone : Option String → PyValue F
  | none => .none
  | some s => .str s

/-- `_tag_to_dict`. -/
def tagToDict (tag : TagSpec F) : Settings F := .ofList [
  ("id", intOrNone tag.id), ("device_id", intOrNone tag.deviceId), ("tag_group", .str tag.tagGroup),
  ("name", .str tag.name), ("address", .int tag.address), ("function", .str tag.function),
  ("data_type", .str tag.dataType), ("scale", .float tag.scale), ("offset", .float tag.offset),
  ("enabled", .bool tag.enabled), ("unit_id", intOrNone tag.unitId),
  ("count", intOrNone tag.wordCount), ("word_count", intOrNone tag.wordCount),
  ("byte_order", .str tag.byteOrder), ("word_order", .str tag.wordOrder),
  ("node_id", textOrNone tag.nodeId)]

/-- The rows of `list_all_tags`. -/
def listAllTags (store : ConfigStore F) : List (Settings F) :=
  store.listDevices.flatMap fun device => (store.listTags (device.id.getD 0)).map fun tag =>
    (tagToDict tag).update [("device_group", .str device.deviceGroup),
      ("device_name", .str device.name), ("source_device_id", intOrNone device.id)]

/-- `_sink_to_dict`. -/
def sinkToDict (config : SinkConfig F) (selected : Bool) : Settings F := .ofList [
  ("sink_type", .str config.sinkType), ("enabled", .bool config.enabled),
  ("config", .dict config.config.entries), ("selected", .bool selected)]

def getSinkConfig (store : ConfigStore F) (sinkType : String) : Settings F :=
  sinkToDict (store.getSinkConfig (some sinkType)) (sinkType = store.getSelectedSinkType)

def listSinkConfigs (store : ConfigStore F) : List (Settings F) :=
  let selected := store.getSelectedSinkType
  let configs : OrderedDict String (SinkConfig F) :=
    .ofList (store.listSinkConfigs.map fun config => (config.sinkType, config))
  let configs := if configs.contains selected then configs
    else configs.set selected (store.getSinkConfig (some selected))
  configs.values.map fun config => sinkToDict config (config.sinkType = selected)

/-- `_route_to_dict` with the name of the route's device. -/
def routeToDict (devices : OrderedDict (Option Int) (DeviceSpec F)) (route : OutputRouteConfig F) :
    Settings F := .ofList [
  ("id", intOrNone route.id), ("device_id", intOrNone route.deviceId),
  ("tag_group", .str route.tagGroup), ("sink_type", .str route.sinkType),
  ("enabled", .bool route.enabled), ("config", .dict route.config.entries),
  ("mac_address", optional route.config "mac_address" (.str "")),
  ("resolved_topic", optional route.config "resolved_topic" (.str "")),
  ("resolved_sensor_count", optional route.config "resolved_sensor_count" (.str "")),
  ("resolved_error", optional route.config "resolved_error" (.str "")),
  ("resolved_at", optional route.config "resolved_at" (.str "")),
  ("route_kind", optional route.config "route_kind" (.str "data")),
  ("heartbeat_interval_s", optional route.config "heartbeat_interval_s" (.str "")),
  ("sensor_code", optional route.config "sensor_code" (.str "SYSTEM")),
  ("device_name", .str (
    if isText (route.config.get? "route_kind") "system_heartbeat" then "System Heartbeat"
    else match devices.get? route.deviceId with
      | some device => device.name
      | none => "All devices"))]

def resolvedToDict (devices : OrderedDict (Option Int) (DeviceSpec F)) (resolved : ResolvedRoute F) :
    Settings F :=
  .ofList ([("route", .dict (routeToDict devices resolved.route).entries),
    ("resolved_topic", .str resolved.resolvedTopic), ("sensor_count", .int resolved.sensorCount),
    ("resolved_at", .str resolved.resolvedAt)] ++
    (resolved.error.map fun error => ("error", .str error)).toList)

def snapshotToDict (snapshot : RuntimeSnapshot F) : Settings F := .ofList [
  ("running", .bool snapshot.running), ("device_count", .int snapshot.deviceCount),
  ("health_interval_s", .int snapshot.healthIntervalS),
  ("runtime_log_enabled", .bool snapshot.runtimeLogEnabled),
  ("runtime_tags", .list (snapshot.runtimeTags.map fun tag => .dict tag.entries)),
  ("server_statuses", .list (snapshot.serverStatuses.map fun status => .dict status.entries)),
  ("logs", .list (snapshot.logs.map .str))]

-- ---------------------------------------------------------------------------
-- Endpoints
-- ---------------------------------------------------------------------------

/-- The endpoints on the configuration, with what they get from outside. -/
inductive ConfigRequest (F : Type) where
  | listDevices
  | createDevice (payload : Settings F)
  | updateDevice (deviceId : Int) (payload : Settings F)
  | deleteDevice (deviceId : Int)
  | exportDevicesCsv
  | importDevicesCsv (body : ByteArray)
  | listTags (deviceId : Int)
  | listAllTags
  | exportTagsCsv (deviceId : Int)
  | importTagsCsv (deviceId : Int) (body : ByteArray)
  | createTag (deviceId : Int) (payload : Settings F)
  | updateTag (tagId : Int) (payload : Settings F)
  | deleteTag (tagId : Int)
  | listPlugins
  | exportPluginsCsv
  | importPluginsCsv (body : ByteArray)
  | getPlugin (sinkType : String)
  | savePlugin (sinkType : String) (payload : Settings F)
  | listPluginRoutes
  | exportPluginRoutesCsv
  | importPluginRoutesCsv (body : ByteArray)
  | savePluginRoute (payload : Settings F)
  | updatePluginRoute (routeId : Int) (payload : Settings F)
  | resolvePluginRouteTopic (resolver : TopicResolver F) (now : String) (routeId : Int)
  | deletePluginRoute (routeId : Int)

/-- The endpoints behind the session check. -/
inductive Endpoint (F : Type) where
  | session
  | config (request : ConfigRequest F)
  | startRuntime (env : StartEnv F) (healthIntervalS : Option Int)
    (runtimeLogEnabled : Option (PyValue F))
  | stopRuntime (ends : Worker → Bool)
  | runtimeStatus (lines : List String)

def dicts (rows : List (Settings F)) : Content F := .json (.list (rows.map fun row => .dict row.entries))

def deleted : Content F := object [("deleted", .bool true)]

section

variable [PyRuntime F]

/-- `(await request.body()).decode("utf-8-sig")`. -/
def decodeBody (app : App F) (body : ByteArray) : Except PyException String :=
  match String.fromUTF8? body with
  | none => .error ⟨.other "UnicodeDecodeError", app.decodeError body⟩
  | some text => .ok (if text.toList.head? = some '\ufeff' then String.ofList text.toList.tail else text)

def runtimeStatus (lines : List String) : ManagerAct F (RuntimeSnapshot F) := fun m =>
  let m := (m.drainEvents lines).2
  (.ok m.snapshot, m)

/-- The route as `list_output_routes` of the service shows it. -/
def shownRoute (act : StoreAct F (OutputRouteConfig F)) : StoreAct F (Content F) := do
  let route ← act
  .read fun store => object (routeToDict (devicesById store) route).entries

/-- What an endpoint does with the service. -/
def configContent (app : App F) : ConfigRequest F → StoreAct F (Content F)
  | .listDevices => .read fun store => dicts (store.listDevices.map deviceToDict)
  | .createDevice payload => do
    return object (deviceToDict (← createDevice payload)).entries
  | .updateDevice deviceId payload => do
    return object (deviceToDict (← updateDevice deviceId payload)).entries
  | .deleteDevice deviceId => do
    deleteDevice deviceId
    return deleted
  | .exportDevicesCsv => .read fun store => .csv (exportDevicesCsv store)
  | .importDevicesCsv body => do
    let (devices, tags) ← importDevicesCsv (← .lift (decodeBody app body))
    return object [("devices", .int devices), ("tags", .int tags)]
  | .listTags deviceId => do
    let _ ← getDevice deviceId
    .read fun store => dicts ((store.listTags deviceId).map tagToDict)
  | .listAllTags => .read fun store => dicts (listAllTags store)
  | .exportTagsCsv deviceId => do
    return .csv (← exportTagsCsv deviceId)
  | .importTagsCsv deviceId body => do
    return object [("tags", .int (← importTagsCsv deviceId (← .lift (decodeBody app body))))]
  | .createTag deviceId payload => do
    return object (tagToDict (← createTag deviceId payload)).entries
  | .updateTag tagId payload => do
    return object (tagToDict (← updateTag tagId payload)).entries
  | .deleteTag tagId => do
    deleteTag tagId
    return deleted
  | .listPlugins => .read fun store => dicts (listSinkConfigs store)
  | .exportPluginsCsv => do
    return .csv (← .lift (← .read exportPluginsCsv))
  | .importPluginsCsv body => do
    let (plugins, routes) ← importPluginsCsv (← .lift (decodeBody app body))
    return object [("plugins", .int plugins), ("routes", .int routes)]
  | .getPlugin sinkType => .read fun store => object (getSinkConfig store sinkType).entries
  | .savePlugin sinkType payload => do
    -- a field of the payload replaces the one of the path
    let payload := (OrderedDict.ofList [("sink_type", .str sinkType)]).update payload.entries
    let _ ← saveSinkConfig payload
    .read fun store => object (getSinkConfig store (optional payload "sink_type").text).entries
  | .listPluginRoutes => do
    let routes ← .lift (← .read listOutputRoutes)
    .read fun store => dicts (routes.map (routeToDict (devicesById store)))
  | .exportPluginRoutesCsv => do
    return .csv (← .lift (← .read exportPluginRoutesCsv))
  | .importPluginRoutesCsv body => do
    return object [("routes", .int (← importPluginRoutesCsv (← .lift (decodeBody app body))))]
  | .savePluginRoute payload => shownRoute (saveOutputRoute payload)
  | .updatePluginRoute routeId payload => shownRoute
      (saveOutputRoute ((OrderedDict.ofList [("id", .int routeId)]).update payload.entries))
  | .resolvePluginRouteTopic resolver now routeId => do
    let resolved ← resolveOutputRouteTopic resolver now routeId
    .read fun store => object (resolvedToDict (devicesById store) resolved).entries
  | .deletePluginRoute routeId => do
    deleteOutputRoute routeId
    return deleted

/-- What an endpoint does for the user of a session. -/
def endpointContent (app : App F) (user : Settings F) : Endpoint F → ManagerAct F (Content F)
  | .session => pure (object [("authenticated", .bool true), ("username", optional user "username")])
  | .config request => RuntimeManager.onStore (configContent app request)
  | .startRuntime env healthIntervalS runtimeLogEnabled => do
    let snapshot ← RuntimeManager.start env healthIntervalS (runtimeLogEnabled.map PyValue.truthy)
    return object (snapshotToDict snapshot).entries
  | .stopRuntime ends => do
    return object (snapshotToDict (← RuntimeManager.stop ends)).entries
  | .runtimeStatus lines => do
    return object (snapshotToDict (← runtimeStatus lines)).entries

end

-- ---------------------------------------------------------------------------
-- Requests
-- ---------------------------------------------------------------------------

inductive Request (F : Type) where
  | login (username password : String)
  | logout
  | gated (cookie : Option String) (endpoint : Endpoint F)

inductive CookieChange where
  | keep
  | set (token : String)
  | delete
  deriving DecidableEq

structure Response (F : Type) where
  statusCode : Nat := 200
  content : Content F
  cookie : CookieChange := .keep

/-- Handlers are looked up by class, so the subclasses of `ValueError` share its one. -/
def isValueError (type : ExcType) : Bool :=
  type = .valueError || type = .other "UnicodeDecodeError" || type = .other "UnicodeEncodeError"

def errorContent (error message : String) : Content F :=
  object [("error", .str error), ("message", .str message)]

def serverError : Response F := { statusCode := 500, content := .csv "Internal Server Error" }

/-- The exception handlers; what has none is the server's own error. -/
def handled : Failure → Response F
  | .http statusCode error message => { statusCode, content := errorContent error message }
  | .raised exc =>
    if exc.type = .keyError then { statusCode := 404, content := errorContent "not_found" exc.message }
    else if isValueError exc.type then
      { statusCode := 400, content := errorContent "bad_request" exc.message }
    else serverError

/-- The handlers run around the route and again around the application: these take what
the answer of the first raises. -/
def outerResponse (app : App F) (exc : PyException) : Response F :=
  if (app.renderer.render (handled (.raised exc)).content).isNone then handled (.raised exc)
  else serverError

def errorResponse (app : App F) (failure : Failure) : Response F :=
  match app.renderer.render (handled failure).content with
  | none => handled failure
  | some exc => outerResponse app exc

def contentResponse (app : App F) (content : Content F) (cookie : CookieChange) : Response F :=
  match app.renderer.render content with
  | none => { content, cookie }
  | some exc => errorResponse app (.raised exc)

def login (app : App F) (username password : String) : Response F :=
  match verifyLogin app.authSettings username password with
  | .error exc => errorResponse app (.raised exc)
  | .ok false => errorResponse app (.http 401 "invalid_credentials" "Invalid username or password")
  | .ok true =>
    let content := object [("authenticated", .bool true), ("username", .str app.authSettings.username)]
    contentResponse app content (.set (createSessionToken app))

section

variable [PyRuntime F]

/-- The answer to the user of a session. -/
def serve (app : App F) (user : Settings F) (endpoint : Endpoint F) (m : RuntimeManager F) :
    Response F × RuntimeManager F :=
  match endpointContent app user endpoint m with
  | (.error exc, m) => (errorResponse app (.raised exc), m)
  | (.ok content, m) => (contentResponse app content .keep, m)

def handle (app : App F) (m : RuntimeManager F) : Request F → Response F × RuntimeManager F
  | .login username password => (login app username password, m)
  | .logout => (contentResponse app (object [("authenticated", .bool false)]) .delete, m)
  | .gated cookie endpoint =>
    match requireSession app cookie with
    | .error failure => (errorResponse app failure, m)
    | .ok user => serve app user endpoint m

/-- The manager after some requests. -/
def run (app : App F) (m : RuntimeManager F) (requests : List (Request F)) : RuntimeManager F :=
  requests.foldl (fun m request => (handle app m request).2) m

end

end WebApi

end IndustrialGateway
