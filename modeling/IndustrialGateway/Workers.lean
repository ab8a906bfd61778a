import IndustrialGateway.SinkPublisher

/-!
# The workers

`DriverPoller` and `OpcUaSubscriptionWorker` of `workers.py`. What the driver
does at each call, and what the clock says, is given from outside; a worker
turns it into the calls it makes on the driver, the results it puts on the
queue, and its status and log records. A subscription attempt is one round of
the outer loop of `run`.
-/

namespace IndustrialGateway

variable {F : Type}

-- ---------------------------------------------------------------------------
-- What a worker does
-- ---------------------------------------------------------------------------

inductive DriverCall where
  | create
  | connect
  | readTags
  | readServerStatus
  | startSubscription
  | runSubscriptionOnce
  | stopSubscription
  | disconnect
  deriving DecidableEq, Repr

inductive WorkerEvent (F : Type) where
  | driver (c : DriverCall)
  | put (r : ReadResult F)
  | status (e : StatusEvent)
  | log (r : LogRecord F)
  deriving DecidableEq

def WorkerEvent.put? : WorkerEvent F → Option (ReadResult F)
  | .put r => some r
  | _ => none

/-- The results put on the queue. -/
def puts (es : List (WorkerEvent F)) : List (ReadResult F) := es.filterMap WorkerEvent.put?

@[simp] theorem puts_append (es es' : List (WorkerEvent F)) : puts (es ++ es') = puts es ++ puts es' :=
  List.filterMap_append

/-- `TagResult.to_payload` as a value. -/
def TagResult.payloadValue (tag : TagResult F) : PyValue F :=
  .dict ([("name", .str tag.name), ("address", .int tag.address), ("value", tag.value),
      ("quality", .str tag.quality.text), ("error", (tag.error.map .str).getD .none),
      ("timestamp", .str (PyTime.isoMillis tag.timestamp))] ++
    (tag.nodeId.map fun nodeId => ("node_id", .str nodeId)).toList ++
    (if tag.tagGroup = "" then [] else [("tag_group", .str tag.tagGroup)]))

/-- `_log` with source "driver". -/
def driverLog (device : DeviceSpec F) (level message : String) (data : List (String × PyValue F)) :
    WorkerEvent F :=
  .log ⟨level, "driver", message, data ++ [("driver", .str device.driverType)]⟩

/-- The text and class of `_exception_data`. -/
def exceptionData (exc : PyException) : List (String × PyValue F) :=
  [("error", .str exc.message), ("exception_type", .str exc.type.name)]

def serverStatus (device : DeviceSpec F) (status : String) (error : Option String) (now : Datetime) :
    WorkerEvent F :=
  .status (.serverStatus device.name status (PyTime.iso now) error)

/-- The result that reports a failure of the driver. -/
def failureResult (device : DeviceSpec F) (timestamp : Datetime) (exc : PyException) : ReadResult F :=
  ⟨device, timestamp, [], some exc.message⟩

-- ---------------------------------------------------------------------------
-- Health checks
-- ---------------------------------------------------------------------------

/-- The clocks and the driver's `read_server_status` at a health check: `none` when
the driver has no such method, else what it raises, if it does. -/
structure HealthEnv (F : Type) where
  monotonic : F
  reader : Option (Option PyException)
  now : Datetime

/-- The new `_last_health_check`, the events, and the exception that is raised again. -/
structure Checked (F : Type) where
  lastHealthCheck : F
  events : List (WorkerEvent F)
  raised : Option PyException

def checkServerStatus [PyRuntime F] (device : DeviceSpec F) (healthIntervalS lastHealthCheck : F)
    (env : HealthEnv F) : Checked F :=
  if PyRuntime.lt (PyRuntime.sub env.monotonic lastHealthCheck) healthIntervalS then
    ⟨lastHealthCheck, [], none⟩
  else match env.reader with
    | none => ⟨env.monotonic, [], none⟩
    | some none =>
      ⟨env.monotonic, [.driver .readServerStatus, serverStatus device "OK" none env.now], none⟩
    | some (some exc) =>
      ⟨env.monotonic, [.driver .readServerStatus,
        serverStatus device "ERROR" (some exc.message) env.now,
        driverLog device "ERROR" "server health check failed"
          (("device", .str device.name) :: exceptionData exc)], some exc⟩

theorem puts_checkServerStatus [PyRuntime F] (device : DeviceSpec F) (interval last : F)
    (env : HealthEnv F) : puts (checkServerStatus device interval last env).events = [] := by
  unfold checkServerStatus
  split
  · rfl
  · split <;> rfl

-- ---------------------------------------------------------------------------
-- Polling
-- ---------------------------------------------------------------------------

structure DriverPoller (F : Type) where
  device : DeviceSpec F
  tags : List (TagSpec F)
  healthIntervalS : F
  lastHealthCheck : F

/-- What the driver and the clocks do during one poll. -/
structure PollEnv (F : Type) where
  factory : Option PyException := none
  timestamp : Datetime
  connect : Option PyException
  health : HealthEnv F
  readTags : Except PyException (List (TagResult F))
  disconnect : Option PyException

/-- The tags, or what `connect` or `read_tags` raises. -/
def PollEnv.outcome (env : PollEnv F) : Except PyException (List (TagResult F)) :=
  match env.connect with
  | some exc => .error exc
  | none => env.readTags

namespace DriverPoller

def init [PyRuntime F] (device : DeviceSpec F) (tags : List (TagSpec F)) (healthIntervalS : F) :
    DriverPoller F where
  device := device
  tags := tags.filter TagSpec.enabled
  healthIntervalS := healthIntervalS
  lastHealthCheck := PyRuntime.lit 0

/-- The handler of `poll_once`. -/
def readFailed (w : DriverPoller F) (env : PollEnv F) (exc : PyException) : List (WorkerEvent F) :=
  [.put (failureResult w.device env.timestamp exc),
    driverLog w.device "ERROR" "driver read failed"
      (("device", .str w.device.name) :: exceptionData exc)]

def disconnected (w : DriverPoller F) (env : PollEnv F) : List (WorkerEvent F) :=
  .driver .disconnect :: match env.disconnect with
    | none => []
    | some exc => [driverLog w.device "ERROR" "driver disconnect failed"
        (("device", .str w.device.name) :: exceptionData exc)]

variable [PyRuntime F]

/-- `_check_server_status`, which only looks at OPC UA drivers. -/
def health (w : DriverPoller F) (env : PollEnv F) : Checked F :=
  if w.device.driverType ≠ "opcua" then ⟨w.lastHealthCheck, [], none⟩
  else checkServerStatus w.device w.healthIntervalS w.lastHealthCheck env.health

/-- `poll_once`: the poller, its events, and what it raises. -/
def pollOnce (w : DriverPoller F) (env : PollEnv F) :
    DriverPoller F × List (WorkerEvent F) × Option PyException :=
  match env.factory with
  | some exc => (w, [.driver .create], some exc)
  | none =>
    match env.connect with
    | some exc =>
      (w, [.driver .create, .driver .connect] ++ w.readFailed env exc ++ w.disconnected env, none)
    | none =>
      let checked := w.health env
      ({ w with lastHealthCheck := checked.lastHealthCheck },
        [.driver .create, .driver .connect] ++ checked.events ++ [.driver .readTags] ++
          (match env.readTags with
            | .error exc => w.readFailed env exc
            | .ok tags =>
              [.put ⟨w.device, env.timestamp, tags, none⟩,
                driverLog w.device "DEBUG" "driver read completed"
                  [("device", .str w.device.name), ("tags", .list (tags.map TagResult.payloadValue))]])
          ++ w.disconnected env, none)

omit [PyRuntime F] in
theorem puts_disconnected (w : DriverPoller F) (env : PollEnv F) : puts (w.disconnected env) = [] := by
  unfold disconnected
  cases env.disconnect <;> rfl

theorem puts_health (w : DriverPoller F) (env : PollEnv F) : puts (w.health env).events = [] := by
  unfold health
  split
  · rfl
  · exact puts_checkServerStatus ..

/-- A poll puts one result: the tags, or the failure. -/
theorem puts_pollOnce (w : DriverPoller F) {env : PollEnv F} (h : env.factory = none) :
    puts (w.pollOnce env).2.1 = match env.outcome with
      | .error exc => [failureResult w.device env.timestamp exc]
      | .ok tags => [⟨w.device, env.timestamp, tags, none⟩] := by
  simp only [pollOnce, h, PollEnv.outcome]
  cases env.connect with
  | some exc => simp only [puts_append, puts_disconnected]; rfl
  | none =>
    cases env.readTags <;> simp only [puts_append, puts_disconnected, puts_health] <;> rfl

end DriverPoller

-- ---------------------------------------------------------------------------
-- Subscriptions
-- ---------------------------------------------------------------------------

structure OpcUaSubscriptionWorker (F : Type) where
  device : DeviceSpec F
  tags : List (TagSpec F)
  healthIntervalS : F
  retryIntervalS : F
  datachangeLogEnabled : Bool
  lastHealthCheck : F

/-- A call on a subscription driver: the results it hands to the worker meanwhile,
and what it raises. -/
structure DriverStep (F : Type) where
  emitted : List (ReadResult F) := []
  raised : Option PyException := none

/-- One pass of the inner loop. -/
structure Round (F : Type) where
  run : DriverStep F
  health : HealthEnv F

/-- What the driver and the clocks do during one attempt. The inner loop ends with
the first round that fails, or after the rounds because a stop was asked for. -/
structure Attempt (F : Type) where
  factory : Option PyException := none
  connect : Option PyException := none
  start : DriverStep F := {}
  rounds : List (Round F) := []
  failedAt : Datetime
  stopSubscription : DriverStep F := {}
  disconnect : DriverStep F := {}
  /-- `stop` has been called by the end of the attempt. -/
  stopped : Bool

inductive AttemptEnd where
  | retry
  | stopped
  | died (exc : PyException)
  deriving DecidableEq

namespace OpcUaSubscriptionWorker

def emitResult (w : OpcUaSubscriptionWorker F) (result : ReadResult F) : List (WorkerEvent F) :=
  .put result :: if w.datachangeLogEnabled then
    [driverLog w.device "INFO" "subscription datachange"
      [("device", .str result.device.name),
        ("tags", .list (result.tags.map TagResult.payloadValue))]] else []

/-- The events of one driver call. -/
def driverStep (w : OpcUaSubscriptionWorker F) (c : DriverCall) (s : DriverStep F) :
    List (WorkerEvent F) :=
  .driver c :: s.emitted.flatMap w.emitResult

/-- How far `start_once` got: whether there is a driver, whether the subscription
has started, and what was raised. -/
structure Started (F : Type) where
  created : Bool
  subscribed : Bool
  events : List (WorkerEvent F)
  raised : Option PyException

def startOnce (w : OpcUaSubscriptionWorker F) (a : Attempt F) : Started F :=
  match a.factory with
  | some exc => ⟨false, false, [.driver .create], some exc⟩
  | none =>
    match a.connect with
    | some exc => ⟨true, false, [.driver .create, .driver .connect], some exc⟩
    | none =>
      let events := [.driver .create, .driver .connect] ++ w.driverStep .startSubscription a.start
      match a.start.raised with
      | some exc => ⟨true, false, events, some exc⟩
      | none => ⟨true, true, events ++ [driverLog w.device "INFO" "subscription started"
          [("device", .str w.device.name)]], none⟩

section

variable [PyRuntime F]

/-- The inner loop of `run`. -/
def runRounds (w : OpcUaSubscriptionWorker F) (lastHealthCheck : F) : List (Round F) → Checked F
  | [] => ⟨lastHealthCheck, [], none⟩
  | round :: rounds =>
    let events := w.driverStep .runSubscriptionOnce round.run
    match round.run.raised with
    | some exc => ⟨lastHealthCheck, events, some exc⟩
    | none =>
      let checked := checkServerStatus w.device w.healthIntervalS lastHealthCheck round.health
      match checked.raised with
      | some exc => ⟨checked.lastHealthCheck, events ++ checked.events, some exc⟩
      | none =>
        let rest := w.runRounds checked.lastHealthCheck rounds
        ⟨rest.lastHealthCheck, events ++ checked.events ++ rest.events, rest.raised⟩

/-- `device.connection.get(key) or default`. -/
def connectionOr (device : DeviceSpec F) (key : String) (default : PyValue F) : PyValue F :=
  match device.connection.get? key with
  | some v => if v.truthy then v else default
  | none => default

def subscriptionConnectionData (device : DeviceSpec F) :
    Except PyException (List (String × PyValue F)) :=
  if device.driverType = "mqtt" then do
    let port ← (connectionOr device "port" (.int 1883)).toInt
    return [("host", connectionOr device "host" (.str "localhost")), ("port", .int port),
      ("topic_filter", connectionOr device "topic_filter" (.str ""))]
  else
    return [("endpoint", connectionOr device "endpoint"
        ((device.connection.get? "url").getD (.str ""))),
      ("mode", (device.connection.get? "mode").getD (.str ""))]

end

/-- The events that report the failure `exc`. -/
def reportFailure (w : OpcUaSubscriptionWorker F) (a : Attempt F) (exc : PyException) :
    List (WorkerEvent F) :=
  [.put (failureResult w.device a.failedAt exc)]

/-- `_cleanup_driver`. -/
def cleanupDriver (w : OpcUaSubscriptionWorker F) (a : Attempt F) (created subscribed : Bool) :
    List (WorkerEvent F) :=
  let failed (message : String) (s : DriverStep F) : List (WorkerEvent F) :=
    match s.raised with
    | none => []
    | some exc => [driverLog w.device "ERROR" message
        (("device", .str w.device.name) :: exceptionData exc)]
  if !created then []
  else
    (if subscribed then w.driverStep .stopSubscription a.stopSubscription ++
      failed "subscription stop failed" a.stopSubscription else []) ++
    w.driverStep .disconnect a.disconnect ++ failed "subscription disconnect failed" a.disconnect

variable [PyRuntime F]

/-- After the cleanup: log the retry and go round again, unless a stop was asked for. -/
def retryOrStop (w : OpcUaSubscriptionWorker F) (a : Attempt F) :
    List (WorkerEvent F) × AttemptEnd :=
  if a.stopped then ([], .stopped)
  else match subscriptionConnectionData w.device with
    | .error exc => ([], .died exc)
    | .ok data => ([driverLog w.device "INFO" "subscription retrying"
        (("device", .str w.device.name) :: data ++ [("retry_after_s", .float w.retryIntervalS)])],
        .retry)

/-- One pass of the outer loop of `run`. -/
def attempt (w : OpcUaSubscriptionWorker F) (a : Attempt F) :
    OpcUaSubscriptionWorker F × List (WorkerEvent F) × AttemptEnd :=
  let started := w.startOnce a
  let cleanup := w.cleanupDriver a started.created started.subscribed
  match started.raised with
  | some exc =>
    let report := w.reportFailure a exc
    -- the handler itself raises when the connection settings have no valid port
    match subscriptionConnectionData w.device with
    | .error exc' => (w, started.events ++ report ++ cleanup, .died exc')
    | .ok data =>
      let (retry, next) := w.retryOrStop a
      (w, started.events ++ report ++ [driverLog w.device "ERROR" "subscription start failed"
        (("device", .str w.device.name) :: data ++ exceptionData exc)] ++ cleanup ++ retry, next)
  | none =>
    let looped := w.runRounds w.lastHealthCheck a.rounds
    let w := { w with lastHealthCheck := looped.lastHealthCheck }
    match looped.raised with
    | some exc =>
      let (retry, next) := w.retryOrStop a
      (w, started.events ++ looped.events ++ w.reportFailure a exc ++
        [driverLog w.device "ERROR" "subscription failed"
          (("device", .str w.device.name) :: exceptionData exc)] ++ cleanup ++ retry, next)
    | none => (w, started.events ++ looped.events ++ cleanup, .stopped)

/-- What the driver raises during the attempt, up to the first exception. -/
def raised (w : OpcUaSubscriptionWorker F) (a : Attempt F) : Option PyException :=
  (w.startOnce a).raised.or (w.runRounds w.lastHealthCheck a.rounds).raised

/-- The events of `run`, attempt after attempt. -/
def run (w : OpcUaSubscriptionWorker F) : List (Attempt F) → List (WorkerEvent F)
  | [] => []
  | a :: as =>
    let (w, events, next) := w.attempt a
    events ++ if next = .retry then w.run as else []

/-- An attempt in which the driver raises puts the failure on the queue. -/
theorem failure_mem_puts (w : OpcUaSubscriptionWorker F) {a : Attempt F} {exc : PyException}
    (h : w.raised a = some exc) :
    failureResult w.device a.failedAt exc ∈ puts (w.attempt a).2.1 := by
  unfold attempt
  simp only []
  have hreport : failureResult w.device a.failedAt exc ∈ puts (w.reportFailure a exc) := by
    simp [reportFailure, puts, WorkerEvent.put?]
  cases hs : (w.startOnce a).raised with
  | some exc' =>
    obtain rfl : exc' = exc := by simpa [raised, hs] using h
    simp only []
    cases subscriptionConnectionData w.device <;>
      simp only [puts_append, List.mem_append] <;> simp [hreport]
  | none =>
    have hr : (w.runRounds w.lastHealthCheck a.rounds).raised = some exc := by
      simpa [raised, hs] using h
    simp only [hr, puts_append, List.mem_append]
    simp [reportFailure, puts, WorkerEvent.put?]

end OpcUaSubscriptionWorker

end IndustrialGateway
