import IndustrialGateway.SinkPublisher

/-!
# Laws of the publisher

For each method of the publisher: the device statuses and the cached tags it
leaves, and the measurements and status entries it sends. Everything else the
later modules say about runs of the publisher follows from the two laws at the
end, for `publish_once` on a result and for `publish_cached`.
-/

namespace IndustrialGateway

variable {F : Type}

-- ---------------------------------------------------------------------------
-- What the outputs tell the sink
-- ---------------------------------------------------------------------------

/-- A measurement message for one output group of a device. -/
structure Measurement (F : Type) where
  key : DeviceKey
  group : Option String
  tags : List (TagPayload F)
  deriving DecidableEq

def Sent.measurement? (s : Sent F) : Option (Measurement F) :=
  match s.about, s.message.payload with
  | .group device group, .measurement _ _ _ tags => some ⟨deviceKey device, group, tags⟩
  | _, _ => none

def Output.measurement? : Output F → Option (Measurement F)
  | .sent s => s.measurement?
  | _ => none

def measurements (os : List (Output F)) : List (Measurement F) := os.filterMap Output.measurement?

/-- The entries of a status message about a device, with the device. -/
def Sent.statusEntries (s : Sent F) : List (DeviceKey × SensorStatus) :=
  match s.about, s.message.payload with
  | .group device _, .status _ sensors => sensors.map (Prod.mk (deviceKey device))
  | _, _ => []

def Output.statusEntries : Output F → List (DeviceKey × SensorStatus)
  | .sent s => s.statusEntries
  | _ => []

def statusEntries (os : List (Output F)) : List (DeviceKey × SensorStatus) :=
  os.flatMap Output.statusEntries

def Output.sent? : Output F → Option (Sent F)
  | .sent s => some s
  | _ => none

/-- The calls of `publish_batch`. -/
def sents (os : List (Output F)) : List (Sent F) := os.filterMap Output.sent?

theorem mem_sents {os : List (Output F)} {s : Sent F} : s ∈ sents os ↔ Output.sent s ∈ os := by
  rw [sents, List.mem_filterMap]
  constructor
  · rintro ⟨o, ho, heq⟩
    cases o with
    | sent s' =>
      cases heq
      exact ho
    | status e => cases heq
    | log r => cases heq
  · intro h
    exact ⟨_, h, rfl⟩

@[simp] theorem sents_append (os os' : List (Output F)) : sents (os ++ os') = sents os ++ sents os' :=
  List.filterMap_append

@[simp] theorem sents_flatMap (f : α → List (Output F)) (xs : List α) :
    sents (xs.flatMap f) = xs.flatMap fun x => sents (f x) := by
  induction xs with
  | nil => rfl
  | cons x xs ih => simp [ih]

@[simp] theorem measurements_nil : measurements ([] : List (Output F)) = [] := rfl

@[simp] theorem measurements_append (os os' : List (Output F)) :
    measurements (os ++ os') = measurements os ++ measurements os' := List.filterMap_append

@[simp] theorem measurements_flatMap (f : α → List (Output F)) (xs : List α) :
    measurements (xs.flatMap f) = xs.flatMap fun x => measurements (f x) := by
  induction xs with
  | nil => rfl
  | cons x xs ih => simp [ih]

@[simp] theorem statusEntries_nil : statusEntries ([] : List (Output F)) = [] := rfl

@[simp] theorem statusEntries_append (os os' : List (Output F)) :
    statusEntries (os ++ os') = statusEntries os ++ statusEntries os' := List.flatMap_append

@[simp] theorem statusEntries_flatMap (f : α → List (Output F)) (xs : List α) :
    statusEntries (xs.flatMap f) = xs.flatMap fun x => statusEntries (f x) := by
  induction xs with
  | nil => rfl
  | cons x xs ih => simp [ih]

namespace SinkPublisher

/-- `_publish_message` calls the sink once, whatever comes of it. -/
theorem sents_publishMessage (cfg : PublisherConfig F) (sink : Sink F) (about : About F)
    (pluginType deviceName : String) (message : BatchMessage F) :
    sents (publishMessage cfg sink about pluginType message deviceName) =
      [⟨about, pluginType, message⟩] := by
  unfold publishMessage
  cases sink message <;> rfl

theorem sent_mem_publishMessage {cfg : PublisherConfig F} {sink : Sink F} {about : About F}
    {pluginType deviceName : String} {message : BatchMessage F} {s : Sent F} :
    Output.sent s ∈ publishMessage cfg sink about pluginType message deviceName ↔
      s = ⟨about, pluginType, message⟩ := by
  rw [← mem_sents, sents_publishMessage, List.mem_singleton]

/-- The last two outputs of a failed publication are not messages. -/
theorem measurements_publishMessage (cfg : PublisherConfig F) (sink : Sink F) (about : About F)
    (pluginType deviceName : String) (message : BatchMessage F) :
    measurements (publishMessage cfg sink about pluginType message deviceName) =
      (Sent.measurement? ⟨about, pluginType, message⟩).toList := by
  have hrest : ∀ rest : List (Output F), measurements rest = [] →
      measurements (.sent ⟨about, pluginType, message⟩ :: rest) =
        (Sent.measurement? ⟨about, pluginType, message⟩).toList := by
    intro rest h
    rw [measurements] at h
    rw [measurements, List.filterMap_cons, h]
    simp only [Output.measurement?]
    cases Sent.measurement? ⟨about, pluginType, message⟩ <;> rfl
  unfold publishMessage
  cases sink message <;> exact hrest _ rfl

theorem statusEntries_publishMessage (cfg : PublisherConfig F) (sink : Sink F) (about : About F)
    (pluginType deviceName : String) (message : BatchMessage F) :
    statusEntries (publishMessage cfg sink about pluginType message deviceName) =
      Sent.statusEntries ⟨about, pluginType, message⟩ := by
  unfold publishMessage
  cases sink message <;>
    simp [statusEntries, Output.statusEntries, pluginLog]

theorem measurement?_status {about : About F} {pluginType : String} {message : BatchMessage F}
    {timestamp : String} {sensors : List SensorStatus} (h : message.payload = .status timestamp sensors) :
    Sent.measurement? ⟨about, pluginType, message⟩ = none := by
  cases about <;> simp [Sent.measurement?, h]

-- ---------------------------------------------------------------------------
-- Statuses and snapshots
-- ---------------------------------------------------------------------------

def statusOf (p : SinkPublisher F) (key : DeviceKey) : Option DeviceStatus :=
  (p.deviceStatuses.get? key).map DeviceState.status

theorem deviceStatus_eq (p : SinkPublisher F) (device : DeviceSpec F) :
    p.deviceStatus device = p.statusOf (deviceKey device) := rfl

@[simp] theorem statusOf_setState (p : SinkPublisher F) (key j : DeviceKey) (state : DeviceState F) :
    (p.setState key state).statusOf j = if key = j then some state.status else p.statusOf j := by
  simp only [statusOf, deviceStatuses_setState, OrderedDict.get?_set]
  split <;> rfl

@[simp] theorem statusOf_setSnapshot (p : SinkPublisher F) (snapshot : Snapshot F) (j : DeviceKey) :
    (p.setSnapshot snapshot).statusOf j = p.statusOf j := rfl

@[simp] theorem statusOf_setHeartbeat (p : SinkPublisher F) (route : OutputRoute F) (now : Datetime)
    (j : DeviceKey) : (p.setHeartbeat route now).statusOf j = p.statusOf j := rfl

theorem statusOf_eq_of_get? {p : SinkPublisher F} {key : DeviceKey} {state : DeviceState F}
    (h : p.deviceStatuses.get? key = some state) : p.statusOf key = some state.status := by
  simp [statusOf, h]

theorem nodup_latest (p : SinkPublisher F) :
    (p.latest.values.map fun s => deviceKey s.device).Nodup := by
  have hkeys : (p.latest.values.map fun s => deviceKey s.device) = p.latest.keys := by
    rw [OrderedDict.values, OrderedDict.keys, List.map_map]
    refine List.map_congr_left fun e he => ?_
    exact p.keyed e.1 e.2 (OrderedDict.get?_eq_some.mpr he)
  rw [hkeys]
  exact p.latest.nodup

theorem mem_latest {p : SinkPublisher F} {snapshot : Snapshot F} :
    snapshot ∈ p.latest.values ↔ p.latest.get? (deviceKey snapshot.device) = some snapshot := by
  rw [OrderedDict.mem_values_iff]
  constructor
  · rintro ⟨key, h⟩
    rwa [p.keyed key snapshot h]
  · exact fun h => ⟨_, h⟩

theorem find?_latest (p : SinkPublisher F) (key : DeviceKey) :
    (p.latest.values.find? fun s => deviceKey s.device = key) = p.latest.get? key := by
  cases hf : p.latest.values.find? fun s => deviceKey s.device = key with
  | some snapshot =>
    have hkey : deviceKey snapshot.device = key := by simpa using List.find?_some hf
    rw [← hkey]
    exact (mem_latest.mp (List.mem_of_find?_eq_some hf)).symm
  | none =>
    refine (Option.eq_none_iff_forall_ne_some.mpr fun snapshot h => ?_).symm
    have hmem : snapshot ∈ p.latest.values := OrderedDict.mem_values_iff.mpr ⟨key, h⟩
    simpa [p.keyed key snapshot h] using List.find?_eq_none.mp hf snapshot hmem

/-- `p` has the cached tags and the device statuses of `q`. -/
structure Sees (q p : SinkPublisher F) : Prop where
  latest : p.latest = q.latest
  status : p.statusOf = q.statusOf

theorem Sees.rfl {p : SinkPublisher F} : Sees p p := ⟨Eq.refl _, Eq.refl _⟩

-- ---------------------------------------------------------------------------
-- Status messages
-- ---------------------------------------------------------------------------

variable (cfg : PublisherConfig F) (sink : Sink F)

/-- An entry that reports a tag as on is about a good cached tag of a good
device. -/
def OnlyGood (status : DeviceKey → Option DeviceStatus)
    (latest : OrderedDict DeviceKey (Snapshot F)) (now : Datetime) (os : List (Output F)) : Prop :=
  ∀ key entry, (key, entry) ∈ statusEntries os → entry.connStatus = "on" →
    status key = some .good ∧ ∃ snapshot tag, latest.get? key = some snapshot ∧
      tag ∈ snapshot.tags.values ∧ tag.isGood = true ∧ entry = sensorStatus "on" none now tag

theorem OnlyGood.append {status : DeviceKey → Option DeviceStatus}
    {latest : OrderedDict DeviceKey (Snapshot F)} {now : Datetime} {os os' : List (Output F)}
    (h : OnlyGood status latest now os) (h' : OnlyGood status latest now os') :
    OnlyGood status latest now (os ++ os') := by
  intro key entry hm hon
  rw [statusEntries_append, List.mem_append] at hm
  exact hm.elim (fun hm => h key entry hm hon) fun hm => h' key entry hm hon

theorem onlyGood_of_no_entries {status : DeviceKey → Option DeviceStatus}
    {latest : OrderedDict DeviceKey (Snapshot F)} {now : Datetime} {os : List (Output F)}
    (h : statusEntries os = []) : OnlyGood status latest now os := by
  intro key entry hm
  rw [h] at hm
  exact (List.not_mem_nil hm).elim

theorem sensorStatus_on {connStatus : String} {errorMsg : Option String} {now : Datetime}
    {tag : TagResult F} (h : (sensorStatus connStatus errorMsg now tag).connStatus = "on") :
    connStatus = "on" ∧ tag.isGood = true := by
  simp only [sensorStatus] at h
  split at h
  · exact ⟨h, by assumption⟩
  · exact absurd h (by decide)

/-- The groups of a snapshot hold its tags. -/
theorem mem_of_mem_group {snapshot : Snapshot F} {group : Option String} {tags : List (TagResult F)}
    {tag : TagResult F}
    (hg : (group, tags) ∈ (OrderedDict.groupBy tagOutputGroup snapshot.tags.values).entries)
    (ht : tag ∈ tags) : tag ∈ snapshot.tags.values := by
  rw [(OrderedDict.mem_entries_groupBy.mp hg).2] at ht
  exact List.mem_of_mem_filter ht

/-- `_publish_device_status` once the device has a status and a snapshot. -/
def statusMessages (routes : List (OutputRoute F)) (device : DeviceSpec F) (now : Datetime)
    (state : DeviceState F) (snapshot : Snapshot F) : List (Output F) :=
  let connStatus := if state.status = .good then "on" else "off"
  let errorMsg := if connStatus = "on" then none else some state.reason
  (OrderedDict.groupBy tagOutputGroup snapshot.tags.values).entries.flatMap fun (group, tags) =>
    publishMessage cfg sink (.group device group)
      (measurementMessage cfg routes device tags group now).2
      (ctmStatusMessage (measurementMessage cfg routes device tags group now).1 tags connStatus
        errorMsg now) device.name

theorem state_publishDeviceStatus {device : DeviceSpec F} {p : SinkPublisher F} {state : DeviceState F}
    (h : p.deviceStatuses.get? (deviceKey device) = some state) (now : Datetime) :
    (publishDeviceStatus cfg sink device now).state p =
      p.setState (deviceKey device) { state with lastPublishedAt := some now } := by
  rw [publishDeviceStatus, Act.state_look, h, Act.state_seq, Act.state_modify]
  cases p.latest.get? (deviceKey device) with
  | none => rfl
  | some snapshot => exact (Act.events_forEach_of_pure _ fun _ _ => Act.state_emitAll _ _).1

theorem sees_publishDeviceStatus (device : DeviceSpec F) (now : Datetime) (p : SinkPublisher F) :
    Sees p ((publishDeviceStatus cfg sink device now).state p) := by
  cases hs : p.deviceStatuses.get? (deviceKey device) with
  | none =>
    rw [publishDeviceStatus, Act.state_look, hs]
    exact .rfl
  | some state =>
    rw [state_publishDeviceStatus cfg sink hs]
    refine ⟨rfl, funext fun key => ?_⟩
    rw [statusOf_setState]
    split
    · rename_i h
      rw [← h, statusOf_eq_of_get? hs]
    · rfl

theorem events_publishDeviceStatus (device : DeviceSpec F) (now : Datetime) (p : SinkPublisher F) :
    (publishDeviceStatus cfg sink device now).events p =
      match p.deviceStatuses.get? (deviceKey device), p.latest.get? (deviceKey device) with
      | some state, some snapshot =>
        statusMessages cfg sink p.outputRoutes device now state snapshot
      | _, _ => [] := by
  rw [publishDeviceStatus, Act.events_look]
  cases p.deviceStatuses.get? (deviceKey device) with
  | none => rfl
  | some state =>
    rw [Act.events_seq, Act.events_modify, Act.state_modify, List.nil_append]
    cases p.latest.get? (deviceKey device) with
    | none => rfl
    | some snapshot => exact (Act.events_forEach_of_pure _ fun _ _ => Act.state_emitAll _ _).2

/-- The action repeats what the publisher knows about the device with the key:
statuses and cached tags stay, no measurement is sent, and the entries it sends
are about that device and agree with the statuses. -/
structure Reports (now : Datetime) (key : DeviceKey) (a : PublisherAct F) (p : SinkPublisher F) :
    Prop where
  sees : Sees p (a.state p)
  quiet : measurements (a.events p) = []
  about : ∀ x ∈ statusEntries (a.events p), x.1 = key
  onlyGood : OnlyGood p.statusOf p.latest now (a.events p)

theorem Reports.of_no_entries {now : Datetime} {key : DeviceKey} {a : PublisherAct F}
    {p : SinkPublisher F} (hs : Sees p (a.state p)) (hm : measurements (a.events p) = [])
    (he : statusEntries (a.events p) = []) : Reports now key a p :=
  ⟨hs, hm, by simp [he], onlyGood_of_no_entries he⟩

theorem reports_skip {now : Datetime} {key : DeviceKey} (p : SinkPublisher F) :
    Reports now key .skip p := .of_no_entries .rfl rfl rfl

theorem Reports.look {now : Datetime} {key : DeviceKey} {f : SinkPublisher F → PublisherAct F}
    {p : SinkPublisher F} (h : Reports now key (f p) p) : Reports now key (.look f) p :=
  ⟨h.sees, h.quiet, h.about, h.onlyGood⟩

theorem Reports.seq {now : Datetime} {key : DeviceKey} {a b : PublisherAct F} {p : SinkPublisher F}
    (ha : Reports now key a p) (hb : Reports now key b (a.state p)) :
    Reports now key (a.seq b) p where
  sees := ⟨hb.sees.latest.trans ha.sees.latest, hb.sees.status.trans ha.sees.status⟩
  quiet := by rw [Act.events_seq, measurements_append, ha.quiet, hb.quiet, List.append_nil]
  about := by
    intro x hx
    rw [Act.events_seq, statusEntries_append, List.mem_append] at hx
    exact hx.elim (ha.about x) (hb.about x)
  onlyGood := by
    have h := hb.onlyGood
    rw [ha.sees.latest, ha.sees.status] at h
    exact ha.onlyGood.append h

theorem mem_statusMessages {routes : List (OutputRoute F)} {device : DeviceSpec F} {now : Datetime}
    {state : DeviceState F} {snapshot : Snapshot F} {key : DeviceKey} {entry : SensorStatus}
    (h : (key, entry) ∈ statusEntries (statusMessages cfg sink routes device now state snapshot)) :
    key = deviceKey device ∧ ∃ tag ∈ snapshot.tags.values, entry =
      sensorStatus (if state.status = .good then "on" else "off")
        (if (if state.status = .good then "on" else "off") = "on" then none else some state.reason)
        now tag := by
  simp only [statusMessages, statusEntries_flatMap, statusEntries_publishMessage,
    List.mem_flatMap, Sent.statusEntries, ctmStatusMessage, List.mem_map] at h
  obtain ⟨⟨group, tags⟩, hg, entry', ⟨tag, ht, rfl⟩, heq⟩ := h
  obtain ⟨rfl, rfl⟩ := Prod.mk.inj heq
  exact ⟨rfl, tag, mem_of_mem_group hg ht, rfl⟩

theorem reports_publishDeviceStatus {device : DeviceSpec F} {now : Datetime} (p : SinkPublisher F) :
    Reports now (deviceKey device) (publishDeviceStatus cfg sink device now) p := by
  have hsees := sees_publishDeviceStatus cfg sink device now p
  have hevents := events_publishDeviceStatus cfg sink device now p
  split at hevents
  · rename_i state snapshot hstate hsnapshot
    refine ⟨hsees, ?_, ?_, ?_⟩ <;> rw [hevents]
    · simp only [statusMessages, measurements_flatMap, measurements_publishMessage]
      refine List.flatMap_eq_nil_iff.mpr fun x _ => ?_
      rw [measurement?_status rfl]
      rfl
    · exact fun x hx => (mem_statusMessages cfg sink hx).1
    · intro key entry hm hon
      obtain ⟨rfl, tag, ht, rfl⟩ := mem_statusMessages cfg sink hm
      obtain ⟨hconn, hgood⟩ := sensorStatus_on hon
      rw [hconn]
      have hstatus : state.status = .good := by
        by_contra h
        rw [if_neg h] at hconn
        exact absurd hconn (by decide)
      exact ⟨by rw [statusOf_eq_of_get? hstate, hstatus], snapshot, tag, hsnapshot, ht, hgood, rfl⟩
  · refine .of_no_entries hsees ?_ ?_ <;> rw [hevents] <;> rfl

theorem reports_emitRuntimeTagStatus {device : DeviceSpec F} {status : DeviceStatus}
    {error : String} {timestamp now : Datetime} {key : DeviceKey} (p : SinkPublisher F) :
    Reports now key (emitRuntimeTagStatus device status error timestamp) p := by
  refine Reports.look ?_
  cases p.latest.get? (deviceKey device) with
  | none => exact reports_skip p
  | some snapshot =>
    refine .of_no_entries .rfl ?_ ?_
    · simp [measurements, List.filterMap_eq_nil_iff, Output.measurement?]
    · simp [statusEntries, List.flatMap_eq_nil_iff, Output.statusEntries]

-- ---------------------------------------------------------------------------
-- Changing a status
-- ---------------------------------------------------------------------------

variable [PyRuntime F]

theorem reports_publishStatusHeartbeatIfDue {device : DeviceSpec F} {now : Datetime}
    (p : SinkPublisher F) :
    Reports now (deviceKey device) (publishStatusHeartbeatIfDue cfg sink device now) p := by
  unfold publishStatusHeartbeatIfDue
  split
  · exact reports_skip p
  · refine Reports.look ?_
    cases p.deviceStatuses.get? (deviceKey device) with
    | none => exact reports_skip p
    | some state =>
      simp only []
      split
      · exact reports_publishDeviceStatus cfg sink p
      · exact reports_skip p

/-- `_set_device_status` writes a state with the new status and reports. -/
theorem setDeviceStatus_eq (device : DeviceSpec F) (status : DeviceStatus) (reason : String)
    (now : Datetime) (received source : Option Datetime) (p : SinkPublisher F) :
    ∃ state report, state.status = status ∧ (∀ q, Reports now (deviceKey device) report q) ∧
      setDeviceStatus cfg sink device status reason now received source p =
        Act.seq (.modify fun p => p.setState (deviceKey device) state) report p := by
  have hannounce : ∀ q : SinkPublisher F, Reports now (deviceKey device)
      ((emitRuntimeTagStatus device status reason now).seq
        (publishDeviceStatus cfg sink device now)) q := fun q =>
    (reports_emitRuntimeTagStatus q).seq (reports_publishDeviceStatus cfg sink _)
  simp only [setDeviceStatus, Act.look]
  cases p.deviceStatuses.get? (deviceKey device) with
  | none =>
    simp only []
    split
    · exact ⟨_, _, rfl, hannounce, rfl⟩
    · exact ⟨⟨device, status, reason, now, none, received, source⟩, .skip, rfl, reports_skip, rfl⟩
  | some current =>
    simp only []
    split
    · rename_i hsame
      exact ⟨{ current with reason, lastReceivedAt := received, lastSourceTimestamp := source }, _,
        hsame, reports_publishStatusHeartbeatIfDue cfg sink, rfl⟩
    · exact ⟨_, _, rfl, hannounce, rfl⟩

/-- The statuses when the device gets a new one. -/
def withStatus (p : SinkPublisher F) (device : DeviceSpec F) (status : DeviceStatus) :
    DeviceKey → Option DeviceStatus :=
  fun key => if deviceKey device = key then some status else p.statusOf key

/-- `_set_device_status` gives the device the status, leaves the cached tags and
sends no measurement; its entries are about the device and agree with the new
status. -/
theorem setDeviceStatus_law (device : DeviceSpec F) (status : DeviceStatus) (reason : String)
    (now : Datetime) (received source : Option Datetime) (p : SinkPublisher F) :
    let a := setDeviceStatus cfg sink device status reason now received source
    (a.state p).latest = p.latest ∧ (a.state p).statusOf = p.withStatus device status ∧
      measurements (a.events p) = [] ∧ (∀ x ∈ statusEntries (a.events p), x.1 = deviceKey device) ∧
      OnlyGood (p.withStatus device status) p.latest now (a.events p) := by
  obtain ⟨state, report, hstatus, hreport, heq⟩ := setDeviceStatus_eq cfg sink device
    status reason now received source p
  have hnew : (p.setState (deviceKey device) state).statusOf = p.withStatus device status := by
    funext key
    rw [statusOf_setState, hstatus]
    rfl
  have h := hreport (p.setState (deviceKey device) state)
  simp only [Act.state, Act.events, heq]
  refine ⟨h.sees.latest, h.sees.status.trans hnew, h.quiet, h.about, ?_⟩
  have hentries := h.onlyGood
  rwa [hnew] at hentries

-- ---------------------------------------------------------------------------
-- Refreshing stale statuses
-- ---------------------------------------------------------------------------

/-- The time since the last result has reached the timeout, and there is one. -/
def timedOut (now : Datetime) (snapshot : Snapshot F) : Bool :=
  !PyRuntime.le cfg.staleTimeoutS (PyRuntime.lit 0) &&
    snapshot.lastReceivedAt.any fun t =>
      PyRuntime.le cfg.staleTimeoutS (PyRuntime.totalSeconds (now - t))

/-- The status of a device after `_refresh_stale_statuses`. -/
def refreshed (p : SinkPublisher F) (now : Datetime) (key : DeviceKey) : Option DeviceStatus :=
  match p.latest.get? key with
  | some snapshot =>
    if timedOut cfg now snapshot ∧ p.statusOf key = some .good then some .stale else p.statusOf key
  | none => p.statusOf key

/-- Before the timeout no status is stale. -/
theorem refreshed_of_recent {p : SinkPublisher F} {now : Datetime} {key : DeviceKey}
    (h : ∀ snapshot, p.latest.get? key = some snapshot → timedOut cfg now snapshot = false) :
    p.refreshed cfg now key = p.statusOf key := by
  rw [refreshed]
  split
  · rename_i snapshot hsnapshot
    rw [if_neg (by simp [h snapshot hsnapshot])]
  · rfl

/-- No entry reports a tag as on. -/
def AllOff (os : List (Output F)) : Prop :=
  ∀ x ∈ statusEntries os, x.2.connStatus ≠ "on"

/-- One round of the refresh makes a good device that has timed out stale, and
otherwise at most reports on a device that is not good. -/
theorem refreshStaleSnapshot_cases (now : Datetime) (snapshot : Snapshot F)
    (ht : PyRuntime.le cfg.staleTimeoutS (PyRuntime.lit 0) = false) (p : SinkPublisher F) :
    let key := deviceKey snapshot.device
    let a := refreshStaleSnapshot cfg sink now snapshot
    ((timedOut cfg now snapshot = true ∧ p.statusOf key = some .good) ∧
        ∃ received, a p = setDeviceStatus cfg sink snapshot.device .stale "message timeout" now
          received snapshot.lastSourceTimestamp p) ∨
      (¬(timedOut cfg now snapshot = true ∧ p.statusOf key = some .good) ∧ Reports now key a p ∧
        (a.events p = [] ∨ p.statusOf key ≠ some .good)) := by
  simp only []
  have hof : ∀ b : PublisherAct F, refreshStaleSnapshot cfg sink now snapshot p = b p →
      Reports now (deviceKey snapshot.device) b p →
      Reports now (deviceKey snapshot.device) (refreshStaleSnapshot cfg sink now snapshot) p := by
    intro b hb h
    constructor <;> simp only [Act.state, Act.events, hb]
    exacts [h.sees, h.quiet, h.about, h.onlyGood]
  cases hr : snapshot.lastReceivedAt with
  | none =>
    have hlook : refreshStaleSnapshot cfg sink now snapshot p = Act.skip p := by
      unfold refreshStaleSnapshot
      rw [hr]
      rfl
    exact .inr ⟨by simp [timedOut, hr], hof _ hlook (reports_skip p), .inl (by rw [Act.events, hlook]; rfl)⟩
  | some t =>
    have htimed : timedOut cfg now snapshot =
        PyRuntime.le cfg.staleTimeoutS (PyRuntime.totalSeconds (now - t)) := by
      simp [timedOut, ht, hr]
    have hlook : refreshStaleSnapshot cfg sink now snapshot p =
        (if PyRuntime.le cfg.staleTimeoutS (PyRuntime.totalSeconds (now - t)) ∧
            p.deviceStatus snapshot.device = some .good then
          setDeviceStatus cfg sink snapshot.device .stale "message timeout" now (some t)
            snapshot.lastSourceTimestamp
        else if p.deviceStatus snapshot.device ≠ some .good then
          publishStatusHeartbeatIfDue cfg sink snapshot.device now
        else Act.skip : PublisherAct F) p := by
      unfold refreshStaleSnapshot
      rw [hr]
      rfl
    rw [htimed]
    by_cases hstale : PyRuntime.le cfg.staleTimeoutS (PyRuntime.totalSeconds (now - t)) = true ∧
        p.deviceStatus snapshot.device = some .good
    · rw [if_pos hstale] at hlook
      exact .inl ⟨hstale, some t, hlook⟩
    · rw [if_neg hstale] at hlook
      refine .inr ⟨hstale, ?_⟩
      by_cases hgood : p.deviceStatus snapshot.device = some .good
      · rw [if_neg (not_not_intro hgood)] at hlook
        exact ⟨hof _ hlook (reports_skip p), .inl (by rw [Act.events, hlook]; rfl)⟩
      · rw [if_pos hgood] at hlook
        exact ⟨hof _ hlook (reports_publishStatusHeartbeatIfDue cfg sink p), .inr hgood⟩

theorem refreshStaleSnapshot_law {now : Datetime} {snapshot : Snapshot F}
    (ht : PyRuntime.le cfg.staleTimeoutS (PyRuntime.lit 0) = false) (p : SinkPublisher F) :
    let a := refreshStaleSnapshot cfg sink now snapshot
    (a.state p).latest = p.latest ∧
      (∀ key, (a.state p).statusOf key =
        if deviceKey snapshot.device = key then
          if timedOut cfg now snapshot ∧ p.statusOf key = some .good then some .stale
          else p.statusOf key
        else p.statusOf key) ∧
      measurements (a.events p) = [] ∧ AllOff (a.events p) := by
  rcases refreshStaleSnapshot_cases cfg sink now snapshot ht p with
    ⟨hstale, received, heq⟩ | ⟨hkeep, hreports, hquiet⟩
  · obtain ⟨hlatest, hstatus, hmeas, habout, honly⟩ := setDeviceStatus_law cfg sink
      snapshot.device .stale "message timeout" now received snapshot.lastSourceTimestamp p
    simp only [Act.state, Act.events, heq] at *
    refine ⟨hlatest, fun key => ?_, hmeas, ?_⟩
    · rw [hstatus, withStatus]
      split
      · rename_i hk
        rw [if_pos ⟨hstale.1, hk ▸ hstale.2⟩]
      · rfl
    · rintro ⟨key, entry⟩ hx hon
      obtain rfl := habout _ hx
      simpa [withStatus] using (honly _ _ hx hon).1
  · refine ⟨hreports.sees.latest, fun key => ?_, hreports.quiet, ?_⟩
    · rw [hreports.sees.status]
      split
      · rename_i hk
        rw [if_neg (hk ▸ hkeep)]
      · rfl
    · rintro ⟨key, entry⟩ hx hon
      rcases hquiet with hnil | hne
      · rw [hnil] at hx
        exact List.not_mem_nil hx
      · obtain rfl := hreports.about _ hx
        exact hne (hreports.onlyGood _ _ hx hon).1

omit [PyRuntime F] in
theorem AllOff.onlyGood {status : DeviceKey → Option DeviceStatus}
    {latest : OrderedDict DeviceKey (Snapshot F)} {now : Datetime} {os : List (Output F)}
    (h : AllOff os) : OnlyGood status latest now os :=
  fun key entry hm hon => (h (key, entry) hm hon).elim

theorem refreshStaleStatuses_law (now : Datetime) (p : SinkPublisher F) :
    let a := refreshStaleStatuses cfg sink now
    (a.state p).latest = p.latest ∧ (a.state p).statusOf = p.refreshed cfg now ∧
      measurements (a.events p) = [] ∧ AllOff (a.events p) := by
  unfold refreshStaleStatuses
  split
  · rename_i hoff
    have hkeep : p.refreshed cfg now = p.statusOf := by
      funext key
      simp only [refreshed]
      cases p.latest.get? key with
      | none => rfl
      | some snapshot => simp [timedOut, hoff]
    exact ⟨rfl, hkeep.symm, rfl, by simp [AllOff]⟩
  · rename_i hon
    have ht := eq_false_of_ne_true hon
    simp only [Act.state_look, Act.events_look]
    refine ⟨?_, ?_, ?_, ?_⟩
    · exact Act.Keeps.forEach (I := fun q => q.latest = p.latest)
        (fun snapshot _ q hq => (refreshStaleSnapshot_law cfg sink ht q).1.trans hq) p rfl
    · funext key
      rw [Act.view_forEach statusOf (fun s => deviceKey s.device)
        (fun snapshot status =>
          if timedOut cfg now snapshot ∧ status = some .good then some .stale else status)
        p.nodup_latest fun snapshot _ q k => (refreshStaleSnapshot_law cfg sink ht q).2.1 k,
        find?_latest]
      simp only [refreshed]
      cases p.latest.get? key <;> rfl
    · refine List.filterMap_eq_nil_iff.mpr fun o ho => ?_
      obtain ⟨_, snapshot, _, _, ho⟩ := Act.mem_events_forEach ho
      exact List.filterMap_eq_nil_iff.mp (refreshStaleSnapshot_law cfg sink ht _).2.2.1 o ho
    · intro x hx
      obtain ⟨o, ho, hx⟩ := List.mem_flatMap.mp hx
      obtain ⟨_, snapshot, _, _, ho⟩ := Act.mem_events_forEach ho
      exact (refreshStaleSnapshot_law cfg sink ht _).2.2.2 x (List.mem_flatMap.mpr ⟨o, ho, hx⟩)

-- ---------------------------------------------------------------------------
-- System heartbeats
-- ---------------------------------------------------------------------------

theorem reports_publishSystemHeartbeats (now : Datetime) (key : DeviceKey) (p : SinkPublisher F) :
    Reports now key (publishSystemHeartbeats cfg sink now) p := by
  have hround : ∀ (route : OutputRoute F) (q : SinkPublisher F),
      Reports now key (publishSystemHeartbeat cfg sink now route) q := by
    intro route q
    unfold publishSystemHeartbeat
    split
    · exact reports_skip q
    · refine Reports.look ?_
      split
      · exact reports_skip q
      · refine .of_no_entries ⟨rfl, rfl⟩ ?_ ?_
        · simp only [Act.events_seq, Act.events_modify, List.nil_append, Act.events_emitAll,
            measurements_publishMessage]
          rfl
        · simp only [Act.events_seq, Act.events_modify, List.nil_append, Act.events_emitAll,
            statusEntries_publishMessage]
          rfl
  refine Reports.look ?_
  induction p.outputRoutes generalizing p with
  | nil => exact reports_skip p
  | cons route routes ih => exact (hround route p).seq (ih _)

-- ---------------------------------------------------------------------------
-- Publishing the cache
-- ---------------------------------------------------------------------------

/-- The measurements of a good device: the good tags of every group that has one. -/
def snapshotMeasurements (snapshot : Snapshot F) : List (Measurement F) :=
  (OrderedDict.groupBy tagOutputGroup snapshot.tags.values).entries.filterMap fun (group, tags) =>
    if (tags.filter TagResult.isGood).isEmpty then none
    else some ⟨deviceKey snapshot.device, group,
      (tags.filter TagResult.isGood).map TagResult.toPayload⟩

omit [PyRuntime F] in
theorem measurements_publishGroup {device : DeviceSpec F} {now : Datetime}
    {routes : List (OutputRoute F)} {group : Option String} {tags : List (TagResult F)} :
    measurements (publishGroup cfg sink device now routes group tags) =
      if (tags.filter TagResult.isGood).isEmpty then []
      else [⟨deviceKey device, group, (tags.filter TagResult.isGood).map TagResult.toPayload⟩] := by
  unfold publishGroup
  simp only []
  split
  · rfl
  · simp [measurements_publishMessage, Sent.measurement?, payload_measurementMessage,
      ctmStatusMessage]

omit [PyRuntime F] in
theorem statusEntries_publishGroup {device : DeviceSpec F} {now : Datetime}
    {routes : List (OutputRoute F)} {group : Option String} {tags : List (TagResult F)}
    {key : DeviceKey} {entry : SensorStatus}
    (h : (key, entry) ∈ statusEntries (publishGroup cfg sink device now routes group tags)) :
    key = deviceKey device ∧ ∃ tag ∈ tags, entry = sensorStatus "on" none now tag := by
  unfold publishGroup at h
  simp only [] at h
  split at h
  · exact (List.not_mem_nil h).elim
  · rw [statusEntries_append, statusEntries_publishMessage, statusEntries_publishMessage] at h
    simp only [Sent.statusEntries, payload_measurementMessage, List.nil_append, ctmStatusMessage,
      List.mem_map] at h
    obtain ⟨_, ⟨tag, ht, rfl⟩, heq⟩ := h
    obtain ⟨rfl, rfl⟩ := Prod.mk.inj heq
    exact ⟨rfl, tag, ht, rfl⟩

omit [PyRuntime F] in
theorem publishSnapshot_law {now : Datetime} {snapshot : Snapshot F} (p : SinkPublisher F)
    (hs : snapshot ∈ p.latest.values) :
    let a := publishSnapshot cfg sink now snapshot
    a.state p = p ∧
      measurements (a.events p) =
        (if p.deviceStatus snapshot.device = some .good then snapshotMeasurements snapshot else []) ∧
      OnlyGood p.statusOf p.latest now (a.events p) := by
  simp only [publishSnapshot, Act.state_look, Act.events_look]
  by_cases h : p.deviceStatus snapshot.device = some .good
  · rw [if_neg (not_not_intro h), if_pos h]
    refine ⟨rfl, ?_, ?_⟩
    · simp only [Act.events_emitAll, measurements_flatMap, measurements_publishGroup,
        snapshotMeasurements]
      induction (OrderedDict.groupBy tagOutputGroup snapshot.tags.values).entries with
      | nil => rfl
      | cons g gs ih =>
        rw [List.flatMap_cons, ih, List.filterMap_cons]
        by_cases hg : (g.2.filter TagResult.isGood).isEmpty <;> simp [hg]
    · intro key entry hm hon
      simp only [Act.events_emitAll, statusEntries_flatMap, List.mem_flatMap] at hm
      obtain ⟨⟨group, tags⟩, hg, hm⟩ := hm
      obtain ⟨rfl, tag, ht, rfl⟩ := statusEntries_publishGroup cfg sink hm
      exact ⟨h, snapshot, tag, mem_latest.mp hs, mem_of_mem_group hg ht, (sensorStatus_on hon).2, rfl⟩
  · rw [if_pos h, if_neg h]
    exact ⟨rfl, rfl, onlyGood_of_no_entries rfl⟩

/-- `publish_cached` refreshes the statuses, keeps the cached tags, and sends the
measurements of the devices that are then good. -/
theorem publishCached_law (now : Datetime) (p : SinkPublisher F) :
    let a := publishCached cfg sink now
    (a.state p).latest = p.latest ∧ (a.state p).statusOf = p.refreshed cfg now ∧
      measurements (a.events p) = p.latest.values.flatMap (fun snapshot =>
        if p.refreshed cfg now (deviceKey snapshot.device) = some .good then
          snapshotMeasurements snapshot else []) ∧
      OnlyGood (p.refreshed cfg now) p.latest now (a.events p) := by
  obtain ⟨hlatest, hstatus, hquiet, hoff⟩ := refreshStaleStatuses_law cfg sink now p
  have hbeat := reports_publishSystemHeartbeats cfg sink now ("", "")
    ((refreshStaleStatuses cfg sink now).state p)
  simp only [publishCached, Act.state_seq, Act.events_seq, Act.state_look, Act.events_look,
    measurements_append, hquiet, hbeat.quiet, List.nil_append]
  generalize hq : (publishSystemHeartbeats cfg sink now).state
    ((refreshStaleStatuses cfg sink now).state p) = q at hbeat ⊢
  have hql : q.latest = p.latest := (hq ▸ hbeat.sees.latest).trans hlatest
  have hqs : q.statusOf = p.refreshed cfg now := (hq ▸ hbeat.sees.status).trans hstatus
  obtain ⟨hst, hev⟩ := Act.events_forEach_of_pure (f := publishSnapshot cfg sink now) (s := q)
    q.latest.values fun snapshot hm => (publishSnapshot_law cfg sink q hm).1
  rw [hst, hev]
  refine ⟨hql, hqs, ?_, ?_⟩
  · rw [measurements_flatMap, ← hql]
    refine List.flatMap_congr fun snapshot hm => ?_
    rw [(publishSnapshot_law cfg sink q hm).2.1, deviceStatus_eq, hqs]
  · refine (hoff.onlyGood).append (OnlyGood.append ?_ ?_)
    · have h := hbeat.onlyGood
      rwa [hlatest, hstatus] at h
    · intro key entry hx hon
      rw [statusEntries_flatMap, List.mem_flatMap] at hx
      obtain ⟨snapshot, hm, hx⟩ := hx
      have h := (publishSnapshot_law cfg sink q hm).2.2 key entry hx hon
      rwa [hql, hqs] at h

omit [PyRuntime F] in
theorem cachedTags_eq {p : SinkPublisher F} {key : DeviceKey} {snapshot : Snapshot F}
    (h : p.latest.get? key = some snapshot) : p.cachedTags key = snapshot.tags := by
  simp [cachedTags, h]

omit [PyRuntime F] in
theorem mem_cachedTags {p : SinkPublisher F} {key : DeviceKey} {tag : TagResult F} :
    tag ∈ (p.cachedTags key).values ↔
      ∃ snapshot, p.latest.get? key = some snapshot ∧ tag ∈ snapshot.tags.values := by
  cases h : p.latest.get? key with
  | none => simp [cachedTags, h, OrderedDict.values]
  | some snapshot => simp [cachedTags_eq h]

/-- The good tags of one group. -/
def goodTagsOf (tags : OrderedDict String (TagResult F)) (group : Option String) :
    List (TagResult F) :=
  (tags.values.filter fun tag => tagOutputGroup tag = group).filter TagResult.isGood

omit [PyRuntime F] in
theorem mem_goodTagsOf {tags : OrderedDict String (TagResult F)} {group : Option String}
    {tag : TagResult F} : tag ∈ goodTagsOf tags group ↔
      tag ∈ tags.values ∧ tagOutputGroup tag = group ∧ tag.isGood = true := by
  simp [goodTagsOf, and_comm]

omit [PyRuntime F] in
theorem mem_snapshotMeasurements {snapshot : Snapshot F} {m : Measurement F} :
    m ∈ snapshotMeasurements snapshot ↔ m.key = deviceKey snapshot.device ∧
      goodTagsOf snapshot.tags m.group ≠ [] ∧
      m.tags = (goodTagsOf snapshot.tags m.group).map TagResult.toPayload := by
  simp only [snapshotMeasurements, List.mem_filterMap]
  constructor
  · rintro ⟨⟨group, tags⟩, hg, hm⟩
    obtain ⟨-, rfl⟩ := OrderedDict.mem_entries_groupBy.mp hg
    simp only at hm
    split at hm
    · cases hm
    · rename_i hne
      cases hm
      exact ⟨rfl, by simpa [goodTagsOf, List.isEmpty_iff] using hne, rfl⟩
  · rintro ⟨hkey, hne, htags⟩
    obtain ⟨tag, ht⟩ := List.exists_mem_of_ne_nil _ hne
    obtain ⟨hv, hgroup, -⟩ := mem_goodTagsOf.mp ht
    refine ⟨(m.group, _), OrderedDict.mem_entries_groupBy.mpr
      ⟨hgroup ▸ List.mem_map_of_mem hv, rfl⟩, ?_⟩
    rw [if_neg (by simpa [goodTagsOf, List.isEmpty_iff] using hne), ← hkey]
    obtain ⟨_, _, _⟩ := m
    simp only [Option.some.injEq, Measurement.mk.injEq, true_and] at htags ⊢
    exact htags.symm

/-- `publish_cached` sends, for each device that is good after the refresh and
each group with a good cached tag, one measurement with the good tags. -/
theorem mem_measurements_publishCached {now : Datetime} {p : SinkPublisher F} {m : Measurement F} :
    m ∈ measurements ((publishCached cfg sink now).events p) ↔
      p.refreshed cfg now m.key = some .good ∧ goodTagsOf (p.cachedTags m.key) m.group ≠ [] ∧
        m.tags = (goodTagsOf (p.cachedTags m.key) m.group).map TagResult.toPayload := by
  rw [(publishCached_law cfg sink now p).2.2.1, List.mem_flatMap]
  constructor
  · rintro ⟨snapshot, hs, hm⟩
    split at hm
    · rename_i hgood
      obtain ⟨hkey, hne, htags⟩ := mem_snapshotMeasurements.mp hm
      rw [hkey, cachedTags_eq (mem_latest.mp hs)]
      exact ⟨hgood, hne, htags⟩
    · exact (List.not_mem_nil hm).elim
  · rintro ⟨hgood, hne, htags⟩
    obtain ⟨tag, ht⟩ := List.exists_mem_of_ne_nil _ hne
    obtain ⟨snapshot, hs, -⟩ := mem_cachedTags.mp (mem_goodTagsOf.mp ht).1
    rw [cachedTags_eq hs] at hne htags
    have hkey := p.keyed _ _ hs
    refine ⟨snapshot, OrderedDict.mem_values_iff.mpr ⟨_, hs⟩, ?_⟩
    rw [hkey, if_pos hgood]
    exact mem_snapshotMeasurements.mpr ⟨hkey.symm, hne, htags⟩

/-- The tags in the measurements for a device. -/
def publishedTags (key : DeviceKey) (os : List (Output F)) : List (TagPayload F) :=
  ((measurements os).filter fun m => m.key = key).flatMap Measurement.tags

omit [PyRuntime F] in
theorem perm_snapshotMeasurements (snapshot : Snapshot F) :
    ((snapshotMeasurements snapshot).flatMap Measurement.tags).Perm
      ((snapshot.tags.values.filter TagResult.isGood).map TagResult.toPayload) := by
  have hflat : (snapshotMeasurements snapshot).flatMap Measurement.tags =
      ((OrderedDict.groupBy tagOutputGroup snapshot.tags.values).values.flatten.filter
        TagResult.isGood).map TagResult.toPayload := by
    rw [snapshotMeasurements]
    generalize OrderedDict.groupBy tagOutputGroup snapshot.tags.values = groups
    rw [OrderedDict.values]
    induction groups.entries with
    | nil => rfl
    | cons g gs ih =>
      rw [List.filterMap_cons, List.map_cons, List.flatten_cons, List.filter_append, List.map_append,
        ← ih]
      by_cases hg : (g.2.filter TagResult.isGood).isEmpty
      · simp [List.isEmpty_iff.mp hg]
      · simp [hg]
  rw [hflat]
  exact ((OrderedDict.perm_flatten_groupBy _ _).filter _).map _

/-- `publish_cached` publishes every good cached tag of a good device once, and
nothing of a device that is not good. -/
theorem perm_publishedTags {now : Datetime} (p : SinkPublisher F) (key : DeviceKey) :
    (publishedTags key ((publishCached cfg sink now).events p)).Perm
      (if p.refreshed cfg now key = some .good then
        ((p.cachedTags key).values.filter TagResult.isGood).map TagResult.toPayload else []) := by
  -- only the snapshot of the device itself contributes
  let own (snapshot : Snapshot F) : List (Measurement F) :=
    if p.refreshed cfg now (deviceKey snapshot.device) = some .good then
      snapshotMeasurements snapshot else []
  have hown : ∀ snapshots : List (Snapshot F),
      (snapshots.map fun s => deviceKey s.device).Nodup →
      ((snapshots.flatMap own).filter fun m => m.key = key) =
        ((snapshots.find? fun s => deviceKey s.device = key).map own).getD [] := by
    intro snapshots hn
    induction snapshots with
    | nil => rfl
    | cons s snapshots ih =>
      obtain ⟨hs, hn⟩ := List.nodup_cons.mp hn
      have hkeys : ∀ m ∈ own s, m.key = deviceKey s.device := by
        intro m hm
        simp only [own] at hm
        split at hm
        · exact (mem_snapshotMeasurements.mp hm).1
        · exact (List.not_mem_nil hm).elim
      rw [List.flatMap_cons, List.filter_append, ih hn]
      by_cases hk : deviceKey s.device = key
      · have hnone : (snapshots.find? fun s => deviceKey s.device = key) = none := by
          rw [List.find?_eq_none]
          intro s' hs'
          simpa using fun he : deviceKey s'.device = key =>
            hs (List.mem_map.mpr ⟨s', hs', he.trans hk.symm⟩)
        rw [List.filter_eq_self.mpr fun m hm => by simpa [hk] using hkeys m hm]
        simp [hk, hnone]
      · rw [List.filter_eq_nil_iff.mpr fun m hm => by simpa [hkeys m hm] using hk]
        simp [hk]
  rw [publishedTags, (publishCached_law cfg sink now p).2.2.1, hown _ p.nodup_latest, find?_latest]
  cases hs : p.latest.get? key with
  | none => simp [cachedTags, hs, OrderedDict.values]
  | some snapshot =>
    rw [cachedTags_eq hs]
    simp only [Option.map_some, Option.getD_some, own, p.keyed _ _ hs]
    split
    · exact perm_snapshotMeasurements snapshot
    · exact .refl _

/-- Of a device with these results, the last of which decides the status, the good ones
are published or nothing. -/
theorem publishedTags_of_results {now : Datetime} {p : SinkPublisher F} {key : DeviceKey}
    {results : List (TagResult F)} (hcached : (p.cachedTags key).values.Perm results)
    (hstatus : results ≠ [] →
      (p.statusOf key = some .good ↔ results.getLast?.any TagResult.isGood = true))
    (hrecent : ∀ snapshot, p.latest.get? key = some snapshot → timedOut cfg now snapshot = false) :
    (publishedTags key ((publishCached cfg sink now).events p)).Perm
      (if results.getLast?.any TagResult.isGood then
        (results.filter TagResult.isGood).map TagResult.toPayload else []) := by
  refine (perm_publishedTags cfg sink p key).trans ?_
  rw [refreshed_of_recent cfg hrecent]
  by_cases hne : results = []
  · rw [hne] at hcached ⊢
    rw [hcached.eq_nil]
    simp
  · by_cases hgood : results.getLast?.any TagResult.isGood = true
    · rw [if_pos hgood, if_pos ((hstatus hne).mpr hgood)]
      exact (hcached.filter _).map _
    · rw [if_neg hgood, if_neg fun h => hgood ((hstatus hne).mp h)]

-- ---------------------------------------------------------------------------
-- Consuming a result
-- ---------------------------------------------------------------------------

omit [PyRuntime F] in
theorem quiet_reportTags (device : DeviceSpec F) (tags : List (TagResult F)) :
    measurements (tags.flatMap (reportTag device)) = [] ∧
      statusEntries (tags.flatMap (reportTag device)) = [] := by
  have hone : ∀ tag : TagResult F, measurements (reportTag device tag) = [] ∧
      statusEntries (reportTag device tag) = [] := by
    intro tag
    unfold reportTag
    split <;> exact ⟨rfl, rfl⟩
  simp [hone]

/-- A result with an error disconnects its device and leaves the cache alone. -/
theorem publishResult_error {result : ReadResult F} (receivedAt : Datetime) (p : SinkPublisher F)
    (h : textTruthy result.error = true) :
    let a := publishResult cfg sink result receivedAt
    (a.state p).latest = p.latest ∧
      (a.state p).statusOf = p.withStatus result.device .disconnected ∧
      measurements (a.events p) = [] ∧
      (∀ x ∈ statusEntries (a.events p), x.1 = deviceKey result.device) ∧
      OnlyGood (p.withStatus result.device .disconnected) p.latest receivedAt (a.events p) := by
  obtain ⟨hlatest, hstatus, hquiet, habout, honly⟩ := setDeviceStatus_law cfg sink
    result.device .disconnected (result.error.getD "") receivedAt none none p
  simp only [publishResult, h, ↓reduceIte, Act.state_seq, Act.state_emitAll, Act.events_seq,
    measurements_append, hquiet]
  refine ⟨hlatest, hstatus, rfl, ?_, (onlyGood_of_no_entries rfl).append honly⟩
  intro x hx
  rw [statusEntries_append, List.mem_append] at hx
  exact hx.elim (fun hx => (List.not_mem_nil hx).elim) (habout x)

/-- A result without error caches its tags and sets the status of its device by
them. -/
theorem publishResult_ok {result : ReadResult F} (receivedAt : Datetime) (p : SinkPublisher F)
    (h : textTruthy result.error = false) :
    let a := publishResult cfg sink result receivedAt
    (a.state p).latest =
        p.latest.set (deviceKey result.device) (cachedSnapshot p result receivedAt) ∧
      (a.state p).statusOf = p.withStatus result.device (resultStatus result.tags) ∧
      measurements (a.events p) = [] ∧
      (∀ x ∈ statusEntries (a.events p), x.1 = deviceKey result.device) ∧
      OnlyGood (p.withStatus result.device (resultStatus result.tags)) (a.state p).latest receivedAt
        (a.events p) := by
  obtain ⟨hlatest, hstatus, hquiet, habout, honly⟩ := setDeviceStatus_law cfg sink
    result.device (resultStatus result.tags) (statusReason (resultStatus result.tags)) receivedAt
    (some receivedAt) (some result.timestamp) (p.setSnapshot (cachedSnapshot p result receivedAt))
  obtain ⟨hm, he⟩ := quiet_reportTags result.device result.tags
  simp only [publishResult, cacheResult, h, Bool.false_eq_true, ↓reduceIte, Act.state_seq,
    Act.state_modify, Act.state_emitAll, Act.events_seq, Act.events_modify, Act.events_emitAll,
    List.nil_append, measurements_append, hm, hquiet, statusEntries_append, he]
  refine ⟨hlatest, hstatus, trivial, habout, ?_⟩
  rw [hlatest]
  exact (onlyGood_of_no_entries he).append honly

end SinkPublisher

end IndustrialGateway
