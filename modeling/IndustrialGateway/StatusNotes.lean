import IndustrialGateway.Lib.Marks
import IndustrialGateway.PublicationGate

/-!
# The publisher with notes

The publisher once more, with a note wherever `_publish_device_status` runs and
wherever a device gets a new status. Without the notes it is the publisher. All
that either call does about a status is a visit of one device.
-/

namespace IndustrialGateway

variable {F : Type}

/-- An output, or a note of what the publisher does beside its outputs. -/
inductive Note (F : Type) where
  | output (o : Output F)
  /-- `_set_device_status` replaces the state of a device by one with a new status. -/
  | changed (key : DeviceKey) (old : Option DeviceStatus) (new : DeviceStatus) (now : Datetime)
  /-- `_publish_device_status` runs. -/
  | executed (device : DeviceSpec F) (now : Datetime)

def Note.output? : Note F → Option (Output F)
  | .output o => some o
  | _ => none

abbrev NotedAct (F : Type) := Act (SinkPublisher F) (Note F)

namespace SinkPublisher

-- ---------------------------------------------------------------------------
-- The publisher with notes
-- ---------------------------------------------------------------------------

section Noted

variable (cfg : PublisherConfig F) (sink : Sink F)

def notedPublishDeviceStatus (device : DeviceSpec F) (now : Datetime) : NotedAct F :=
  (Act.emit (.executed device now)).seq ((publishDeviceStatus cfg sink device now).map .output)

variable [PyRuntime F]

def notedPublishStatusHeartbeatIfDue (device : DeviceSpec F) (now : Datetime) : NotedAct F :=
  if PyRuntime.le cfg.statusPublishIntervalS (PyRuntime.lit 0) then .skip
  else .look fun p =>
    match p.deviceStatuses.get? (deviceKey device) with
    | none => .skip
    | some state =>
      let intervalStartedAt := state.lastPublishedAt.getD state.changedAt
      if PyRuntime.le cfg.statusPublishIntervalS (PyRuntime.totalSeconds (now - intervalStartedAt)) then
        notedPublishDeviceStatus cfg sink device now
      else .skip

def notedSetDeviceStatus (device : DeviceSpec F) (status : DeviceStatus) (reason : String)
    (now : Datetime) (lastReceivedAt lastSourceTimestamp : Option Datetime) : NotedAct F :=
  .look fun p =>
    let key := deviceKey device
    let fresh (old : Option DeviceStatus) : NotedAct F :=
      (Act.emit (.changed key old status now)).seq (.modify fun p => p.setState key
        { device, status, reason, changedAt := now, lastPublishedAt := none, lastReceivedAt,
          lastSourceTimestamp })
    let announce : NotedAct F :=
      Act.seq ((emitRuntimeTagStatus device status reason now).map .output)
        (notedPublishDeviceStatus cfg sink device now)
    match p.deviceStatuses.get? key with
    | some current =>
      if current.status = status then
        Act.seq
          (.modify fun p => p.setState key { current with reason, lastReceivedAt, lastSourceTimestamp })
          (notedPublishStatusHeartbeatIfDue cfg sink device now)
      else (fresh (some current.status)).seq announce
    | none => if status ≠ .good then (fresh none).seq announce else fresh none

def notedRefreshStaleSnapshot (now : Datetime) (snapshot : Snapshot F) : NotedAct F :=
  .look fun p =>
    match snapshot.lastReceivedAt with
    | none => .skip
    | some lastReceivedAt =>
      if PyRuntime.le cfg.staleTimeoutS (PyRuntime.totalSeconds (now - lastReceivedAt)) ∧
          p.deviceStatus snapshot.device = some .good then
        notedSetDeviceStatus cfg sink snapshot.device .stale "message timeout" now
          (some lastReceivedAt) snapshot.lastSourceTimestamp
      else if p.deviceStatus snapshot.device ≠ some .good then
        notedPublishStatusHeartbeatIfDue cfg sink snapshot.device now
      else .skip

def notedRefreshStaleStatuses (now : Datetime) : NotedAct F :=
  if PyRuntime.le cfg.staleTimeoutS (PyRuntime.lit 0) then .skip
  else .look fun p => Act.forEach (notedRefreshStaleSnapshot cfg sink now) p.latest.values

def notedPublishCached (now : Datetime) : NotedAct F :=
  (notedRefreshStaleStatuses cfg sink now).seq <| Act.map .output <|
    (publishSystemHeartbeats cfg sink now).seq <|
      .look fun p => Act.forEach (publishSnapshot cfg sink now) p.latest.values

def notedCacheResult (result : ReadResult F) (receivedAt : Datetime) : NotedAct F :=
  Act.seq
    (.modify fun p => p.setSnapshot (cachedSnapshot p result receivedAt)) <|
    Act.seq (Act.map .output (.emitAll (result.tags.flatMap (reportTag result.device)))) <|
      notedSetDeviceStatus cfg sink result.device (resultStatus result.tags)
        (statusReason (resultStatus result.tags)) receivedAt (some receivedAt) (some result.timestamp)

def notedPublishResult (result : ReadResult F) (receivedAt : Datetime) : NotedAct F :=
  if textTruthy result.error then
    Act.seq
      (Act.map .output (.emitAll
        [.status (.text (result.device.name ++ ": read failed: " ++ result.error.getD "")),
          .log ⟨"ERROR", "driver", "read result error",
            [("device", .str result.device.name), ("driver", .str result.device.driverType),
              ("error", .str (result.error.getD ""))]⟩]))
      (notedSetDeviceStatus cfg sink result.device .disconnected (result.error.getD "") receivedAt none none)
  else notedCacheResult cfg sink result receivedAt

def notedCall : Call F → NotedAct F
  | .publishOnce result now sink => notedPublishResult cfg sink result now
  | .publishCached now sink => notedPublishCached cfg sink now

end Noted

-- ---------------------------------------------------------------------------
-- Without the notes
-- ---------------------------------------------------------------------------

section Erasure

variable (cfg : PublisherConfig F) (sink : Sink F)

theorem erases_output (a : PublisherAct F) : Act.Erases Note.output? (a.map .output) a :=
  Act.erases_map (f := Note.output) (fun _ => rfl) a

theorem erases_publishDeviceStatus (device : DeviceSpec F) (now : Datetime) :
    Act.Erases Note.output? (notedPublishDeviceStatus cfg sink device now)
      (publishDeviceStatus cfg sink device now) :=
  (erases_output _).mark rfl

variable [PyRuntime F]

theorem erases_publishStatusHeartbeatIfDue (device : DeviceSpec F) (now : Datetime) :
    Act.Erases Note.output? (notedPublishStatusHeartbeatIfDue cfg sink device now)
      (publishStatusHeartbeatIfDue cfg sink device now) := by
  unfold notedPublishStatusHeartbeatIfDue publishStatusHeartbeatIfDue
  split
  · exact Act.erases_skip
  · refine Act.Erases.look fun p => ?_
    cases p.deviceStatuses.get? (deviceKey device) with
    | none => exact Act.erases_skip
    | some state =>
      dsimp only
      split
      · exact erases_publishDeviceStatus cfg sink device now
      · exact Act.erases_skip

theorem erases_setDeviceStatus (device : DeviceSpec F) (status : DeviceStatus) (reason : String)
    (now : Datetime) (received source : Option Datetime) :
    Act.Erases Note.output? (notedSetDeviceStatus cfg sink device status reason now received source)
      (setDeviceStatus cfg sink device status reason now received source) := by
  have hannounce := (erases_output (emitRuntimeTagStatus device status reason now)).seq
    (erases_publishDeviceStatus cfg sink device now)
  refine Act.Erases.look fun p => ?_
  dsimp only
  cases p.deviceStatuses.get? (deviceKey device) with
  | none =>
    dsimp only
    split
    · exact ((Act.erases_modify _).mark rfl).seq hannounce
    · exact (Act.erases_modify _).mark rfl
  | some current =>
    dsimp only
    split
    · exact (Act.erases_modify _).seq (erases_publishStatusHeartbeatIfDue cfg sink device now)
    · exact ((Act.erases_modify _).mark rfl).seq hannounce

theorem erases_refreshStaleSnapshot (now : Datetime) (snapshot : Snapshot F) :
    Act.Erases Note.output? (notedRefreshStaleSnapshot cfg sink now snapshot)
      (refreshStaleSnapshot cfg sink now snapshot) := by
  refine Act.Erases.look fun p => ?_
  cases snapshot.lastReceivedAt with
  | none => exact Act.erases_skip
  | some lastReceivedAt =>
    dsimp only
    split
    · exact erases_setDeviceStatus cfg sink _ _ _ _ _ _
    · split
      · exact erases_publishStatusHeartbeatIfDue cfg sink _ _
      · exact Act.erases_skip

/-- A call with its notes is the call. -/
theorem erases_call (c : Call F) : Act.Erases Note.output? (notedCall cfg c) (call cfg c) := by
  cases c with
  | publishOnce result now sink =>
    rw [notedCall, call, notedPublishResult, publishResult]
    split
    · exact (erases_output _).seq (erases_setDeviceStatus cfg sink _ _ _ _ _ _)
    · exact (Act.erases_modify _).seq
        ((erases_output _).seq (erases_setDeviceStatus cfg sink _ _ _ _ _ _))
  | publishCached now sink =>
    rw [notedCall, call, notedPublishCached, publishCached]
    refine Act.Erases.seq ?_ (erases_output _)
    rw [notedRefreshStaleStatuses, refreshStaleStatuses]
    split
    · exact Act.erases_skip
    · exact Act.Erases.look fun p => .forEach (erases_refreshStaleSnapshot cfg sink now) _

end Erasure

-- ---------------------------------------------------------------------------
-- A visit of one device
-- ---------------------------------------------------------------------------

/-- When the device last published its status, since its last change. -/
def lastPublished (p : SinkPublisher F) (key : DeviceKey) : Option Datetime :=
  (p.deviceStatuses.get? key).bind DeviceState.lastPublishedAt

/-- One status message for each output group of the cached tags of the device. -/
structure StatusPerGroup (p : SinkPublisher F) (device : DeviceSpec F) (os : List (Output F)) : Prop where
  groups : (sents os).map Sent.about = (OrderedDict.groupBy tagOutputGroup
    (p.cachedTags (deviceKey device)).values).keys.map (About.group device)
  status : ∀ s ∈ sents os, ∃ timestamp sensors, s.message.payload = .status timestamp sensors

/-- Only the state of this device differs. -/
structure SameBut (key : DeviceKey) (p q : SinkPublisher F) : Prop where
  latest : q.latest = p.latest
  others : ∀ k, k ≠ key → q.deviceStatuses.get? k = p.deviceStatuses.get? k

/-- What a visit of one device may note, and what it then leaves of the device. -/
inductive Visit (cfg : PublisherConfig F) [PyRuntime F] (device : DeviceSpec F) (now : Datetime)
    (p q : SinkPublisher F) : List (Note F) → Prop
  | quiet (hstatus : q.statusOf (deviceKey device) = p.statusOf (deviceKey device))
    (hpublished : q.lastPublished (deviceKey device) = p.lastPublished (deviceKey device)) :
    Visit cfg device now p q []
  | first (hnew : p.statusOf (deviceKey device) = none)
    (hstatus : q.statusOf (deviceKey device) = some .good)
    (hpublished : q.lastPublished (deviceKey device) = none) :
    Visit cfg device now p q [.changed (deviceKey device) none .good now]
  | heartbeat (hinterval : PyRuntime.le cfg.statusPublishIntervalS (PyRuntime.lit 0) = false)
    (hknown : p.statusOf (deviceKey device) ≠ none)
    (hdue : ∀ t, p.lastPublished (deviceKey device) = some t →
      PyRuntime.le cfg.statusPublishIntervalS (PyRuntime.totalSeconds (now - t)) = true)
    (hstatus : q.statusOf (deviceKey device) = p.statusOf (deviceKey device))
    (hpublished : q.lastPublished (deviceKey device) = some now)
    {os : List (Output F)} (hos : StatusPerGroup q device os) :
    Visit cfg device now p q (.executed device now :: os.map .output)
  | announced {new : DeviceStatus} (hnew : p.statusOf (deviceKey device) ≠ some new)
    (hstatus : q.statusOf (deviceKey device) = some new)
    (hpublished : q.lastPublished (deviceKey device) = some now)
    {updates os : List (Output F)} (hupdates : sents updates = []) (hos : StatusPerGroup q device os) :
    Visit cfg device now p q (.changed (deviceKey device) (p.statusOf (deviceKey device)) new now ::
      updates.map .output ++ .executed device now :: os.map .output)

section Visits

variable (cfg : PublisherConfig F) (sink : Sink F)

theorem statusPerGroup_publishDeviceStatus {device : DeviceSpec F} {p : SinkPublisher F}
    {state : DeviceState F} (h : p.deviceStatuses.get? (deviceKey device) = some state)
    (now : Datetime) :
    StatusPerGroup p device ((publishDeviceStatus cfg sink device now).events p) := by
  rw [events_publishDeviceStatus, h]
  cases hsnapshot : p.latest.get? (deviceKey device) with
  | none =>
    refine ⟨?_, fun _ hs => absurd hs List.not_mem_nil⟩
    rw [cachedTags, hsnapshot]
    rfl
  | some snapshot =>
    have hsent : ∀ x : Option String × List (TagResult F), sents (publishMessage cfg sink
        (.group device x.1) (measurementMessage cfg p.outputRoutes device x.2 x.1 now).2
        (ctmStatusMessage (measurementMessage cfg p.outputRoutes device x.2 x.1 now).1 x.2
          (if state.status = .good then "on" else "off")
          (if (if state.status = .good then "on" else "off") = "on" then none else some state.reason) now)
        device.name) = [_] := fun x => sents_publishMessage cfg sink _ _ _ _
    constructor
    · rw [cachedTags_eq hsnapshot]
      simp only [statusMessages, sents_flatMap, hsent, OrderedDict.keys, List.map_flatMap, List.map_map]
      exact List.map_eq_flatMap.symm
    · intro s hs
      simp only [statusMessages, sents_flatMap, hsent, List.mem_flatMap, List.mem_singleton] at hs
      obtain ⟨x, -, rfl⟩ := hs
      exact ⟨_, _, rfl⟩

/-- `_publish_device_status` of a known device. -/
theorem notedPublishDeviceStatus_eq {device : DeviceSpec F} {p : SinkPublisher F}
    (h : p.statusOf (deviceKey device) ≠ none) (now : Datetime) :
    let q := (notedPublishDeviceStatus cfg sink device now).state p
    SameBut (deviceKey device) p q ∧ q.statusOf (deviceKey device) = p.statusOf (deviceKey device) ∧
      q.lastPublished (deviceKey device) = some now ∧ ∃ os, StatusPerGroup q device os ∧
        (notedPublishDeviceStatus cfg sink device now).events p =
          .executed device now :: os.map .output := by
  obtain ⟨state, hstate⟩ : ∃ state, p.deviceStatuses.get? (deviceKey device) = some state := by
    rw [statusOf, ne_eq, Option.map_eq_none_iff] at h
    exact Option.ne_none_iff_exists'.mp h
  have hsees := sees_publishDeviceStatus cfg sink device now p
  have hset : ((publishDeviceStatus cfg sink device now).state p).deviceStatuses =
      p.deviceStatuses.set (deviceKey device) { state with lastPublishedAt := some now } :=
    congrArg SinkPublisher.deviceStatuses (state_publishDeviceStatus cfg sink hstate now)
  have hgroups := statusPerGroup_publishDeviceStatus cfg sink hstate now
  refine ⟨⟨hsees.latest, fun k hk => ?_⟩, congrFun hsees.status _, ?_, _, ⟨?_, hgroups.status⟩, rfl⟩
  · exact (congrArg (·.get? k) hset).trans (OrderedDict.get?_set_of_ne hk.symm)
  · refine (congrArg (fun d => (d.get? (deviceKey device)).bind DeviceState.lastPublishedAt) hset).trans ?_
    rw [OrderedDict.get?_set_self]
    rfl
  · have hcached : ((publishDeviceStatus cfg sink device now).state p).cachedTags (deviceKey device) =
        p.cachedTags (deviceKey device) := by
      rw [cachedTags, hsees.latest]
      rfl
    rw [hgroups.groups, ← hcached]
    rfl

theorem SameBut.rfl {key : DeviceKey} {p : SinkPublisher F} : SameBut key p p :=
  ⟨Eq.refl _, fun _ _ => Eq.refl _⟩

theorem SameBut.trans {key : DeviceKey} {p q r : SinkPublisher F} (h : SameBut key p q)
    (h' : SameBut key q r) : SameBut key p r :=
  ⟨h'.latest.trans h.latest, fun k hk => (h'.others k hk).trans (h.others k hk)⟩

theorem sameBut_setState (key : DeviceKey) (p : SinkPublisher F) (state : DeviceState F) :
    SameBut key p (p.setState key state) :=
  ⟨Eq.refl _, fun _ hk => OrderedDict.get?_set_of_ne hk.symm⟩

@[simp] theorem lastPublished_setState (p : SinkPublisher F) (key : DeviceKey) (state : DeviceState F) :
    (p.setState key state).lastPublished key = state.lastPublishedAt := by
  rw [lastPublished, deviceStatuses_setState, OrderedDict.get?_set_self]
  rfl

variable [PyRuntime F]

/-- The action visits the device, whatever the state. -/
def Visits (device : DeviceSpec F) (now : Datetime) (a : NotedAct F) : Prop :=
  ∀ p, SameBut (deviceKey device) p (a.state p) ∧ Visit cfg device now p (a.state p) (a.events p)

/-- A visit that starts from what is known of the device notes the same. -/
theorem Visit.of_same {device : DeviceSpec F} {now : Datetime} {p p' q : SinkPublisher F}
    {notes : List (Note F)} (h : Visit cfg device now p' q notes)
    (hstatus : p'.statusOf (deviceKey device) = p.statusOf (deviceKey device))
    (hpublished : p'.lastPublished (deviceKey device) = p.lastPublished (deviceKey device)) :
    Visit cfg device now p q notes := by
  cases h with
  | quiet hsame hkept => exact .quiet (hsame.trans hstatus) (hkept.trans hpublished)
  | first hnew hgood hnone => exact .first (hstatus ▸ hnew) hgood hnone
  | heartbeat hinterval hknown hdue hsame hnow hos =>
    exact .heartbeat hinterval (hstatus ▸ hknown) (hpublished ▸ hdue) (hsame.trans hstatus) hnow hos
  | announced hnew hchanged hnow hupdates hos =>
    rw [hstatus] at hnew ⊢
    exact .announced hnew hchanged hnow hupdates hos

theorem visits_skip (device : DeviceSpec F) (now : Datetime) : Visits cfg device now .skip :=
  fun _ => ⟨.rfl, .quiet rfl rfl⟩

theorem visits_publishStatusHeartbeatIfDue (device : DeviceSpec F) (now : Datetime) :
    Visits cfg device now (notedPublishStatusHeartbeatIfDue cfg sink device now) := by
  intro p
  unfold notedPublishStatusHeartbeatIfDue
  split
  · exact visits_skip cfg device now p
  · rename_i hinterval
    rw [Act.state_look, Act.events_look]
    cases hstate : p.deviceStatuses.get? (deviceKey device) with
    | none => exact visits_skip cfg device now p
    | some state =>
      dsimp only
      split
      · rename_i hdue
        have hknown : p.statusOf (deviceKey device) ≠ none := by
          rw [statusOf_eq_of_get? hstate]
          exact Option.some_ne_none _
        obtain ⟨hsame, hstatus, hpublished, os, hos, hevents⟩ :=
          notedPublishDeviceStatus_eq cfg sink hknown now
        rw [hevents]
        refine ⟨hsame, .heartbeat (eq_false_of_ne_true hinterval) hknown ?_ hstatus hpublished hos⟩
        intro t ht
        rw [lastPublished, hstate, Option.bind_some] at ht
        rwa [ht] at hdue
      · exact visits_skip cfg device now p

omit [PyRuntime F] in
theorem sents_emitRuntimeTagStatus (device : DeviceSpec F) (status : DeviceStatus) (error : String)
    (now : Datetime) (p : SinkPublisher F) :
    sents ((emitRuntimeTagStatus device status error now).events p) = [] := by
  rw [emitRuntimeTagStatus, Act.events_look]
  cases p.latest.get? (deviceKey device) with
  | none => rfl
  | some snapshot => simp [sents, List.filterMap_eq_nil_iff, Output.sent?]

omit [PyRuntime F] in
theorem state_emitRuntimeTagStatus (device : DeviceSpec F) (status : DeviceStatus) (error : String)
    (now : Datetime) (p : SinkPublisher F) :
    (emitRuntimeTagStatus device status error now).state p = p := by
  rw [emitRuntimeTagStatus, Act.state_look]
  cases p.latest.get? (deviceKey device) <;> rfl

theorem visits_setDeviceStatus (device : DeviceSpec F) (status : DeviceStatus) (reason : String)
    (now : Datetime) (received source : Option Datetime) :
    Visits cfg device now (notedSetDeviceStatus cfg sink device status reason now received source) := by
  intro p
  let fresh : DeviceState F := ⟨device, status, reason, now, none, received, source⟩
  -- the new state is announced, whatever the device was before
  have hannounce (hnew : p.statusOf (deviceKey device) ≠ some status) :
      let a := ((Act.emit (.changed (deviceKey device) (p.statusOf (deviceKey device)) status now)).seq
        (.modify fun p => p.setState (deviceKey device) fresh)).seq
          (Act.seq ((emitRuntimeTagStatus device status reason now).map .output)
            (notedPublishDeviceStatus cfg sink device now))
      SameBut (deviceKey device) p (a.state p) ∧ Visit cfg device now p (a.state p) (a.events p) := by
    have hknown : (p.setState (deviceKey device) fresh).statusOf (deviceKey device) ≠ none := by
      rw [statusOf_setState, if_pos rfl]
      exact Option.some_ne_none _
    obtain ⟨hsame, hstatus, hpublished, os, hos, hevents⟩ :=
      notedPublishDeviceStatus_eq cfg sink hknown now
    dsimp only
    simp only [Act.state_seq, Act.events_seq, Act.state_emit, Act.events_emit, Act.state_modify,
      Act.events_modify, Act.state_map, Act.events_map, state_emitRuntimeTagStatus, hevents,
      List.append_nil]
    refine ⟨(sameBut_setState _ _ _).trans hsame, ?_⟩
    refine .announced hnew (hstatus.trans ?_) hpublished (sents_emitRuntimeTagStatus _ _ _ _ _) hos
    rw [statusOf_setState, if_pos rfl]
  unfold notedSetDeviceStatus
  rw [Act.state_look, Act.events_look]
  dsimp only
  cases hstate : p.deviceStatuses.get? (deviceKey device) with
  | none =>
    have hnone : p.statusOf (deviceKey device) = none := by
      rw [statusOf, hstate]
      rfl
    rw [hnone] at hannounce
    dsimp only
    split
    · exact hannounce (Option.some_ne_none status).symm
    · rename_i hgood
      obtain rfl := not_not.mp hgood
      refine ⟨sameBut_setState _ _ _, .first hnone ?_ (lastPublished_setState _ _ _)⟩
      exact (statusOf_setState _ _ _ _).trans (if_pos rfl)
  | some current =>
    have hcurrent := statusOf_eq_of_get? hstate
    rw [hcurrent] at hannounce
    dsimp only
    split
    · let kept : DeviceState F :=
        { current with reason, lastReceivedAt := received, lastSourceTimestamp := source }
      obtain ⟨hsame, hvisit⟩ := visits_publishStatusHeartbeatIfDue cfg sink device now
        (p.setState (deviceKey device) kept)
      refine ⟨(sameBut_setState _ _ _).trans hsame, hvisit.of_same cfg ?_ ?_⟩
      · rw [statusOf_setState, if_pos rfl, hcurrent]
      · rw [lastPublished_setState, lastPublished, hstate]
        rfl
    · rename_i hnew
      exact hannounce fun h => hnew (Option.some.inj h)

theorem visits_refreshStaleSnapshot (now : Datetime) (snapshot : Snapshot F) :
    Visits cfg snapshot.device now (notedRefreshStaleSnapshot cfg sink now snapshot) := by
  intro p
  unfold notedRefreshStaleSnapshot
  rw [Act.state_look, Act.events_look]
  cases snapshot.lastReceivedAt with
  | none => exact visits_skip cfg _ now p
  | some lastReceivedAt =>
    dsimp only
    split
    · exact visits_setDeviceStatus cfg sink _ _ _ _ _ _ p
    · split
      · exact visits_publishStatusHeartbeatIfDue cfg sink _ now p
      · exact visits_skip cfg _ now p

end Visits

end SinkPublisher

end IndustrialGateway
