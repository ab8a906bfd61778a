import IndustrialGateway.PublisherLaws

/-!
# Rules for the publisher's actions

What holds of all outputs of the publisher, whatever its state, is shown once for
each kind of output; the rules here carry it through the methods.
-/

namespace IndustrialGateway

namespace SinkPublisher

variable {F : Type} {ok : DeviceSpec F → Prop} {I : SinkPublisher F → Prop} {Q : Output F → Prop}
  {cfg : PublisherConfig F}

/-- `I` survives what the publisher changes of its devices, and `Q` holds of its outputs
about devices that are `ok`, the heartbeats apart. -/
structure Rules (cfg : PublisherConfig F) (ok : DeviceSpec F → Prop) (I : SinkPublisher F → Prop)
    (Q : Output F → Prop) : Prop where
  setState : ∀ p key state, I p → I (p.setState key state)
  device : ∀ p, I p → ∀ snapshot ∈ p.latest.values, ok snapshot.device
  text : ∀ message, Q (.status (.text message))
  log : ∀ record, Q (.log record)
  update : ∀ p, I p → ∀ device, ok device → ∀ status error now,
    ∀ o ∈ (emitRuntimeTagStatus device status error now).events p, Q o
  status : ∀ device group pluginType message tags connStatus errorMsg now, Q (.sent
    ⟨.group device group, pluginType, ctmStatusMessage message tags connStatus errorMsg now⟩)
  measurement : ∀ routes device tags group now, Q (.sent ⟨.group device group,
    (measurementMessage cfg routes device tags group now).2,
    (measurementMessage cfg routes device tags group now).1⟩)

namespace Rules

variable (h : Rules cfg ok I Q) (sink : Sink F)

include h

theorem forall_publishMessage {about : About F} {pluginType deviceName : String}
    {message : BatchMessage F} (hsent : Q (.sent ⟨about, pluginType, message⟩)) :
    ∀ o ∈ publishMessage cfg sink about pluginType message deviceName, Q o := by
  intro o ho
  rcases List.mem_cons.mp ho with rfl | ho
  · exact hsent
  · cases hsink : sink message with
    | none =>
      rw [hsink] at ho
      cases ho
    | some exc =>
      simp only [hsink, List.mem_cons, List.not_mem_nil, or_false] at ho
      rcases ho with rfl | rfl
      · exact h.text _
      · exact h.log _

theorem respects_publishDeviceStatus (device : DeviceSpec F) (now : Datetime) :
    Act.Respects I Q (publishDeviceStatus cfg sink device now) := by
  refine .look fun p _ => ?_
  cases p.deviceStatuses.get? (deviceKey device) with
  | none => exact Act.respects_skip
  | some state =>
    refine .seq (Act.respects_modify fun q hq => h.setState q _ _ hq) ?_
    cases p.latest.get? (deviceKey device) with
    | none => exact Act.respects_skip
    | some snapshot =>
      exact .forEach fun _ _ => Act.respects_emitAll (h.forall_publishMessage sink (h.status ..))

theorem respects_emitRuntimeTagStatus {device : DeviceSpec F} (hdevice : ok device)
    (status : DeviceStatus) (error : String) (now : Datetime) :
    Act.Respects I Q (emitRuntimeTagStatus device status error now) := by
  refine ⟨fun p hp => ?_, fun p hp => h.update p hp device hdevice status error now⟩
  rw [emitRuntimeTagStatus, Act.state_look]
  cases p.latest.get? (deviceKey device) <;> exact hp

variable [PyRuntime F]

theorem respects_publishStatusHeartbeatIfDue (device : DeviceSpec F) (now : Datetime) :
    Act.Respects I Q (publishStatusHeartbeatIfDue cfg sink device now) := by
  unfold publishStatusHeartbeatIfDue
  split
  · exact Act.respects_skip
  · refine .look fun p _ => ?_
    cases p.deviceStatuses.get? (deviceKey device) with
    | none => exact Act.respects_skip
    | some state =>
      dsimp only
      split
      · exact h.respects_publishDeviceStatus sink device now
      · exact Act.respects_skip

theorem respects_setDeviceStatus {device : DeviceSpec F} (hdevice : ok device) (status : DeviceStatus)
    (reason : String) (now : Datetime) (received source : Option Datetime) :
    Act.Respects I Q (setDeviceStatus cfg sink device status reason now received source) := by
  have hset (state : DeviceState F) :
      Act.Respects I Q (.modify fun p => p.setState (deviceKey device) state) :=
    Act.respects_modify fun q hq => h.setState q _ _ hq
  have hannounce := (h.respects_emitRuntimeTagStatus hdevice status reason now).seq
    (h.respects_publishDeviceStatus sink device now)
  refine .look fun p _ => ?_
  dsimp only
  cases p.deviceStatuses.get? (deviceKey device) with
  | none =>
    dsimp only
    split
    · exact (hset _).seq hannounce
    · exact hset _
  | some current =>
    dsimp only
    split
    · exact (hset _).seq (h.respects_publishStatusHeartbeatIfDue sink device now)
    · exact (hset _).seq hannounce

theorem respects_refreshStaleStatuses (now : Datetime) :
    Act.Respects I Q (refreshStaleStatuses cfg sink now) := by
  unfold refreshStaleStatuses
  split
  · exact Act.respects_skip
  · refine .look fun p hp => .forEach fun snapshot hsnapshot => .look fun q _ => ?_
    have hdevice := h.device p hp snapshot hsnapshot
    cases snapshot.lastReceivedAt with
    | none => exact Act.respects_skip
    | some lastReceivedAt =>
      dsimp only
      split
      · exact h.respects_setDeviceStatus sink hdevice ..
      · split
        · exact h.respects_publishStatusHeartbeatIfDue sink ..
        · exact Act.respects_skip

theorem respects_publishSystemHeartbeats (now : Datetime)
    (hset : ∀ p route, I p → I (p.setHeartbeat route now))
    (hbeat : ∀ route : OutputRoute F,
      Q (.sent ⟨.systemHeartbeat, route.sinkType, systemHeartbeatStatusMessage route now⟩)) :
    Act.Respects I Q (publishSystemHeartbeats cfg sink now) := by
  refine .look fun p _ => .forEach fun route _ => ?_
  unfold publishSystemHeartbeat
  split
  · exact Act.respects_skip
  · refine .look fun q _ => ?_
    split
    · exact Act.respects_skip
    · exact .seq (Act.respects_modify fun q hq => hset q _ hq)
        (Act.respects_emitAll (h.forall_publishMessage sink (hbeat route)))

omit [PyRuntime F] in
theorem respects_publishSnapshots (now : Datetime) :
    Act.Respects I Q (.look fun p => Act.forEach (publishSnapshot cfg sink now) p.latest.values) := by
  refine .look fun p _ => .forEach fun snapshot _ => .look fun q _ => ?_
  split
  · exact Act.respects_skip
  · refine Act.respects_emitAll fun o ho => ?_
    obtain ⟨⟨group, tags⟩, -, ho⟩ := List.mem_flatMap.mp ho
    simp only [publishGroup] at ho
    split at ho
    · cases ho
    · rcases List.mem_append.mp ho with ho | ho
      · exact h.forall_publishMessage sink (h.measurement ..) o ho
      · exact h.forall_publishMessage sink (h.status ..) o ho

theorem respects_publishCached (now : Datetime)
    (hset : ∀ p route, I p → I (p.setHeartbeat route now))
    (hbeat : ∀ route : OutputRoute F,
      Q (.sent ⟨.systemHeartbeat, route.sinkType, systemHeartbeatStatusMessage route now⟩)) :
    Act.Respects I Q (publishCached cfg sink now) :=
  (h.respects_refreshStaleStatuses sink now).seq <|
    (h.respects_publishSystemHeartbeats sink now hset hbeat).seq (h.respects_publishSnapshots sink now)

theorem respects_publishResult {result : ReadResult F} (hdevice : ok result.device) (now : Datetime)
    (hcached : ∀ p, I p → I (p.setSnapshot (cachedSnapshot p result now)))
    (hreport : ∀ tag ∈ result.tags, ∀ o ∈ reportTag result.device tag, Q o) :
    Act.Respects I Q (publishResult cfg sink result now) := by
  unfold publishResult
  split
  · refine .seq (Act.respects_emitAll fun o ho => ?_) (h.respects_setDeviceStatus sink hdevice ..)
    simp only [List.mem_cons, List.not_mem_nil, or_false] at ho
    rcases ho with rfl | rfl
    · exact h.text _
    · exact h.log _
  · refine .seq (Act.respects_modify fun p hp => hcached p hp)
      (.seq (Act.respects_emitAll fun o ho => ?_) (h.respects_setDeviceStatus sink hdevice ..))
    obtain ⟨tag, htag, ho⟩ := List.mem_flatMap.mp ho
    exact hreport tag htag o ho

end Rules

end SinkPublisher

end IndustrialGateway
