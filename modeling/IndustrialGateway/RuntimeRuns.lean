import IndustrialGateway.ConfigRuns
import IndustrialGateway.Lib.WholeFloat
import IndustrialGateway.RuntimeManager

/-!
# Runs of the runtime manager

A start launches its threads one by one and marks the manager as running at the
end. When one of the later steps raises, the threads launched before it stay,
and `stop` does nothing since the manager is not running. The runs below keep
away from that, and then the live threads are those of one start, and none
without one.
-/

namespace IndustrialGateway

open Fallible ConfigService

variable {F : Type} [PyRuntime F]

namespace RuntimeManager

/-- The threads the manager knows of. -/
def workers (m : RuntimeManager F) : List Worker :=
  m.topicRefreshThread.toList ++ (m.deviceWorkers ++ m.topicResponder.toList ++ m.publisherWorker)

-- ---------------------------------------------------------------------------
-- Topic refreshes
-- ---------------------------------------------------------------------------

/-- The threads and what decides about them are the same. -/
structure SameThreads (m t : RuntimeManager F) : Prop where
  running : t.running = m.running
  live : t.live = m.live
  startCalls : t.startCalls = m.startCalls
  topicRefreshThread : t.topicRefreshThread = m.topicRefreshThread
  workers : t.workers = m.workers
  devices : t.store.listDevices = m.store.listDevices
  driverRegistry : t.driverRegistry = m.driverRegistry

omit [PyRuntime F] in
theorem SameThreads.refl (m : RuntimeManager F) : SameThreads m m :=
  ⟨rfl, rfl, rfl, rfl, rfl, rfl, rfl⟩

omit [PyRuntime F] in
theorem SameThreads.trans {m t u : RuntimeManager F} (h : SameThreads m t) (h' : SameThreads t u) :
    SameThreads m u :=
  ⟨h'.running.trans h.running, h'.live.trans h.live, h'.startCalls.trans h.startCalls,
    h'.topicRefreshThread.trans h.topicRefreshThread, h'.workers.trans h.workers,
    h'.devices.trans h.devices, h'.driverRegistry.trans h.driverRegistry⟩

theorem newOutputRoutes_steps : Steps SameThreads (newOutputRoutes : ManagerAct F _) := by
  refine (ReadOnly.read _).steps.bind fun _ _ _ _ => ?_
  refine (ReadOnly.lift _).steps.bind fun routes _ _ _ => ?_
  refine Steps.bind (.modify fun m => ?_) fun _ _ _ _ => (ReadOnly.pure _).steps
  exact ⟨rfl, rfl, rfl, rfl, rfl, rfl, rfl⟩

theorem refreshDynamicRouteTopics_steps (resolver : TopicResolver F) (now : Int → String) :
    Steps SameThreads (refreshDynamicRouteTopics resolver now) := by
  refine Steps.bind (fun m => .single ?_) fun _ _ _ _ => ?_
  · have hdevices := (refreshDynamicOutputRouteTopics_keeps resolver now m.store).1
    exact ⟨rfl, rfl, rfl, rfl, rfl, by simp only [onStore, zoom, ConfigStore.listDevices, hdevices], rfl⟩
  refine (ReadOnly.read _).steps.bind fun hasPublisher _ _ _ => ?_
  split
  · refine newOutputRoutes_steps.bind fun routes _ _ _ => .modify fun m => ?_
    refine ⟨rfl, rfl, rfl, rfl, ?_, rfl, rfl⟩
    simp only [workers, publisherWorker, deviceWorkers, Option.toList_map, List.map_map]
    rfl
  · exact (ReadOnly.pure _).steps

theorem requestTopicsOnStart_steps (env : StartEnv F) (sinkConfig : SinkConfig F) :
    Steps SameThreads (requestTopicsOnStart env sinkConfig) := by
  unfold requestTopicsOnStart
  split
  · exact refreshDynamicRouteTopics_steps _ _
  · exact (ReadOnly.pure _).steps

omit [PyRuntime F] in
theorem sameThreads_of_steps {act : ManagerAct F α} (h : Steps SameThreads act)
    (m : RuntimeManager F) : SameThreads m (act m).2 :=
  h.keeps (fun _ _ hstep h => h.trans hstep) (.refl m)

-- ---------------------------------------------------------------------------
-- Launching
-- ---------------------------------------------------------------------------

/-- During call `n` of `start`: the threads it launched are among `refs`. -/
structure Launching (n : Nat) (devices : List (DeviceSpec F)) (drivers : Registry)
    (refs : RuntimeManager F → List Worker) (m : RuntimeManager F) : Prop where
  running : m.running = false
  startCalls : m.startCalls = n
  devices : m.store.listDevices = devices
  driverRegistry : m.driverRegistry = drivers
  started : ∀ w ∈ refs m, w.started = true
  tracked : ∀ w ∈ m.live, w ∈ refs m ∧ w.startCall = n

/-- Before its first thread. -/
structure Idle (n : Nat) (devices : List (DeviceSpec F)) (drivers : Registry) (m : RuntimeManager F) :
    Prop where
  running : m.running = false
  startCalls : m.startCalls = n
  devices : m.store.listDevices = devices
  driverRegistry : m.driverRegistry = drivers
  live : m.live = []
  topicRefreshThread : m.topicRefreshThread = none

variable {n : Nat} {devices : List (DeviceSpec F)} {drivers : Registry}
  {refs refs' : RuntimeManager F → List Worker} {m t : RuntimeManager F}

omit [PyRuntime F] in
theorem Idle.same (h : Idle n devices drivers m) (hsame : SameThreads m t) :
    Idle n devices drivers t :=
  ⟨hsame.running.trans h.running, hsame.startCalls.trans h.startCalls, hsame.devices.trans h.devices,
    hsame.driverRegistry.trans h.driverRegistry, hsame.live.trans h.live,
    hsame.topicRefreshThread.trans h.topicRefreshThread⟩

omit [PyRuntime F] in
theorem Idle.triple {act : ManagerAct F α} (h : Steps SameThreads act) :
    Triple (Idle n devices drivers) act (fun _ => Idle n devices drivers)
      (Idle n devices drivers) := by
  intro m hm
  have hsame := sameThreads_of_steps h m
  constructor
  · intro a t hact
    rw [hact] at hsame
    exact hm.same hsame
  · intro e t hact
    rw [hact] at hsame
    exact hm.same hsame

/-- What a manager decides by stays the same in a launch. -/
def fixed (m : RuntimeManager F) : Bool × Nat × List (DeviceSpec F) × Registry :=
  (m.running, m.startCalls, m.store.listDevices, m.driverRegistry)

omit [PyRuntime F] in
theorem Idle.launching (h : Idle n devices drivers m) :
    Launching n devices drivers (fun _ => []) m :=
  ⟨h.running, h.startCalls, h.devices, h.driverRegistry, by simp, by simp [h.live]⟩

omit [PyRuntime F] in
/-- A new thread is among the known ones. -/
theorem Launching.launched (h : Launching n devices drivers refs m) {w : Worker}
    (hw : w.started = true ∧ w.startCall = n) (hfixed : t.fixed = m.fixed)
    (hlive : t.live = m.live ++ [w]) (hrefs : ∀ v, v ∈ refs' t ↔ v ∈ refs m ∨ v = w) :
    Launching n devices drivers refs' t := by
  simp only [fixed, Prod.mk.injEq] at hfixed
  refine ⟨hfixed.1.trans h.running, hfixed.2.1.trans h.startCalls, hfixed.2.2.1.trans h.devices,
    hfixed.2.2.2.trans h.driverRegistry, ?_, ?_⟩
  · intro v hv
    rcases (hrefs v).mp hv with hv | rfl
    · exact h.started v hv
    · exact hw.1
  · intro v hv
    rw [hlive, List.mem_append, List.mem_singleton] at hv
    rcases hv with hv | rfl
    · exact ⟨(hrefs v).mpr (.inl (h.tracked v hv).1), (h.tracked v hv).2⟩
    · exact ⟨(hrefs v).mpr (.inr rfl), hw.2⟩

omit [PyRuntime F] in
theorem Launching.assigned (h : Launching n devices drivers refs m) (hfixed : t.fixed = m.fixed)
    (hlive : t.live = m.live) (hrefs : ∀ v, v ∈ refs' t ↔ v ∈ refs m) :
    Launching n devices drivers refs' t := by
  simp only [fixed, Prod.mk.injEq] at hfixed
  refine ⟨hfixed.1.trans h.running, hfixed.2.1.trans h.startCalls, hfixed.2.2.1.trans h.devices,
    hfixed.2.2.2.trans h.driverRegistry, fun v hv => h.started v ((hrefs v).mp hv), fun v hv => ?_⟩
  rw [hlive] at hv
  exact ⟨(hrefs v).mpr (h.tracked v hv).1, (h.tracked v hv).2⟩

omit [PyRuntime F] in
/-- The thread is live after its launch, or it was only assigned. -/
theorem launch_triple {role : WorkerRole} {raised : Option PyException}
    {assign : Worker → RuntimeManager F → RuntimeManager F} {P : RuntimeManager F → Prop}
    {Q : Worker → RuntimeManager F → Prop} {E : RuntimeManager F → Prop}
    (hok : ∀ m, raised = none → P m →
      let w := m.newWorker role raised
      let t := assign w { m with nextIdent := m.nextIdent + 1 }
      Q w { t with live := t.live ++ [w] })
    (herror : ∀ m, raised ≠ none → P m →
      E (assign (m.newWorker role raised) { m with nextIdent := m.nextIdent + 1 })) :
    Triple P (launch role raised assign) Q E := by
  intro m hm
  cases raised with
  | none =>
    constructor
    · intro w t h
      cases h
      exact hok m rfl hm
    · intro e t h
      cases h
  | some e =>
    constructor
    · intro w t h
      cases h
    · intro e t h
      cases h
      exact herror m (by simp) hm

/-- The threads of a start before its device workers. -/
def coreWorkers (m : RuntimeManager F) : List Worker :=
  m.topicRefreshThread.toList ++ m.publisherWorker

/-- Up to its publisher a start that raises leaves no thread. -/
theorem startPublisher_triple (env : StartEnv F) (sinkConfig : SinkConfig F) :
    Triple (fun m => Idle n devices drivers m ∧ m.store.getSinkConfig none = sinkConfig)
      (startPublisher env)
      (fun c m => c = sinkConfig ∧ Launching n devices drivers coreWorkers m ∧
        m.topicRefreshThread = none)
      (Idle n devices drivers) := by
  refine Triple.bind (Q := fun c m => c = sinkConfig ∧ Idle n devices drivers m)
    (.read fun m hm => ⟨hm.2, hm.1⟩) fun c => .of_and fun hc => ?_
  refine (Idle.triple (requestTopicsOnStart_steps env c)).bind fun _ => ?_
  refine (Idle.triple (ReadOnly.read _).steps).bind fun _ => ?_
  refine (Idle.triple (ReadOnly.lift _).steps).bind fun sinkClass => ?_
  refine (Idle.triple (ReadOnly.raiseIf _).steps).bind fun _ => ?_
  refine (Idle.triple (ReadOnly.lift _).steps).bind fun qos => ?_
  refine (Idle.triple newOutputRoutes_steps).bind fun routes => ?_
  refine (Idle.triple (ReadOnly.lift _).steps).bind fun staleTimeoutS => ?_
  refine (Idle.triple (ReadOnly.lift _).steps).bind fun statusPublishIntervalS => ?_
  refine (Idle.triple (ReadOnly.raiseIf _).steps).bind fun _ => ?_
  refine Triple.bind (launch_triple (fun m hraised hm => ?_) fun m _ hm => ?_) fun _ =>
    .pure fun _ h => ⟨hc, h⟩
  · refine ⟨hm.launching.launched ⟨?_, hm.startCalls⟩ rfl rfl fun v => ?_, hm.topicRefreshThread⟩
    · rw [newWorker, hraised]
      rfl
    · simp [coreWorkers, publisherWorker, hm.topicRefreshThread]
  · exact ⟨hm.running, hm.startCalls, hm.devices, hm.driverRegistry, hm.live, hm.topicRefreshThread⟩

-- ---------------------------------------------------------------------------
-- Starts that do not fail halfway
-- ---------------------------------------------------------------------------

/-- Nothing raises after the start of the publisher: the refresh interval is a
number, the driver types are registered, and the threads start. -/
structure WorkersStart (env : StartEnv F) (config : Settings F) (devices : List (DeviceSpec F))
    (drivers : Registry) : Prop where
  interval : ∃ x : F, floatConfig config "topic_refresh_interval_s" 300 = .ok x ∧
    (PyRuntime.le x (PyRuntime.lit 0) = false → env.refreshStart = none)
  responder : env.responderEnabled = true → env.responderInit = none ∧ env.responderStart = none
  device : ∀ device ∈ devices, device.enabled = true →
    (∃ driverClass, drivers.get F device.driverType = .ok driverClass) ∧
      env.workerInit device = none ∧ env.workerStart device = none

omit [PyRuntime F] in
theorem newWorker_started (m : RuntimeManager F) (role : WorkerRole) :
    (m.newWorker role none).started = true ∧ (m.newWorker role none).startCall = m.startCalls :=
  ⟨rfl, rfl⟩

omit [PyRuntime F] in
/-- A thread that does not raise is added to the known ones by its assignment. -/
theorem Launching.launch_triple {role : WorkerRole}
    {assign : Worker → RuntimeManager F → RuntimeManager F} {P : RuntimeManager F → Prop}
    {E : RuntimeManager F → Prop} {refs' : Worker → RuntimeManager F → List Worker}
    (hP : ∀ m, P m → Launching n devices drivers refs m)
    (hfixed : ∀ w m, (assign w m).fixed = m.fixed) (hlive : ∀ w m, (assign w m).live = m.live)
    (hrefs : ∀ m w live nextIdent, P m → ∀ v,
      v ∈ refs' w { assign w { m with nextIdent } with live } ↔ v ∈ refs m ∨ v = w) :
    Triple P (launch role none assign) (fun w => Launching n devices drivers (refs' w)) E := by
  refine RuntimeManager.launch_triple (fun m _ hm => ?_) fun m hraised _ => absurd rfl hraised
  have hw := newWorker_started m role
  exact (hP m hm).launched ⟨hw.1, hw.2.trans (hP m hm).startCalls⟩ (hfixed _ _)
    (congrArg (· ++ _) (hlive _ _)) (hrefs _ _ _ _ hm)

theorem startTopicRefreshThread_triple {env : StartEnv F} {config : Settings F} {x : F}
    (hx : floatConfig config "topic_refresh_interval_s" 300 = .ok x)
    (hstart : PyRuntime.le x (PyRuntime.lit 0) = false → env.refreshStart = none) :
    Triple (fun m => Launching n devices drivers coreWorkers m ∧ m.topicRefreshThread = none)
      (startTopicRefreshThread env config)
      (fun _ => Launching n devices drivers coreWorkers) (fun _ => False) := by
  rw [startTopicRefreshThread, hx, lift_ok_bind]
  split
  · exact .pure fun _ h => h.1
  rename_i hle
  rw [hstart (by simpa using hle)]
  refine Triple.bind (Q := fun _ m => Launching n devices drivers coreWorkers m ∧
    m.topicRefreshThread = none) (.modify fun m hm => ?_) fun _ =>
      Triple.bind (Launching.launch_triple (fun _ hm => hm.1) (fun _ _ => rfl) (fun _ _ => rfl) ?_)
        fun _ => .pure fun _ h => h
  · exact ⟨hm.1.assigned rfl rfl fun _ => Iff.rfl, hm.2⟩
  · intro m w _ _ hm v
    simp only [coreWorkers, publisherWorker, hm.2, Option.toList_some, Option.toList_none,
      List.nil_append, List.singleton_append, List.mem_cons]
    exact Or.comm

omit [PyRuntime F] in
theorem startTopicResponder_triple {env : StartEnv F}
    (hstart : env.responderEnabled = true → env.responderInit = none ∧ env.responderStart = none) :
    Triple (Launching n devices drivers coreWorkers) (startTopicResponder env)
      (fun _ => Launching n devices drivers fun m => m.topicResponder.toList ++ m.coreWorkers)
      (fun _ => False) := by
  refine Triple.bind (Q := fun _ m => Launching n devices drivers coreWorkers m ∧
    m.topicResponder = none) (.modify fun m hm => ?_) fun _ => ?_
  · exact ⟨hm.assigned rfl rfl fun _ => Iff.rfl, rfl⟩
  split
  · refine .pure fun m hm => hm.1.assigned rfl rfl fun v => ?_
    rw [hm.2]
    rfl
  rename_i henabled
  obtain ⟨hinit, hraised⟩ := hstart (by simpa using henabled)
  rw [hinit, hraised, raiseIf_none_bind]
  refine Triple.bind (Launching.launch_triple (fun _ hm => hm.1) (fun _ _ => rfl) (fun _ _ => rfl) ?_)
    fun _ => .pure fun _ h => h
  intro m w _ _ hm v
  simp only [Option.toList_some, List.singleton_append, List.mem_cons]
  exact Or.comm

omit [PyRuntime F] in
/-- A manager that knows one more device worker knows this one and those before. -/
theorem mem_workers_cons {m t : RuntimeManager F} {w : Worker}
    (hrefresh : t.topicRefreshThread = m.topicRefreshThread)
    (hresponder : t.topicResponder = m.topicResponder) (hpublisher : t.publisher = m.publisher)
    (hdevices : ∀ v, v ∈ t.deviceWorkers ↔ v = w ∨ v ∈ m.deviceWorkers) (v : Worker) :
    v ∈ t.workers ↔ v ∈ w :: m.workers := by
  rw [workers, workers, publisherWorker, publisherWorker, hrefresh, hresponder, hpublisher,
    List.mem_append, List.mem_append, List.mem_append, hdevices, List.mem_cons, List.mem_append,
    List.mem_append, List.mem_append, or_assoc, or_assoc, or_assoc, or_left_comm]

theorem startDevice_triple {env : StartEnv F} {device : DeviceSpec F}
    (h : device.enabled = true → (∃ driverClass, drivers.get F device.driverType = .ok driverClass) ∧
      env.workerInit device = none ∧ env.workerStart device = none) :
    Triple (Launching n devices drivers workers) (startDevice env device)
      (fun _ => Launching n devices drivers workers) (fun _ => False) := by
  unfold startDevice
  split
  · exact .pure fun _ h => h
  rename_i henabled
  obtain ⟨⟨driverClass, hdriver⟩, hinit, hraised⟩ := h (by simpa using henabled)
  rw [hinit, hraised]
  refine Triple.bind (Q := fun found m => found = .ok driverClass ∧
    Launching n devices drivers workers m) (.read fun m hm => ?_) fun found => .of_and fun hfound => ?_
  · rw [hm.driverRegistry]
    exact ⟨hdriver, hm⟩
  rw [hfound, lift_ok_bind]
  refine Triple.bind (Q := fun _ => Launching n devices drivers workers) (.read fun _ hm => hm)
    fun tags => ?_
  rw [raiseIf_none_bind]
  -- the new worker is known once it is in its list
  have hlaunch (role : WorkerRole) : Triple (Launching n devices drivers workers)
      (launch role none fun _ m => m)
      (fun w => Launching n devices drivers fun m => w :: m.workers) (fun _ => False) :=
    Launching.launch_triple (fun _ hm => hm) (fun _ _ => rfl) (fun _ _ => rfl)
      fun m w _ _ _ v => List.mem_cons.trans Or.comm
  split
  · refine Triple.bind (hlaunch _) fun w => .modify fun m hm => hm.assigned rfl rfl
      (mem_workers_cons rfl rfl rfl fun v => ?_)
    simp [deviceWorkers, or_comm, or_left_comm]
  · refine Triple.bind (hlaunch _) fun w => .modify fun m hm => hm.assigned rfl rfl
      (mem_workers_cons rfl rfl rfl fun v => ?_)
    simp [deviceWorkers, or_left_comm]

theorem startWorkers_triple {env : StartEnv F} {config : Settings F}
    (h : WorkersStart env config devices drivers) :
    Triple (fun m => Launching n devices drivers coreWorkers m ∧ m.topicRefreshThread = none)
      (startWorkers env config) (fun _ => Launching n devices drivers workers) (fun _ => False) := by
  obtain ⟨x, hx, hstart⟩ := h.interval
  refine Triple.bind (startTopicRefreshThread_triple hx hstart) fun _ => ?_
  refine Triple.bind (startTopicResponder_triple h.responder) fun _ => ?_
  refine Triple.bind (Q := fun _ => Launching n devices drivers workers)
    (.modify fun m hm => hm.assigned rfl rfl fun v => ?_) fun _ => ?_
  · simp only [workers, coreWorkers, deviceWorkers, List.append_nil, List.map_nil, List.nil_append,
      List.mem_append]
    exact or_left_comm
  refine Triple.bind (Q := fun found m => found = devices ∧ Launching n devices drivers workers m)
    (.read fun m hm => ⟨hm.devices, hm⟩) fun found => .of_and fun hfound => ?_
  subst hfound
  exact Triple.forM fun device hdevice => startDevice_triple (h.device device hdevice)

-- ---------------------------------------------------------------------------
-- The invariant
-- ---------------------------------------------------------------------------

/-- The live threads are known and of the last start, and none lives without one. -/
structure Consistent (m : RuntimeManager F) : Prop where
  idle : m.running = false → m.live = [] ∧ m.topicRefreshThread = none
  tracked : ∀ w ∈ m.live, w ∈ m.workers ∧ w.startCall = m.startCalls
  started : m.running = true → ∀ w ∈ m.workers, w.started = true

/-- A start that has launched its publisher launches the rest. -/
def NoLateFault (env : StartEnv F) (healthIntervalS : Option Int) (runtimeLogEnabled : Option Bool)
    (m : RuntimeManager F) : Prop :=
  m.running = false →
    (∃ e t, startPublisher env (m.reset healthIntervalS runtimeLogEnabled) = (.error e, t)) ∨
      WorkersStart env (m.store.getSinkConfig none).config m.store.listDevices m.driverRegistry

omit [PyRuntime F] in
theorem Idle.consistent (h : Idle n devices drivers m) : Consistent m where
  idle _ := ⟨h.live, h.topicRefreshThread⟩
  tracked w hw := by simp [h.live] at hw
  started hrunning := by simp [h.running] at hrunning

theorem start_consistent {env : StartEnv F} {healthIntervalS : Option Int}
    {runtimeLogEnabled : Option Bool} (hm : Consistent m)
    (h : NoLateFault env healthIntervalS runtimeLogEnabled m) :
    Triple (fun s => s = m) (start env healthIntervalS runtimeLogEnabled) (fun _ => Consistent)
      (fun t => Consistent t ∧ t.running = false) := by
  refine Triple.bind (Q := fun running s => running = m.running ∧ s = m)
    (.read fun s hs => ⟨by rw [hs], hs⟩) fun running => .of_and fun hrunning => ?_
  cases hrun : m.running with
  | true =>
    rw [hrunning, hrun, if_pos rfl]
    exact .read fun s hs => hs ▸ hm
  | false =>
    rw [hrunning, hrun, if_neg Bool.false_ne_true]
    obtain ⟨hlive, hrefresh⟩ := hm.idle hrun
    have hidle : Idle (m.startCalls + 1) m.store.listDevices m.driverRegistry
        (m.reset healthIntervalS runtimeLogEnabled) := ⟨hrun, rfl, rfl, rfl, hlive, hrefresh⟩
    rcases h hrun with ⟨e, t, herror⟩ | hworkers
    · -- nothing is launched when the start raises before its publisher runs
      have ht := (startPublisher_triple env _ _ ⟨hidle, rfl⟩).2 e t herror
      have hraises : Triple (fun s => s = m.reset healthIntervalS runtimeLogEnabled)
          (startPublisher env) (fun _ _ => False) (fun t => Consistent t ∧ t.running = false) := by
        rintro s rfl
        rw [herror]
        constructor
        · intro _ _ h
          cases h
        · intro _ _ h
          cases h
          exact ⟨ht.consistent, ht.running⟩
      exact Triple.bind (.modify fun s hs => hs ▸ rfl) fun _ => Triple.bind hraises fun _ => .of_false
    · refine Triple.bind (Q := fun _ s => Idle (m.startCalls + 1) m.store.listDevices
        m.driverRegistry s ∧ s.store.getSinkConfig none = m.store.getSinkConfig none)
        (.modify fun s hs => ⟨hs ▸ hidle, by rw [hs]; rfl⟩) fun _ => ?_
      refine Triple.bind ((startPublisher_triple env _).weaken (fun _ hs => hs) (fun _ _ hs => hs)
        fun _ ht => ⟨ht.consistent, ht.running⟩) fun config => .of_and fun hconfig => ?_
      subst hconfig
      refine Triple.bind ((startWorkers_triple hworkers).weaken (fun _ hs => hs) (fun _ _ hs => hs)
        fun _ ht => ht.elim) fun _ => ?_
      refine Triple.bind (Q := fun _ => Consistent) (.modify fun s hs => ?_) fun _ => .read fun _ hs => hs
      refine ⟨fun h => ?_, fun w hw => ?_, fun _ => hs.started⟩
      · cases h
      · exact ⟨(hs.tracked w hw).1, (hs.tracked w hw).2.trans hs.startCalls.symm⟩

omit [PyRuntime F] in
theorem forM_join {ends : Worker → Bool} {ws : List Worker} (h : ∀ w ∈ ws, w.started = true)
    (m : RuntimeManager F) : forM ws (join ends) m =
      (.ok (), { m with live := m.live.filter fun w => !(decide (w ∈ ws) && ends w) }) := by
  induction ws generalizing m with
  | nil => simp [pure_apply]
  | cons w ws ih =>
    rw [List.forM_cons, bind_apply, join, if_pos (h w (by simp))]
    simp only [Fallible.modify]
    rw [ih fun v hv => h v (by simp [hv])]
    simp only [List.filter_filter, List.mem_cons]
    congr 3
    funext v
    rcases eq_or_ne v w with rfl | hv <;> cases ends v <;> simp [*]

omit [PyRuntime F] in
theorem stop_consistent {ends : Worker → Bool} (hm : Consistent m)
    (h : m.running = true → ∀ w ∈ m.live, ends w = true) : Consistent (stop ends m).2 := by
  cases hrun : m.running with
  | false =>
    have hsame : (stop ends m).2 = m := by
      simp [stop, bind_apply, Fallible.read, hrun]
    rw [hsame]
    exact hm
  | true =>
    have hstarted := hm.started hrun
    have hrefresh : ∀ w ∈ m.topicRefreshThread.toList, w.started = true := fun w hw =>
      hstarted w (List.mem_append_left _ hw)
    have hrest : ∀ w ∈ m.deviceWorkers ++ m.topicResponder.toList ++ m.publisherWorker,
        w.started = true := fun w hw => hstarted w (List.mem_append_right _ hw)
    have hstop : (stop ends m).2.running = false ∧ (stop ends m).2.topicRefreshThread = none ∧
        (stop ends m).2.live = (m.live.filter fun w =>
          !(decide (w ∈ m.topicRefreshThread.toList) && ends w)).filter fun w =>
            !(decide (w ∈ m.deviceWorkers ++ m.topicResponder.toList ++ m.publisherWorker) && ends w) := by
      simp only [deviceWorkers, publisherWorker] at hrest
      simp only [stop, bind_apply, Fallible.read, hrun, Bool.not_true, Bool.false_eq_true, if_false,
        setStop, Fallible.modify, deviceWorkers, publisherWorker, forM_join hrefresh,
        forM_join hrest]
      exact ⟨trivial, trivial, rfl⟩
    have hlive : (stop ends m).2.live = [] := by
      rw [hstop.2.2, List.filter_filter, List.filter_eq_nil_iff]
      intro w hw
      have hends := h hrun w hw
      rcases List.mem_append.mp (hm.tracked w hw).1 with hknown | hknown <;>
        simp only [hknown, hends, decide_true, Bool.true_and, Bool.not_true, Bool.and_false,
          Bool.false_and, Bool.false_eq_true, not_false_eq_true]
    exact ⟨fun _ => ⟨hlive, hstop.2.1⟩, by simp [hlive], by simp [hstop.1]⟩

-- ---------------------------------------------------------------------------
-- Runs
-- ---------------------------------------------------------------------------

/-- What happens to a manager: the configuration changes, `start` or `stop` is
called, the refresh thread does a round, or a thread ends by itself. -/
inductive Step (F : Type) where
  | configure (op : Operation F)
  | start (env : StartEnv F) (healthIntervalS : Option Int) (runtimeLogEnabled : Option Bool)
  | stop (ends : Worker → Bool)
  | refresh (resolver : TopicResolver F) (now : Int → String)
  | ended (worker : Worker)

def Step.run : Step F → RuntimeManager F → RuntimeManager F
  | .configure op, m => { m with store := op.run m.store }
  | .start env healthIntervalS runtimeLogEnabled, m =>
    (RuntimeManager.start env healthIntervalS runtimeLogEnabled m).2
  | .stop ends, m => (RuntimeManager.stop ends m).2
  | .refresh resolver now, m => (refreshDynamicRouteTopics resolver now m).2
  | .ended worker, m => { m with live := m.live.filter (· ≠ worker) }

/-- The managers that runs of allowed steps reach. -/
inductive Runs (allowed : Step F → RuntimeManager F → Prop) (store : ConfigStore F)
    (driverRegistry sinkRegistry : Registry) : RuntimeManager F → Prop
  | init : Runs allowed store driverRegistry sinkRegistry { store, driverRegistry, sinkRegistry }
  | step {m : RuntimeManager F} (step : Step F)
    (h : Runs allowed store driverRegistry sinkRegistry m) (hstep : allowed step m) :
    Runs allowed store driverRegistry sinkRegistry (step.run m)

/-- No start fails halfway, and the threads end within the `join`s of a stop. -/
def EndsWhatItStarts : Step F → RuntimeManager F → Prop
  | .start env healthIntervalS runtimeLogEnabled, m =>
    NoLateFault env healthIntervalS runtimeLogEnabled m
  | .stop ends, m => m.running = true → ∀ w ∈ m.live, ends w = true
  | _, _ => True

theorem Step.consistent {step : Step F} (hm : Consistent m) (h : EndsWhatItStarts step m) :
    Consistent (step.run m) := by
  cases step with
  | configure op => exact ⟨hm.idle, hm.tracked, hm.started⟩
  | start env healthIntervalS runtimeLogEnabled =>
    obtain ⟨hok, herror⟩ := start_consistent hm h m rfl
    rcases hstart : RuntimeManager.start env healthIntervalS runtimeLogEnabled m with ⟨e | a, t⟩
    · rw [Step.run, hstart]
      exact (herror e t hstart).1
    · rw [Step.run, hstart]
      exact hok a t hstart
  | stop ends => exact stop_consistent hm h
  | refresh resolver now =>
    have hsame := sameThreads_of_steps (refreshDynamicRouteTopics_steps resolver now) m
    refine ⟨fun hrun => ?_, fun w hw => ?_, fun hrun w hw => ?_⟩
    · obtain ⟨hlive, hrefresh⟩ := hm.idle (hsame.running ▸ hrun)
      exact ⟨hsame.live.trans hlive, hsame.topicRefreshThread.trans hrefresh⟩
    · obtain ⟨hknown, hcall⟩ := hm.tracked w (hsame.live ▸ hw)
      exact ⟨hsame.workers.symm ▸ hknown, hcall.trans hsame.startCalls.symm⟩
    · exact hm.started (hsame.running ▸ hrun) w (hsame.workers ▸ hw)
  | ended worker =>
    refine ⟨fun hrun => ?_, fun w hw => hm.tracked w (List.mem_of_mem_filter hw), hm.started⟩
    obtain ⟨hlive, hrefresh⟩ := hm.idle hrun
    exact ⟨by rw [Step.run, hlive, List.filter_nil], hrefresh⟩

theorem Runs.consistent {store : ConfigStore F} {driverRegistry sinkRegistry : Registry}
    (h : Runs EndsWhatItStarts store driverRegistry sinkRegistry m) : Consistent m := by
  induction h with
  | init => exact ⟨fun _ => ⟨rfl, rfl⟩, by simp, fun h => by cases h⟩
  | step step _ hstep ih => exact step.consistent ih hstep

/-- No thread lives while the manager is not running, and the live threads come
from one call of `start`. -/
structure AllOrNothing (m : RuntimeManager F) : Prop where
  idle : m.running = false → m.live = []
  oneSet : ∀ w ∈ m.live, ∀ v ∈ m.live, w.startCall = v.startCall

/-- In runs without a start that fails halfway and without a thread that outlives
its `join`, starts are all or nothing. -/
theorem start_allOrNothing {store : ConfigStore F} {driverRegistry sinkRegistry : Registry}
    (h : Runs EndsWhatItStarts store driverRegistry sinkRegistry m) :
    AllOrNothing m ∧ ∀ env healthIntervalS runtimeLogEnabled e t,
      NoLateFault env healthIntervalS runtimeLogEnabled m →
        start env healthIntervalS runtimeLogEnabled m = (.error e, t) → t.live = [] := by
  have hm := h.consistent
  refine ⟨⟨fun hrun => (hm.idle hrun).1, fun w hw v hv => ?_⟩, ?_⟩
  · exact (hm.tracked w hw).2.trans (hm.tracked v hv).2.symm
  · intro env healthIntervalS runtimeLogEnabled e t hfault hstart
    obtain ⟨ht, hrun⟩ := (start_consistent hm hfault m rfl).2 e t hstart
    exact (ht.idle hrun).1

def storeWith (driverType : String) : ConfigStore WholeFloat :=
  ConfigStore.initialized.insertDevice ⟨"", "plc", driverType, true, 1000, ∅⟩

def managerWith (driverType : String) : RuntimeManager WholeFloat where
  store := storeWith driverType
  driverRegistry := defaultDriverRegistry
  sinkRegistry := defaultSinkRegistry

theorem plc_started_and_stopped : AllOrNothing ((Step.stop fun _ => true).run
    ((Step.start {} none none).run (managerWith "modbus_tcp"))) := by
  refine (start_allOrNothing (.step _ (.step _ .init ?_) ?_)).1
  · intro _
    refine .inr ⟨⟨⟨300⟩, by decide +kernel, fun _ => rfl⟩, fun h => ?_, ?_⟩
    · cases h
    · have hdevices : ∀ device ∈ (storeWith "modbus_tcp").listDevices,
          device.driverType = "modbus_tcp" := by decide +kernel
      intro device hdevice _
      rw [hdevices device hdevice]
      exact ⟨⟨"ModbusTcpDriver", by decide +kernel⟩, rfl, rfl⟩
  · exact fun _ _ _ => rfl

def startedUnknown : RuntimeManager WholeFloat :=
  (Step.start {} none none).run (managerWith "siemens_s7")

/-- An unregistered driver type leaves the publisher and the refresh thread. -/
theorem unknown_driver_leaves_publisher :
    ¬ ∀ m : RuntimeManager WholeFloat, Runs (fun _ _ => True) (storeWith "siemens_s7")
      defaultDriverRegistry defaultSinkRegistry m → AllOrNothing m := by
  intro h
  have hall := h startedUnknown (.step _ .init trivial)
  have hrun : startedUnknown.running = false := by decide +kernel
  have hlive : startedUnknown.live.map Worker.role = [.publisher, .topicRefresh] := by
    decide +kernel
  rw [hall.idle hrun] at hlive
  cases hlive

end RuntimeManager

end IndustrialGateway
