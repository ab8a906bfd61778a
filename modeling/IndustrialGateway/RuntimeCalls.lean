import IndustrialGateway.RuntimeRuns

/-!
# Calls of the manager, step by step

`start` and `stop` hold the lock from their first to their last line, but the
threads of this start and of earlier ones go on meanwhile. A call is cut where
it touches what they touch too: the stop event of the refresh loops, the queues,
the runtime tags and the threads. Alone, the steps of a call are the method.
-/

namespace IndustrialGateway

open Fallible RuntimeManager

variable {F : Type} [PyRuntime F]

/-- Where a call stands; the next step is the one that the constructor names. -/
inductive ManagerCall (F : Type) where
  | idle
  | starting (env : StartEnv F) (healthIntervalS : Option Int) (runtimeLogEnabled : Option Bool)
  | clearingStop (env : StartEnv F)
  | clearingResults (env : StartEnv F)
  | clearingStatuses (env : StartEnv F)
  | initialisingTags (env : StartEnv F)
  | startingPublisher (env : StartEnv F)
  | startingRefresh (env : StartEnv F) (config : Settings F)
  | startingResponder (env : StartEnv F)
  | startingDevices (env : StartEnv F) (devices : List (DeviceSpec F))
  | stopping
  | settingStop
  | joiningRefresh
  | stoppingPublisher
  | joining (workers : List Worker)
  | returned (snapshot : RuntimeSnapshot F)
  | raised (e : PyException)

namespace ManagerCall

/-- The lock is free. -/
def finished : ManagerCall F → Bool
  | idle | returned _ | raised _ => true
  | _ => false

/-- A join runs into its time-out when the thread has not ended before. -/
def step : ManagerCall F → ManagerAct F (ManagerCall F)
  | starting env healthIntervalS runtimeLogEnabled => do
    if ← .read running then return returned (← .read snapshot)
    .modify fun m => { m with
      healthIntervalS := healthIntervalS.getD m.healthIntervalS
      runtimeLogEnabled := runtimeLogEnabled.getD m.runtimeLogEnabled
      startCalls := m.startCalls + 1 }
    return clearingStop env
  | clearingStop env => do
    .modify fun m => { m with topicRefreshStop := false }
    return clearingResults env
  | clearingResults env => do
    .modify fun m => { m with resultQueue := .empty }
    return clearingStatuses env
  | clearingStatuses env => do
    .modify fun m => { m with statusQueue := m.statusQueue.clear }
    return initialisingTags env
  | initialisingTags env => do
    .modify fun m => { m with runtimeTags := initialRuntimeTags m.store, serverStatuses := ∅ }
    return startingPublisher env
  | startingPublisher env => do
    return startingRefresh env (← RuntimeManager.startPublisher env).config
  | startingRefresh env config => do
    startTopicRefreshThread env config
    return startingResponder env
  | startingResponder env => do
    startTopicResponder env
    .modify fun m => { m with pollers := [], subscriptionWorkers := [] }
    return startingDevices env (← .read fun m => m.store.listDevices)
  | startingDevices env (device :: devices) => do
    startDevice env device
    return startingDevices env devices
  | startingDevices _ [] => do
    .modify fun m => { m with running := true }
    return returned (← .read snapshot)
  | stopping => do
    if !(← .read running) then return returned (← .read snapshot)
    setStop fun m => m.deviceWorkers ++ m.topicResponder.toList
    return settingStop
  | settingStop => do
    .modify fun m => { m with topicRefreshStop := true }
    return joiningRefresh
  | joiningRefresh => do
    forM (← .read fun m => m.topicRefreshThread.toList) (join fun _ => false)
    .modify fun m => { m with topicRefreshThread := none }
    return stoppingPublisher
  | stoppingPublisher => do
    setStop publisherWorker
    return joining
      (← .read fun m => m.deviceWorkers ++ m.topicResponder.toList ++ m.publisherWorker)
  | joining (worker :: workers) => do
    join (fun _ => false) worker
    return joining workers
  | joining [] => do
    .modify fun m => { m with running := false }
    return returned (← .read snapshot)
  | call => return call

def ofOutcome : Except PyException (RuntimeSnapshot F) → ManagerCall F
  | .ok snapshot => returned snapshot
  | .error e => raised e

end ManagerCall

/-- The manager with the call that holds its lock. -/
structure Runtime (F : Type) where
  manager : RuntimeManager F
  call : ManagerCall F := .idle

namespace Runtime

/-- The next step of the call. -/
def proceed (r : Runtime F) : Runtime F :=
  match r.call.step r.manager with
  | (.ok call, manager) => ⟨manager, call⟩
  | (.error e, manager) => ⟨manager, .raised e⟩

/-- A call that takes the lock when it is free. -/
def request (call : ManagerCall F) (r : Runtime F) : Runtime F :=
  if r.call.finished then { r with call } else r

/-- Steps with nothing between them. -/
def Alone : Runtime F → Runtime F → Prop := Relation.ReflTransGen fun r t => t = r.proceed

/-- The outcome of a method. -/
def after (method : ManagerAct F (RuntimeSnapshot F)) (m : RuntimeManager F) : Runtime F :=
  ⟨(method m).2, .ofOutcome (method m).1⟩

/-- A step and the rest of a method. -/
theorem alone_bind {α : Type} {call : ManagerCall F} {act : ManagerAct F α}
    {next : α → ManagerCall F} {rest : α → ManagerAct F (RuntimeSnapshot F)}
    (hstep : call.step = act >>= fun a => pure (next a)) (m : RuntimeManager F)
    (hrest : ∀ a t, act m = (.ok a, t) → Alone ⟨t, next a⟩ (after (rest a) t)) :
    Alone ⟨m, call⟩ (after (act >>= rest) m) := by
  have hproceed : (Runtime.mk m call).proceed = match act m with
      | (.ok a, t) => ⟨t, next a⟩
      | (.error e, t) => ⟨t, .raised e⟩ := by
    rw [proceed, hstep, bind_apply]
    rcases act m with ⟨e | a, t⟩ <;> rfl
  rw [after, bind_apply]
  rcases hact : act m with ⟨e | a, t⟩
  · rw [hact] at hproceed
    exact .head hproceed.symm .refl
  · rw [hact] at hproceed
    exact .head hproceed.symm (hrest a t hact)

theorem alone_devices (env : StartEnv F) (devices : List (DeviceSpec F)) (m : RuntimeManager F) :
    Alone ⟨m, .startingDevices env devices⟩ (after (do
      forM devices (startDevice env)
      .modify fun m => { m with running := true }
      .read snapshot) m) := by
  induction devices generalizing m with
  | nil => exact .head rfl .refl
  | cons device devices ih =>
    rw [List.forM_cons, bind_assoc]
    exact alone_bind rfl m fun _ t _ => ih t

/-- Alone, the steps of a start are `start`. -/
theorem alone_start (env : StartEnv F) (healthIntervalS : Option Int)
    (runtimeLogEnabled : Option Bool) (m : RuntimeManager F) :
    Alone ⟨m, .starting env healthIntervalS runtimeLogEnabled⟩
      (after (start env healthIntervalS runtimeLogEnabled) m) := by
  cases hrunning : m.running with
  | true =>
    have hstart : start env healthIntervalS runtimeLogEnabled m = (.ok m.snapshot, m) := by
      rw [start, read_bind, hrunning]
      rfl
    rw [after, hstart]
    refine .head ?_ .refl
    rw [proceed, ManagerCall.step, read_bind, hrunning]
    rfl
  | false =>
    have hstart : start env healthIntervalS runtimeLogEnabled m = ((do
        let config := (← RuntimeManager.startPublisher env).config
        startTopicRefreshThread env config
        startTopicResponder env
        .modify fun m => { m with pollers := [], subscriptionWorkers := [] }
        forM (← .read fun m => m.store.listDevices) (startDevice env)
        .modify fun m => { m with running := true }
        .read snapshot) : ManagerAct F (RuntimeSnapshot F))
          (reset healthIntervalS runtimeLogEnabled m) := by
      rw [start, read_bind, if_neg (by simp [hrunning])]
      simp only [startWorkers, bind_assoc]
      rfl
    have hproceed : (Runtime.mk m (.starting env healthIntervalS runtimeLogEnabled)).proceed =
        ⟨{ m with
          healthIntervalS := healthIntervalS.getD m.healthIntervalS
          runtimeLogEnabled := runtimeLogEnabled.getD m.runtimeLogEnabled
          startCalls := m.startCalls + 1 }, .clearingStop env⟩ := by
      rw [proceed, ManagerCall.step, read_bind, if_neg (by simp [hrunning])]
      rfl
    rw [after, hstart]
    refine .head hproceed.symm (.head rfl (.head rfl (.head rfl (.head rfl ?_))))
    refine alone_bind rfl _ fun sinkConfig t _ => ?_
    refine alone_bind rfl _ fun _ t _ => ?_
    have hresponder : (ManagerCall.startingResponder env).step =
        (startTopicResponder env >>= fun _ =>
          .modify (fun m => { m with pollers := [], subscriptionWorkers := [] }) >>= fun _ =>
            .read fun m => m.store.listDevices) >>= fun devices =>
              pure (.startingDevices env devices) := by
      simp only [ManagerCall.step, bind_assoc]
    have halone := alone_bind hresponder t fun devices t _ => alone_devices env devices t
    simpa only [bind_assoc] using halone

theorem alone_joining (workers : List Worker) (m : RuntimeManager F) :
    Alone ⟨m, .joining workers⟩ (after (do
      forM workers (join fun _ => false)
      .modify fun m => { m with running := false }
      .read snapshot) m) := by
  induction workers generalizing m with
  | nil => exact .head rfl .refl
  | cons worker workers ih =>
    rw [List.forM_cons, bind_assoc]
    exact alone_bind rfl m fun _ t _ => ih t

/-- Alone, the steps of a stop are `stop` with threads that do not end in time. -/
theorem alone_stop (m : RuntimeManager F) :
    Alone ⟨m, .stopping⟩ (after (stop fun _ => false) m) := by
  cases hrunning : m.running with
  | false =>
    have hstop : stop (fun _ => false) m = (.ok m.snapshot, m) := by
      rw [stop, read_bind, hrunning]
      rfl
    rw [after, hstop]
    refine .head ?_ .refl
    rw [proceed, ManagerCall.step, read_bind, hrunning]
    rfl
  | true =>
    have hstop : stop (fun _ => false) m = ((do
        forM (← .read fun m => m.topicRefreshThread.toList) (join fun _ => false)
        .modify fun m => { m with topicRefreshThread := none }
        setStop publisherWorker
        forM (← .read fun m => m.deviceWorkers ++ m.topicResponder.toList ++ m.publisherWorker)
          (join fun _ => false)
        .modify fun m => { m with running := false }
        .read snapshot) : ManagerAct F (RuntimeSnapshot F))
          { m with
            stopEvents := m.stopEvents ++ (m.deviceWorkers ++ m.topicResponder.toList)
            topicRefreshStop := true } := by
      rw [stop, read_bind, if_neg (by simp [hrunning])]
      rfl
    have hproceed : (Runtime.mk m .stopping).proceed =
        ⟨{ m with stopEvents := m.stopEvents ++ (m.deviceWorkers ++ m.topicResponder.toList) },
          .settingStop⟩ := by
      rw [proceed, ManagerCall.step, read_bind, if_neg (by simp [hrunning])]
      rfl
    rw [after, hstop]
    refine .head hproceed.symm (.head rfl ?_)
    have hjoin : (ManagerCall.joiningRefresh : ManagerCall F).step =
        (.read (fun m => m.topicRefreshThread.toList) >>= fun threads =>
          forM threads (join fun _ => false) >>= fun _ =>
            .modify fun m => { m with topicRefreshThread := none }) >>= fun _ =>
              pure .stoppingPublisher := by
      simp only [ManagerCall.step, bind_assoc]
    have hrest : ∀ t : RuntimeManager F, Alone ⟨t, .stoppingPublisher⟩ (after (do
        setStop publisherWorker
        forM (← .read fun m => m.deviceWorkers ++ m.topicResponder.toList ++ m.publisherWorker)
          (join fun _ => false)
        .modify fun m => { m with running := false }
        .read snapshot) t) := fun t => .head rfl (alone_joining _ _)
    have halone := alone_bind hjoin { m with
        stopEvents := m.stopEvents ++ (m.deviceWorkers ++ m.topicResponder.toList)
        topicRefreshStop := true } fun _ t _ => hrest t
    simp only [bind_assoc] at halone
    exact halone

end Runtime

-- ---------------------------------------------------------------------------
-- What a step can do
-- ---------------------------------------------------------------------------

/-- What the loops and the queues go by. -/
def RuntimeManager.shared (m : RuntimeManager F) : (List Worker × List Worker × Nat × Nat) ×
    Bool × Bool × LatestReadResultQueue F × LatestStatusQueue :=
  ((m.live, m.stopEvents, m.startCalls, m.nextIdent), m.running, m.topicRefreshStop, m.resultQueue,
    m.statusQueue)

/-- New threads of the roles were launched and stop events of threads set, and
that is all that the loops and the queues see. -/
structure Launches (roles : WorkerRole → Prop) (m t : RuntimeManager F) : Prop where
  live : ∃ new, t.live = m.live ++ new ∧ ∀ w ∈ new, roles w.role ∧ w.startCall = m.startCalls
  stopEvents : m.stopEvents ⊆ t.stopEvents
  startCalls : t.startCalls = m.startCalls
  nextIdent : m.nextIdent ≤ t.nextIdent
  rest : t.shared.2 = m.shared.2

namespace Launches

variable {roles : WorkerRole → Prop} {m t u : RuntimeManager F}

omit [PyRuntime F] in
theorem of_shared (h : t.shared = m.shared) : Launches roles m t := by
  simp only [shared, Prod.mk.injEq] at h
  obtain ⟨⟨hlive, hstop, hstart, hident⟩, hrest⟩ := h
  exact ⟨⟨[], by rw [hlive, List.append_nil], nofun⟩, hstop ▸ fun _ h => h, hstart, hident.ge,
    by simpa only [shared, Prod.mk.injEq] using hrest⟩

omit [PyRuntime F] in
theorem refl (m : RuntimeManager F) : Launches roles m m := of_shared rfl

omit [PyRuntime F] in
theorem trans (h : Launches roles m t) (h' : Launches roles t u) : Launches roles m u := by
  obtain ⟨new, hnew, hroles⟩ := h.live
  obtain ⟨new', hnew', hroles'⟩ := h'.live
  refine ⟨⟨new ++ new', by rw [hnew', hnew, List.append_assoc], fun w hw => ?_⟩,
    fun _ hw => h'.stopEvents (h.stopEvents hw), h'.startCalls.trans h.startCalls,
    h.nextIdent.trans h'.nextIdent, h'.rest.trans h.rest⟩
  rcases List.mem_append.mp hw with hw | hw
  · exact hroles w hw
  · rw [← h.startCalls]
    exact hroles' w hw

omit [PyRuntime F] in
theorem of_steps {α : Type} {act : ManagerAct F α} (h : Steps (Launches roles) act)
    (m : RuntimeManager F) : Launches roles m (act m).2 :=
  h.keeps (fun _ _ hstep h => h.trans hstep) (.refl m)

omit [PyRuntime F] in
theorem launch {role : WorkerRole} {raised : Option PyException}
    {assign : Worker → RuntimeManager F → RuntimeManager F} (hrole : roles role)
    (hassign : ∀ w m, (assign w m).shared = m.shared) :
    Steps (Launches roles) (RuntimeManager.launch role raised assign) := by
  intro m
  have hident : Launches roles m { m with nextIdent := m.nextIdent + 1 } :=
    ⟨⟨[], (List.append_nil _).symm, nofun⟩, fun _ h => h, rfl, Nat.le_succ _, rfl⟩
  have hnew := hident.trans (of_shared (hassign (m.newWorker role raised) _))
  cases raised with
  | some e => exact .single hnew
  | none =>
    have hlive (t : RuntimeManager F) (hstart : t.startCalls = m.startCalls) :
        Launches roles t { t with live := t.live ++ [m.newWorker role none] } := by
      refine ⟨⟨_, rfl, fun w hw => ?_⟩, fun _ h => h, rfl, le_rfl, rfl⟩
      obtain rfl := List.mem_singleton.mp hw
      exact ⟨hrole, hstart.symm⟩
    exact .single (hnew.trans (hlive _ hnew.startCalls))

omit [PyRuntime F] in
theorem setStop (workers : RuntimeManager F → List Worker) :
    Steps (Launches roles) (RuntimeManager.setStop workers) :=
  .modify fun _ => ⟨⟨[], (List.append_nil _).symm, nofun⟩, fun _ h => List.mem_append_left _ h, rfl,
    le_rfl, rfl⟩

omit [PyRuntime F] in
theorem join (worker : Worker) :
    Steps (Launches roles) (RuntimeManager.join (F := F) (fun _ => false) worker) := by
  unfold RuntimeManager.join
  split
  · exact .modify fun m => of_shared (by simp [shared])
  · exact (ReadOnly.raise _).steps

omit [PyRuntime F] in
theorem joins (workers : List Worker) :
    Steps (Launches roles) (ForM.forM workers (RuntimeManager.join (F := F) fun _ => false)) := by
  induction workers with
  | nil => exact (ReadOnly.pure _).steps
  | cons worker workers ih =>
    rw [List.forM_cons]
    exact (join worker).bind fun _ _ _ _ => ih

theorem newOutputRoutes : Steps (Launches roles) (RuntimeManager.newOutputRoutes : ManagerAct F _) := by
  refine (ReadOnly.read _).steps.bind fun _ _ _ _ => ?_
  refine (ReadOnly.lift _).steps.bind fun routes _ _ _ => ?_
  exact Steps.bind (.modify fun _ => of_shared rfl) fun _ _ _ _ => (ReadOnly.pure _).steps

theorem refreshDynamicRouteTopics (resolver : ConfigService.TopicResolver F) (now : Int → String) :
    Steps (Launches roles) (RuntimeManager.refreshDynamicRouteTopics resolver now) := by
  refine Steps.bind (fun m => .single (of_shared rfl)) fun _ _ _ _ => ?_
  refine (ReadOnly.read _).steps.bind fun hasPublisher _ _ _ => ?_
  split
  · exact newOutputRoutes.bind fun routes _ _ _ => .modify fun _ => of_shared rfl
  · exact (ReadOnly.pure _).steps

theorem startPublisher (env : StartEnv F) (hrole : roles .publisher) :
    Steps (Launches roles) (RuntimeManager.startPublisher env) := by
  refine (ReadOnly.read _).steps.bind fun sinkConfig _ _ _ => ?_
  refine Steps.bind ?_ fun _ _ _ _ => ?_
  · unfold requestTopicsOnStart
    split
    · exact refreshDynamicRouteTopics _ _
    · exact (ReadOnly.pure _).steps
  refine (ReadOnly.read _).steps.bind fun found _ _ _ => ?_
  refine (ReadOnly.lift _).steps.bind fun sinkClass _ _ _ => ?_
  refine (ReadOnly.raiseIf _).steps.bind fun _ _ _ _ => ?_
  refine (ReadOnly.lift _).steps.bind fun qos _ _ _ => ?_
  refine newOutputRoutes.bind fun routes _ _ _ => ?_
  refine (ReadOnly.lift _).steps.bind fun _ _ _ _ => ?_
  refine (ReadOnly.lift _).steps.bind fun _ _ _ _ => ?_
  refine (ReadOnly.raiseIf _).steps.bind fun _ _ _ _ => ?_
  exact Steps.bind (launch hrole fun _ _ => rfl) fun _ _ _ _ => (ReadOnly.pure _).steps

omit [PyRuntime F] in
theorem startTopicResponder (env : StartEnv F) (hrole : roles .topicResponder) :
    Steps (Launches roles) (RuntimeManager.startTopicResponder env) := by
  refine Steps.bind (.modify fun _ => of_shared rfl) fun _ _ _ _ => ?_
  split
  · exact (ReadOnly.pure _).steps
  refine (ReadOnly.raiseIf _).steps.bind fun _ _ _ _ => ?_
  exact Steps.bind (launch hrole fun _ _ => rfl) fun _ _ _ _ => (ReadOnly.pure _).steps

theorem startDevice (env : StartEnv F) (device : DeviceSpec F) (hpoller : roles .poller)
    (hworker : roles .subscriptionWorker) :
    Steps (Launches roles) (RuntimeManager.startDevice env device) := by
  unfold RuntimeManager.startDevice
  split
  · exact (ReadOnly.pure _).steps
  refine (ReadOnly.read _).steps.bind fun _ _ _ _ => ?_
  refine (ReadOnly.lift _).steps.bind fun driverClass _ _ _ => ?_
  refine (ReadOnly.read _).steps.bind fun tags _ _ _ => ?_
  refine (ReadOnly.raiseIf _).steps.bind fun _ _ _ _ => ?_
  split
  · exact Steps.bind (launch hworker fun _ _ => rfl) fun _ _ _ _ => .modify fun _ => of_shared rfl
  · exact Steps.bind (launch hpoller fun _ _ => rfl) fun _ _ _ _ => .modify fun _ => of_shared rfl

end Launches

namespace ManagerCall

/-- The steps that set or clear something which the loops or the queues go by. -/
def marks : ManagerCall F → Bool
  | starting .. | clearingStop _ | clearingResults _ | clearingStatuses _ | startingRefresh .. => true
  | startingDevices _ [] | settingStop | joining [] => true
  | _ => false

/-- The other steps launch no loop and leave the rest as it is. -/
theorem launches {call : ManagerCall F} (h : call.marks = false) :
    Steps (Launches (· ≠ .topicRefresh)) call.step := by
  cases call with
  | idle => exact (ReadOnly.pure _).steps
  | returned snapshot => exact (ReadOnly.pure _).steps
  | raised e => exact (ReadOnly.pure _).steps
  | initialisingTags env =>
    exact Steps.bind (.modify fun _ => .of_shared rfl) fun _ _ _ _ => (ReadOnly.pure _).steps
  | startingPublisher env =>
    exact (Launches.startPublisher env (by decide)).bind fun _ _ _ _ => (ReadOnly.pure _).steps
  | startingResponder env =>
    refine (Launches.startTopicResponder env (by decide)).bind fun _ _ _ _ => ?_
    refine Steps.bind (.modify fun _ => .of_shared rfl) fun _ _ _ _ => ?_
    exact ((ReadOnly.read _).bind fun _ => .pure _).steps
  | startingDevices env devices =>
    cases devices with
    | nil => cases h
    | cons device devices =>
      exact (Launches.startDevice env device (by decide) (by decide)).bind fun _ _ _ _ =>
        (ReadOnly.pure _).steps
  | stopping =>
    refine (ReadOnly.read _).steps.bind fun running _ _ _ => ?_
    split
    · exact ((ReadOnly.read _).bind fun _ => .pure _).steps
    · exact (Launches.setStop _).bind fun _ _ _ _ => (ReadOnly.pure _).steps
  | joiningRefresh =>
    refine (ReadOnly.read _).steps.bind fun threads _ _ _ => ?_
    refine (Launches.joins threads).bind fun _ _ _ _ => ?_
    exact Steps.bind (.modify fun _ => .of_shared rfl) fun _ _ _ _ => (ReadOnly.pure _).steps
  | stoppingPublisher =>
    exact (Launches.setStop _).bind fun _ _ _ _ => ((ReadOnly.read _).bind fun _ => .pure _).steps
  | joining workers =>
    cases workers with
    | nil => cases h
    | cons worker workers =>
      exact (Launches.join worker).bind fun _ _ _ _ => (ReadOnly.pure _).steps
  | _ => cases h

/-- Where a call may stand after the step. -/
def Follows : ManagerCall F → ManagerCall F → Prop
  | starting env _ _, next => next = clearingStop env ∨ ∃ snapshot, next = returned snapshot
  | clearingStop env, next => next = clearingResults env
  | clearingResults env, next => next = clearingStatuses env
  | clearingStatuses env, next => next = initialisingTags env
  | initialisingTags env, next => next = startingPublisher env
  | startingPublisher env, next => ∃ config, next = startingRefresh env config
  | startingRefresh env _, next => next = startingResponder env
  | startingResponder env, next => ∃ devices, next = startingDevices env devices
  | startingDevices env (_ :: devices), next => next = startingDevices env devices
  | startingDevices _ [], next => ∃ snapshot, next = returned snapshot
  | stopping, next => next = settingStop ∨ ∃ snapshot, next = returned snapshot
  | settingStop, next => next = joiningRefresh
  | joiningRefresh, next => next = stoppingPublisher
  | stoppingPublisher, next => ∃ workers, next = joining workers
  | joining (_ :: workers), next => next = joining workers
  | joining [], next => ∃ snapshot, next = returned snapshot
  | call, next => next = call

theorem follows {call next : ManagerCall F} {m t : RuntimeManager F}
    (h : call.step m = (.ok next, t)) : call.Follows next := by
  cases call with
  | starting env healthIntervalS runtimeLogEnabled =>
    rw [step, read_bind] at h
    split at h
    · cases h
      exact .inr ⟨_, rfl⟩
    · cases h
      exact .inl rfl
  | stopping =>
    rw [step, read_bind] at h
    split at h
    · cases h
      exact .inr ⟨_, rfl⟩
    · cases h
      exact .inl rfl
  | startingPublisher env =>
    obtain ⟨sinkConfig, u, -, h⟩ := Fallible.bind_eq_ok.mp h
    cases h
    exact ⟨_, rfl⟩
  | startingRefresh env config =>
    obtain ⟨_, u, -, h⟩ := Fallible.bind_eq_ok.mp h
    cases h
    rfl
  | startingResponder env =>
    obtain ⟨_, u, -, h⟩ := Fallible.bind_eq_ok.mp h
    cases h
    exact ⟨_, rfl⟩
  | startingDevices env devices =>
    cases devices with
    | nil =>
      cases h
      exact ⟨_, rfl⟩
    | cons device devices =>
      obtain ⟨_, u, -, h⟩ := Fallible.bind_eq_ok.mp h
      cases h
      rfl
  | joiningRefresh =>
    rw [step, read_bind] at h
    obtain ⟨_, u, -, h⟩ := Fallible.bind_eq_ok.mp h
    cases h
    rfl
  | stoppingPublisher =>
    cases h
    exact ⟨_, rfl⟩
  | joining workers =>
    cases workers with
    | nil =>
      cases h
      exact ⟨_, rfl⟩
    | cons worker workers =>
      obtain ⟨_, u, -, h⟩ := Fallible.bind_eq_ok.mp h
      cases h
      rfl
  | _ =>
    cases h
    rfl

end ManagerCall

end IndustrialGateway
