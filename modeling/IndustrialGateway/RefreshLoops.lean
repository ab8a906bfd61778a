import IndustrialGateway.Lib.Runs
import IndustrialGateway.RuntimeCalls

/-!
# Refresh loops

The loops that refresh the topics while starts and stops come and go. All loops
look at one stop event, and only between two refreshes: `stop` sets it and the
next `start` clears it. A loop that is still refreshing at that point misses it.
-/

namespace IndustrialGateway

open ConfigService Fallible RuntimeManager

variable {F : Type} [PyRuntime F]

-- ---------------------------------------------------------------------------
-- Steps
-- ---------------------------------------------------------------------------

/-- Where a loop stands. One that was woken from its wait by the stop event ends,
whatever becomes of the event. -/
inductive LoopPhase where
  | checking
  | waiting
  | woken
  | refreshing
  deriving DecidableEq, Repr

/-- The threads of the refresh loops. -/
def RuntimeManager.loops (m : RuntimeManager F) : List Worker :=
  m.live.filter fun worker => worker.role = .topicRefresh

/-- A runtime with its loops, and the loops that were there when a stop returned. -/
structure RefreshRuntime (F : Type) extends Runtime F where
  phase : Worker → LoopPhase := fun _ => .checking
  stopped : List Worker := []

inductive RefreshEvent (F : Type) where
  | start (env : StartEnv F) (healthIntervalS : Option Int) (runtimeLogEnabled : Option Bool)
  | stop
  | proceed
  | configure (store : ConfigStore F)
  | loop (worker : Worker) (resolver : TopicResolver F) (now : Int → String)

namespace RefreshRuntime

def loops (r : RefreshRuntime F) : List Worker := r.manager.loops

def setPhase (r : RefreshRuntime F) (worker : Worker) (phase : LoopPhase) : RefreshRuntime F :=
  { r with phase := Function.update r.phase worker phase }

def endLoop (r : RefreshRuntime F) (worker : Worker) : RefreshRuntime F :=
  { r with manager := { r.manager with live := r.manager.live.filter fun w => w ≠ worker } }

/-- The next step of a loop; a wait ends with its time-out. -/
def stepLoop (resolver : TopicResolver F) (now : Int → String) (worker : Worker)
    (r : RefreshRuntime F) : RefreshRuntime F :=
  match r.phase worker with
  | .checking =>
    if r.manager.topicRefreshStop then r.endLoop worker else r.setPhase worker .waiting
  | .waiting => r.setPhase worker .refreshing
  | .woken => r.endLoop worker
  | .refreshing =>
    match refreshDynamicRouteTopics resolver now r.manager with
    | (.ok _, manager) => { r with manager }.setPhase worker .checking
    | (.error _, manager) => { r with manager }.endLoop worker

def wake : LoopPhase → LoopPhase
  | .waiting => .woken
  | phase => phase

/-- The next step of the call is the return of a stop. -/
def stopReturns (r : RefreshRuntime F) : Bool :=
  match r.call with
  | .stopping => !r.manager.running
  | .joining [] => true
  | _ => false

/-- The next step of the call; the event that it sets wakes the loops that wait. -/
def proceed (r : RefreshRuntime F) : RefreshRuntime F where
  toRuntime := r.toRuntime.proceed
  phase := match r.call with
    | .settingStop => fun worker => wake (r.phase worker)
    | _ => r.phase
  stopped := if r.stopReturns then r.stopped ++ r.loops else r.stopped

def step (r : RefreshRuntime F) : RefreshEvent F → RefreshRuntime F
  | .start env healthIntervalS runtimeLogEnabled =>
    { r with toRuntime := r.request (.starting env healthIntervalS runtimeLogEnabled) }
  | .stop => { r with toRuntime := r.request .stopping }
  | .proceed => r.proceed
  | .configure store => { r with manager := { r.manager with store } }
  | .loop worker resolver now =>
    if worker ∈ r.loops then r.stepLoop resolver now worker else r

/-- A manager before its first start. -/
def fresh (store : ConfigStore F) (driverRegistry sinkRegistry : Registry) : RefreshRuntime F where
  manager := { store, driverRegistry, sinkRegistry }

/-- A loop that was there when a stop returned ends once it is out of its refresh,
and there is at most one other loop. -/
structure AtMostOneLoop (r : RefreshRuntime F) : Prop where
  ends : ∀ worker ∈ r.stopped, r.phase worker ≠ .refreshing →
    ∀ resolver now, worker ∉ (r.step (.loop worker resolver now)).loops
  one : ∀ w ∈ r.loops, ∀ w' ∈ r.loops, w ∉ r.stopped → w' ∉ r.stopped → w = w'

-- ---------------------------------------------------------------------------
-- The condition
-- ---------------------------------------------------------------------------

/-- Every loop that is still there has been woken. -/
def AllWoken (r : RefreshRuntime F) : Prop := ∀ worker ∈ r.loops, r.phase worker = .woken

/-- The event is cleared or a stop returns at once. -/
def leavesLoops (r : RefreshRuntime F) : Bool :=
  match r.call with
  | .clearingStop _ => true
  | .stopping => !r.manager.running
  | _ => false

/-- Only woken loops are left where a step would leave the others to go on. -/
def Clear (r : RefreshRuntime F) : RefreshEvent F → Prop
  | .proceed => r.leavesLoops = true → r.AllWoken
  | _ => True

instance decidableClear (r : RefreshRuntime F) : ∀ event, Decidable (r.Clear event)
  | .proceed =>
    inferInstanceAs (Decidable (r.leavesLoops = true → ∀ w ∈ r.loops, r.phase w = .woken))
  | .start .. | .stop | .configure _ | .loop .. => .isTrue trivial

end RefreshRuntime

-- ---------------------------------------------------------------------------
-- What a step of a call does to the loops
-- ---------------------------------------------------------------------------

/-- The loops and what decides about them are the same. -/
structure SameLoops (m t : RuntimeManager F) : Prop where
  loops : t.loops = m.loops
  topicRefreshStop : t.topicRefreshStop = m.topicRefreshStop
  running : t.running = m.running
  nextIdent : m.nextIdent ≤ t.nextIdent

omit [PyRuntime F] in
theorem SameLoops.of_launches {m t : RuntimeManager F} (h : Launches (· ≠ .topicRefresh) m t) :
    SameLoops m t := by
  obtain ⟨new, hlive, hroles⟩ := h.live
  have hrest := h.rest
  simp only [shared, Prod.mk.injEq] at hrest
  refine ⟨?_, hrest.2.1, hrest.1, h.nextIdent⟩
  have hnone : new.filter (fun worker => worker.role = .topicRefresh) = [] := by
    rw [List.filter_eq_nil_iff]
    intro w hw
    simpa using (hroles w hw).1
  rw [RuntimeManager.loops, hlive, List.filter_append, hnone, List.append_nil]
  rfl

/-- At most one new loop, and the event is clear when there is one. -/
structure LoopLaunched (m t : RuntimeManager F) (new : List Worker) : Prop where
  loops : t.loops = m.loops ++ new
  one : ∀ w ∈ new, ∀ w' ∈ new, w = w'
  ident : ∀ w ∈ new, w.ident = m.nextIdent ∧ m.nextIdent < t.nextIdent
  topicRefreshStop : t.topicRefreshStop = false ∨ t.topicRefreshStop = m.topicRefreshStop ∧ new = []
  running : t.running = m.running
  nextIdent : m.nextIdent ≤ t.nextIdent

theorem startTopicRefreshThread_loops (env : StartEnv F) (config : Settings F)
    (m : RuntimeManager F) :
    ∃ new, LoopLaunched m (startTopicRefreshThread env config m).2 new := by
  have hsame : LoopLaunched m m [] :=
    ⟨(List.append_nil _).symm, nofun, nofun, .inr ⟨rfl, rfl⟩, rfl, le_rfl⟩
  rw [startTopicRefreshThread, bind_apply]
  cases (floatConfig config "topic_refresh_interval_s" 300 : Except PyException F) with
  | error e => exact ⟨[], hsame⟩
  | ok intervalS =>
    simp only [lift]
    by_cases hle : PyRuntime.le intervalS (PyRuntime.lit 0) = true
    · rw [if_pos hle]
      exact ⟨[], hsame⟩
    · rw [if_neg hle]
      cases hraised : env.refreshStart with
      | some e =>
        exact ⟨[], (List.append_nil _).symm, nofun, nofun, .inl rfl, rfl, Nat.le_succ _⟩
      | none =>
        refine ⟨[m.newWorker .topicRefresh none], ?_, ?_, ?_, .inl rfl, rfl, Nat.le_succ _⟩
        · exact List.filter_append ..
        · simp
        · intro w hw
          obtain rfl := List.mem_singleton.mp hw
          exact ⟨rfl, Nat.lt_succ_self _⟩

-- ---------------------------------------------------------------------------
-- The invariant
-- ---------------------------------------------------------------------------

namespace RefreshRuntime

/-- The loops that no stop has seen. -/
def Current (r : RefreshRuntime F) (worker : Worker) : Prop :=
  worker ∈ r.loops ∧ worker ∉ r.stopped

/-- Only woken loops are left, and a stop has seen them. -/
structure Ending (r : RefreshRuntime F) : Prop where
  woken : r.AllWoken
  seen : ∀ w, ¬ r.Current w

end RefreshRuntime

/-- What holds while the call stands there. -/
def ManagerCall.Fits (running topicRefreshStop : Bool) (ending : Prop) : ManagerCall F → Prop
  | clearingStop _ | startingResponder _ | startingDevices .. => running = false
  | clearingResults _ | clearingStatuses _ | initialisingTags _ | startingPublisher _
  | startingRefresh .. => running = false ∧ ending
  | settingStop => running = true
  | joiningRefresh | stoppingPublisher | joining _ => topicRefreshStop = true
  | _ => True

omit [PyRuntime F] in
theorem ManagerCall.Fits.follows {running topicRefreshStop : Bool} {ending : Prop}
    {call next : ManagerCall F} (h : call.Fits running topicRefreshStop ending)
    (hmarks : call.marks = false) (hstop : call = .stopping → running = true)
    (hfollows : call.Follows next) : next.Fits running topicRefreshStop ending := by
  cases call with
  | idle => cases hfollows; trivial
  | returned snapshot => cases hfollows; trivial
  | raised e => cases hfollows; trivial
  | initialisingTags env => cases hfollows; exact h
  | startingPublisher env =>
    obtain ⟨config, rfl⟩ := hfollows
    exact h
  | startingResponder env =>
    obtain ⟨devices, rfl⟩ := hfollows
    exact h
  | startingDevices env devices =>
    cases devices with
    | nil => cases hmarks
    | cons device devices => cases hfollows; exact h
  | stopping =>
    rcases hfollows with rfl | ⟨snapshot, rfl⟩
    · exact hstop rfl
    · trivial
  | joiningRefresh => cases hfollows; exact h
  | stoppingPublisher =>
    obtain ⟨workers, rfl⟩ := hfollows
    exact h
  | joining workers =>
    cases workers with
    | nil => cases hmarks
    | cons worker workers => cases hfollows; exact h
  | _ => cases hmarks

namespace RefreshRuntime

structure Sound (r : RefreshRuntime F) : Prop where
  quiet : r.manager.topicRefreshStop = true → ∀ w ∈ r.loops, r.phase w ≠ .waiting
  stopped : ∀ w ∈ r.stopped, w ∈ r.loops → r.phase w = .woken ∨ r.manager.topicRefreshStop = true
  one : ∀ w w', r.Current w → r.Current w' → w = w'
  woken : ∀ w, r.Current w → r.phase w = .woken → r.manager.running = true
  ids : ∀ w ∈ r.loops ++ r.stopped, w.ident < r.manager.nextIdent
  fresh : ∀ w, r.manager.nextIdent ≤ w.ident → r.phase w = .checking
  call : r.call.Fits r.manager.running r.manager.topicRefreshStop r.Ending

variable {r : RefreshRuntime F} {m : RuntimeManager F} {call : ManagerCall F}

theorem Sound.atMostOneLoop (h : r.Sound) : r.AtMostOneLoop where
  one w hw w' hw' hstopped hstopped' := h.one w w' ⟨hw, hstopped⟩ ⟨hw', hstopped'⟩
  ends worker hstopped hphase resolver now := by
    have hgone : worker ∉ (r.endLoop worker).loops := by
      simp [RefreshRuntime.loops, endLoop, RuntimeManager.loops]
    by_cases hloop : worker ∈ r.loops
    · simp only [step, if_pos hloop, stepLoop]
      cases hp : r.phase worker with
      | refreshing => exact absurd hp hphase
      | woken => exact hgone
      | waiting =>
        rcases h.stopped worker hstopped hloop with hwoken | hset
        · rw [hp] at hwoken
          cases hwoken
        · exact absurd hp (h.quiet hset worker hloop)
      | checking =>
        rcases h.stopped worker hstopped hloop with hwoken | hset
        · rw [hp] at hwoken
          cases hwoken
        · simpa only [hset, if_true] using hgone
    · simpa only [step, if_neg hloop] using hloop

omit [PyRuntime F] in
theorem Ending.mono (h : r.Ending) {t : RefreshRuntime F} (hloops : ∀ w ∈ t.loops, w ∈ r.loops)
    (hphase : t.phase = r.phase) (hstopped : t.stopped = r.stopped) : t.Ending where
  woken w hw := hphase ▸ h.woken w (hloops w hw)
  seen w hw := h.seen w ⟨hloops w hw.1, hstopped ▸ hw.2⟩

omit [PyRuntime F] in
/-- Some loops may have ended. -/
theorem Sound.fewer (h : r.Sound) (hloops : ∀ w ∈ m.loops, w ∈ r.loops)
    (hstop : m.topicRefreshStop = r.manager.topicRefreshStop)
    (hrunning : m.running = r.manager.running) (hident : r.manager.nextIdent ≤ m.nextIdent)
    (hcall : call.Fits m.running m.topicRefreshStop r.Ending) :
    Sound { r with manager := m, call } := by
  have hcurrent : ∀ w, Current { r with manager := m, call } w → r.Current w :=
    fun w hw => ⟨hloops w hw.1, hw.2⟩
  have hending : r.Ending → Ending { r with manager := m, call } :=
    fun hr => hr.mono hloops rfl rfl
  refine ⟨?_, ?_, ?_, ?_, ?_, fun w hw => h.fresh w (hident.trans hw), ?_⟩
  · intro hset w hw
    exact h.quiet (hstop ▸ hset) w (hloops w hw)
  · intro w hw hloop
    rw [hstop]
    exact h.stopped w hw (hloops w hloop)
  · intro w w' hw hw'
    exact h.one w w' (hcurrent w hw) (hcurrent w' hw')
  · intro w hw hwoken
    exact hrunning ▸ h.woken w (hcurrent w hw) hwoken
  · intro w hw
    refine (h.ids w ?_).trans_le hident
    rcases List.mem_append.mp hw with hw | hw
    · exact List.mem_append_left _ (hloops w hw)
    · exact List.mem_append_right _ hw
  · cases call <;> first | exact hcall | exact ⟨hcall.1, hending hcall.2⟩

omit [PyRuntime F] in
/-- A step that leaves the loops alone. -/
theorem Sound.same (h : r.Sound) (hsame : SameLoops r.manager m)
    (hcall : call.Fits r.manager.running r.manager.topicRefreshStop r.Ending) :
    Sound { r with manager := m, call } := by
  refine h.fewer (fun w hw => ?_) hsame.topicRefreshStop hsame.running hsame.nextIdent ?_
  · rw [RefreshRuntime.loops, ← hsame.loops]
    exact hw
  · rw [hsame.running, hsame.topicRefreshStop]
    exact hcall

-- ---------------------------------------------------------------------------
-- Steps of a loop
-- ---------------------------------------------------------------------------

omit [PyRuntime F] in
theorem Sound.endLoop (h : r.Sound) (worker : Worker) : (r.endLoop worker).Sound := by
  refine h.fewer (m := { r.manager with live := r.manager.live.filter fun w => w ≠ worker })
    (fun w hw => ?_) rfl rfl le_rfl h.call
  simp only [RuntimeManager.loops, List.mem_filter] at hw
  exact List.mem_filter.mpr ⟨hw.1.1, hw.2⟩

omit [PyRuntime F] in
/-- A loop that was not woken goes on. -/
theorem Sound.setPhase (h : r.Sound) {worker : Worker} {phase : LoopPhase}
    (hloop : worker ∈ r.loops) (hold : r.phase worker ≠ .woken) (hnew : phase ≠ .woken)
    (hquiet : r.manager.topicRefreshStop = true → phase ≠ .waiting) :
    (r.setPhase worker phase).Sound := by
  have hphase : ∀ w, (r.setPhase worker phase).phase w = if w = worker then phase else r.phase w :=
    fun w => Function.update_apply ..
  refine ⟨?_, ?_, h.one, ?_, h.ids, ?_, ?_⟩
  · intro hset w hw
    rw [hphase]
    split
    · exact hquiet hset
    · exact h.quiet hset w hw
  · intro w hw hwloop
    rw [hphase]
    split
    · rename_i heq
      exact .inr ((h.stopped w hw hwloop).resolve_left (heq ▸ hold))
    · exact h.stopped w hw hwloop
  · intro w hw hwoken
    rw [hphase] at hwoken
    split at hwoken
    · exact absurd hwoken hnew
    · exact h.woken w hw hwoken
  · intro w hw
    rw [hphase, if_neg, h.fresh w hw]
    rintro rfl
    exact absurd (h.ids w (List.mem_append_left _ hloop)) (not_lt.mpr hw)
  · have hending : ¬ r.Ending := fun hr => hold (hr.woken worker hloop)
    have hcall := h.call
    simp only [RefreshRuntime.setPhase]
    cases hc : r.call <;> rw [hc] at hcall <;>
      first | exact hcall | exact absurd hcall.2 hending

theorem Sound.stepLoop (h : r.Sound) {worker : Worker} (hloop : worker ∈ r.loops)
    (resolver : TopicResolver F) (now : Int → String) :
    (r.stepLoop resolver now worker).Sound := by
  rw [RefreshRuntime.stepLoop]
  cases hp : r.phase worker with
  | checking =>
    by_cases hset : r.manager.topicRefreshStop = true
    · simp only [hset, if_true]
      exact h.endLoop worker
    · simp only [hset, Bool.false_eq_true, if_false]
      exact h.setPhase hloop (by simp [hp]) nofun fun hset' => absurd hset' hset
  | waiting => exact h.setPhase hloop (by simp [hp]) nofun fun _ => nofun
  | woken => exact h.endLoop worker
  | refreshing =>
    have hsame := SameLoops.of_launches
      (Launches.of_steps (Launches.refreshDynamicRouteTopics resolver now) r.manager)
    simp only
    rcases hrun : RuntimeManager.refreshDynamicRouteTopics resolver now r.manager with ⟨e | u, m⟩
    · rw [hrun] at hsame
      exact (h.same hsame h.call).endLoop worker
    · rw [hrun] at hsame
      have hstill : worker ∈ m.loops := hsame.loops.symm ▸ hloop
      exact (h.same hsame h.call).setPhase hstill (by simp [hp]) nofun fun _ => nofun

-- ---------------------------------------------------------------------------
-- Steps of a call
-- ---------------------------------------------------------------------------

theorem proceed_eq (hset : r.call ≠ .settingStop) (hreturns : r.stopReturns = false) :
    r.proceed = { r with toRuntime := r.toRuntime.proceed } := by
  rw [proceed, hreturns]
  cases hc : r.call <;> first | rfl | exact absurd hc hset

/-- A step that sets nothing and returns from no stop. -/
theorem Sound.proceed_plain (h : r.Sound) (hmarks : r.call.marks = false)
    (hreturns : r.stopReturns = false) : r.proceed.Sound := by
  have hset : r.call ≠ .settingStop := by
    intro hc
    rw [hc] at hmarks
    cases hmarks
  have hsame := SameLoops.of_launches (Launches.of_steps (ManagerCall.launches hmarks) r.manager)
  rw [proceed_eq hset hreturns, Runtime.proceed]
  rcases hstep : r.call.step r.manager with ⟨e | next, m⟩
  · rw [hstep] at hsame
    exact h.same hsame trivial
  · rw [hstep] at hsame
    refine h.same hsame (h.call.follows hmarks ?_ (ManagerCall.follows hstep))
    intro hc
    rw [stopReturns, hc] at hreturns
    simpa using hreturns

omit [PyRuntime F] in
/-- A stop that returns: its event is set or no loop goes on anyway. -/
theorem Sound.stopAll (h : r.Sound)
    (hall : ∀ w ∈ r.loops, r.phase w = .woken ∨ r.manager.topicRefreshStop = true)
    {running : Bool} {snapshot : RuntimeSnapshot F} :
    Sound { r with
      manager := { r.manager with running }
      call := .returned snapshot
      stopped := r.stopped ++ r.loops } := by
  have hnone : ∀ w, ¬ Current { r with
      manager := { r.manager with running }
      call := .returned snapshot
      stopped := r.stopped ++ r.loops } w :=
    fun w hw => hw.2 (List.mem_append_right _ hw.1)
  refine ⟨h.quiet, fun w _ hloop => hall w hloop, fun w _ hw => absurd hw (hnone w),
    fun w hw => absurd hw (hnone w), fun w hw => h.ids w ?_, h.fresh, trivial⟩
  rcases List.mem_append.mp hw with hw | hw
  · exact List.mem_append_left _ hw
  · rcases List.mem_append.mp hw with hw | hw
    · exact List.mem_append_right _ hw
    · exact List.mem_append_left _ hw

omit [PyRuntime F] in
/-- The launch of a loop when no other one goes on. -/
theorem Sound.launched (h : r.Sound) (hending : r.Ending) {new : List Worker}
    (hnew : LoopLaunched r.manager m new) (hcall : call.Fits m.running m.topicRefreshStop False) :
    Sound { r with manager := m, call } := by
  have hloops : ∀ w, w ∈ m.loops ↔ w ∈ r.loops ∨ w ∈ new := by
    intro w
    rw [hnew.loops]
    exact List.mem_append
  have hfresh : ∀ w ∈ new, w ∉ r.stopped := by
    intro w hw hstopped
    have hold := h.ids w (List.mem_append_right _ hstopped)
    rw [(hnew.ident w hw).1] at hold
    exact absurd hold (lt_irrefl _)
  have hcurrent : ∀ w, Current { r with manager := m, call } w → w ∈ new := by
    intro w hw
    rcases (hloops w).mp hw.1 with hold | hw
    · exact absurd ⟨hold, hw.2⟩ (hending.seen w)
    · exact hw
  refine ⟨?_, ?_, fun w w' hw hw' => hnew.one w (hcurrent w hw) w' (hcurrent w' hw'), ?_, ?_,
    fun w hw => h.fresh w (hnew.nextIdent.trans hw), ?_⟩
  · intro hset w hw
    rcases hnew.topicRefreshStop with hclear | ⟨hstop, rfl⟩
    · rw [hclear] at hset
      cases hset
    · exact h.quiet (hstop ▸ hset) w (((hloops w).mp hw).resolve_right (List.not_mem_nil))
  · intro w hw hloop
    rcases (hloops w).mp hloop with hold | hnewLoop
    · exact .inl (hending.woken w hold)
    · exact absurd hw (hfresh w hnewLoop)
  · intro w hw hwoken
    have hchecking := h.fresh w (hnew.ident w (hcurrent w hw)).1.ge
    rw [show r.phase w = .woken from hwoken] at hchecking
    cases hchecking
  · intro w hw
    rcases List.mem_append.mp hw with hw | hw
    · rcases (hloops w).mp hw with hold | hnewLoop
      · exact (h.ids w (List.mem_append_left _ hold)).trans_le hnew.nextIdent
      · obtain ⟨hident, hlt⟩ := hnew.ident w hnewLoop
        exact hident.trans_lt hlt
    · exact (h.ids w (List.mem_append_right _ hw)).trans_le hnew.nextIdent
  · cases call <;> first | exact hcall | exact hcall.2.elim

theorem Sound.proceed (h : r.Sound) (hclear : r.Clear .proceed) : r.proceed.Sound := by
  have hcall := h.call
  cases hc : r.call with
  | starting env healthIntervalS runtimeLogEnabled =>
    rw [proceed_eq (by simp [hc]) (by rw [stopReturns, hc]), Runtime.proceed, hc, ManagerCall.step,
      read_bind]
    cases hrunning : r.manager.running with
    | true =>
      rw [if_pos rfl]
      exact h.same ⟨rfl, rfl, rfl, le_rfl⟩ trivial
    | false =>
      rw [if_neg Bool.false_ne_true]
      exact h.same ⟨rfl, rfl, rfl, le_rfl⟩ hrunning
  | clearingStop env =>
    have hwoken : r.AllWoken := hclear (by rw [leavesLoops, hc])
    rw [hc] at hcall
    have hseen : ∀ w, ¬ r.Current w := by
      intro w hw
      have hrunning := h.woken w hw (hwoken w hw.1)
      rw [show r.manager.running = false from hcall] at hrunning
      cases hrunning
    rw [proceed_eq (by simp [hc]) (by rw [stopReturns, hc]), Runtime.proceed, hc]
    exact ⟨fun hset => absurd hset Bool.false_ne_true, fun w _ hw => .inl (hwoken w hw),
      fun w _ hw => absurd hw (hseen w), fun w hw => absurd hw (hseen w), h.ids, h.fresh, hcall,
      hwoken, hseen⟩
  | clearingResults env =>
    rw [hc] at hcall
    rw [proceed_eq (by simp [hc]) (by rw [stopReturns, hc]), Runtime.proceed, hc]
    exact h.same ⟨rfl, rfl, rfl, le_rfl⟩ hcall
  | clearingStatuses env =>
    rw [hc] at hcall
    rw [proceed_eq (by simp [hc]) (by rw [stopReturns, hc]), Runtime.proceed, hc]
    exact h.same ⟨rfl, rfl, rfl, le_rfl⟩ hcall
  | startingRefresh env config =>
    rw [hc] at hcall
    obtain ⟨new, hnew⟩ := startTopicRefreshThread_loops env config r.manager
    rw [proceed_eq (by simp [hc]) (by rw [stopReturns, hc]), Runtime.proceed, hc, ManagerCall.step,
      bind_apply]
    rcases hact : startTopicRefreshThread env config r.manager with ⟨e | u, m⟩
    · rw [hact] at hnew
      exact h.launched hcall.2 hnew trivial
    · rw [hact] at hnew
      exact h.launched hcall.2 hnew (hnew.running.trans hcall.1)
  | startingDevices env devices =>
    cases devices with
    | nil =>
      rw [proceed_eq (by simp [hc]) (by rw [stopReturns, hc]), Runtime.proceed, hc]
      exact ⟨h.quiet, h.stopped, h.one, fun _ _ _ => rfl, h.ids, h.fresh, trivial⟩
    | cons device devices =>
      exact h.proceed_plain (by rw [hc]; rfl) (by rw [stopReturns, hc])
  | stopping =>
    cases hrunning : r.manager.running with
    | true => exact h.proceed_plain (by rw [hc]; rfl) (by rw [stopReturns, hc, hrunning]; rfl)
    | false =>
      have hwoken : r.AllWoken := hclear (by rw [leavesLoops, hc, hrunning]; rfl)
      have hreturns : r.stopReturns = true := by
        rw [stopReturns, hc, hrunning]
        rfl
      have hreturned : r.proceed = { r with
          manager := { r.manager with running := false }
          call := .returned r.manager.snapshot
          stopped := r.stopped ++ r.loops } := by
        rw [RefreshRuntime.proceed, hreturns, Runtime.proceed, hc, ManagerCall.step, read_bind,
          if_pos (by simp [hrunning]), ← hrunning]
        rfl
      rw [hreturned]
      exact h.stopAll fun w hw => .inl (hwoken w hw)
  | settingStop =>
    rw [hc] at hcall
    have hwake : ∀ phase, wake phase ≠ .waiting := by
      intro phase
      cases phase <;> simp [wake]
    have hwoken : r.proceed = { r with
        manager := { r.manager with topicRefreshStop := true }
        call := .joiningRefresh
        phase := fun worker => wake (r.phase worker) } := by
      have hreturns : r.stopReturns = false := by rw [stopReturns, hc]
      rw [RefreshRuntime.proceed, hreturns, Runtime.proceed, hc]
      rfl
    rw [hwoken]
    refine ⟨fun _ w _ => hwake _, fun _ _ _ => .inr rfl, h.one, fun _ _ _ => hcall, h.ids, ?_, rfl⟩
    exact fun w hw => congrArg wake (h.fresh w hw)
  | joining workers =>
    cases workers with
    | nil =>
      rw [hc] at hcall
      have hreturns : r.stopReturns = true := by rw [stopReturns, hc]
      rw [RefreshRuntime.proceed, hreturns, Runtime.proceed, hc]
      exact h.stopAll fun _ _ => .inr hcall
    | cons worker workers => exact h.proceed_plain (by rw [hc]; rfl) (by rw [stopReturns, hc])
  | _ => exact h.proceed_plain (by rw [hc]; rfl) (by rw [stopReturns, hc])

theorem Sound.step (h : r.Sound) {event : RefreshEvent F} (hclear : r.Clear event) :
    (r.step event).Sound := by
  have hrequest (call : ManagerCall F) (hfits : ∀ b b' p, call.Fits b b' p) :
      Sound { r with toRuntime := r.request call } := by
    rw [Runtime.request]
    split
    · exact h.same ⟨rfl, rfl, rfl, le_rfl⟩ (hfits _ _ _)
    · exact h
  cases event with
  | start env healthIntervalS runtimeLogEnabled => exact hrequest _ fun _ _ _ => trivial
  | stop => exact hrequest _ fun _ _ _ => trivial
  | proceed => exact h.proceed hclear
  | configure store => exact h.same ⟨rfl, rfl, rfl, le_rfl⟩ h.call
  | loop worker resolver now =>
    rw [RefreshRuntime.step]
    split
    · exact h.stepLoop ‹_› resolver now
    · exact h

omit [PyRuntime F] in
theorem sound_fresh (store : ConfigStore F) (driverRegistry sinkRegistry : Registry) :
    (fresh store driverRegistry sinkRegistry).Sound :=
  ⟨nofun, nofun, fun _ _ hw => (by cases hw.1), fun _ hw => (by cases hw.1), nofun, fun _ _ => rfl,
    trivial⟩

end RefreshRuntime

open RefreshRuntime in
/-- In a run that stays clear every stop ends the loops that it finds. -/
theorem refresh_loops_end {store : ConfigStore F} {driverRegistry sinkRegistry : Registry}
    {r : RefreshRuntime F}
    (h : Runs.Reaches step Clear (fresh store driverRegistry sinkRegistry) r) :
    r.AtMostOneLoop := by
  have hsound : r.Sound := by
    apply h.invariant
    · exact sound_fresh store driverRegistry sinkRegistry
    · intro r event hr hclear
      exact hr.step hclear
  exact hsound.atMostOneLoop

/-- A loop in a refresh that finds the event clear goes on to the next one. -/
theorem RefreshRuntime.loop_goes_on {r : RefreshRuntime F} {worker : Worker}
    (hloop : worker ∈ r.loops) (hphase : r.phase worker = .checking)
    (hstop : r.manager.topicRefreshStop = false) (resolver : TopicResolver F) (now : Int → String) :
    let round := RefreshEvent.loop worker resolver now
    ((r.step round).step round).phase worker = .refreshing := by
  have hfirst : r.step (.loop worker resolver now) = r.setPhase worker .waiting := by
    rw [step, if_pos hloop, stepLoop, hphase, hstop]
    rfl
  have hstill : worker ∈ (r.setPhase worker .waiting).loops := hloop
  have hwaiting : (r.setPhase worker .waiting).phase worker = .waiting := Function.update_self ..
  simp only [hfirst]
  rw [step, if_pos hstill, stepLoop, hwaiting]
  exact Function.update_self ..

-- ---------------------------------------------------------------------------
-- Two runs
-- ---------------------------------------------------------------------------

def idleGateway : RefreshRuntime WholeFloat :=
  .fresh ConfigStore.initialized defaultDriverRegistry defaultSinkRegistry

/-- A call from its first to its last step, for a gateway without devices. -/
def wholeStart : List (RefreshEvent WholeFloat) := .start {} none none :: List.replicate 9 .proceed

def wholeStop : List (RefreshEvent WholeFloat) := .stop :: List.replicate 6 .proceed

def firstLoop : Worker := ⟨1, 1, .topicRefresh, true⟩

def firstLoopStep : RefreshEvent WholeFloat := .loop firstLoop (fun _ _ => .ok ∅) fun _ => ""

theorem loop_ends_while_it_waits :
    ((wholeStart ++ [firstLoopStep] ++ wholeStop ++ wholeStart).foldl RefreshRuntime.step
      idleGateway).AtMostOneLoop :=
  refresh_loops_end (.of_lets .start (by decide +kernel))

/-- The stop comes while the loop refreshes, and so does the next start. -/
def stoppedWhileRefreshing : RefreshRuntime WholeFloat :=
  (wholeStart ++ [firstLoopStep, firstLoopStep] ++ wholeStop ++ wholeStart ++
    [firstLoopStep]).foldl RefreshRuntime.step idleGateway

theorem stopped_loop_goes_on : ¬ ∀ r : RefreshRuntime WholeFloat,
    Runs.Reaches RefreshRuntime.step (fun _ _ => True) idleGateway r → r.AtMostOneLoop := by
  intro h
  have hrun : Runs.Reaches RefreshRuntime.step (fun _ _ => True) idleGateway
      stoppedWhileRefreshing := .foldl .start fun _ _ _ => trivial
  have hstopped : firstLoop ∈ stoppedWhileRefreshing.stopped := by decide +kernel
  have hphase : stoppedWhileRefreshing.phase firstLoop ≠ .refreshing := by decide +kernel
  have hstill : firstLoop ∈ (stoppedWhileRefreshing.step firstLoopStep).loops := by decide +kernel
  exact (h _ hrun).ends firstLoop hstopped hphase _ _ hstill

end IndustrialGateway
