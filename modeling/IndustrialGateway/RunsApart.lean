import IndustrialGateway.Lib.Runs
import IndustrialGateway.RuntimeCalls

/-!
# Runs apart

All starts share the result queue, the status queue and the runtime tags. A
start empties them once; a thread of an earlier start that is still in a round of
its loop puts what it has read there afterwards, and so does a drain that has
taken an event before the tags are made anew.
-/

namespace IndustrialGateway

open Fallible RuntimeManager

variable {F : Type} [PyRuntime F]

-- ---------------------------------------------------------------------------
-- Steps
-- ---------------------------------------------------------------------------

namespace WorkerRole

def putsResults : WorkerRole → Bool
  | poller | subscriptionWorker => true
  | _ => false

def putsStatuses : WorkerRole → Bool
  | poller | subscriptionWorker | publisher => true
  | _ => false

end WorkerRole

/-- A runtime with its threads at work. A thread is in a round from one look at
its stop event to the next; a publisher starts its sink before its first look.
The starts that made the threads stand beside what these have put, and the starts
that emptied the queues and made the tags beside those. -/
structure QueueRuntime (F : Type) extends Runtime F where
  inRound : Worker → Bool := fun worker => worker.role = .publisher
  drained : List (StatusEvent × Nat) := []
  resultOrigin : ItemKey → Nat := fun _ => 0
  statusOrigin : StatusKey → Nat := fun _ => 0
  resultsRun : Nat := 0
  statusesRun : Nat := 0
  tagsRun : Nat := 0
  /-- A publisher's start and the start of the result that it took. -/
  taken : List (Nat × Nat) := []
  /-- The start of the runtime tags and of the event that was recorded in them. -/
  recorded : List (Nat × Nat) := []

inductive QueueEvent (F : Type) where
  | start (env : StartEnv F) (healthIntervalS : Option Int) (runtimeLogEnabled : Option Bool)
  | stop
  | proceed
  | configure (store : ConfigStore F)
  | look (worker : Worker)
  | leave (worker : Worker)
  | exit (worker : Worker)
  | putResult (worker : Worker) (result : ReadResult F)
  | putStatus (worker : Worker) (event : StatusEvent)
  | takeResult (worker : Worker)
  | drain
  | record (index : Nat)

namespace QueueRuntime

def setRound (r : QueueRuntime F) (worker : Worker) (inRound : Bool) : QueueRuntime F :=
  { r with inRound := Function.update r.inRound worker inRound }

def endThread (r : QueueRuntime F) (worker : Worker) : QueueRuntime F :=
  { r with manager := { r.manager with live := r.manager.live.filter fun w => w ≠ worker } }

/-- The next step of the call, with what it empties or makes anew. -/
def proceed (r : QueueRuntime F) : QueueRuntime F :=
  let t := { r with toRuntime := r.toRuntime.proceed }
  match r.call with
  | .clearingResults _ => { t with resultsRun := r.manager.startCalls }
  | .clearingStatuses _ => { t with statusesRun := r.manager.startCalls }
  | .initialisingTags _ => { t with tagsRun := r.manager.startCalls }
  | _ => t

def putResult (r : QueueRuntime F) (worker : Worker) (result : ReadResult F) : QueueRuntime F :=
  { r with
    manager := { r.manager with resultQueue := r.manager.resultQueue.put result }
    resultOrigin := fun key =>
      if key ∈ (LatestReadResultQueue.splitItems result).map Prod.fst then worker.startCall
      else r.resultOrigin key }

def putStatus (r : QueueRuntime F) (worker : Worker) (event : StatusEvent) : QueueRuntime F :=
  let queue := r.manager.statusQueue
  { r with
    manager := { r.manager with statusQueue := queue.put event }
    statusOrigin := Function.update r.statusOrigin
      (LatestStatusQueue.key (LatestStatusQueue.nextSequence queue.sequence event) event)
      worker.startCall }

/-- `get` of the result queue. -/
def takeResult (r : QueueRuntime F) (worker : Worker) : QueueRuntime F :=
  match r.manager.resultQueue.items.popFirst with
  | none => r
  | some ((key, _), rest) => { r with
      manager := { r.manager with resultQueue := ⟨rest⟩ }
      taken := r.taken ++ [(worker.startCall, r.resultOrigin key)] }

/-- `get_nowait` of the status queue. -/
def drain (r : QueueRuntime F) : QueueRuntime F :=
  match r.manager.statusQueue.items.popFirst with
  | none => r
  | some ((key, event), rest) => { r with
      manager := { r.manager with statusQueue := { r.manager.statusQueue with items := rest } }
      drained := r.drained ++ [(event, r.statusOrigin key)] }

def record (r : QueueRuntime F) (index : Nat) : QueueRuntime F :=
  match r.drained[index]? with
  | none => r
  | some (event, origin) => { r with
      manager := (r.manager.recordStatus event).2
      drained := r.drained.eraseIdx index
      recorded := r.recorded ++ [(r.tagsRun, origin)] }

/-- The thread runs and is in a round. -/
def AtWork (r : QueueRuntime F) (worker : Worker) : Prop :=
  worker ∈ r.manager.live ∧ r.inRound worker = true

instance (r : QueueRuntime F) (worker : Worker) : Decidable (r.AtWork worker) :=
  inferInstanceAs (Decidable (_ ∧ _))

def step (r : QueueRuntime F) : QueueEvent F → QueueRuntime F
  | .start env healthIntervalS runtimeLogEnabled =>
    { r with toRuntime := r.request (.starting env healthIntervalS runtimeLogEnabled) }
  | .stop => { r with toRuntime := r.request .stopping }
  | .proceed => r.proceed
  | .configure store => { r with manager := { r.manager with store } }
  | .look worker =>
    if worker ∈ r.manager.live ∧ r.inRound worker = false then
      if worker ∈ r.manager.stopEvents then r.endThread worker else r.setRound worker true
    else r
  | .leave worker => if r.AtWork worker then r.setRound worker false else r
  | .exit worker => if r.AtWork worker then r.endThread worker else r
  | .putResult worker result =>
    if r.AtWork worker ∧ worker.role.putsResults then r.putResult worker result else r
  | .putStatus worker event =>
    if r.AtWork worker ∧ worker.role.putsStatuses then r.putStatus worker event else r
  | .takeResult worker =>
    if r.AtWork worker ∧ worker.role = .publisher then r.takeResult worker else r
  | .drain => r.drain
  | .record index => r.record index

/-- A manager before its first start. -/
def fresh (store : ConfigStore F) (driverRegistry sinkRegistry : Registry) : QueueRuntime F where
  manager := { store, driverRegistry, sinkRegistry }

/-- No publisher takes a result of an earlier start, and none of its events is
recorded in the runtime tags of a later one. -/
structure RunsApart (r : QueueRuntime F) : Prop where
  taken : ∀ p ∈ r.taken, p.1 ≤ p.2
  recorded : ∀ p ∈ r.recorded, p.1 ≤ p.2

-- ---------------------------------------------------------------------------
-- The condition
-- ---------------------------------------------------------------------------

/-- The thread puts nothing any more. -/
def Over (r : QueueRuntime F) (worker : Worker) : Prop :=
  r.inRound worker = false ∧ worker ∈ r.manager.stopEvents

/-- The roles that fill the queue which the step empties. -/
def empties (r : QueueRuntime F) (role : WorkerRole) : Bool :=
  match r.call with
  | .clearingResults _ => role.putsResults
  | .clearingStatuses _ => role.putsStatuses
  | _ => false

def makesTags (r : QueueRuntime F) : Bool :=
  match r.call with
  | .initialisingTags _ => true
  | _ => false

/-- The threads that fill a queue are over when it is emptied, and no drain holds
an event when the tags are made anew. -/
def Clear (r : QueueRuntime F) : QueueEvent F → Prop
  | .proceed =>
    (∀ worker ∈ r.manager.live, r.empties worker.role = true → r.Over worker) ∧
      (r.makesTags = true → r.drained.isEmpty = true)
  | _ => True

instance (r : QueueRuntime F) (worker : Worker) : Decidable (r.Over worker) :=
  inferInstanceAs (Decidable (_ ∧ _))

instance decidableClear (r : QueueRuntime F) : ∀ event, Decidable (r.Clear event)
  | .proceed => inferInstanceAs (Decidable
      ((∀ worker ∈ r.manager.live, r.empties worker.role = true → r.Over worker) ∧
        (r.makesTags = true → r.drained.isEmpty = true)))
  | .start .. | .stop | .configure _ | .look _ | .leave _ | .exit _ | .putResult .. | .putStatus ..
  | .takeResult _ | .drain | .record _ => .isTrue trivial

end QueueRuntime

-- ---------------------------------------------------------------------------
-- The invariant
-- ---------------------------------------------------------------------------

/-- Which queues have been emptied by the last start where the call stands. -/
def ManagerCall.Emptied (startCalls resultsRun statusesRun : Nat) : ManagerCall F → Prop
  | clearingStop _ | clearingResults _ => True
  | clearingStatuses _ => resultsRun = startCalls
  | _ => resultsRun = startCalls ∧ statusesRun = startCalls

omit [PyRuntime F] in
theorem ManagerCall.Emptied.follows {startCalls resultsRun statusesRun : Nat}
    {call next : ManagerCall F} (h : call.Emptied startCalls resultsRun statusesRun)
    (hmarks : call.marks = false) (hfollows : call.Follows next) :
    next.Emptied startCalls resultsRun statusesRun := by
  cases call with
  | idle => cases hfollows; exact h
  | returned snapshot => cases hfollows; exact h
  | raised e => cases hfollows; exact h
  | initialisingTags env => cases hfollows; exact h
  | startingPublisher env =>
    obtain ⟨config, rfl⟩ := hfollows
    exact h
  | startingResponder env =>
    obtain ⟨devices, rfl⟩ := hfollows
    exact h
  | startingDevices env devices =>
    cases devices with
    | nil => cases hmarks
    | cons device devices => cases hfollows; exact h
  | stopping => rcases hfollows with rfl | ⟨snapshot, rfl⟩ <;> exact h
  | joiningRefresh => cases hfollows; exact h
  | stoppingPublisher =>
    obtain ⟨workers, rfl⟩ := hfollows
    exact h
  | joining workers =>
    cases workers with
    | nil => cases hmarks
    | cons worker workers => cases hfollows; exact h
  | _ => cases hmarks

/-- The steps that empty a queue or make the tags anew. -/
def ManagerCall.renews : ManagerCall F → Bool
  | clearingResults _ | clearingStatuses _ | initialisingTags _ => true
  | _ => false

namespace QueueRuntime

/-- What the threads and the queues hold belongs to the start that emptied the
queues or to a later one. -/
structure Sound (r : QueueRuntime F) : Prop extends RunsApart r where
  results : ∀ w ∈ r.manager.live, w.role.putsResults = true → ¬ r.Over w →
    r.resultsRun ≤ w.startCall
  statuses : ∀ w ∈ r.manager.live, w.role.putsStatuses = true → ¬ r.Over w →
    r.statusesRun ≤ w.startCall
  launched : ∀ w ∈ r.manager.live, w.startCall ≤ r.resultsRun
  queued : ∀ e ∈ r.manager.resultQueue.items.entries, r.resultsRun ≤ r.resultOrigin e.1
  events : ∀ e ∈ r.manager.statusQueue.items.entries, r.statusesRun ≤ r.statusOrigin e.1
  drained : ∀ e ∈ r.drained, r.tagsRun ≤ e.2
  tags : r.tagsRun ≤ r.statusesRun
  calls : r.resultsRun ≤ r.manager.startCalls ∧ r.statusesRun ≤ r.manager.startCalls
  call : r.call.Emptied r.manager.startCalls r.resultsRun r.statusesRun

variable {r : QueueRuntime F} {m : RuntimeManager F} {call : ManagerCall F}

omit [PyRuntime F] in
/-- Some threads may have ended and stop events may have been set. -/
theorem Sound.same (h : r.Sound) (hlive : m.live ⊆ r.manager.live)
    (hstop : r.manager.stopEvents ⊆ m.stopEvents) (hstart : m.startCalls = r.manager.startCalls)
    (hresults : m.resultQueue = r.manager.resultQueue)
    (hstatus : m.statusQueue = r.manager.statusQueue)
    (hcall : call.Emptied r.manager.startCalls r.resultsRun r.statusesRun) :
    Sound { r with manager := m, call } := by
  have hover : ∀ w, ¬ Over { r with manager := m, call } w → ¬ r.Over w :=
    fun w hw hr => hw ⟨hr.1, hstop hr.2⟩
  refine ⟨⟨h.taken, h.recorded⟩, ?_, ?_, ?_, ?_, ?_, h.drained, h.tags, ?_, ?_⟩
  · exact fun w hw hputs hw' => h.results w (hlive hw) hputs (hover w hw')
  · exact fun w hw hputs hw' => h.statuses w (hlive hw) hputs (hover w hw')
  · exact fun w hw => h.launched w (hlive hw)
  · exact fun e he => h.queued e (hresults ▸ he)
  · exact fun e he => h.events e (hstatus ▸ he)
  · exact hstart.symm ▸ h.calls
  · exact hstart.symm ▸ hcall

/-- New threads belong to the last start, and the queues are as they were. -/
structure Grows (m t : RuntimeManager F) : Prop where
  live : ∀ w ∈ t.live, w ∈ m.live ∨ w.startCall = m.startCalls
  stopEvents : m.stopEvents ⊆ t.stopEvents
  startCalls : t.startCalls = m.startCalls
  resultQueue : t.resultQueue = m.resultQueue
  statusQueue : t.statusQueue = m.statusQueue

omit [PyRuntime F] in
theorem Grows.of_launches {roles : WorkerRole → Prop} {t : RuntimeManager F}
    (h : Launches roles m t) : Grows m t := by
  obtain ⟨new, hlive, hroles⟩ := h.live
  have hrest := h.rest
  simp only [shared, Prod.mk.injEq] at hrest
  obtain ⟨-, -, hresults, hstatus⟩ := hrest
  refine ⟨fun w hw => ?_, h.stopEvents, h.startCalls, hresults, hstatus⟩
  rw [hlive] at hw
  exact (List.mem_append.mp hw).imp_right fun hnew => (hroles w hnew).2

theorem startTopicRefreshThread_grows (env : StartEnv F) (config : Settings F)
    (m : RuntimeManager F) : Grows m (startTopicRefreshThread env config m).2 := by
  have hsame : Grows m m := ⟨fun _ hw => .inl hw, fun _ hw => hw, rfl, rfl, rfl⟩
  rw [startTopicRefreshThread, bind_apply]
  cases (floatConfig config "topic_refresh_interval_s" 300 : Except PyException F) with
  | error e => exact hsame
  | ok intervalS =>
    simp only [lift]
    by_cases hle : PyRuntime.le intervalS (PyRuntime.lit 0) = true
    · rw [if_pos hle]
      exact hsame
    · rw [if_neg hle]
      cases hraised : env.refreshStart with
      | some e => exact ⟨fun _ hw => .inl hw, fun _ hw => hw, rfl, rfl, rfl⟩
      | none =>
        refine ⟨fun w hw => ?_, fun _ hw => hw, rfl, rfl, rfl⟩
        refine (List.mem_append.mp hw).imp_right fun hnew => ?_
        obtain rfl := List.mem_singleton.mp hnew
        rfl

omit [PyRuntime F] in
/-- New threads come when both queues have been emptied. -/
theorem Sound.grows (h : r.Sound) (hgrows : Grows r.manager m)
    (hemptied : r.resultsRun = r.manager.startCalls ∧ r.statusesRun = r.manager.startCalls)
    (hcall : call.Emptied r.manager.startCalls r.resultsRun r.statusesRun) :
    Sound { r with manager := m, call } := by
  have hover : ∀ w, ¬ Over { r with manager := m, call } w → ¬ r.Over w :=
    fun w hw hr => hw ⟨hr.1, hgrows.stopEvents hr.2⟩
  refine ⟨⟨h.taken, h.recorded⟩, ?_, ?_, ?_, ?_, ?_, h.drained, h.tags, ?_, ?_⟩
  · intro w hw hputs hw'
    rcases hgrows.live w hw with hold | hnew
    · exact h.results w hold hputs (hover w hw')
    · exact hemptied.1.trans_le hnew.ge
  · intro w hw hputs hw'
    rcases hgrows.live w hw with hold | hnew
    · exact h.statuses w hold hputs (hover w hw')
    · exact hemptied.2.trans_le hnew.ge
  · intro w hw
    rcases hgrows.live w hw with hold | hnew
    · exact h.launched w hold
    · exact hnew.trans_le hemptied.1.ge
  · exact fun e he => h.queued e (hgrows.resultQueue ▸ he)
  · exact fun e he => h.events e (hgrows.statusQueue ▸ he)
  · exact hgrows.startCalls.symm ▸ h.calls
  · exact hgrows.startCalls.symm ▸ hcall

-- ---------------------------------------------------------------------------
-- Steps of a thread
-- ---------------------------------------------------------------------------

omit [PyRuntime F] in
theorem Sound.endThread (h : r.Sound) (worker : Worker) : (r.endThread worker).Sound :=
  h.same (m := { r.manager with live := r.manager.live.filter fun w => w ≠ worker })
    (fun _ hw => List.mem_of_mem_filter hw) (fun _ hw => hw) rfl rfl rfl h.call

omit [PyRuntime F] in
theorem Sound.setRound (h : r.Sound) (worker : Worker) {inRound : Bool}
    (hstop : inRound = true → worker ∉ r.manager.stopEvents) :
    (r.setRound worker inRound).Sound := by
  have hover : ∀ w, ¬ (r.setRound worker inRound).Over w → ¬ r.Over w := by
    rintro w hw ⟨hround, hset⟩
    refine hw ⟨?_, hset⟩
    have hupdate : (r.setRound worker inRound).inRound w =
        if w = worker then inRound else r.inRound w := Function.update_apply ..
    rw [hupdate]
    split
    · rename_i heq
      cases inRound with
      | false => rfl
      | true => exact absurd (heq ▸ hset) (hstop rfl)
    · exact hround
  exact ⟨⟨h.taken, h.recorded⟩, fun w hw hputs hw' => h.results w hw hputs (hover w hw'),
    fun w hw hputs hw' => h.statuses w hw hputs (hover w hw'), h.launched, h.queued, h.events,
    h.drained, h.tags, h.calls, h.call⟩

omit [PyRuntime F] in
theorem AtWork.not_over {worker : Worker} (h : r.AtWork worker) : ¬ r.Over worker :=
  fun hover => Bool.false_ne_true (hover.1.symm.trans h.2)

omit [PyRuntime F] in
theorem mem_put {items : OrderedDict ItemKey (ReadResult F)} {ps : List (ItemKey × ReadResult F)}
    {e : ItemKey × ReadResult F}
    (h : e ∈ (ps.foldl LatestReadResultQueue.putItem items).entries) :
    e.1 ∈ ps.map Prod.fst ∨ e ∈ items.entries := by
  induction ps generalizing items with
  | nil => exact .inr h
  | cons p ps ih =>
    rcases ih h with hmem | hmem
    · exact .inl (List.mem_cons_of_mem _ hmem)
    · rw [LatestReadResultQueue.putItem, OrderedDict.entries_setLast] at hmem
      rcases List.mem_append.mp hmem with hold | hnew
      · exact .inr (List.mem_of_mem_filter hold)
      · obtain rfl := List.mem_singleton.mp hnew
        exact .inl List.mem_cons_self

omit [PyRuntime F] in
theorem Sound.putResult (h : r.Sound) {worker : Worker} (hwork : r.AtWork worker)
    (hputs : worker.role.putsResults = true) (result : ReadResult F) :
    (r.putResult worker result).Sound := by
  have hrun := h.results worker hwork.1 hputs hwork.not_over
  refine ⟨⟨h.taken, h.recorded⟩, h.results, h.statuses, h.launched, ?_, h.events, h.drained,
    h.tags, h.calls, h.call⟩
  intro e he
  simp only [QueueRuntime.putResult]
  split
  · exact hrun
  · rename_i hkey
    exact h.queued e ((mem_put he).resolve_left hkey)

omit [PyRuntime F] in
theorem Sound.putStatus (h : r.Sound) {worker : Worker} (hwork : r.AtWork worker)
    (hputs : worker.role.putsStatuses = true) (event : StatusEvent) :
    (r.putStatus worker event).Sound := by
  have hrun := h.statuses worker hwork.1 hputs hwork.not_over
  refine ⟨⟨h.taken, h.recorded⟩, h.results, h.statuses, h.launched, h.queued, ?_, h.drained,
    h.tags, h.calls, h.call⟩
  intro e he
  simp only [QueueRuntime.putStatus, LatestStatusQueue.put, OrderedDict.entries_setLast] at he ⊢
  rw [Function.update_apply]
  split
  · exact hrun
  · rename_i hkey
    rcases List.mem_append.mp he with hold | hnew
    · exact h.events e (List.mem_of_mem_filter hold)
    · exact absurd (congrArg Prod.fst (List.mem_singleton.mp hnew)) hkey

omit [PyRuntime F] in
theorem popFirst_entries {κ α : Type} {d rest : OrderedDict κ α} {p : κ × α}
    (h : d.popFirst = some (p, rest)) : d.entries = p :: rest.entries := by
  obtain ⟨entries, hn⟩ := d
  cases entries with
  | nil => cases h
  | cons e entries => cases h; rfl

omit [PyRuntime F] in
theorem Sound.takeResult (h : r.Sound) {worker : Worker} (hwork : r.AtWork worker) :
    (r.takeResult worker).Sound := by
  rw [QueueRuntime.takeResult]
  split
  · exact h
  · rename_i key result rest hpop
    have hentries := popFirst_entries hpop
    have hfirst := h.queued (key, result) (hentries ▸ List.mem_cons_self)
    refine ⟨⟨fun p hp => ?_, h.recorded⟩, h.results, h.statuses, h.launched, fun e he => ?_,
      h.events, h.drained, h.tags, h.calls, h.call⟩
    · rcases List.mem_append.mp hp with hp | hp
      · exact h.taken p hp
      · obtain rfl := List.mem_singleton.mp hp
        exact (h.launched worker hwork.1).trans hfirst
    · exact h.queued e (hentries ▸ List.mem_cons_of_mem _ he)

-- ---------------------------------------------------------------------------
-- Steps of a drain
-- ---------------------------------------------------------------------------

omit [PyRuntime F] in
theorem Sound.drain (h : r.Sound) : r.drain.Sound := by
  rw [QueueRuntime.drain]
  split
  · exact h
  · rename_i key event rest hpop
    have hentries := popFirst_entries hpop
    have hfirst := h.events (key, event) (hentries ▸ List.mem_cons_self)
    refine ⟨⟨h.taken, h.recorded⟩, h.results, h.statuses, h.launched, h.queued, fun e he => ?_,
      fun e he => ?_, h.tags, h.calls, h.call⟩
    · exact h.events e (hentries ▸ List.mem_cons_of_mem _ he)
    · rcases List.mem_append.mp he with he | he
      · exact h.drained e he
      · obtain rfl := List.mem_singleton.mp he
        exact h.tags.trans hfirst

omit [PyRuntime F] in
theorem shared_recordStatus (m : RuntimeManager F) (event : StatusEvent) :
    (m.recordStatus event).2.shared = m.shared := by
  cases event <;> rfl

omit [PyRuntime F] in
theorem Sound.record (h : r.Sound) (index : Nat) : (r.record index).Sound := by
  rw [QueueRuntime.record]
  split
  · exact h
  · rename_i event origin hfound
    have hmem := List.mem_of_getElem? hfound
    have hshared := shared_recordStatus r.manager event
    simp only [shared, Prod.mk.injEq] at hshared
    obtain ⟨⟨hlive, hstop, hstart, -⟩, -, -, hresults, hstatus⟩ := hshared
    have hsame := h.same (m := (r.manager.recordStatus event).2) (hlive ▸ fun _ hw => hw)
      (hstop ▸ fun _ hw => hw) hstart hresults hstatus h.call
    refine ⟨⟨h.taken, fun p hp => ?_⟩, hsame.results, hsame.statuses, hsame.launched, hsame.queued,
      hsame.events, fun e he => h.drained e (List.mem_of_mem_eraseIdx he), h.tags, hsame.calls,
      hsame.call⟩
    rcases List.mem_append.mp hp with hp | hp
    · exact h.recorded p hp
    · obtain rfl := List.mem_singleton.mp hp
      exact h.drained _ hmem

-- ---------------------------------------------------------------------------
-- Steps of a call
-- ---------------------------------------------------------------------------

/-- A step that empties and makes nothing. -/
theorem proceed_eq (h : r.call.renews = false) :
    r.proceed = { r with toRuntime := r.toRuntime.proceed } := by
  rw [proceed]
  split
  · rename_i hc
    rw [hc] at h
    cases h
  · rename_i hc
    rw [hc] at h
    cases h
  · rename_i hc
    rw [hc] at h
    cases h
  · rfl

theorem Sound.proceed_plain (h : r.Sound) (hmarks : r.call.marks = false)
    (hrenews : r.call.renews = false)
    (hemptied : r.resultsRun = r.manager.startCalls ∧ r.statusesRun = r.manager.startCalls) :
    r.proceed.Sound := by
  have hlaunch := Launches.of_steps (ManagerCall.launches hmarks) r.manager
  rw [proceed_eq hrenews, Runtime.proceed]
  rcases hstep : r.call.step r.manager with ⟨e | next, m⟩
  · rw [hstep] at hlaunch
    exact h.grows (.of_launches hlaunch) hemptied hemptied
  · rw [hstep] at hlaunch
    exact h.grows (.of_launches hlaunch) hemptied
      (h.call.follows hmarks (ManagerCall.follows hstep))

theorem Sound.proceed_starting (h : r.Sound) {env : StartEnv F} {healthIntervalS : Option Int}
    {runtimeLogEnabled : Option Bool}
    (hc : r.call = .starting env healthIntervalS runtimeLogEnabled) : r.proceed.Sound := by
  have hcall := h.call
  rw [hc] at hcall
  rw [proceed_eq (by rw [hc]; rfl), Runtime.proceed, hc, ManagerCall.step, read_bind]
  cases hrunning : r.manager.running with
  | true =>
    rw [if_pos rfl]
    exact h.same (fun _ hw => hw) (fun _ hw => hw) rfl rfl rfl hcall
  | false =>
    rw [if_neg Bool.false_ne_true]
    exact ⟨⟨h.taken, h.recorded⟩, h.results, h.statuses, h.launched, h.queued, h.events, h.drained,
      h.tags, ⟨h.calls.1.trans (Nat.le_succ _), h.calls.2.trans (Nat.le_succ _)⟩, trivial⟩

theorem Sound.proceed_startingRefresh (h : r.Sound) {env : StartEnv F} {config : Settings F}
    (hc : r.call = .startingRefresh env config) : r.proceed.Sound := by
  have hcall := h.call
  rw [hc] at hcall
  have hgrows := startTopicRefreshThread_grows env config r.manager
  rw [proceed_eq (by rw [hc]; rfl), Runtime.proceed, hc, ManagerCall.step, bind_apply]
  rcases hact : startTopicRefreshThread env config r.manager with ⟨e | u, m⟩
  · rw [hact] at hgrows
    exact h.grows hgrows hcall hcall
  · rw [hact] at hgrows
    exact h.grows hgrows hcall hcall

omit [PyRuntime F] in
/-- The result queue is emptied while no thread fills it any more. -/
theorem Sound.emptyResults (h : r.Sound)
    (hover : ∀ w ∈ r.manager.live, w.role.putsResults = true → r.Over w) (env : StartEnv F) :
    Sound { r with
      manager := { r.manager with resultQueue := .empty }
      call := .clearingStatuses env
      resultsRun := r.manager.startCalls } :=
  ⟨⟨h.taken, h.recorded⟩, fun w hw hputs hw' => absurd (hover w hw hputs) hw', h.statuses,
    fun w hw => (h.launched w hw).trans h.calls.1, fun _ he => (List.not_mem_nil he).elim, h.events,
    h.drained, h.tags, ⟨le_rfl, h.calls.2⟩, rfl⟩

omit [PyRuntime F] in
/-- The status queue is emptied while no thread fills it any more. -/
theorem Sound.emptyStatuses (h : r.Sound)
    (hover : ∀ w ∈ r.manager.live, w.role.putsStatuses = true → r.Over w)
    (hresults : r.resultsRun = r.manager.startCalls) (env : StartEnv F) :
    Sound { r with
      manager := { r.manager with statusQueue := r.manager.statusQueue.clear }
      call := .initialisingTags env
      statusesRun := r.manager.startCalls } :=
  ⟨⟨h.taken, h.recorded⟩, h.results, fun w hw hputs hw' => absurd (hover w hw hputs) hw',
    h.launched, h.queued, nofun, h.drained, h.tags.trans h.calls.2, ⟨h.calls.1, le_rfl⟩, hresults, rfl⟩

omit [PyRuntime F] in
/-- The tags are made anew while no drain holds an event. -/
theorem Sound.makeTags (h : r.Sound) (hdrained : r.drained = [])
    (hemptied : r.resultsRun = r.manager.startCalls ∧ r.statusesRun = r.manager.startCalls)
    (env : StartEnv F) {runtimeTags : OrderedDict (String × String) (Settings F)}
    {serverStatuses : OrderedDict String (Settings F)} :
    Sound { r with
      manager := { r.manager with runtimeTags, serverStatuses }
      call := .startingPublisher env
      tagsRun := r.manager.startCalls } :=
  ⟨⟨h.taken, h.recorded⟩, h.results, h.statuses, h.launched, h.queued, h.events,
    hdrained ▸ nofun, hemptied.2.ge, h.calls, hemptied⟩

theorem Sound.proceed (h : r.Sound) (hclear : r.Clear .proceed) : r.proceed.Sound := by
  obtain ⟨hempties, htags⟩ := hclear
  have hcall := h.call
  cases hc : r.call with
  | starting env healthIntervalS runtimeLogEnabled => exact h.proceed_starting hc
  | clearingStop env =>
    rw [proceed_eq (by rw [hc]; rfl), Runtime.proceed, hc]
    exact h.same (fun _ hw => hw) (fun _ hw => hw) rfl rfl rfl trivial
  | clearingResults env =>
    simp only [empties, hc] at hempties
    rw [QueueRuntime.proceed, hc, Runtime.proceed, hc]
    exact h.emptyResults hempties env
  | clearingStatuses env =>
    rw [hc] at hcall
    simp only [empties, hc] at hempties
    rw [QueueRuntime.proceed, hc, Runtime.proceed, hc]
    exact h.emptyStatuses hempties hcall env
  | initialisingTags env =>
    rw [hc] at hcall
    have hdrained : r.drained = [] := List.isEmpty_iff.mp (htags (by rw [makesTags, hc]))
    rw [QueueRuntime.proceed, hc, Runtime.proceed, hc]
    exact h.makeTags hdrained hcall env
  | startingRefresh env config => exact h.proceed_startingRefresh hc
  | startingDevices env devices =>
    rw [hc] at hcall
    cases devices with
    | nil =>
      rw [proceed_eq (by rw [hc]; rfl), Runtime.proceed, hc]
      exact h.same (fun _ hw => hw) (fun _ hw => hw) rfl rfl rfl hcall
    | cons device devices => exact h.proceed_plain (by rw [hc]; rfl) (by rw [hc]; rfl) hcall
  | settingStop =>
    rw [hc] at hcall
    rw [proceed_eq (by rw [hc]; rfl), Runtime.proceed, hc]
    exact h.same (fun _ hw => hw) (fun _ hw => hw) rfl rfl rfl hcall
  | joining workers =>
    rw [hc] at hcall
    cases workers with
    | nil =>
      rw [proceed_eq (by rw [hc]; rfl), Runtime.proceed, hc]
      exact h.same (fun _ hw => hw) (fun _ hw => hw) rfl rfl rfl hcall
    | cons worker workers => exact h.proceed_plain (by rw [hc]; rfl) (by rw [hc]; rfl) hcall
  | _ =>
    rw [hc] at hcall
    exact h.proceed_plain (by rw [hc]; rfl) (by rw [hc]; rfl) hcall

theorem Sound.step (h : r.Sound) {event : QueueEvent F} (hclear : r.Clear event) :
    (r.step event).Sound := by
  have hrequest (call : ManagerCall F)
      (hcall : ∀ n results statuses, (r.call.finished = true → r.call.Emptied n results statuses →
        call.Emptied n results statuses)) : Sound { r with toRuntime := r.request call } := by
    rw [Runtime.request]
    split
    · exact h.same (fun _ hw => hw) (fun _ hw => hw) rfl rfl rfl (hcall _ _ _ ‹_› h.call)
    · exact h
  have hfinished {n results statuses : Nat} (hf : r.call.finished = true)
      (he : r.call.Emptied n results statuses) : results = n ∧ statuses = n := by
    cases hc : r.call <;> rw [hc] at hf he <;> first | exact he | cases hf
  cases event with
  | start env healthIntervalS runtimeLogEnabled => exact hrequest _ fun _ _ _ => hfinished
  | stop => exact hrequest _ fun _ _ _ => hfinished
  | proceed => exact h.proceed hclear
  | configure store => exact h.same (fun _ hw => hw) (fun _ hw => hw) rfl rfl rfl h.call
  | look worker =>
    rw [QueueRuntime.step]
    split
    · split
      · exact h.endThread worker
      · rename_i hstop
        exact h.setRound worker fun _ => hstop
    · exact h
  | leave worker =>
    rw [QueueRuntime.step]
    split
    · exact h.setRound worker nofun
    · exact h
  | exit worker =>
    rw [QueueRuntime.step]
    split
    · exact h.endThread worker
    · exact h
  | putResult worker result =>
    rw [QueueRuntime.step]
    split
    · rename_i hputs
      exact h.putResult hputs.1 hputs.2 result
    · exact h
  | putStatus worker event =>
    rw [QueueRuntime.step]
    split
    · rename_i hputs
      exact h.putStatus hputs.1 hputs.2 event
    · exact h
  | takeResult worker =>
    rw [QueueRuntime.step]
    split
    · rename_i htakes
      exact h.takeResult htakes.1
    · exact h
  | drain => exact h.drain
  | record index => exact h.record index

omit [PyRuntime F] in
theorem sound_fresh (store : ConfigStore F) (driverRegistry sinkRegistry : Registry) :
    (fresh store driverRegistry sinkRegistry).Sound :=
  ⟨⟨nofun, nofun⟩, nofun, nofun, nofun, fun _ he => (List.not_mem_nil he).elim, nofun, nofun,
    le_rfl, ⟨le_rfl, le_rfl⟩, rfl, rfl⟩

end QueueRuntime

open QueueRuntime in
/-- In a run that stays clear no start sees what the threads of an earlier one put. -/
theorem runs_stay_apart {store : ConfigStore F} {driverRegistry sinkRegistry : Registry}
    {r : QueueRuntime F}
    (h : Runs.Reaches step Clear (fresh store driverRegistry sinkRegistry) r) : r.RunsApart := by
  have hsound : r.Sound := by
    apply h.invariant
    · exact sound_fresh store driverRegistry sinkRegistry
    · intro r event hr hclear
      exact hr.step hclear
  exact hsound.toRunsApart

namespace QueueRuntime

variable {r : QueueRuntime F}

omit [PyRuntime F] in
/-- A drain that holds no other event is a round of `drain_events`. -/
theorem drain_record (hdrained : r.drained = []) :
    (r.drain.record 0).manager = (r.manager.drainRound.map Prod.snd).getD r.manager := by
  rw [QueueRuntime.drain, drainRound, LatestStatusQueue.getNowait]
  cases hpop : r.manager.statusQueue.items.popFirst with
  | none =>
    rw [QueueRuntime.record, hdrained]
    rfl
  | some popped =>
    simp only [QueueRuntime.record, hdrained]
    rfl

omit [PyRuntime F] in
theorem splitItems_ne_nil (result : ReadResult F) :
    LatestReadResultQueue.splitItems result ≠ [] := by
  rw [LatestReadResultQueue.splitItems]
  split
  · exact List.cons_ne_nil _ _
  · rename_i hsplit
    intro hnil
    simp [List.map_eq_nil_iff.mp hnil] at hsplit

/-- What a thread of an earlier start puts into the emptied queue is what the next
`get` of a publisher returns. -/
theorem late_put_leaks {worker publisher : Worker} {result : ReadResult F}
    (hwork : r.AtWork worker) (hputs : worker.role.putsResults = true)
    (hpublisher : r.AtWork publisher) (hrole : publisher.role = .publisher)
    (hempty : r.manager.resultQueue.items.entries = [])
    (hearlier : worker.startCall < publisher.startCall) :
    ¬ ((r.step (.putResult worker result)).step (.takeResult publisher)).RunsApart := by
  have hput : r.step (.putResult worker result) = r.putResult worker result :=
    if_pos ⟨hwork, hputs⟩
  have htake : (r.putResult worker result).step (.takeResult publisher) =
      (r.putResult worker result).takeResult publisher := if_pos ⟨hpublisher, hrole⟩
  rw [hput, htake]
  set queue := (LatestReadResultQueue.splitItems result).foldl LatestReadResultQueue.putItem
    r.manager.resultQueue.items with hqueue
  have hfirst : ∃ p rest, queue.popFirst = some (p, rest) := by
    obtain ⟨ps, p, hps⟩ := (List.eq_nil_or_concat _).resolve_left (splitItems_ne_nil result)
    have hentries : queue.entries ≠ [] := by
      rw [hqueue, hps, List.concat_eq_append, List.foldl_append]
      simp only [List.foldl_cons, List.foldl_nil, LatestReadResultQueue.putItem,
        OrderedDict.entries_setLast]
      exact List.append_ne_nil_of_right_ne_nil _ (List.cons_ne_nil _ _)
    obtain ⟨entries, hn⟩ := queue
    cases entries with
    | nil => exact absurd rfl hentries
    | cons e entries => exact ⟨e, _, rfl⟩
  obtain ⟨⟨key, first⟩, rest, hpop⟩ := hfirst
  have hmem : (key, first) ∈ queue.entries := popFirst_entries hpop ▸ List.mem_cons_self
  have hkey : key ∈ (LatestReadResultQueue.splitItems result).map Prod.fst := by
    refine (mem_put hmem).resolve_right fun hold => ?_
    rw [hempty] at hold
    cases hold
  intro hapart
  have htaken : (publisher.startCall, worker.startCall) ∈
      ((r.putResult worker result).takeResult publisher).taken := by
    have hget : (r.putResult worker result).manager.resultQueue.items.popFirst =
        some ((key, first), rest) := hpop
    have horigin : (r.putResult worker result).resultOrigin key = worker.startCall := if_pos hkey
    rw [QueueRuntime.takeResult, hget]
    simp [horigin]
  exact absurd (hapart.taken _ htaken) hearlier.not_ge

end QueueRuntime

-- ---------------------------------------------------------------------------
-- Two runs
-- ---------------------------------------------------------------------------

def plcGateway : QueueRuntime WholeFloat :=
  .fresh (RuntimeManager.storeWith "modbus_tcp") defaultDriverRegistry defaultSinkRegistry

namespace PlcRun

/-- A call from its first to its last step, for a gateway with one device. -/
def start : List (QueueEvent WholeFloat) := .start {} none none :: List.replicate 10 .proceed

def stop : List (QueueEvent WholeFloat) := .stop :: List.replicate 7 .proceed

def publisher (startCall ident : Nat) : Worker := ⟨ident, startCall, .publisher, true⟩

def poller (startCall ident : Nat) : Worker := ⟨ident, startCall, .poller, true⟩

/-- A read that failed. -/
def result : ReadResult WholeFloat where
  device := ⟨some 1, "plc", "modbus_tcp", true, 1000, "", ∅⟩
  timestamp := 0
  tags := []
  error := some "timed out"

/-- A round of a poller, the publisher's round on its result, and a drain. -/
def round (poller publisher : Worker) : List (QueueEvent WholeFloat) :=
  [.look poller, .putResult poller result, .leave poller, .takeResult publisher,
    .putStatus publisher (.text "plc: read failed: timed out"), .leave publisher, .drain, .record 0]

/-- The threads of the first start look at their stop events before the second. -/
def ended : List (QueueEvent WholeFloat) :=
  start ++ round (poller 1 2) (publisher 1 0) ++ stop ++ [.look (poller 1 2), .look (publisher 1 0)] ++
    start ++ round (poller 2 5) (publisher 2 3)

/-- The first poller is in a read while the gateway is stopped and started. -/
def reading : List (QueueEvent WholeFloat) :=
  start ++ [.look (poller 1 2)] ++ stop ++ start ++
    [.putResult (poller 1 2) result, .takeResult (publisher 2 3)]

end PlcRun

theorem polled_in_turn : (PlcRun.ended.foldl QueueRuntime.step plcGateway).RunsApart :=
  runs_stay_apart (.of_lets .start (by decide +kernel))

theorem late_read_is_published : ¬ ∀ r : QueueRuntime WholeFloat,
    Runs.Reaches QueueRuntime.step (fun _ _ => True) plcGateway r → r.RunsApart := by
  intro h
  have hrun : Runs.Reaches QueueRuntime.step (fun _ _ => True) plcGateway
      (PlcRun.reading.foldl QueueRuntime.step plcGateway) := .foldl .start fun _ _ _ => trivial
  have htaken : (2, 1) ∈ (PlcRun.reading.foldl QueueRuntime.step plcGateway).taken := by
    decide +kernel
  exact absurd ((h _ hrun).taken _ htaken) (by decide)

end IndustrialGateway
