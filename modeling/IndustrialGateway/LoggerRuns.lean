import IndustrialGateway.Logging
import IndustrialGateway.OpcUaModes

/-!
# Runs of the logger

Workers put records, the thread of the logger and the callers of `drain_events` take
them, and the settings change in between. The logger lives as long as every record that
is taken passes; one that does not ends the thread or comes out of `drain_events`.
-/

namespace IndustrialGateway

variable {F : Type}

-- ---------------------------------------------------------------------------
-- Steps
-- ---------------------------------------------------------------------------

inductive LoggerThread where
  | running
  | stopped
  | died (exc : PyException)
  deriving DecidableEq

/-- The logger with its thread. `calls` has the outcome of each call of `drain_once` on
a queue with records, `raised` what came out of `drain_events`. -/
structure Logging (F : Type) where
  worker : AsyncLogWorker F
  stopEvent : Bool := false
  thread : LoggerThread := .running
  calls : List (Except PyException Bool) := []
  raised : List PyException := []

inductive LogStep (F : Type) where
  | put (item : QueuedRecord F)
  | setDebugEnabled (enabled : Bool)
  | setRuntimeLogEnabled (enabled : Bool)
  | stop
  /-- One pass of the loop of `run`. -/
  | pass (env : LogEnv)
  /-- One call of `drain_once` in the loop of `drain_events`. -/
  | drainCall (env : LogEnv)

namespace Logging

variable [PyRuntime F]

def call (s : Logging F) (env : LogEnv) : Except PyException Bool × Logging F :=
  let (outcome, worker) := s.worker.drainOnce env
  (outcome, { s with
    worker, calls := if s.worker.inputQueue.isEmpty then s.calls else s.calls ++ [outcome] })

def step (s : Logging F) : LogStep F → Logging F
  | .put item => { s with worker.inputQueue := s.worker.inputQueue ++ [item] }
  | .setDebugEnabled enabled => { s with worker.debugEnabled := enabled }
  | .setRuntimeLogEnabled enabled => { s with worker.runtimeLogEnabled := enabled }
  | .stop => { s with stopEvent := true }
  | .pass env =>
    if s.thread ≠ .running then s
    else if s.stopEvent then { s with thread := .stopped }
    else match s.call env with
      | (.ok _, s) => s
      | (.error e, s) => { s with thread := .died e }
  | .drainCall env =>
    match s.call env with
    | (.ok _, s) => s
    | (.error e, s) => { s with raised := s.raised ++ [e] }

def run (s : Logging F) (steps : List (LogStep F)) : Logging F := steps.foldl step s

omit [PyRuntime F] in
/-- The logger as `RuntimeManager` starts it. -/
def started (worker : AsyncLogWorker F) : Logging F := { worker }

-- ---------------------------------------------------------------------------
-- Health
-- ---------------------------------------------------------------------------

omit [PyRuntime F] in
/-- Each call on a queue with records has returned `True`, no exception has ended the
thread, and `drain_events` has not raised. -/
structure Alive (s : Logging F) : Prop where
  calls : ∀ outcome ∈ s.calls, outcome = .ok true
  thread : ∀ exc, s.thread ≠ .died exc
  raised : s.raised = []

/-- The next record passes the filters, the formatter and the files. -/
def NextPasses (s : Logging F) (env : LogEnv) : Prop :=
  ∀ item ∈ s.worker.inputQueue.head?, s.worker.Passes env item

/-- A step that takes a record takes one that passes. -/
def Meets (s : Logging F) : LogStep F → Prop
  | .pass env => s.thread = .running → s.stopEvent = false → s.NextPasses env
  | .drainCall env => s.NextPasses env
  | _ => True

theorem calls_of_passes {s : Logging F} {env : LogEnv} (h : s.NextPasses env) :
    (∃ more, (s.call env).1 = .ok more) ∧
      ∀ outcome, outcome ∈ (s.call env).2.calls → outcome ∈ s.calls ∨ outcome = .ok true := by
  cases hqueue : s.worker.inputQueue with
  | nil =>
    rw [call, AsyncLogWorker.drainOnce_nil hqueue, hqueue]
    exact ⟨⟨false, rfl⟩, fun _ => .inl⟩
  | cons item rest =>
    have hitem : s.worker.Passes env item := h item (by rw [hqueue]; rfl)
    obtain ⟨-, -, ⟨hok, -⟩ | ⟨-, hnot⟩⟩ := AsyncLogWorker.drainOnce_spec hqueue env
    · refine ⟨⟨true, hok⟩, fun outcome hmem => ?_⟩
      rw [call, hqueue] at hmem
      rcases List.mem_append.mp hmem with hold | hnew
      · exact .inl hold
      · exact .inr ((List.mem_singleton.mp hnew).trans hok)
    · exact absurd hitem hnot

theorem calls_of_not_passes {s : Logging F} {env : LogEnv} (h : ¬ s.NextPasses env) :
    ∃ exc, (s.call env).1 = .error exc := by
  cases hqueue : s.worker.inputQueue with
  | nil =>
    refine absurd ?_ h
    rw [NextPasses, hqueue]
    rintro item ⟨⟩
  | cons item rest =>
    obtain ⟨-, -, ⟨-, hpasses⟩ | ⟨herror, -⟩⟩ := AsyncLogWorker.drainOnce_spec hqueue env
    · refine absurd ?_ h
      rw [NextPasses, hqueue]
      rintro _ ⟨⟩
      exact hpasses
    · exact herror

theorem calls_kept {s : Logging F} {env : LogEnv} {outcome : Except PyException Bool}
    (h : outcome ∈ s.calls) : outcome ∈ (s.call env).2.calls := by
  rw [call]
  dsimp only
  split
  · exact h
  · exact List.mem_append_left _ h

theorem alive_call {s : Logging F} {env : LogEnv} (h : s.NextPasses env) :
    (s.call env).2.Alive ↔ s.Alive := by
  obtain ⟨-, hcalls⟩ := calls_of_passes h
  constructor
  · exact fun halive => ⟨fun outcome hmem => halive.calls outcome (calls_kept hmem), halive.thread,
      halive.raised⟩
  · exact fun halive => ⟨fun outcome hmem => (hcalls outcome hmem).elim (halive.calls outcome) id,
      halive.thread, halive.raised⟩

/-- Where a failed call costs the logger its health, a call keeps it exactly when the
next record passes. -/
theorem alive_after_call (s : Logging F) (env : LogEnv)
    {failed : PyException → Logging F → Logging F} (hfailed : ∀ exc t, ¬(failed exc t).Alive) :
    (match s.call env with
      | (.ok _, t) => t
      | (.error exc, t) => failed exc t).Alive ↔ s.Alive ∧ s.NextPasses env := by
  by_cases hnext : s.NextPasses env
  · obtain ⟨⟨more, hmore⟩, -⟩ := calls_of_passes hnext
    have halive := alive_call hnext
    rcases hcall : s.call env with ⟨outcome, t⟩
    rw [hcall] at hmore halive
    obtain rfl : outcome = .ok more := hmore
    exact halive.trans (and_iff_left hnext).symm
  · obtain ⟨exc, hexc⟩ := calls_of_not_passes hnext
    rcases hcall : s.call env with ⟨outcome, t⟩
    rw [hcall] at hexc
    obtain rfl : outcome = .error exc := hexc
    exact iff_of_false (hfailed exc t) fun h => hnext h.2

/-- A step leaves a logger alive exactly when it was and the record that is taken passes. -/
theorem alive_step (s : Logging F) (a : LogStep F) : (s.step a).Alive ↔ s.Alive ∧ s.Meets a := by
  cases a with
  | put item => exact ⟨fun h => ⟨⟨h.calls, h.thread, h.raised⟩, trivial⟩,
      fun h => ⟨h.1.calls, h.1.thread, h.1.raised⟩⟩
  | setDebugEnabled enabled => exact ⟨fun h => ⟨⟨h.calls, h.thread, h.raised⟩, trivial⟩,
      fun h => ⟨h.1.calls, h.1.thread, h.1.raised⟩⟩
  | setRuntimeLogEnabled enabled => exact ⟨fun h => ⟨⟨h.calls, h.thread, h.raised⟩, trivial⟩,
      fun h => ⟨h.1.calls, h.1.thread, h.1.raised⟩⟩
  | stop => exact ⟨fun h => ⟨⟨h.calls, h.thread, h.raised⟩, trivial⟩,
      fun h => ⟨h.1.calls, h.1.thread, h.1.raised⟩⟩
  | pass env =>
    rw [step, Meets]
    split
    · rename_i hended
      exact ⟨fun h => ⟨h, fun hrunning => absurd hrunning hended⟩, And.left⟩
    rename_i hrunning
    split
    · rename_i hstop
      refine ⟨fun h => ⟨⟨h.calls, ?_, h.raised⟩, fun _ hgo => ?_⟩, fun h => ⟨h.1.calls, nofun, h.1.raised⟩⟩
      · rw [not_not.mp hrunning]
        exact nofun
      · rw [hstop] at hgo
        cases hgo
    rename_i hgo
    have hmeets : (s.thread = .running → s.stopEvent = false → s.NextPasses env) ↔
        s.NextPasses env :=
      ⟨fun h => h (not_not.mp hrunning) (Bool.not_eq_true _ ▸ hgo), fun h _ _ => h⟩
    rw [hmeets]
    exact alive_after_call s env fun exc _ h => h.thread exc rfl
  | drainCall env =>
    rw [step, Meets]
    exact alive_after_call s env fun _ _ h =>
      List.append_ne_nil_of_right_ne_nil _ (List.cons_ne_nil _ _) h.raised

theorem run_append (s : Logging F) (steps steps' : List (LogStep F)) :
    s.run (steps ++ steps') = (s.run steps).run steps' := List.foldl_append

/-- A run leaves a logger alive exactly when each record it takes passes. -/
theorem alive_run (s : Logging F) (steps : List (LogStep F)) :
    (s.run steps).Alive ↔ s.Alive ∧
      ∀ before a after, steps = before ++ a :: after → (s.run before).Meets a := by
  induction steps using List.reverseRecOn with
  | nil =>
    refine (and_iff_left fun before a after h => ?_).symm
    exact absurd h.symm (List.append_ne_nil_of_right_ne_nil _ (List.cons_ne_nil _ _))
  | append_singleton steps last ih =>
    rw [run_append]
    change ((s.run steps).step last).Alive ↔ _
    rw [alive_step, ih, and_assoc]
    refine and_congr_right fun _ => ?_
    constructor
    · rintro ⟨hbefore, hlast⟩ before a after hsteps
      rcases List.eq_nil_or_concat after with rfl | ⟨after, end_, rfl⟩
      · obtain ⟨rfl, hend⟩ := List.append_inj' hsteps rfl
        obtain rfl := (List.cons.inj hend).1
        exact hlast
      · rw [List.concat_eq_append, ← List.cons_append, ← List.append_assoc] at hsteps
        exact hbefore before a after (List.append_inj' hsteps rfl).1
    · intro hall
      refine ⟨fun before a after hsteps => hall before a (after ++ [last]) ?_, hall steps last [] rfl⟩
      rw [hsteps, List.append_assoc, List.cons_append]

/-- The thread ends for `stop` or for an exception. -/
theorem stopped_run (worker : AsyncLogWorker F) (steps : List (LogStep F)) :
    ((started worker).run steps).thread = .stopped →
      ((started worker).run steps).stopEvent = true := by
  induction steps using List.reverseRecOn with
  | nil => exact nofun
  | append_singleton steps last ih =>
    rw [run_append]
    change (((started worker).run steps).step last).thread = _ →
      (((started worker).run steps).step last).stopEvent = _
    generalize (started worker).run steps = s at ih
    cases last with
    | put item => exact ih
    | setDebugEnabled enabled => exact ih
    | setRuntimeLogEnabled enabled => exact ih
    | stop => exact fun _ => rfl
    | pass env =>
      rw [step]
      split
      · exact ih
      split
      · exact fun _ => ‹_›
      rcases hcall : s.call env with ⟨_ | more, t⟩
      · exact nofun
      · obtain rfl : (s.call env).2 = t := by rw [hcall]
        exact ih
    | drainCall env =>
      rw [step]
      rcases hcall : s.call env with ⟨_ | more, t⟩
      all_goals
        obtain rfl : (s.call env).2 = t := by rw [hcall]
        exact ih

end Logging

-- ---------------------------------------------------------------------------
-- Draining the events
-- ---------------------------------------------------------------------------

variable [PyRuntime F]

/-- `drain_events` with the logger that it drains. -/
def RuntimeManager.drainEventsFrom (m : RuntimeManager F) (logger : AsyncLogWorker F)
    (envs : Nat → LogEnv) (limit : Nat := 1000) :
    Except PyException (List (Settings F)) × RuntimeManager F × AsyncLogWorker F :=
  match logger.drainAll envs with
  | (.ok _, logger) =>
    let (events, m) := m.drainEvents logger.displayQueue limit
    (.ok events, m, { logger with displayQueue := [] })
  | (.error e, logger) => (.error e, (m.drainRounds limit).2, logger)

theorem RuntimeManager.drainEventsFrom_eq_ok (m : RuntimeManager F) (logger : AsyncLogWorker F)
    (envs : Nat → LogEnv) (limit : Nat) :
    (∃ events, (m.drainEventsFrom logger envs limit).1 = .ok events) ↔
      logger.AllPass envs logger.inputQueue := by
  obtain ⟨-, ⟨hok, -, hall⟩ | ⟨⟨e, herror⟩, hnot⟩⟩ := AsyncLogWorker.drainAll_spec envs logger
  · rcases hdrain : logger.drainAll envs with ⟨outcome, logger'⟩
    rw [hdrain] at hok
    obtain rfl : outcome = .ok () := hok
    rw [RuntimeManager.drainEventsFrom, hdrain]
    exact ⟨fun _ => hall, fun _ => ⟨_, rfl⟩⟩
  · rcases hdrain : logger.drainAll envs with ⟨outcome, logger'⟩
    rw [hdrain] at herror
    obtain rfl : outcome = .error e := herror
    rw [RuntimeManager.drainEventsFrom, hdrain]
    exact ⟨fun ⟨_, h⟩ => (nomatch h), fun h => absurd h hnot⟩

-- ---------------------------------------------------------------------------
-- Records of data changes
-- ---------------------------------------------------------------------------

def WorkerEvent.log? : WorkerEvent F → Option (LogRecord F)
  | .log r => some r
  | _ => none

/-- What a worker puts on the log queue. -/
def logged (es : List (WorkerEvent F)) : List (QueuedRecord F) :=
  es.filterMap fun e => e.log?.map fun record => { record }

omit [PyRuntime F] in
theorem checkJson_payloadValue (tag : TagResult F) :
    tag.payloadValue.checkJson = .ok () ↔ tag.value.checkJson = .ok () := by
  have herror : ((tag.error.map PyValue.str).getD .none : PyValue F).checkJson = .ok () := by
    cases tag.error <;> rfl
  have hnode : ∀ p ∈ (tag.nodeId.map fun nodeId => ("node_id", (.str nodeId : PyValue F))).toList,
      p.2.checkJson = .ok () := by
    cases tag.nodeId with
    | none => exact nofun
    | some nodeId => simp [PyValue.checkJson]
  have hgroup : ∀ p ∈ (if tag.tagGroup = "" then [] else [("tag_group", (.str tag.tagGroup : PyValue F))]),
      p.2.checkJson = .ok () := by
    split
    · exact nofun
    · simp [PyValue.checkJson]
  rw [TagResult.payloadValue, PyValue.checkJson, PyValue.checkJsonDict_eq_ok, List.forall_mem_append,
    List.forall_mem_append]
  simp only [List.forall_mem_cons, herror, PyValue.checkJson]
  constructor
  · exact fun h => h.1.1.2.2.1
  · exact fun h => ⟨⟨⟨trivial, trivial, h, trivial, trivial, trivial, nofun⟩, hnode⟩, hgroup⟩

omit [PyRuntime F] in
/-- The record of a data change can be written exactly when each of its values can. -/
theorem serializable_datachange {w : OpcUaSubscriptionWorker F} {result : ReadResult F}
    {item : QueuedRecord F} (h : item ∈ logged (w.emitResult result)) :
    item.Serializable ↔ ∀ tag ∈ result.tags, tag.value.checkJson = .ok () := by
  rw [OpcUaSubscriptionWorker.emitResult] at h
  cases hon : w.datachangeLogEnabled with
  | false =>
    rw [hon] at h
    cases h
  | true =>
    rw [hon] at h
    obtain rfl := List.mem_singleton.mp h
    rw [QueuedRecord.Serializable, OrderedDict.entries_ofList (by simp)]
    simp only [List.cons_append, List.nil_append, List.forall_mem_cons, PyValue.checkJson,
      PyValue.checkJsonList_eq_ok, List.forall_mem_map, checkJson_payloadValue]
    exact ⟨fun h => h.2.1, fun h => ⟨trivial, h, trivial, nofun⟩⟩

-- ---------------------------------------------------------------------------
-- The life of the logger
-- ---------------------------------------------------------------------------

/-- The logger of every run lives, and `drain_events` returns, exactly as long as what is
taken from the queue passes. -/
theorem logger_lives_iff (worker : AsyncLogWorker F) (steps : List (LogStep F)) :
    (((Logging.started worker).run steps).Alive ↔
      ∀ before a after, steps = before ++ a :: after →
        ((Logging.started worker).run before).Meets a) ∧
    (((Logging.started worker).run steps).thread = .stopped →
      ((Logging.started worker).run steps).stopEvent = true) ∧
    ∀ (m : RuntimeManager F) (envs : Nat → LogEnv) (limit : Nat),
      (∃ events, (m.drainEventsFrom ((Logging.started worker).run steps).worker envs limit).1 =
          .ok events) ↔
        ((Logging.started worker).run steps).worker.AllPass envs
          ((Logging.started worker).run steps).worker.inputQueue := by
  have hstarted : (Logging.started worker).Alive := ⟨nofun, nofun, rfl⟩
  refine ⟨?_, Logging.stopped_run worker steps, fun m envs limit => m.drainEventsFrom_eq_ok _ envs limit⟩
  rw [Logging.alive_run]
  exact and_iff_right hstarted

/-- A text that UTF-8 cannot encode passes `json.dumps` and ends the thread at the log file. -/
example :
    let item : QueuedRecord WholeFloat := { record := ⟨"INFO", "driver", "mqtt read", []⟩ }
    let encodeError (_ : String) : Option PyException :=
      some ⟨.other "UnicodeEncodeError", "surrogates not allowed"⟩
    ((Logging.started { logDir := some "logs" }).run
      [.put item, .pass { now := "2026-05-16", encodeError }]).thread =
        .died ⟨.other "UnicodeEncodeError", "surrogates not allowed"⟩ := by
  decide +kernel

/-- A clock of a machine, read as it is. -/
def clockTag : TagSpec WholeFloat :=
  { name := "clock", address := 0, function := "opcua_node", dataType := "auto", scale := ⟨1⟩,
    offset := ⟨0⟩, nodeId := some "ns=2;s=Clock" }

def clockWorker : OpcUaSubscriptionWorker WholeFloat :=
  ⟨OpcUa.boiler, [clockTag], ⟨10⟩, ⟨5⟩, true, ⟨0⟩⟩

/-- What the worker puts on the log queue when the node changes to a `datetime`. -/
def clockRecords : List (QueuedRecord WholeFloat) :=
  (OpcUa.datachangeNotification OpcUa.builtins OpcUa.boiler
    (OpcUa.startSubscription [clockTag]).nodeMap "ns=2;s=Clock"
    (.object "datetime" "2026-05-16 02:30:00") 0).toList.flatMap fun result =>
      logged (clockWorker.emitResult result)

theorem clock_ends_logger : ¬ ∀ (worker : AsyncLogWorker WholeFloat) (steps : List (LogStep WholeFloat)),
    ((Logging.started worker).run steps).Alive := by
  intro h
  have halive := h {} (clockRecords.map .put ++ [.pass { now := "2026-05-16T02:30:00+00:00" }])
  have hdied : ((Logging.started ({} : AsyncLogWorker WholeFloat)).run
      (clockRecords.map .put ++ [.pass { now := "2026-05-16T02:30:00+00:00" }])).thread =
        .died ⟨.typeError, "Object of type datetime is not JSON serializable"⟩ := by
    decide +kernel
  exact halive.thread _ hdied

end IndustrialGateway
