import IndustrialGateway.Lib.LatestQueue
import IndustrialGateway.Lib.WholeFloat
import IndustrialGateway.RuntimeManager

/-!
# Recorded events

Workers put events into the latest-status queue while drains take them out of it
and record them. Once the queue is empty, the states of all tags and servers are
those of a manager that recorded every event, in the order in which they were
put.
-/

namespace IndustrialGateway

open LatestQueue LatestStatusQueue OrderedDict

variable {F : Type}

namespace RuntimeManager

-- ---------------------------------------------------------------------------
-- Steps
-- ---------------------------------------------------------------------------

def putStatus (m : RuntimeManager F) (e : StatusEvent) : RuntimeManager F :=
  { m with statusQueue := m.statusQueue.put e }

/-- The states after one event. -/
def recorded (m : RuntimeManager F) (e : StatusEvent) : RuntimeManager F := (m.recordStatus e).2

/-- A worker puts an event, or a call of `drain_events` goes through a round of its
loop, or it ends with the lines of the logger. -/
inductive StatusStep where
  | put (e : StatusEvent)
  | drainRound
  | drainLogs (lines : List String)

def StatusStep.event? : StatusStep → Option StatusEvent
  | .put e => some e
  | _ => none

def statusStep (m : RuntimeManager F) : StatusStep → RuntimeManager F
  | .put e => m.putStatus e
  | .drainRound => (m.drainRound.map Prod.snd).getD m
  | .drainLogs lines => m.appendLogs lines

/-- The rounds of a drain are steps. -/
theorem drainRounds_steps (limit : Nat) (m : RuntimeManager F) :
    ∃ n, (drainRounds limit m).2 = (List.replicate n .drainRound).foldl statusStep m := by
  induction limit generalizing m with
  | zero => exact ⟨0, rfl⟩
  | succ limit ih =>
    rw [drainRounds]
    cases hround : m.drainRound with
    | none => exact ⟨0, rfl⟩
    | some next =>
      obtain ⟨event, m'⟩ := next
      obtain ⟨n, hn⟩ := ih m'
      refine ⟨n + 1, ?_⟩
      rw [List.replicate_succ, List.foldl_cons, statusStep, hround]
      exact hn

theorem drainEvents_steps (m : RuntimeManager F) (lines : List String) (limit : Nat) :
    ∃ n, (m.drainEvents lines limit).2 =
      (List.replicate n StatusStep.drainRound ++ [StatusStep.drainLogs lines]).foldl statusStep m := by
  obtain ⟨n, hn⟩ := drainRounds_steps limit m
  refine ⟨n, ?_⟩
  rw [List.foldl_append, ← hn]
  rfl

-- ---------------------------------------------------------------------------
-- What a recorded event changes
-- ---------------------------------------------------------------------------

@[simp] theorem statusQueue_recorded (m : RuntimeManager F) (e : StatusEvent) :
    (m.recorded e).statusQueue = m.statusQueue := by
  cases e <;> rfl

/-- The states of tags and servers. -/
def states (m : RuntimeManager F) :
    OrderedDict (String × String) (Settings F) × OrderedDict String (Settings F) :=
  (m.runtimeTags, m.serverStatuses)

theorem statusQueue_appendLogs (m : RuntimeManager F) (lines : List String) :
    (m.appendLogs lines).statusQueue = m.statusQueue := by
  rw [appendLogs]

theorem states_appendLogs (m : RuntimeManager F) (lines : List String) :
    (m.appendLogs lines).states = m.states := by
  rw [appendLogs, states, states]

theorem states_recorded {m m' : RuntimeManager F} (h : m.states = m'.states) (e : StatusEvent) :
    (m.recorded e).states = (m'.recorded e).states := by
  obtain ⟨htags, hservers⟩ := Prod.mk.inj h
  cases e with
  | text message => exact h
  | tagUpdate device tagGroup tag nodeId mode timestamp quality error =>
    simp only [states, recorded, recordStatus, htags, hservers]
  | serverStatus device status timestamp error =>
    simp only [states, recorded, recordStatus, htags, hservers]

/-- The recorder's keys are the queue's keys. -/
theorem runtimeTags_recorded (m : RuntimeManager F) (e : StatusEvent) (device tag : String) :
    (m.recorded e).runtimeTags.get? (device, tag) =
      if key 0 e = .tagUpdate device tag then
        some (((m.runtimeTags.get? (device, tag)).getD ∅).update e.entries)
      else m.runtimeTags.get? (device, tag) := by
  cases e with
  | text message => rfl
  | serverStatus => rfl
  | tagUpdate device' tagGroup tag' nodeId mode timestamp quality error =>
    simp only [recorded, recordStatus, get?_set, key, Prod.mk.injEq, StatusKey.tagUpdate.injEq]
    split
    · rename_i hkey
      rw [hkey.1, hkey.2]
    · rfl

theorem serverStatuses_recorded (m : RuntimeManager F) (e : StatusEvent) (device : String) :
    (m.recorded e).serverStatuses.get? device =
      if key 0 e = .serverStatus device then some (.ofList e.entries)
      else m.serverStatuses.get? device := by
  cases e with
  | text message => rfl
  | tagUpdate => rfl
  | serverStatus device' status timestamp error =>
    simp only [recorded, recordStatus, get?_set, key, StatusKey.serverStatus.injEq]

/-- The last event on a tag decides its state. -/
theorem runtimeTags_foldl (m : RuntimeManager F) (events : List StatusEvent) (device tag : String) :
    (events.foldl recorded m).runtimeTags.get? (device, tag) =
      ((lastOf (key 0) (.tagUpdate device tag) events).map fun e =>
        some (((m.runtimeTags.get? (device, tag)).getD ∅).update e.entries)).getD
          (m.runtimeTags.get? (device, tag)) := by
  let observe (m : RuntimeManager F) := m.runtimeTags.get? (device, tag)
  let write (e : StatusEvent) (row : Option (Settings F)) := some ((row.getD ∅).update e.entries)
  have hother : ∀ e ∈ events, key 0 e ≠ .tagUpdate device tag → ∀ m,
      observe (recorded m e) = observe m := by
    intro e _ hne m
    simp only [observe, runtimeTags_recorded, if_neg hne]
  have hwrite : ∀ e ∈ events, key 0 e = .tagUpdate device tag → ∀ m,
      observe (recorded m e) = write e (observe m) := by
    intro e _ hkey m
    simp only [observe, write, runtimeTags_recorded, if_pos hkey]
  have habsorb : ∀ e e' row, key 0 e = .tagUpdate device tag → key 0 e' = .tagUpdate device tag →
      write e' (write e row) = write e' row := by
    intro e e' row hkey hkey'
    exact congrArg some (update_update _ (entries_keys (hkey.trans hkey'.symm)))
  exact observe_foldl hother hwrite habsorb m

/-- The last state of a server replaces all before it. -/
theorem serverStatuses_foldl (m : RuntimeManager F) (events : List StatusEvent) (device : String) :
    (events.foldl recorded m).serverStatuses.get? device =
      ((lastOf (key 0) (.serverStatus device) events).map fun e => some (.ofList e.entries)).getD
        (m.serverStatuses.get? device) := by
  let observe (m : RuntimeManager F) := m.serverStatuses.get? device
  let write (e : StatusEvent) (_ : Option (Settings F)) : Option (Settings F) :=
    some (.ofList e.entries)
  have hother : ∀ e ∈ events, key 0 e ≠ .serverStatus device → ∀ m,
      observe (recorded m e) = observe m := by
    intro e _ hne m
    simp only [observe, serverStatuses_recorded, if_neg hne]
  have hwrite : ∀ e ∈ events, key 0 e = .serverStatus device → ∀ m,
      observe (recorded m e) = write e (observe m) := by
    intro e _ hkey m
    simp only [observe, write, serverStatuses_recorded, if_pos hkey]
  exact observe_foldl hother hwrite (fun _ _ _ _ _ => rfl) m

-- ---------------------------------------------------------------------------
-- Runs
-- ---------------------------------------------------------------------------

/-- A queued entry stands under a key of its event. -/
def KeyedEvents (l : List (StatusKey × StatusEvent)) : Prop := ∀ p ∈ l, ∃ n, p.1 = key n p.2

theorem KeyedEvents.classifies {l : List (StatusKey × StatusEvent)} (h : KeyedEvents l) :
    Classifies (fun p => key 0 p.2) l := by
  intro p hp p' hp' hkey
  obtain ⟨n, hn⟩ := h p hp
  obtain ⟨n', hn'⟩ := h p' hp'
  exact key_congr (hn.symm.trans (hkey.trans hn')) 0

/-- All that was put, and what has been taken out and recorded of it. -/
structure Recorded (m₀ : RuntimeManager F) (all taken : List (StatusKey × StatusEvent))
    (m : RuntimeManager F) : Prop where
  queued : Coalesced all taken m.statusQueue.items
  keyed : KeyedEvents all
  states_eq : m.states = ((taken.map Prod.snd).foldl recorded m₀).states

variable {m₀ m : RuntimeManager F} {all taken : List (StatusKey × StatusEvent)}

theorem Recorded.put (h : Recorded m₀ all taken m) (e : StatusEvent) :
    Recorded m₀ (all ++ [(key (nextSequence m.statusQueue.sequence e) e, e)]) taken
      (m.putStatus e) := by
  refine ⟨h.queued.put _, ?_, h.states_eq⟩
  intro p hp
  rcases List.mem_append.mp hp with hp | hp
  · exact h.keyed p hp
  · obtain rfl := List.mem_singleton.mp hp
    exact ⟨_, rfl⟩

theorem Recorded.drainRound (h : Recorded m₀ all taken m) :
    ∃ taken', Recorded m₀ all taken' (statusStep m .drainRound) := by
  cases hpop : m.statusQueue.items.popFirst with
  | none =>
    have hround : statusStep m .drainRound = m := by
      rw [statusStep, RuntimeManager.drainRound, getNowait, hpop]
      rfl
    rw [hround]
    exact ⟨taken, h⟩
  | some next =>
    obtain ⟨p, rest⟩ := next
    have hround : statusStep m .drainRound =
        recorded { m with statusQueue := { m.statusQueue with items := rest } } p.2 := by
      rw [statusStep, RuntimeManager.drainRound, getNowait, hpop]
      rfl
    let popped : RuntimeManager F := { m with statusQueue := { m.statusQueue with items := rest } }
    have hstates : popped.states = ((taken.map Prod.snd).foldl recorded m₀).states := h.states_eq
    rw [hround]
    refine ⟨taken ++ [p], ?_, h.keyed, ?_⟩
    · rw [statusQueue_recorded]
      exact h.queued.take hpop
    · rw [List.map_append, List.foldl_append]
      exact states_recorded hstates p.2

theorem Recorded.step (h : Recorded m₀ all taken m) (step : StatusStep) :
    ∃ all' taken', Recorded m₀ all' taken' (statusStep m step) ∧
      all'.map Prod.snd = all.map Prod.snd ++ step.event?.toList := by
  cases step with
  | put e => exact ⟨_, taken, h.put e, List.map_append⟩
  | drainRound =>
    obtain ⟨taken', h'⟩ := h.drainRound
    exact ⟨all, taken', h', (List.append_nil _).symm⟩
  | drainLogs lines =>
    refine ⟨all, taken, ⟨?_, h.keyed, ?_⟩, (List.append_nil _).symm⟩
    · rw [statusStep, statusQueue_appendLogs]
      exact h.queued
    · rw [statusStep, states_appendLogs]
      exact h.states_eq

/-- The record of a run that begins with an empty queue. -/
theorem recorded_run (hempty : m₀.statusQueue.items = ∅) (steps : List StatusStep) :
    ∃ all taken, Recorded m₀ all taken (steps.foldl statusStep m₀) ∧
      all.map Prod.snd = steps.filterMap StatusStep.event? := by
  induction steps using List.reverseRecOn with
  | nil => exact ⟨[], [], ⟨hempty ▸ .empty, (fun _ hp => nomatch hp), rfl⟩, rfl⟩
  | append_singleton steps step ih =>
    obtain ⟨all, taken, h, hall⟩ := ih
    obtain ⟨all', taken', h', hall'⟩ := h.step step
    refine ⟨all', taken', ?_, ?_⟩
    · rwa [List.foldl_append]
    · rw [hall', hall, List.filterMap_append]
      cases step <;> rfl

/-- Once the queue is empty, the tags and servers are in the states of a manager
that recorded every event in the order of the puts. -/
theorem statusQueue_transparent (hempty : m₀.statusQueue.items = ∅) {steps : List StatusStep}
    (hdrained : (steps.foldl statusStep m₀).statusQueue.items = ∅) :
    (∀ key, (steps.foldl statusStep m₀).runtimeTags.get? key =
      ((steps.filterMap StatusStep.event?).foldl recorded m₀).runtimeTags.get? key) ∧
    ∀ device, (steps.foldl statusStep m₀).serverStatuses.get? device =
      ((steps.filterMap StatusStep.event?).foldl recorded m₀).serverStatuses.get? device := by
  obtain ⟨all, taken, ⟨hqueued, hkeyed, hstates⟩, hputs⟩ := recorded_run hempty steps
  obtain ⟨htags, hservers⟩ := Prod.mk.inj hstates
  have hlast : ∀ x, lastOf (key 0) x (taken.map Prod.snd) = lastOf (key 0) x (all.map Prod.snd) := by
    intro x
    rw [lastOf_map, lastOf_map, hqueued.lastOf_drained hkeyed.classifies (by rw [hdrained]; rfl)]
  constructor
  · rintro ⟨device, tag⟩
    rw [htags, runtimeTags_foldl, runtimeTags_foldl, ← hputs, hlast]
  · intro device
    rw [hservers, serverStatuses_foldl, serverStatuses_foldl, ← hputs, hlast]

def newManager : RuntimeManager WholeFloat :=
  { store := ConfigStore.initialized
    driverRegistry := defaultDriverRegistry
    sinkRegistry := defaultSinkRegistry }

/-- Of two events on one tag the first is never taken out of the queue. -/
def pressureSteps : List StatusStep :=
  [.put (.tagUpdate "boiler" "g" "pressure" "" "Polling" "t1" "good" none),
    .put (.tagUpdate "boiler" "g" "pressure" "" "Polling" "t2" "bad" (some "no value")), .drainRound]

theorem statusQueue_transparent_pressure :
    (∀ key, (pressureSteps.foldl statusStep newManager).runtimeTags.get? key =
      ((pressureSteps.filterMap StatusStep.event?).foldl recorded newManager).runtimeTags.get? key) ∧
    ∀ device, (pressureSteps.foldl statusStep newManager).serverStatuses.get? device =
      ((pressureSteps.filterMap StatusStep.event?).foldl recorded newManager).serverStatuses.get?
        device :=
  statusQueue_transparent (by decide) (by decide)

end RuntimeManager

end IndustrialGateway
