import IndustrialGateway.Outage
import IndustrialGateway.Workers

/-!
# Failure reports

A driver's exception travels as the error text of a result without tags. The
queue and the publisher tell such a result from a successful one by the text
alone, so a failure is handled as one exactly when the exception has a message.
-/

namespace IndustrialGateway

variable {F : Type} [PyRuntime F]

/-- A worker at work when its driver raises. -/
inductive DriverFailure (F : Type) [PyRuntime F] where
  | poll (w : DriverPoller F) (env : PollEnv F) (exc : PyException) (created : env.factory = none)
    (raised : env.outcome = .error exc)
  | subscription (w : OpcUaSubscriptionWorker F) (a : Attempt F) (exc : PyException)
    (raised : w.raised a = some exc)

namespace DriverFailure

def device : DriverFailure F → DeviceSpec F
  | .poll w _ _ _ _ => w.device
  | .subscription w _ _ _ => w.device

def exc : DriverFailure F → PyException
  | .poll _ _ exc _ _ => exc
  | .subscription _ _ exc _ => exc

def time : DriverFailure F → Datetime
  | .poll _ env _ _ _ => env.timestamp
  | .subscription _ a _ _ => a.failedAt

def puts : DriverFailure F → List (ReadResult F)
  | .poll w env _ _ _ => IndustrialGateway.puts (w.pollOnce env).2.1
  | .subscription w a _ _ => IndustrialGateway.puts (w.attempt a).2.1

/-- The result that reports the failure. -/
def report (f : DriverFailure F) : ReadResult F := failureResult f.device f.time f.exc

theorem report_mem_puts (f : DriverFailure F) : f.report ∈ f.puts := by
  cases f with
  | poll w env exc created raised =>
    simp only [puts, w.puts_pollOnce created, raised]
    exact List.mem_singleton.mpr rfl
  | subscription w a exc raised => exact w.failure_mem_puts raised

end DriverFailure

namespace SinkPublisher

variable (cfg : PublisherConfig F)

/-- The result was taken as a loss of its device: the status says so, the time of
the last receipt is untouched, and no measurement of the device follows until one
of its results arrives without error. -/
structure Disconnects (result : ReadResult F) (before after : SinkPublisher F) : Prop where
  status : after.statusOf (deviceKey result.device) = some .disconnected
  lastReceivedAt : (after.latest.get? (deviceKey result.device)).map Snapshot.lastReceivedAt =
    (before.latest.get? (deviceKey result.device)).map Snapshot.lastReceivedAt
  silent : ∀ calls, okResults (deviceKey result.device) calls = [] →
    ∀ m ∈ measurements ((Act.forEach (call cfg) calls).events after), m.key ≠ deviceKey result.device

/-- No measurement of a device that is down. -/
theorem silent_call {p : SinkPublisher F} {key : DeviceKey} (c : Call F) (h : Down p key) :
    ∀ m ∈ measurements ((call cfg c).events p), m.key ≠ key := by
  rintro m hm rfl
  cases c with
  | publishOnce result now sink =>
    rw [call] at hm
    cases he : textTruthy result.error with
    | true => rw [(publishResult_error cfg sink _ p he).2.2.1] at hm; cases hm
    | false => rw [(publishResult_ok cfg sink _ p he).2.2.1] at hm; cases hm
  | publishCached now sink =>
    obtain ⟨hgood, -⟩ := (mem_measurements_publishCached cfg sink).mp hm
    rw [refreshed_of_down cfg h] at hgood
    rcases h with h | h <;> rw [h] at hgood <;> cases hgood

theorem silent_while_down {p : SinkPublisher F} {key : DeviceKey} {calls : List (Call F)}
    (hcalls : okResults key calls = []) (h : Down p key) :
    ∀ m ∈ measurements ((Act.forEach (call cfg) calls).events p), m.key ≠ key := by
  induction calls generalizing p with
  | nil => exact fun m hm => (List.not_mem_nil hm).elim
  | cons c calls ih =>
    rw [← List.singleton_append, okResults_append, List.append_eq_nil_iff] at hcalls
    intro m hm
    rw [Act.events_forEach_cons, measurements_append, List.mem_append] at hm
    rcases hm with hm | hm
    · exact silent_call cfg c h m hm
    · exact ih hcalls.2 (down_call cfg hcalls.1 h) m hm

theorem disconnects_of_error {result : ReadResult F} (now : Datetime) (sink : Sink F)
    (p : SinkPublisher F) (h : textTruthy result.error = true) :
    Disconnects cfg result p ((publishResult cfg sink result now).state p) := by
  obtain ⟨hlatest, hstatus, -⟩ := publishResult_error cfg sink now p h
  have hdown : ((publishResult cfg sink result now).state p).statusOf (deviceKey result.device) =
      some .disconnected := by
    simp [hstatus, withStatus]
  exact ⟨hdown, by rw [hlatest], fun calls hcalls => silent_while_down cfg hcalls (.inl hdown)⟩

/-- The worker reports every failure of its driver, the queue hands the report on
as it is, and the publisher takes it as a loss of the device exactly when the
exception has a message. -/
theorem failure_disconnects_iff (cfg : PublisherConfig F) (f : DriverFailure F) :
    f.report ∈ f.puts ∧ ∀ (q : LatestReadResultQueue F),
      (∃ earlier, (q.put f.report).pending = earlier ++ [f.report]) ∧
      ∀ (p : SinkPublisher F) (now : Datetime) (sink : Sink F),
        Disconnects cfg f.report p ((publishResult cfg sink f.report now).state p) ↔
          f.exc.message ≠ "" := by
  refine ⟨f.report_mem_puts, fun q => ⟨q.pending_put_whole (.inr rfl), fun p now sink => ?_⟩⟩
  constructor
  · intro h hempty
    have he : textTruthy f.report.error = false := by
      simp [DriverFailure.report, failureResult, textTruthy, hempty]
    have hstatus := h.status
    rw [(publishResult_ok cfg sink _ p he).2.1] at hstatus
    simp [withStatus, DriverFailure.report, failureResult, resultStatus] at hstatus
  · intro hne
    exact disconnects_of_error cfg now sink p
      (by simpa [DriverFailure.report, failureResult] using hne)

/-- A read that times out raises `TimeoutError()`, whose text is empty. -/
def silentTimeout : DriverFailure WholeFloat :=
  .poll ⟨⟨some 1, "meter", "modbus_tcp", true, 1000, "", ∅⟩, [], ⟨10⟩, ⟨0⟩⟩
    { timestamp := 0
      connect := none
      health := ⟨⟨0⟩, none, 0⟩
      readTags := .error ⟨.other "TimeoutError", ""⟩
      disconnect := none }
    ⟨.other "TimeoutError", ""⟩ rfl rfl

theorem silent_timeout_is_good : ¬ ∀ (f : DriverFailure WholeFloat) (p : SinkPublisher WholeFloat)
    (now : Datetime) (sink : Sink WholeFloat),
    Disconnects ⟨{}, "mqtt", ⟨15⟩, ⟨60⟩⟩ f.report p
      ((publishResult ⟨{}, "mqtt", ⟨15⟩, ⟨60⟩⟩ sink f.report now).state p) := by
  intro h
  have hstatus := (h silentTimeout (fresh []) 0 fun _ => none).status
  exact absurd hstatus (by decide)

end SinkPublisher

end IndustrialGateway
