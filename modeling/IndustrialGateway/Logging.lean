import IndustrialGateway.Lib.PyJson
import IndustrialGateway.RuntimeManager
import IndustrialGateway.Workers

/-!
# The logger

`logging_worker.py`: the records of the workers wait in a queue until the thread of the
logger, or `drain_events`, takes one after the other and writes it as a line. A record
that cannot be written as JSON, or whose line a log file cannot encode, raises where it is
taken, not where it was put.
-/

namespace IndustrialGateway

variable {F : Type}

-- ---------------------------------------------------------------------------
-- Records
-- ---------------------------------------------------------------------------

/-- A record in the queue. Those of the workers have no timestamp. -/
structure QueuedRecord (F : Type) where
  timestamp : Option String := none
  record : LogRecord F

/-- What `_normalize_record` gives. -/
structure LogEntry (F : Type) where
  timestamp : String
  level : String
  source : String
  message : String
  data : OrderedDict String (PyValue F)

def normalizeRecord (item : QueuedRecord F) (now : String) : LogEntry F where
  timestamp := textOr item.timestamp now
  level := PyText.upper item.record.level
  source := item.record.source
  message := item.record.message
  data := .ofList item.record.data

def isErrorRecord (record : LogEntry F) : Bool :=
  ["ERROR", "CRITICAL", "EXCEPTION"].contains (PyText.upper record.level)

def isAuditRecord (record : LogEntry F) : Bool :=
  ["button", "ui", "config", "settings"].contains (PyText.lower record.source)

def logDate (record : LogEntry F) : String := String.ofList (record.timestamp.toList.take 10)

section

variable [PyRuntime F]

open ConfigService (optional valueOr)

/-- A source and, where it is known, what stands behind it. -/
def formatSource (record : LogEntry F) : String :=
  let tagged (source : String) (name : PyValue F) : String :=
    if name.truthy then "[" ++ source ++ "][" ++ name.text ++ "]" else "[" ++ source ++ "]"
  if record.source = "driver" then
    tagged "driver" (valueOr (optional record.data "driver") (optional record.data "driver_type"))
  else if record.source = "sink" ∨ record.source = "plugin" then
    tagged "plugin" (valueOr (optional record.data "plugin")
      (valueOr (optional record.data "plugin_type") (optional record.data "sink_type")))
  else "[" ++ record.source ++ "]"

def formatRecord (record : LogEntry F) : Except PyException String := do
  let data ← PyValue.dumps " " (PyValue.dict record.data.entries).sortKeys
  return record.timestamp ++ " [" ++ record.level ++ "] " ++ formatSource record ++ " " ++
    record.message ++ " " ++ data

end

-- ---------------------------------------------------------------------------
-- The worker
-- ---------------------------------------------------------------------------

/-- What a logger is built with. -/
structure LogSettings where
  debugEnabled : Bool := false
  runtimeLogEnabled : Bool := true
  logDir : Option String := none
  errorLogDir : Option String := none
  auditLogDir : Option String := none
  deriving DecidableEq

/-- A line of a log file. -/
structure LogLine where
  dir : String
  file : String
  line : String
  deriving DecidableEq

/-- An `AsyncLogWorker` with what it has written. -/
structure AsyncLogWorker (F : Type) extends LogSettings where
  inputQueue : List (QueuedRecord F) := []
  displayQueue : List String := []
  files : List LogLine := []

/-- The clock at a call, the directories whose files can be opened, and what `write` raises
for a text: the `UnicodeEncodeError` of one that UTF-8 cannot encode. A string of the model
has no lone surrogates itself, so which texts these are is left open. -/
structure LogEnv where
  now : String
  writable : String → Bool := fun _ => true
  encodeError : String → Option PyException := fun _ => none

abbrev LoggerAct (F α : Type) := Fallible PyException (AsyncLogWorker F) α

namespace AsyncLogWorker

/-- The `OSError` of a file that cannot be opened loses the line; what `write` raises is no
`OSError`. -/
def writeDailyLog (env : LogEnv) (logDir : Option String) (stem : String) (record : LogEntry F)
    (line : String) : LoggerAct F Unit :=
  match logDir with
  | none => pure ()
  | some dir =>
    if env.writable dir then do
      .raiseIf (env.encodeError (line ++ "\n"))
      .modify fun w => { w with
        files := w.files ++ [⟨dir, stem ++ "_" ++ logDate record ++ ".log", line⟩] }
    else pure ()

def writeFileLog (env : LogEnv) (record : LogEntry F) (line : String) : LoggerAct F Unit := do
  writeDailyLog env (← .read fun w => w.logDir) "industrial_gateway" record line
  if isErrorRecord record then
    writeDailyLog env (← .read fun w => w.errorLogDir) "industrial_gateway_error" record line
  if isAuditRecord record then
    writeDailyLog env (← .read fun w => w.auditLogDir) "industrial_gateway_audit" record line

variable [PyRuntime F]

def drainOnce (env : LogEnv) : LoggerAct F Bool := do
  match ← .read inputQueue with
  | [] => return false
  | item :: rest =>
    .modify fun w => { w with inputQueue := rest }
    let record := normalizeRecord item env.now
    if record.level = "DEBUG" && !(← .read fun w => w.debugEnabled) then return true
    if !(← .read fun w => w.runtimeLogEnabled) && !isErrorRecord record then return true
    let line ← .lift (formatRecord record)
    .modify fun w => { w with displayQueue := w.displayQueue ++ [line] }
    writeFileLog env record line
    return true

/-- `while self.logger.drain_once(timeout=0): pass`, with the clock and disk of each call. -/
def drainRounds : Nat → (Nat → LogEnv) → LoggerAct F Unit
  | 0, _ => pure ()
  | rounds + 1, envs => do
    if ← drainOnce (envs 0) then drainRounds rounds fun n => envs (n + 1)

/-- Each call takes a record, and the one after the last record ends the loop. -/
def drainAll (envs : Nat → LogEnv) : LoggerAct F Unit := fun w =>
  drainRounds (w.inputQueue.length + 1) envs w

-- ---------------------------------------------------------------------------
-- One record
-- ---------------------------------------------------------------------------

end AsyncLogWorker

/-- The filters of `drain_once`. -/
def LogSettings.drops (settings : LogSettings) (record : LogEntry F) : Bool :=
  record.level = "DEBUG" && !settings.debugEnabled ||
    !settings.runtimeLogEnabled && !isErrorRecord record

/-- `json.dumps` takes the data of the record. -/
def QueuedRecord.Serializable (item : QueuedRecord F) : Prop :=
  ∀ p ∈ (OrderedDict.ofList item.record.data).entries, p.2.checkJson = .ok ()

/-- The directories whose files get the line of a record. -/
def LogSettings.targets (settings : LogSettings) (record : LogEntry F) : List String :=
  settings.logDir.toList ++
    (if isErrorRecord record then settings.errorLogDir.toList else []) ++
    (if isAuditRecord record then settings.auditLogDir.toList else [])

/-- The files that can be opened can encode the line. -/
def LogEnv.Takes (env : LogEnv) (dirs : List String) (line : String) : Prop :=
  ∀ dir ∈ dirs, env.writable dir = true → env.encodeError (line ++ "\n") = none

theorem LogEnv.takes_append {env : LogEnv} {dirs dirs' : List String} {line : String} :
    env.Takes (dirs ++ dirs') line ↔ env.Takes dirs line ∧ env.Takes dirs' line :=
  List.forall_mem_append

theorem LogEnv.takes_if {env : LogEnv} {c : Prop} [Decidable c] {dirs : List String} {line : String} :
    env.Takes (if c then dirs else []) line ↔ (c → env.Takes dirs line) := by
  split
  · exact ⟨fun h _ => h, fun h => h ‹_›⟩
  · exact ⟨fun _ hc => absurd hc ‹_›, fun _ => nofun⟩

namespace AsyncLogWorker

/-- A step of the file log: only the files change, and it returns exactly when `P` holds of
the settings. -/
def Writes (m : LoggerAct F Unit) (P : LogSettings → Prop) : Prop :=
  ∀ w, (∃ files, (m w).2 = { w with files }) ∧
    ((m w).1 = .ok () ∧ P w.toLogSettings ∨ (∃ e, (m w).1 = .error e) ∧ ¬ P w.toLogSettings)

theorem Writes.skip {P : LogSettings → Prop} (h : ∀ settings, P settings) :
    Writes (pure () : LoggerAct F Unit) P :=
  fun w => ⟨⟨w.files, rfl⟩, .inl ⟨rfl, h _⟩⟩

theorem Writes.andThen {m n : LoggerAct F Unit} {P Q : LogSettings → Prop} (hm : Writes m P)
    (hn : Writes n Q) : Writes (do m; n) fun settings => P settings ∧ Q settings := by
  intro w
  obtain ⟨⟨files, hkept⟩, hdone⟩ := hm w
  rw [Fallible.bind_apply]
  rcases hrun : m w with ⟨outcome, w'⟩
  rw [hrun] at hkept hdone
  obtain rfl : w' = { w with files } := hkept
  rcases hdone with ⟨rfl, hP⟩ | ⟨⟨e, rfl⟩, hnot⟩
  · obtain ⟨⟨files', hkept⟩, hdone⟩ := hn { w with files }
    refine ⟨⟨files', hkept⟩, hdone.imp ?_ ?_⟩
    · exact fun h => ⟨h.1, hP, h.2⟩
    · exact fun h => ⟨h.1, fun hboth => h.2 hboth.2⟩
  · exact ⟨⟨files, rfl⟩, .inr ⟨⟨e, rfl⟩, fun hboth => hnot hboth.1⟩⟩

theorem Writes.when {m : LoggerAct F Unit} {P : LogSettings → Prop} (hm : Writes m P) (c : Prop)
    [Decidable c] : Writes (if c then m else pure ()) fun settings => c → P settings := by
  split
  · rename_i hc
    simpa only [hc, true_imp_iff] using hm
  · exact .skip fun _ hc => absurd hc ‹_›

theorem Writes.reading {logDir : LogSettings → Option String} {m : Option String → LoggerAct F Unit}
    {P : Option String → Prop} (h : ∀ dir, Writes (m dir) fun _ => P dir) :
    Writes (.read (fun w => logDir w.toLogSettings) >>= m) fun settings => P (logDir settings) :=
  fun w => h (logDir w.toLogSettings) w

theorem writes_writeDailyLog (env : LogEnv) (logDir : Option String) (stem : String)
    (record : LogEntry F) (line : String) :
    Writes (writeDailyLog env logDir stem record line) fun _ => env.Takes logDir.toList line := by
  cases logDir with
  | none => exact .skip fun _ => nofun
  | some dir =>
    intro w
    rw [Option.toList_some, LogEnv.Takes, List.forall_mem_singleton]
    simp only [writeDailyLog]
    split
    · cases herror : env.encodeError (line ++ "\n") with
      | none => exact ⟨⟨_, rfl⟩, .inl ⟨rfl, fun _ => rfl⟩⟩
      | some e => exact ⟨⟨w.files, rfl⟩, .inr ⟨⟨e, rfl⟩, fun h => nomatch h ‹_›⟩⟩
    · exact ⟨⟨w.files, rfl⟩, .inl ⟨rfl, fun h => absurd h ‹_›⟩⟩

/-- The file log of a record raises exactly when one of its files cannot encode the line. -/
theorem writes_writeFileLog (env : LogEnv) (record : LogEntry F) (line : String) :
    Writes (writeFileLog env record line) fun settings =>
      env.Takes (settings.targets record) line := by
  have hdaily (logDir : LogSettings → Option String) (stem : String) :
      Writes (.read (fun w : AsyncLogWorker F => logDir w.toLogSettings) >>= fun dir =>
        writeDailyLog env dir stem record line) fun settings => env.Takes (logDir settings).toList line :=
    .reading fun dir => writes_writeDailyLog env dir stem record line
  simp only [LogSettings.targets, LogEnv.takes_append, LogEnv.takes_if]
  have hall := ((hdaily LogSettings.logDir "industrial_gateway").andThen
    ((hdaily LogSettings.errorLogDir "industrial_gateway_error").when (isErrorRecord record))).andThen
    ((hdaily LogSettings.auditLogDir "industrial_gateway_audit").when (isAuditRecord record))
  convert hall using 1
  rw [writeFileLog]
  cases isErrorRecord record <;> cases isAuditRecord record <;> simp [bind_assoc]

variable [PyRuntime F]

theorem formatRecord_eq_ok {item : QueuedRecord F} (now : String) :
    (∃ line, formatRecord (normalizeRecord item now) = .ok line) ↔ item.Serializable := by
  have hcheck : (PyValue.dict (normalizeRecord item now).data.entries).sortKeys.checkJson = .ok () ↔
      item.Serializable := by
    rw [PyValue.checkJson_sortKeys, PyValue.checkJson, PyValue.checkJsonDict_eq_ok]
    rfl
  rw [← hcheck, formatRecord, PyValue.dumps]
  constructor
  · rintro ⟨line, h⟩
    obtain ⟨text, htext, -⟩ := bind_eq_ok.mp h
    obtain ⟨⟨⟩, hok, -⟩ := bind_eq_ok.mp htext
    exact hok
  · intro hok
    rw [hok]
    exact ⟨_, rfl⟩

theorem drainOnce_nil {env : LogEnv} {w : AsyncLogWorker F} (h : w.inputQueue = []) :
    drainOnce env w = (.ok false, w) := by
  rw [drainOnce, Fallible.read_bind, h]
  rfl

/-- A record is dropped, or its line is shown and handed to the file log; the formatter may
raise before that. -/
theorem drainOnce_cons {env : LogEnv} {w : AsyncLogWorker F} {item : QueuedRecord F}
    {rest : List (QueuedRecord F)} (h : w.inputQueue = item :: rest) :
    drainOnce env w =
      if w.drops (normalizeRecord item env.now) then (.ok true, { w with inputQueue := rest })
      else match formatRecord (normalizeRecord item env.now) with
        | .ok line => (do writeFileLog env (normalizeRecord item env.now) line; return true :
            LoggerAct F Bool)
            { w with inputQueue := rest, displayQueue := w.displayQueue ++ [line] }
        | .error e => (.error e, { w with inputQueue := rest }) := by
  rw [drainOnce, Fallible.read_bind, h, LogSettings.drops]
  simp only [Fallible.bind_apply, Fallible.modify, Fallible.read]
  generalize hrecord : normalizeRecord item env.now = record
  cases hdebug : record.level = "DEBUG" && !w.debugEnabled with
  | true => rfl
  | false =>
    rw [if_neg Bool.false_ne_true, Bool.false_or, Fallible.read_bind]
    cases hruntime : !w.runtimeLogEnabled && !isErrorRecord record with
    | true => rfl
    | false =>
      rw [if_neg Bool.false_ne_true, if_neg Bool.false_ne_true, Fallible.bind_apply, Fallible.lift]
      cases formatRecord record with
      | error e => rfl
      | ok line => rfl

end AsyncLogWorker

variable [PyRuntime F]

/-- The record does not reach the formatter; or its data can be serialised and the files
take its line. -/
def LogSettings.Passes (settings : LogSettings) (env : LogEnv) (item : QueuedRecord F) : Prop :=
  settings.drops (normalizeRecord item env.now) = true ∨
    item.Serializable ∧ ∀ line, formatRecord (normalizeRecord item env.now) = .ok line →
      env.Takes (settings.targets (normalizeRecord item env.now)) line

/-- Each record of the queue passes in the call that takes it. -/
def LogSettings.AllPass (settings : LogSettings) (envs : Nat → LogEnv) (queue : List (QueuedRecord F)) : Prop :=
  ∀ n item, queue[n]? = some item → settings.Passes (envs n) item

theorem LogSettings.allPass_cons {settings : LogSettings} {envs : Nat → LogEnv} {item : QueuedRecord F}
    {rest : List (QueuedRecord F)} :
    settings.AllPass envs (item :: rest) ↔
      settings.Passes (envs 0) item ∧ settings.AllPass (fun n => envs (n + 1)) rest := by
  constructor
  · exact fun h => ⟨h 0 item rfl, fun n => h (n + 1)⟩
  · rintro ⟨hitem, hrest⟩ n other hother
    cases n with
    | zero => exact Option.some.inj hother ▸ hitem
    | succ n => exact hrest n other hother

namespace AsyncLogWorker

/-- A call on a queue with records takes the first one; it returns `True` exactly for a
record that passes. -/
theorem drainOnce_spec {w : AsyncLogWorker F} {item : QueuedRecord F} {rest : List (QueuedRecord F)}
    (h : w.inputQueue = item :: rest) (env : LogEnv) :
    (drainOnce env w).2.inputQueue = rest ∧ (drainOnce env w).2.toLogSettings = w.toLogSettings ∧
      ((drainOnce env w).1 = .ok true ∧ w.Passes env item ∨
        (∃ e, (drainOnce env w).1 = .error e) ∧ ¬ w.Passes env item) := by
  rw [drainOnce_cons h, LogSettings.Passes]
  cases hdrops : w.drops (normalizeRecord item env.now) with
  | true => exact ⟨rfl, rfl, .inl ⟨rfl, .inl rfl⟩⟩
  | false =>
    rw [if_neg Bool.false_ne_true, ← formatRecord_eq_ok env.now, or_iff_right Bool.false_ne_true]
    cases hformat : formatRecord (normalizeRecord item env.now) with
    | error e => exact ⟨rfl, rfl, .inr ⟨⟨e, rfl⟩, fun ⟨⟨line, hline⟩, _⟩ => nomatch hline⟩⟩
    | ok line =>
      obtain ⟨⟨files, hkept⟩, hwrites⟩ := writes_writeFileLog env (normalizeRecord item env.now) line
        { w with inputQueue := rest, displayQueue := w.displayQueue ++ [line] }
      have htakes : ((∃ l, Except.ok line = (.ok l : Except PyException String)) ∧
          ∀ l, Except.ok line = (.ok l : Except PyException String) →
            env.Takes (w.targets (normalizeRecord item env.now)) l) ↔
          env.Takes (w.targets (normalizeRecord item env.now)) line :=
        ⟨fun h => h.2 line rfl, fun h => ⟨⟨line, rfl⟩, fun l hl => Except.ok.inj hl ▸ h⟩⟩
      rw [htakes]
      dsimp only
      rw [Fallible.bind_apply]
      rcases hrun : writeFileLog env (normalizeRecord item env.now) line
        { w with inputQueue := rest, displayQueue := w.displayQueue ++ [line] } with ⟨outcome, w'⟩
      rw [hrun] at hkept hwrites
      obtain rfl : w' = _ := hkept
      rcases hwrites with ⟨rfl, h⟩ | ⟨⟨e, rfl⟩, h⟩
      · exact ⟨rfl, rfl, .inl ⟨rfl, h⟩⟩
      · exact ⟨rfl, rfl, .inr ⟨⟨e, rfl⟩, h⟩⟩

-- ---------------------------------------------------------------------------
-- The whole queue
-- ---------------------------------------------------------------------------

/-- With a round more than there are records the loop ends by itself, unless a record
does not pass. -/
theorem drainRounds_spec {envs : Nat → LogEnv} {w : AsyncLogWorker F} {rounds : Nat}
    (h : w.inputQueue.length < rounds) :
    (drainRounds rounds envs w).2.toLogSettings = w.toLogSettings ∧
      ((drainRounds rounds envs w).1 = .ok () ∧ (drainRounds rounds envs w).2.inputQueue = [] ∧
          w.AllPass envs w.inputQueue ∨
        (∃ e, (drainRounds rounds envs w).1 = .error e) ∧ ¬ w.AllPass envs w.inputQueue) := by
  induction rounds generalizing w envs with
  | zero => exact absurd h (Nat.not_lt_zero _)
  | succ rounds ih =>
    rw [drainRounds, Fallible.bind_apply]
    cases hqueue : w.inputQueue with
    | nil =>
      rw [drainOnce_nil hqueue]
      exact ⟨rfl, .inl ⟨rfl, hqueue, fun n item hitem => nomatch hitem⟩⟩
    | cons item rest =>
      obtain ⟨hrest, hsettings, hpasses⟩ := drainOnce_spec hqueue (envs 0)
      rcases hcall : drainOnce (envs 0) w with ⟨outcome, w'⟩
      rw [hcall] at hrest hsettings hpasses
      dsimp only at hrest hsettings hpasses
      rw [LogSettings.allPass_cons]
      rcases hpasses with ⟨rfl, hitem⟩ | ⟨⟨e, rfl⟩, hitem⟩
      · have hshorter : w'.inputQueue.length < rounds := by
          rw [hqueue, List.length_cons] at h
          rw [hrest]
          omega
        obtain ⟨hkept, hall⟩ := @ih (fun n => envs (n + 1)) w' hshorter
        rw [hrest, hsettings] at hall
        refine ⟨hkept.trans hsettings, hall.imp ?_ ?_⟩
        · exact fun ⟨hok, hempty, hothers⟩ => ⟨hok, hempty, hitem, hothers⟩
        · exact fun ⟨herror, hothers⟩ => ⟨herror, fun hevery => hothers hevery.2⟩
      · exact ⟨hsettings, .inr ⟨⟨e, rfl⟩, fun hevery => hitem hevery.1⟩⟩

theorem drainAll_spec (envs : Nat → LogEnv) (w : AsyncLogWorker F) :
    (drainAll envs w).2.toLogSettings = w.toLogSettings ∧
      ((drainAll envs w).1 = .ok () ∧ (drainAll envs w).2.inputQueue = [] ∧
          w.AllPass envs w.inputQueue ∨
        (∃ e, (drainAll envs w).1 = .error e) ∧ ¬ w.AllPass envs w.inputQueue) :=
  drainRounds_spec (Nat.lt_succ_self _)

end AsyncLogWorker

end IndustrialGateway
