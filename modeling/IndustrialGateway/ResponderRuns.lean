import IndustrialGateway.Lib.Runs
import IndustrialGateway.Lib.WholeFloat
import IndustrialGateway.TopicRequest

/-!
# Runs of the topic responder

The thread of the responder refreshes its table while the thread of its client
hands it messages. What a refresh raises ends both threads, what a message raises
ends the second, and nobody answers the next request.
-/

namespace IndustrialGateway

open ConfigService TopicResponder

variable {F : Type} [PyRuntime F]

-- ---------------------------------------------------------------------------
-- The database
-- ---------------------------------------------------------------------------

/-- What the database calls of one query do. The cursor describes its columns
beside the rows; leaving the connection commits. -/
structure DbCalls (F : Type) where
  connect : Except PyException Unit := .ok ()
  cursor : Except PyException Unit := .ok ()
  setSearchPath : Except PyException Unit := .ok ()
  select : Except PyException Unit := .ok ()
  fetchall : Except PyException (List String × List (List (PyValue F)))
  leave : Except PyException Unit := .ok ()

namespace DbCalls

def succeeds (db : DbCalls F) : Bool :=
  db.connect.isOk && db.cursor.isOk && db.setSearchPath.isOk && db.select.isOk &&
    db.fetchall.isOk && db.leave.isOk

def rowsToDicts (columns : List String) (rows : List (List (PyValue F))) : List (Settings F) :=
  rows.map fun row => .ofList (columns.zip row)

/-- `_fetch_mapping_rows` and `_fetch_sensor_rows`. -/
def fetchRows (db : DbCalls F) : Except PyException (List (Settings F)) := do
  db.connect
  db.cursor
  db.setSearchPath
  db.select
  let (columns, rows) ← db.fetchall
  db.leave
  return rowsToDicts columns rows

end DbCalls

-- ---------------------------------------------------------------------------
-- Messages
-- ---------------------------------------------------------------------------

/-- `json.loads` of the decoded bytes; it raises what the decoder, the parser and
the limits of the interpreter make it raise. -/
abbrev JsonLoads (F : Type) := List UInt8 → Except PyException (PyValue F)

/-- A message with what the calls do that it leads to. -/
structure ResponderMessage (F : Type) where
  topic : String
  payload : List UInt8
  db : DbCalls F
  publish : Except PyException Unit := .ok ()

def caughtByHandlePayload (e : PyException) : Bool :=
  e.type = .typeError || e.type = .other "JSONDecodeError" || e.type = .other "UnicodeDecodeError"

def readPayload (loads : JsonLoads F) (payload : List UInt8) :
    Except PyException (Option (PyValue F)) :=
  match loads payload with
  | .ok data => .ok (some data)
  | .error e => if caughtByHandlePayload e then .ok none else .error e

/-- `client.publish` of an answer. -/
def sendAnswer (publish : Except PyException Unit) (messages : List (TopicMessage F)) :
    Except PyException (List (TopicMessage F)) :=
  if messages.isEmpty then .ok [] else publish >>= fun _ => .ok messages

/-- `_on_message`: `handle_payload` with its calls. -/
def onMessage (loads : JsonLoads F) (deviceMap : OrderedDict String (Settings F))
    (message : ResponderMessage F) : Except PyException (List (TopicMessage F)) := do
  let data ← readPayload loads message.payload
  let responder : TopicResponder F := ⟨deviceMap, fun _ => message.db.fetchRows⟩
  let messages ← responder.handlePayload ⟨message.topic, data⟩
  sendAnswer message.publish messages

-- ---------------------------------------------------------------------------
-- Steps
-- ---------------------------------------------------------------------------

inductive ResponderPhase where
  | idle
  | running
  | ended
  deriving DecidableEq, Repr

/-- The responder with its two threads, and beside them what `handle_payload` has
raised, the topics on which an answer was due and the answers. -/
structure ResponderRun (F : Type) where
  deviceMap : OrderedDict String (Settings F) := ∅
  phase : ResponderPhase := .idle
  /-- The thread of the client runs. -/
  handling : Bool := false
  raised : List PyException := []
  due : List String := []
  published : List (TopicMessage F) := []

inductive ResponderEvent (F : Type) where
  | start (db : DbCalls F) (client : Except PyException Unit)
  | refresh (db : DbCalls F)
  | incoming (message : ResponderMessage F)

/-- The MAC of a request. -/
def requestMac (data : List (String × PyValue F)) : String :=
  PyText.strip (valueOr (optional (.ofList data) "mac") (.str "")).text

/-- The topic of the answer to a request whose database calls succeed. -/
def answerTopic (loads : JsonLoads F) (message : ResponderMessage F) : Option String :=
  match loads message.payload with
  | .ok (.dict data) =>
    if requestMac data = "" then none
    else if message.topic = requestTopic then some ("S-C/request-topic/" ++ requestMac data)
    else if message.topic = requestSensorCode ∧ message.db.succeeds then
      some ("S-C/request-sensor_cd/" ++ requestMac data)
    else none
  | _ => none

namespace ResponderRun

/-- `refresh_mapping_once`. -/
def refreshMappingOnce (r : ResponderRun F) (db : DbCalls F) :
    Except PyException (ResponderRun F) := do
  let rows ← db.fetchRows
  let responder := (⟨r.deviceMap, fun _ => .ok []⟩ : TopicResponder F).refreshMapping rows
  return { r with deviceMap := responder.deviceMap }

/-- The end of `run`, which stops the client. -/
def finish (r : ResponderRun F) : ResponderRun F := { r with phase := .ended, handling := false }

def handle (loads : JsonLoads F) (r : ResponderRun F) (message : ResponderMessage F) :
    ResponderRun F :=
  match onMessage loads r.deviceMap message with
  | .ok messages => { r with published := r.published ++ messages }
  | .error e => { r with handling := false, raised := r.raised ++ [e] }

/-- The first lines of `run`, up to `loop_start`. -/
def begin (r : ResponderRun F) (db : DbCalls F) (client : Except PyException Unit) :
    ResponderRun F :=
  match r.refreshMappingOnce db with
  | .error _ => r.finish
  | .ok t =>
    match client with
    | .ok () => { t with phase := .running, handling := true }
    | .error _ => t.finish

def refresh (r : ResponderRun F) (db : DbCalls F) : ResponderRun F :=
  match r.refreshMappingOnce db with
  | .ok t => t
  | .error _ => r.finish

/-- The broker has a message for the responder. -/
def ask (loads : JsonLoads F) (r : ResponderRun F) (message : ResponderMessage F) :
    ResponderRun F :=
  let asked := { r with due := r.due ++ (answerTopic loads message).toList }
  if r.handling then asked.handle loads message else asked

def step (loads : JsonLoads F) (r : ResponderRun F) : ResponderEvent F → ResponderRun F
  | .start db client => if r.phase = .idle then r.begin db client else r
  | .refresh db => if r.phase = .running then r.refresh db else r
  | .incoming message => if r.phase = .idle then r else r.ask loads message

/-- `handle_payload` has raised nothing, a refresh that fails leaves the table, and
every request whose database calls succeeded has its answer. -/
structure Survives (loads : JsonLoads F) (r : ResponderRun F) : Prop where
  quiet : r.raised = []
  kept : ∀ db : DbCalls F, db.succeeds = false →
    (r.step loads (.refresh db)).deviceMap = r.deviceMap
  answered : r.published.map TopicMessage.topic = r.due

end ResponderRun

-- ---------------------------------------------------------------------------
-- The condition
-- ---------------------------------------------------------------------------

/-- The database gives rows that `json.dumps` takes. -/
def DbCalls.writable (db : DbCalls F) : Bool :=
  match db.fetchall with
  | .ok (columns, rows) =>
    (PyValue.list ((rowsToDicts columns rows).map fun row => .dict row.entries)).checkJson.isOk
  | .error _ => false

/-- A payload that is no object is no request; a request finds its database and
its client. -/
def ResponderMessage.Harmless (message : ResponderMessage F) : Except PyException (PyValue F) → Prop
  | .error e => caughtByHandlePayload e = true
  | .ok (.dict data) => requestMac data ≠ "" →
    (message.topic = requestTopic → message.publish.isOk = true) ∧
      (message.topic = requestSensorCode →
        message.db.succeeds = true ∧ message.db.writable = true ∧ message.publish.isOk = true)
  | .ok _ => False

def ResponderEvent.Harmless (loads : JsonLoads F) : ResponderEvent F → Prop
  | .start db client => db.succeeds = true ∧ client.isOk = true
  | .refresh db => db.succeeds = true
  | .incoming message => message.Harmless (loads message.payload)

instance decidableHarmlessMessage (message : ResponderMessage F) :
    ∀ outcome, Decidable (message.Harmless outcome)
  | .error e => inferInstanceAs (Decidable (caughtByHandlePayload e = true))
  | .ok (.dict data) => inferInstanceAs (Decidable (requestMac data ≠ "" →
    (message.topic = requestTopic → message.publish.isOk = true) ∧
      (message.topic = requestSensorCode →
        message.db.succeeds = true ∧ message.db.writable = true ∧ message.publish.isOk = true)))
  | .ok .none | .ok (.bool _) | .ok (.int _) | .ok (.float _) | .ok (.str _) | .ok (.list _)
  | .ok (.object ..) => .isFalse id

instance decidableHarmless (loads : JsonLoads F) :
    ∀ event : ResponderEvent F, Decidable (event.Harmless loads)
  | .start db client => inferInstanceAs (Decidable (db.succeeds = true ∧ client.isOk = true))
  | .refresh db => inferInstanceAs (Decidable (db.succeeds = true))
  | .incoming message => inferInstanceAs (Decidable (message.Harmless (loads message.payload)))

-- ---------------------------------------------------------------------------
-- One message
-- ---------------------------------------------------------------------------

omit [PyRuntime F] in
theorem isOk_iff {α : Type} {x : Except PyException α} : x.isOk = true ↔ ∃ a, x = .ok a := by
  cases x with
  | error e => simp [Except.isOk, Except.toBool]
  | ok a => simp [Except.isOk, Except.toBool]

omit [PyRuntime F] in
theorem DbCalls.fetchRows_eq_ok {db : DbCalls F} {rows : List (Settings F)} :
    db.fetchRows = .ok rows ↔ db.succeeds = true ∧
      ∃ columns values, db.fetchall = .ok (columns, values) ∧ rowsToDicts columns values = rows := by
  simp only [fetchRows, succeeds, bind_eq_ok, Bool.and_eq_true, isOk_iff, and_assoc]
  constructor
  · rintro ⟨_, hconnect, _, hcursor, _, hpath, _, hselect, ⟨columns, values⟩, hfetch, _, hleave, hrows⟩
    cases hrows
    exact ⟨⟨_, hconnect⟩, ⟨_, hcursor⟩, ⟨_, hpath⟩, ⟨_, hselect⟩, ⟨_, hfetch⟩, ⟨_, hleave⟩, columns,
      values, hfetch, rfl⟩
  · rintro ⟨⟨_, hconnect⟩, ⟨_, hcursor⟩, ⟨_, hpath⟩, ⟨_, hselect⟩, -, ⟨_, hleave⟩, columns, values,
      hfetch, rfl⟩
    exact ⟨_, hconnect, _, hcursor, _, hpath, _, hselect, _, hfetch, _, hleave, rfl⟩

omit [PyRuntime F] in
/-- The answer to a request for the sensors. -/
theorem publishSensorCodeResponse_eq_ok (deviceMap : OrderedDict String (Settings F))
    (db : DbCalls F) (mac : String) :
    (∃ messages, (⟨deviceMap, fun _ => db.fetchRows⟩ : TopicResponder F).publishSensorCodeResponse
      mac = .ok messages ∧ messages.map TopicMessage.topic = ["S-C/request-sensor_cd/" ++ mac]) ↔
      db.succeeds = true ∧ db.writable = true := by
  constructor
  · rintro ⟨messages, h, -⟩
    obtain ⟨rows, hrows, hpublish⟩ := bind_eq_ok.mp h
    obtain ⟨hsucceeds, columns, values, hfetch, rfl⟩ := DbCalls.fetchRows_eq_ok.mp hrows
    obtain ⟨_, hjson, -⟩ := bind_eq_ok.mp hpublish
    refine ⟨hsucceeds, ?_⟩
    rw [DbCalls.writable, hfetch]
    exact isOk_iff.mpr ⟨_, hjson⟩
  · rintro ⟨hsucceeds, hwritable⟩
    have hfetched : db.fetchall.isOk = true := by
      simp only [DbCalls.succeeds, Bool.and_eq_true] at hsucceeds
      exact hsucceeds.1.2
    obtain ⟨⟨columns, values⟩, hfetch⟩ := isOk_iff.mp hfetched
    have hrows := DbCalls.fetchRows_eq_ok.mpr ⟨hsucceeds, columns, values, hfetch, rfl⟩
    rw [DbCalls.writable, hfetch] at hwritable
    obtain ⟨_, hjson⟩ := isOk_iff.mp hwritable
    refine ⟨_, bind_eq_ok.mpr ⟨_, hrows, bind_eq_ok.mpr ⟨_, hjson, rfl⟩⟩, rfl⟩

theorem onMessage_object {loads : JsonLoads F} {deviceMap : OrderedDict String (Settings F)}
    {message : ResponderMessage F} {data : List (String × PyValue F)}
    (hloads : loads message.payload = .ok (.dict data)) :
    onMessage loads deviceMap message =
      (if requestMac data = "" then .ok []
        else if message.topic = requestTopic then
          TopicResponder.publishTopicResponse ⟨deviceMap, fun _ => message.db.fetchRows⟩
            (requestMac data)
        else if message.topic = requestSensorCode then
          TopicResponder.publishSensorCodeResponse ⟨deviceMap, fun _ => message.db.fetchRows⟩
            (requestMac data)
        else .ok []) >>= sendAnswer message.publish := by
  rw [onMessage, readPayload, hloads]
  simp only [ok_bind, handlePayload, requestMac]
  rfl

omit [PyRuntime F] in
theorem sendAnswer_eq_ok {messages sent : List (TopicMessage F)} {answer : String}
    (h : messages.map TopicMessage.topic = [answer]) {publish : Except PyException Unit} :
    sendAnswer publish messages = .ok sent ↔ publish.isOk = true ∧ sent = messages := by
  cases messages with
  | nil => cases h
  | cons first rest =>
    cases publish with
    | error e => exact iff_of_false nofun nofun
    | ok a =>
      constructor
      · intro hsent
        cases hsent
        exact ⟨rfl, rfl⟩
      · rintro ⟨-, rfl⟩
        rfl

theorem publishTopicResponse_eq_ok (responder : TopicResponder F) (mac : String) :
    ∃ messages, responder.publishTopicResponse mac = .ok messages ∧
      messages.map TopicMessage.topic = ["S-C/request-topic/" ++ mac] := ⟨_, rfl, rfl⟩

/-- A harmless message gets the answer that is due. -/
theorem onMessage_of_harmless {loads : JsonLoads F} (deviceMap : OrderedDict String (Settings F))
    {message : ResponderMessage F} (h : message.Harmless (loads message.payload)) :
    ∃ messages, onMessage loads deviceMap message = .ok messages ∧
      messages.map TopicMessage.topic = (answerTopic loads message).toList := by
  cases hloads : loads message.payload with
  | error e =>
    rw [hloads] at h
    have hcaught : caughtByHandlePayload e = true := h
    rw [onMessage, readPayload, answerTopic, hloads]
    simp only [hcaught, ↓reduceIte]
    exact ⟨[], rfl, rfl⟩
  | ok data =>
    rw [hloads] at h
    cases data with
    | dict data =>
      rw [onMessage_object hloads, answerTopic, hloads]
      by_cases hmac : requestMac data = ""
      · simp only [if_pos hmac]
        exact ⟨[], rfl, rfl⟩
      · obtain ⟨htopic, hsensors⟩ := h hmac
        simp only [if_neg hmac]
        by_cases hrequest : message.topic = requestTopic
        · obtain ⟨messages, hanswer, hmap⟩ :=
            publishTopicResponse_eq_ok ⟨deviceMap, fun _ => message.db.fetchRows⟩ (requestMac data)
          simp only [if_pos hrequest, hanswer, ok_bind]
          exact ⟨messages, (sendAnswer_eq_ok hmap).mpr ⟨htopic hrequest, rfl⟩, hmap⟩
        · simp only [if_neg hrequest]
          by_cases hcode : message.topic = requestSensorCode
          · obtain ⟨hsucceeds, hwritable, hpublish⟩ := hsensors hcode
            obtain ⟨messages, hanswer, hmap⟩ :=
              (publishSensorCodeResponse_eq_ok deviceMap message.db (requestMac data)).mpr
                ⟨hsucceeds, hwritable⟩
            simp only [if_pos hcode, hanswer, ok_bind]
            refine ⟨messages, (sendAnswer_eq_ok hmap).mpr ⟨hpublish, rfl⟩, ?_⟩
            rw [if_pos ⟨hcode, hsucceeds⟩, hmap]
            rfl
          · simp only [if_neg hcode]
            refine ⟨[], rfl, ?_⟩
            rw [if_neg fun hdue => hcode hdue.1]
            rfl
    | _ => exact h.elim

/-- Any other message raises. -/
theorem harmless_of_onMessage {loads : JsonLoads F} {deviceMap : OrderedDict String (Settings F)}
    {message : ResponderMessage F} {messages : List (TopicMessage F)}
    (h : onMessage loads deviceMap message = .ok messages) :
    message.Harmless (loads message.payload) := by
  cases hloads : loads message.payload with
  | error e =>
    rw [onMessage, readPayload, hloads] at h
    by_cases hcaught : caughtByHandlePayload e = true
    · exact hcaught
    · simp only [if_neg hcaught] at h
      cases h
  | ok data =>
    cases data with
    | dict data =>
      intro hmac
      rw [onMessage_object hloads, if_neg hmac] at h
      refine ⟨fun hrequest => ?_, fun hcode => ?_⟩
      · obtain ⟨answer, hanswer, hmap⟩ :=
          publishTopicResponse_eq_ok ⟨deviceMap, fun _ => message.db.fetchRows⟩ (requestMac data)
        rw [if_pos hrequest, hanswer, ok_bind, sendAnswer_eq_ok hmap] at h
        exact h.1
      · have hne : message.topic ≠ requestTopic := by
          rw [hcode]
          decide
        rw [if_neg hne, if_pos hcode] at h
        obtain ⟨answer, hanswer, hsend⟩ := bind_eq_ok.mp h
        have hmap : answer.map TopicMessage.topic = ["S-C/request-sensor_cd/" ++ requestMac data] := by
          obtain ⟨rows, -, hpublish⟩ := bind_eq_ok.mp hanswer
          obtain ⟨_, -, hmessages⟩ := bind_eq_ok.mp hpublish
          cases hmessages
          rfl
        obtain ⟨hsucceeds, hwritable⟩ :=
          (publishSensorCodeResponse_eq_ok ..).mp ⟨answer, hanswer, hmap⟩
        exact ⟨hsucceeds, hwritable, ((sendAnswer_eq_ok hmap).mp hsend).1⟩
    | _ =>
      rw [onMessage, readPayload, hloads] at h
      cases h

/-- `handle_payload` raises exactly when the message is not harmless. -/
theorem onMessage_raises_iff (loads : JsonLoads F) (deviceMap : OrderedDict String (Settings F))
    (message : ResponderMessage F) :
    (∃ e, onMessage loads deviceMap message = .error e) ↔
      ¬ message.Harmless (loads message.payload) := by
  cases hout : onMessage loads deviceMap message with
  | error e =>
    refine iff_of_true ⟨e, rfl⟩ fun h => ?_
    obtain ⟨messages, hok, -⟩ := onMessage_of_harmless deviceMap h
    rw [hout] at hok
    cases hok
  | ok messages =>
    refine iff_of_false (fun h => ?_) (not_not_intro (harmless_of_onMessage hout))
    obtain ⟨e, he⟩ := h
    cases he

-- ---------------------------------------------------------------------------
-- Runs
-- ---------------------------------------------------------------------------

namespace ResponderRun

variable {loads : JsonLoads F} {r t : ResponderRun F}

theorem refreshMappingOnce_isOk (r : ResponderRun F) {db : DbCalls F} (h : db.succeeds = true) :
    ∃ deviceMap, r.refreshMappingOnce db = .ok { r with deviceMap } := by
  have hfetched : db.fetchall.isOk = true := by
    simp only [DbCalls.succeeds, Bool.and_eq_true] at h
    exact h.1.2
  obtain ⟨⟨columns, values⟩, hfetch⟩ := isOk_iff.mp hfetched
  have hrows := DbCalls.fetchRows_eq_ok.mpr ⟨h, columns, values, hfetch, rfl⟩
  exact ⟨_, bind_eq_ok.mpr ⟨_, hrows, rfl⟩⟩

theorem refreshMappingOnce_fails (r : ResponderRun F) {db : DbCalls F} (h : db.succeeds = false) :
    ∃ e, r.refreshMappingOnce db = .error e := by
  cases hrefresh : r.refreshMappingOnce db with
  | error e => exact ⟨e, rfl⟩
  | ok t =>
    obtain ⟨rows, hrows, -⟩ := bind_eq_ok.mp hrefresh
    rw [(DbCalls.fetchRows_eq_ok.mp hrows).1] at h
    cases h

theorem refresh_fails (r : ResponderRun F) {db : DbCalls F} (h : db.succeeds = false) :
    r.refresh db = r.finish := by
  obtain ⟨e, he⟩ := r.refreshMappingOnce_fails h
  rw [refresh, he]

theorem kept (loads : JsonLoads F) (r : ResponderRun F) (db : DbCalls F)
    (h : db.succeeds = false) : (r.step loads (.refresh db)).deviceMap = r.deviceMap := by
  rw [step]
  split
  · rw [refresh_fails r h]
    rfl
  · rfl

/-- Where the thread of the client stands when no step has gone wrong. -/
structure Sound (loads : JsonLoads F) (r : ResponderRun F) : Prop extends Survives loads r where
  up : r.phase = .idle ∨ r.phase = .running ∧ r.handling = true

theorem Sound.step (h : Sound loads r) {event : ResponderEvent F} (hevent : event.Harmless loads) :
    Sound loads (r.step loads event) := by
  cases event with
  | start db client =>
    obtain ⟨hdb, hclient⟩ := hevent
    obtain ⟨deviceMap, hrefresh⟩ := r.refreshMappingOnce_isOk hdb
    obtain ⟨_, rfl⟩ := isOk_iff.mp hclient
    rw [ResponderRun.step]
    split
    · rw [begin, hrefresh]
      exact ⟨⟨h.quiet, kept loads _, h.answered⟩, .inr ⟨rfl, rfl⟩⟩
    · exact h
  | refresh db =>
    obtain ⟨deviceMap, hrefresh⟩ := r.refreshMappingOnce_isOk hevent
    rw [ResponderRun.step]
    split
    · rw [refresh, hrefresh]
      exact ⟨⟨h.quiet, kept loads _, h.answered⟩, h.up⟩
    · exact h
  | incoming message =>
    obtain ⟨messages, hout, hmap⟩ := onMessage_of_harmless r.deviceMap hevent
    rw [ResponderRun.step]
    split
    · exact h
    · rename_i hphase
      have hhandling := (h.up.resolve_left hphase).2
      rw [ask]
      simp only [hhandling, ↓reduceIte, handle, hout]
      refine ⟨⟨h.quiet, kept loads _, ?_⟩, .inr ⟨(h.up.resolve_left hphase).1, rfl⟩⟩
      rw [List.map_append, hmap, h.answered]

/-- The thread of the client has ended. -/
structure Down (r : ResponderRun F) (published : List (TopicMessage F)) : Prop where
  started : r.phase ≠ .idle
  handling : r.handling = false
  published : r.published = published

theorem Down.step {published : List (TopicMessage F)} (h : r.Down published)
    (event : ResponderEvent F) : (r.step loads event).Down published := by
  cases event with
  | start db client =>
    rw [ResponderRun.step, if_neg h.started]
    exact h
  | refresh db =>
    rw [ResponderRun.step]
    split
    · rw [refresh]
      split
      · rename_i t hrefresh
        obtain ⟨rows, -, hrows⟩ := bind_eq_ok.mp hrefresh
        cases hrows
        exact ⟨h.started, h.handling, h.published⟩
      · exact ⟨nofun, rfl, h.published⟩
    · exact h
  | incoming message =>
    rw [ResponderRun.step, if_neg h.started, ask, if_neg (by simp [h.handling])]
    exact ⟨h.started, h.handling, h.published⟩

/-- Once the thread of the client has ended, nothing is published any more. -/
theorem silent_after {allowed : ResponderRun F → ResponderEvent F → Prop}
    (h : Runs.Reaches (step loads) allowed r t) (hphase : r.phase ≠ .idle)
    (hdown : r.handling = false) : t.published = r.published := by
  have hsilent : t.Down r.published := by
    apply h.invariant
    · exact ⟨hphase, hdown, rfl⟩
    · intro t event ht _
      exact ht.step event
  exact hsilent.published

/-- A message that is not harmless is the last one that the responder handles. -/
theorem silent_after_message {allowed : ResponderRun F → ResponderEvent F → Prop}
    {message : ResponderMessage F} (hmessage : ¬ message.Harmless (loads message.payload))
    (hphase : r.phase = .running) (hhandling : r.handling = true)
    (h : Runs.Reaches (step loads) allowed (r.step loads (.incoming message)) t) :
    t.published = r.published := by
  obtain ⟨e, he⟩ := (onMessage_raises_iff loads r.deviceMap message).mpr hmessage
  have hstep : r.step loads (.incoming message) = { r with
      due := r.due ++ (answerTopic loads message).toList
      handling := false
      raised := r.raised ++ [e] } := by
    rw [step, if_neg (by simp [hphase]), ask]
    simp only [hhandling, ↓reduceIte, handle, he]
  have hphase' : (r.step loads (.incoming message)).phase ≠ .idle := by
    rw [hstep]
    simp [hphase]
  have hsilent := silent_after h hphase' (by rw [hstep])
  rw [hsilent, hstep]

end ResponderRun

/-- A run whose messages are harmless and whose refreshes succeed is survived. -/
theorem responder_survives {loads : JsonLoads F} {r : ResponderRun F}
    (h : Runs.Reaches (ResponderRun.step loads) (fun _ event => event.Harmless loads) {} r) :
    r.Survives loads := by
  have hsound : r.Sound loads := by
    apply h.invariant
    · exact ⟨⟨rfl, ResponderRun.kept loads _, rfl⟩, .inl rfl⟩
    · intro r event hr hevent
      exact hr.step hevent
  exact hsound.toSurvives

-- ---------------------------------------------------------------------------
-- Two runs
-- ---------------------------------------------------------------------------

namespace ResponderSample

def bytes (text : String) : List UInt8 := text.toList.map fun c => c.toNat.toUInt8

/-- What `json.loads` gives for the payloads below. -/
def loads : JsonLoads WholeFloat := fun payload =>
  if payload = bytes "[]" then .ok (.list [])
  else if payload = bytes "\x7b\"mac\": \"AA:BB\"\x7d" then .ok (.dict [("mac", .str "AA:BB")])
  else .error ⟨.other "JSONDecodeError", "Expecting value: line 1 column 1 (char 0)"⟩

def mapping : DbCalls WholeFloat where
  fetchall := .ok (["mac_address", "plant_cd"], [[.str "AA:BB", .str "CD"]])

def sensors : DbCalls WholeFloat where
  fetchall := .ok (["sensor_cd", "mac_address"], [[.str "S001", .str "AA:BB"]])

def request (topic : String) : ResponderEvent WholeFloat :=
  .incoming ⟨topic, bytes "\x7b\"mac\": \"AA:BB\"\x7d", sensors, .ok ()⟩

def text (payload : String) : ResponderEvent WholeFloat :=
  .incoming ⟨requestTopic, bytes payload, sensors, .ok ()⟩

end ResponderSample

open ResponderSample in
theorem sample_survived :
    (([.start mapping (.ok ()), request requestTopic, text "?", .refresh mapping,
      request requestSensorCode].foldl (ResponderRun.step loads) {})).Survives loads :=
  responder_survives (.of_lets .start (by decide +kernel))

open ResponderSample in
theorem list_silences_responder : ¬ ∀ r : ResponderRun WholeFloat,
    Runs.Reaches (ResponderRun.step loads) (fun _ _ => True) {} r → r.Survives loads := by
  intro h
  have hrun : Runs.Reaches (ResponderRun.step loads) (fun _ _ => True) {}
      ([.start mapping (.ok ()), text "[]", request requestTopic].foldl (ResponderRun.step loads) {}) :=
    .foldl .start fun _ _ _ => trivial
  have hanswered := congrArg List.length (h _ hrun).answered
  exact absurd hanswered (by decide +kernel)

end IndustrialGateway
