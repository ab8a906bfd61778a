import IndustrialGateway.Outage
import IndustrialGateway.PublisherRules
import IndustrialGateway.Sinks

/-!
# What the publisher hands to the sinks

Every message of a run is a status or a measurement of received values.
`MqttSink` takes both kinds. `PostgresSink` takes the measurements only: a status
has no device, so `_params_from_message` raises.
-/

namespace IndustrialGateway

open SinkPublisher

variable {F σ : Type}

-- ---------------------------------------------------------------------------
-- The kinds of messages
-- ---------------------------------------------------------------------------

/-- A message with tags is the measurement of an output group. -/
def Output.Classified : Output F → Prop
  | .sent s => ∀ tags, s.message.payload.tags? = some tags → ∃ m, s.measurement? = some m ∧ m.tags = tags
  | _ => True

theorem classified_status {about : About F} {pluginType : String} {message : BatchMessage F}
    (h : message.payload.tags? = none) : (Output.sent ⟨about, pluginType, message⟩).Classified := by
  intro tags htags
  rw [h] at htags
  cases htags

namespace SinkPublisher

variable (cfg : PublisherConfig F)

/-- Status messages have no tags, measurements are those of their output group. -/
theorem rules_classified :
    Rules cfg (fun _ => True) (fun _ => True) (Output.Classified : Output F → Prop) where
  setState _ _ _ _ := trivial
  device _ _ _ _ := trivial
  text _ := trivial
  log _ := trivial
  update p _ device _ status error now o ho := by
    rw [emitRuntimeTagStatus, Act.events_look] at ho
    split at ho
    · cases ho
    · obtain ⟨tag, -, rfl⟩ := List.mem_map.mp ho
      trivial
  status _ _ _ _ _ _ _ _ := classified_status rfl
  measurement routes device tags group now := by
    intro tags' htags
    rw [payload_measurementMessage] at htags
    refine ⟨⟨deviceKey device, group, tags'⟩, ?_, rfl⟩
    rw [Sent.measurement?, payload_measurementMessage, Option.some.inj htags]

variable [PyRuntime F]

/-- Whatever the state, every message of a call is of a known kind. -/
theorem classified_call (c : Call F) (p : SinkPublisher F) : ∀ o ∈ (call cfg c).events p, o.Classified := by
  cases c with
  | publishOnce result now sink =>
    refine ((rules_classified cfg).respects_publishResult sink trivial now (fun _ _ => trivial) ?_).emits p
      trivial
    intro tag _ o ho
    rw [reportTag, List.mem_append, List.mem_singleton] at ho
    rcases ho with ho | rfl
    · split at ho
      · cases ho
      · obtain rfl := List.mem_singleton.mp ho
        trivial
    · trivial
  | publishCached now sink =>
    exact ((rules_classified cfg).respects_publishCached sink now (fun _ _ _ => trivial)
      fun _ => classified_status rfl).emits p trivial

/-- The tags of a message in a run are those of results received before. -/
theorem received_of_sent {routes : List (OutputRoute F)} {calls : List (Call F)} {c₀ : Call F}
    {s : Sent F} {tags : List (TagPayload F)}
    (hs : Output.sent s ∈ (call cfg c₀).events (after cfg routes calls))
    (htags : s.message.payload.tags? = some tags) {payload : TagPayload F} (hp : payload ∈ tags) :
    ∃ key, ∃ tag ∈ tagHistory key calls, tag.toPayload = payload := by
  obtain ⟨m, hmeasurement, rfl⟩ := classified_call cfg c₀ _ _ hs tags htags
  have hm : m ∈ measurements ((call cfg c₀).events (after cfg routes calls)) :=
    List.mem_filterMap.mpr ⟨_, hs, hmeasurement⟩
  cases c₀ with
  | publishOnce result now sink =>
    rw [call] at hm
    cases he : textTruthy result.error with
    | true =>
      rw [(publishResult_error cfg sink _ _ he).2.2.1] at hm
      cases hm
    | false =>
      rw [(publishResult_ok cfg sink _ _ he).2.2.1] at hm
      cases hm
  | publishCached now sink =>
    obtain ⟨-, -, heq⟩ := (mem_measurements_publishCached cfg sink).mp hm
    rw [heq] at hp
    obtain ⟨tag, htag, rfl⟩ := List.mem_map.mp hp
    have hlast := last_of_mem_cachedTags cfg (mem_goodTagsOf.mp htag).1
    exact ⟨m.key, tag, List.mem_of_mem_filter (List.mem_of_getLast? hlast), rfl⟩

end SinkPublisher

-- ---------------------------------------------------------------------------
-- What the sinks take
-- ---------------------------------------------------------------------------

/-- Every value of the message goes through `json.dumps`. -/
def Serialisable (message : BatchMessage F) : Prop :=
  ∀ tags, message.payload.tags? = some tags → ∀ tag ∈ tags, PyValue.checkJson tag.value = .ok ()

variable [PyRuntime F]

theorem dumps_eq_ok {pad : String} {value : PyValue F} (h : PyValue.checkJson value = .ok ()) :
    PyValue.dumps pad value = .ok (String.ofList (PyValue.json pad.toList value)) := by
  rw [PyValue.dumps, h]
  rfl

theorem checkJson_sensor (sensor : SensorStatus) :
    PyValue.checkJson (F := F) (.dict sensor.entries) = .ok () := by
  rw [PyValue.checkJson]
  refine PyValue.checkJsonDict_eq_ok.mpr ?_
  rintro ⟨key, value⟩ hentry
  simp only [SensorStatus.entries, List.mem_cons, Prod.mk.injEq, List.not_mem_nil,
    or_false] at hentry
  rcases hentry with ⟨_, rfl⟩ | ⟨_, rfl⟩ | ⟨_, rfl⟩ | ⟨_, rfl⟩ | ⟨_, rfl⟩ | ⟨_, rfl⟩
  any_goals rfl
  cases sensor.errorMsg <;> rfl

theorem checkJson_mqttPayload {fromisoformat : String → Option IsoTime} {message : BatchMessage F}
    (h : Serialisable message) :
    PyValue.checkJson (.dict (mqttPayload fromisoformat message.payload)) = .ok () := by
  rw [PyValue.checkJson]
  refine PyValue.checkJsonDict_eq_ok.mpr ?_
  obtain ⟨topic, payload, qos, useMessageTopic⟩ := message
  cases payload with
  | status timestamp sensors =>
    rintro ⟨key, value⟩ hentry
    simp only [mqttPayload, List.mem_cons, Prod.mk.injEq, List.not_mem_nil, or_false] at hentry
    rcases hentry with ⟨rfl, rfl⟩ | ⟨rfl, rfl⟩
    · rfl
    · rw [PyValue.checkJson]
      induction sensors with
      | nil => rfl
      | cons sensor sensors ih =>
        rw [List.map_cons, PyValue.checkJsonList, checkJson_sensor]
        refine ih ?_
        rintro tags ⟨⟩
  | measurement deviceId deviceName timestamp tags =>
    intro entry hentry
    rcases OrderedDict.mem_entries_update.mp hentry with hlast | ⟨-, hentry⟩
    · obtain ⟨tag, htag, rfl⟩ := List.mem_map.mp (List.mem_of_mem_filter (List.mem_of_getLast? hlast))
      exact h tags rfl tag (List.mem_of_mem_filter htag)
    · obtain rfl := List.mem_singleton.mp hentry
      rfl

/-- The database takes the statements of these rows, each as the one before left it, and
their commit. -/
def Connection.Commits (connection : Connection σ) (sql : String) : List Params → σ → Prop
  | [], s => (connection.commit s).1 = .ok ()
  | params :: rest, s => (connection.execute sql (some params) s).1 = .ok () ∧
    connection.Commits sql rest (connection.execute sql (some params) s).2

/-- The calls on the client or the connection that `publish_batch` makes for the message
succeed: those of its own topic, payload and rows, from the state it is called in. -/
def RegisteredSink.CallsSucceed (fromisoformat : String → Option IsoTime) (isAlnum : Char → Bool)
    (message : BatchMessage F) (s : σ) : RegisteredSink F σ → Prop
  | .mqtt sink => ∀ client payload, sink.client = some client →
    PyValue.dumps "" (.dict (mqttPayload fromisoformat message.payload)) = .ok payload →
      (client (sink.effectiveTopic message) payload message.qos s).1 = .ok 0
  | .postgresql sink => ∀ connection table rows, sink.connection = some connection →
    sink.tableName isAlnum = .ok table → paramsFromMessage message = .ok rows →
      connection.Commits (insertSql table "%s") rows s

/-- The sink is enabled and its `start` has returned. -/
def RegisteredSink.Started (isAlnum : Char → Bool) : RegisteredSink F σ → Prop
  | .mqtt sink => ∃ connect made s t, made.config.enabled = true ∧
    MqttSink.start connect made s = (.ok sink, t)
  | .postgresql sink => ∃ connect made s t,
    PostgresSink.start isAlnum connect made s = (.ok sink, t)

theorem bind_of_fst_ok {α β : Type} {m : Fallible PyException σ α} {f : α → Fallible PyException σ β}
    {s : σ} {a : α} (h : (m s).1 = .ok a) : (m >>= f) s = f a (m s).2 :=
  Fallible.bind_eq_of_ok (Prod.ext h rfl)

theorem mqtt_publishes {fromisoformat : String → Option IsoTime} {isAlnum : Char → Bool}
    {sink : MqttSink σ} {client : MqttClient σ} (hclient : sink.client = some client)
    {message : BatchMessage F} {s : σ} (hjson : Serialisable message)
    (hcalls : (RegisteredSink.mqtt sink).CallsSucceed fromisoformat isAlnum message s) :
    (sink.publishBatch fromisoformat message s).1 = .ok () := by
  have hpayload : PyValue.dumps "" (.dict (mqttPayload fromisoformat message.payload)) = .ok _ :=
    dumps_eq_ok (checkJson_mqttPayload hjson)
  rw [MqttSink.publishBatch, hclient]
  dsimp only
  rw [hpayload, Fallible.lift_ok_bind, bind_of_fst_ok (hcalls client _ hclient hpayload)]
  rfl

theorem paramsOfTag_ok {device : Option Int × String} {timestamp : String} {tag : TagPayload F}
    (h : PyValue.checkJson tag.value = .ok ()) :
    ∃ params, paramsOfTag device timestamp tag = .ok params := by
  rw [paramsOfTag, dumps_eq_ok h]
  exact ⟨_, rfl⟩

/-- The rows of a measurement can be built, those of a status cannot. -/
theorem paramsFromMessage_ok {message : BatchMessage F} (hjson : Serialisable message) :
    (∃ rows, paramsFromMessage message = .ok rows) ↔ ∃ tags, message.payload.tags? = some tags := by
  obtain ⟨topic, payload, qos, useMessageTopic⟩ := message
  cases payload with
  | status timestamp sensors =>
    constructor
    · rintro ⟨rows, h⟩
      cases h
    · rintro ⟨tags, h⟩
      cases h
  | measurement deviceId deviceName timestamp tags =>
    refine ⟨fun _ => ⟨tags, rfl⟩, fun _ => ?_⟩
    exact mapM_ok fun tag htag => paramsOfTag_ok (hjson tags rfl tag htag)

theorem Connection.Commits.insertRows {connection : Connection σ} {sql : String} {rows : List Params}
    {s : σ} (h : connection.Commits sql rows s) :
    ((do PostgresSink.insertRows connection sql rows; connection.commit : Fallible PyException σ Unit)
      s).1 = .ok () := by
  induction rows generalizing s with
  | nil => exact h
  | cons params rows ih =>
    obtain ⟨hexecute, hrest⟩ := h
    rw [PostgresSink.insertRows, bind_assoc, bind_of_fst_ok hexecute]
    exact ih hrest

theorem postgres_publishes_iff {fromisoformat : String → Option IsoTime} {isAlnum : Char → Bool}
    {sink : PostgresSink F σ} {connection : Connection σ}
    (hconnection : sink.connection = some connection) {message : BatchMessage F} {s : σ}
    (hjson : Serialisable message)
    (hcalls : (RegisteredSink.postgresql sink).CallsSucceed fromisoformat isAlnum message s) :
    (sink.publishBatch isAlnum message s).1 = .ok () ↔
      (∃ table, sink.tableName isAlnum = .ok table) ∧ ∃ tags, message.payload.tags? = some tags := by
  rw [PostgresSink.publishBatch, hconnection, ← paramsFromMessage_ok hjson]
  dsimp only
  cases htable : sink.tableName isAlnum with
  | error exc =>
    constructor
    · intro h
      cases h
    · rintro ⟨⟨table, h⟩, -⟩
      cases h
  | ok table =>
    rw [Fallible.lift_ok_bind]
    cases hrows : paramsFromMessage message with
    | error exc =>
      constructor
      · intro h
        cases h
      · rintro ⟨-, rows, h⟩
        cases h
    | ok rows =>
      refine ⟨fun _ => ⟨⟨table, rfl⟩, rows, rfl⟩, fun _ => ?_⟩
      exact (hcalls connection table rows hconnection htable hrows).insertRows

theorem client_of_start {connect : MqttConfig → Fallible PyException σ (MqttClient σ)}
    {made sink : MqttSink σ} {s t : σ} (henabled : made.config.enabled = true)
    (h : MqttSink.start connect made s = (.ok sink, t)) : ∃ client, sink.client = some client := by
  rw [MqttSink.start, henabled, if_neg nofun, Fallible.bind_eq_ok] at h
  obtain ⟨client, u, -, h⟩ := h
  cases h
  exact ⟨client, rfl⟩

/-- A start that creates the table has checked its name. -/
theorem postgres_start {isAlnum : Char → Bool}
    {connect : OrderedDict String (PyValue F) → Fallible PyException σ (Connection σ)}
    {made sink : PostgresSink F σ} {s t : σ}
    (h : PostgresSink.start isAlnum connect made s = (.ok sink, t)) :
    (∃ connection, sink.connection = some connection) ∧
      (((sink.config.get? "auto_create").getD (.bool true)).truthy = true →
        ∃ table, sink.tableName isAlnum = .ok table) := by
  rw [PostgresSink.start, Fallible.bind_eq_ok] at h
  obtain ⟨connection, u, -, h⟩ := h
  dsimp only at h
  split at h
  · rw [Fallible.bind_eq_ok] at h
    obtain ⟨table, v, htable, h⟩ := h
    obtain ⟨hname, -⟩ := Fallible.lift_eq_ok.mp htable
    rw [Fallible.bind_eq_ok] at h
    obtain ⟨-, w, -, h⟩ := h
    rw [Fallible.bind_eq_ok] at h
    obtain ⟨-, x, -, h⟩ := h
    cases h
    exact ⟨⟨connection, rfl⟩, fun _ => ⟨table, hname⟩⟩
  · rename_i hcreate
    cases h
    exact ⟨⟨connection, rfl⟩, fun h => absurd h hcreate⟩

/-- The MQTT sink takes every message. The database sink takes the measurements, if
its table name passes, which a start that creates the table has seen to. -/
def RegisteredSink.Takes (isAlnum : Char → Bool) (sink : RegisteredSink F σ)
    (message : BatchMessage F) : Prop :=
  match sink with
  | .mqtt _ => True
  | .postgresql sink => (∃ tags, message.payload.tags? = some tags) ∧
    (((sink.config.get? "auto_create").getD (.bool true)).truthy = true ∨
      ∃ table, sink.tableName isAlnum = .ok table)

/-- In any run, a started sink whose broker or database does what the call asks of it
publishes a message of the publisher exactly when it takes messages of its kind. -/
theorem publishBatch_ok_iff (fromisoformat : String → Option IsoTime) (isAlnum : Char → Bool)
    (cfg : PublisherConfig F) (routes : List (OutputRoute F)) (calls : List (Call F)) (c₀ : Call F)
    (hjson : ∀ key, ∀ tag ∈ tagHistory key calls, PyValue.checkJson tag.value = .ok ())
    {sink : RegisteredSink F σ} (hstarted : sink.Started isAlnum) {sent : Sent F}
    (hsent : Output.sent sent ∈ (call cfg c₀).events (after cfg routes calls)) {s : σ}
    (hcalls : sink.CallsSucceed fromisoformat isAlnum sent.message s) :
    (sink.publishBatch fromisoformat isAlnum sent.message s).1 = .ok () ↔
      sink.Takes isAlnum sent.message := by
  have hserialisable : Serialisable sent.message := by
    intro tags htags payload hpayload
    obtain ⟨key, tag, htag, rfl⟩ := received_of_sent cfg hsent htags hpayload
    exact hjson key tag htag
  cases sink with
  | mqtt sink =>
    obtain ⟨connect, made, u, t, henabled, hstart⟩ := hstarted
    obtain ⟨client, hclient⟩ := client_of_start henabled hstart
    exact iff_of_true (mqtt_publishes hclient hserialisable hcalls) trivial
  | postgresql sink =>
    obtain ⟨connect, made, u, t, hstart⟩ := hstarted
    obtain ⟨⟨connection, hconnection⟩, hcreate⟩ := postgres_start hstart
    rw [RegisteredSink.publishBatch, postgres_publishes_iff hconnection hserialisable hcalls,
      RegisteredSink.Takes]
    constructor
    · rintro ⟨htable, htags⟩
      exact ⟨htags, .inr htable⟩
    · rintro ⟨htags, hauto | htable⟩
      · exact ⟨hcreate hauto, htags⟩
      · exact ⟨htable, htags⟩

/-- One good value of one device. -/
def oneReading : List (Call WholeFloat) :=
  let device : DeviceSpec WholeFloat := ⟨some 1, "press", "opcua", true, 1000, "", ∅⟩
  [.publishOnce ⟨device, 0, [⟨"temperature", 0, .int 20, .good, none, 0, none, ""⟩], none⟩ 0 fun _ => none]

/-- A database with the default table, as its rows. -/
def defaultTable : Connection (List Params) where
  execute sql params := match params with
    | none => pure ()
    | some params =>
      if sql = insertSql "gateway_tag_values" "%s" then .modify (· ++ [params])
      else .raise ⟨.other "UndefinedTable", "relation does not exist"⟩
  commit := pure ()

/-- A sink without settings. -/
def archive : RegisteredSink WholeFloat (List Params) := .postgresql ⟨∅, some defaultTable⟩

theorem archive_started : archive.Started Char.isAlphanum :=
  ⟨fun _ => pure defaultTable, ⟨∅, none⟩, [], [], rfl⟩

theorem defaultTable_commits (rows s : List Params) :
    defaultTable.Commits (insertSql "gateway_tag_values" "%s") rows s := by
  induction rows generalizing s with
  | nil => rfl
  | cons params rows ih => exact ⟨by simp [defaultTable, Fallible.modify], ih _⟩

theorem archive_callsSucceed (message : BatchMessage WholeFloat) (s : List Params) :
    archive.CallsSucceed (fun _ => none) Char.isAlphanum message s := by
  rintro connection table rows ⟨⟩ htable -
  obtain rfl : "gateway_tag_values" = table := by
    simpa using (show Except.ok "gateway_tag_values" = Except.ok table from htable)
  exact defaultTable_commits rows s

/-- A broker with what it was sent, whose client refuses the topics of a filter. -/
def strictClient : MqttClient (List (String × String)) := fun topic payload _ =>
  if '#' ∈ topic.toList ∨ '+' ∈ topic.toList then
    .raise ⟨.valueError, "Publish topic cannot contain wildcards."⟩
  else do
    .modify (· ++ [(topic, payload)])
    return 0

theorem strictClient_takes {topic : String} (h : ¬('#' ∈ topic.toList ∨ '+' ∈ topic.toList))
    (payload : String) (qos : Int) (s : List (String × String)) :
    (strictClient topic payload qos s).1 = .ok 0 := by
  rw [strictClient, if_neg h]
  rfl

def broker : RegisteredSink WholeFloat (List (String × String)) := .mqtt ⟨{}, some strictClient⟩

theorem broker_started : broker.Started Char.isAlphanum :=
  ⟨fun _ => pure strictClient, ⟨{}, none⟩, [], [], rfl, rfl⟩

/-- What `publish_cached` sends of it, without routes. -/
def cachedMessages : List (Sent WholeFloat) :=
  sents ((call defaultConfig (.publishCached 1000000 fun _ => none)).events
    (after defaultConfig [] oneReading))

theorem oneReading_json :
    ∀ key, ∀ tag ∈ tagHistory key oneReading, PyValue.checkJson tag.value = .ok () := by
  intro key tag htag
  rw [tagHistory, oneReading, okResults_publishOnce] at htag
  split at htag
  · obtain rfl := List.mem_singleton.mp htag
    rfl
  · cases htag

theorem status_not_archived :
    ¬ ∀ (calls : List (Call WholeFloat)) (c₀ : Call WholeFloat)
      (sink : RegisteredSink WholeFloat (List Params)) (s : List Params),
      (∀ key, ∀ tag ∈ tagHistory key calls, PyValue.checkJson tag.value = .ok ()) →
      sink.Started Char.isAlphanum →
      ∀ sent, Output.sent sent ∈ (call defaultConfig c₀).events (after defaultConfig [] calls) →
        sink.CallsSucceed (fun _ => none) Char.isAlphanum sent.message s →
        (sink.publishBatch (fun _ => none) Char.isAlphanum sent.message s).1 = .ok () := by
  intro h
  obtain ⟨sent, hsent, hnone⟩ : ∃ sent ∈ cachedMessages, sent.message.payload.tags?.isNone = true := by
    decide +kernel
  rw [Option.isNone_iff_eq_none] at hnone
  have hcalls := archive_callsSucceed sent.message []
  have hok := h _ _ archive [] oneReading_json archive_started sent (mem_sents.mp hsent) hcalls
  obtain ⟨-, tags, hsome⟩ := (postgres_publishes_iff rfl
    (fun tags hsome => by rw [hnone] at hsome; cases hsome) hcalls).mp hok
  rw [hnone] at hsome
  cases hsome

/-- The measurement of the run is published by both. -/
theorem publishBatch_ok_iff_measurement : ∃ sent ∈ cachedMessages,
    (archive.publishBatch (fun _ => none) Char.isAlphanum sent.message []).1 = .ok () ∧
    (broker.publishBatch (fun _ => none) Char.isAlphanum sent.message []).1 = .ok () := by
  obtain ⟨sent, hsent, htags, htopic⟩ : ∃ sent ∈ cachedMessages,
      sent.message.payload.tags?.isSome = true ∧ sent.message.useMessageTopic = false := by
    decide +kernel
  refine ⟨sent, hsent, ?_, ?_⟩
  · exact (publishBatch_ok_iff (fun _ => none) Char.isAlphanum defaultConfig [] oneReading
      (.publishCached 1000000 fun _ => none) oneReading_json archive_started (mem_sents.mp hsent)
      (archive_callsSucceed sent.message [])).mpr ⟨Option.isSome_iff_exists.mp htags, .inl rfl⟩
  · refine (publishBatch_ok_iff (fun _ => none) Char.isAlphanum defaultConfig [] oneReading
      (.publishCached 1000000 fun _ => none) oneReading_json broker_started (mem_sents.mp hsent)
      ?_).mpr trivial
    rintro client payload ⟨⟩ -
    rw [MqttSink.effectiveTopic, htopic, if_neg Bool.false_ne_true]
    exact strictClient_takes (by decide +kernel) _ _ _

end IndustrialGateway
