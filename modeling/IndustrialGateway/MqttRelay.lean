import IndustrialGateway.FlatPayload
import IndustrialGateway.MqttInput
import IndustrialGateway.StatusTopic

/-!
# From one gateway to another

What `MqttSink` publishes for one gateway an MQTT input of another one can read. The
measurement goes through a JSON text and its bytes; the other gateway finds in it the
tags' values under their names.
-/

namespace IndustrialGateway

open SinkPublisher

variable {F σ : Type}

namespace MqttInput

/-- What the last tag of a name shows; the time of the measurement is a name of its own. -/
def namedValue (time : String) (tags : List (TagResult F)) (name : String) : PyValue F :=
  match (tags.filter fun tag => tag.name ≠ "" ∧ tag.name = name).getLast? with
  | some tag => tag.value
  | none => if name = "timestamp" then .str time else .none

variable [PyRuntime F]

/-- What a tag gets of a measurement: its field names a tag of the measurement, and a path
into the tag's value. -/
def relayedValue (time : String) (tags : List (TagResult F)) (tag : TagSpec F) :
    Except PyException (PyValue F) :=
  let path := PyText.split '.' (field tag)
  foundValue (fieldPath (namedValue time tags (path.headD "")) path.tail) tag

-- ---------------------------------------------------------------------------
-- The payload
-- ---------------------------------------------------------------------------

omit [PyRuntime F] in
theorem fieldPath_none (parts : List String) : fieldPath (.none : PyValue F) parts = .none := by
  cases parts <;> rfl

theorem lookup_mqttPayload (fromisoformat : String → Option IsoTime) (deviceId : Option Int)
    (deviceName timestamp name : String) (tags : List (TagResult F)) :
    (OrderedDict.lookup name (mqttPayload fromisoformat (.measurement deviceId deviceName timestamp
      (tags.map TagResult.toPayload)))).getD .none =
      namedValue (mqttTimestamp fromisoformat timestamp) tags name := by
  have hentries : tagEntries (tags.map TagResult.toPayload) =
      (tags.filter fun tag => tag.name ≠ "").map fun tag => (tag.name, tag.value) := by
    rw [tagEntries, List.filter_map, List.map_map]
    rfl
  have hnamed : (((tags.filter fun tag => tag.name ≠ "").map fun tag => (tag.name, tag.value)).filter
      fun p => p.1 = name).getLast? =
        ((tags.filter fun tag => tag.name ≠ "" ∧ tag.name = name).getLast?).map
          fun tag => (tag.name, tag.value) := by
    rw [List.filter_map, List.getLast?_map, List.filter_filter]
    congr 3
    funext tag
    simp [and_comm]
  rw [mqttPayload, hentries]
  change (OrderedDict.get? (OrderedDict.update _ _) name).getD PyValue.none = _
  rw [OrderedDict.get?_update, OrderedDict.lookup_eq_head?, List.filter_reverse, List.head?_reverse,
    hnamed, namedValue]
  cases (tags.filter fun tag => tag.name ≠ "" ∧ tag.name = name).getLast? with
  | some tag => rfl
  | none =>
    change (OrderedDict.get? (OrderedDict.ofList _) name).getD PyValue.none = _
    by_cases htime : name = "timestamp"
    · subst htime
      rfl
    · rw [if_neg htime, OrderedDict.get?_ofList, List.filter_cons_of_neg]
      · rfl
      · simpa using Ne.symm htime

theorem tagValue_mqttPayload (fromisoformat : String → Option IsoTime) (deviceId : Option Int)
    (deviceName timestamp : String) (tags : List (TagResult F)) (tag : TagSpec F) :
    tagValue (.dict (mqttPayload fromisoformat (.measurement deviceId deviceName timestamp
      (tags.map TagResult.toPayload)))) tag =
      relayedValue (mqttTimestamp fromisoformat timestamp) tags tag := by
  have hlookup := lookup_mqttPayload fromisoformat deviceId deviceName timestamp
    ((PyText.split '.' (field tag)).headD "") tags
  have hpath : fieldValue (.dict (mqttPayload fromisoformat (.measurement deviceId deviceName timestamp
      (tags.map TagResult.toPayload)))) (field tag) =
        fieldPath (namedValue (mqttTimestamp fromisoformat timestamp) tags
          ((PyText.split '.' (field tag)).headD "")) (PyText.split '.' (field tag)).tail := by
    rw [fieldValue, ← hlookup]
    cases hsplit : PyText.split '.' (field tag) with
    | nil => exact absurd hsplit (split_ne_nil '.' (field tag))
    | cons part parts =>
      rw [fieldPath]
      dsimp only [List.headD_cons, List.tail_cons]
      cases OrderedDict.lookup part _ with
      | none => exact (fieldPath_none parts).symm
      | some value => rfl
  rw [tagValue, hpath, relayedValue]

-- ---------------------------------------------------------------------------
-- The text and its bytes
-- ---------------------------------------------------------------------------

theorem keyed_mqttPayload {fromisoformat : String → Option IsoTime} {deviceId : Option Int}
    {deviceName timestamp : String} {tags : List (TagResult F)}
    (h : ∀ tag ∈ tags, JsonReader.keyed tag.value = true) :
    JsonReader.keyed (.dict (mqttPayload fromisoformat (.measurement deviceId deviceName timestamp
      (tags.map TagResult.toPayload)))) = true := by
  refine JsonReader.keyed_dict_iff.mpr ⟨OrderedDict.nodup _, fun p hp => ?_⟩
  rcases OrderedDict.mem_entries_update.mp hp with hlast | ⟨-, hold⟩
  · have hentry := (List.mem_filter.mp (List.mem_of_getLast? hlast)).1
    rw [tagEntries] at hentry
    obtain ⟨payload, hpayload, rfl⟩ := List.mem_map.mp hentry
    obtain ⟨tag, htag, rfl⟩ := List.mem_map.mp (List.mem_filter.mp hpayload).1
    exact h tag htag
  · obtain rfl := List.mem_singleton.mp hold
    rfl

theorem payloadText_utf8 (py : Decoders F) (text : String) :
    payloadText py.reading (.bytes text.toUTF8) = .ok text := by
  have hvalid : String.fromUTF8? text.toUTF8 = some text := dif_pos text.isValidUTF8
  rw [payloadText, Decoders.reading]
  dsimp only
  rw [hvalid]

theorem sent_of_publishBatch {fromisoformat : String → Option IsoTime} {sink : MqttSink σ}
    {message : BatchMessage F} {s t : σ} (h : sink.publishBatch fromisoformat message s = (.ok (), t)) :
    ∃ client text, sink.client = some client ∧
      PyValue.dumps "" (.dict (mqttPayload fromisoformat message.payload)) = .ok text ∧
      client (sink.effectiveTopic message) text message.qos s = (.ok 0, t) := by
  rw [MqttSink.publishBatch] at h
  cases hclient : sink.client with
  | none =>
    rw [hclient] at h
    cases h
  | some client =>
    rw [hclient] at h
    obtain ⟨text, u, hlift, h⟩ := Fallible.bind_eq_ok.mp h
    obtain ⟨htext, rfl⟩ := Fallible.lift_eq_ok.mp hlift
    obtain ⟨rc, v, hrc, h⟩ := Fallible.bind_eq_ok.mp h
    split at h
    · cases h
    · rename_i hzero
      obtain ⟨-, rfl⟩ := Fallible.pure_eq_ok.mp h
      obtain rfl : rc = 0 := of_not_not hzero
      exact ⟨client, text, rfl, htext, hrc⟩

/-- What the input of another gateway emits for the bytes of a measurement that one has
published: a tag of it gets the newest value of the tag that its field names. -/
theorem relayed_measurement {F : Type} [PyJson F] [PyLoads F] (fromisoformat : String → Option IsoTime)
    (cfg : PublisherConfig F) (broker : Sink F) (now : Datetime) {p : SinkPublisher F}
    {sent : Sent F} (hsent : Output.sent sent ∈ (publishCached cfg broker now).events p)
    {m : Measurement F} (hm : sent.measurement? = some m)
    (hkeyed : ∀ tag ∈ goodTagsOf (p.cachedTags m.key) m.group, JsonReader.keyed tag.value = true)
    {sink : MqttSink σ} {s t : σ}
    (hpublish : sink.publishBatch fromisoformat sent.message s = (.ok (), t)) :
    ∃ client text, sink.client = some client ∧
      client (sink.effectiveTopic sent.message) text sent.message.qos s = (.ok 0, t) ∧
      ∀ (py : Decoders F) (device : DeviceSpec F) (tags : List (TagSpec F)) (received : Datetime),
        onMessage py.reading device tags received (.bytes text.toUTF8) =
          match payloadTimestamp py.reading (.dict (mqttPayload fromisoformat sent.message.payload))
            device.connection with
          | .ok timestamp => ⟨device, timestamp.getD received, tags.map fun tag =>
              tagResult tag (timestamp.getD received)
                (relayedValue (mqttTimestamp fromisoformat (PyTime.isoMillis now))
                  (goodTagsOf (p.cachedTags m.key) m.group) tag), none⟩
          | .error exc => ⟨device, received, tags.map fun tag => bad tag received exc.message, none⟩ := by
  obtain ⟨deviceId, deviceName, hpayload⟩ := payload_of_publishCached cfg broker hsent hm
  obtain ⟨client, text, hclient, htext, hsend⟩ := sent_of_publishBatch hpublish
  refine ⟨client, text, hclient, hsend, fun py device tags received => ?_⟩
  have hblank : ∀ c ∈ "".toList, Reader.isBlank c = true := fun _ hc => absurd hc List.not_mem_nil
  have hread : py.reading.json text =
      .ok (.dict (mqttPayload fromisoformat sent.message.payload)) := by
    have hloads := JsonReader.loads_dumps hblank (hpayload ▸ keyed_mqttPayload hkeyed) htext
    rw [Decoders.reading]
    dsimp only
    rw [hloads]
  rw [onMessage, readMessage, payloadText_utf8, ok_bind, hread, ok_bind]
  cases payloadTimestamp py.reading (.dict (mqttPayload fromisoformat sent.message.payload))
    device.connection with
  | error exc => rfl
  | ok timestamp =>
    rw [ok_bind]
    change ReadResult.mk device _ (tags.map _) none = _
    congr 2
    funext tag
    rw [hpayload, tagValue_mqttPayload]

-- A press with two tags, and a gateway with a tag for the one, for the other, whose name
-- has a dot, and for one that the press has not.
section Press

def pressConfig : PublisherConfig ClassFloat := ⟨{}, "mqtt", .finite ⟨15⟩, .finite ⟨60⟩⟩

def pressReadings : List (Call ClassFloat) :=
  [.publishOnce ⟨⟨some 1, "press", "opcua", true, 1000, "", ∅⟩, 0,
    [⟨"temperature", 0, .int 20, .good, none, 0, none, ""⟩,
      ⟨"zone.temp", 1, .int 5, .good, none, 0, none, ""⟩], none⟩ 0 fun _ => none]

def pressMirror : DeviceSpec ClassFloat := ⟨some 7, "mirror", "mqtt", true, 1000, "", ∅⟩

def mirrorTag (name field : String) : TagSpec ClassFloat :=
  { name, address := 0, function := "json_field", dataType := "auto", scale := .finite ⟨1⟩,
    offset := .finite ⟨0⟩, nodeId := some field }

def mirrorTags : List (TagSpec ClassFloat) :=
  [mirrorTag "T" "temperature", mirrorTag "Z" "zone.temp", mirrorTag "P" "pressure"]

def mirrorResults : List (TagResult ClassFloat) :=
  [tagResult (mirrorTag "T" "temperature") 5 (.ok (.int 20)),
    tagResult (mirrorTag "Z" "zone.temp") 5 (.error ⟨.keyError, "'zone.temp'"⟩),
    tagResult (mirrorTag "P" "pressure") 5 (.error ⟨.keyError, "'pressure'"⟩)]

def openBroker : MqttSink Unit := ⟨{}, some fun _ _ _ => pure 0⟩

/-- Decoders that are only asked for what is read here. -/
def noDecoders : Decoders ClassFloat :=
  ⟨fun _ => .error ⟨.valueError, "utf-8"⟩, fun _ => .error ⟨.valueError, "json"⟩, fun _ => none,
    fun _ => .error ⟨.valueError, "time"⟩, fun _ => .error ⟨.valueError, "zone"⟩⟩

end Press

theorem openBroker_ok {message : BatchMessage ClassFloat}
    (h : (openBroker.publishBatch (fun _ => none) message ()).1.isOk = true) :
    openBroker.publishBatch (fun _ => none) message () = (.ok (), ()) := by
  refine Prod.ext ?_ rfl
  cases hfst : (openBroker.publishBatch (fun _ => none) message ()).1 with
  | ok u => rfl
  | error exc =>
    rw [hfst] at h
    cases h

theorem press_relayed : ∃ text : String,
    onMessage noDecoders.reading pressMirror mirrorTags 5 (.bytes text.toUTF8) =
      ⟨pressMirror, 5, mirrorResults, none⟩ := by
  obtain ⟨sent, hsent, m, hm, hok, hvalues⟩ :
      ∃ sent ∈ sents ((publishCached pressConfig (fun _ => none) 0).events
        (after pressConfig [] pressReadings)), ∃ m ∈ sent.measurement?,
        (openBroker.publishBatch (fun _ => none) sent.message ()).1.isOk = true ∧
          mirrorTags.map (fun tag => tagResult tag 5 (relayedValue
            (mqttTimestamp (fun _ => none) (PyTime.isoMillis 0))
            (goodTagsOf ((after pressConfig [] pressReadings).cachedTags m.key) m.group) tag)) =
          mirrorResults := by
    decide +kernel
  have hpublish := openBroker_ok hok
  have hkeyed : ∀ tag ∈ goodTagsOf ((after pressConfig [] pressReadings).cachedTags m.key) m.group,
      JsonReader.keyed tag.value = true := by
    intro tag htag
    have hread : tag ∈ tagHistory m.key pressReadings := List.mem_of_mem_filter (List.mem_of_getLast?
      (last_of_mem_cachedTags pressConfig (mem_goodTagsOf.mp htag).1))
    rw [tagHistory, pressReadings, okResults_publishOnce] at hread
    split at hread
    · rcases List.mem_pair.mp hread with rfl | rfl <;> rfl
    · cases hread
  obtain ⟨client, text, -, -, hread⟩ := relayed_measurement (fun _ => none) pressConfig (fun _ => none) 0
    (mem_sents.mp hsent) hm hkeyed hpublish
  refine ⟨text, ?_⟩
  have htime := payloadTimestamp_unset noDecoders.reading
    (.dict (mqttPayload (fun _ => none) sent.message.payload)) pressMirror.connection (by decide +kernel)
  rw [hread noDecoders pressMirror mirrorTags 5, htime]
  exact congrArg (fun tags => ReadResult.mk pressMirror 5 tags none) hvalues

end MqttInput

end IndustrialGateway
