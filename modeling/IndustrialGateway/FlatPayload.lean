import IndustrialGateway.SinkMessages

/-!
# The flat payload

`_mqtt_payload` turns the tags of a measurement into keys beside `timestamp`. The
store tells tags apart by group and name, the payload by the name alone. A
measurement carries one output group, so mostly the names suffice; a tag without
a group of its own may share one with a tag of the group its node id names.
-/

namespace IndustrialGateway

open SinkPublisher

variable {F : Type}

-- ---------------------------------------------------------------------------
-- One key each
-- ---------------------------------------------------------------------------

/-- The payload shows the time, and every tag under a key of its own. -/
structure Lossless (payload : List (String × PyValue F)) (timestamp : String)
    (tags : List (TagResult F)) : Prop where
  keys : (payload.map Prod.fst).Nodup
  time : ("timestamp", .str timestamp) ∈ payload
  value : ∀ tag ∈ tags, (tag.name, tag.value) ∈ payload
  count : payload.length = tags.length + 1

theorem tagEntries_named {tags : List (TagResult F)} (h : ∀ tag ∈ tags, tag.name ≠ "") :
    tagEntries (tags.map TagResult.toPayload) = tags.map fun tag => (tag.name, tag.value) := by
  have hkept : (tags.map TagResult.toPayload).filter (fun tag => tag.name ≠ "") =
      tags.map TagResult.toPayload := by
    rw [List.filter_eq_self]
    intro payload hpayload
    obtain ⟨tag, htag, rfl⟩ := List.mem_map.mp hpayload
    exact decide_eq_true (h tag htag)
  rw [tagEntries, hkept, List.map_map]
  rfl

variable [PyRuntime F]

/-- What is flattened keeps everything when the names and `timestamp` are distinct. -/
theorem lossless_iff_nodup (fromisoformat : String → Option IsoTime) {deviceId : Option Int}
    {deviceName timestamp : String} {tags : List (TagResult F)} (hnames : ∀ tag ∈ tags, tag.name ≠ "") :
    Lossless (mqttPayload fromisoformat
        (.measurement deviceId deviceName timestamp (tags.map TagResult.toPayload)))
        (mqttTimestamp fromisoformat timestamp) tags ↔
      ("timestamp" :: tags.map TagResult.name).Nodup := by
  let pairs : List (String × PyValue F) := ("timestamp", .str (mqttTimestamp fromisoformat timestamp)) ::
    tags.map fun tag => (tag.name, tag.value)
  have hkeys : pairs.map Prod.fst = "timestamp" :: tags.map TagResult.name := by
    simp [pairs, Function.comp_def]
  have hlength : pairs.length = tags.length + 1 := by
    rw [List.length_cons, List.length_map]
  have hpayload : mqttPayload fromisoformat
      (.measurement deviceId deviceName timestamp (tags.map TagResult.toPayload)) =
      (OrderedDict.ofList pairs).entries := by
    rw [mqttPayload, tagEntries_named hnames]
    rfl
  rw [hpayload, ← hkeys, ← OrderedDict.length_ofList_iff, hlength]
  constructor
  · intro h
    exact h.count
  · intro hcount
    have hnodup := OrderedDict.length_ofList_iff.mp (hcount.trans hlength.symm)
    refine ⟨(OrderedDict.ofList pairs).nodup, ?_, fun tag htag => ?_, hcount⟩
    · rw [OrderedDict.entries_ofList hnodup]
      exact List.mem_cons_self ..
    · rw [OrderedDict.entries_ofList hnodup]
      exact List.mem_cons_of_mem _ (List.mem_map_of_mem htag)

-- ---------------------------------------------------------------------------
-- Names and groups
-- ---------------------------------------------------------------------------

/-- Results of tags that the store admits: no name is blank, and no two good ones have
one group and name. -/
structure AdmissibleReadings (tags : List (TagResult F)) : Prop where
  name : ∀ tag ∈ tags, PyText.strip tag.name ≠ ""
  distinct : ((tags.filter TagResult.isGood).map fun tag => (tag.tagGroup, tag.name)).Nodup

/-- No tag of the output group has the name of the time, and none that is in it by its node
id has the name of one that is in it by its tag group. -/
structure Separable (tags : List (TagResult F)) : Prop where
  reserved : ∀ tag ∈ tags, tag.name ≠ "timestamp"
  groups : ∀ byNode ∈ tags, ∀ byGroup ∈ tags, byNode.tagGroup = "" → byGroup.tagGroup ≠ "" →
    byNode.name ≠ byGroup.name

instance (tags : List (TagResult F)) : Decidable (Separable tags) :=
  decidable_of_iff ((∀ tag ∈ tags, tag.name ≠ "timestamp") ∧ ∀ byNode ∈ tags, ∀ byGroup ∈ tags,
    byNode.tagGroup = "" → byGroup.tagGroup ≠ "" → byNode.name ≠ byGroup.name)
    ⟨fun h => ⟨h.1, h.2⟩, fun h => ⟨h.reserved, h.groups⟩⟩

omit [PyRuntime F] in
theorem tagGroup_of_outputGroup {tag : TagResult F} {group : Option String}
    (h : tagOutputGroup tag = group) (hgroup : tag.tagGroup ≠ "") : group = some tag.tagGroup := by
  rw [← h, tagOutputGroup, if_pos hgroup]

omit [PyRuntime F] in
/-- In one output group the names are distinct when the two ways into it do not meet. -/
theorem nodup_names_iff {tags : List (TagResult F)} {group : Option String}
    (hgroup : ∀ tag ∈ tags, tagOutputGroup tag = group)
    (hdistinct : (tags.map fun tag => (tag.tagGroup, tag.name)).Nodup) :
    ("timestamp" :: tags.map TagResult.name).Nodup ↔ Separable tags := by
  rw [List.nodup_cons, List.mem_map]
  constructor
  · rintro ⟨hreserved, hnames⟩
    refine ⟨fun tag htag hname => hreserved ⟨tag, htag, hname⟩, ?_⟩
    intro byNode hnode byGroup hmem hblank hgiven hname
    obtain rfl := List.inj_on_of_nodup_map hnames hnode hmem hname
    exact hgiven hblank
  · rintro ⟨hreserved, hgroups⟩
    refine ⟨fun ⟨tag, htag, hname⟩ => hreserved tag htag hname, ?_⟩
    refine List.Nodup.map_on ?_ (List.Nodup.of_map _ hdistinct)
    intro tag htag other hother hname
    refine List.inj_on_of_nodup_map hdistinct htag hother (Prod.ext ?_ hname)
    change tag.tagGroup = other.tagGroup
    by_cases hblank : tag.tagGroup = "" <;> by_cases hblank' : other.tagGroup = ""
    · rw [hblank, hblank']
    · exact absurd hname (hgroups tag htag other hother hblank hblank')
    · exact absurd hname.symm (hgroups other hother tag htag hblank' hblank)
    · have htagGroup := tagGroup_of_outputGroup (hgroup tag htag) hblank
      have hotherGroup := tagGroup_of_outputGroup (hgroup other hother) hblank'
      exact Option.some.inj (htagGroup.symm.trans hotherGroup)

-- ---------------------------------------------------------------------------
-- What publish_cached sends
-- ---------------------------------------------------------------------------

namespace SinkPublisher

variable (cfg : PublisherConfig F) (sink : Sink F)

omit [PyRuntime F] in
/-- The measurement of an output group carries its good tags and the time of the call. -/
theorem payload_of_publishGroup {device : DeviceSpec F} {now : Datetime}
    {routes : List (OutputRoute F)} {group : Option String} {tags : List (TagResult F)} {sent : Sent F}
    (h : Output.sent sent ∈ publishGroup cfg sink device now routes group tags) {m : Measurement F}
    (hm : sent.measurement? = some m) :
    m.key = deviceKey device ∧ m.group = group ∧
      sent.message.payload = .measurement device.id device.name (PyTime.isoMillis now)
        ((tags.filter TagResult.isGood).map TagResult.toPayload) := by
  unfold publishGroup at h
  dsimp only at h
  split at h
  · cases h
  · rcases List.mem_append.mp h with h | h
    · obtain rfl := sent_mem_publishMessage.mp h
      have hpayload := payload_measurementMessage cfg routes device (tags.filter TagResult.isGood) group now
      rw [Sent.measurement?, hpayload] at hm
      cases hm
      exact ⟨rfl, rfl, hpayload⟩
    · obtain rfl := sent_mem_publishMessage.mp h
      cases hm

/-- A measurement that `publish_cached` sends is of the good cached tags of its device and
output group. -/
theorem payload_of_publishCached {now : Datetime} {p : SinkPublisher F} {sent : Sent F}
    (h : Output.sent sent ∈ (publishCached cfg sink now).events p) {m : Measurement F}
    (hm : sent.measurement? = some m) :
    ∃ deviceId deviceName, sent.message.payload = .measurement deviceId deviceName
      (PyTime.isoMillis now) ((goodTagsOf (p.cachedTags m.key) m.group).map TagResult.toPayload) := by
  have hnone {os : List (Output F)} (hquiet : measurements os = []) : Output.sent sent ∉ os := by
    intro hmem
    have hin : m ∈ measurements os := List.mem_filterMap.mpr ⟨_, hmem, hm⟩
    rw [hquiet] at hin
    cases hin
  have hrefresh := refreshStaleStatuses_law cfg sink now p
  rw [publishCached, Act.events_seq, List.mem_append, Act.events_seq, List.mem_append] at h
  rcases h with h | h | h
  · exact absurd h (hnone hrefresh.2.2.1)
  · exact absurd h (hnone (reports_publishSystemHeartbeats cfg sink now m.key _).quiet)
  · obtain ⟨earlier, snapshot, later, hsplit, h⟩ := Act.mem_events_forEach h
    have hlatest := (reports_publishSystemHeartbeats cfg sink now m.key
      ((refreshStaleStatuses cfg sink now).state p)).sees.latest
    rw [publishSnapshot, Act.events_look] at h
    split at h
    · cases h
    · rw [Act.events_emitAll, List.mem_flatMap] at h
      obtain ⟨⟨group, tags⟩, hgroup, h⟩ := h
      obtain ⟨hkey, rfl, hpayload⟩ := payload_of_publishGroup cfg sink h hm
      obtain ⟨-, rfl⟩ := OrderedDict.mem_entries_groupBy.mp hgroup
      have hsnapshot : p.latest.get? m.key = some snapshot := by
        have hmem : snapshot ∈ p.latest.values := by
          rw [← hrefresh.1, ← hlatest, hsplit]
          exact List.mem_append_right _ List.mem_cons_self
        rw [hkey, mem_latest.mp hmem]
      rw [cachedTags_eq hsnapshot]
      exact ⟨_, _, hpayload⟩

-- ---------------------------------------------------------------------------
-- Runs on the tags of a store
-- ---------------------------------------------------------------------------

/-- The results are readings of these tags: a driver copies name, group and address, and
reports its own node id for a tag with every good value. -/
def Reads (tags : List (TagSpec F)) (nodeIdOf : TagSpec F → Option String)
    (results : List (TagResult F)) : Prop :=
  ∀ result ∈ results, ∃ tag ∈ tags, result.name = tag.name ∧ result.tagGroup = tag.tagGroup ∧
    result.address = tag.address ∧ (result.isGood = true → result.nodeId = nodeIdOf tag)

omit [PyRuntime F] in
/-- Two good readings of one tag are cached under one key. -/
theorem Reads.tagKey_eq {tags : List (TagSpec F)} {nodeIdOf : TagSpec F → Option String}
    {results : List (TagResult F)} (h : Reads tags nodeIdOf results)
    (hunique : (tags.map fun tag => (tag.tagGroup, tag.name)).Nodup) {x y : TagResult F}
    (hx : x ∈ results) (hy : y ∈ results) (hgood : x.isGood = true) (hgood' : y.isGood = true)
    (heq : (x.tagGroup, x.name) = (y.tagGroup, y.name)) : tagKey x = tagKey y := by
  obtain ⟨tag, htag, hname, hgroup, haddress, hnode⟩ := h x hx
  obtain ⟨other, hother, hname', hgroup', haddress', hnode'⟩ := h y hy
  have hsame : tag = other := by
    refine List.inj_on_of_nodup_map hunique htag hother ?_
    rw [← hname, ← hgroup, ← hname', ← hgroup', heq]
  rw [tagKey, tagKey, hnode hgood, hnode' hgood', hname, hname', haddress, haddress', hsame]

/-- What a publisher has cached of the tags of a store is admissible after every run. -/
theorem admissible_after (cfg : PublisherConfig F) (routes : List (OutputRoute F))
    {calls : List (Call F)} {key : DeviceKey} {tags : List (TagSpec F)}
    {nodeIdOf : TagSpec F → Option String}
    (hvalid : ∀ tag ∈ tags, PyText.strip tag.name ≠ "")
    (hunique : (tags.map fun tag => (tag.tagGroup, tag.name)).Nodup)
    (hreads : Reads tags nodeIdOf (tagHistory key calls)) :
    AdmissibleReadings ((after cfg routes calls).cachedTags key).values := by
  have hlast {result : TagResult F} (h : result ∈ ((after cfg routes calls).cachedTags key).values) :
      (tagHistoryOf key (tagKey result) calls).getLast? = some result := last_of_mem_cachedTags cfg h
  have hread {result : TagResult F} (h : result ∈ ((after cfg routes calls).cachedTags key).values) :
      result ∈ tagHistory key calls := List.mem_of_mem_filter (List.mem_of_getLast? (hlast h))
  have hkeys : ((after cfg routes calls).cachedTags key).values.map tagKey =
      ((after cfg routes calls).cachedTags key).keys := by
    rw [OrderedDict.values, OrderedDict.keys, List.map_map, cachedTags_after]
    refine List.map_congr_left fun entry hentry => ?_
    rcases OrderedDict.mem_entries_update.mp hentry with hcached | ⟨-, hnone⟩
    · obtain ⟨result, -, rfl⟩ := List.mem_map.mp (List.mem_of_mem_filter (List.mem_of_getLast? hcached))
      rfl
    · cases hnone
  refine ⟨fun result hresult => ?_, List.Nodup.map_on ?_ (List.Nodup.filter _ (.of_map tagKey ?_))⟩
  · obtain ⟨tag, htag, hname, -⟩ := hreads result (hread hresult)
    rw [hname]
    exact hvalid tag htag
  · intro x hx y hy heq
    obtain ⟨hx, hgood⟩ := List.mem_filter.mp hx
    obtain ⟨hy, hgood'⟩ := List.mem_filter.mp hy
    have hkey := hreads.tagKey_eq hunique (hread hx) (hread hy) hgood hgood' heq
    have hsame := hlast hx
    rw [hkey, hlast hy] at hsame
    exact (Option.some.inj hsame).symm
  · rw [hkeys]
    exact OrderedDict.nodup _

end SinkPublisher

/-- A measurement of `publish_cached` shows all its tags in the flat payload exactly when
they are separable by their names. -/
theorem payload_lossless_iff (fromisoformat : String → Option IsoTime) (cfg : PublisherConfig F)
    (sink : Sink F) (now : Datetime) {p : SinkPublisher F}
    (hadmissible : ∀ key, AdmissibleReadings (p.cachedTags key).values) {sent : Sent F}
    (hsent : Output.sent sent ∈ (publishCached cfg sink now).events p) {m : Measurement F}
    (hm : sent.measurement? = some m) :
    Lossless (mqttPayload fromisoformat sent.message.payload)
        (mqttTimestamp fromisoformat (PyTime.isoMillis now)) (goodTagsOf (p.cachedTags m.key) m.group) ↔
      Separable (goodTagsOf (p.cachedTags m.key) m.group) := by
  obtain ⟨deviceId, deviceName, hpayload⟩ := payload_of_publishCached cfg sink hsent hm
  obtain ⟨hname, hdistinct⟩ := hadmissible m.key
  have hnames : ∀ tag ∈ goodTagsOf (p.cachedTags m.key) m.group, tag.name ≠ "" := by
    intro tag htag hempty
    refine hname tag (mem_goodTagsOf.mp htag).1 ?_
    rw [hempty]
    exact PyText.stripped_empty
  have hsub : (goodTagsOf (p.cachedTags m.key) m.group).Sublist
      ((p.cachedTags m.key).values.filter TagResult.isGood) := List.filter_sublist.filter _
  rw [hpayload, lossless_iff_nodup fromisoformat hnames]
  exact nodup_names_iff (fun tag htag => (mem_goodTagsOf.mp htag).2.1)
    (hdistinct.sublist (hsub.map _))

-- The temperature and the pressure of a group, and a temperature without a group under
-- this node id.
section Temperatures

variable (nodeId : String)

def temperatureTags : List (TagSpec WholeFloat) :=
  let spec (name tagGroup nodeId : String) : TagSpec WholeFloat :=
    { name, address := 0, function := "holding_register", dataType := "float32",
      tagGroup, scale := ⟨1⟩, offset := ⟨0⟩, nodeId := some nodeId }
  [spec "temperature" "PHH01" "ns=2;s=PHH01.temperature",
    spec "pressure" "PHH01" "ns=2;s=PHH01.pressure", spec "temperature" "" nodeId]

/-- All are good. -/
def temperatureReadings : List (Call WholeFloat) :=
  let device : DeviceSpec WholeFloat := ⟨some 1, "press", "opcua", true, 1000, "", ∅⟩
  let reading (name : String) (value : Int) (nodeId tagGroup : String) : TagResult WholeFloat :=
    ⟨name, 0, .int value, .good, none, 0, some nodeId, tagGroup⟩
  [.publishOnce ⟨device, 0, [reading "temperature" 20 "ns=2;s=PHH01.temperature" "PHH01",
    reading "pressure" 6 "ns=2;s=PHH01.pressure" "PHH01", reading "temperature" 31 nodeId ""], none⟩ 0
    fun _ => none]

theorem temperatures_admissible (key : DeviceKey) :
    AdmissibleReadings ((after defaultConfig [] (temperatureReadings nodeId)).cachedTags key).values := by
  have hname : PyText.strip "temperature" ≠ "" := by decide
  have hother : PyText.strip "pressure" ≠ "" := by decide
  have hvalid : ∀ tag ∈ temperatureTags nodeId, PyText.strip tag.name ≠ "" := by
    simp [temperatureTags, hname, hother]
  have hunique : ((temperatureTags nodeId).map fun tag => (tag.tagGroup, tag.name)).Nodup := by
    simp [temperatureTags]
  have hreads : Reads (temperatureTags nodeId) TagSpec.nodeId
      (tagHistory key (temperatureReadings nodeId)) := by
    intro result hresult
    rw [tagHistory, temperatureReadings, okResults_publishOnce] at hresult
    split at hresult
    · simp only [List.flatMap_cons, List.flatMap_nil, List.append_nil, List.mem_cons, List.not_mem_nil,
        or_false] at hresult
      rcases hresult with rfl | rfl | rfl
      · exact ⟨_, List.mem_cons_self, rfl, rfl, rfl, fun _ => rfl⟩
      · exact ⟨_, List.mem_cons_of_mem _ List.mem_cons_self, rfl, rfl, rfl, fun _ => rfl⟩
      · exact ⟨_, List.mem_cons_of_mem _ (List.mem_cons_of_mem _ List.mem_cons_self), rfl, rfl, rfl,
          fun _ => rfl⟩
    · cases hresult
  exact admissible_after defaultConfig [] hvalid hunique hreads

def temperatureOutputs : List (Output WholeFloat) :=
  (publishCached defaultConfig (fun _ => none) 0).events (after defaultConfig [] (temperatureReadings nodeId))

end Temperatures

/-- The measurement of the group shows both its tags. -/
theorem separate_temperatures_shown : ∃ sent m,
    Output.sent sent ∈ temperatureOutputs "ns=2;s=PHH02.temperature" ∧ sent.measurement? = some m ∧
      (goodTagsOf ((after defaultConfig [] (temperatureReadings "ns=2;s=PHH02.temperature")).cachedTags
        m.key) m.group).length = 2 ∧
      Lossless (mqttPayload (fun _ => none) sent.message.payload)
        (mqttTimestamp (fun _ => none) (PyTime.isoMillis 0))
        (goodTagsOf ((after defaultConfig [] (temperatureReadings "ns=2;s=PHH02.temperature")).cachedTags
          m.key) m.group) := by
  obtain ⟨sent, hsent, m, hm, hlength, hseparable⟩ :
      ∃ sent ∈ sents (temperatureOutputs "ns=2;s=PHH02.temperature"), ∃ m ∈ sent.measurement?,
        (goodTagsOf ((after defaultConfig [] (temperatureReadings "ns=2;s=PHH02.temperature")).cachedTags
          m.key) m.group).length = 2 ∧ Separable (goodTagsOf ((after defaultConfig []
            (temperatureReadings "ns=2;s=PHH02.temperature")).cachedTags m.key) m.group) := by
    decide +kernel
  refine ⟨sent, m, mem_sents.mp hsent, hm, hlength, ?_⟩
  exact (payload_lossless_iff (fun _ => none) defaultConfig (fun _ => none) 0
    (temperatures_admissible _) (mem_sents.mp hsent) hm).mpr hseparable

/-- Under a node id of the group, the two temperatures become one. -/
theorem temperature_overwritten : ¬ ∀ (p : SinkPublisher WholeFloat) (now : Datetime)
    (sent : Sent WholeFloat) (m : Measurement WholeFloat),
    (∀ key, AdmissibleReadings (p.cachedTags key).values) →
    Output.sent sent ∈ (publishCached defaultConfig (fun _ => none) now).events p →
    sent.measurement? = some m → Lossless (mqttPayload (fun _ => none) sent.message.payload)
      (mqttTimestamp (fun _ => none) (PyTime.isoMillis now)) (goodTagsOf (p.cachedTags m.key) m.group) := by
  intro h
  obtain ⟨sent, hsent, m, hm, hmerged⟩ :
      ∃ sent ∈ sents (temperatureOutputs "ns=2;s=PHH01.zone.temperature"), ∃ m ∈ sent.measurement?,
        (mqttPayload (fun _ => none) sent.message.payload).length ≠ (goodTagsOf ((after defaultConfig []
          (temperatureReadings "ns=2;s=PHH01.zone.temperature")).cachedTags m.key) m.group).length + 1 := by
    decide +kernel
  exact hmerged (h _ 0 sent m (temperatures_admissible _) (mem_sents.mp hsent) hm).count

end IndustrialGateway
