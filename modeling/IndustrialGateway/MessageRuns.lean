import IndustrialGateway.Coalescing
import IndustrialGateway.MqttInput
import IndustrialGateway.Outage

/-!
# Runs of messages

Every message of an MQTT input says something about every tag of the device, and under
the same keys whether it can be read or not. So once the queue is drained nothing is
cached for the device but what its newest message says, whatever came between the
messages and whichever of them were coalesced.
-/

namespace IndustrialGateway

open SinkPublisher LatestReadResultQueue LatestQueue OrderedDict

variable {F : Type} [PyRuntime F]

namespace MqttInput

-- ---------------------------------------------------------------------------
-- The keys of a message
-- ---------------------------------------------------------------------------

section

variable (py : Decoders F) (device : DeviceSpec F) (tags : List (TagSpec F)) (now : Datetime)
  (message : MessagePayload)

theorem field_given {tag : TagSpec F} (h : validateMqttTag tag = .ok ()) :
    tag.nodeId = some (field tag) ∧ field tag ≠ "" := by
  obtain ⟨own, hown, hstrip⟩ := (validateNodeTag_ok.mp h).nodeId
  have hne : own ≠ "" := by
    rintro rfl
    exact hstrip PyText.stripped_empty
  have hfield : field tag = own := by rw [field, hown, textOr_some, if_neg hne]
  rw [hfield, hown]
  exact ⟨rfl, hne⟩

/-- A result under the field of a tag that the store admits. -/
structure ResultOf (tag : TagSpec F) (r : TagResult F) : Prop where
  nodeId : r.nodeId = some (field tag)
  group : r.tagGroup = tag.tagGroup
  address : r.address = tag.address

omit [PyRuntime F] in
theorem ResultOf.key {tag : TagSpec F} {r : TagResult F} (h : ResultOf tag r) (hne : field tag ≠ "") :
    tagKey r = field tag := by
  rw [tagKey, h.nodeId, textOr_some, if_neg hne]

omit [PyRuntime F] in
theorem ResultOf.ident {tag : TagSpec F} {r : TagResult F} (h : ResultOf tag r) (hne : field tag ≠ "") :
    tagIdent r = (tag.tagGroup, field tag) := by
  rw [tagIdent, h.nodeId, h.group, textOr_some, if_neg hne]

/-- What a message says about the tags, in their order. -/
theorem tags_onMessage : ∃ result : TagSpec F → TagResult F,
    (onMessage py device tags now message).tags = tags.map result ∧
      ∀ tag, validateMqttTag tag = .ok () → ResultOf tag (result tag) := by
  rw [onMessage]
  cases readMessage py device.connection now message with
  | error exc => exact ⟨_, rfl, fun tag hvalid => ⟨(field_given hvalid).1, rfl, rfl⟩⟩
  | ok read =>
    refine ⟨_, rfl, fun tag _ => ?_⟩
    cases tagValue read.1 tag <;> exact ⟨rfl, rfl, rfl⟩

theorem device_onMessage : (onMessage py device tags now message).device = device ∧
    (onMessage py device tags now message).error = none := by
  rw [onMessage]
  cases readMessage py device.connection now message <;> exact ⟨rfl, rfl⟩

end

/-- A message of the device's input. -/
def IsMessage (py : Decoders F) (device : DeviceSpec F) (tags : List (TagSpec F)) (r : ReadResult F) :
    Prop :=
  ∃ now message, r = onMessage py device tags now message

variable {py : Decoders F} {device : DeviceSpec F} {tags : List (TagSpec F)}

theorem IsMessage.result {r : ReadResult F} (h : IsMessage py device tags r)
    (hvalid : ∀ tag ∈ tags, validateMqttTag tag = .ok ()) {t : TagResult F} (ht : t ∈ r.tags) :
    ∃ tag ∈ tags, ResultOf tag t ∧ field tag ≠ "" := by
  obtain ⟨now, message, rfl⟩ := h
  obtain ⟨result, htags, hresult⟩ := tags_onMessage py device tags now message
  rw [htags] at ht
  obtain ⟨tag, htag, rfl⟩ := List.mem_map.mp ht
  exact ⟨tag, htag, hresult tag (hvalid tag htag), (field_given (hvalid tag htag)).2⟩

theorem IsMessage.keys {r : ReadResult F} (h : IsMessage py device tags r)
    (hvalid : ∀ tag ∈ tags, validateMqttTag tag = .ok ()) : r.tags.map tagKey = tags.map field := by
  obtain ⟨now, message, rfl⟩ := h
  obtain ⟨result, htags, hresult⟩ := tags_onMessage py device tags now message
  rw [htags, List.map_map]
  exact List.map_congr_left fun tag htag =>
    (hresult tag (hvalid tag htag)).key (field_given (hvalid tag htag)).2

theorem IsMessage.fields {r : ReadResult F} (h : IsMessage py device tags r) :
    r.device = device ∧ textTruthy r.error = false := by
  obtain ⟨now, message, rfl⟩ := h
  obtain ⟨hdevice, herror⟩ := device_onMessage py device tags now message
  exact ⟨hdevice, by rw [herror]; rfl⟩

theorem sameTags_messages (hvalid : ∀ tag ∈ tags, validateMqttTag tag = .ok ())
    (hfields : (tags.map field).Nodup) {rs : List (ReadResult F)}
    (hrs : ∀ r ∈ rs, IsMessage py device tags r) : SameTags rs := by
  intro r hr r' hr' _ t ht t' ht' hident
  obtain ⟨tag, htag, hresult, hne⟩ := (hrs r hr).result hvalid ht
  obtain ⟨tag', htag', hresult', hne'⟩ := (hrs r' hr').result hvalid ht'
  rw [hresult.ident hne, hresult'.ident hne'] at hident
  obtain rfl := List.inj_on_of_nodup_map hfields htag htag' (Prod.mk.inj hident).2
  exact ⟨hresult.nodeId.trans hresult'.nodeId.symm, hresult.address.trans hresult'.address.symm⟩

-- ---------------------------------------------------------------------------
-- What is cached
-- ---------------------------------------------------------------------------

/-- Whether an item writes this cache entry. -/
def writes (key : DeviceKey) (k : String) (item : ItemKey × ReadResult F) : Bool :=
  tagClass item = some (key, k)

omit [PyRuntime F] in
theorem device_of_writes {key : DeviceKey} {k : String} {item : ItemKey × ReadResult F}
    (h : tagClass item = some (key, k)) : deviceKey item.2.device = key := by
  unfold tagClass at h
  split at h
  · cases h
  · obtain ⟨tag, -, heq⟩ := Option.map_eq_some_iff.mp h
    exact (Prod.mk.inj heq).1

variable {key : DeviceKey} {steps : List (QueueStep F)}

/-- What is put for the device without error. -/
def resultsOf (key : DeviceKey) (steps : List (QueueStep F)) : List (ReadResult F) :=
  (steps.filterMap QueueStep.result?).filter fun r => deviceKey r.device = key ∧ textTruthy r.error = false

omit [PyRuntime F] in
theorem mem_resultsOf {r : ReadResult F} : r ∈ resultsOf key steps ↔
    r ∈ steps.filterMap QueueStep.result? ∧ deviceKey r.device = key ∧ textTruthy r.error = false := by
  rw [resultsOf, List.mem_filter, decide_eq_true_eq]

omit [PyRuntime F] in
/-- An item that writes a cache entry is one of a tag. -/
theorem tag_of_writes {k : String} {r : ReadResult F} {item : ItemKey × ReadResult F}
    (hitem : item ∈ splitItems r) (h : tagClass item = some (key, k)) :
    ∃ t ∈ r.tags, tagKey t = k ∧ textTruthy r.error = false ∧
      item = (tagItemKey r.device t, { r with tags := [t] }) := by
  rcases mem_splitItems hitem with ⟨rfl, hwhole⟩ | ⟨t, ht, herror, rfl⟩
  · rcases hwhole with hwhole | hwhole <;> simp [tagClass, hwhole] at h
  · refine ⟨t, ht, ?_, herror, rfl⟩
    rw [tagClass, herror, if_neg Bool.false_ne_true] at h
    exact (Prod.mk.inj (Option.some.inj h)).2

theorem classifies_writes (hvalid : ∀ tag ∈ tags, validateMqttTag tag = .ok ())
    (hfields : (tags.map field).Nodup) (hmessages : ∀ r ∈ resultsOf key steps, IsMessage py device tags r)
    (k : String) : Classifies (writes key k) (putItems steps) := by
  let own : List (QueueStep F) := (resultsOf key steps).map .put
  have hresults : own.filterMap QueueStep.result? = resultsOf key steps := by
    rw [List.filterMap_map]
    exact List.filterMap_some
  have hclass : Classifies tagClass (putItems own) :=
    classifies_tag (hresults ▸ sameTags_messages hvalid hfields hmessages)
  -- an item of a tag of the device is one of its messages'
  have hown : ∀ item ∈ putItems steps, deviceKey item.2.device = key → item.1.tag ≠ none →
      item ∈ putItems own := by
    intro item hitem hdevice htag
    obtain ⟨r, hr, hsplit⟩ := List.mem_flatMap.mp hitem
    rw [(key_device hsplit).2] at hdevice
    refine List.mem_flatMap.mpr ⟨r, ?_, hsplit⟩
    rw [hresults]
    rcases mem_splitItems hsplit with ⟨rfl, -⟩ | ⟨t, -, herror, -⟩
    · exact absurd rfl htag
    · exact mem_resultsOf.mpr ⟨hr, hdevice, herror⟩
  have hsame : ∀ item ∈ putItems steps, ∀ item' ∈ putItems steps, item.1 = item'.1 →
      tagClass item = some (key, k) → tagClass item' = some (key, k) := by
    intro item hitem item' hitem' hkey hwrites
    have hdevice : deviceKey item.2.device = deviceKey item'.2.device :=
      classifies_status steps item hitem item' hitem' hkey
    obtain ⟨r, -, hsplit⟩ := List.mem_flatMap.mp hitem
    obtain ⟨t, -, -, -, heq⟩ := tag_of_writes hsplit hwrites
    have htag : item.1.tag ≠ none := by
      rw [heq]
      exact Option.some_ne_none _
    have hdeviceKey := device_of_writes hwrites
    rw [← hwrites]
    exact (hclass item (hown item hitem hdeviceKey htag) item'
      (hown item' hitem' (hdevice ▸ hdeviceKey) (hkey ▸ htag)) hkey).symm
  intro item hitem item' hitem' hkey
  exact Bool.eq_iff_iff.mpr (by
    rw [writes, writes, decide_eq_true_eq, decide_eq_true_eq]
    exact ⟨hsame item hitem item' hitem' hkey, hsame item' hitem' item hitem hkey.symm⟩)

omit [PyRuntime F] in
/-- The item of a result that writes a cache entry. -/
theorem lastOf_splitItems {r : ReadResult F} (hkey : deviceKey r.device = key)
    (herror : textTruthy r.error = false) (k : String) :
    (lastOf (writes key k) true (splitItems r)).map (fun item => item.2.tags.head?) =
      ((r.tags.filter fun t => tagKey t = k).getLast?).map some := by
  cases htags : r.tags with
  | nil =>
    have hwhole : splitItems r = [(resultKey r.device, r)] := splitItems_whole (.inr htags)
    have hnone : lastOf (writes key k) true (splitItems r) = none := by
      refine lastOf_eq_none fun item hitem => ?_
      obtain rfl := List.mem_singleton.mp (hwhole ▸ hitem)
      simp [writes, tagClass, herror, htags]
    rw [hnone]
    rfl
  | cons t ts =>
    have hwrites : ∀ t : TagResult F, writes key k (tagItemKey r.device t, { r with tags := [t] }) =
        decide (tagKey t = k) := by
      intro t
      rw [writes, tagClass, herror, if_neg Bool.false_ne_true]
      simp [hkey]
    rw [splitItems_tags herror (by simp [htags]), lastOf_map, Option.map_map, htags, lastOf]
    have hfilter : (t :: ts).filter (fun e => decide
        (writes key k (tagItemKey r.device e, { r with tags := [e] }) = true)) =
          (t :: ts).filter fun t => tagKey t = k := by
      refine List.filter_congr fun t _ => ?_
      rw [hwrites]
      simp
    rw [hfilter]
    rfl

omit [PyRuntime F] in
/-- The items of the last result of a class, between those of the results around it. -/
theorem putItems_split {γ : Type} [DecidableEq γ] {c : ReadResult F → γ} {x : γ} {r : ReadResult F}
    (h : lastOf c x (steps.filterMap QueueStep.result?) = some r) :
    ∃ before behind, steps.filterMap QueueStep.result? = before ++ r :: behind ∧
      (∀ r' ∈ behind, c r' ≠ x) ∧ putItems steps =
        before.flatMap splitItems ++ (splitItems r ++ behind.flatMap splitItems) := by
  obtain ⟨before, behind, hsplit, hbehind⟩ := split_of_lastOf h
  refine ⟨before, behind, hsplit, hbehind, ?_⟩
  rw [putItems, hsplit, List.flatMap_append, List.flatMap_cons]

/-- Once the queue is drained, the cache shows of the device what its newest message says
and under other keys what it showed before. -/
theorem cached_newest (cfg : PublisherConfig F) (p : SinkPublisher F)
    (hvalid : ∀ tag ∈ tags, validateMqttTag tag = .ok ()) (hfields : (tags.map field).Nodup)
    (hmessages : ∀ r ∈ resultsOf key steps, IsMessage py device tags r) {last : ReadResult F}
    (hlast : (resultsOf key steps).getLast? = some last)
    (hdrained : (steps.foldl (latestStep cfg) (.empty, p)).1.pending = []) (k : String) :
    ((steps.foldl (latestStep cfg) (.empty, p)).2.cachedTags key).get? k =
      ((last.tags.filter fun t => tagKey t = k).getLast?).or ((p.cachedTags key).get? k) := by
  obtain ⟨consumed, hqueue, hstate⟩ := latest_run cfg steps p
  have hempty : (steps.foldl (latestStep cfg) (.empty, p)).1.items.entries = [] := by
    simpa [pending, OrderedDict.values] using hdrained
  have hone : ∀ e ∈ consumed, textTruthy e.1.2.error = false → e.1.2.tags.length ≤ 1 := fun e he =>
    oneTag (hqueue.subset (List.mem_append_left _ (List.mem_map_of_mem he)))
  have hclass : ∀ l : List (ItemKey × ReadResult F),
      lastOf tagClass (some (key, k)) l = lastOf (writes key k) true l := by
    intro l
    rw [lastOf, lastOf]
    congr 1
    exact List.filter_congr fun item _ => by simp [writes]
  rw [hstate, cachedTags_consumed cfg hone, hclass,
    hqueue.lastOf_drained (classifies_writes hvalid hfields hmessages k) hempty]
  have hmem : last ∈ resultsOf key steps := List.mem_of_getLast? hlast
  obtain ⟨-, hlastKey, hlastError⟩ := mem_resultsOf.mp hmem
  let reports (r : ReadResult F) : Bool := deviceKey r.device = key ∧ textTruthy r.error = false
  have hreports : lastOf reports true (steps.filterMap QueueStep.result?) = some last := by
    rw [← hlast, resultsOf, lastOf]
    congr 1
    exact List.filter_congr fun r _ => by simp [reports]
  obtain ⟨before, behind, hsplit, hbehind, hitems⟩ := putItems_split hreports
  have hnone : lastOf (writes key k) true (behind.flatMap splitItems) = none := by
    refine lastOf_eq_none fun item hitem hwrites => ?_
    obtain ⟨r, hr, hitem⟩ := List.mem_flatMap.mp hitem
    have hclass := of_decide_eq_true hwrites
    obtain ⟨-, -, -, herror, -⟩ := tag_of_writes hitem hclass
    refine hbehind r hr (decide_eq_true ⟨?_, herror⟩)
    rw [← (key_device hitem).2]
    exact device_of_writes hclass
  have hown := lastOf_splitItems hlastKey hlastError k
  rw [hitems, lastOf_append, lastOf_append, hnone, Option.none_or]
  cases hfound : (last.tags.filter fun t => tagKey t = k).getLast? with
  | some t =>
    rw [hfound] at hown
    obtain ⟨item, hitem, ht⟩ := Option.map_eq_some_iff.mp hown
    rw [hitem, Option.some_or, Option.map_some, Option.getD_some, ht]
    rfl
  | none =>
    -- no message has the key
    have hkeys : k ∉ tags.map field := by
      intro hk
      rw [← (hmessages last hmem).keys hvalid] at hk
      obtain ⟨t, ht, htk⟩ := List.mem_map.mp hk
      rw [List.getLast?_eq_none_iff, List.filter_eq_nil_iff] at hfound
      exact hfound t ht (decide_eq_true htk)
    have hearlier : lastOf (writes key k) true (before.flatMap splitItems) = none := by
      refine lastOf_eq_none fun item hitem hwrites => hkeys ?_
      obtain ⟨r, hr, hitem⟩ := List.mem_flatMap.mp hitem
      have hclass := of_decide_eq_true hwrites
      obtain ⟨t, ht, rfl, herror, -⟩ := tag_of_writes hitem hclass
      have hdevice := device_of_writes hclass
      rw [(key_device hitem).2] at hdevice
      have hresult : r ∈ resultsOf key steps :=
        mem_resultsOf.mpr ⟨hsplit ▸ List.mem_append_left _ hr, hdevice, herror⟩
      rw [← (hmessages r hresult).keys hvalid]
      exact List.mem_map_of_mem ht
    rw [hfound] at hown
    have hnothing : lastOf (writes key k) true (splitItems last) = none := by
      simpa using hown
    rw [hnothing, hearlier]
    rfl

theorem bad_of_unreadable {now : Datetime} {message : MessagePayload} {exc : PyException}
    (h : readMessage py device.connection now message = .error exc) :
    ∀ t ∈ (onMessage py device tags now message).tags, t.isGood = false := by
  rw [onMessage, h]
  intro t ht
  obtain ⟨tag, -, rfl⟩ := List.mem_map.mp ht
  rfl

-- ---------------------------------------------------------------------------
-- What the newest message decides
-- ---------------------------------------------------------------------------

/-- The newest result that was put for the device. -/
def newestOf (key : DeviceKey) (steps : List (QueueStep F)) : Option (ReadResult F) :=
  ((steps.filterMap QueueStep.result?).filter fun r => deviceKey r.device = key).getLast?

omit [PyRuntime F] in
theorem resultsOf_newest {r : ReadResult F} (hnewest : newestOf key steps = some r)
    (herror : textTruthy r.error = false) : (resultsOf key steps).getLast? = some r := by
  obtain ⟨before, hsplit⟩ := List.getLast?_eq_some_iff.mp hnewest
  have hfilter : resultsOf key steps =
      ((steps.filterMap QueueStep.result?).filter fun r => deviceKey r.device = key).filter
        fun r => textTruthy r.error = false := by
    rw [resultsOf, List.filter_filter]
    exact List.filter_congr fun r _ => by simp [and_comm]
  rw [hfilter, hsplit, List.filter_append, List.filter_singleton, herror]
  exact List.getLast?_concat ..

/-- The last item of the newest result decides the status. -/
theorem status_newest (cfg : PublisherConfig F) (p : SinkPublisher F) {r : ReadResult F}
    (hnewest : newestOf key steps = some r)
    (hdrained : (steps.foldl (latestStep cfg) (.empty, p)).1.pending = []) :
    (steps.foldl (latestStep cfg) (.empty, p)).2.statusOf key =
      (splitItems r).getLast?.map fun item => itemStatus item.2 := by
  obtain ⟨consumed, hqueue, hstate⟩ := latest_run cfg steps p
  have hempty : (steps.foldl (latestStep cfg) (.empty, p)).1.items.entries = [] := by
    simpa [pending, OrderedDict.values] using hdrained
  rw [hstate, statusOf_consumed, hqueue.lastOf_drained (classifies_status steps) hempty]
  let about (r : ReadResult F) : DeviceKey := deviceKey r.device
  have hlast : lastOf about key (steps.filterMap QueueStep.result?) = some r := hnewest
  obtain ⟨before, behind, -, hbehind, hitems⟩ := putItems_split hlast
  have hnone : lastOf statusClass key (behind.flatMap splitItems) = none := by
    refine lastOf_eq_none fun item hitem hclass => ?_
    obtain ⟨r, hr, hitem⟩ := List.mem_flatMap.mp hitem
    rw [statusClass, (key_device hitem).2] at hclass
    exact hbehind r hr hclass
  have hown : lastOf statusClass key (splitItems r) = (splitItems r).getLast? := by
    refine congrArg List.getLast? (List.filter_eq_self.mpr fun item hitem => ?_)
    rw [statusClass, (key_device hitem).2]
    exact decide_eq_true (lastOf_some hlast).2
  rw [hitems, lastOf_append, lastOf_append, hnone, Option.none_or, hown]
  cases hlastItem : (splitItems r).getLast? with
  | some item => rfl
  | none =>
    have hnil := List.getLast?_eq_none_iff.mp hlastItem
    unfold splitItems at hnil
    split at hnil
    · cases hnil
    · rename_i hwhole
      rw [List.map_eq_nil_iff] at hnil
      simp [hnil] at hwhole

theorem status_of_lastTag (cfg : PublisherConfig F) (p : SinkPublisher F) {r : ReadResult F}
    (hnewest : newestOf key steps = some r) (herror : textTruthy r.error = false) (hne : r.tags ≠ [])
    (hdrained : (steps.foldl (latestStep cfg) (.empty, p)).1.pending = []) :
    (steps.foldl (latestStep cfg) (.empty, p)).2.statusOf key = some .good ↔
      r.tags.getLast?.any TagResult.isGood = true := by
  have hsplit : splitItems r =
      r.tags.map fun tag => (tagItemKey r.device tag, { r with tags := [tag] }) := by
    rw [splitItems, herror, if_neg (by simp [hne])]
  rw [status_newest cfg p hnewest hdrained, hsplit, List.getLast?_map,
    List.getLast?_eq_some_getLast hne]
  simp only [Option.map_some, itemStatus, herror, resultStatus_singleton, Option.any_some]
  cases (r.tags.getLast hne).isGood <;> simp

/-- The cache holds what the newest message says and nothing else. -/
theorem cached_values (cfg : PublisherConfig F) (p : SinkPublisher F)
    (hvalid : ∀ tag ∈ tags, validateMqttTag tag = .ok ()) (hfields : (tags.map field).Nodup)
    (hknown : ∀ k ∈ (p.cachedTags key).keys, k ∈ tags.map field)
    (hmessages : ∀ r ∈ resultsOf key steps, IsMessage py device tags r) {last : ReadResult F}
    (hlast : (resultsOf key steps).getLast? = some last)
    (hdrained : (steps.foldl (latestStep cfg) (.empty, p)).1.pending = []) :
    ((steps.foldl (latestStep cfg) (.empty, p)).2.cachedTags key).values.Perm last.tags := by
  have hkeys := (hmessages _ (List.mem_of_getLast? hlast)).keys hvalid
  refine values_perm (hkeys ▸ hfields) fun k => ?_
  rw [cached_newest cfg p hvalid hfields hmessages hlast hdrained]
  by_cases hk : k ∈ tags.map field
  · rw [← hkeys] at hk
    obtain ⟨t, ht, rfl⟩ := List.mem_map.mp hk
    cases hfound : (last.tags.filter fun t' => tagKey t' = tagKey t).getLast? with
    | some t' => rfl
    | none =>
      rw [List.getLast?_eq_none_iff, List.filter_eq_nil_iff] at hfound
      exact absurd (decide_eq_true rfl) (hfound t ht)
  · have hnone : (p.cachedTags key).get? k = none := get?_eq_none.mpr (mt (hknown k) hk)
    rw [hnone, Option.or_none]

/-- The newest message of a device decides what is published of it next: its good values,
each group in a message of its own, when its last tag has one, and else nothing. -/
theorem newest_message_published (cfg : PublisherConfig F) (p : SinkPublisher F)
    (hvalid : ∀ tag ∈ tags, validateMqttTag tag = .ok ()) (hfields : (tags.map field).Nodup)
    (hknown : ∀ k ∈ (p.cachedTags key).keys, k ∈ tags.map field)
    (hmessages : ∀ r ∈ resultsOf key steps, IsMessage py device tags r) {received : Datetime}
    {message : MessagePayload}
    (hnewest : newestOf key steps = some (onMessage py device tags received message))
    (hdrained : (steps.foldl (latestStep cfg) (.empty, p)).1.pending = []) {now : Datetime}
    (hrecent : ∀ snapshot, (steps.foldl (latestStep cfg) (.empty, p)).2.latest.get? key =
      some snapshot → timedOut cfg now snapshot = false) (sink : Sink F) :
    let newest := (onMessage py device tags received message).tags
    let events := (publishCached cfg sink now).events (steps.foldl (latestStep cfg) (.empty, p)).2
    (publishedTags key events).Perm (if newest.getLast?.any TagResult.isGood then
        (newest.filter TagResult.isGood).map TagResult.toPayload else []) ∧
      (∀ m ∈ measurements events, m.key = key → m.tags.Perm ((newest.filter fun t =>
        tagOutputGroup t = m.group ∧ t.isGood = true).map TagResult.toPayload)) ∧
      ((∃ exc, readMessage py device.connection received message = .error exc) →
        publishedTags key events = []) := by
  intro newest events
  have herror : textTruthy (onMessage py device tags received message).error = false := by
    rw [(device_onMessage py device tags received message).2]
    rfl
  have hvalues : ((steps.foldl (latestStep cfg) (.empty, p)).2.cachedTags key).values.Perm newest :=
    cached_values cfg p hvalid hfields hknown hmessages (resultsOf_newest hnewest herror) hdrained
  have hpublished : (publishedTags key events).Perm (if newest.getLast?.any TagResult.isGood then
      (newest.filter TagResult.isGood).map TagResult.toPayload else []) :=
    publishedTags_of_results cfg sink hvalues
      (fun hne => status_of_lastTag cfg p hnewest herror hne hdrained) hrecent
  refine ⟨hpublished, fun m hm hkey => ?_, fun ⟨exc, hread⟩ => ?_⟩
  · obtain ⟨-, -, htags⟩ := (mem_measurements_publishCached cfg sink).mp hm
    rw [htags, hkey, goodTagsOf, List.filter_filter]
    refine ((hvalues.filter _).trans (List.Perm.of_eq ?_)).map _
    exact List.filter_congr fun t _ => by cases t.isGood <;> simp
  · have hnone : newest.filter TagResult.isGood = [] :=
      List.filter_eq_nil_iff.mpr fun t ht => by simp [bad_of_unreadable hread t ht]
    rw [hnone] at hpublished
    simpa using hpublished

-- A boiler with two tags. Of its messages the second is cut off, and the third has no
-- pressure.
section Boiler

def boilerInput : DeviceSpec WholeFloat := ⟨some 3, "boiler", "mqtt", true, 1000, "", ∅⟩

def boilerField (field : String) : TagSpec WholeFloat :=
  { name := field, address := 0, function := "json_field", dataType := "auto", scale := ⟨1⟩,
    offset := ⟨0⟩, nodeId := some field }

def boilerFields : List (TagSpec WholeFloat) := [boilerField "pressure", boilerField "temperature"]

def boilerDecoders : Decoders WholeFloat where
  utf8 _ := .error ⟨.valueError, "utf-8"⟩
  json text :=
    if text = "\x7b\"temperature\": 80, \"pressure\": 3\x7d" then
      .ok (.dict [("temperature", .int 80), ("pressure", .int 3)])
    else if text = "\x7b\"temperature\": 81\x7d" then .ok (.dict [("temperature", .int 81)])
    else .error ⟨.valueError, "Expecting value: line 1 column 1 (char 0)"⟩
  fromisoformat _ := none
  strptime _ := .error ⟨.valueError, "time"⟩
  astimezone _ := .error ⟨.valueError, "zone"⟩

def boilerMessage (received : Datetime) (text : String) : ReadResult WholeFloat :=
  onMessage boilerDecoders boilerInput boilerFields received (.str text)

def boilerSteps : List (QueueStep WholeFloat) :=
  [.put (boilerMessage 0 "\x7b\"temperature\": 80, \"pressure\": 3\x7d"),
    .put (boilerMessage 1 "\x7b\"tempe"), .publishOnce 1 fun _ => none,
    .put (boilerMessage 2 "\x7b\"temperature\": 81\x7d"), .publishOnce 2 fun _ => none,
    .publishOnce 2 fun _ => none]

end Boiler

theorem boiler_published : publishedTags (deviceKey boilerInput)
    ((publishCached defaultConfig (fun _ => none) 2).events
      (boilerSteps.foldl (latestStep defaultConfig) (.empty, fresh [])).2) =
        [(tagResult (boilerField "temperature") 2 (.ok (.int 81))).toPayload] := by
  have hmessages : ∀ r ∈ resultsOf (deviceKey boilerInput) boilerSteps,
      IsMessage boilerDecoders boilerInput boilerFields r := by
    intro r hr
    obtain ⟨hr, -⟩ := mem_resultsOf.mp hr
    simp only [boilerSteps, List.filterMap_cons, List.filterMap_nil, QueueStep.result?, List.mem_cons,
      List.not_mem_nil, or_false] at hr
    rcases hr with rfl | rfl | rfl <;> exact ⟨_, _, rfl⟩
  have hnewest : newestOf (deviceKey boilerInput) boilerSteps = some (onMessage boilerDecoders
      boilerInput boilerFields 2 (.str "\x7b\"temperature\": 81\x7d")) := by
    decide +kernel
  have hrecent : ∀ snapshot, (boilerSteps.foldl (latestStep defaultConfig)
      (.empty, fresh [])).2.latest.get? (deviceKey boilerInput) = some snapshot →
        timedOut defaultConfig 2 snapshot = false := by
    have hall : ((boilerSteps.foldl (latestStep defaultConfig) (.empty, fresh [])).2.latest.get?
        (deviceKey boilerInput)).all (fun snapshot => !timedOut defaultConfig 2 snapshot) = true := by
      decide +kernel
    intro snapshot hsnapshot
    rw [hsnapshot] at hall
    simpa using hall
  obtain ⟨hpublished, -⟩ := newest_message_published defaultConfig (fresh []) (by decide) (by decide)
    (by decide) hmessages hnewest (by decide +kernel) hrecent fun _ => none
  exact List.perm_singleton.mp hpublished

end MqttInput

end IndustrialGateway
