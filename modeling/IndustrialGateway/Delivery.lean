import IndustrialGateway.PublicationGate

/-!
# Delivery through the queue

A result goes through the queue to the publisher in one item a tag. This module
relates the publisher after it has consumed all items to the publisher that
consumes the result as a whole. The status rule looks at all tags of one
result, so the two agree only when the last tag decides as the whole does.
-/

namespace IndustrialGateway

namespace SinkPublisher

open LatestReadResultQueue OrderedDict

variable {F : Type} [PyRuntime F] (cfg : PublisherConfig F)

/-- One `publish_once` for each time in the list. -/
def consume : List (Datetime × Sink F) → LatestReadResultQueue F × SinkPublisher F →
    LatestReadResultQueue F × SinkPublisher F
  | [], s => s
  | (now, sink) :: times, (q, p) =>
    consume times ((publishOnce cfg sink q now).1, (publishOnce cfg sink q now).2.state p)

/-- The results, each consumed at its own time. -/
def deliver (items : List (ReadResult F × Datetime × Sink F)) : PublisherAct F :=
  Act.forEach (fun item => publishResult cfg item.2.2 item.1 item.2.1) items

theorem consume_eq (times : List (Datetime × Sink F)) (q : LatestReadResultQueue F)
    (p : SinkPublisher F) :
    (consume cfg times (q, p)).1.pending = q.pending.drop times.length ∧
      (consume cfg times (q, p)).2 = (deliver cfg (q.pending.zip times)).state p := by
  induction times generalizing q p with
  | nil => simp [consume, deliver]
  | cons time times ih =>
    obtain ⟨now, sink⟩ := time
    rw [consume]
    obtain ⟨hpending, hstate⟩ := ih (publishOnce cfg sink q now).1
      ((publishOnce cfg sink q now).2.state p)
    rcases get_eq q with ⟨hnil, hget⟩ | ⟨r, q', hget, hcons⟩
    · have hone : publishOnce cfg sink q now = (q, .skip) := by simp [publishOnce, hget]
      rw [hone] at hpending hstate ⊢
      rw [hpending, hstate, hnil]
      simp [deliver]
    · have hone : publishOnce cfg sink q now = (q', publishResult cfg sink r now) := by
        simp [publishOnce, hget]
      rw [hone] at hpending hstate ⊢
      rw [hpending, hstate, hcons]
      exact ⟨rfl, rfl⟩

/-- When all is consumed, every pending result has been delivered. -/
theorem map_fst_zip_of_drained {times : List (Datetime × Sink F)} {q : LatestReadResultQueue F}
    {p : SinkPublisher F} (h : (consume cfg times (q, p)).1.pending = []) :
    (q.pending.zip times).map Prod.fst = q.pending := by
  rw [(consume_eq cfg times q p).1, List.drop_eq_nil_iff] at h
  exact List.map_fst_zip h

/-- Error-free results of one device: their tags are cached in order and the last
result decides the status and the time of receipt. -/
theorem deliver_law (key : DeviceKey) (items : List (ReadResult F × Datetime × Sink F))
    (h : ∀ item ∈ items, deviceKey item.1.device = key ∧ textTruthy item.1.error = false)
    (p : SinkPublisher F) :
    ((deliver cfg items).state p).cachedTags key =
        (p.cachedTags key).update ((items.flatMap fun item => item.1.tags).map
          fun tag => (tagKey tag, tag)) ∧
      ((deliver cfg items).state p).statusOf key =
        ((items.getLast?.map fun item => resultStatus item.1.tags).or (p.statusOf key)) := by
  induction items using List.reverseRecOn with
  | nil => simp [deliver]
  | append_singleton items item ih =>
    obtain ⟨htags, -⟩ := ih fun i hi => h i (by simp [hi])
    obtain ⟨rfl, he⟩ := h item (by simp)
    have hstep : (deliver cfg (items ++ [item])).state p =
        (publishResult cfg item.2.2 item.1 item.2.1).state ((deliver cfg items).state p) :=
      Act.state_forEach_append _ items [item] p
    obtain ⟨hlatest, hstatus, -⟩ := publishResult_ok cfg item.2.2 item.2.1
      ((deliver cfg items).state p) he
    rw [hstep]
    constructor
    · rw [cachedTags, hlatest, get?_set_self]
      simp only [Option.map_some, Option.getD_some, cachedSnapshot, htags, List.flatMap_append,
        List.map_append, update_append, List.flatMap_cons, List.flatMap_nil, List.append_nil]
    · simp [hstatus, withStatus]

/-- `publish_cached` publishes every good cached tag of a good device that has not
timed out. -/
theorem published_of_good {p : SinkPublisher F} {key : DeviceKey} {tag : TagResult F}
    {now : Datetime} (sink : Sink F) (hgood : p.statusOf key = some .good)
    (hrecent : ∀ snapshot, p.latest.get? key = some snapshot → timedOut cfg now snapshot = false)
    (htag : tag ∈ (p.cachedTags key).values) (ht : tag.isGood = true) :
    ∃ m ∈ measurements ((publishCached cfg sink now).events p),
      m.key = key ∧ tag.toPayload ∈ m.tags := by
  have hrefreshed : p.refreshed cfg now key = some .good := by
    rw [refreshed]
    split
    · rename_i snapshot hs
      rw [if_neg (by simp [hrecent snapshot hs]), hgood]
    · exact hgood
  have hmem : tag ∈ goodTagsOf (p.cachedTags key) (tagOutputGroup tag) :=
    mem_goodTagsOf.mpr ⟨htag, rfl, ht⟩
  let m : Measurement F := ⟨key, tagOutputGroup tag,
    (goodTagsOf (p.cachedTags key) (tagOutputGroup tag)).map TagResult.toPayload⟩
  exact ⟨m, (mem_measurements_publishCached cfg sink).mpr
    ⟨hrefreshed, List.ne_nil_of_mem hmem, rfl⟩, rfl, List.mem_map_of_mem hmem⟩

-- ---------------------------------------------------------------------------
-- One result, split and whole
-- ---------------------------------------------------------------------------

/-- The publisher that consumed the split result agrees with the one that
consumed it whole, and the good tags of the result are published next. -/
structure Transparent (result : ReadResult F) (split whole : SinkPublisher F) : Prop where
  cachedTags : split.cachedTags (deviceKey result.device) = whole.cachedTags (deviceKey result.device)
  status : split.statusOf (deviceKey result.device) = whole.statusOf (deviceKey result.device)
  published : ∀ tag ∈ result.tags, tag.isGood = true →
    split.statusOf (deviceKey result.device) = some .good ∧ ∀ now sink,
      (∀ snapshot, split.latest.get? (deviceKey result.device) = some snapshot →
        timedOut cfg now snapshot = false) →
      ∃ m ∈ measurements ((publishCached cfg sink now).events split),
        m.key = deviceKey result.device ∧ tag.toPayload ∈ m.tags

/-- The status of the last tag is the status of all. -/
def LastTagDecides (tags : List (TagResult F)) : Prop :=
  (∀ tag ∈ tags, tag.isGood = false) ∨ ∃ tag, tags.getLast? = some tag ∧ tag.isGood = true

/-- A tag whose queue key comes again in the result is cached already, with this
very result. -/
def RepeatsCached (p : SinkPublisher F) (result : ReadResult F) : Prop :=
  ∀ earlier tag later, result.tags = earlier ++ tag :: later → tagIdent tag ∈ later.map tagIdent →
    (p.cachedTags (deviceKey result.device)).get? (tagKey tag) = some tag

omit [PyRuntime F] in
theorem resultStatus_singleton (tag : TagResult F) :
    resultStatus [tag] = if tag.isGood then .good else .bad := by
  cases h : tag.isGood <;> simp [resultStatus, h]

omit [PyRuntime F] in
theorem lastTagDecides_iff {tags : List (TagResult F)} {last : TagResult F}
    (hlast : tags.getLast? = some last) :
    resultStatus [last] = resultStatus tags ↔ LastTagDecides tags := by
  have hmem := List.mem_of_getLast? hlast
  have hany : (∀ tag ∈ tags, tag.isGood = false) ↔ tags.any TagResult.isGood = false := by simp
  rw [LastTagDecides, resultStatus_singleton, hany, hlast]
  cases hg : last.isGood with
  | true =>
    have : tags.any TagResult.isGood = true := List.any_eq_true.mpr ⟨last, hmem, hg⟩
    simp [resultStatus, this, hg]
  | false =>
    have hbad : tags.any (fun tag => !tag.isGood) = true :=
      List.any_eq_true.mpr ⟨last, hmem, by simp [hg]⟩
    cases h : tags.any TagResult.isGood <;> simp [resultStatus, h, hbad, hg]

omit [PyRuntime F] in
/-- Caching only the tags that the queue keeps changes nothing exactly when the
others are cached already. -/
theorem update_keepLast_iff {p : SinkPublisher F} {result : ReadResult F}
    (hkeys : (result.tags.map tagKey).Nodup) :
    (p.cachedTags (deviceKey result.device)).update
          ((keepLast tagIdent result.tags).map fun tag => (tagKey tag, tag)) =
        (p.cachedTags (deviceKey result.device)).update
          (result.tags.map fun tag => (tagKey tag, tag)) ↔
      RepeatsCached p result := by
  have hnodup : ((result.tags.map fun tag => (tagKey tag, tag)).map Prod.fst).Nodup := by
    simpa [Function.comp_def] using hkeys
  rw [update_sublist_iff ((keepLast_sublist _ _).map _) hnodup]
  have hmem : ∀ (tag : TagResult F) (tags : List (TagResult F)),
      (tagKey tag, tag) ∈ tags.map (fun tag => (tagKey tag, tag)) ↔ tag ∈ tags := by simp
  constructor
  · intro h earlier tag later hsplit hrepeat
    obtain ⟨hin, hout⟩ := (not_mem_keepLast _ (List.Nodup.of_map _ hkeys)).mpr
      ⟨earlier, later, hsplit, hrepeat⟩
    exact h (tagKey tag, tag) ((hmem _ _).mpr hin) fun hm => hout ((hmem _ _).mp hm)
  · intro h pair hin hout
    obtain ⟨tag, htag, rfl⟩ := List.mem_map.mp hin
    obtain ⟨earlier, later, hsplit, hrepeat⟩ := (not_mem_keepLast tagIdent
      (List.Nodup.of_map _ hkeys)).mp ⟨htag, fun hm => hout ((hmem _ _).mpr hm)⟩
    exact h earlier tag later hsplit hrepeat

/-- Error-free results of one device that are taken from the queue until it is empty. -/
theorem consume_law {q : LatestReadResultQueue F} {p : SinkPublisher F} {key : DeviceKey}
    {times : List (Datetime × Sink F)}
    (h : ∀ r ∈ q.pending, deviceKey r.device = key ∧ textTruthy r.error = false)
    (hdrained : (consume cfg times (q, p)).1.pending = []) :
    (consume cfg times (q, p)).2.cachedTags key =
        (p.cachedTags key).update
          ((q.pending.flatMap ReadResult.tags).map fun tag => (tagKey tag, tag)) ∧
      (consume cfg times (q, p)).2.statusOf key =
        (q.pending.getLast?.map fun r => resultStatus r.tags).or (p.statusOf key) := by
  have hfst := map_fst_zip_of_drained cfg hdrained
  rw [(consume_eq cfg times q p).2]
  generalize q.pending.zip times = items at hfst
  have hitems : ∀ item ∈ items, deviceKey item.1.device = key ∧ textTruthy item.1.error = false :=
    fun item hi => h item.1 (hfst ▸ List.mem_map_of_mem hi)
  obtain ⟨htags, hstatus⟩ := deliver_law cfg key items hitems p
  rw [← hfst, List.flatMap_map, List.getLast?_map, Option.map_map]
  exact ⟨htags, hstatus⟩

/-- The publisher after the items of one result with tags. -/
theorem consume_split {result : ReadResult F} {p : SinkPublisher F}
    {times : List (Datetime × Sink F)} (he : textTruthy result.error = false)
    (ht : result.tags ≠ [])
    (hdrained : (consume cfg times (empty.put result, p)).1.pending = []) :
    ((consume cfg times (empty.put result, p)).2.cachedTags (deviceKey result.device) =
        (p.cachedTags (deviceKey result.device)).update
          ((keepLast tagIdent result.tags).map fun tag => (tagKey tag, tag))) ∧
      (consume cfg times (empty.put result, p)).2.statusOf (deviceKey result.device) =
        some (resultStatus [result.tags.getLast ht]) := by
  have hpending := pending_put_tags he ht
  have hparts : ∀ r ∈ (empty.put result).pending,
      deviceKey r.device = deviceKey result.device ∧ textTruthy r.error = false := by
    intro r hr
    rw [hpending] at hr
    obtain ⟨tag, -, rfl⟩ := List.mem_map.mp hr
    exact ⟨rfl, he⟩
  obtain ⟨htags, hstatus⟩ := consume_law cfg hparts hdrained
  rw [htags, hstatus, hpending]
  constructor
  · simp [List.flatMap_map]
  · simp [getLast?_keepLast, List.getLast?_eq_some_getLast ht]

/-- A result without tags is not split. -/
theorem consume_whole {result : ReadResult F} {p : SinkPublisher F}
    {times : List (Datetime × Sink F)} (he : textTruthy result.error = false)
    (ht : result.tags = [])
    (hdrained : (consume cfg times (empty.put result, p)).1.pending = []) :
    (consume cfg times (empty.put result, p)).2.cachedTags (deviceKey result.device) =
        p.cachedTags (deviceKey result.device) ∧
      (consume cfg times (empty.put result, p)).2.statusOf (deviceKey result.device) =
        some (resultStatus result.tags) := by
  have hpending : (empty.put result).pending = [result] := by
    rw [pending, put, splitItems_whole (.inr ht)]
    rfl
  have hparts : ∀ r ∈ (empty.put result).pending,
      deviceKey r.device = deviceKey result.device ∧ textTruthy r.error = false := by
    intro r hr
    rw [hpending] at hr
    obtain rfl := List.mem_singleton.mp hr
    exact ⟨rfl, he⟩
  obtain ⟨htags, hstatus⟩ := consume_law cfg hparts hdrained
  rw [htags, hstatus, hpending, List.flatMap_singleton]
  refine ⟨?_, rfl⟩
  rw [ht]
  rfl

omit [PyRuntime F] in
/-- After an update with tags of different keys each of them is cached. -/
theorem mem_values_update (cached : OrderedDict String (TagResult F)) {tags : List (TagResult F)}
    (hkeys : (tags.map tagKey).Nodup) {tag : TagResult F} (htag : tag ∈ tags) :
    tag ∈ (cached.update (tags.map fun tag => (tagKey tag, tag))).values := by
  have hnodup : ((tags.map fun tag => (tagKey tag, tag)).reverse.map Prod.fst).Nodup := by
    rw [List.map_reverse, List.nodup_reverse, List.map_map]
    exact hkeys
  have hlookup := (lookup_eq_some hnodup).mpr
    (List.mem_reverse.mpr (List.mem_map_of_mem (f := fun tag => (tagKey tag, tag)) htag))
  exact mem_values_iff.mpr ⟨tagKey tag, by rw [get?_update, hlookup, Option.some_or]⟩

/-- Splitting is transparent exactly when the last tag decides the status as the
whole result does and the tags that the queue drops are cached already. -/
theorem split_transparent_iff (cfg : PublisherConfig F) (p : SinkPublisher F)
    (result : ReadResult F) (he : textTruthy result.error = false)
    (hkeys : (result.tags.map tagKey).Nodup) (times : List (Datetime × Sink F))
    (hdrained : (consume cfg times (empty.put result, p)).1.pending = []) (now : Datetime)
    (sink : Sink F) :
    Transparent cfg result (consume cfg times (empty.put result, p)).2
        ((publishResult cfg sink result now).state p) ↔
      LastTagDecides result.tags ∧ RepeatsCached p result := by
  obtain ⟨hlatest, hstatus, -⟩ := publishResult_ok cfg sink now p he
  have hwhole : ((publishResult cfg sink result now).state p).cachedTags (deviceKey result.device) =
      (p.cachedTags (deviceKey result.device)).update
        (result.tags.map fun tag => (tagKey tag, tag)) := by
    rw [SinkPublisher.cachedTags, hlatest, get?_set_self]
    rfl
  have hwholeStatus : ((publishResult cfg sink result now).state p).statusOf
      (deviceKey result.device) = some (resultStatus result.tags) := by
    simp [hstatus, withStatus]
  by_cases ht : result.tags = []
  · -- without tags the result is not split
    obtain ⟨htags, hst⟩ := consume_whole cfg he ht hdrained
    refine ⟨fun _ => ⟨.inl (by simp [ht]), ?_⟩, fun _ => ⟨?_, ?_, by simp [ht]⟩⟩
    · intro earlier tag later hsplit
      rw [ht] at hsplit
      simp at hsplit
    · rw [htags, hwhole, ht]
      rfl
    · rw [hst, hwholeStatus]
  · obtain ⟨htags, hst⟩ := consume_split cfg he ht hdrained
    have hlast := List.getLast?_eq_some_getLast ht
    constructor
    · intro h
      have hs := h.status
      rw [hst, hwholeStatus, Option.some.injEq] at hs
      have hc := h.cachedTags
      rw [htags, hwhole] at hc
      exact ⟨(lastTagDecides_iff hlast).mp hs, (update_keepLast_iff hkeys).mp hc⟩
    · rintro ⟨hdecides, hrepeats⟩
      have hs := (lastTagDecides_iff hlast).mpr hdecides
      have hc := (update_keepLast_iff hkeys).mpr hrepeats
      refine ⟨by rw [htags, hwhole, hc], by rw [hst, hwholeStatus, hs], ?_⟩
      intro tag htag hgood
      have hsgood : resultStatus result.tags = .good :=
        resultStatus_eq_good.mpr (.inr ⟨tag, htag, hgood⟩)
      have hsplitGood : (consume cfg times (empty.put result, p)).2.statusOf
          (deviceKey result.device) = some .good := by rw [hst, hs, hsgood]
      refine ⟨hsplitGood, fun now' sink' hrecent => ?_⟩
      refine published_of_good cfg sink' hsplitGood hrecent ?_ hgood
      rw [htags, hc]
      exact mem_values_update _ hkeys htag

/-- A good tag, then one that could not be read. -/
def goodThenBad : ReadResult WholeFloat where
  device := ⟨some 1, "boiler", "opcua", true, 1000, "", ∅⟩
  timestamp := 0
  tags := [⟨"temperature", 0, .int 20, .good, none, 0, some "ns=2;s=T", "g"⟩,
    ⟨"pressure", 0, .none, .bad, some "BadNodeIdUnknown", 0, some "ns=2;s=P", "g"⟩]

theorem split_transparent_goodThenBad :
    ¬ Transparent ⟨{}, "mqtt", ⟨15⟩, ⟨60⟩⟩ goodThenBad
      (consume ⟨{}, "mqtt", ⟨15⟩, ⟨60⟩⟩ [(0, fun _ => none), (0, fun _ => none)]
        (empty.put goodThenBad, fresh [])).2
      ((publishResult ⟨{}, "mqtt", ⟨15⟩, ⟨60⟩⟩ (fun _ => none) goodThenBad 0).state (fresh [])) := by
  rw [split_transparent_iff _ _ _ (by decide) (by decide) _ (by decide)]
  rintro ⟨hgood | ⟨tag, hlast, hgood⟩, -⟩
  · exact absurd (hgood _ (List.mem_cons_self ..)) (by decide)
  · obtain rfl := Option.some.inj hlast
    exact absurd hgood (by decide)

theorem split_not_transparent :
    ¬ ∀ (p : SinkPublisher WholeFloat) (result : ReadResult WholeFloat),
      textTruthy result.error = false → (result.tags.map tagKey).Nodup →
      (result.tags.map tagIdent).Nodup → ∀ times,
        (consume ⟨{}, "mqtt", ⟨15⟩, ⟨60⟩⟩ times (empty.put result, p)).1.pending = [] → ∀ now sink,
          Transparent ⟨{}, "mqtt", ⟨15⟩, ⟨60⟩⟩ result
            (consume ⟨{}, "mqtt", ⟨15⟩, ⟨60⟩⟩ times (empty.put result, p)).2
            ((publishResult ⟨{}, "mqtt", ⟨15⟩, ⟨60⟩⟩ sink result now).state p) := by
  intro h
  have hstatus := (h (fresh []) goodThenBad (by decide) (by decide) (by decide)
    [(0, fun _ => none), (0, fun _ => none)] (by decide) 0 fun _ => none).status
  exact absurd hstatus (by decide)

end SinkPublisher

end IndustrialGateway
