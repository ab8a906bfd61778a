import IndustrialGateway.PublicationGate

/-!
# Values after an outage

The publisher keeps one status a device and one value a tag. When a device
comes back, its first result makes it good again and with it every cached
value, also of the tags that this result did not carry. What holds is that a
published value is the last one received for its tag and that the device has
delivered since.
-/

namespace IndustrialGateway

namespace SinkPublisher

variable {F : Type}

-- ---------------------------------------------------------------------------
-- What was received
-- ---------------------------------------------------------------------------

/-- The results without error that were consumed for the device, in order. -/
def okResults (key : DeviceKey) (calls : List (Call F)) : List (ReadResult F) :=
  ((calls.filterMap (Call.received key)).map Prod.fst).filter fun result => !textTruthy result.error

/-- The tag results received for the device, in order. -/
def tagHistory (key : DeviceKey) (calls : List (Call F)) : List (TagResult F) :=
  (okResults key calls).flatMap ReadResult.tags

/-- Those of one tag. -/
def tagHistoryOf (key : DeviceKey) (tag : String) (calls : List (Call F)) : List (TagResult F) :=
  (tagHistory key calls).filter fun t => tagKey t = tag

theorem okResults_append (key : DeviceKey) (calls calls' : List (Call F)) :
    okResults key (calls ++ calls') = okResults key calls ++ okResults key calls' := by
  simp [okResults]

theorem tagHistory_append (key : DeviceKey) (calls calls' : List (Call F)) :
    tagHistory key (calls ++ calls') = tagHistory key calls ++ tagHistory key calls' := by
  simp [tagHistory, okResults_append]

theorem tagHistoryOf_append (key : DeviceKey) (tag : String) (calls calls' : List (Call F)) :
    tagHistoryOf key tag (calls ++ calls') =
      tagHistoryOf key tag calls ++ tagHistoryOf key tag calls' := by
  simp [tagHistoryOf, tagHistory_append]

theorem okResults_publishOnce (key : DeviceKey) (result : ReadResult F) (now : Datetime)
    (sink : Sink F) : okResults key [.publishOnce result now sink] =
      if deviceKey result.device = key ∧ textTruthy result.error = false then [result] else [] := by
  by_cases hk : deviceKey result.device = key <;> cases he : textTruthy result.error <;>
    simp [okResults, Call.received, hk, he]

variable [PyRuntime F] (cfg : PublisherConfig F)

/-- The cache holds what was received, the last result of a tag over the earlier
ones. -/
theorem cachedTags_after (routes : List (OutputRoute F)) (calls : List (Call F)) (key : DeviceKey) :
    (after cfg routes calls).cachedTags key =
      OrderedDict.ofList ((tagHistory key calls).map fun tag => (tagKey tag, tag)) := by
  induction calls using List.reverseRecOn with
  | nil => rfl
  | append_singleton calls c ih =>
    rw [after_concat, tagHistory_append, List.map_append, OrderedDict.ofList,
      OrderedDict.update_append, ← OrderedDict.ofList, ← ih]
    cases c with
    | publishCached now sink =>
      simp only [call, cachedTags, (publishCached_law cfg sink _ _).1]
      rfl
    | publishOnce result now sink =>
      rw [tagHistory, okResults_publishOnce, call]
      cases he : textTruthy result.error with
      | true =>
        simp only [cachedTags, (publishResult_error cfg sink _ _ he).1]
        simp
      | false =>
        by_cases hk : deviceKey result.device = key
        · subst hk
          simp [cachedTags, (publishResult_ok cfg sink _ _ he).1, cachedSnapshot]
        · simp [cachedTags, (publishResult_ok cfg sink _ _ he).1, OrderedDict.get?_set_of_ne hk, hk]

/-- A cached tag stands under its own key, as the last one received for it. -/
theorem last_of_mem_cachedTags {routes : List (OutputRoute F)} {calls : List (Call F)}
    {key : DeviceKey} {tag : TagResult F}
    (h : tag ∈ ((after cfg routes calls).cachedTags key).values) :
    (tagHistoryOf key (tagKey tag) calls).getLast? = some tag := by
  rw [cachedTags_after, OrderedDict.mem_values_iff] at h
  obtain ⟨k, hk⟩ := h
  have hfilter : ((tagHistory key calls).map fun tag => (tagKey tag, tag)).filter
      (fun p => p.1 = k) = (tagHistoryOf key k calls).map fun tag => (tagKey tag, tag) := by
    rw [tagHistoryOf, List.filter_map]
    rfl
  rw [OrderedDict.get?_ofList, hfilter, List.getLast?_map, Option.map_map] at hk
  obtain ⟨t, ht, rfl⟩ := Option.map_eq_some_iff.mp hk
  have hkey : tagKey t = k := by
    simpa using (List.mem_filter.mp (List.mem_of_getLast? ht)).2
  simpa [hkey] using ht

-- ---------------------------------------------------------------------------
-- Losing a device
-- ---------------------------------------------------------------------------

def Down (p : SinkPublisher F) (key : DeviceKey) : Prop :=
  p.statusOf key = some .disconnected ∨ p.statusOf key = some .stale

/-- The call moves the device to disconnected or stale. -/
def LosesDevice (routes : List (OutputRoute F)) (key : DeviceKey) (calls : List (Call F))
    (c : Call F) : Prop :=
  Down (after cfg routes (calls ++ [c])) key ∧
    (after cfg routes (calls ++ [c])).statusOf key ≠ (after cfg routes calls).statusOf key

/-- After `before`, the call `c` loses the device and no later one does. -/
def LastLoss (routes : List (OutputRoute F)) (key : DeviceKey) (before : List (Call F)) (c : Call F)
    (since : List (Call F)) : Prop :=
  LosesDevice cfg routes key before c ∧
    ∀ calls c' later, since = calls ++ c' :: later →
      ¬ LosesDevice cfg routes key (before ++ c :: calls) c'

theorem refreshed_of_down {p : SinkPublisher F} {key : DeviceKey} {now : Datetime}
    (h : Down p key) : p.refreshed cfg now key = p.statusOf key := by
  rw [refreshed]
  split
  · rw [if_neg]
    rintro ⟨-, hgood⟩
    rcases h with h | h <;> rw [h] at hgood <;> cases hgood
  · rfl

/-- A call that does not deliver for the device leaves it down. -/
theorem down_call {p : SinkPublisher F} {key : DeviceKey} {c : Call F}
    (hc : okResults key [c] = []) (h : Down p key) : Down ((call cfg c).state p) key := by
  cases c with
  | publishCached now sink =>
    rw [Down, call, (publishCached_law cfg sink _ p).2.1, refreshed_of_down cfg h]
    exact h
  | publishOnce result now sink =>
    rw [okResults_publishOnce] at hc
    rw [Down, call]
    cases he : textTruthy result.error with
    | true =>
      rw [(publishResult_error cfg sink _ p he).2.1, withStatus]
      split
      · exact .inl rfl
      · exact h
    | false =>
      have hk : deviceKey result.device ≠ key := by
        intro hk
        simp [hk, he] at hc
      rw [(publishResult_ok cfg sink _ p he).2.1, withStatus, if_neg hk]
      exact h

/-- Until the device delivers again it stays down. -/
theorem down_until_result {routes : List (OutputRoute F)} {key : DeviceKey}
    {before since : List (Call F)} (hsince : okResults key since = [])
    (h : Down (after cfg routes before) key) : Down (after cfg routes (before ++ since)) key := by
  induction since using List.reverseRecOn with
  | nil => simpa using h
  | append_singleton calls c ih =>
    rw [okResults_append, List.append_eq_nil_iff] at hsince
    rw [← List.append_assoc, after_concat]
    exact down_call cfg hsince.2 (ih hsince.1)

/-- Every value that a measurement carries is the last one received for its tag.
Since the device was last lost it has delivered without error, and the value is
from then unless nothing received since was for its tag. -/
theorem published_value_is_latest (cfg : PublisherConfig F) (routes : List (OutputRoute F))
    (calls : List (Call F)) (c₀ : Call F) :
    ∀ m ∈ measurements ((call cfg c₀).events (after cfg routes calls)), ∀ payload ∈ m.tags,
      ∃ tag, tag.toPayload = payload ∧
        (tagHistoryOf m.key (tagKey tag) calls).getLast? = some tag ∧
        ∀ before c since, calls = before ++ c :: since → LastLoss cfg routes m.key before c since →
          okResults m.key since ≠ [] ∧
            ((tagHistoryOf m.key (tagKey tag) since).getLast? = some tag ∨
              tagHistoryOf m.key (tagKey tag) since = []) := by
  intro m hm payload hp
  cases c₀ with
  | publishOnce result now sink =>
    rw [call] at hm
    cases he : textTruthy result.error with
    | true => rw [(publishResult_error cfg sink _ _ he).2.2.1] at hm; cases hm
    | false => rw [(publishResult_ok cfg sink _ _ he).2.2.1] at hm; cases hm
  | publishCached now sink =>
    obtain ⟨hgood, -, htags⟩ := (mem_measurements_publishCached cfg sink).mp hm
    rw [htags, List.mem_map] at hp
    obtain ⟨tag, ht, rfl⟩ := hp
    have hlast := last_of_mem_cachedTags cfg (mem_goodTagsOf.mp ht).1
    refine ⟨tag, rfl, hlast, ?_⟩
    rintro before c since rfl ⟨hloss, -⟩
    constructor
    · intro hnone
      have hdown := down_until_result cfg hnone hloss.1
      rw [List.append_assoc, List.singleton_append] at hdown
      rw [refreshed_of_down cfg hdown] at hgood
      rcases hdown with h | h <;> rw [h] at hgood <;> cases hgood
    · by_cases hnil : tagHistoryOf m.key (tagKey tag) since = []
      · exact .inr hnil
      · left
        rw [List.append_cons, tagHistoryOf_append] at hlast
        rwa [List.getLast?_append_of_ne_nil _ hnil] at hlast

/-- Temperature and pressure are read, the device is lost, and then only the
temperature is read again. -/
def partialRecovery : List (Call WholeFloat) :=
  let device : DeviceSpec WholeFloat := ⟨some 1, "boiler", "opcua", true, 1000, "", ∅⟩
  let tag (name : String) (value : Int) (at_ : Datetime) : TagResult WholeFloat :=
    ⟨name, 0, .int value, .good, none, at_, some name, "g"⟩
  [.publishOnce ⟨device, 0, [tag "temperature" 20 0, tag "pressure" 3 0], none⟩ 0 fun _ => none,
    .publishOnce ⟨device, 1000000, [], some "timed out"⟩ 1000000 fun _ => none,
    .publishOnce ⟨device, 2000000, [tag "temperature" 21 2000000], none⟩ 2000000 fun _ => none]

def defaultConfig : PublisherConfig WholeFloat := ⟨{}, "mqtt", ⟨15⟩, ⟨60⟩⟩

theorem lastLoss_partialRecovery : ∃ before c since, partialRecovery = before ++ c :: since ∧
    LastLoss defaultConfig [] ("id", "1") before c since ∧
    (tagHistory ("id", "1") since).map TagResult.name = ["temperature"] := by
  refine ⟨partialRecovery.take 1, partialRecovery[1], partialRecovery.drop 2, rfl, ⟨?_, ?_⟩, by decide⟩
  · simp only [LosesDevice, Down]
    decide
  · intro calls c' later h
    have hnil : calls = [] := by
      have hlength := congrArg List.length h
      simp only [partialRecovery, List.drop_succ_cons, List.drop_zero, List.length_cons,
        List.length_nil, List.length_append] at hlength
      exact List.eq_nil_of_length_eq_zero (by omega)
    subst hnil
    obtain ⟨rfl, -⟩ := List.cons.inj h
    simp only [LosesDevice, Down]
    decide

/-- The last recovery brings the old pressure back. -/
theorem old_value_republished :
    ¬ ∀ (calls : List (Call WholeFloat)) (c₀ : Call WholeFloat),
      ∀ m ∈ measurements ((call defaultConfig c₀).events (after defaultConfig [] calls)),
        ∀ payload ∈ m.tags, ∀ before c since, calls = before ++ c :: since →
          LastLoss defaultConfig [] m.key before c since →
            ∃ tag ∈ tagHistory m.key since, tag.toPayload = payload := by
  intro h
  obtain ⟨before, c, since, hsplit, hloss, hsince⟩ := lastLoss_partialRecovery
  let old : TagPayload WholeFloat :=
    ⟨"pressure", 0, .int 3, .good, none, PyTime.isoMillis 0, some "pressure", some "g"⟩
  have hm : ∃ m ∈ measurements ((call defaultConfig (.publishCached 3000000 fun _ => none)).events
      (after defaultConfig [] partialRecovery)), m.key = ("id", "1") ∧ old ∈ m.tags := by
    decide +kernel
  obtain ⟨m, hm, hkey, hold⟩ := hm
  obtain ⟨tag, ht, hpayload⟩ := h _ _ m hm old hold before c since hsplit (hkey ▸ hloss)
  have hname : tag.name ∈ (tagHistory ("id", "1") since).map TagResult.name :=
    List.mem_map_of_mem (hkey ▸ ht)
  rw [hsince, List.mem_singleton] at hname
  have : tag.name = "pressure" := congrArg TagPayload.name hpayload
  rw [hname] at this
  exact absurd this (by decide)

theorem published_value_is_latest_partialRecovery :
    ∃ m ∈ measurements ((call defaultConfig (.publishCached 3000000 fun _ => none)).events
      (after defaultConfig [] partialRecovery)), ∀ payload ∈ m.tags, ∃ tag : TagResult WholeFloat,
        tag.toPayload = payload ∧
          (tagHistoryOf m.key (tagKey tag) partialRecovery).getLast? = some tag := by
  obtain ⟨m, hm⟩ : ∃ m, m ∈ measurements ((call defaultConfig (.publishCached 3000000
      fun _ => none)).events (after defaultConfig [] partialRecovery)) :=
    List.exists_mem_of_ne_nil _ (by decide +kernel)
  refine ⟨m, hm, fun payload hp => ?_⟩
  obtain ⟨tag, hpayload, hlast, -⟩ := published_value_is_latest defaultConfig [] partialRecovery
    (.publishCached 3000000 fun _ => none) m hm payload hp
  exact ⟨tag, hpayload, hlast⟩

end SinkPublisher

end IndustrialGateway
