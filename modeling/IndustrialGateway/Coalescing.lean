import IndustrialGateway.Delivery
import IndustrialGateway.Lib.LatestQueue
import IndustrialGateway.Lib.WholeFloat

/-!
# Coalescing

Producers put results into the latest-result queue while the publisher takes
items out of it. Once the queue is drained, the cache and the status of every
device are those of a publisher that took all the items out of a plain queue, in
the order in which they were put.
-/

namespace IndustrialGateway

namespace SinkPublisher

open LatestReadResultQueue LatestQueue OrderedDict

variable {F : Type} [PyRuntime F] (cfg : PublisherConfig F)

-- ---------------------------------------------------------------------------
-- The two systems
-- ---------------------------------------------------------------------------

/-- A producer puts a result, or the publisher's loop takes one out. -/
inductive QueueStep (F : Type) where
  | put (result : ReadResult F)
  | publishOnce (now : Datetime) (sink : Sink F)

def QueueStep.result? : QueueStep F → Option (ReadResult F)
  | .put result => some result
  | .publishOnce _ _ => none

def latestStep (s : LatestReadResultQueue F × SinkPublisher F) :
    QueueStep F → LatestReadResultQueue F × SinkPublisher F
  | .put result => (s.1.put result, s.2)
  | .publishOnce now sink =>
    ((publishOnce cfg sink s.1 now).1, (publishOnce cfg sink s.1 now).2.state s.2)

/-- The same with a plain queue of the split items. -/
def plainStep (s : List (ReadResult F) × SinkPublisher F) :
    QueueStep F → List (ReadResult F) × SinkPublisher F
  | .put result => (s.1 ++ (splitItems result).map Prod.snd, s.2)
  | .publishOnce now sink =>
    match s.1 with
    | [] => s
    | item :: rest => (rest, (publishResult cfg sink item now).state s.2)

def putItems (steps : List (QueueStep F)) : List (ItemKey × ReadResult F) :=
  (steps.filterMap QueueStep.result?).flatMap splitItems

/-- An item that was taken out, with the time and the sink of its consumption. -/
abbrev Consumed (F : Type) := (ItemKey × ReadResult F) × Datetime × Sink F

def consumeItem (p : SinkPublisher F) (e : Consumed F) : SinkPublisher F :=
  (publishResult cfg e.2.2 e.1.2 e.2.1).state p

omit [PyRuntime F] in
theorem putItems_concat (steps : List (QueueStep F)) (step : QueueStep F) :
    putItems (steps ++ [step]) = putItems steps ++ step.result?.toList.flatMap splitItems := by
  unfold putItems
  rw [List.filterMap_append, List.flatMap_append]
  cases step <;> rfl

/-- What the publisher has consumed came out of the latest-result queue. -/
theorem latest_run (steps : List (QueueStep F)) (p : SinkPublisher F) :
    ∃ consumed : List (Consumed F),
      Coalesced (putItems steps) (consumed.map Prod.fst)
        (steps.foldl (latestStep cfg) (.empty, p)).1.items ∧
      (steps.foldl (latestStep cfg) (.empty, p)).2 = consumed.foldl (consumeItem cfg) p := by
  induction steps using List.reverseRecOn with
  | nil => exact ⟨[], .empty, rfl⟩
  | append_singleton steps step ih =>
    obtain ⟨consumed, hqueue, hstate⟩ := ih
    rw [List.foldl_append, List.foldl_cons, List.foldl_nil, putItems_concat]
    generalize steps.foldl (latestStep cfg) (.empty, p) = s at hqueue hstate
    obtain ⟨q, p'⟩ := s
    cases step with
    | put result =>
      refine ⟨consumed, ?_, hstate⟩
      rw [QueueStep.result?, Option.toList_some, List.flatMap_singleton]
      exact hqueue.puts (splitItems result)
    | publishOnce now sink =>
      have hnone : putItems steps ++ (none : Option (ReadResult F)).toList.flatMap splitItems =
          putItems steps := List.append_nil _
      rw [QueueStep.result?, hnone]
      cases hpop : q.items.popFirst with
      | none =>
        have hget : q.get = none := by rw [LatestReadResultQueue.get, hpop]; rfl
        refine ⟨consumed, ?_, ?_⟩
        · simpa only [latestStep, publishOnce, hget] using hqueue
        · simpa only [latestStep, publishOnce, hget, Act.state_skip] using hstate
      | some found =>
        obtain ⟨item, rest⟩ := found
        have hget : q.get = some (item.2, ⟨rest⟩) := by rw [LatestReadResultQueue.get, hpop]; rfl
        refine ⟨consumed ++ [(item, now, sink)], ?_, ?_⟩
        · simp only [latestStep, publishOnce, hget, List.map_append, List.map_cons, List.map_nil]
          exact hqueue.take hpop
        · simp only [latestStep, publishOnce, hget, List.foldl_append, List.foldl_cons,
            List.foldl_nil, ← hstate]
          rfl

/-- A plain queue hands on all items in their order. -/
theorem plain_run (steps : List (QueueStep F)) (p : SinkPublisher F) :
    ∃ (consumed : List (Consumed F)) (rest : List (ItemKey × ReadResult F)),
      consumed.map Prod.fst ++ rest = putItems steps ∧
      rest.map Prod.snd = (steps.foldl (plainStep cfg) ([], p)).1 ∧
      (steps.foldl (plainStep cfg) ([], p)).2 = consumed.foldl (consumeItem cfg) p := by
  induction steps using List.reverseRecOn with
  | nil => exact ⟨[], [], rfl, rfl, rfl⟩
  | append_singleton steps step ih =>
    obtain ⟨consumed, rest, hall, hqueue, hstate⟩ := ih
    rw [List.foldl_append, List.foldl_cons, List.foldl_nil, putItems_concat]
    generalize steps.foldl (plainStep cfg) ([], p) = s at hqueue hstate
    obtain ⟨q, p'⟩ := s
    cases step with
    | put result =>
      refine ⟨consumed, rest ++ splitItems result, ?_, ?_, hstate⟩
      · rw [← List.append_assoc, hall, QueueStep.result?, Option.toList_some,
          List.flatMap_singleton]
      · rw [List.map_append, hqueue]
        rfl
    | publishOnce now sink =>
      have hnone : putItems steps ++ (none : Option (ReadResult F)).toList.flatMap splitItems =
          putItems steps := List.append_nil _
      rw [QueueStep.result?, hnone]
      cases rest with
      | nil =>
        obtain rfl : q = [] := hqueue.symm
        exact ⟨consumed, [], hall, rfl, hstate⟩
      | cons item rest =>
        obtain rfl : q = item.2 :: rest.map Prod.snd := hqueue.symm
        refine ⟨consumed ++ [(item, now, sink)], rest, ?_, rfl, ?_⟩
        · rw [List.map_append, List.append_assoc]
          exact hall
        · rw [List.foldl_append, ← hstate]
          rfl

-- ---------------------------------------------------------------------------
-- What decides the status and the cache
-- ---------------------------------------------------------------------------

def itemStatus (item : ReadResult F) : DeviceStatus :=
  if textTruthy item.error then .disconnected else resultStatus item.tags

def statusClass (item : ItemKey × ReadResult F) : DeviceKey := deviceKey item.2.device

/-- The cache entry that an item writes. -/
def tagClass (item : ItemKey × ReadResult F) : Option (DeviceKey × String) :=
  if textTruthy item.2.error then none
  else item.2.tags.head?.map fun tag => (deviceKey item.2.device, tagKey tag)

omit [PyRuntime F] in
/-- An item of the queue reports one tag, or none, or an error. -/
theorem mem_splitItems {result : ReadResult F} {item : ItemKey × ReadResult F}
    (h : item ∈ splitItems result) :
    (item = (resultKey result.device, result) ∧
        (textTruthy result.error = true ∨ result.tags = [])) ∨
      ∃ tag ∈ result.tags, textTruthy result.error = false ∧
        item = (tagItemKey result.device tag, { result with tags := [tag] }) := by
  unfold splitItems at h
  split at h
  · rename_i hwhole
    refine .inl ⟨List.mem_singleton.mp h, ?_⟩
    simpa using hwhole
  · rename_i hsplit
    obtain ⟨tag, htag, rfl⟩ := List.mem_map.mp h
    exact .inr ⟨tag, htag, by simp_all⟩

theorem publishResult_status (item : ReadResult F) (now : Datetime) (sink : Sink F)
    (p : SinkPublisher F) :
    ((publishResult cfg sink item now).state p).statusOf = p.withStatus item.device (itemStatus item) := by
  unfold itemStatus
  cases herror : textTruthy item.error with
  | true => exact (publishResult_error cfg sink now p herror).2.1
  | false => exact (publishResult_ok cfg sink now p herror).2.1

theorem publishResult_cachedTags (item : ReadResult F) (now : Datetime) (sink : Sink F)
    (p : SinkPublisher F) (key : DeviceKey) :
    ((publishResult cfg sink item now).state p).cachedTags key =
      if textTruthy item.error = false ∧ deviceKey item.device = key then
        (p.cachedTags key).update (item.tags.map fun tag => (tagKey tag, tag))
      else p.cachedTags key := by
  unfold cachedTags
  cases herror : textTruthy item.error with
  | true =>
    rw [(publishResult_error cfg sink now p herror).1, if_neg (by simp)]
  | false =>
    rw [(publishResult_ok cfg sink now p herror).1, get?_set]
    by_cases hkey : deviceKey item.device = key
    · rw [if_pos hkey, if_pos ⟨rfl, hkey⟩, ← hkey]
      rfl
    · rw [if_neg hkey, if_neg fun h => hkey h.2]

/-- The last item of a device decides its status. -/
theorem statusOf_consumed (consumed : List (Consumed F)) (p : SinkPublisher F) (key : DeviceKey) :
    (consumed.foldl (consumeItem cfg) p).statusOf key =
      ((lastOf statusClass key (consumed.map Prod.fst)).map fun item => some (itemStatus item.2)).getD
        (p.statusOf key) := by
  rw [lastOf_map, Option.map_map]
  let observe (p : SinkPublisher F) := p.statusOf key
  let write (e : Consumed F) (_ : Option DeviceStatus) := some (itemStatus e.1.2)
  have hother : ∀ e ∈ consumed, statusClass e.1 ≠ key → ∀ p,
      observe (consumeItem cfg p e) = observe p := by
    intro e _ hne p
    simp only [observe, consumeItem, publishResult_status]
    exact if_neg hne
  have hwrite : ∀ e ∈ consumed, statusClass e.1 = key → ∀ p,
      observe (consumeItem cfg p e) = write e (observe p) := by
    intro e _ hkey p
    simp only [observe, write, consumeItem, publishResult_status]
    exact if_pos hkey
  exact observe_foldl hother hwrite (fun _ _ _ _ _ => rfl) p

/-- The last item of a cache entry decides the entry. -/
theorem cachedTags_consumed {consumed : List (Consumed F)}
    (hone : ∀ e ∈ consumed, textTruthy e.1.2.error = false → e.1.2.tags.length ≤ 1)
    (p : SinkPublisher F) (key : DeviceKey) (k : String) :
    ((consumed.foldl (consumeItem cfg) p).cachedTags key).get? k =
      ((lastOf tagClass (some (key, k)) (consumed.map Prod.fst)).map fun item =>
        item.2.tags.head?).getD ((p.cachedTags key).get? k) := by
  rw [lastOf_map, Option.map_map]
  let observe (p : SinkPublisher F) := (p.cachedTags key).get? k
  let write (e : Consumed F) (_ : Option (TagResult F)) := e.1.2.tags.head?
  have hother : ∀ e ∈ consumed, tagClass e.1 ≠ some (key, k) → ∀ p,
      observe (consumeItem cfg p e) = observe p := by
    intro e he hother p
    simp only [observe, consumeItem, publishResult_cachedTags]
    split
    · rename_i hitem
      have hone := hone e he hitem.1
      simp only [tagClass, hitem.1, Bool.false_eq_true, if_false, hitem.2] at hother
      cases htags : e.1.2.tags with
      | nil => rfl
      | cons tag tags =>
        obtain rfl : tags = [] := by simpa [htags] using hone
        have hk : tagKey tag ≠ k := by
          rintro rfl
          exact hother (by simp [htags])
        rw [List.map_singleton, update_cons, update_nil, get?_set, if_neg hk]
    · rfl
  have hwrite : ∀ e ∈ consumed, tagClass e.1 = some (key, k) → ∀ p,
      observe (consumeItem cfg p e) = write e (observe p) := by
    intro e he hclass p
    simp only [observe, write, consumeItem, publishResult_cachedTags]
    unfold tagClass at hclass
    split at hclass
    · cases hclass
    · rename_i herror
      obtain ⟨tag, htag, hpair⟩ := Option.map_eq_some_iff.mp hclass
      obtain ⟨rfl, rfl⟩ := Prod.mk.inj hpair
      have hone := hone e he (Bool.not_eq_true _ ▸ herror)
      rw [if_pos ⟨Bool.not_eq_true _ ▸ herror, rfl⟩]
      cases htags : e.1.2.tags with
      | nil => simp [htags] at htag
      | cons tag' tags =>
        obtain rfl : tags = [] := by simpa [htags] using hone
        obtain rfl : tag' = tag := by simpa [htags] using htag
        simp
  exact observe_foldl hother hwrite (fun _ _ _ _ _ => rfl) p

-- ---------------------------------------------------------------------------
-- Coalescing is transparent
-- ---------------------------------------------------------------------------

/-- Results of one device name a tag by one node id and address. -/
def SameTags (results : List (ReadResult F)) : Prop :=
  ∀ r ∈ results, ∀ r' ∈ results, resultKey r.device = resultKey r'.device →
    ∀ tag ∈ r.tags, ∀ tag' ∈ r'.tags, tagIdent tag = tagIdent tag' →
      tag.nodeId = tag'.nodeId ∧ tag.address = tag'.address

omit [PyRuntime F] in
theorem tagKey_eq {tag tag' : TagResult F} (hident : tagIdent tag = tagIdent tag')
    (hnode : tag.nodeId = tag'.nodeId) (haddress : tag.address = tag'.address) :
    tagKey tag = tagKey tag' := by
  have hname : textOr tag.nodeId tag.name = textOr tag'.nodeId tag'.name := (Prod.mk.inj hident).2
  rw [hnode] at hname
  unfold tagKey
  rw [hnode, haddress]
  cases hid : tag'.nodeId with
  | none =>
    rw [hid] at hname
    rw [textOr_none, textOr_none] at hname
    rw [hname]
  | some s =>
    rw [hid, textOr_some, textOr_some] at hname
    rw [textOr_some, textOr_some]
    split
    · rename_i hempty
      rw [if_pos hempty, if_pos hempty] at hname
      rw [hname]
    · rfl

omit [PyRuntime F] in
theorem deviceKey_eq {device device' : DeviceSpec F} (h : resultKey device = resultKey device') :
    deviceKey device = deviceKey device' := by
  simp only [resultKey, ItemKey.mk.injEq] at h
  unfold deviceKey
  rw [h.1, h.2.2.1]

variable {steps : List (QueueStep F)}

omit [PyRuntime F] in
theorem key_device {result : ReadResult F} {item : ItemKey × ReadResult F}
    (h : item ∈ splitItems result) :
    resultKey item.2.device = { item.1 with tag := none } ∧ item.2.device = result.device := by
  rcases mem_splitItems h with ⟨rfl, -⟩ | ⟨tag, -, -, rfl⟩ <;> exact ⟨rfl, rfl⟩

omit [PyRuntime F] in
theorem classifies_status (steps : List (QueueStep F)) :
    Classifies statusClass (putItems steps) := by
  intro item hitem item' hitem' hkey
  obtain ⟨r, -, hmem⟩ := List.mem_flatMap.mp hitem
  obtain ⟨r', -, hmem'⟩ := List.mem_flatMap.mp hitem'
  refine deviceKey_eq ?_
  rw [(key_device hmem).1, (key_device hmem').1, hkey]

omit [PyRuntime F] in
theorem classifies_tag (hsame : SameTags (steps.filterMap QueueStep.result?)) :
    Classifies tagClass (putItems steps) := by
  intro item hitem item' hitem' hkey
  have hstatus := classifies_status steps item hitem item' hitem' hkey
  obtain ⟨r, hr, hmem⟩ := List.mem_flatMap.mp hitem
  obtain ⟨r', hr', hmem'⟩ := List.mem_flatMap.mp hitem'
  rcases mem_splitItems hmem with ⟨rfl, hwhole⟩ | ⟨tag, htag, herror, rfl⟩
  · rcases mem_splitItems hmem' with ⟨rfl, hwhole'⟩ | ⟨tag', htag', herror', rfl⟩
    · -- whole results write no cache entry
      have hnone : ∀ r : ReadResult F, textTruthy r.error = true ∨ r.tags = [] →
          tagClass (resultKey r.device, r) = none := by
        rintro r (herror | htags)
        · simp [tagClass, herror]
        · simp [tagClass, htags]
      rw [hnone r hwhole, hnone r' hwhole']
    · exact absurd (congrArg ItemKey.tag hkey) (by simp [resultKey, tagItemKey])
  · rcases mem_splitItems hmem' with ⟨rfl, -⟩ | ⟨tag', htag', herror', rfl⟩
    · exact absurd (congrArg ItemKey.tag hkey) (by simp [resultKey, tagItemKey])
    · simp only [tagItemKey, ItemKey.mk.injEq, Option.some.injEq] at hkey
      have hdevice : resultKey r.device = resultKey r'.device := by
        simp only [resultKey, ItemKey.mk.injEq]
        exact ⟨hkey.1, hkey.2.1, hkey.2.2.1, trivial⟩
      obtain ⟨hnode, haddress⟩ := hsame r hr r' hr' hdevice tag htag tag' htag' hkey.2.2.2
      have htagKey := tagKey_eq hkey.2.2.2 hnode haddress
      simp only [tagClass, herror, herror', List.head?_cons, Option.map_some, htagKey,
        deviceKey_eq hdevice]

omit [PyRuntime F] in
theorem oneTag {item : ItemKey × ReadResult F} (h : item ∈ putItems steps)
    (herror : textTruthy item.2.error = false) : item.2.tags.length ≤ 1 := by
  obtain ⟨r, -, hmem⟩ := List.mem_flatMap.mp h
  rcases mem_splitItems hmem with ⟨rfl, hwhole⟩ | ⟨tag, -, -, rfl⟩
  · rcases hwhole with hwhole | hwhole
    · cases herror.symm.trans hwhole
    · simp [hwhole]
  · exact Nat.le_refl 1

/-- The drained latest-result queue and the drained plain queue leave every device
with the same status and the same cached tags. -/
theorem coalescing_transparent (p : SinkPublisher F) {steps steps' : List (QueueStep F)}
    (hputs : steps.filterMap QueueStep.result? = steps'.filterMap QueueStep.result?)
    (hdrained : (steps.foldl (latestStep cfg) (.empty, p)).1.pending = [])
    (hdrained' : (steps'.foldl (plainStep cfg) ([], p)).1 = [])
    (hsame : SameTags (steps.filterMap QueueStep.result?)) (key : DeviceKey) :
    (steps.foldl (latestStep cfg) (.empty, p)).2.statusOf key =
        (steps'.foldl (plainStep cfg) ([], p)).2.statusOf key ∧
      ∀ k, ((steps.foldl (latestStep cfg) (.empty, p)).2.cachedTags key).get? k =
        ((steps'.foldl (plainStep cfg) ([], p)).2.cachedTags key).get? k := by
  obtain ⟨consumed, hqueue, hstate⟩ := latest_run cfg steps p
  obtain ⟨consumed', rest, hall, hrest, hstate'⟩ := plain_run cfg steps' p
  have hempty : (steps.foldl (latestStep cfg) (.empty, p)).1.items.entries = [] := by
    simpa [pending, OrderedDict.values] using hdrained
  obtain rfl : rest = [] := by simpa using hrest.trans hdrained'
  have hputs : putItems steps' = putItems steps := by rw [putItems, putItems, hputs]
  have hall : consumed'.map Prod.fst = putItems steps := by
    rw [← hputs, ← hall, List.append_nil]
  have hsub : ∀ e ∈ consumed, e.1 ∈ putItems steps := fun e he =>
    hqueue.subset (List.mem_append_left _ (List.mem_map_of_mem he))
  have hsub' : ∀ e ∈ consumed', e.1 ∈ putItems steps := fun e he =>
    hall ▸ List.mem_map_of_mem he
  rw [hstate, hstate']
  constructor
  · rw [statusOf_consumed, statusOf_consumed, hall,
      hqueue.lastOf_drained (classifies_status steps) hempty]
  · intro k
    rw [cachedTags_consumed cfg fun e he => oneTag (hsub e he),
      cachedTags_consumed cfg fun e he => oneTag (hsub' e he), hall,
      hqueue.lastOf_drained (classifies_tag hsame) hempty]

/-- Two results for one tag: the first is never taken out of the latest-result
queue. -/
def pressureResults : List (ReadResult WholeFloat) :=
  let device : DeviceSpec WholeFloat := ⟨some 1, "boiler", "opcua", true, 1000, "", ∅⟩
  let tag (value : Int) : TagResult WholeFloat :=
    ⟨"pressure", 0, .int value, .good, none, 0, some "pressure", "g"⟩
  [⟨device, 0, [tag 3], none⟩, ⟨device, 0, [tag 4], none⟩]

theorem coalescing_transparent_pressure :
    let cfg : PublisherConfig WholeFloat := ⟨{}, "mqtt", ⟨15⟩, ⟨60⟩⟩
    let takeOne : QueueStep WholeFloat := .publishOnce 0 fun _ => none
    let steps := pressureResults.map .put ++ [takeOne]
    let steps' := pressureResults.map .put ++ [takeOne, takeOne]
    (steps.foldl (latestStep cfg) (.empty, fresh [])).2.statusOf ("id", "1") =
        (steps'.foldl (plainStep cfg) ([], fresh [])).2.statusOf ("id", "1") ∧
      ∀ k, ((steps.foldl (latestStep cfg) (.empty, fresh [])).2.cachedTags ("id", "1")).get? k =
        ((steps'.foldl (plainStep cfg) ([], fresh [])).2.cachedTags ("id", "1")).get? k := by
  intro cfg takeOne steps steps'
  have hsame : SameTags (steps.filterMap QueueStep.result?) := by
    simp [SameTags, steps, takeOne, pressureResults, QueueStep.result?]
  have hputs : steps.filterMap QueueStep.result? = steps'.filterMap QueueStep.result? := rfl
  exact coalescing_transparent cfg (fresh []) hputs (by decide) (by decide) hsame ("id", "1")

end SinkPublisher

end IndustrialGateway
