import IndustrialGateway.Delivery
import Mathlib.Data.List.Perm.Subperm

/-!
# The identity of a tag

The store tells the tags of a device apart by group and name, the queue by
group and node id or name, and the publisher by node id or `name:address`.
`Apart` says when two tags that the store admits stay apart on the whole way;
exactly then does every tag of the device reach the sink.
-/

namespace IndustrialGateway

variable {F : Type}

-- ---------------------------------------------------------------------------
-- Three keys
-- ---------------------------------------------------------------------------

/-- The key of the store. -/
def TagSpec.storeKey (tag : TagSpec F) : String × String := (tag.tagGroup, tag.name)

/-- The key of the queue, for a result of the tag. -/
def TagSpec.ident (tag : TagSpec F) : String × String := (tag.tagGroup, textOr tag.nodeId tag.name)

def nameAndAddress (name : String) (address : Int) : String :=
  name ++ ":" ++ PyText.textOfInt address

/-- The key of the publisher, for a result of the tag. -/
def TagSpec.key (tag : TagSpec F) : String :=
  textOr tag.nodeId (nameAndAddress tag.name tag.address)

theorem nameAndAddress_inj {name name' : String} {address address' : Int} :
    nameAndAddress name address = nameAndAddress name' address' ↔
      name = name' ∧ address = address' := by
  have hcolon : ∀ n : Int, ':' ∉ (PyText.textOfInt n).toList := by
    intro n h
    rcases PyText.textOfInt_chars h with h | h
    · exact absurd h (by decide)
    · exact absurd h (by decide)
  have hlist : ∀ (s : String) (n : Int),
      (nameAndAddress s n).toList = s.toList ++ ':' :: (PyText.textOfInt n).toList := by
    intro s n
    simp [nameAndAddress, String.toList_append]
  rw [← String.toList_inj, hlist, hlist, PyText.append_sep_inj (hcolon _) (hcolon _),
    String.toList_inj, String.toList_inj, PyText.textOfInt_inj]

/-- What tells two tags with different group or name apart in the queue and in
the publisher. -/
structure Apart (a b : TagSpec F) : Prop where
  nodes : textTruthy a.nodeId = true → textTruthy b.nodeId = true → a.nodeId ≠ b.nodeId
  names : textTruthy a.nodeId = false → textTruthy b.nodeId = false →
    ¬(a.name = b.name ∧ a.address = b.address)
  left : textTruthy a.nodeId = true → textTruthy b.nodeId = false →
    a.nodeId ≠ some (nameAndAddress b.name b.address) ∧
      (a.tagGroup = b.tagGroup → a.nodeId ≠ some b.name)
  right : textTruthy a.nodeId = false → textTruthy b.nodeId = true →
    b.nodeId ≠ some (nameAndAddress a.name a.address) ∧
      (a.tagGroup = b.tagGroup → b.nodeId ≠ some a.name)

theorem textOr_of_truthy {s : Option String} {d : String} (h : textTruthy s = true) :
    some (textOr s d) = s := by
  cases s with
  | none => cases h
  | some s =>
    rw [textTruthy_some] at h
    simp [textOr, h]

theorem textOr_eq_iff {s : Option String} {d x : String} (h : textTruthy s = true) :
    textOr s d = x ↔ s = some x := by
  have hor := textOr_of_truthy h (d := d)
  exact ⟨fun hx => hx ▸ hor.symm, fun hx => Option.some.inj (hor.trans hx)⟩

theorem textOr_of_not_truthy {s : Option String} {d : String} (h : textTruthy s = false) :
    textOr s d = d := by
  cases s with
  | none => rfl
  | some s =>
    have : s = "" := by
      by_contra hs
      rw [(textTruthy_some s).mpr hs] at h
      cases h
    simp [textOr, this]

theorem apart_iff {a b : TagSpec F} (hstore : a.storeKey ≠ b.storeKey) :
    (a.key ≠ b.key ∧ a.ident ≠ b.ident) ↔ Apart a b := by
  have hstore' : ¬(a.tagGroup = b.tagGroup ∧ a.name = b.name) := by
    simpa [TagSpec.storeKey] using hstore
  have hkey : ∀ s t : String, s ≠ t ↔ some s ≠ some t := by simp
  cases ha : textTruthy a.nodeId with
  | true =>
    cases hb : textTruthy b.nodeId with
    | true =>
      rw [TagSpec.key, TagSpec.key, TagSpec.ident, TagSpec.ident, Ne, Ne, Prod.mk.injEq, ← Ne,
        hkey, textOr_of_truthy ha, textOr_of_truthy hb]
      constructor
      · exact fun h => ⟨fun _ _ => h.1, by simp [ha], by simp [hb], by simp [ha]⟩
      · refine fun h => ⟨h.nodes ha hb, fun he => h.nodes ha hb ?_⟩
        have := congrArg some he.2
        rwa [textOr_of_truthy ha, textOr_of_truthy hb] at this
    | false =>
      rw [TagSpec.key, TagSpec.key, TagSpec.ident, TagSpec.ident, Ne, Ne, Prod.mk.injEq, ← Ne,
        textOr_of_not_truthy hb, textOr_of_not_truthy hb, hkey, textOr_of_truthy ha]
      rw [textOr_eq_iff ha, not_and]
      constructor
      · exact fun h => ⟨by simp [hb], by simp [ha], fun _ _ => h, by simp [ha]⟩
      · exact fun h => h.left ha hb
  | false =>
    cases hb : textTruthy b.nodeId with
    | true =>
      rw [TagSpec.key, TagSpec.key, TagSpec.ident, TagSpec.ident, Ne, Ne, Prod.mk.injEq, ← Ne,
        textOr_of_not_truthy ha, textOr_of_not_truthy ha, hkey, textOr_of_truthy hb]
      rw [eq_comm (b := textOr b.nodeId b.name), textOr_eq_iff hb, not_and]
      constructor
      · exact fun h => ⟨by simp [ha], by simp [hb], by simp [ha], fun _ _ => ⟨h.1.symm, h.2⟩⟩
      · exact fun h => ⟨(h.right ha hb).1.symm, (h.right ha hb).2⟩
    | false =>
      rw [TagSpec.key, TagSpec.key, TagSpec.ident, TagSpec.ident, textOr_of_not_truthy ha,
        textOr_of_not_truthy ha, textOr_of_not_truthy hb, textOr_of_not_truthy hb, Ne, Ne,
        Prod.mk.injEq, nameAndAddress_inj]
      constructor
      · exact fun h => ⟨by simp [ha], fun _ _ => h.1, by simp [ha], by simp [hb]⟩
      · exact fun h => ⟨h.names ha hb, hstore'⟩

/-- Tags that the store admits keep different keys all the way exactly when each
two of them are apart. -/
theorem nodup_keys_iff {tags : List (TagSpec F)} (hstore : (tags.map TagSpec.storeKey).Nodup) :
    (tags.map TagSpec.key).Nodup ∧ (tags.map TagSpec.ident).Nodup ↔ tags.Pairwise Apart := by
  simp only [List.Nodup, List.pairwise_map] at hstore ⊢
  rw [← List.pairwise_and_iff]
  constructor
  · exact fun h => (hstore.and h).imp fun ⟨hs, hk⟩ => (apart_iff hs).mp hk
  · exact fun h => (hstore.and h).imp fun ⟨hs, hk⟩ => (apart_iff hs).mpr hk

/-- Without node ids, results under names of their own have keys of their own. -/
theorem nodup_of_names {results : List (TagResult F)} (hnode : ∀ r ∈ results, r.nodeId = none)
    (hnames : (results.map TagResult.name).Nodup) :
    (results.map tagKey).Nodup ∧ (results.map LatestReadResultQueue.tagIdent).Nodup := by
  constructor
  · refine .map_on ?_ (.of_map _ hnames)
    intro a ha b hb heq
    rw [tagKey, tagKey, hnode a ha, hnode b hb] at heq
    exact List.inj_on_of_nodup_map hnames ha hb (nameAndAddress_inj.mp heq).1
  · refine .map_on ?_ (.of_map _ hnames)
    intro a ha b hb heq
    rw [LatestReadResultQueue.tagIdent, LatestReadResultQueue.tagIdent, hnode a ha, hnode b hb] at heq
    exact List.inj_on_of_nodup_map hnames ha hb (Prod.mk.inj heq).2

/-- A good result that carries the tag's own identity. -/
structure GoodResultOf (tag : TagSpec F) (result : TagResult F) : Prop where
  name : result.name = tag.name
  address : result.address = tag.address
  nodeId : result.nodeId = tag.nodeId
  tagGroup : result.tagGroup = tag.tagGroup
  good : result.isGood = true

theorem map_keys_of_results {tags : List (TagSpec F)} {results : List (TagResult F)}
    (h : List.Forall₂ GoodResultOf tags results) :
    results.map tagKey = tags.map TagSpec.key ∧
      results.map LatestReadResultQueue.tagIdent = tags.map TagSpec.ident := by
  induction h with
  | nil => exact ⟨rfl, rfl⟩
  | cons hr _ ih =>
    simp only [List.map_cons, ih.1, ih.2, List.cons.injEq, and_true]
    simp [tagKey, TagSpec.key, nameAndAddress, LatestReadResultQueue.tagIdent, TagSpec.ident,
      hr.name, hr.address, hr.nodeId, hr.tagGroup]

theorem good_of_results {tags : List (TagSpec F)} {results : List (TagResult F)}
    (h : List.Forall₂ GoodResultOf tags results) : ∀ result ∈ results, result.isGood = true := by
  induction h with
  | nil => simp
  | cons hr _ ih => simpa [hr.good] using ih

-- ---------------------------------------------------------------------------
-- From the queue to the sink
-- ---------------------------------------------------------------------------

namespace SinkPublisher

open LatestReadResultQueue OrderedDict

variable [PyRuntime F] (cfg : PublisherConfig F)

/-- The publisher caches one entry a result, and the next `publish_cached`
includes every one of them, each once and with its own value. -/
structure AllPublished (device : DeviceSpec F) (results : List (TagResult F))
    (p : SinkPublisher F) : Prop where
  cached : (p.cachedTags (deviceKey device)).values.Perm results
  published : ∀ now sink, (∀ snapshot, p.latest.get? (deviceKey device) = some snapshot →
      timedOut cfg now snapshot = false) →
    (publishedTags (deviceKey device) ((publishCached cfg sink now).events p)).Perm
      (results.map TagResult.toPayload)

/-- A publisher without values of the device, after the items of several results
of it: it caches the tags that the queue keeps. -/
theorem consume_results {device : DeviceSpec F} {results : List (TagResult F)}
    {rs : List (ReadResult F)} {p : SinkPublisher F} {times : List (Datetime × Sink F)}
    (hrs : ∀ r ∈ rs, r.device = device ∧ textTruthy r.error = false ∧ r.tags ≠ [])
    (hflat : rs.flatMap ReadResult.tags = results)
    (hfresh : p.latest.get? (deviceKey device) = none)
    (hdrained : (consume cfg times (rs.foldl put empty, p)).1.pending = []) :
    (consume cfg times (rs.foldl put empty, p)).2.cachedTags (deviceKey device) =
        ofList ((keepLast tagIdent results).map fun tag => (tagKey tag, tag)) ∧
      ((∀ result ∈ results, result.isGood = true) → results ≠ [] →
        (consume cfg times (rs.foldl put empty, p)).2.statusOf (deviceKey device) = some .good) := by
  have hpending := pending_foldl_put device rs hrs
  generalize hpairs : (rs.flatMap fun r => r.tags.map fun tag => (tag, { r with tags := [tag] })) =
    pairs at hpending
  have hpair : ∀ pair ∈ pairs, pair.2.device = device ∧ textTruthy pair.2.error = false ∧
      pair.2.tags = [pair.1] ∧ pair.1 ∈ results := by
    intro pair hp
    rw [← hpairs] at hp
    obtain ⟨r, hr, hp⟩ := List.mem_flatMap.mp hp
    obtain ⟨tag, ht, rfl⟩ := List.mem_map.mp hp
    exact ⟨(hrs r hr).1, (hrs r hr).2.1, rfl, hflat ▸ List.mem_flatMap.mpr ⟨r, hr, ht⟩⟩
  have hkeptTags : (keepLast (fun pair => tagIdent pair.1) pairs).map Prod.fst =
      keepLast tagIdent results := by
    rw [← keepLast_map, ← hpairs, ← hflat, List.map_flatMap]
    simp [Function.comp_def]
  generalize hkept : keepLast (fun pair => tagIdent pair.1) pairs = kept at hpending hkeptTags
  have hsub : ∀ pair ∈ kept, pair ∈ pairs := fun pair hp =>
    (keepLast_sublist _ _).subset (hkept ▸ hp)
  have hparts : ∀ r ∈ (rs.foldl put empty).pending,
      deviceKey r.device = deviceKey device ∧ textTruthy r.error = false := by
    intro r hr
    rw [hpending] at hr
    obtain ⟨pair, hp, rfl⟩ := List.mem_map.mp hr
    obtain ⟨hd, he, -⟩ := hpair pair (hsub pair hp)
    exact ⟨by rw [hd], he⟩
  obtain ⟨htags, hstatus⟩ := consume_law cfg hparts hdrained
  have htagsFlat : (kept.map Prod.snd).flatMap ReadResult.tags = keepLast tagIdent results := by
    rw [← hkeptTags, ← List.flatMap_singleton' (kept.map Prod.fst), List.flatMap_map,
      List.flatMap_map]
    exact List.flatMap_congr fun pair hp => (hpair pair (hsub pair hp)).2.2.1
  have hempty : p.cachedTags (deviceKey device) = ∅ := by
    rw [SinkPublisher.cachedTags, hfresh]
    rfl
  rw [hpending, htagsFlat, hempty] at htags
  refine ⟨htags, fun hgood hne => ?_⟩
  have hkeptNe : kept ≠ [] := by
    rintro rfl
    have hlast := getLast?_keepLast tagIdent results
    rw [← htagsFlat] at hlast
    exact hne (by simpa using hlast.symm)
  rw [hstatus, hpending, List.getLast?_map, List.getLast?_eq_some_getLast hkeptNe, Option.map_some,
    Option.map_some, Option.some_or]
  obtain ⟨-, -, hone, hmem⟩ := hpair _ (hsub _ (List.getLast_mem hkeptNe))
  rw [hone, resultStatus_singleton, if_pos (hgood _ hmem)]

omit [PyRuntime F] in
theorem values_ofList_tags (tags : List (TagResult F)) :
    (ofList (tags.map fun tag => (tagKey tag, tag))).values.map tagKey =
        (ofList (tags.map fun tag => (tagKey tag, tag))).keys ∧
      ∀ tag ∈ (ofList (tags.map fun tag => (tagKey tag, tag))).values, tag ∈ tags := by
  have hentry : ∀ entry ∈ (ofList (tags.map fun tag => (tagKey tag, tag))).entries,
      tagKey entry.2 = entry.1 ∧ entry.2 ∈ tags := by
    intro entry he
    have hget := get?_eq_some.mpr he
    rw [get?_ofList, List.filter_map, List.getLast?_map, Option.map_map] at hget
    obtain ⟨tag, ht, htag⟩ := Option.map_eq_some_iff.mp hget
    obtain ⟨hm, hk⟩ := List.mem_filter.mp (List.mem_of_getLast? ht)
    have : tag = entry.2 := htag
    subst this
    exact ⟨by simpa using hk, hm⟩
  constructor
  · rw [OrderedDict.values, OrderedDict.keys, List.map_map]
    exact List.map_congr_left fun entry he => (hentry entry he).1
  · intro tag ht
    obtain ⟨entry, he, rfl⟩ := List.mem_map.mp ht
    exact (hentry entry he).2

/-- Every tag of the device reaches the sink exactly when each two tags are apart. -/
theorem all_tags_published_iff (cfg : PublisherConfig F) (p : SinkPublisher F)
    (device : DeviceSpec F) (tags : List (TagSpec F))
    (hstore : (tags.map TagSpec.storeKey).Nodup) (results : List (TagResult F))
    (hresults : List.Forall₂ GoodResultOf tags results) (rs : List (ReadResult F))
    (hrs : ∀ r ∈ rs, r.device = device ∧ textTruthy r.error = false ∧ r.tags ≠ [])
    (hflat : rs.flatMap ReadResult.tags = results)
    (hfresh : p.latest.get? (deviceKey device) = none) (times : List (Datetime × Sink F))
    (hdrained : (consume cfg times (rs.foldl put empty, p)).1.pending = []) :
    AllPublished cfg device results (consume cfg times (rs.foldl put empty, p)).2 ↔
      tags.Pairwise Apart := by
  obtain ⟨hkeys, hidents⟩ := map_keys_of_results hresults
  have hgood := good_of_results hresults
  obtain ⟨hcached, hstatus⟩ := consume_results cfg hrs hflat hfresh hdrained
  rw [← nodup_keys_iff hstore, ← hkeys, ← hidents]
  constructor
  · intro h
    have hperm := h.cached
    rw [hcached] at hperm
    obtain ⟨hvalues, hkept⟩ := values_ofList_tags (keepLast tagIdent results)
    have hnodup : (results.map tagKey).Nodup := by
      rw [← (hperm.map tagKey).nodup_iff, hvalues]
      exact OrderedDict.nodup _
    have hlength : results.length ≤ (keepLast tagIdent results).length :=
      ((List.Nodup.of_map _ hnodup).subperm fun r hr => hkept r (hperm.mem_iff.mpr hr)).length_le
    exact ⟨hnodup, nodup_of_keepLast_eq
      ((keepLast_sublist tagIdent results).eq_of_length_le hlength)⟩
  · rintro ⟨hnodup, hident⟩
    have hvalues : ((consume cfg times (rs.foldl put empty, p)).2.cachedTags
        (deviceKey device)).values = results := by
      rw [hcached, keepLast_of_nodup hident, OrderedDict.values,
        entries_ofList (by simpa [Function.comp_def] using hnodup), List.map_map]
      exact List.map_id' results
    refine ⟨hvalues ▸ List.Perm.refl _, fun now sink hrecent => ?_⟩
    refine (perm_publishedTags cfg sink _ _).trans ?_
    rw [hvalues, List.filter_eq_self.mpr hgood]
    by_cases hne : results = []
    · simp [hne]
    · have hrefreshed : refreshed cfg (consume cfg times (rs.foldl put empty, p)).2 now
          (deviceKey device) = some .good :=
        (refreshed_of_recent cfg hrecent).trans (hstatus hgood hne)
      rw [if_pos hrefreshed]

/-- Two tags of different groups on one node. -/
def twoTagsOnOneNode : List (TagSpec WholeFloat) :=
  [{ name := "speed", address := 0, function := "opcua_node", dataType := "auto", tagGroup := "motor",
     scale := ⟨1⟩, offset := ⟨0⟩, nodeId := some "ns=2;s=Motor.Speed" },
    { name := "rpm", address := 0, function := "opcua_node", dataType := "auto", tagGroup := "line",
      scale := ⟨1⟩, offset := ⟨0⟩, nodeId := some "ns=2;s=Motor.Speed" }]

def goodResultOf (value : Int) (tag : TagSpec WholeFloat) : TagResult WholeFloat :=
  ⟨tag.name, tag.address, .int value, .good, none, 0, tag.nodeId, tag.tagGroup⟩

theorem tag_swallowed :
    ¬ ∀ (p : SinkPublisher WholeFloat) (device : DeviceSpec WholeFloat)
      (tags : List (TagSpec WholeFloat)) (results : List (TagResult WholeFloat)),
      (tags.map TagSpec.storeKey).Nodup → (∀ tag ∈ tags, validateTag device.driverType tag = .ok ()) →
      List.Forall₂ GoodResultOf tags results → p.latest.get? (deviceKey device) = none → ∀ times,
        (consume ⟨{}, "mqtt", ⟨15⟩, ⟨60⟩⟩ times (empty.put ⟨device, 0, results, none⟩, p)).1.pending =
          [] →
        AllPublished ⟨{}, "mqtt", ⟨15⟩, ⟨60⟩⟩ device results
          (consume ⟨{}, "mqtt", ⟨15⟩, ⟨60⟩⟩ times (empty.put ⟨device, 0, results, none⟩, p)).2 := by
  intro h
  have hcached := (h (fresh []) ⟨some 1, "mixer", "opcua", true, 1000, "", ∅⟩ twoTagsOnOneNode
    (twoTagsOnOneNode.map (goodResultOf 5)) (by decide) (by decide)
    (by
      rw [List.forall₂_map_right_iff, List.forall₂_same]
      exact fun tag _ => ⟨rfl, rfl, rfl, rfl, rfl⟩)
    (by decide) [(0, fun _ => none), (0, fun _ => none)] (by decide)).cached
  exact absurd hcached.length_eq (by decide)

/-- The same two tags on two nodes. -/
theorem all_tags_published_twoNodes :
    let tags := [twoTagsOnOneNode[0], { twoTagsOnOneNode[1] with nodeId := some "ns=2;s=Line.Rpm" }]
    let device : DeviceSpec WholeFloat := ⟨some 1, "mixer", "opcua", true, 1000, "", ∅⟩
    let results := tags.map (goodResultOf 5)
    AllPublished ⟨{}, "mqtt", ⟨15⟩, ⟨60⟩⟩ device results
      (consume ⟨{}, "mqtt", ⟨15⟩, ⟨60⟩⟩ [(0, fun _ => none), (0, fun _ => none)]
        ([⟨device, 0, results, none⟩].foldl put empty, fresh [])).2 := by
  intro tags device results
  refine (all_tags_published_iff _ _ device tags (by decide) results ?_ [⟨device, 0, results, none⟩]
    (by simp [device]; decide) rfl (by decide) _ (by decide)).mpr ?_
  · rw [List.forall₂_map_right_iff, List.forall₂_same]
    exact fun tag _ => ⟨rfl, rfl, rfl, rfl, rfl⟩
  · refine List.pairwise_pair.mpr ⟨fun _ _ => by decide, ?_, ?_, ?_⟩ <;> decide

end SinkPublisher

end IndustrialGateway
