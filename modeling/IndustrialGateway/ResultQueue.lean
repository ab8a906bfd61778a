import IndustrialGateway.Models

/-!
# The latest-result queue

`_LatestReadResultQueue` of `services/runtime_manager.py`, between the workers
and the publisher. A result with tags and without error is split into one item
a tag; an item replaces the queued item with its key and goes to the end.
-/

namespace IndustrialGateway

/-- The tuple that identifies a queued item: the device, then the tag group and
node id or name of its one tag, or nothing for a whole result. -/
structure ItemKey where
  deviceId : Option Int
  deviceGroup : String
  deviceName : String
  tag : Option (String × String)
  deriving DecidableEq

structure LatestReadResultQueue (F : Type) where
  items : OrderedDict ItemKey (ReadResult F)

namespace LatestReadResultQueue

variable {F : Type}

def empty : LatestReadResultQueue F := ⟨∅⟩

def resultKey (device : DeviceSpec F) : ItemKey :=
  ⟨device.id, device.deviceGroup, device.name, none⟩

/-- The part of a tag's key that tells it from the other tags of its device. -/
def tagIdent (tag : TagResult F) : String × String := (tag.tagGroup, textOr tag.nodeId tag.name)

def tagItemKey (device : DeviceSpec F) (tag : TagResult F) : ItemKey :=
  { resultKey device with tag := some (tagIdent tag) }

def splitItems (item : ReadResult F) : List (ItemKey × ReadResult F) :=
  if textTruthy item.error || item.tags.isEmpty then [(resultKey item.device, item)]
  else item.tags.map fun tag => (tagItemKey item.device tag, { item with tags := [tag] })

def putItem (items : OrderedDict ItemKey (ReadResult F)) (p : ItemKey × ReadResult F) :
    OrderedDict ItemKey (ReadResult F) :=
  items.setLast p.1 p.2

def put (q : LatestReadResultQueue F) (item : ReadResult F) : LatestReadResultQueue F :=
  ⟨(splitItems item).foldl putItem q.items⟩

/-- `get`; `none` is the exception `Empty`. -/
def get (q : LatestReadResultQueue F) : Option (ReadResult F × LatestReadResultQueue F) :=
  q.items.popFirst.map fun (p, rest) => (p.2, ⟨rest⟩)

/-- The results that repeated `get` calls return until the queue is empty. -/
def pending (q : LatestReadResultQueue F) : List (ReadResult F) := q.items.values

@[simp] theorem pending_empty : (empty : LatestReadResultQueue F).pending = [] := rfl

theorem get_eq (q : LatestReadResultQueue F) :
    (q.pending = [] ∧ q.get = none) ∨
      ∃ r q', q.get = some (r, q') ∧ q.pending = r :: q'.pending := by
  obtain ⟨⟨l, hn⟩⟩ := q
  cases l with
  | nil => exact .inl ⟨rfl, rfl⟩
  | cons p l => exact .inr ⟨_, _, rfl, rfl⟩

theorem splitItems_whole {item : ReadResult F} (h : textTruthy item.error = true ∨ item.tags = []) :
    splitItems item = [(resultKey item.device, item)] := by
  unfold splitItems
  rw [if_pos]
  rcases h with h | h <;> simp [h]

theorem splitItems_tags {item : ReadResult F} (he : textTruthy item.error = false)
    (ht : item.tags ≠ []) :
    splitItems item =
      item.tags.map fun tag => (tagItemKey item.device tag, { item with tags := [tag] }) := by
  simp [splitItems, he, ht]

theorem tagItemKey_inj {device : DeviceSpec F} {a b : TagResult F} :
    tagItemKey device a = tagItemKey device b ↔ tagIdent a = tagIdent b := by
  simp [tagItemKey, resultKey]

/-- A whole result goes to the end and is the last one to be taken out. -/
theorem pending_put_whole (q : LatestReadResultQueue F) {item : ReadResult F}
    (h : textTruthy item.error = true ∨ item.tags = []) :
    ∃ earlier, (q.put item).pending = earlier ++ [item] := by
  refine ⟨(q.items.erase (resultKey item.device)).values, ?_⟩
  rw [pending, put, splitItems_whole h, List.foldl_cons, List.foldl_nil, OrderedDict.values, putItem,
    OrderedDict.entries_setLast, List.map_append]
  rfl

theorem items_foldl_put (q : LatestReadResultQueue F) (rs : List (ReadResult F)) :
    (rs.foldl put q).items = (rs.flatMap splitItems).foldl putItem q.items := by
  induction rs generalizing q with
  | nil => rfl
  | cons r rs ih => simp [ih, put, List.foldl_append]

/-- Error-free results of one device with tags, put on the empty queue: one item
a tag comes out, for the tags whose group, node id or name no later one repeats. -/
theorem pending_foldl_put (device : DeviceSpec F) (rs : List (ReadResult F))
    (hr : ∀ r ∈ rs, r.device = device ∧ textTruthy r.error = false ∧ r.tags ≠ []) :
    (rs.foldl put empty).pending =
      (OrderedDict.keepLast (fun item => tagIdent item.1)
        (rs.flatMap fun r => r.tags.map fun tag => (tag, { r with tags := [tag] }))).map Prod.snd := by
  have hsplit : rs.flatMap splitItems =
      (rs.flatMap fun r => r.tags.map fun tag => (tag, { r with tags := [tag] })).map
        fun item => (tagItemKey device item.1, item.2) := by
    rw [List.map_flatMap]
    refine List.flatMap_congr fun r hm => ?_
    obtain ⟨rfl, he, ht⟩ := hr r hm
    rw [splitItems_tags he ht, List.map_map]
    rfl
  have hkey : ∀ a b : TagResult F × ReadResult F,
      tagItemKey device a.1 = tagItemKey device b.1 ↔ tagIdent a.1 = tagIdent b.1 :=
    fun _ _ => tagItemKey_inj
  rw [pending, items_foldl_put, OrderedDict.values]
  unfold putItem
  rw [OrderedDict.entries_foldl_setLast, hsplit, OrderedDict.keepLast_map,
    OrderedDict.keepLast_congr hkey]
  simp [empty]

/-- One such result, put on the empty queue. -/
theorem pending_put_tags {item : ReadResult F} (he : textTruthy item.error = false)
    (ht : item.tags ≠ []) :
    (empty.put item).pending = (OrderedDict.keepLast tagIdent item.tags).map
      fun tag => { item with tags := [tag] } := by
  have h := pending_foldl_put item.device [item] (by simp [he, ht])
  rw [List.flatMap_cons, List.flatMap_nil, List.append_nil, OrderedDict.keepLast_map,
    List.map_map] at h
  exact h

end LatestReadResultQueue

end IndustrialGateway
