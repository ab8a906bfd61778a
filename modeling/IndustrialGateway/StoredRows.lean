import IndustrialGateway.ConfigRuns

/-!
# Stored rows

What the service has checked before it wrote a row still holds of every row of
a reachable store: devices have their settings of the schema, tags fit the
columns and have names of their own.
-/

namespace IndustrialGateway

open ConfigStore

variable {F : Type} [PyRuntime F] {s t : ConfigStore F}

/-- What the columns and the node id of a tag satisfy. -/
structure TagStored (row : TagRow F) : Prop where
  nodeId : row.nodeId ≠ some ""
  columns : ∃ tag, tagRow row.deviceId tag = .ok row

/-- Rows with one device, group and name are one row. -/
def UniqueTagNames (tags : Table (TagRow F)) : Prop :=
  ∀ i j row row', tags.get? i = some row → tags.get? j = some row' → row.deviceId = row'.deviceId →
    row.tagGroup = row'.tagGroup → row.name = row'.name → i = j

structure StoredRows (s : ConfigStore F) : Prop where
  device : ∀ id row, s.devices.get? id = some row → ∃ device, DeviceChecked device row
  tag : ∀ id row, s.tags.get? id = some row → TagStored row
  unique : UniqueTagNames s.tags
  deviceIds : s.devices.lastId < 2 ^ 63
  tagIds : s.tags.lastId < 2 ^ 63

omit [PyRuntime F] in
theorem hasTagName_eq_false {i : Int} {tag : TagSpec F} :
    s.hasTagName i tag = false ↔ ∀ id row, s.tags.get? id = some row → row.deviceId = i →
      row.tagGroup = tag.tagGroup → row.name = tag.name → tag.id = some id := by
  simp only [hasTagName, List.any_eq_false, decide_eq_true_eq, not_and, not_not, Prod.forall]
  exact forall₂_congr fun id row => by rw [Table.get?, OrderedDict.get?_eq_some]

omit [PyRuntime F] in
theorem nextRowId_eq_ok {α : Type} {table : Table α} {id : Int} :
    nextRowId table = .ok id ↔ table.nextId < 2 ^ 63 ∧ table.nextId = id := by
  unfold nextRowId
  split <;> simp_all

-- ---------------------------------------------------------------------------
-- Writes
-- ---------------------------------------------------------------------------

theorem StoredRows.insertDevice (h : StoredRows s) {device : DeviceSpec F} {row : DeviceRow F}
    {id : Int} (hrow : DeviceChecked device row) (hid : nextRowId s.devices = .ok id) :
    StoredRows (s.insertDevice row) where
  device i found hfound := by
    have hfound := (Table.get?_insert ..).symm.trans hfound
    split at hfound
    · cases hfound
      exact ⟨device, hrow⟩
    · exact h.device i found hfound
  tag := h.tag
  unique := h.unique
  deviceIds := by
    have := (nextRowId_eq_ok.mp hid).1
    simp only [Table.nextId] at this
    simp only [ConfigStore.insertDevice, Table.insert]
    omega
  tagIds := h.tagIds

theorem StoredRows.updateDevice (h : StoredRows s) {device : DeviceSpec F} {row : DeviceRow F}
    (hrow : DeviceChecked device row) (id : Int) : StoredRows (s.updateDevice id row) where
  device i found hfound := by
    have hfound := (Table.get?_update ..).symm.trans hfound
    split at hfound
    · obtain ⟨old, -, rfl⟩ := Option.map_eq_some_iff.mp hfound
      exact ⟨device, hrow⟩
    · exact h.device i found hfound
  tag := h.tag
  unique := h.unique
  deviceIds := (Table.lastId_update ..).trans_lt h.deviceIds
  tagIds := h.tagIds

/-- Fewer rows are still checked rows. -/
theorem StoredRows.filter (h : StoredRows s)
    (hdevices : ∀ i row, t.devices.get? i = some row → s.devices.get? i = some row)
    (htags : ∀ i row, t.tags.get? i = some row → s.tags.get? i = some row)
    (hids : t.devices.lastId = s.devices.lastId ∧ t.tags.lastId = s.tags.lastId) :
    StoredRows t where
  device i row hrow := h.device i row (hdevices i row hrow)
  tag i row hrow := h.tag i row (htags i row hrow)
  unique i j row row' hi hj := h.unique i j row row' (htags i row hi) (htags j row' hj)
  deviceIds := hids.1.trans_lt h.deviceIds
  tagIds := hids.2.trans_lt h.tagIds

theorem StoredRows.congr (h : StoredRows s) (hdevices : t.devices = s.devices)
    (htags : t.tags = s.tags) : StoredRows t :=
  h.filter (hdevices ▸ fun _ _ hrow => hrow) (htags ▸ fun _ _ hrow => hrow)
    ⟨by rw [hdevices], by rw [htags]⟩

omit [PyRuntime F] in
/-- A new row with a name that no other row has keeps the names apart. -/
theorem UniqueTagNames.insert {tags : Table (TagRow F)} (h : UniqueTagNames tags) {row : TagRow F}
    (hfree : ∀ i old, tags.get? i = some old → old.deviceId = row.deviceId →
      old.tagGroup = row.tagGroup → old.name ≠ row.name) : UniqueTagNames (tags.insert row) := by
  intro i j a b hi hj hdevice hgroup hname
  rw [Table.get?_insert] at hi hj
  split at hi <;> split at hj
  · omega
  · cases hi
    exact absurd hname.symm (hfree j b hj hdevice.symm hgroup.symm)
  · cases hj
    exact absurd hname (hfree i a hi hdevice hgroup)
  · exact h i j a b hi hj hdevice hgroup hname

omit [PyRuntime F] in
theorem UniqueTagNames.update {tags : Table (TagRow F)} (h : UniqueTagNames tags) {id : Int}
    {row : TagRow F} (hfree : ∀ i old, tags.get? i = some old → old.deviceId = row.deviceId →
      old.tagGroup = row.tagGroup → old.name = row.name → i = id) :
    UniqueTagNames (tags.update id row) := by
  intro i j a b hi hj hdevice hgroup hname
  rw [Table.get?_update] at hi hj
  split at hi <;> split at hj
  · omega
  · obtain ⟨old, -, rfl⟩ := Option.map_eq_some_iff.mp hi
    exact absurd (hfree j b hj hdevice.symm hgroup.symm hname.symm).symm ‹_›
  · obtain ⟨old, -, rfl⟩ := Option.map_eq_some_iff.mp hj
    exact absurd (hfree i a hi hdevice hgroup hname).symm ‹_›
  · exact h i j a b hi hj hdevice hgroup hname

/-- A write of a free name keeps the names apart. -/
theorem UniqueTagNames.writeTag (h : UniqueTagNames s.tags) {deviceId id : Int} {tag : TagSpec F}
    (hfree : s.hasTagName deviceId tag = false)
    (hwrite : ConfigStore.writeTag deviceId tag s = .ok (id, t)) : UniqueTagNames t.tags := by
  obtain ⟨-, row, hrow, htags⟩ := writeTag_rows hwrite
  obtain ⟨hdevice, hspec⟩ := tagRow_eq_ok hrow
  have hgroup : row.tagGroup = tag.tagGroup := congrArg TagSpec.tagGroup (hspec 0)
  have hname : row.name = tag.name := congrArg TagSpec.name (hspec 0)
  have hfree : ∀ j old, s.tags.get? j = some old → old.deviceId = row.deviceId →
      old.tagGroup = row.tagGroup → old.name = row.name → tag.id = some j := by
    rw [hdevice, hgroup, hname]
    exact hasTagName_eq_false.mp hfree
  rcases htags with ⟨hid, -, htags⟩ | ⟨hid, htags⟩
  · rw [htags]
    refine h.insert fun k old hk hd hg hn => ?_
    have hsome := hfree k old hk hd hg hn
    rw [hid] at hsome
    cases hsome
  · rw [htags]
    refine h.update fun k old hk hd hg hn => ?_
    have hsome := hfree k old hk hd hg hn
    rw [hid] at hsome
    exact (Option.some.inj hsome).symm

theorem StoredRows.writeTag (h : StoredRows s) {i id : Int} {tag : TagSpec F}
    (hadmitted : TagAdmitted s i tag) (hnode : tag.nodeId ≠ some "")
    (hwrite : writeTag i tag s = .ok (id, t)) : StoredRows t := by
  obtain ⟨hsame, row, hrow, htags⟩ := writeTag_rows hwrite
  have hdevices := hsame.devices
  obtain ⟨hdevice, hspec⟩ := tagRow_eq_ok hrow
  have hstored : TagStored row :=
    ⟨fun hempty => hnode ((congrArg TagSpec.nodeId (hspec 0)).symm.trans hempty), tag,
      hdevice.symm ▸ hrow⟩
  have htag : ∀ j r, t.tags.get? j = some r → TagStored r := by
    obtain ⟨-, row', hrow', hrows⟩ := writeTag_get? hwrite
    obtain rfl := Except.ok.inj (hrow.symm.trans hrow')
    intro j r hj
    rcases hrows j r hj with rfl | hbefore
    · exact hstored
    · exact h.tag j r hbefore
  refine ⟨hdevices ▸ h.device, htag, h.unique.writeTag hadmitted.unique hwrite,
    hdevices ▸ h.deviceIds, ?_⟩
  rcases htags with ⟨-, hfresh, htags⟩ | ⟨-, htags⟩
  · have hbound := (nextRowId_eq_ok.mp hfresh).1
    simp only [Table.nextId] at hbound
    simp only [htags, Table.insert]
    omega
  · rw [htags, Table.lastId_update]
    exact h.tagIds

theorem StoredRows.write (h : StoredRows s) {saves : OutputRouteConfig F → Prop}
    (hwrite : Write saves s t) : StoredRows t := by
  have hfiltered {α : Type} {table : Table α} {p : Int → α → Bool} (i : Int) (row : α)
      (hrow : (table.filter p).get? i = some row) : table.get? i = some row :=
    (Option.filter_eq_some_iff.mp ((Table.get?_filter ..).symm.trans hrow)).1
  cases hwrite with
  | insertDevice hrow hid => exact h.insertDevice hrow hid
  | deleteDevice deviceId => exact h.filter hfiltered hfiltered ⟨rfl, rfl⟩
  | writeTag hadmitted hnode hwrite => exact h.writeTag hadmitted hnode hwrite
  | deleteTag tagId => exact h.filter (fun _ _ hrow => hrow) hfiltered ⟨rfl, rfl⟩
  | saveRoute _ hsave =>
    obtain ⟨hdevices, htags⟩ := saveOutputRoute_eq_ok hsave
    exact h.congr hdevices htags
  | deleteRoute routeId => exact h.congr rfl rfl
  | saveSink hkeys => exact h.congr rfl rfl

theorem storedRows_of_reachable {allowed : Operation F → ConfigStore F → Prop}
    (h : Reachable allowed s) : StoredRows s := by
  refine h.invariant ?_ (fun _ _ _ _ hwrite h => h.write hwrite) ?_
  · refine ⟨fun _ _ h => ?_, fun _ _ h => ?_, fun _ _ _ _ h => ?_, Nat.two_pow_pos 63,
      Nat.two_pow_pos 63⟩ <;> cases h
  · intro s deviceId payload device row _ _ hchecked h
    exact h.updateDevice hchecked deviceId

end IndustrialGateway
