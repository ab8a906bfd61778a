import IndustrialGateway.DeviceRows
import IndustrialGateway.StoredRows
import IndustrialGateway.TagValidity

/-!
# The device file

The import of an exported file. Each device is a block of rows, one for each of
its tags; the import appends block after block to the store, and the store that
it leaves lists the devices and tags that the file was made from, the settings up
to what Python takes for equal.
-/

namespace IndustrialGateway

open ConfigStore

variable {F : Type}

/-- A device with its tags, ids aside. -/
abbrev Block (F : Type) := DeviceSpec F × List (TagSpec F)

def DeviceSpec.withoutId (device : DeviceSpec F) : DeviceSpec F := { device with id := none }

def TagSpec.withoutIds (tag : TagSpec F) : TagSpec F := { tag with id := none, deviceId := none }

namespace ConfigStore

/-- What a store configures: its devices with their tags in the order of their
lists, ids aside. -/
def configuration (s : ConfigStore F) : List (Block F) :=
  s.listDevices.map fun device =>
    (device.withoutId, (s.listTags (device.id.getD 0)).map TagSpec.withoutIds)

-- ---------------------------------------------------------------------------
-- Stored order
-- ---------------------------------------------------------------------------

/-- The tags of a device in the order of their ids. -/
def tagsOf (s : ConfigStore F) (id : Int) : List (TagSpec F) :=
  (s.tags.rows.entries.filter fun e => e.2.deviceId = id).map fun e => (e.2.spec e.1).withoutIds

def block (s : ConfigStore F) (e : Int × DeviceRow F) : Block F :=
  ((e.2.spec e.1).withoutId, s.tagsOf e.1)

/-- The devices in the order of their ids. -/
def catalog (s : ConfigStore F) : List (Block F) := s.devices.rows.entries.map s.block

def sortTags (b : Block F) : Block F :=
  (b.1, orderBy (fun tag : TagSpec F => toLex (tag.tagGroup, tag.name)) b.2)

def sortBlocks (blocks : List (Block F)) : List (Block F) :=
  orderBy (fun b : Block F => toLex (b.1.deviceGroup, b.1.name)) (blocks.map sortTags)

theorem sortTags_sortTags (b : Block F) : sortTags (sortTags b) = sortTags b := by
  rw [sortTags, sortTags, orderBy_orderBy]

theorem sortBlocks_sortBlocks (blocks : List (Block F)) :
    sortBlocks (sortBlocks blocks) = sortBlocks blocks := by
  have hmap : (sortBlocks blocks).map sortTags = sortBlocks blocks := by
    refine (List.map_congr_left fun b hb => ?_).trans (List.map_id _)
    obtain ⟨b, -, rfl⟩ := List.mem_map.mp (mem_orderBy.mp hb)
    exact sortTags_sortTags b
  rw [sortBlocks, hmap, sortBlocks, orderBy_orderBy]

theorem map_listTags (s : ConfigStore F) (id : Int) :
    (s.listTags id).map TagSpec.withoutIds =
      orderBy (fun tag : TagSpec F => toLex (tag.tagGroup, tag.name)) (s.tagsOf id) := by
  have hsort := map_orderBy TagSpec.withoutIds (fun tag : TagSpec F => toLex (tag.tagGroup, tag.name))
    ((s.tags.rows.entries.filter fun e => e.2.deviceId = id).map fun e => e.2.spec e.1)
  rw [List.map_map] at hsort
  exact hsort

theorem configuration_eq (s : ConfigStore F) : s.configuration = sortBlocks s.catalog := by
  have hsort := map_orderBy
    (fun device : DeviceSpec F => (device.withoutId, (s.listTags (device.id.getD 0)).map TagSpec.withoutIds))
    (fun b : Block F => toLex (b.1.deviceGroup, b.1.name))
    (s.devices.rows.entries.map fun e => e.2.spec e.1)
  refine hsort.trans ?_
  rw [sortBlocks, catalog, List.map_map, List.map_map]
  congr 1
  refine List.map_congr_left fun e _ => ?_
  simp only [Function.comp_apply, map_listTags]
  rfl

theorem perm_configuration (s : ConfigStore F) : s.configuration.Perm (s.catalog.map sortTags) :=
  configuration_eq s ▸ perm_orderBy _ _

theorem mem_tagsOf {s : ConfigStore F} {id : Int} {tag : TagSpec F} :
    tag ∈ s.tagsOf id ↔ ∃ i row, s.tags.get? i = some row ∧ row.deviceId = id ∧
      (row.spec i).withoutIds = tag := by
  simp only [tagsOf, List.mem_map, List.mem_filter, decide_eq_true_eq, Prod.exists, Table.get?,
    OrderedDict.get?_eq_some, and_assoc]

/-- A block is a stored device with its stored tags. -/
theorem mem_configuration {s : ConfigStore F} {b : Block F} (h : b ∈ s.configuration) :
    ∃ id row, s.devices.get? id = some row ∧ b.1 = (row.spec id).withoutId ∧
      b.2.Perm (s.tagsOf id) := by
  obtain ⟨_, hcatalog, rfl⟩ := List.mem_map.mp ((perm_configuration s).mem_iff.mp h)
  obtain ⟨⟨id, row⟩, he, rfl⟩ := List.mem_map.mp hcatalog
  exact ⟨id, row, OrderedDict.get?_eq_some.mpr he, rfl, perm_orderBy _ _⟩

/-- No tag is counted twice. -/
theorem sum_tags_le (s : ConfigStore F) :
    (s.configuration.map fun b => b.2.length).sum ≤ s.tags.lastId := by
  have hlengths : (s.configuration.map fun b => b.2.length).sum =
      (s.devices.rows.entries.flatMap fun e =>
        s.tags.rows.entries.filter fun tag => tag.2.deviceId = e.1).length := by
    rw [((perm_configuration s).map _).sum_eq, List.length_flatMap, catalog, List.map_map,
      List.map_map]
    congr 1
    refine List.map_congr_left fun e _ => ?_
    simp [sortTags, block, tagsOf, (perm_orderBy _ _).length_eq]
  have hdisjoint : (s.devices.rows.entries.flatMap fun e =>
      s.tags.rows.entries.filter fun tag => tag.2.deviceId = e.1).Nodup := by
    rw [List.nodup_flatMap]
    refine ⟨fun e _ => (s.tags.rows.nodup.of_map _).filter _, ?_⟩
    refine (List.pairwise_map.mp s.devices.rows.nodup).imp fun hne => ?_
    intro tag htag htag'
    simp only [List.mem_filter, decide_eq_true_eq] at htag htag'
    exact hne (htag.2.symm.trans htag'.2)
  have hsubset : (s.devices.rows.entries.flatMap fun e =>
      s.tags.rows.entries.filter fun tag => tag.2.deviceId = e.1) ⊆ s.tags.rows.entries := by
    intro tag htag
    obtain ⟨e, -, htag⟩ := List.mem_flatMap.mp htag
    exact (List.mem_filter.mp htag).1
  rw [hlengths]
  exact (hdisjoint.subperm hsubset).length_le.trans s.tags.length_le_lastId

/-- A change of devices that keeps their groups and names keeps the order. -/
theorem sortBlocks_map {f : DeviceSpec F → DeviceSpec F}
    (hkey : ∀ device, ((f device).deviceGroup, (f device).name) = (device.deviceGroup, device.name))
    (blocks : List (Block F)) :
    sortBlocks (blocks.map (Prod.map f id)) = (sortBlocks blocks).map (Prod.map f id) := by
  have hsort := map_orderBy (Prod.map f id)
    (fun b : Block F => toLex (b.1.deviceGroup, b.1.name)) (blocks.map sortTags)
  simp only [Prod.map_fst, hkey] at hsort
  rw [sortBlocks, sortBlocks, hsort, List.map_map, List.map_map]
  rfl

/-- The order of the rows does not matter. -/
theorem configuration_of_catalog {s t : ConfigStore F} {f : DeviceSpec F → DeviceSpec F}
    (hkey : ∀ device, ((f device).deviceGroup, (f device).name) = (device.deviceGroup, device.name))
    (h : t.catalog = s.configuration.map (Prod.map f id)) :
    t.configuration = s.configuration.map (Prod.map f id) := by
  rw [configuration_eq, h, sortBlocks_map hkey, configuration_eq s, sortBlocks_sortBlocks]

-- ---------------------------------------------------------------------------
-- Inserts
-- ---------------------------------------------------------------------------

theorem tagsOf_eq_nil {s : ConfigStore F} {id : Int} (h : s.devices.get? id = none) :
    s.tagsOf id = [] := by
  rw [tagsOf, List.map_eq_nil_iff, List.filter_eq_nil_iff]
  intro e he
  rw [decide_eq_true_eq]
  rintro rfl
  have hdevice := s.tagDevice e.1 e.2 (OrderedDict.get?_eq_some.mpr he)
  rw [h] at hdevice
  cases hdevice

theorem catalog_insertDevice (s : ConfigStore F) (row : DeviceRow F) :
    (s.insertDevice row).catalog = s.catalog ++ [((row.spec 0).withoutId, [])] := by
  have hentries : (s.insertDevice row).devices.rows.entries =
      s.devices.rows.entries ++ [(s.devices.nextId, row)] := Table.entries_insert s.devices row
  have htags : s.tagsOf s.devices.nextId = [] := tagsOf_eq_nil (Table.get?_nextId s.devices)
  rw [catalog, hentries, List.map_append, List.map_singleton]
  exact congrArg (fun tags => s.catalog ++ [((row.spec 0).withoutId, tags)]) htags

theorem tagsOf_insertTag {s t : ConfigStore F} {row : TagRow F} (h : s.insertTag row = .ok t)
    (id : Int) :
    t.tagsOf id = s.tagsOf id ++ if row.deviceId = id then [(row.spec 0).withoutIds] else [] := by
  obtain ⟨-, htags⟩ := insertTag_eq_ok h
  rw [tagsOf, htags, Table.entries_insert, List.filter_append, List.map_append, ← tagsOf]
  congr 1
  by_cases hid : row.deviceId = id
  · simp only [hid, if_true, List.filter_cons, decide_true, List.filter_nil, List.map_singleton]
    rfl
  · simp [hid]

/-- A tag of the last device comes after its other tags. -/
theorem catalog_insertTag {s t : ConfigStore F} {row : TagRow F} {done : List (Block F)}
    {device : DeviceSpec F} {tags : List (TagSpec F)} {last : DeviceRow F}
    {before : List (Int × DeviceRow F)} (h : s.insertTag row = .ok t)
    (hentries : s.devices.rows.entries = before ++ [(row.deviceId, last)])
    (hcatalog : s.catalog = done ++ [(device, tags)]) :
    t.catalog = done ++ [(device, tags ++ [(row.spec 0).withoutIds])] := by
  have hdevices := (insertTag_eq_ok h).1.devices
  have hnodup := s.devices.rows.nodup
  rw [hentries, List.map_append, List.map_singleton, List.nodup_append] at hnodup
  rw [catalog, hentries, List.map_append, List.map_singleton] at hcatalog
  obtain ⟨hbefore, hlast⟩ := List.append_inj' hcatalog rfl
  rw [catalog, hdevices, hentries, List.map_append, List.map_singleton]
  congr 1
  · rw [← hbefore]
    refine List.map_congr_left fun e he => ?_
    have hne : row.deviceId ≠ e.1 := fun heq =>
      hnodup.2.2 e.1 (List.mem_map_of_mem he) row.deviceId (by simp) heq.symm
    rw [block, tagsOf_insertTag h, if_neg hne, List.append_nil, block]
  · have hlast := List.head_eq_of_cons_eq hlast
    rw [block, tagsOf_insertTag h, if_pos rfl, ← (Prod.mk.inj hlast).1, ← (Prod.mk.inj hlast).2]

end ConfigStore

namespace ConfigService

variable [PyRuntime F]

-- ---------------------------------------------------------------------------
-- Blocks of rows
-- ---------------------------------------------------------------------------

def blockRows (b : Block F) : List (Settings F) :=
  match b.2 with
  | [] => [deviceCsvRow b.1 none]
  | tags => tags.map fun tag => deviceCsvRow b.1 (some tag)

omit [PyRuntime F] in
theorem deviceCsvRow_withoutIds (device : DeviceSpec F) (tag : TagSpec F) :
    deviceCsvRow device.withoutId (some tag.withoutIds) = deviceCsvRow device (some tag) := rfl

theorem exportDevicesCsv_eq (s : ConfigStore F) :
    exportDevicesCsv s =
      Csv.dictWriter deviceCsvFields ((s.configuration.flatMap blockRows).map csvCell) := by
  have hrows (device : DeviceSpec F) (tags : List (TagSpec F)) :
      tags.map (fun tag => deviceCsvRow device (some tag)) =
        (tags.map TagSpec.withoutIds).map fun tag => deviceCsvRow device.withoutId (some tag) := by
    rw [List.map_map]
    refine List.map_congr_left fun tag _ => ?_
    rw [Function.comp_apply, deviceCsvRow_withoutIds]
  rw [exportDevicesCsv, configuration, List.flatMap_map]
  congr 3
  funext device
  rw [blockRows]
  cases s.listTags (device.id.getD 0) with
  | nil => rfl
  | cons tag tags => exact hrows device (tag :: tags)

/-- A device as its rows bring it back. -/
def importedDevice (device : DeviceSpec F) : DeviceSpec F :=
  { device with connection := importedConnection device }

def importedBlock : Block F → Block F := Prod.map importedDevice id

/-- A device that the importer takes from its rows and stores. -/
structure DeviceImportable (device : DeviceSpec F) : Prop extends DeviceExportable device where
  withoutId : device.withoutId = device
  row : ∃ row, deviceRow device = .ok row

structure TagImportable (driverType : String) (tag : TagSpec F) : Prop
    extends TagExportable driverType tag where
  withoutIds : tag.withoutIds = tag
  row : ∃ i row, tagRow i tag = .ok row

structure BlockImportable (b : Block F) : Prop where
  device : DeviceImportable b.1
  tag : ∀ tag ∈ b.2, TagImportable b.1.driverType tag
  names : (b.2.map fun tag => (tag.tagGroup, tag.name)).Nodup

/-- The ids suffice for one more device with so many tags. -/
structure Room (done : List (Block F)) (tags : Nat) : Prop where
  devices : done.length + 1 < 2 ^ 63
  tags : (done.map fun b => b.2.length).sum + tags < 2 ^ 63

-- ---------------------------------------------------------------------------
-- Devices
-- ---------------------------------------------------------------------------

/-- The store holds the blocks that were imported, and knows no other device. -/
structure Importing (done : List (Block F)) (state : DeviceImport F) (t : ConfigStore F) : Prop where
  catalog : t.catalog = done
  known : ∀ key existing, state.devicesByKey.get? key = some existing →
    key ∈ done.map fun b => deviceImportKey b.1
  deviceIds : t.devices.lastId = done.length
  tagIds : t.tags.lastId = (done.map fun b => b.2.length).sum

/-- The last block is not complete: more tags of its device may follow. -/
structure OnDevice (done : List (Block F)) (device : DeviceSpec F) (tags : List (TagSpec F)) (id : Int)
    (state : DeviceImport F) (t : ConfigStore F) : Prop
    extends Importing (done ++ [(device, tags)]) state t where
  existing : state.devicesByKey.get? (deviceImportKey device) = some { device with id := some id }
  last : ∃ before row, t.devices.rows.entries = before ++ [(id, row)]

variable {done : List (Block F)} {device : DeviceSpec F} {tags : List (TagSpec F)} {tag : TagSpec F}
  {id : Int} {state state' : DeviceImport F} {t u : ConfigStore F}

omit [PyRuntime F] in
theorem withoutId_eq_self : device.withoutId = device ↔ device.id = none := by
  constructor
  · intro h
    rw [← h]
    rfl
  · intro h
    cases device
    cases h
    rfl

theorem DeviceImportable.imported (h : DeviceImportable device) :
    validateDevice (importedDevice device) = .ok () ∧
      (importedDevice device).withoutId = importedDevice device ∧
      ∃ row, deviceRow (importedDevice device) = .ok row := by
  have hid : device.id = none := withoutId_eq_self.mp h.withoutId
  refine ⟨h.valid, withoutId_eq_self.mpr hid, ?_⟩
  obtain ⟨row, hrow⟩ := h.row
  simp only [deviceRow, bind_eq_ok] at hrow
  obtain ⟨_, -, _, hpoll, -⟩ := hrow
  have hjson : PyValue.checkJsonDict (importedConnection device).entries = .ok () :=
    PyValue.checkJsonDict_eq_ok.mpr fun p hp => (h.toSettingsSurvive.entry hp).1
  exact ⟨_, bind_eq_ok.mpr ⟨(), hjson, bind_eq_ok.mpr ⟨(), hpoll, rfl⟩⟩⟩

/-- A device with a new key is saved. -/
theorem importDevice_new {n : Nat} (h : Importing done state t)
    (hvalid : validateDevice device = .ok ()) (hwithoutId : device.withoutId = device)
    {row : DeviceRow F} (hrow : deviceRow device = .ok row)
    (hkey : deviceImportKey device ∉ done.map fun b => deviceImportKey b.1) (hroom : Room done n) :
    ∃ id state' u, importDevice state device t =
        (.ok ({ device with id := some id }, state'), u) ∧ OnDevice done device [] id state' u := by
  have hnew : state.devicesByKey.get? (deviceImportKey device) = none := by
    cases hknown : state.devicesByKey.get? (deviceImportKey device) with
    | none => rfl
    | some existing => exact absurd (h.known _ _ hknown) hkey
  have hfresh : nextRowId t.devices = .ok t.devices.nextId := by
    rw [nextRowId_eq_ok]
    refine ⟨?_, rfl⟩
    have := hroom.devices
    rw [Table.nextId, h.deviceIds]
    omega
  have hsave : saveDevice device t = (.ok t.devices.nextId, t.insertDevice row) :=
    (saveDevice_insert (withoutId_eq_self.mp hwithoutId)).mpr ⟨hvalid, row, hrow, hfresh, rfl⟩
  refine ⟨t.devices.nextId, { state with
    devicesByKey := state.devicesByKey.set (deviceImportKey device)
      { device with id := some t.devices.nextId }
    devices := state.devices + 1 }, t.insertDevice row, ?_, ⟨⟨?_, ?_, ?_, ?_⟩, ?_, ?_⟩⟩
  · rw [importDevice, hnew]
    exact Fallible.bind_eq_ok.mpr ⟨_, _, hsave, rfl⟩
  · rw [catalog_insertDevice, h.catalog, deviceRow_eq_ok hrow]
    exact congrArg (fun d => done ++ [(d, [])]) hwithoutId
  · intro key existing hget
    rw [OrderedDict.get?_set] at hget
    rw [List.map_append]
    split at hget
    · rename_i heq
      exact List.mem_append_right _ (by simp [heq])
    · exact List.mem_append_left _ (h.known key existing hget)
  · rw [List.length_append, ← h.deviceIds]
    rfl
  · rw [List.map_append, List.sum_append, ← h.tagIds]
    rfl
  · exact OrderedDict.get?_set_self ..
  · exact ⟨_, row, Table.entries_insert t.devices row⟩

/-- The later rows of a device have its settings. -/
theorem importDevice_known (h : OnDevice done device tags id state t)
    (hself : PyValue.dictEq device.connection device.connection = true) :
    importDevice state device t = (.ok ({ device with id := some id }, state), t) := by
  have hsame : validateSameDeviceConfig { device with id := some id } device = .ok () := by
    simp [validateSameDeviceConfig, hself]
  rw [importDevice, h.existing]
  exact Fallible.bind_eq_ok.mpr ⟨(), t, Fallible.lift_eq_ok.mpr ⟨hsame, rfl⟩, rfl⟩

-- ---------------------------------------------------------------------------
-- Tags
-- ---------------------------------------------------------------------------

/-- No tag of the list has the group and name. -/
def FreeName (tags : List (TagSpec F)) (tag : TagSpec F) : Prop :=
  ∀ other ∈ tags, (other.tagGroup, other.name) ≠ (tag.tagGroup, tag.name)

omit [PyRuntime F] in
theorem existingTagId_of_free (h : FreeName (t.tagsOf id) tag) :
    existingTagId (t.listTags id) tag = none := by
  have hnone : (t.listTags id).find? (fun other =>
      other.tagGroup = tag.tagGroup ∧ other.name = tag.name) = none := by
    rw [List.find?_eq_none]
    intro other hother
    obtain ⟨e, he, rfl⟩ := List.mem_map.mp (mem_orderBy.mp hother)
    have hne := h _ (List.mem_map_of_mem he)
    simpa [TagSpec.withoutIds] using hne
  rw [existingTagId, hnone]
  rfl

omit [PyRuntime F] in
theorem hasTagName_of_free (h : FreeName (t.tagsOf id) tag) : t.hasTagName id tag = false := by
  rw [hasTagName_eq_false]
  rintro i row hrow rfl hgroup hname
  exact absurd (Prod.ext hgroup hname) (h _ (mem_tagsOf.mpr ⟨i, row, hrow, rfl, rfl⟩))

omit [PyRuntime F] in
theorem sqlInteger_of_bounds (h : 0 < id) (hbound : id < 2 ^ 63) : sqlInteger id = .ok () := by
  rw [sqlInteger, if_pos ⟨by omega, hbound⟩]

/-- What a tag's columns hold does not depend on its device. -/
theorem tagRow_of_tagRow {i : Int} {row : TagRow F} (h : tagRow i tag = .ok row)
    (hid : sqlInteger id = .ok ()) : ∃ row, tagRow id tag = .ok row := by
  simp only [tagRow, bind_eq_ok] at h
  obtain ⟨_, -, _, haddress, _, hunit, _, hcount, _, hscale, _, hoffset, -⟩ := h
  exact ⟨_, bind_eq_ok.mpr ⟨(), hid, bind_eq_ok.mpr ⟨_, haddress, bind_eq_ok.mpr ⟨_, hunit,
    bind_eq_ok.mpr ⟨_, hcount, bind_eq_ok.mpr ⟨_, hscale, bind_eq_ok.mpr ⟨_, hoffset, rfl⟩⟩⟩⟩⟩⟩⟩

omit [PyRuntime F] in
/-- The row of the last device is the device. -/
theorem OnDevice.device_row (h : OnDevice done device tags id state t) :
    (∃ row, t.devices.get? id = some row ∧ (row.spec id).withoutId = device) ∧
      t.tagsOf id = tags := by
  obtain ⟨before, row, hentries⟩ := h.last
  have hcatalog := h.catalog
  rw [ConfigStore.catalog, hentries, List.map_append, List.map_singleton] at hcatalog
  have hlast := List.head_eq_of_cons_eq (List.append_inj' hcatalog rfl).2
  refine ⟨⟨row, OrderedDict.get?_eq_some.mpr ?_, (Prod.mk.inj hlast).1⟩, (Prod.mk.inj hlast).2⟩
  rw [hentries]
  simp

/-- A tag with a new name is added to the last device. -/
theorem upsertTag_new (h : OnDevice done device tags id state t)
    (htag : TagImportable device.driverType tag) (hfree : FreeName tags tag)
    (hroom : Room done (tags.length + 1)) :
    ∃ tagId u, upsertTag id tag t = (.ok tagId, u) ∧
      OnDevice done device (tags ++ [tag]) id { state with tags := state.tags + 1 } u := by
  obtain ⟨hdevices, htags⟩ := hroom
  obtain ⟨⟨deviceRow, hdevice, hspec⟩, htagsOf⟩ := h.device_row
  have hbounds := t.devices.bounded id (OrderedDict.mem_keys_iff.mpr ⟨_, hdevice⟩)
  have hlength := h.deviceIds
  rw [List.length_append, List.length_singleton] at hlength
  have hid : sqlInteger id = .ok () := sqlInteger_of_bounds hbounds.1 (by omega)
  obtain ⟨_, _, hrow⟩ := htag.row
  obtain ⟨row, hrow⟩ := tagRow_of_tagRow hrow hid
  obtain ⟨hrowDevice, hrowSpec⟩ := tagRow_eq_ok hrow
  have hfresh : nextRowId t.tags = .ok t.tags.nextId := by
    rw [nextRowId_eq_ok]
    refine ⟨?_, rfl⟩
    rw [Table.nextId, h.tagIds, List.map_append, List.sum_append]
    simp only [List.map_singleton, List.sum_singleton]
    omega
  obtain ⟨u, hinsert⟩ : ∃ u, t.insertTag row = .ok u := by
    rw [insertTag, dif_pos (by rw [hrowDevice, hdevice]; rfl)]
    exact ⟨_, rfl⟩
  have hfree : FreeName (t.tagsOf id) tag := htagsOf ▸ hfree
  have hadmitted : TagAdmitted t id { tag with id := none, deviceId := some id } := {
    deviceId := rfl
    bound := hid
    valid := ⟨deviceRow, hdevice, by
      rw [show deviceRow.driverType = device.driverType from congrArg DeviceSpec.driverType hspec]
      exact htag.valid⟩
    tagId := rfl
    unique := hasTagName_of_free hfree }
  have hwrite : writeTag id { tag with id := none, deviceId := some id } t = .ok (t.tags.nextId, u) :=
    (writeTag_insert rfl).mpr ⟨row, hrow, hfresh, hinsert⟩
  have hsave := saveTag_eq_ok.mpr ⟨id, hadmitted, hwrite⟩
  obtain ⟨hsame, htagsEq⟩ := insertTag_eq_ok hinsert
  have hdevicesEq := hsame.devices
  obtain ⟨before, last, hentries⟩ := h.last
  refine ⟨t.tags.nextId, u, ?_, ⟨⟨?_, ?_, ?_, ?_⟩, h.existing, ?_⟩⟩
  · refine Fallible.bind_eq_ok.mpr ⟨none, t, ?_, hsave⟩
    exact Fallible.read_eq_ok.mpr ⟨existingTagId_of_free hfree, rfl⟩
  · rw [catalog_insertTag hinsert (hrowDevice ▸ hentries) h.catalog, hrowSpec]
    exact congrArg (fun last => done ++ [(device, tags ++ [last])]) htag.withoutIds
  · intro key existing hget
    simpa using h.known key existing hget
  · rw [hdevicesEq, h.deviceIds]
    simp
  · rw [htagsEq]
    have := h.tagIds
    simp only [Table.insert, List.map_append, List.sum_append, List.map_singleton,
      List.sum_singleton, List.length_append, List.length_singleton] at this ⊢
    omega
  · exact ⟨before, last, hdevicesEq ▸ hentries⟩

-- ---------------------------------------------------------------------------
-- Rows
-- ---------------------------------------------------------------------------

theorem deviceOfRow (h : DeviceImportable device) (tag : Option (TagSpec F)) :
    deviceFromCsvRow (readRow (deviceCsvRow device tag)) = .ok (importedDevice device) :=
  (deviceFromCsvRow_deviceCsvRow h.toDeviceExportable tag).trans (congrArg Except.ok h.imported.2.1)

theorem tagOfRow (h : TagImportable device.driverType tag) :
    tagFromCsvRow (readRow (deviceCsvRow device (some tag))) device.driverType "tag_name" = .ok tag :=
  (tagFromCsvRow_deviceCsvRow h.toTagExportable device).trans (congrArg Except.ok h.withoutIds)

variable {row : Csv.Row}

/-- The row of a device without tags leaves its device. -/
theorem importDevicesRow_device {existing : DeviceSpec F}
    (hrow : deviceFromCsvRow row = .ok device) (hname : cellOr row "tag_name" = "")
    (himport : importDevice state device t = (.ok (existing, state'), u)) :
    importDevicesRow state row t = (.ok state', u) := by
  rw [importDevicesRow, hrow, Fallible.lift_ok_bind, Fallible.bind_eq_of_ok himport, hname]
  rfl

/-- The row of a tag adds the tag to its device. -/
theorem importDevicesRow_tag (hrow : deviceFromCsvRow row = .ok device)
    (hname : PyText.strip (cellOr row "tag_name") ≠ "")
    (htagRow : tagFromCsvRow row device.driverType "tag_name" = .ok tag)
    (himport : importDevice state device t = (.ok ({ device with id := some id }, state'), u))
    (h : OnDevice done device tags id state' u) (htag : TagImportable device.driverType tag)
    (hfree : FreeName tags tag) (hroom : Room done (tags.length + 1)) :
    ∃ next v, importDevicesRow state row t = (.ok next, v) ∧
      OnDevice done device (tags ++ [tag]) id next v := by
  obtain ⟨tagId, v, hupsert, hnext⟩ := upsertTag_new h htag hfree hroom
  refine ⟨_, v, ?_, hnext⟩
  rw [importDevicesRow, hrow, Fallible.lift_ok_bind, Fallible.bind_eq_of_ok himport]
  simp only [if_neg hname, htagRow, Fallible.lift_ok_bind, Option.getD_some]
  rw [Fallible.bind_eq_of_ok hupsert]
  rfl

/-- The row of a tag of a block, where the tags before it are imported. -/
theorem importDevicesRow_block {before rest : List (TagSpec F)}
    (hb : BlockImportable (device, before ++ tag :: rest))
    (hroom : Room done (before ++ tag :: rest).length)
    (himport : importDevice state (importedDevice device) t =
      (.ok ({ importedDevice device with id := some id }, state'), u))
    (h : OnDevice done (importedDevice device) before id state' u) :
    ∃ next v, importDevicesRow state (readRow (deviceCsvRow device (some tag))) t = (.ok next, v) ∧
      OnDevice done (importedDevice device) (before ++ [tag]) id next v := by
  have htag : TagImportable device.driverType tag := hb.tag tag (by simp)
  have hname : PyText.strip (cellOr (readRow (deviceCsvRow device (some tag))) "tag_name") ≠ "" := by
    rw [tagName_deviceCsvRow]
    exact (commonFieldsOk_of_validateTag htag.valid).1
  have hfree : FreeName before tag := by
    intro other hother heq
    have hnames := hb.names
    rw [List.map_append, List.nodup_append] at hnames
    exact hnames.2.2 _ (List.mem_map_of_mem hother) _ (List.mem_map_of_mem (by simp)) heq
  refine importDevicesRow_tag (deviceOfRow hb.device _) hname (tagOfRow htag) himport h htag hfree
    ⟨hroom.devices, ?_⟩
  have := hroom.tags
  simp only [List.length_append, List.length_cons] at this
  omega

/-- The rows of the other tags, one after the other. -/
theorem importDevicesRow_tags {before rest : List (TagSpec F)}
    (hb : BlockImportable (device, before ++ rest)) (hroom : Room done (before ++ rest).length)
    (h : OnDevice done (importedDevice device) before id state t) :
    ∃ next u, (rest.map fun tag => readRow (deviceCsvRow device (some tag))).foldlM
        importDevicesRow state t = (.ok next, u) ∧
      OnDevice done (importedDevice device) (before ++ rest) id next u := by
  induction rest generalizing before state t with
  | nil =>
    rw [List.append_nil]
    exact ⟨state, t, rfl, h⟩
  | cons tag rest ih =>
    have hknown := importDevice_known h
      (PyValue.dictEq_self fun p hp => (hb.device.toSettingsSurvive.entry hp).2.1)
    obtain ⟨next, u, hrow, hnext⟩ := importDevicesRow_block hb hroom hknown h
    rw [List.append_cons] at hb hroom ⊢
    obtain ⟨last, v, hrows, hlast⟩ := ih hb hroom hnext
    refine ⟨last, v, ?_, hlast⟩
    rw [List.map_cons, List.foldlM_cons, Fallible.bind_eq_of_ok hrow, hrows]

/-- The rows of a new device add the device with its tags. -/
theorem importBlock {b : Block F} (hb : BlockImportable b)
    (hkey : deviceImportKey b.1 ∉ done.map fun b => deviceImportKey b.1)
    (hroom : Room done b.2.length) (h : Importing done state t) :
    ∃ next u, ((blockRows b).map readRow).foldlM importDevicesRow state t = (.ok next, u) ∧
      Importing (done ++ [importedBlock b]) next u := by
  obtain ⟨device, tags⟩ := b
  obtain ⟨hvalid, hwithoutId, row, hrow⟩ := hb.device.imported
  obtain ⟨id, first, u, himport, hfirst⟩ := importDevice_new h hvalid hwithoutId hrow hkey hroom
  cases tags with
  | nil =>
    have hrow := importDevicesRow_device (deviceOfRow hb.device none)
      (tagName_deviceCsvRow_none hb.device.toSettingsSurvive) himport
    refine ⟨first, u, ?_, hfirst.toImporting⟩
    rw [blockRows, List.map_singleton, List.foldlM_cons, Fallible.bind_eq_of_ok hrow]
    rfl
  | cons tag tags =>
    obtain ⟨next, v, hrow, hnext⟩ := importDevicesRow_block hb hroom himport hfirst
    obtain ⟨last, w, hrows, hlast⟩ := importDevicesRow_tags hb hroom hnext
    refine ⟨last, w, ?_, hlast.toImporting⟩
    simp only [blockRows, List.map_map, Function.comp_def, List.map_cons, List.foldlM_cons]
    rw [Fallible.bind_eq_of_ok hrow, hrows]

-- ---------------------------------------------------------------------------
-- Files
-- ---------------------------------------------------------------------------

/-- Blocks that an empty store takes. -/
structure Importable (blocks : List (Block F)) : Prop where
  block : ∀ b ∈ blocks, BlockImportable b
  keys : (blocks.map fun b => deviceImportKey b.1).Nodup
  devices : blocks.length < 2 ^ 63
  tags : (blocks.map fun b => b.2.length).sum < 2 ^ 63

theorem importBlocks {rest : List (Block F)} (hblocks : Importable (done ++ rest))
    (h : Importing (done.map importedBlock) state t) :
    ∃ next u, ((rest.flatMap blockRows).map readRow).foldlM importDevicesRow state t =
        (.ok next, u) ∧ Importing ((done ++ rest).map importedBlock) next u := by
  induction rest generalizing done state t with
  | nil =>
    rw [List.append_nil]
    exact ⟨state, t, rfl, h⟩
  | cons b rest ih =>
    have hkey : deviceImportKey b.1 ∉ (done.map importedBlock).map fun b => deviceImportKey b.1 := by
      have hkeys := hblocks.keys
      rw [List.map_append, List.nodup_append] at hkeys
      rw [List.map_map]
      exact fun hmem => hkeys.2.2 _ hmem _ (by simp) rfl
    have hroom : Room (done.map importedBlock) b.2.length := by
      have hdevices := hblocks.devices
      have htags := hblocks.tags
      simp only [List.length_append, List.length_cons, List.map_append, List.sum_append,
        List.map_cons, List.sum_cons] at hdevices htags
      refine ⟨by rw [List.length_map]; omega, ?_⟩
      have hsame : ((done.map importedBlock).map fun b => b.2.length) = done.map fun b => b.2.length := by
        rw [List.map_map]
        rfl
      rw [hsame]
      omega
    obtain ⟨next, u, hrows, hnext⟩ := importBlock (hblocks.block b (by simp)) hkey hroom h
    rw [List.append_cons] at hblocks ⊢
    rw [← List.map_singleton, ← List.map_append] at hnext
    obtain ⟨last, v, hrest, hlast⟩ := ih hblocks hnext
    refine ⟨last, v, ?_, hlast⟩
    rw [List.flatMap_cons, List.map_append, List.foldlM_append, Fallible.bind_eq_of_ok hrows, hrest]

/-- The import of a written file goes through the written rows. -/
theorem importDevicesCsv_rows (rows : List (Settings F)) (t : ConfigStore F) :
    importDevicesCsv (Csv.dictWriter deviceCsvFields (rows.map csvCell)) t =
      ((rows.map readRow).foldlM importDevicesRow ⟨devicesByKey t, 0, 0⟩ >>= fun result =>
        pure (result.devices, result.tags)) t := by
  have hread : (Fallible.read devicesByKey : StoreAct F _) t = (.ok (devicesByKey t), t) := rfl
  have hfields : deviceCsvFields ≠ [] := List.cons_ne_nil _ _
  rw [importDevicesCsv, Fallible.bind_eq_of_ok hread, forRows_dictWriter hfields]
  rfl

/-- The file of importable blocks brings them into an empty store. -/
theorem importDevicesCsv_blocks {blocks : List (Block F)} (hblocks : Importable blocks) :
    ∃ imported t, importDevicesCsv
        (Csv.dictWriter deviceCsvFields ((blocks.flatMap blockRows).map csvCell)) initialized =
      (.ok imported, t) ∧ t.catalog = blocks.map importedBlock := by
  have hstart : Importing (List.map importedBlock ([] : List (Block F)))
      ⟨devicesByKey initialized, 0, 0⟩ initialized :=
    ⟨rfl, fun _ _ hget => (nomatch hget), rfl, rfl⟩
  obtain ⟨last, t, hrows, hlast⟩ := importBlocks (List.nil_append blocks ▸ hblocks) hstart
  refine ⟨(last.devices, last.tags), t, ?_, hlast.catalog⟩
  rw [importDevicesCsv_rows, Fallible.bind_eq_of_ok hrows]
  rfl

-- ---------------------------------------------------------------------------
-- Round trip
-- ---------------------------------------------------------------------------

/-- A device that keeps its settings in a file: its texts are stripped and every
setting survives its cell. -/
structure DeviceRowExportable (row : DeviceRow F) : Prop where
  deviceGroup : PyText.Stripped row.deviceGroup
  name : PyText.Stripped row.name
  driverType : PyText.Stripped row.driverType
  survives : ∀ field ∈ connectionFieldsForDriver row.driverType, ∀ value,
    row.connection.get? field.key = some value → SurvivesCell field value

structure TagRowExportable (row : TagRow F) : Prop where
  tagGroup : PyText.Stripped row.tagGroup
  name : PyText.Stripped row.name
  nodeId : ∀ s, row.nodeId = some s → PyText.Stripped s
  unitId : row.unitId ≠ some 0

/-- No two devices share group and name, devices and tags are as their rows keep
them, and every tag is valid for its device. -/
structure Exportable (s : ConfigStore F) : Prop where
  distinct : ∀ i j row row', s.devices.get? i = some row → s.devices.get? j = some row' →
    row.deviceGroup = row'.deviceGroup → row.name = row'.name → i = j
  device : ∀ id row, s.devices.get? id = some row → DeviceRowExportable row
  tag : ∀ id row, s.tags.get? id = some row → TagRowExportable row
  valid : TagsValid s

variable {s : ConfigStore F}

theorem deviceImportable_of_row {row : DeviceRow F} (h : DeviceRowExportable row)
    (hstored : ∃ device, DeviceChecked device row) (id : Int) :
    DeviceImportable (row.spec id).withoutId := by
  obtain ⟨device, hchecked⟩ := hstored
  have hspec : (row.spec id).withoutId = device.withoutId := by
    rw [deviceRow_eq_ok hchecked.row id]
    rfl
  have hkeys := hchecked.connection
  exact {
    keys := by
      rw [hspec]
      exact hkeys
    survives := h.survives
    deviceGroup := h.deviceGroup
    name := h.name
    driverType := h.driverType
    valid := by
      rw [hspec]
      exact hchecked.valid
    withoutId := rfl
    row := ⟨row, by
      rw [hspec]
      exact hchecked.row⟩ }

theorem tagImportable_of_row {row : TagRow F} {i : Int} {driverType : String}
    (h : TagRowExportable row) (hstored : TagStored row)
    (hvalid : validateTag driverType (row.spec i) = .ok ()) :
    TagImportable driverType (row.spec i).withoutIds where
  tagGroup := h.tagGroup
  name := h.name
  nodeId n hn := ⟨h.nodeId n hn, fun hempty => hstored.nodeId (hempty ▸ hn)⟩
  unitId := h.unitId
  valid := hvalid
  withoutIds := rfl
  row := by
    obtain ⟨tag, htag⟩ := hstored.columns
    refine ⟨row.deviceId, row, ?_⟩
    rw [(tagRow_eq_ok htag).2 i]
    exact htag

theorem importable_configuration (hs : StoredRows s) (hx : Exportable s) :
    Importable s.configuration where
  block b hb := by
    obtain ⟨id, row, hrow, hdevice, hperm⟩ := mem_configuration hb
    refine ⟨?_, fun tag htag => ?_, ?_⟩
    · rw [hdevice]
      exact deviceImportable_of_row (hx.device id row hrow) (hs.device id row hrow) id
    · obtain ⟨i, tagRow, htagRow, hid, rfl⟩ := mem_tagsOf.mp (hperm.mem_iff.mp htag)
      obtain ⟨found, hfound, hvalid⟩ := hx.valid i tagRow htagRow
      obtain rfl := Option.some.inj (hfound.symm.trans (hid ▸ hrow))
      rw [hdevice]
      exact tagImportable_of_row (hx.tag i tagRow htagRow) (hs.tag i tagRow htagRow) hvalid
    · rw [(hperm.map _).nodup_iff, tagsOf, List.map_map]
      refine ((s.tags.rows.nodup.of_map _).filter _).map_on ?_
      rintro ⟨i, a⟩ ha ⟨j, b⟩ hb heq
      simp only [List.mem_filter, decide_eq_true_eq] at ha hb
      have hi := OrderedDict.get?_eq_some.mpr ha.1
      have hj := OrderedDict.get?_eq_some.mpr hb.1
      obtain rfl := hs.unique i j a b hi hj (ha.2.trans hb.2.symm) (Prod.mk.inj heq).1 (Prod.mk.inj heq).2
      rw [Option.some.inj (hi.symm.trans hj)]
  keys := by
    rw [((perm_configuration s).map _).nodup_iff, catalog, List.map_map, List.map_map]
    refine (s.devices.rows.nodup.of_map _).map_on ?_
    rintro ⟨i, a⟩ ha ⟨j, b⟩ hb heq
    have hi := OrderedDict.get?_eq_some.mpr ha
    have hj := OrderedDict.get?_eq_some.mpr hb
    obtain rfl := hx.distinct i j a b hi hj (Prod.mk.inj heq).1 (Prod.mk.inj heq).2
    rw [Option.some.inj (hi.symm.trans hj)]
  devices := by
    have hlength := s.devices.length_le_lastId
    rw [(perm_configuration s).length_eq, List.length_map, catalog, List.length_map]
    exact hlength.trans_lt hs.deviceIds
  tags := (sum_tags_le s).trans_lt hs.tagIds

/-- The devices are the same, their settings as Python compares them. -/
def SameDevice (a b : DeviceSpec F) : Prop :=
  { a with connection := b.connection } = b ∧ PyValue.dictEq a.connection b.connection = true

/-- The same devices with the same tags, ids aside. -/
def SameConfiguration (t s : ConfigStore F) : Prop :=
  List.Forall₂ (fun a b : Block F => SameDevice a.1 b.1 ∧ a.2 = b.2) t.configuration s.configuration

instance [DecidableEq F] (a b : DeviceSpec F) : Decidable (SameDevice a b) :=
  inferInstanceAs (Decidable (_ ∧ _))

instance [DecidableEq F] (t s : ConfigStore F) : Decidable (SameConfiguration t s) :=
  inferInstanceAs (Decidable (List.Forall₂ _ _ _))

theorem sameDevice_imported (h : SettingsSurvive device) : SameDevice (importedDevice device) device :=
  ⟨rfl, dictEq_importedConnection h⟩

/-- The import of its own export gives a store its devices and tags back. -/
theorem importDevicesCsv_exportDevicesCsv (h : Reachable (fun _ _ => True) s) (hx : Exportable s) :
    ∃ imported t, importDevicesCsv (exportDevicesCsv s) initialized = (.ok imported, t) ∧
      SameConfiguration t s := by
  have hblocks := importable_configuration (storedRows_of_reachable h) hx
  obtain ⟨imported, t, himport, hcatalog⟩ := importDevicesCsv_blocks hblocks
  refine ⟨imported, t, by rw [exportDevicesCsv_eq, himport], ?_⟩
  rw [SameConfiguration, configuration_of_catalog (f := importedDevice) (fun _ => rfl) hcatalog,
    List.forall₂_map_left_iff, List.forall₂_same]
  exact fun b hb => ⟨sameDevice_imported (hblocks.block b hb).device.toSettingsSurvive, rfl⟩

/-- As the web form saves it, with a whole number of seconds. -/
def linePayload : Settings WholeFloat :=
  .ofList [("driver_type", .str "modbus_serial"), ("device_group", .str "hall 2"),
    ("name", .str "line"), ("poll_interval_ms", .int 500),
    ("connection", .dict [("port", .str "/dev/ttyUSB0"), ("parity", .str "E"), ("timeout", .int 3)])]

def feedPayload : Settings WholeFloat :=
  .ofList [("driver_type", .str "mqtt"), ("device_group", .str "hall 2"), ("name", .str "feed"),
    ("enabled", .bool false), ("connection", .dict [("host", .str "broker"), ("qos", .int 1)])]

def torquePayload : Settings WholeFloat :=
  .ofList [("name", .str "torque"), ("tag_group", .str "drive"), ("address", .int 40),
    ("function", .str "input_register"), ("data_type", .str "int32"), ("unit_id", .int 3),
    ("scale", .int 10), ("word_order", .str "little")]

def runningPayload : Settings WholeFloat :=
  .ofList [("name", .str "running"), ("function", .str "coil"), ("data_type", .str "bool")]

/-- A serial line with two tags and an MQTT input that is off. -/
def plant : ConfigStore WholeFloat :=
  (Operation.createDevice feedPayload).run ((Operation.createTag 1 runningPayload).run
    ((Operation.createTag 1 torquePayload).run ((Operation.createDevice linePayload).run initialized)))

theorem plant_reachable : Reachable (fun _ _ => True) plant :=
  .run _ (.run _ (.run _ (.run _ .initialized trivial) trivial) trivial) trivial

theorem plant_exportable : Exportable plant := by
  constructor
  · intro i j row row' hi hj
    have hdistinct : ∀ a ∈ plant.devices.rows.entries, ∀ b ∈ plant.devices.rows.entries,
        a.2.deviceGroup = b.2.deviceGroup → a.2.name = b.2.name → a.1 = b.1 := by decide +kernel
    exact hdistinct (i, row) (OrderedDict.get?_eq_some.mp hi) (j, row') (OrderedDict.get?_eq_some.mp hj)
  · intro id row h
    have hdevice : ∀ e ∈ plant.devices.rows.entries, PyText.Stripped e.2.deviceGroup ∧
        PyText.Stripped e.2.name ∧ PyText.Stripped e.2.driverType ∧
        ∀ field ∈ connectionFieldsForDriver e.2.driverType,
          ∀ value ∈ e.2.connection.get? field.key, SurvivesCell field value := by decide +kernel
    obtain ⟨hgroup, hname, hdriver, hsurvives⟩ := hdevice (id, row) (OrderedDict.get?_eq_some.mp h)
    exact ⟨hgroup, hname, hdriver, hsurvives⟩
  · intro id row h
    have htag : ∀ e ∈ plant.tags.rows.entries, PyText.Stripped e.2.tagGroup ∧
        PyText.Stripped e.2.name ∧ (∀ s ∈ e.2.nodeId, PyText.Stripped s) ∧ e.2.unitId ≠ some 0 := by
      decide +kernel
    obtain ⟨hgroup, hname, hnode, hunit⟩ := htag (id, row) (OrderedDict.get?_eq_some.mp h)
    exact ⟨hgroup, hname, hnode, hunit⟩
  · intro id row h
    have hvalid : ∀ e ∈ plant.tags.rows.entries, ((plant.devices.get? e.2.deviceId).any fun device =>
        decide (validateTag device.driverType (e.2.spec 0) = .ok ())) = true := by decide +kernel
    have hrow := hvalid (id, row) (OrderedDict.get?_eq_some.mp h)
    rw [Option.any_eq_true] at hrow
    obtain ⟨device, hdevice, hchecked⟩ := hrow
    exact ⟨device, hdevice, of_decide_eq_true hchecked⟩

/-- The line comes back with a timeout of 3.0 seconds. -/
theorem plant_importDevicesCsv :
    ∃ imported t, importDevicesCsv (exportDevicesCsv plant) initialized = (.ok imported, t) ∧
      SameConfiguration t plant :=
  importDevicesCsv_exportDevicesCsv plant_reachable plant_exportable

def blankHostPayload : Settings WholeFloat :=
  .ofList [("driver_type", .str "modbus_tcp"), ("name", .str "plc"),
    ("connection", .dict [("host", .str "")])]

def blankHostPlc : ConfigStore WholeFloat := (Operation.createDevice blankHostPayload).run initialized

theorem blankHostPlc_differs :
    ¬ SameConfiguration (importDevicesCsv (exportDevicesCsv blankHostPlc) initialized).2
      blankHostPlc := by
  rw [exportDevicesCsv_eq, importDevicesCsv_rows]
  decide +kernel

/-- A blank host comes back as the default host. -/
theorem blank_host_becomes_default :
    ¬ ∀ s : ConfigStore WholeFloat, Reachable (fun _ _ => True) s →
      ∃ imported t, importDevicesCsv (exportDevicesCsv s) initialized = (.ok imported, t) ∧
        SameConfiguration t s := by
  intro h
  obtain ⟨imported, t, himport, hsame⟩ := h blankHostPlc (.run _ .initialized trivial)
  have hdiffers := blankHostPlc_differs
  rw [himport] at hdiffers
  exact hdiffers hsame

end ConfigService

end IndustrialGateway
