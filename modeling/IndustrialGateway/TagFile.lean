import IndustrialGateway.DeviceCsv
import IndustrialGateway.DeviceSaves
import IndustrialGateway.RuntimeRows

/-!
# The tag file of a device

`export_tags_csv` writes the tags of one device. The file can be imported into
any device with the same driver type, in this store or another one: it then has
these tags as they were, under the ids that their names had there. On the device
it came from the import changes nothing.
-/

namespace IndustrialGateway

open Fallible ConfigStore

variable {F : Type} [PyRuntime F] {s t : ConfigStore F} {deviceId : Int}

/-- The row of a tag on another device. -/
def TagRow.on (row : TagRow F) (deviceId : Int) : TagRow F := { row with deviceId }

/-- The row that a tag has on a device. -/
def TagSpec.rowOn (tag : TagSpec F) (deviceId : Int) : TagRow F where
  deviceId := deviceId
  tagGroup := tag.tagGroup
  name := tag.name
  address := tag.address
  function := tag.function
  dataType := tag.dataType
  scale := tag.scale
  offset := tag.offset
  enabled := tag.enabled
  unitId := tag.unitId
  wordCount := tag.wordCount
  byteOrder := tag.byteOrder
  wordOrder := tag.wordOrder
  nodeId := tag.nodeId

namespace ConfigService

/-- `_TAG_CSV_FIELDS`. -/
def tagCsvFields : List String :=
  ["tag_group", "name", "node_id", "address", "function", "data_type", "scale", "offset", "enabled",
    "unit_id", "count", "word_count", "byte_order", "word_order"]

def tagCsvCells (tag : TagSpec F) : List (String × PyValue F) :=
  [("tag_group", .str tag.tagGroup), ("name", .str tag.name), ("node_id", .str (tag.nodeId.getD "")),
    ("address", .int tag.address), ("function", .str tag.function), ("data_type", .str tag.dataType),
    ("scale", .float tag.scale), ("offset", .float tag.offset), ("enabled", boolInt tag.enabled),
    ("unit_id", intOrBlank tag.unitId), ("count", intOrBlank tag.wordCount),
    ("word_count", intOrBlank tag.wordCount), ("byte_order", .str tag.byteOrder),
    ("word_order", .str tag.wordOrder)]

/-- `_tag_csv_row`. -/
def tagCsvRow (tag : TagSpec F) : Settings F := .ofList (tagCsvCells tag)

def exportTagsCsv (deviceId : Int) : StoreAct F String := do
  let _ ← getDevice deviceId
  .read fun store =>
    Csv.dictWriter tagCsvFields (((store.listTags deviceId).map tagCsvRow).map csvCell)

-- ---------------------------------------------------------------------------
-- Rows
-- ---------------------------------------------------------------------------

theorem cell_tagCsvRow {tag : TagSpec F} {key : String} {value : PyValue F} (hkey : key ∈ tagCsvFields)
    (hvalue : OrderedDict.lookup key (tagCsvCells tag) = some value) :
    cell (readBack tagCsvFields (tagCsvRow tag)) key = some (csvText value) := by
  have hkeys : (tagCsvCells tag).map Prod.fst = tagCsvFields := rfl
  have hnodup : ((tagCsvCells tag).map Prod.fst).Nodup := by
    rw [hkeys]
    decide
  have hget : (tagCsvRow tag).get? key = some value :=
    (OrderedDict.get?_ofList_of_nodup hnodup key).trans hvalue
  rw [cell_readBack (by decide), if_pos hkey, csvCell, optional, hget, Option.getD_some]

theorem tagFromCsvRow_tagCsvRow {driverType : String} {tag : TagSpec F}
    (h : TagExportable driverType tag) :
    tagFromCsvRow (readBack tagCsvFields (tagCsvRow tag)) driverType "name" = .ok tag.withoutIds := by
  obtain ⟨hfunction, hdataType, hbyteOrder, hwordOrder⟩ := plain_of_validateTag h.valid
  obtain ⟨hgiven, hcommon⟩ := commonFieldsOk_of_validateTag h.valid
  obtain ⟨hname, hne⟩ := plain_of_nameGiven h.name (decide_eq_true hgiven)
  have htagGroup : PyText.strip tag.tagGroup = tag.tagGroup := h.tagGroup
  have hname : PyText.strip tag.name = tag.name := hname
  have hgivenOk : raiseUnless (decide (tag.name ≠ "")) "tag name is required" = .ok () :=
    raiseUnless_eq_ok.mpr (decide_eq_true hne)
  have hcount : (readBack tagCsvFields (tagCsvRow tag)).contains "count" = true := by
    rw [OrderedDict.contains_iff, readBack, OrderedDict.mem_keys_ofList, keys_readBack]
    decide
  have hwordCount : tag.wordCount ≠ some 0 := fun hzero =>
    absurd (hcommon.count 0 hzero) (by decide)
  have hcell : ∀ key value, key ∈ tagCsvFields →
      OrderedDict.lookup key (tagCsvCells tag) = some value →
      cell (readBack tagCsvFields (tagCsvRow tag)) key = some (csvText value) :=
    fun key value hkey hvalue => cell_tagCsvRow hkey hvalue
  have hkey : ¬ "name" = "tag_name" := by decide
  simp only [tagFromCsvRow, cellOr, if_neg hkey, hcell "name" _ (by decide) rfl,
    hcell "node_id" _ (by decide) rfl, hcell "address" _ (by decide) rfl,
    hcell "scale" _ (by decide) rfl, hcell "offset" _ (by decide) rfl,
    hcell "tag_group" _ (by decide) rfl, hcell "function" _ (by decide) rfl,
    hcell "data_type" _ (by decide) rfl, hcell "enabled" _ (by decide) rfl,
    hcell "unit_id" _ (by decide) rfl, hcell "count" _ (by decide) rfl,
    hcell "byte_order" _ (by decide) rfl, hcell "word_order" _ (by decide) rfl,
    hcount, csvText_str, hname, hgivenOk, htagGroup, strip_textOr_of_plain hfunction,
    strip_textOr_of_plain hdataType, strip_textOr_of_plain hbyteOrder,
    strip_textOr_of_plain hwordOrder, textOr_blank,
    nodeId_cell h.nodeId, csvInt_textOr, csvFloatOr_text, csvBool_boolInt,
    csvOptionalInt_intOrBlank h.unitId, csvOptionalInt_intOrBlank hwordCount, if_true]
  rfl

/-- The columns of a stored tag fit on any device. -/
theorem tagRow_stored {row : TagRow F} (h : TagStored row) (i : Int)
    (hid : sqlInteger deviceId = .ok ()) :
    tagRow deviceId (row.spec i).withoutIds = .ok (row.on deviceId) := by
  obtain ⟨tag, htag⟩ := h.columns
  have hspec : (row.spec i).withoutIds = tag.withoutIds := by
    rw [(tagRow_eq_ok htag).2 i]
    rfl
  have hrow : tagRow row.deviceId (row.spec i).withoutIds = .ok row := by
    rw [hspec]
    exact htag
  simp only [tagRow, bind_eq_ok] at hrow
  obtain ⟨_, -, _, haddress, _, hunit, _, hcount, _, hscale, _, hoffset, -⟩ := hrow
  exact bind_eq_ok.mpr ⟨(), hid, bind_eq_ok.mpr ⟨_, haddress, bind_eq_ok.mpr ⟨_, hunit,
    bind_eq_ok.mpr ⟨_, hcount, bind_eq_ok.mpr ⟨_, hscale, bind_eq_ok.mpr ⟨_, hoffset, rfl⟩⟩⟩⟩⟩⟩

-- ---------------------------------------------------------------------------
-- Upserts
-- ---------------------------------------------------------------------------

/-- A tag that the device takes is written while there is an id left. -/
theorem upsertTag_ok (hunique : UniqueTagNames s.tags) (hroom : s.tags.lastId + 1 < 2 ^ 63)
    {tag : TagSpec F} {row : TagRow F} (h : TagTaken s.devices deviceId tag row) :
    ∃ id t, upsertTag deviceId tag s = (.ok id, t) := by
  obtain ⟨d, hd⟩ := Table.exists_keyed (uniqueTagNames_iff.mp hunique)
  rcases existingTagId_cases s deviceId tag with ⟨hnone, hfree⟩ | ⟨id, old, -, hold, hkey⟩
  · obtain ⟨hdevice, -⟩ := tagRow_eq_ok h.row
    obtain ⟨device, hdev, -⟩ := h.valid
    have hfresh : nextRowId s.tags = .ok s.tags.nextId := by
      rw [nextRowId_eq_ok, Table.nextId]
      exact ⟨by omega, rfl⟩
    obtain ⟨u, hinsert⟩ : ∃ u, s.insertTag row = .ok u := by
      rw [insertTag, dif_pos (by rw [hdevice, hdev]; rfl)]
      exact ⟨_, rfl⟩
    have hname : s.hasTagName deviceId { tag with id := none, deviceId := some deviceId } = false := by
      rw [hasTagName_eq_false]
      rintro j other hj hon hgroup hname
      have hkey : other.key = (deviceId, tag.tagGroup, tag.name) :=
        Prod.ext hon (Prod.ext hgroup hname)
      exact absurd hkey (hfree j other hj)
    refine ⟨s.tags.nextId, u, Fallible.bind_eq_ok.mpr ⟨none, s, read_eq_ok.mpr ⟨hnone, rfl⟩, ?_⟩⟩
    exact saveTag_eq_ok.mpr ⟨deviceId, ⟨rfl, h.bound, h.valid, rfl, hname⟩,
      (writeTag_insert rfl).mpr ⟨row, h.row, hfresh, hinsert⟩⟩
  · have hid : sqlInteger id = .ok () :=
      sqlInteger_of_isSome (by omega) (Option.isSome_iff_exists.mpr ⟨old, hold⟩)
    obtain ⟨t, hupsert, -⟩ := upsertTag_again hd h hold (hkey.trans h.key.symm) hid
    exact ⟨id, t, hupsert⟩

/-- The rows of a file are imported while there are ids left. -/
theorem importTagsRows_ok {devices : Table (DeviceRow F)} {driverType : String}
    {csvRows : List Csv.Row} {rows : List (TagRow F)}
    (hrows : List.Forall₂ (RowTaken devices deviceId driverType) csvRows rows)
    (hdevices : s.devices = devices) (hunique : UniqueTagNames s.tags)
    (hroom : s.tags.lastId + csvRows.length < 2 ^ 63) (imported : Nat) :
    ∃ t, csvRows.foldlM (importTagsRow deviceId driverType) imported s =
      (.ok (imported + csvRows.length), t) := by
  induction hrows generalizing s imported with
  | nil => exact ⟨s, rfl⟩
  | @cons csvRow row csvRows rows hrow hrows ih =>
    obtain ⟨tag, htag, htaken⟩ := hrow
    rw [List.length_cons] at hroom
    obtain ⟨id, u, hupsert⟩ := upsertTag_ok hunique (by omega) (hdevices ▸ htaken)
    obtain ⟨_, -, hsame, hupserted, -⟩ := upsertTag_eq_ok hupsert
    have hstep : importTagsRow deviceId driverType imported csvRow s = (.ok (imported + 1), u) := by
      rw [importTagsRow, htag, lift_ok_bind]
      exact Fallible.bind_eq_ok.mpr ⟨id, u, hupsert, rfl⟩
    obtain ⟨d, hd⟩ := Table.exists_keyed (uniqueTagNames_iff.mp hunique)
    have hunique' : UniqueTagNames u.tags :=
      uniqueTagNames_iff.mpr fun _ _ _ _ hi hj hkey => (hupserted.keyed hd).unique hi hj hkey
    have hlast : u.tags.lastId ≤ s.tags.lastId + 1 := by
      rcases hupserted.lengths with ⟨hlast, -⟩ | ⟨hlast, -⟩ <;> omega
    obtain ⟨t, hrun⟩ := ih (hsame.devices.trans hdevices) hunique' (by omega) (imported + 1)
    refine ⟨t, ?_⟩
    rw [List.foldlM_cons, bind_eq_of_ok hstep, hrun, List.length_cons, Nat.add_assoc, Nat.add_comm 1]

theorem RowTaken.unique {devices : Table (DeviceRow F)} {driverType : String} {csvRow : Csv.Row}
    {row row' : TagRow F} (h : RowTaken devices deviceId driverType csvRow row)
    (h' : RowTaken devices deviceId driverType csvRow row') : row = row' := by
  obtain ⟨tag, htag, htaken⟩ := h
  obtain ⟨tag', htag', htaken'⟩ := h'
  cases htag.symm.trans htag'
  exact Except.ok.inj (htaken.row.symm.trans htaken'.row)

-- ---------------------------------------------------------------------------
-- The file
-- ---------------------------------------------------------------------------

/-- The tags of the device keep what they are in a file, and the driver accepts them. -/
def TagsExportable (s : ConfigStore F) (deviceId : Int) (driverType : String) : Prop :=
  ∀ id row, s.tags.get? id = some row → row.deviceId = deviceId →
    TagRowExportable row ∧ validateTag driverType (row.spec id) = .ok ()

variable {source target : Int} {sourceRow targetRow : DeviceRow F}

theorem exportTagsCsv_eq (hsource : s.devices.get? source = some sourceRow) :
    exportTagsCsv source s = (.ok (Csv.dictWriter tagCsvFields
      (((s.listTags source).map tagCsvRow).map csvCell)), s) := by
  rw [exportTagsCsv, bind_eq_of_ok (getDevice_of_row hsource)]
  rfl

/-- The target takes every row of the file. -/
theorem rowsTaken (hs : StoredRows s) (htarget : t.devices.get? target = some targetRow)
    (hbound : sqlInteger target = .ok ())
    (hexport : TagsExportable s source targetRow.driverType) :
    List.Forall₂ (RowTaken t.devices target targetRow.driverType)
      (((s.listTags source).map tagCsvRow).map (readBack tagCsvFields))
      ((s.listTags source).map fun tag => tag.rowOn target) := by
  rw [List.map_map, List.forall₂_map_left_iff, List.forall₂_map_right_iff, List.forall₂_same]
  intro tag htag
  obtain ⟨id, row, hrow, hdevice, rfl⟩ := mem_listTags.mp htag
  obtain ⟨hexportable, hvalid⟩ := hexport id row hrow hdevice
  have hstored := hs.tag id row hrow
  have htag : TagExportable targetRow.driverType (row.spec id) := {
    tagGroup := hexportable.tagGroup
    name := hexportable.name
    nodeId := fun n hn => ⟨hexportable.nodeId n hn, fun hempty => hstored.nodeId (hempty ▸ hn)⟩
    unitId := hexportable.unitId
    valid := hvalid }
  have htaken : TagTaken t.devices target (row.spec id).withoutIds ((row.spec id).rowOn target) :=
    ⟨hbound, ⟨targetRow, htarget, hvalid⟩, tagRow_stored hstored id hbound⟩
  rw [Function.comp_apply]
  exact ⟨(row.spec id).withoutIds, tagFromCsvRow_tagCsvRow htag, htaken⟩

omit [PyRuntime F] in
/-- The rows of a file have names of their own. -/
theorem nodup_rowsOn (hunique : UniqueTagNames s.tags) (source target : Int) :
    (((s.listTags source).map fun tag => tag.rowOn target).map TagRow.key).Nodup := by
  rw [List.map_map]
  refine (nodup_listTags s source).map_on fun tag htag tag' htag' hkey => ?_
  obtain ⟨i, a, hi, hdevice, rfl⟩ := mem_listTags.mp htag
  obtain ⟨j, b, hj, hdevice', rfl⟩ := mem_listTags.mp htag'
  obtain ⟨-, hname⟩ := Prod.mk.inj hkey
  obtain ⟨hgroup, hname⟩ := Prod.mk.inj hname
  obtain rfl := hunique i j a b hi hj (hdevice.trans hdevice'.symm) hgroup hname
  rw [Option.some.inj (hi.symm.trans hj)]

omit [PyRuntime F] in
/-- Every row of the file is on the target, under the id that its name had there. -/
theorem row_restored {after : Table (TagRow F)} (hs : UniqueTagNames s.tags)
    (ht : UniqueTagNames t.tags) {i : Int} {row : TagRow F} (hrow : s.tags.get? i = some row)
    (hdevice : row.deviceId = source)
    (h : TagsUpserted t.tags ((s.listTags source).map fun tag => tag.rowOn target) after) :
    ∃ id, after.get? id = some (row.on target) ∧
      ∀ j old, t.tags.get? j = some old → old.key = (row.on target).key → j = id := by
  obtain ⟨d, hd⟩ := Table.exists_keyed (uniqueTagNames_iff.mp ht)
  have hkeyed := h.keyed d hd
  have hmem : row.on target ∈ (s.listTags source).map fun tag => tag.rowOn target :=
    List.mem_map.mpr ⟨row.spec i, mem_listTags.mpr ⟨i, row, hrow, hdevice, rfl⟩, rfl⟩
  have hnodup : ((((s.listTags source).map fun tag => tag.rowOn target).map
      fun row => (row.key, row)).map Prod.fst).Nodup := by
    rw [List.map_map]
    exact nodup_rowsOn hs source target
  have hget : (d.update (((s.listTags source).map fun tag => tag.rowOn target).map
      fun row => (row.key, row))).get? (row.on target).key = some (row.on target) := by
    rw [OrderedDict.get?_update_of_nodup d hnodup,
      (OrderedDict.lookup_eq_some hnodup).mpr (List.mem_map.mpr ⟨_, hmem, rfl⟩), Option.some_or]
  obtain ⟨id, hid, -⟩ := hkeyed.get?_eq_some.mp hget
  refine ⟨id, hid, fun j old hold hkey => ?_⟩
  obtain ⟨new, hnew, hnewKey⟩ := h.kept j old hold
  exact hkeyed.unique hnew hid (hnewKey.trans hkey)

/-- The import of a device's tag file gives a device with the same driver type these
tags. They take the ids that their names had; no other row changes, and nothing at
all when the file is of this device. -/
theorem tag_file_restores (hs : Reachable (fun _ _ => True) s) (ht : Reachable (fun _ _ => True) t)
    (hsource : s.devices.get? source = some sourceRow)
    (htarget : t.devices.get? target = some targetRow)
    (hdriver : targetRow.driverType = sourceRow.driverType)
    (hexport : TagsExportable s source sourceRow.driverType)
    (hroom : t.tags.lastId + (s.listTags source).length < 2 ^ 63) :
    ∃ text u, exportTagsCsv source s = (.ok text, s) ∧
      importTagsCsv target text t = (.ok (s.listTags source).length, u) ∧ SameButTags t u ∧
      (∀ i row, s.tags.get? i = some row → row.deviceId = source →
        ∃ id, u.tags.get? id = some (row.on target) ∧
          ∀ j old, t.tags.get? j = some old → old.key = (row.on target).key → j = id) ∧
      (∀ id row, (∀ i tag, s.tags.get? i = some tag → tag.deviceId = source →
          row.key ≠ (tag.on target).key) →
        (u.tags.get? id = some row ↔ t.tags.get? id = some row)) ∧
      (source = target → s = t → u = t) := by
  have hs := storedRows_of_reachable hs
  have ht := storedRows_of_reachable ht
  have hbound : sqlInteger target = .ok () :=
    sqlInteger_of_isSome ht.deviceIds (Option.isSome_iff_exists.mpr ⟨_, htarget⟩)
  have htaken := rowsTaken hs htarget hbound (hdriver.symm ▸ hexport)
  have hlength : (((s.listTags source).map tagCsvRow).map (readBack tagCsvFields)).length =
      (s.listTags source).length := by rw [List.length_map, List.length_map]
  obtain ⟨u, hrun⟩ := importTagsRows_ok htaken rfl ht.unique (hlength.symm ▸ hroom) 0
  obtain ⟨-, hsame, rows, htaken', hupserts⟩ := importTagsRows_eq_ok hrun
  obtain rfl := List.right_unique_forall₂' (fun _ _ _ h h' => h.unique h') htaken' htaken
  have hrestored : ∀ i row, s.tags.get? i = some row → row.deviceId = source →
      ∃ id, u.tags.get? id = some (row.on target) ∧
        ∀ j old, t.tags.get? j = some old → old.key = (row.on target).key → j = id :=
    fun i row hrow hdevice => row_restored hs.unique ht.unique hrow hdevice hupserts
  have hothers : ∀ id row, (∀ i tag, s.tags.get? i = some tag → tag.deviceId = source →
      row.key ≠ (tag.on target).key) → (u.tags.get? id = some row ↔ t.tags.get? id = some row) := by
    refine fun id row hne => hupserts.others id row fun hmem => ?_
    obtain ⟨_, hrow, hkey⟩ := List.mem_map.mp hmem
    obtain ⟨_, htag, rfl⟩ := List.mem_map.mp hrow
    obtain ⟨i, tag, hget, hdevice, rfl⟩ := mem_listTags.mp htag
    exact hne i tag hget hdevice hkey.symm
  refine ⟨_, u, exportTagsCsv_eq hsource, ?_, hsame, hrestored, hothers, ?_⟩
  · rw [importTagsCsv, bind_eq_of_ok (getDevice_of_row htarget),
      forRows_dictWriter (by decide) _ 0]
    rw [hlength, Nat.zero_add] at hrun
    exact hrun
  · rintro rfl rfl
    -- every name is taken, so no id is given out and each row replaces itself
    obtain ⟨d, hd⟩ := Table.exists_keyed (uniqueTagNames_iff.mp hs.unique)
    have hnamed : ∀ row ∈ (s.listTags source).map fun tag => tag.rowOn source,
        HasKey s.tags row.key := by
      intro row hrow
      obtain ⟨_, htag, rfl⟩ := List.mem_map.mp hrow
      obtain ⟨i, row, hget, rfl, rfl⟩ := mem_listTags.mp htag
      exact ⟨i, row, hget, rfl, sqlInteger_of_isSome hs.tagIds (Option.isSome_iff_exists.mpr ⟨_, hget⟩)⟩
    obtain ⟨v, hrun', -, hids, hlast, -⟩ := importTagsRows_again hd htaken hnamed 0
    obtain rfl : v = u := (Prod.mk.inj (hrun'.symm.trans hrun)).2
    refine hsame.ext (Table.ext (OrderedDict.ext_get? hids fun id => ?_) hlast)
    change v.tags.get? id = s.tags.get? id
    cases hget : s.tags.get? id with
    | none =>
      rw [Table.get?, OrderedDict.get?_eq_none] at hget ⊢
      rw [hids]
      exact hget
    | some row =>
      by_cases hdevice : row.deviceId = source
      · obtain ⟨id', hid', hsame'⟩ := hrestored id row hget hdevice
        obtain rfl := hsame' id row hget (by rw [TagRow.on, ← hdevice])
        rw [TagRow.on, ← hdevice] at hid'
        exact hid'
      · refine (hothers id row fun i tag _ _ hkey => hdevice ?_).mpr hget
        exact congrArg Prod.fst hkey

/-- Another line, with a tag of one of the names. -/
def spareLine : ConfigStore WholeFloat :=
  (Operation.createTag 1 (.ofList [("name", .str "running"), ("address", .int 7),
    ("function", .str "discrete_input"), ("data_type", .str "bool")])).run
    ((Operation.createDevice linePayload).run initialized)

def lineRow : DeviceRow WholeFloat :=
  ⟨"hall 2", "line", "modbus_serial", true, 500,
    .ofList [("port", .str "/dev/ttyUSB0"), ("baudrate", .int 9600), ("parity", .str "E"),
      ("stopbits", .int 1), ("bytesize", .int 8), ("timeout", .int 3), ("max_block_gap", .int 4),
      ("max_registers_per_read", .int 125), ("max_bits_per_read", .int 2000)]⟩

def runningRow : TagRow WholeFloat :=
  ⟨1, "", "running", 0, "coil", "bool", ⟨1⟩, ⟨0⟩, true, none, none, "big", "big", none⟩

def torqueRow : TagRow WholeFloat :=
  ⟨1, "drive", "torque", 40, "input_register", "int32", ⟨10⟩, ⟨0⟩, true, some 3, none, "big", "little", none⟩

/-- The tag that was there keeps its id and is the one of the file, the other one is new. -/
theorem plant_restored : ∃ text u, exportTagsCsv 1 plant = (.ok text, plant) ∧
    importTagsCsv 1 text spareLine = (.ok 2, u) ∧ u.tags.get? 1 = some runningRow ∧
      ∃ id, u.tags.get? id = some torqueRow := by
  have hspare : Reachable (fun _ _ => True) spareLine := .run _ (.run _ .initialized trivial) trivial
  have hline : plant.devices.get? 1 = some lineRow := by decide +kernel
  have htarget : spareLine.devices.get? 1 = some lineRow := by decide +kernel
  have htags : plant.tags.rows.entries = [(1, torqueRow), (2, runningRow)] := by decide +kernel
  have hexport : TagsExportable plant 1 lineRow.driverType := by
    intro id row hrow _
    have hmem := OrderedDict.get?_eq_some.mp hrow
    rw [htags] at hmem
    simp only [List.mem_cons, Prod.mk.injEq, List.not_mem_nil, or_false] at hmem
    rcases hmem with ⟨rfl, rfl⟩ | ⟨rfl, rfl⟩
    · exact ⟨⟨by decide, by decide, fun _ hnode => (by cases hnode), by decide⟩, by decide⟩
    · exact ⟨⟨by decide, by decide, fun _ hnode => (by cases hnode), by decide⟩, by decide⟩
  obtain ⟨text, u, hfile, himport, -, hrestored, -⟩ := tag_file_restores plant_reachable hspare
    hline htarget rfl hexport (by decide +kernel)
  have hlength : (plant.listTags 1).length = 2 := by decide +kernel
  obtain ⟨id, hid, hkept⟩ := hrestored 2 runningRow (by decide +kernel) rfl
  obtain ⟨id', hid', -⟩ := hrestored 1 torqueRow (by decide +kernel) rfl
  obtain ⟨old, hold, hkey⟩ : ∃ old, spareLine.tags.get? 1 = some old ∧
      old.key = (runningRow.on 1).key := ⟨_, rfl, by decide +kernel⟩
  obtain rfl := hkept 1 old hold hkey
  exact ⟨text, u, hfile, hlength ▸ himport, hid, id', hid'⟩

end ConfigService

end IndustrialGateway
