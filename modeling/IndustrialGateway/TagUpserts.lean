import IndustrialGateway.CsvRows
import IndustrialGateway.StoredRoutes
import IndustrialGateway.TagValidity

/-!
# Tag imports

A row of a tag file is an upsert of the tag under its device, group and name. A
second import of the file finds every name taken, so it only writes the same
rows under the same ids again.
-/

namespace IndustrialGateway

open Fallible ConfigStore

variable {F : Type} {s t u : ConfigStore F} {deviceId id : Int}

def TagRow.key (row : TagRow F) : Int × String × String := (row.deviceId, row.tagGroup, row.name)

theorem uniqueTagNames_iff {tags : Table (TagRow F)} :
    UniqueTagNames tags ↔ ∀ i j a b, tags.get? i = some a → tags.get? j = some b →
      a.key = b.key → i = j := by
  simp only [UniqueTagNames, TagRow.key, Prod.mk.injEq, and_imp]

namespace ConfigService

-- ---------------------------------------------------------------------------
-- One upsert
-- ---------------------------------------------------------------------------

/-- The importer finds a tag with the group and name on the device, if there is one. -/
theorem existingTagId_cases (s : ConfigStore F) (deviceId : Int) (tag : TagSpec F) :
    (existingTagId (s.listTags deviceId) tag = none ∧
      ∀ j old, s.tags.get? j = some old → old.key ≠ (deviceId, tag.tagGroup, tag.name)) ∨
    ∃ id old, existingTagId (s.listTags deviceId) tag = some id ∧ s.tags.get? id = some old ∧
      old.key = (deviceId, tag.tagGroup, tag.name) := by
  rw [existingTagId]
  cases hfound : (s.listTags deviceId).find? fun other =>
    other.tagGroup = tag.tagGroup ∧ other.name = tag.name with
  | none =>
    refine .inl ⟨rfl, fun j old hold hkey => ?_⟩
    simp only [TagRow.key, Prod.mk.injEq] at hkey
    obtain ⟨hdevice, hgroup, hname⟩ := hkey
    have hother := List.find?_eq_none.mp hfound _ (mem_listTags.mpr ⟨j, old, hold, hdevice, rfl⟩)
    exact hother (decide_eq_true ⟨hgroup, hname⟩)
  | some found =>
    obtain ⟨id, old, hold, hdevice, rfl⟩ := mem_listTags.mp (List.mem_of_find?_eq_some hfound)
    have hname := List.find?_some hfound
    obtain ⟨hgroup, hname⟩ := of_decide_eq_true hname
    exact .inr ⟨id, old, rfl, hold, Prod.ext hdevice (Prod.ext hgroup hname)⟩

variable [PyRuntime F]

/-- What the store asks of a tag that is not about its other tags. -/
structure TagTaken (devices : Table (DeviceRow F)) (deviceId : Int) (tag : TagSpec F)
    (row : TagRow F) : Prop where
  bound : sqlInteger deviceId = .ok ()
  valid : ∃ device, devices.get? deviceId = some device ∧ validateTag device.driverType tag = .ok ()
  row : tagRow deviceId tag = .ok row

theorem TagTaken.key {devices : Table (DeviceRow F)} {tag : TagSpec F} {row : TagRow F}
    (h : TagTaken devices deviceId tag row) : row.key = (deviceId, tag.tagGroup, tag.name) := by
  obtain ⟨hdevice, hspec⟩ := tagRow_eq_ok h.row
  exact Prod.ext hdevice (Prod.ext (congrArg TagSpec.tagGroup (hspec 0))
    (congrArg TagSpec.name (hspec 0)))

omit [PyRuntime F] in
theorem sqlInteger_nextRowId {α : Type} {table : Table α} (h : nextRowId table = .ok id) :
    sqlInteger id = .ok () := by
  obtain ⟨hbound, rfl⟩ := nextRowId_eq_ok.mp h
  rw [sqlInteger_eq_ok]
  simp only [Table.nextId] at hbound ⊢
  omega

theorem upsertTag_eq_ok {tag : TagSpec F} (h : upsertTag deviceId tag s = (.ok id, t)) :
    ∃ row, TagTaken s.devices deviceId tag row ∧ SameButTags s t ∧
      Table.Upserted TagRow.key s.tags row id t.tags ∧ sqlInteger id = .ok () := by
  obtain ⟨existing, _, hread, hsave⟩ := Fallible.bind_eq_ok.mp h
  obtain ⟨rfl, rfl⟩ := read_eq_ok.mp hread
  obtain ⟨i, hadmitted, hwrite⟩ := saveTag_eq_ok.mp hsave
  obtain rfl := Option.some.inj hadmitted.deviceId
  obtain ⟨hsame, row, hrow, hput⟩ := writeTag_rows hwrite
  have htaken : TagTaken s.devices deviceId tag row := ⟨hadmitted.bound, hadmitted.valid, hrow⟩
  refine ⟨row, htaken, hsame, ?_⟩
  rcases existingTagId_cases s deviceId tag with ⟨hnone, hfree⟩ | ⟨j, old, hj, hold, hkey⟩
  · rcases hput with ⟨-, hfresh, htags⟩ | ⟨hsome, -⟩
    · exact ⟨.added (htaken.key ▸ hfree) (nextRowId_eq_ok.mp hfresh).2 htags,
        sqlInteger_nextRowId hfresh⟩
    · cases hnone.symm.trans hsome
  · rcases hput with ⟨hnone, -⟩ | ⟨hsome, htags⟩
    · cases hnone.symm.trans hj
    · cases hj.symm.trans hsome
      refine ⟨.replaced hold (hkey.trans htaken.key.symm) htags, ?_⟩
      have hbound := hadmitted.tagId
      simp only [hj] at hbound
      exact hbound

/-- A tag whose name is taken is written under the id that has the name. -/
theorem upsertTag_again {d : OrderedDict (Int × String × String) (TagRow F)}
    (hd : Table.Keyed TagRow.key s.tags d) {tag : TagSpec F} {row old : TagRow F}
    (h : TagTaken s.devices deviceId tag row) (hold : s.tags.get? id = some old)
    (hkey : old.key = row.key) (hid : sqlInteger id = .ok ()) :
    ∃ t, upsertTag deviceId tag s = (.ok id, t) ∧ t.tags = s.tags.update id row := by
  have honly : ∀ j other, s.tags.get? j = some other → other.key = row.key → j = id :=
    fun _ _ hj hother => hd.unique hj hold (hother.trans hkey.symm)
  have hexisting : existingTagId (s.listTags deviceId) tag = some id := by
    rcases existingTagId_cases s deviceId tag with ⟨-, hfree⟩ | ⟨j, other, hj, hother, hkey'⟩
    · exact absurd (hkey.trans h.key) (hfree id old hold)
    · rw [hj, honly j other hother (hkey'.trans h.key.symm)]
  have hname : s.hasTagName deviceId { tag with id := some id, deviceId := some deviceId } = false := by
    rw [hasTagName_eq_false]
    rintro j other hj rfl hgroup hname
    refine congrArg some (honly j other hj ?_).symm
    rw [h.key, TagRow.key, hgroup, hname]
  have hadmitted : TagAdmitted s deviceId { tag with id := some id, deviceId := some deviceId } :=
    ⟨rfl, h.bound, h.valid, hid, hname⟩
  obtain ⟨hdevice, -⟩ := tagRow_eq_ok h.row
  obtain ⟨device, hdev, -⟩ := h.valid
  obtain ⟨t, hput⟩ : ∃ t, s.updateTag id row = .ok t := by
    rw [ConfigStore.updateTag, dif_pos fun _ => by rw [hdevice, hdev]; rfl]
    exact ⟨_, rfl⟩
  have hwrite : writeTag deviceId { tag with id := some id, deviceId := some deviceId } s =
      .ok (id, t) := (writeTag_update rfl).mpr ⟨row, h.row, hput, rfl⟩
  refine ⟨t, ?_, (updateTag_eq_ok hput).2⟩
  refine Fallible.bind_eq_ok.mpr ⟨some id, s, read_eq_ok.mpr ⟨hexisting, rfl⟩, ?_⟩
  exact saveTag_eq_ok.mpr ⟨deviceId, hadmitted, hwrite⟩

-- ---------------------------------------------------------------------------
-- The rows of a file
-- ---------------------------------------------------------------------------

/-- The group and name in a row of a tag file. -/
def csvTagName (row : Csv.Row) : String × String :=
  (PyText.strip (cellOr row "tag_group"), PyText.strip (cellOr row "name"))

/-- The tag of a row, as the store takes it. -/
def RowTaken (devices : Table (DeviceRow F)) (deviceId : Int) (driverType : String)
    (csvRow : Csv.Row) (row : TagRow F) : Prop :=
  ∃ tag, tagFromCsvRow csvRow driverType "name" = .ok tag ∧ TagTaken devices deviceId tag row

theorem tagFromCsvRow_name {csvRow : Csv.Row} {driverType tagNameKey : String} {tag : TagSpec F}
    (h : tagFromCsvRow csvRow driverType tagNameKey = .ok tag) :
    tag.tagGroup = PyText.strip (cellOr csvRow "tag_group") ∧
      tag.name = PyText.strip (cellOr csvRow tagNameKey) := by
  simp only [tagFromCsvRow, bind_eq_ok, pure, Except.pure, Except.ok.injEq] at h
  obtain ⟨_, -, _, -, _, -, _, -, _, -, _, -, rfl⟩ := h
  exact ⟨rfl, rfl⟩

theorem RowTaken.key {devices : Table (DeviceRow F)} {driverType : String} {csvRow : Csv.Row}
    {row : TagRow F} (h : RowTaken devices deviceId driverType csvRow row) :
    row.key = (deviceId, csvTagName csvRow) := by
  obtain ⟨tag, htag, htaken⟩ := h
  obtain ⟨hgroup, hname⟩ := tagFromCsvRow_name htag
  rw [htaken.key, hgroup, hname, csvTagName]

/-- The key has an id, one that SQLite can hold. -/
def HasKey (tags : Table (TagRow F)) (key : Int × String × String) : Prop :=
  ∃ id row, tags.get? id = some row ∧ row.key = key ∧ sqlInteger id = .ok ()

/-- What the upserts of some rows do to the tags. -/
structure TagsUpserted (tags : Table (TagRow F)) (rows : List (TagRow F)) (after : Table (TagRow F)) :
    Prop where
  kept : ∀ id old, tags.get? id = some old → ∃ row, after.get? id = some row ∧ row.key = old.key
  others : ∀ id row, row.key ∉ rows.map TagRow.key →
    (after.get? id = some row ↔ tags.get? id = some row)
  keyed : ∀ d, Table.Keyed TagRow.key tags d →
    Table.Keyed TagRow.key after (d.update (rows.map fun row => (row.key, row)))
  named : ∀ row ∈ rows, HasKey after row.key

omit [PyRuntime F] in
theorem TagsUpserted.nil (tags : Table (TagRow F)) : TagsUpserted tags [] tags :=
  ⟨fun _ old hold => ⟨old, hold, rfl⟩, fun _ _ _ => Iff.rfl, fun _ hd => hd, fun _ h => (nomatch h)⟩

omit [PyRuntime F] in
theorem TagsUpserted.cons {tags middle after : Table (TagRow F)} {row : TagRow F}
    {rows : List (TagRow F)} (h : Table.Upserted TagRow.key tags row id middle)
    (hid : sqlInteger id = .ok ()) (hrest : TagsUpserted middle rows after) :
    TagsUpserted tags (row :: rows) after := by
  refine ⟨fun j old hold => ?_, fun j other hother => ?_, fun d hd => ?_, fun other hother => ?_⟩
  · obtain ⟨new, hnew, hkey⟩ := h.kept hold
    obtain ⟨last, hlast, hkey'⟩ := hrest.kept j new hnew
    exact ⟨last, hlast, hkey'.trans hkey⟩
  · rw [List.map_cons, List.mem_cons, not_or] at hother
    exact (hrest.others j other hother.2).trans (h.get?_of_ne hother.1)
  · exact hrest.keyed _ (h.keyed hd)
  · rcases List.mem_cons.mp hother with rfl | hother
    · obtain ⟨last, hlast, hkey⟩ := hrest.kept id other h.get?_self
      exact ⟨id, last, hlast, hkey, hid⟩
    · exact hrest.named other hother

theorem importTagsRow_eq_ok {driverType : String} {csvRow : Csv.Row} {imported count : Nat}
    (h : importTagsRow deviceId driverType imported csvRow s = (.ok count, t)) :
    count = imported + 1 ∧ ∃ row id, RowTaken s.devices deviceId driverType csvRow row ∧
      SameButTags s t ∧ Table.Upserted TagRow.key s.tags row id t.tags ∧ sqlInteger id = .ok () := by
  obtain ⟨tag, _, hlift, h⟩ := Fallible.bind_eq_ok.mp h
  obtain ⟨htag, rfl⟩ := lift_eq_ok.mp hlift
  obtain ⟨id, _, hupsert, h⟩ := Fallible.bind_eq_ok.mp h
  obtain ⟨rfl, rfl⟩ := pure_eq_ok.mp h
  obtain ⟨row, htaken, hsame, hrow, hid⟩ := upsertTag_eq_ok hupsert
  exact ⟨rfl, row, id, ⟨tag, htag, htaken⟩, hsame, hrow, hid⟩

/-- The import of the rows is the upsert of their tags, one after the other. -/
theorem importTagsRows_eq_ok {driverType : String} {csvRows : List Csv.Row} {imported count : Nat}
    (h : csvRows.foldlM (importTagsRow deviceId driverType) imported s = (.ok count, t)) :
    count = imported + csvRows.length ∧ SameButTags s t ∧
      ∃ rows, List.Forall₂ (RowTaken s.devices deviceId driverType) csvRows rows ∧
        TagsUpserted s.tags rows t.tags := by
  induction csvRows generalizing s imported with
  | nil =>
    obtain ⟨rfl, rfl⟩ := pure_eq_ok.mp h
    exact ⟨rfl, .refl s, [], .nil, .nil s.tags⟩
  | cons csvRow csvRows ih =>
    rw [List.foldlM_cons] at h
    obtain ⟨middle, u, hrow, hrows⟩ := Fallible.bind_eq_ok.mp h
    obtain ⟨rfl, row, id, htaken, hsame, hupsert, hid⟩ := importTagsRow_eq_ok hrow
    obtain ⟨rfl, hsame', rows, htakens, hupserts⟩ := ih hrows
    rw [hsame.devices] at htakens
    refine ⟨?_, hsame.trans hsame', row :: rows, .cons htaken htakens, .cons hupsert hid hupserts⟩
    rw [List.length_cons]
    omega

omit [PyRuntime F] in
theorem HasKey.upserted {tags after : Table (TagRow F)} {row : TagRow F} {key : Int × String × String}
    (h : HasKey tags key) (hrow : Table.Upserted TagRow.key tags row id after) : HasKey after key := by
  obtain ⟨j, old, hold, rfl, hj⟩ := h
  obtain ⟨new, hnew, hkey⟩ := hrow.kept hold
  exact ⟨j, new, hnew, hkey, hj⟩

/-- Rows whose names are taken are imported without a new id. -/
theorem importTagsRows_again {d : OrderedDict (Int × String × String) (TagRow F)}
    (hd : Table.Keyed TagRow.key s.tags d) {driverType : String} {csvRows : List Csv.Row}
    {rows : List (TagRow F)}
    (hrows : List.Forall₂ (RowTaken s.devices deviceId driverType) csvRows rows)
    (hnamed : ∀ row ∈ rows, HasKey s.tags row.key) (imported : Nat) :
    ∃ t, csvRows.foldlM (importTagsRow deviceId driverType) imported s =
        (.ok (imported + csvRows.length), t) ∧ SameButTags s t ∧
      t.tags.rows.keys = s.tags.rows.keys ∧ t.tags.lastId = s.tags.lastId ∧
      Table.Keyed TagRow.key t.tags (d.update (rows.map fun row => (row.key, row))) := by
  induction csvRows generalizing s d rows imported with
  | nil =>
    cases hrows
    exact ⟨s, rfl, .refl s, rfl, rfl, hd⟩
  | cons csvRow csvRows ih =>
    cases hrows with
    | @cons _ row _ rows hrow hrows => ?_
    obtain ⟨tag, htag, htaken⟩ := hrow
    obtain ⟨id, old, hold, hkey, hid⟩ := hnamed row List.mem_cons_self
    obtain ⟨u, hupsert, htags⟩ := upsertTag_again hd htaken hold hkey hid
    obtain ⟨-, -, hsame, -⟩ := upsertTag_eq_ok hupsert
    have hupserted : Table.Upserted TagRow.key s.tags row id u.tags := .replaced hold hkey htags
    have hstep : importTagsRow deviceId driverType imported csvRow s = (.ok (imported + 1), u) := by
      rw [importTagsRow, htag, lift_ok_bind]
      exact Fallible.bind_eq_ok.mpr ⟨id, u, hupsert, rfl⟩
    obtain ⟨t, hrun, hsame', hids, hlast, hkeyed⟩ := ih (hupserted.keyed hd)
      (hsame.devices.symm ▸ hrows)
      (fun other hother => (hnamed other (List.mem_cons_of_mem row hother)).upserted hupserted)
      (imported + 1)
    refine ⟨t, ?_, hsame.trans hsame', ?_, ?_, hkeyed⟩
    · rw [List.foldlM_cons, bind_eq_of_ok hstep, hrun, List.length_cons, Nat.add_assoc, Nat.add_comm 1]
    · rw [hids, htags, Table.keys_update]
    · rw [hlast, htags, Table.lastId_update]

-- ---------------------------------------------------------------------------
-- The file
-- ---------------------------------------------------------------------------

/-- The tag is one of the device that a row of the file names. -/
def NamedTag (deviceId : Int) (csvText : String) (row : TagRow F) : Prop :=
  row.deviceId = deviceId ∧
    (row.tagGroup, row.name) ∈ (Csv.dictReader csvText).rows.map csvTagName

theorem map_key {devices : Table (DeviceRow F)} {driverType : String} {csvRows : List Csv.Row}
    {rows : List (TagRow F)} (h : List.Forall₂ (RowTaken devices deviceId driverType) csvRows rows) :
    rows.map TagRow.key = (csvRows.map csvTagName).map fun name => (deviceId, name) := by
  induction h with
  | nil => rfl
  | cons hrow _ ih => rw [List.map_cons, ih, hrow.key, List.map_cons, List.map_cons]

omit [PyRuntime F] in
theorem getDevice_congr (hdevices : t.devices = s.devices) {device : DeviceSpec F}
    (h : getDevice deviceId s = (.ok device, s)) : getDevice deviceId t = (.ok device, t) := by
  have hlist : t.listDevices = s.listDevices := by rw [listDevices, listDevices, hdevices]
  rw [getDevice, read_bind] at h ⊢
  rw [hlist]
  cases hfind : s.listDevices.find? fun d => d.id = some deviceId with
  | none =>
    rw [hfind] at h
    cases h
  | some found =>
    rw [hfind] at h
    obtain ⟨rfl, -⟩ := pure_eq_ok.mp h
    rfl

/-- A second import of a file gives the same count and the same store, and the first
one changes no more than the tags of the device that the file names. -/
theorem tag_import_idempotent {csvText : String} {count : Nat} (hunique : UniqueTagNames s.tags)
    (h : importTagsCsv deviceId csvText s = (.ok count, t)) :
    importTagsCsv deviceId csvText t = (.ok count, t) ∧ SameButTags s t ∧
      ∀ id row, ¬ NamedTag deviceId csvText row →
        (t.tags.get? id = some row ↔ s.tags.get? id = some row) := by
  obtain ⟨device, u, hdevice, hrows⟩ := Fallible.bind_eq_ok.mp h
  obtain rfl := readOnly_getDevice.state_eq hdevice
  obtain ⟨hcount, hsame, rows, htaken, hupserts⟩ := importTagsRows_eq_ok (forRows_eq_ok hrows)
  obtain ⟨d, hd⟩ := Table.exists_keyed (uniqueTagNames_iff.mp hunique)
  have hkeyed := hupserts.keyed d hd
  refine ⟨?_, hsame, fun id row hnamed => hupserts.others id row fun hmem => hnamed ?_⟩
  · -- the second run finds every name, and assigns the same rows again
    obtain ⟨v, hrun, hsame', hids, hlast, hkeyed'⟩ :=
      importTagsRows_again hkeyed (hsame.devices.symm ▸ htaken) hupserts.named 0
    rw [OrderedDict.update_update d rfl] at hkeyed'
    obtain rfl : v = t := hsame'.ext (hkeyed.ext hkeyed' hids hlast)
    rw [importTagsCsv, bind_eq_of_ok (getDevice_congr hsame.devices hdevice), forRows_of_ok hrows, hrun,
      hcount]
  · rw [map_key htaken, List.mem_map] at hmem
    obtain ⟨name, hname, hkey⟩ := hmem
    cases hkey
    exact ⟨rfl, hname⟩

/-- Two rows for a tag that is there. -/
def speedTwice : String :=
  "name,address,function,data_type\n" ++
  "speed,7,holding_register,uint16\n" ++
  "speed,9,holding_register,uint16\n"

def afterSpeedTwice : ConfigStore WholeFloat := (importTagsCsv 1 speedTwice plcWithSpeed).2

theorem speedTwice_imported :
    importTagsCsv 1 speedTwice plcWithSpeed = (.ok 2, afterSpeedTwice) := by
  have hcount : (importTagsCsv 1 speedTwice plcWithSpeed).1 = .ok 2 := by decide +kernel
  rw [afterSpeedTwice, ← hcount]

theorem speedTwice_idempotent :
    importTagsCsv 1 speedTwice afterSpeedTwice = (.ok 2, afterSpeedTwice) ∧
      SameButTags plcWithSpeed afterSpeedTwice ∧
      ∀ id row, ¬ NamedTag 1 speedTwice row →
        (afterSpeedTwice.tags.get? id = some row ↔ plcWithSpeed.tags.get? id = some row) := by
  have hreachable : Reachable (fun _ _ => True) plcWithSpeed :=
    plcWithSpeed_reachable (fun _ _ => trivial) fun _ _ _ => trivial
  exact tag_import_idempotent (storedRows_of_reachable hreachable).unique speedTwice_imported

end ConfigService

end IndustrialGateway
