import IndustrialGateway.ImportFailure
import IndustrialGateway.TagUpserts

/-!
# What a device import leaves alone

A device file adds devices and upserts the tags it names. Wherever its import
stops, the devices of the store are as they were, and so are the tags that the
file does not name, the routes and the sinks.
-/

namespace IndustrialGateway

open Fallible ConfigStore

variable {F : Type} {s t u : ConfigStore F}

def DeviceRow.key (row : DeviceRow F) : String × String := (row.deviceGroup, row.name)

namespace ConfigService

/-- The group and name of the device in a row of a device file. -/
def csvDeviceName (row : Csv.Row) : String × String :=
  (PyText.strip (cellOr row "device_group"),
    PyText.strip (cellOr row "device_name" (cellOr row "name")))

/-- The group and name of the tag in a row of a device file. -/
def csvDeviceTagName (row : Csv.Row) : String × String :=
  (PyText.strip (cellOr row "tag_group"), PyText.strip (cellOr row "tag_name"))

/-- A row of the file is about the device. -/
def DeviceInRows (csvRows : List Csv.Row) (device : DeviceRow F) : Prop :=
  ∃ csvRow ∈ csvRows, csvDeviceName csvRow = device.key

/-- A row of the file is about the tag of the device. -/
def TagInRows (csvRows : List Csv.Row) (device : DeviceRow F) (tag : TagRow F) : Prop :=
  ∃ csvRow ∈ csvRows, csvDeviceName csvRow = device.key ∧
    csvDeviceTagName csvRow = (tag.tagGroup, tag.name)

-- ---------------------------------------------------------------------------
-- The frame
-- ---------------------------------------------------------------------------

/-- The import of the rows has damaged nothing of the store. -/
structure Undamaged (csvRows : List Csv.Row) (s t : ConfigStore F) : Prop where
  devices : ∀ id row, s.devices.get? id = some row → t.devices.get? id = some row
  tags : ∀ id row device, s.tags.get? id = some row → s.devices.get? row.deviceId = some device →
    ¬ TagInRows csvRows device row → t.tags.get? id = some row
  added : ∀ id row, s.devices.get? id = none → t.devices.get? id = some row →
    DeviceInRows csvRows row ∧ ∀ j old, s.devices.get? j = some old → old.key ≠ row.key
  outputRoutes : t.outputRoutes = s.outputRoutes
  sinkConfigs : t.sinkConfigs = s.sinkConfigs
  sinkSelection : t.sinkSelection = s.sinkSelection
  mqttConfig : t.mqttConfig = s.mqttConfig

variable {csvRows : List Csv.Row}

theorem Undamaged.refl (csvRows : List Csv.Row) (s : ConfigStore F) : Undamaged csvRows s s where
  devices _ _ h := h
  tags _ _ _ h _ _ := h
  added id row hnone h := by
    rw [hnone] at h
    cases h
  outputRoutes := rfl
  sinkConfigs := rfl
  sinkSelection := rfl
  mqttConfig := rfl

theorem Undamaged.insertDevice (h : Undamaged csvRows s t) {row : DeviceRow F}
    (hnamed : DeviceInRows csvRows row)
    (hnew : ∀ j old, t.devices.get? j = some old → old.key ≠ row.key) :
    Undamaged csvRows s (t.insertDevice row) where
  devices id old hold := Table.get?_insert_of_eq_some (h.devices id old hold) row
  tags := h.tags
  added id found hnone hfound := by
    have hfound := (Table.get?_insert ..).symm.trans hfound
    split at hfound
    · cases hfound
      exact ⟨hnamed, fun j old hold => hnew j old (h.devices j old hold)⟩
    · exact h.added id found hnone hfound
  outputRoutes := h.outputRoutes
  sinkConfigs := h.sinkConfigs
  sinkSelection := h.sinkSelection
  mqttConfig := h.mqttConfig

theorem Undamaged.upsertTag (h : Undamaged csvRows s t) (hsame : SameButTags t u)
    {row : TagRow F} {id : Int} (hrow : Table.Upserted TagRow.key t.tags row id u.tags)
    {device : DeviceRow F} (hdevice : t.devices.get? row.deviceId = some device)
    (hnamed : TagInRows csvRows device row) : Undamaged csvRows s u where
  devices := hsame.devices ▸ h.devices
  tags j old owner hold howner hunnamed := by
    refine (hrow.get?_of_ne fun hkey => hunnamed ?_).mpr (h.tags j old owner hold howner hunnamed)
    simp only [TagRow.key, Prod.mk.injEq] at hkey
    obtain ⟨hid, hgroup, hname⟩ := hkey
    have howner := h.devices _ _ howner
    rw [hid, hdevice] at howner
    cases howner
    rw [TagInRows, hgroup, hname]
    exact hnamed
  added := hsame.devices ▸ h.added
  outputRoutes := hsame.outputRoutes.trans h.outputRoutes
  sinkConfigs := hsame.sinkConfigs.trans h.sinkConfigs
  sinkSelection := hsame.sinkSelection.trans h.sinkSelection
  mqttConfig := hsame.mqttConfig.trans h.mqttConfig

-- ---------------------------------------------------------------------------
-- The dictionary of the devices
-- ---------------------------------------------------------------------------

/-- The dictionary has a device for each key of the store, and no other keys. -/
structure KnowsDevices (known : OrderedDict (String × String) (DeviceSpec F))
    (devices : Table (DeviceRow F)) : Prop where
  stored : ∀ key existing, known.get? key = some existing →
    ∃ id row, existing.id = some id ∧ devices.get? id = some row ∧ row.key = key
  known : ∀ id row, devices.get? id = some row → row.key ∈ known.keys

theorem knowsDevices_devicesByKey (s : ConfigStore F) : KnowsDevices (devicesByKey s) s.devices where
  stored key existing hget := by
    rw [devicesByKey, OrderedDict.get?_ofList] at hget
    obtain ⟨⟨k, device⟩, hlast, rfl⟩ := Option.map_eq_some_iff.mp hget
    obtain ⟨hmem, hkey⟩ := List.mem_filter.mp (List.mem_of_getLast? hlast)
    obtain ⟨found, hfound, heq⟩ := List.mem_map.mp hmem
    cases heq
    obtain ⟨id, row, hrow, rfl⟩ := mem_listDevices.mp hfound
    exact ⟨id, row, rfl, hrow, of_decide_eq_true hkey⟩
  known id row hrow := by
    rw [devicesByKey, OrderedDict.mem_keys_ofList, List.map_map]
    exact List.mem_map.mpr ⟨row.spec id, mem_listDevices.mpr ⟨id, row, hrow, rfl⟩, rfl⟩

theorem KnowsDevices.insert {known : OrderedDict (String × String) (DeviceSpec F)}
    {devices : Table (DeviceRow F)} (h : KnowsDevices known devices) {row : DeviceRow F}
    {device : DeviceSpec F} (hid : device.id = some devices.nextId) :
    KnowsDevices (known.set row.key device) (devices.insert row) where
  stored key existing hget := by
    rw [OrderedDict.get?_set] at hget
    split at hget
    · rename_i hkey
      cases hget
      exact ⟨_, row, hid, by rw [Table.get?_insert, if_pos rfl], hkey⟩
    · obtain ⟨id, old, hid, hold, hkey⟩ := h.stored key existing hget
      exact ⟨id, old, hid, Table.get?_insert_of_eq_some hold row, hkey⟩
  known id found hfound := by
    rw [OrderedDict.mem_keys_set]
    rw [Table.get?_insert] at hfound
    split at hfound
    · cases hfound
      exact .inl rfl
    · exact .inr (h.known id found hfound)

-- ---------------------------------------------------------------------------
-- The import
-- ---------------------------------------------------------------------------

variable [PyRuntime F]

/-- Between two rows nothing is damaged and the importer knows the devices. -/
structure BetweenRows (csvRows : List Csv.Row) (s : ConfigStore F) (state : DeviceImport F)
    (t : ConfigStore F) : Prop where
  undamaged : Undamaged csvRows s t
  knows : KnowsDevices state.devicesByKey t.devices

/-- The store has the device, under the key. -/
def HasDevice (devices : Table (DeviceRow F)) (key : String × String) (device : DeviceSpec F) : Prop :=
  ∃ id row, device.id = some id ∧ devices.get? id = some row ∧ row.key = key

theorem deviceImportKey_of_row {csvRow : Csv.Row} {device : DeviceSpec F}
    (h : deviceFromCsvRow csvRow = .ok device) : deviceImportKey device = csvDeviceName csvRow := by
  simp only [deviceFromCsvRow, bind_eq_ok, pure, Except.pure, Except.ok.injEq] at h
  obtain ⟨_, -, _, -, rfl⟩ := h
  rfl

/-- A device comes from the dictionary, or is saved under a new key. -/
theorem importDevice_triple {state : DeviceImport F} {device : DeviceSpec F} {csvRow : Csv.Row}
    (hmem : csvRow ∈ csvRows) (hdevice : deviceFromCsvRow csvRow = .ok device) :
    Triple (BetweenRows csvRows s state) (importDevice state device)
      (fun r t => BetweenRows csvRows s r.2 t ∧ HasDevice t.devices (csvDeviceName csvRow) r.1)
      (Undamaged csvRows s) := by
  have hkey := deviceImportKey_of_row hdevice
  rw [importDevice, hkey]
  cases hknown : state.devicesByKey.get? (csvDeviceName csvRow) with
  | some existing =>
    refine Triple.bind (Q := fun _ => BetweenRows csvRows s state)
      (.lift (fun _ _ _ ht => ht) fun _ _ _ ht => ht.undamaged) fun _ => .pure fun t ht => ?_
    exact ⟨ht, ht.knows.stored _ existing hknown⟩
  | none =>
    refine Triple.bind (Q := fun id t => ∃ v row, BetweenRows csvRows s state v ∧
      deviceRow device = .ok row ∧ v.devices.nextId = id ∧ t = v.insertDevice row)
      (.atomic (atomic_saveDevice device) (fun v id t hv hsave => ?_) fun v hv => hv.undamaged)
      fun id => .pure ?_
    · obtain ⟨-, row, hrow, hfresh, rfl⟩ :=
        (saveDevice_insert (deviceFromCsvRow_id hdevice)).mp hsave
      exact ⟨v, row, hv, hrow, (nextRowId_eq_ok.mp hfresh).2, rfl⟩
    · rintro t ⟨v, row, hv, hrow, rfl, rfl⟩
      have hrowKey : row.key = csvDeviceName csvRow := by
        have hspec := deviceRow_eq_ok hrow 0
        exact (Prod.ext (congrArg DeviceSpec.deviceGroup hspec) (congrArg DeviceSpec.name hspec)).trans
          hkey
      have hnew : ∀ j old, v.devices.get? j = some old → old.key ≠ row.key := by
        intro j old hold heq
        have hmem := hv.knows.known j old hold
        rw [heq, hrowKey] at hmem
        exact OrderedDict.get?_eq_none.mp hknown hmem
      refine ⟨⟨hv.undamaged.insertDevice ⟨csvRow, hmem, hrowKey.symm⟩ hnew, ?_⟩, ?_⟩
      · exact hrowKey ▸ hv.knows.insert rfl
      · exact ⟨_, row, rfl, (Table.get?_insert ..).trans (if_pos rfl), hrowKey⟩

theorem importDevicesRow_triple {csvRow : Csv.Row} (hmem : csvRow ∈ csvRows)
    (state : DeviceImport F) :
    Triple (BetweenRows csvRows s state) (importDevicesRow state csvRow) (BetweenRows csvRows s)
      (Undamaged csvRows s) := by
  refine Triple.bind (Q := fun device t => deviceFromCsvRow csvRow = .ok device ∧
    BetweenRows csvRows s state t) (.lift (fun _ _ hdevice ht => ⟨hdevice, ht⟩)
      fun _ _ _ ht => ht.undamaged) fun device => .of_and fun hdevice => ?_
  refine (importDevice_triple hmem hdevice).bind fun ⟨existing, state⟩ => ?_
  simp only
  split
  · exact .pure fun _ ht => ht.1
  refine Triple.bind (Q := fun tag t => tagFromCsvRow csvRow existing.driverType "tag_name" = .ok tag ∧
    BetweenRows csvRows s state t ∧ HasDevice t.devices (csvDeviceName csvRow) existing)
    (.lift (fun _ _ htag ht => ⟨htag, ht⟩) fun _ _ _ ht => ht.1.undamaged)
    fun tag => .of_and fun htag => ?_
  refine Triple.bind (Q := fun _ => BetweenRows csvRows s state)
    (.atomic (atomic_upsertTag _ tag) ?_ fun t ht => ht.1.undamaged) fun _ => .pure fun t ht => ⟨ht.1, ht.2⟩
  rintro t id u ⟨ht, deviceId, device, hid, hdevice, hkey⟩ hupsert
  obtain ⟨row, htaken, hsame, hrow, -⟩ := upsertTag_eq_ok hupsert
  obtain ⟨hgroup, hname⟩ := tagFromCsvRow_name htag
  have hrowKey := htaken.key
  rw [hid, Option.getD_some, hgroup, hname] at hrowKey
  simp only [TagRow.key, Prod.mk.injEq] at hrowKey
  obtain ⟨hrowDevice, hrowName⟩ := hrowKey
  have hrowDevice : t.devices.get? row.deviceId = some device := hrowDevice ▸ hdevice
  have hnamed : TagInRows csvRows device row :=
    ⟨csvRow, hmem, hkey.symm, Prod.ext hrowName.1.symm hrowName.2.symm⟩
  exact ⟨ht.undamaged.upsertTag hsame hrow hrowDevice hnamed, hsame.devices ▸ ht.knows⟩

omit [PyRuntime F] in
theorem forRows_triple {body : β → Csv.Row → StoreAct F β} {I : β → ConfigStore F → Prop}
    {E : ConfigStore F → Prop} {csvText : String}
    (h : ∀ state, ∀ row ∈ (Csv.dictReader csvText).rows, Triple (I state) (body state row) I E)
    (hE : ∀ state t, I state t → E t) (init : β) : Triple (I init) (forRows csvText init body) I E := by
  have hraise {Q : β → ConfigStore F → Prop} (e : PyException) (state : β) :
      Triple (I state) (.raise e : StoreAct F β) Q E :=
    .lift (fun _ _ h => (nomatch h)) fun _ t _ ht => hE state t ht
  rw [forRows]
  split
  · exact hraise _ init
  · exact hraise _ init
  · refine (Triple.foldlM h init).bind fun state => ?_
    split
    · exact hraise _ state
    · exact .pure fun _ ht => ht

/-- Wherever the import of a device file stops, it has damaged nothing. -/
theorem importDevicesCsv_undamaged (csvText : String) (s : ConfigStore F) :
    Undamaged (Csv.dictReader csvText).rows s (importDevicesCsv csvText s).2 := by
  have hstart : BetweenRows (Csv.dictReader csvText).rows s ⟨devicesByKey s, 0, 0⟩ s :=
    ⟨.refl _ s, knowsDevices_devicesByKey s⟩
  have hrows (init : DeviceImport F) : Triple (BetweenRows (Csv.dictReader csvText).rows s init)
      (forRows csvText init importDevicesRow) (BetweenRows (Csv.dictReader csvText).rows s)
      (Undamaged (Csv.dictReader csvText).rows s) :=
    forRows_triple (fun state row hmem => importDevicesRow_triple hmem state)
      (fun _ _ ht => ht.undamaged) init
  rw [importDevicesCsv, read_bind]
  refine Triple.final (Triple.bind (hrows _) fun _ => ?_) hstart
  exact .pure fun _ ht => ht.undamaged

end ConfigService

end IndustrialGateway
