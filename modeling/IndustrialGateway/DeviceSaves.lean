import IndustrialGateway.ModbusPlanning
import IndustrialGateway.TagUpserts

/-!
# Saving a device unchanged

An edit builds the connection of a device from the settings of its driver. The
Modbus drivers still read `unit_id` from the connection for tags without one of
their own, and no driver has that setting any more. So the save of a device as it
is keeps the reads of every set of its tags exactly when the connection already
means unit 1, or no tag falls back on it, or no read gets past the settings.
-/

namespace IndustrialGateway

open ConfigStore Fallible

variable {F : Type}

-- ---------------------------------------------------------------------------
-- Planned reads
-- ---------------------------------------------------------------------------

namespace Modbus

/-- What a block asks the client for. -/
def ReadBlock.request (block : ReadBlock F) : String × Int × Int × Int :=
  (block.function, block.unitId, block.start, block.count)

/-- A tag that can be read has a unit of its own. -/
def OwnUnit (tag : TagSpec F) : Prop :=
  tag.function ∈ modbusFunctions → ∃ n, tag.unitId = some n ∧ n ≠ 0

instance (tag : TagSpec F) : Decidable (OwnUnit tag) :=
  match h : tag.unitId with
  | none => decidable_of_iff (tag.function ∉ modbusFunctions) (by simp [OwnUnit, h])
  | some n => decidable_of_iff (tag.function ∈ modbusFunctions → n ≠ 0) (by simp [OwnUnit, h])

theorem get?_limits_eq_none {function : String} {r b : Int} :
    (limits r b).get? function = none ↔ function ∉ modbusFunctions := by
  rw [OrderedDict.get?_eq_none]
  rfl

theorem OwnUnit.unitOf_eq {tag : TagSpec F} (h : OwnUnit tag) (hf : tag.function ∈ modbusFunctions)
    (u v : Int) : unitOf u tag = unitOf v tag := by
  obtain ⟨n, hn, hne⟩ := h hf
  simp [unitOf, intOr, hn, hne]

theorem unitOf_of_not_ownUnit {tag : TagSpec F} (h : ¬OwnUnit tag) (u : Int) : unitOf u tag = u := by
  rw [OwnUnit, Classical.not_imp] at h
  rw [unitOf]
  cases hunit : tag.unitId with
  | none => rfl
  | some n =>
    have hn : n = 0 := by
      by_contra hne
      exact h.2 ⟨n, hunit, hne⟩
    rw [intOr, if_pos hn]

variable [PyRuntime F]

/-- The requests of a read, in order. -/
def plannedReads (connection : OrderedDict String (PyValue F)) (tags : List (TagSpec F)) :
    Except PyException (List (String × Int × Int × Int)) :=
  (requestedBlocks connection tags).map (List.map ReadBlock.request)

/-- The plan of tags with a function that cannot be read fails at the first of them. -/
theorem planBlocks_eq_error {tags : List (TagSpec F)} {tag : TagSpec F} {r b : Int}
    (hfind : (tags.find? fun tag => tag.function ∉ modbusFunctions) = some tag) (u gap : Int) :
    planBlocks tags u gap (limits r b) =
      .error ⟨.keyError, PyRuntime.reprStr F tag.function⟩ := by
  let key (tag : TagSpec F) : String × Int := (tag.function, unitOf u tag)
  let unread (entry : (String × Int) × List (TagSpec F)) : Bool := entry.1.1 ∉ modbusFunctions
  have hkeys : ((OrderedDict.groupBy key tags).keys.find? fun k => k.1 ∉ modbusFunctions) =
      some (key tag) := by
    rw [OrderedDict.find?_keys_groupBy, List.find?_map]
    exact congrArg (Option.map key) hfind
  rw [OrderedDict.keys, List.find?_map] at hkeys
  obtain ⟨entry, hentry, hkey⟩ := Option.map_eq_some_iff.mp hkeys
  have hitem : item (F := F) (limits r b) entry.1.1 =
      .error ⟨.keyError, PyRuntime.reprStr F tag.function⟩ := by
    have hunread := List.find?_some hentry
    simp only [Function.comp_apply, decide_eq_true_eq] at hunread
    rw [item, get?_limits_eq_none.mpr hunread, hkey]
  rw [planBlocks]
  simp only
  rw [mapM_eq_error (p := unread) (x := entry) (e := ⟨.keyError, PyRuntime.reprStr F tag.function⟩)
    ?_ hentry (by simp only [hitem]; rfl)]
  · rfl
  · intro y _ hy
    obtain ⟨n, hn⟩ := get?_limits (r := r) (b := b) (by simpa [unread] using hy)
    exact ⟨_, by rw [item, hn]; rfl⟩

/-- Where the tags have units of their own, the default of the connection plans nothing. -/
theorem planBlocks_of_ownUnit {tags : List (TagSpec F)} (h : ∀ tag ∈ tags, OwnUnit tag)
    (u v gap r b : Int) :
    planBlocks tags u gap (limits r b) = planBlocks tags v gap (limits r b) := by
  cases hfind : tags.find? fun tag => tag.function ∉ modbusFunctions with
  | some tag => rw [planBlocks_eq_error hfind, planBlocks_eq_error hfind]
  | none =>
    have hread : ∀ tag ∈ tags, tag.function ∈ modbusFunctions := by
      simpa using List.find?_eq_none.mp hfind
    have hgroups : OrderedDict.groupBy (fun tag => (tag.function, unitOf u tag)) tags =
        OrderedDict.groupBy (fun tag => (tag.function, unitOf v tag)) tags :=
      OrderedDict.groupBy_congr fun tag ht => by rw [(h tag ht).unitOf_eq (hread tag ht) u v]
    rw [planBlocks, planBlocks, hgroups]

/-- One tag is read in one request. -/
theorem planBlocks_singleton {tag : TagSpec F} (h : tag.function ∈ modbusFunctions)
    (u gap r b : Int) :
    (planBlocks [tag] u gap (limits r b)).map (List.map ReadBlock.request) =
      .ok [(tag.function, unitOf u tag, tag.address, itemCount tag)] := by
  obtain ⟨n, hn⟩ := get?_limits h r b
  have hgroup : (OrderedDict.groupBy (fun tag : TagSpec F => (tag.function, unitOf u tag))
      [tag]).entries = [((tag.function, unitOf u tag), [tag])] := rfl
  rw [planBlocks]
  simp only [hgroup, List.mapM_cons, List.mapM_nil, item, hn, ok_bind]
  have hcount : tag.address + itemCount tag - tag.address = itemCount tag := by omega
  simp [mergeBlocks, mergeFrom, sortByAddress, ReadBlock.request, hcount, pure, Except.pure, bind,
    Except.bind, Except.map]

-- ---------------------------------------------------------------------------
-- Normalised connections
-- ---------------------------------------------------------------------------

def modbusDrivers : List String := ["modbus_tcp", "modbus_serial"]

/-- What a read takes from a connection once its settings are those of the driver. -/
structure Normalized (old new : OrderedDict String (PyValue F)) : Prop where
  gap : intSetting new "max_block_gap" 4 = intSetting old "max_block_gap" 4
  counts : maxCountsFromConnection new = maxCountsFromConnection old
  unitId : intSetting new "unit_id" 1 = .ok 1

theorem fields_modbusDrivers {driverType : String} (h : driverType ∈ modbusDrivers) :
    (∀ field ∈ commonModbusLimits, field ∈ connectionFieldsForDriver driverType) ∧
      "unit_id" ∉ (connectionFieldsForDriver driverType).map ConnectionField.key := by
  simp only [modbusDrivers, List.mem_cons, List.not_mem_nil, or_false] at h
  rcases h with rfl | rfl <;> decide

theorem normalized_of_schema {driverType : String} (hdriver : driverType ∈ modbusDrivers)
    {old new : OrderedDict String (PyValue F)}
    (h : normalizeConnectionForDriver driverType (.dict old.entries) = .ok new) :
    Normalized old new := by
  obtain ⟨hlimits, hunit⟩ := fields_modbusDrivers hdriver
  obtain ⟨connection, hconnection, hget⟩ := normalizeConnection_dict driverType old.entries
  obtain rfl := Except.ok.inj (h.symm.trans hconnection)
  have hlimit := fun field hf => hget field (hlimits field hf)
  simp only [commonModbusLimits, List.forall_mem_cons] at hlimit
  obtain ⟨hgap, hregisters, hbits, -⟩ := hlimit
  constructor
  · rw [intSetting, hgap, intSetting, OrderedDict.get?]
    cases OrderedDict.lookup "max_block_gap" old.entries <;> rfl
  · rw [maxCountsFromConnection, hregisters, hbits, maxCountsFromConnection, OrderedDict.get?,
      OrderedDict.get?]
    cases OrderedDict.lookup "max_registers_per_read" old.entries <;>
      cases OrderedDict.lookup "max_bits_per_read" old.entries <;> rfl
  · have hnone : new.get? "unit_id" = none := by
      rw [OrderedDict.get?_eq_none, keys_normalizeConnection h]
      exact hunit
    rw [intSetting, hnone]

/-- The connections whose reads do not depend on the unit that they give. -/
inductive ReadsKept (connection : OrderedDict String (PyValue F)) (tags : List (TagSpec F)) : Prop
  | gap (e : PyException) (h : intSetting connection "max_block_gap" 4 = .error e)
  | limits (e : PyException) (h : maxCountsFromConnection connection = .error e)
  | first (h : intSetting connection "unit_id" 1 = .ok 1)
  | own (unitId : Int) (h : intSetting connection "unit_id" 1 = .ok unitId)
    (htags : ∀ tag ∈ tags, OwnUnit tag)

theorem limits_of_maxCounts {connection : OrderedDict String (PyValue F)} {maxCounts : MaxCounts}
    (h : maxCountsFromConnection connection = .ok maxCounts) : ∃ r b, maxCounts = limits r b := by
  simp only [maxCountsFromConnection, bind_eq_ok] at h
  obtain ⟨registers, -, bits, -, hcounts⟩ := h
  cases hcounts
  exact ⟨_, _, rfl⟩

theorem plannedReads_eq {connection : OrderedDict String (PyValue F)} {gap unitId : Int}
    {maxCounts : MaxCounts} (hgap : intSetting connection "max_block_gap" 4 = .ok gap)
    (hcounts : maxCountsFromConnection connection = .ok maxCounts)
    (hunit : intSetting connection "unit_id" 1 = .ok unitId) (tags : List (TagSpec F)) :
    plannedReads connection tags =
      (planBlocks tags unitId gap maxCounts).map (List.map ReadBlock.request) := by
  rw [plannedReads, requestedBlocks, readSettings, hgap, hcounts, hunit]
  rfl

/-- Every set of the tags is read as before exactly when the unit of the connection
does not matter to them. -/
theorem Normalized.plannedReads_iff {old new : OrderedDict String (PyValue F)}
    (h : Normalized old new) (tags : List (TagSpec F)) :
    (∀ chosen, chosen.Sublist tags → plannedReads new chosen = plannedReads old chosen) ↔
      ReadsKept old tags := by
  cases hgap : intSetting old "max_block_gap" 4 with
  | error e =>
    refine ⟨fun _ => .gap e hgap, fun _ chosen _ => ?_⟩
    rw [plannedReads, requestedBlocks, readSettings, h.gap, hgap, plannedReads, requestedBlocks,
      readSettings, hgap]
    rfl
  | ok gap =>
    cases hcounts : maxCountsFromConnection old with
    | error e =>
      refine ⟨fun _ => .limits e hcounts, fun _ chosen _ => ?_⟩
      rw [plannedReads, requestedBlocks, readSettings, h.gap, hgap, h.counts, hcounts, plannedReads,
        requestedBlocks, readSettings, hgap, hcounts]
      rfl
    | ok maxCounts =>
      obtain ⟨r, b, rfl⟩ := limits_of_maxCounts hcounts
      have hnew := plannedReads_eq (h.gap.trans hgap) (h.counts.trans hcounts) h.unitId
      constructor
      · intro hkept
        cases hunit : intSetting old "unit_id" 1 with
        | error e =>
          -- no tags are read from the new connection, while the old one gives an error
          have hnil := hkept [] (List.nil_sublist tags)
          rw [hnew, plannedReads, requestedBlocks, readSettings, hgap, hcounts, hunit] at hnil
          cases hnil
        | ok unitId =>
          by_cases hfirst : unitId = 1
          · exact .first (hfirst ▸ hunit)
          · refine .own unitId hunit fun tag ht => ?_
            by_contra howned
            have hread : tag.function ∈ modbusFunctions := (Classical.not_imp.mp howned).1
            have hone := hkept [tag] (List.singleton_sublist.mpr ht)
            rw [hnew, plannedReads_eq hgap hcounts hunit, planBlocks_singleton hread,
              planBlocks_singleton hread, unitOf_of_not_ownUnit howned,
              unitOf_of_not_ownUnit howned] at hone
            cases hone
            exact hfirst rfl
      · rintro hcond chosen hchosen
        cases hcond with
        | gap e he => cases hgap.symm.trans he
        | limits e he => cases hcounts.symm.trans he
        | first hunit => rw [hnew, plannedReads_eq hgap hcounts hunit]
        | own unitId hunit htags =>
          rw [hnew, plannedReads_eq hgap hcounts hunit,
            planBlocks_of_ownUnit fun tag ht => htags tag (hchosen.subset ht)]

end Modbus

-- ---------------------------------------------------------------------------
-- Saves
-- ---------------------------------------------------------------------------

namespace ConfigService

/-- `_device_to_dict`. -/
def deviceToDict (device : DeviceSpec F) : Settings F :=
  .ofList [
    ("id", match device.id with
      | some id => .int id
      | none => .none),
    ("device_group", .str device.deviceGroup),
    ("name", .str device.name),
    ("driver_type", .str device.driverType),
    ("enabled", .bool device.enabled),
    ("poll_interval_ms", .int device.pollIntervalMs),
    ("connection", .dict device.connection.entries)]

variable [PyRuntime F]

/-- `update_device(id, get_device(id))`. -/
def resaveDevice (deviceId : Int) : StoreAct F (DeviceSpec F) := do
  let device ← getDevice deviceId
  updateDevice deviceId (deviceToDict device)

variable {s t : ConfigStore F} {id : Int} {row : DeviceRow F}

omit [PyRuntime F] in
theorem getDevice_of_row (h : s.devices.get? id = some row) :
    getDevice id s = (.ok (row.spec id), s) := by
  rw [getDevice, read_bind, find?_listDevices, h]
  rfl

theorem valueOr_dict (kvs : List (String × PyValue F)) :
    valueOr (.dict kvs) (.dict []) = .dict kvs := by
  cases kvs <;> rfl

theorem deviceFromPayload_toDict (device : DeviceSpec F) (id : Int)
    {connection : OrderedDict String (PyValue F)}
    (h : normalizeConnectionForDriver device.driverType (.dict device.connection.entries) =
      .ok connection) :
    deviceFromPayload (some id) (deviceToDict device) =
      .ok { device with id := some id, connection } := by
  have hdriver : required (deviceToDict device) "driver_type" = .ok (.str device.driverType) := rfl
  have hname : required (deviceToDict device) "name" = .ok (.str device.name) := rfl
  have hconnection : optional (deviceToDict device) "connection" =
    .dict device.connection.entries := rfl
  rw [deviceFromPayload, hdriver, ok_bind]
  simp only [hname, hconnection, valueOr_dict, PyValue.text, h, ok_bind]
  rfl

/-- A row that `save_device` takes, whatever settings its connection has. -/
structure SavedDevice (id : Int) (row : DeviceRow F) : Prop where
  valid : validateDevice (row.spec id) = .ok ()
  row : deviceRow (row.spec id) = .ok row
  id : sqlInteger id = .ok ()

def SavedDevices (s : ConfigStore F) : Prop :=
  ∀ id row, s.devices.get? id = some row → SavedDevice id row

omit [PyRuntime F] in
theorem savedDevice_of_written {device : DeviceSpec F} (hvalid : validateDevice device = .ok ())
    (hrow : deviceRow device = .ok row) (hid : sqlInteger id = .ok ()) : SavedDevice id row := by
  have hspec := deviceRow_eq_ok hrow id
  refine ⟨?_, ?_, hid⟩
  · rw [hspec]
    exact hvalid
  · rw [hspec]
    exact hrow

omit [PyRuntime F] in
theorem SavedDevices.saveDevice (hdevices : SavedDevices s) {device : DeviceSpec F}
    (h : saveDevice device s = (.ok id, t)) : SavedDevices t := by
  intro i row hi
  cases hid : device.id with
  | none =>
    obtain ⟨hvalid, written, hwritten, hfresh, rfl⟩ := (saveDevice_insert hid).mp h
    have hi := (Table.get?_insert ..).symm.trans hi
    split at hi
    · rename_i hnew
      cases hi
      have hbound := sqlInteger_nextRowId hfresh
      rw [← (nextRowId_eq_ok.mp hfresh).2, hnew] at hbound
      exact savedDevice_of_written hvalid hwritten hbound
    · exact hdevices i row hi
  | some j =>
    obtain ⟨hvalid, written, hwritten, hj, rfl, rfl⟩ := (saveDevice_update hid).mp h
    have hi := (Table.get?_update ..).symm.trans hi
    split at hi
    · rename_i hsame
      obtain ⟨old, -, rfl⟩ := Option.map_eq_some_iff.mp hi
      exact savedDevice_of_written hvalid hwritten (hsame ▸ hj)
    · exact hdevices i row hi

/-- The service writes no other rows. -/
theorem savedDevices_of_stored (h : StoredRows s) : SavedDevices s := by
  intro id row hrow
  obtain ⟨device, hdevice⟩ := h.device id row hrow
  have hbounds := s.devices.bounded id (OrderedDict.mem_keys_iff.mpr ⟨row, hrow⟩)
  have hids := h.deviceIds
  exact savedDevice_of_written hdevice.valid hdevice.row (sqlInteger_eq_ok.mpr (by omega))

/-- The normaliser leaves settings that can be stored again. -/
theorem checkJson_normalized {driverType : String} {old new : OrderedDict String (PyValue F)}
    (h : normalizeConnectionForDriver driverType (.dict old.entries) = .ok new)
    (hold : PyValue.checkJsonDict old.entries = .ok ()) :
    PyValue.checkJsonDict new.entries = .ok () := by
  obtain ⟨values, hvalues, hget⟩ := normalizeConnection_dict driverType old.entries
  obtain rfl := Except.ok.inj (h.symm.trans hvalues)
  rw [PyValue.checkJsonDict_eq_ok] at hold ⊢
  rintro ⟨key, value⟩ hmem
  have hkey : key ∈ new.keys := List.mem_map_of_mem hmem
  rw [keys_normalizeConnection h] at hkey
  obtain ⟨field, hfield, rfl⟩ := List.mem_map.mp hkey
  have hvalue := hget field hfield
  rw [OrderedDict.get?_eq_some.mpr hmem] at hvalue
  obtain rfl := Option.some.inj hvalue
  cases hlookup : OrderedDict.lookup field.key old.entries with
  | none => cases field.default <;> rfl
  | some kept => exact hold _ (OrderedDict.mem_of_lookup hlookup)

/-- A save of a device as it is succeeds and changes nothing but its connection. -/
theorem resaveDevice_eq (hrow : s.devices.get? id = some row) (hsaved : SavedDevice id row) :
    ∃ connection,
      normalizeConnectionForDriver row.driverType (.dict row.connection.entries) = .ok connection ∧
      resaveDevice id s = (.ok ({ row with connection }.spec id),
        s.updateDevice id { row with connection }) := by
  obtain ⟨connection, hconnection, -⟩ :=
    normalizeConnection_dict row.driverType row.connection.entries
  refine ⟨connection, hconnection, ?_⟩
  have hpayload := deviceFromPayload_toDict (row.spec id) id hconnection
  obtain ⟨u, hjson, hrest⟩ := bind_eq_ok.mp hsaved.row
  obtain ⟨u', hinterval, -⟩ := bind_eq_ok.mp hrest
  have hnew : deviceRow { row.spec id with id := some id, connection } =
      .ok { row with connection } := by
    rw [deviceRow, checkJson_normalized hconnection hjson, ok_bind, hinterval]
    rfl
  have hsave : saveDevice { row.spec id with id := some id, connection } s =
      (.ok id, s.updateDevice id { row with connection }) :=
    (saveDevice_update rfl).mpr ⟨hsaved.valid, _, hnew, hsaved.id, rfl, rfl⟩
  have hfound : (s.updateDevice id { row with connection }).devices.get? id =
      some { row with connection } := by
    rw [ConfigStore.updateDevice, Table.get?_update, if_pos rfl, hrow]
    rfl
  rw [resaveDevice, bind_eq_of_ok (getDevice_of_row hrow), updateDevice,
    bind_eq_of_ok (getDevice_of_row hrow), hpayload, lift_ok_bind, bind_eq_of_ok hsave,
    getDevice_of_row hfound]

/-- The save of a Modbus device as it is succeeds, and the driver then reads every
set of its tags as before exactly when the unit of its connection does not matter. -/
theorem resaved_reads_iff (hrow : s.devices.get? id = some row) (hsaved : SavedDevice id row)
    (hdriver : row.driverType ∈ Modbus.modbusDrivers) :
    ∃ device t, resaveDevice id s = (.ok device, t) ∧
      t = s.updateDevice id { row with connection := device.connection } ∧
      ∀ tags, (∀ chosen, chosen.Sublist tags →
          Modbus.plannedReads device.connection chosen = Modbus.plannedReads row.connection chosen) ↔
        Modbus.ReadsKept row.connection tags := by
  obtain ⟨connection, hconnection, hresaved⟩ := resaveDevice_eq hrow hsaved
  exact ⟨_, _, hresaved, rfl, (Modbus.normalized_of_schema hdriver hconnection).plannedReads_iff⟩

-- ---------------------------------------------------------------------------
-- A device of an earlier version
-- ---------------------------------------------------------------------------

/-- A press with its unit in the connection, as earlier versions stored it. -/
def oldPress : DeviceSpec WholeFloat :=
  { id := none, name := "press", driverType := "modbus_tcp", enabled := true,
    pollIntervalMs := 1000,
    connection := .ofList [("host", .str "10.0.0.5"), ("port", .int 502), ("unit_id", .int 3)] }

def oldStore : ConfigStore WholeFloat := (saveDevice oldPress initialized).2

def oldPressRow : DeviceRow WholeFloat :=
  ⟨"", "press", "modbus_tcp", true, 1000, oldPress.connection⟩

/-- A tag that leaves its unit to the connection. -/
def pressSpeed : TagSpec WholeFloat :=
  { name := "speed", address := 100, function := "holding_register", dataType := "uint16",
    scale := ⟨1⟩, offset := ⟨0⟩ }

theorem oldStore_press : oldStore.devices.get? 1 = some oldPressRow := by decide +kernel

theorem oldPress_saved : SavedDevice 1 oldPressRow := by
  have hempty : SavedDevices (initialized : ConfigStore WholeFloat) := fun _ _ h => (nomatch h)
  have hsaved : saveDevice oldPress initialized = (.ok 1, oldStore) := by
    have hfirst : (saveDevice oldPress initialized).1 = .ok 1 := by decide +kernel
    exact Prod.ext hfirst rfl
  exact hempty.saveDevice hsaved 1 oldPressRow oldStore_press

theorem oldPress_reads_iff :
    ∃ device t, resaveDevice 1 oldStore = (.ok device, t) ∧
      t = oldStore.updateDevice 1 { oldPressRow with connection := device.connection } ∧
      ∀ tags, (∀ chosen, chosen.Sublist tags → Modbus.plannedReads device.connection chosen =
          Modbus.plannedReads oldPressRow.connection chosen) ↔
        Modbus.ReadsKept oldPressRow.connection tags :=
  resaved_reads_iff oldStore_press oldPress_saved (by decide)

/-- The save moves the reads of the press from unit 3 to unit 1. -/
theorem resaved_press_moves : ¬ ∀ (s : ConfigStore WholeFloat) (id : Int) (row : DeviceRow WholeFloat),
    s.devices.get? id = some row → SavedDevice id row → row.driverType ∈ Modbus.modbusDrivers →
      ∃ device t, resaveDevice id s = (.ok device, t) ∧ ∀ tags,
        Modbus.plannedReads device.connection tags = Modbus.plannedReads row.connection tags := by
  intro h
  obtain ⟨device, t, hresaved, hkept⟩ :=
    h oldStore 1 oldPressRow oldStore_press oldPress_saved (by decide)
  have hbefore : Modbus.plannedReads oldPressRow.connection [pressSpeed] =
      .ok [("holding_register", 3, 100, 1)] := by decide +kernel
  have hafter : (resaveDevice 1 oldStore).1.toOption.map (fun device =>
      Modbus.plannedReads device.connection [pressSpeed]) =
        some (.ok [("holding_register", 1, 100, 1)]) := by decide +kernel
  rw [hresaved] at hafter
  have hmoved : Modbus.plannedReads device.connection [pressSpeed] =
    .ok [("holding_register", 1, 100, 1)] := Option.some.inj hafter
  rw [hkept [pressSpeed], hbefore] at hmoved
  exact absurd (Except.ok.inj hmoved) (by decide)

end ConfigService

end IndustrialGateway
