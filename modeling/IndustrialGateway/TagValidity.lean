import IndustrialGateway.ConfigRuns
import IndustrialGateway.Lib.WholeFloat

/-!
# Tag validity

A tag is validated against the driver type of its device when it is saved.
Updating the device changes the driver type without a look at the tags, so the
stored tags stay valid as long as every update gives a device a driver type that
accepts the tags it has.
-/

namespace IndustrialGateway

open ConfigStore ConfigService

variable {F : Type} [PyRuntime F] {s t : ConfigStore F}

/-- The driver type accepts every stored tag of the device. -/
def AcceptsTags (s : ConfigStore F) (deviceId : Int) (driverType : String) : Prop :=
  ∀ tagId row, s.tags.get? tagId = some row → row.deviceId = deviceId →
    validateTag driverType (row.spec tagId) = .ok ()

/-- Every stored tag belongs to a stored device and is valid for its driver type. -/
def TagsValid (s : ConfigStore F) : Prop :=
  ∀ tagId row, s.tags.get? tagId = some row →
    ∃ device, s.devices.get? row.deviceId = some device ∧
      validateTag device.driverType (row.spec tagId) = .ok ()

/-- An update that passes the checks of a device keeps to the device's tags. -/
def UpdatesAcceptTags : Operation F → ConfigStore F → Prop
  | .updateDevice deviceId payload, s => ∀ device,
    deviceFromPayload (some deviceId) payload = .ok device → validateDevice device = .ok () →
      AcceptsTags s deviceId device.driverType
  | _, _ => True

-- ---------------------------------------------------------------------------
-- Writes
-- ---------------------------------------------------------------------------

/-- Validation does not look at the ids. -/
theorem validateTag_ids (driverType : String) (tag : TagSpec F) (id deviceId : Option Int) :
    validateTag driverType { tag with id, deviceId } = validateTag driverType tag := rfl

theorem TagsValid.insertDevice (h : TagsValid s) (row : DeviceRow F) :
    TagsValid (s.insertDevice row) := by
  intro tagId tag htag
  obtain ⟨device, hdevice, hvalid⟩ := h tagId tag htag
  refine ⟨device, ?_, hvalid⟩
  have hne : s.devices.nextId ≠ tag.deviceId := by
    intro hnext
    rw [← hnext, Table.get?_nextId] at hdevice
    cases hdevice
  exact (Table.get?_insert ..).trans ((if_neg hne).trans hdevice)

theorem TagsValid.deleteDevice (h : TagsValid s) (deviceId : Int) :
    TagsValid (s.deleteDevice deviceId) := by
  intro tagId tag htag
  obtain ⟨htag, hne⟩ := Option.filter_eq_some_iff.mp ((Table.get?_filter ..).symm.trans htag)
  obtain ⟨device, hdevice, hvalid⟩ := h tagId tag htag
  refine ⟨device, ?_, hvalid⟩
  exact (Table.get?_filter ..).trans (Option.filter_eq_some_iff.mpr ⟨hdevice, hne⟩)

theorem TagsValid.writeTag {i id : Int} {tag : TagSpec F} (h : TagsValid s)
    (hadmitted : TagAdmitted s i tag) (hwrite : writeTag i tag s = .ok (id, t)) : TagsValid t := by
  obtain ⟨hdevices, row, hrow, hrows⟩ := writeTag_get? hwrite
  obtain ⟨device, hdevice, hvalid⟩ := hadmitted.valid
  obtain ⟨hrowDevice, hspec⟩ := tagRow_eq_ok hrow
  intro tagId tagRow htag
  rw [hdevices]
  rcases hrows tagId tagRow htag with rfl | hbefore
  · refine ⟨device, hrowDevice ▸ hdevice, ?_⟩
    rw [hspec, validateTag_ids]
    exact hvalid
  · exact h tagId tagRow hbefore

theorem TagsValid.deleteTag (h : TagsValid s) (id : Int) : TagsValid (s.deleteTag id) := by
  intro tagId tag htag
  exact h tagId tag (Option.filter_eq_some_iff.mp ((Table.get?_filter ..).symm.trans htag)).1

theorem TagsValid.congr (h : TagsValid s) (hdevices : t.devices = s.devices)
    (htags : t.tags = s.tags) : TagsValid t := by
  intro tagId tag htag
  rw [htags] at htag
  rw [hdevices]
  exact h tagId tag htag

theorem TagsValid.write (h : TagsValid s) {saves : OutputRouteConfig F → Prop}
    (hwrite : Write saves s t) : TagsValid t := by
  cases hwrite with
  | insertDevice hchecked => exact h.insertDevice _
  | deleteDevice deviceId => exact h.deleteDevice deviceId
  | writeTag hadmitted _ hwrite => exact h.writeTag hadmitted hwrite
  | deleteTag tagId => exact h.deleteTag tagId
  | saveRoute _ hsave =>
    obtain ⟨hdevices, htags⟩ := saveOutputRoute_eq_ok hsave
    exact h.congr hdevices htags
  | deleteRoute routeId => exact h.congr rfl rfl
  | saveSink hkeys => exact h.congr rfl rfl

/-- An update of a device keeps the tags valid exactly when its driver type
accepts them. -/
theorem tagsValid_updateDevice (h : TagsValid s) (deviceId : Int) (row : DeviceRow F) :
    TagsValid (s.updateDevice deviceId row) ↔ AcceptsTags s deviceId row.driverType := by
  have hlookup : ∀ id, (s.updateDevice deviceId row).devices.get? id =
      if deviceId = id then (s.devices.get? id).map fun _ => row else s.devices.get? id :=
    Table.get?_update s.devices deviceId row
  constructor
  · intro hupdated tagId tag htag htagDevice
    obtain ⟨device, hdevice, hvalid⟩ := hupdated tagId tag htag
    rw [hlookup, if_pos htagDevice.symm] at hdevice
    obtain ⟨old, -, rfl⟩ := Option.map_eq_some_iff.mp hdevice
    exact hvalid
  · intro haccepts tagId tag htag
    obtain ⟨device, hdevice, hvalid⟩ := h tagId tag htag
    rw [hlookup]
    by_cases hid : deviceId = tag.deviceId
    · exact ⟨row, by rw [if_pos hid, hdevice]; rfl, haccepts tagId tag htag hid.symm⟩
    · exact ⟨device, by rw [if_neg hid, hdevice], hvalid⟩

-- ---------------------------------------------------------------------------
-- Runs
-- ---------------------------------------------------------------------------

omit [PyRuntime F] in
theorem DeviceChecked.driverType {device : DeviceSpec F} {row : DeviceRow F}
    (h : DeviceChecked device row) : row.driverType = device.driverType :=
  congrArg DeviceSpec.driverType (deviceRow_eq_ok h.row 0)

/-- Tags stay valid in every run whose device updates accept the tags there are. -/
theorem tagsValid_of_reachable (h : Reachable UpdatesAcceptTags s) : TagsValid s := by
  refine h.invariant ?_ (fun _ _ _ _ hwrite h => h.write hwrite) ?_
  · intro tagId tag htag
    cases htag
  · intro s deviceId payload device row hallowed hdevice hchecked h
    rw [tagsValid_updateDevice h, hchecked.driverType]
    exact hallowed device hdevice hchecked.valid

def plcPayload (driverType : String) : Settings WholeFloat :=
  .ofList [("driver_type", .str driverType), ("name", .str "plc")]

def speedPayload : Settings WholeFloat :=
  .ofList [("name", .str "speed"), ("function", .str "holding_register"), ("data_type", .str "uint16")]

def plcWithSpeed : ConfigStore WholeFloat :=
  (Operation.createTag 1 speedPayload).run
    ((Operation.createDevice (plcPayload "modbus_tcp")).run initialized)

def speedRow : TagRow WholeFloat :=
  ⟨1, "", "speed", 0, "holding_register", "uint16", ⟨1⟩, ⟨0⟩, true, none, none, "big", "big", none⟩

theorem plcWithSpeed_tags : plcWithSpeed.tags.rows.entries = [(1, speedRow)] := by decide +kernel

theorem plcWithSpeed_reachable {allowed : Operation WholeFloat → ConfigStore WholeFloat → Prop}
    (hdevice : ∀ payload s, allowed (.createDevice payload) s)
    (htag : ∀ deviceId payload s, allowed (.createTag deviceId payload) s) :
    Reachable allowed plcWithSpeed :=
  .run _ (.run _ .initialized (hdevice _ _)) (htag _ _ _)

theorem plcPayload_driverType {driverType : String} {device : DeviceSpec WholeFloat}
    (h : deviceFromPayload (some 1) (plcPayload driverType) = .ok device) :
    device.driverType = driverType := by
  simp only [deviceFromPayload, bind_eq_ok, pure, Except.pure, Except.ok.injEq] at h
  obtain ⟨_, hdriver, _, -, _, -, _, -, rfl⟩ := h
  cases hdriver
  rfl

/-- The Modbus drivers take the same tags. -/
theorem tagsValid_serialPlc :
    TagsValid ((Operation.updateDevice 1 (plcPayload "modbus_serial")).run plcWithSpeed) := by
  refine tagsValid_of_reachable
    (.run _ (plcWithSpeed_reachable (fun _ _ => trivial) fun _ _ _ => trivial) ?_)
  intro device hdevice _ tagId row hrow _
  rw [plcPayload_driverType hdevice]
  have hmem := OrderedDict.get?_eq_some.mp hrow
  rw [plcWithSpeed_tags, List.mem_singleton] at hmem
  cases hmem
  decide +kernel

def opcuaPlc : ConfigStore WholeFloat :=
  (Operation.updateDevice 1 (plcPayload "opcua")).run plcWithSpeed

/-- The register tag of a device that is made an OPC UA server stays. -/
theorem driver_change_keeps_register_tag :
    ¬ ∀ s : ConfigStore WholeFloat, Reachable (fun _ _ => True) s → TagsValid s := by
  intro h
  have hreachable : Reachable (fun _ _ => True) opcuaPlc :=
    .run _ (plcWithSpeed_reachable (fun _ _ => trivial) fun _ _ _ => trivial) trivial
  have htag : opcuaPlc.tags.get? 1 = some speedRow := by decide +kernel
  have hdriver : (opcuaPlc.devices.get? 1).map DeviceRow.driverType = some "opcua" := by
    decide +kernel
  obtain ⟨device, hdevice, hvalid⟩ := h opcuaPlc hreachable 1 speedRow htag
  rw [show speedRow.deviceId = 1 from rfl] at hdevice
  rw [hdevice, Option.map_some, Option.some.injEq] at hdriver
  rw [hdriver] at hvalid
  exact absurd hvalid (by decide)

end IndustrialGateway
