import IndustrialGateway.ConfigStore

/-!
# Laws of the store

What each method of the store does when it succeeds, and that it does nothing
when it fails.
-/

namespace IndustrialGateway

open Fallible

namespace ConfigStore

variable {F : Type} {s t u : ConfigStore F} {id : Int}

/-- Two stores that differ at most in their routes. -/
structure SameButRoutes (s t : ConfigStore F) : Prop where
  devices : t.devices = s.devices
  tags : t.tags = s.tags
  mqttConfig : t.mqttConfig = s.mqttConfig
  sinkConfigs : t.sinkConfigs = s.sinkConfigs
  sinkSelection : t.sinkSelection = s.sinkSelection

theorem SameButRoutes.trans (ht : SameButRoutes s t) (hu : SameButRoutes t u) : SameButRoutes s u :=
  ⟨hu.devices.trans ht.devices, hu.tags.trans ht.tags, hu.mqttConfig.trans ht.mqttConfig,
    hu.sinkConfigs.trans ht.sinkConfigs, hu.sinkSelection.trans ht.sinkSelection⟩

/-- The sinks are the same. -/
theorem SameButRoutes.getSinkConfig (h : SameButRoutes s t) (sinkType : Option String) :
    t.getSinkConfig sinkType = s.getSinkConfig sinkType := by
  rw [ConfigStore.getSinkConfig, ConfigStore.getSinkConfig, getSelectedSinkType, getSelectedSinkType,
    getMqttConfig, getMqttConfig, h.sinkConfigs, h.sinkSelection, h.mqttConfig]

theorem SameButRoutes.ext (ht : SameButRoutes s t) (hu : SameButRoutes s u)
    (h : t.outputRoutes = u.outputRoutes) : t = u := by
  obtain ⟨hd, hg, hm, hc, hs⟩ := ht
  obtain ⟨hd', hg', hm', hc', hs'⟩ := hu
  cases t
  cases u
  simp_all

/-- Two stores that differ at most in their tags. -/
structure SameButTags (s t : ConfigStore F) : Prop where
  devices : t.devices = s.devices
  mqttConfig : t.mqttConfig = s.mqttConfig
  sinkConfigs : t.sinkConfigs = s.sinkConfigs
  sinkSelection : t.sinkSelection = s.sinkSelection
  outputRoutes : t.outputRoutes = s.outputRoutes

theorem SameButTags.refl (s : ConfigStore F) : SameButTags s s := ⟨rfl, rfl, rfl, rfl, rfl⟩

theorem SameButTags.trans (ht : SameButTags s t) (hu : SameButTags t u) : SameButTags s u :=
  ⟨hu.devices.trans ht.devices, hu.mqttConfig.trans ht.mqttConfig,
    hu.sinkConfigs.trans ht.sinkConfigs, hu.sinkSelection.trans ht.sinkSelection,
    hu.outputRoutes.trans ht.outputRoutes⟩

theorem SameButTags.ext (h : SameButTags s t) (htags : t.tags = s.tags) : t = s := by
  obtain ⟨hd, hm, hc, hs, ho⟩ := h
  cases s
  cases t
  simp_all

theorem mem_listDevices {device : DeviceSpec F} :
    device ∈ s.listDevices ↔ ∃ id row, s.devices.get? id = some row ∧ device = row.spec id :=
  mem_orderBy_rows fun id (row : DeviceRow F) => row.spec id

theorem find?_listDevices (id : Int) :
    (s.listDevices.find? fun device => device.id = some id) =
      (s.devices.get? id).map fun row => row.spec id :=
  find?_orderBy_rows (fun id (row : DeviceRow F) => row.spec id) DeviceSpec.id (fun _ _ => rfl) id

theorem mem_listTags {deviceId : Int} {tag : TagSpec F} :
    tag ∈ s.listTags deviceId ↔
      ∃ id row, s.tags.get? id = some row ∧ row.deviceId = deviceId ∧ tag = row.spec id := by
  simp only [listTags, mem_orderBy, List.mem_map, List.mem_filter, decide_eq_true_eq, Prod.exists,
    Table.get?, OrderedDict.get?_eq_some, and_assoc]
  exact exists₂_congr fun id row => and_congr_right fun _ => and_congr_right fun _ => eq_comm

-- ---------------------------------------------------------------------------
-- Failure
-- ---------------------------------------------------------------------------

theorem atomic_saveDevice (device : DeviceSpec F) : Atomic (saveDevice device) :=
  .bind (.lift _) fun _ => .commit _

theorem readOnly_requiredDeviceId (deviceId : Option Int) :
    ReadOnly (requiredDeviceId deviceId : StoreAct F Int) := by
  cases deviceId
  · exact .raise _
  · exact .pure _

theorem readOnly_driverTypeForDevice (deviceId : Option Int) :
    ReadOnly (driverTypeForDevice deviceId : StoreAct F String) := by
  refine .bind (readOnly_requiredDeviceId _) fun _ => .bind (.lift _) fun _ =>
    .bind (.read _) fun row => ?_
  cases row
  · exact .raise _
  · exact .pure _

theorem readOnly_validateUniqueTagName (deviceId : Int) (tag : TagSpec F) :
    ReadOnly (validateUniqueTagName deviceId tag) := by
  refine .bind (.lift _) fun _ => .bind (.read _) fun taken => ?_
  cases taken
  · exact .pure _
  · exact .raise _

theorem atomic_saveTag [PyRuntime F] (tag : TagSpec F) : Atomic (saveTag tag) :=
  .bind (readOnly_driverTypeForDevice _) fun _ => .bind (.lift _) fun _ =>
    .bind (readOnly_requiredDeviceId _) fun _ =>
      .bind (readOnly_validateUniqueTagName _ _) fun _ => .commit _

theorem atomic_saveSinkConfig (config : SinkConfig F) : Atomic (saveSinkConfig config) := .commit _

theorem atomic_saveOutputRoute (route : OutputRouteConfig F) : Atomic (saveOutputRoute route) :=
  .commit _

-- ---------------------------------------------------------------------------
-- Success
-- ---------------------------------------------------------------------------

theorem saveDevice_insert {device : DeviceSpec F} (hid : device.id = none) :
    saveDevice device s = (.ok id, t) ↔
      validateDevice device = .ok () ∧ ∃ row, deviceRow device = .ok row ∧
        nextRowId s.devices = .ok id ∧ t = s.insertDevice row := by
  simp only [saveDevice, hid, Fallible.bind_eq_ok, lift_eq_ok, commit_eq_ok, bind_eq_ok, pure,
    Except.pure, Except.ok.injEq, Prod.mk.injEq]
  constructor
  · rintro ⟨_, _, ⟨hv, rfl⟩, row, hrow, _, hfresh, rfl, rfl⟩
    exact ⟨hv, row, hrow, hfresh, rfl⟩
  · rintro ⟨hv, row, hrow, hfresh, rfl⟩
    exact ⟨(), s, ⟨hv, rfl⟩, row, hrow, _, hfresh, rfl, rfl⟩

theorem saveDevice_update {device : DeviceSpec F} {i : Int} (hid : device.id = some i) :
    saveDevice device s = (.ok id, t) ↔
      validateDevice device = .ok () ∧ ∃ row, deviceRow device = .ok row ∧
        sqlInteger i = .ok () ∧ id = i ∧ t = s.updateDevice i row := by
  simp only [saveDevice, hid, Fallible.bind_eq_ok, lift_eq_ok, commit_eq_ok, bind_eq_ok, pure,
    Except.pure, Except.ok.injEq, Prod.mk.injEq]
  constructor
  · rintro ⟨_, _, ⟨hv, rfl⟩, row, hrow, _, hi, rfl, rfl⟩
    exact ⟨hv, row, hrow, hi, rfl, rfl⟩
  · rintro ⟨hv, row, hrow, hi, rfl, rfl⟩
    exact ⟨(), s, ⟨hv, rfl⟩, row, hrow, (), hi, rfl, rfl⟩

theorem requiredDeviceId_eq_ok {deviceId : Option Int} {i : Int} :
    (requiredDeviceId deviceId : StoreAct F Int) s = (.ok i, t) ↔ deviceId = some i ∧ s = t := by
  cases deviceId with
  | none => simp [requiredDeviceId, raise_eq_ok]
  | some j => rw [requiredDeviceId, pure_eq_ok, Option.some.injEq]

theorem driverTypeForDevice_eq_ok {deviceId : Option Int} {driverType : String} :
    (driverTypeForDevice deviceId : StoreAct F String) s = (.ok driverType, t) ↔
      ∃ i row, deviceId = some i ∧ sqlInteger i = .ok () ∧ s.devices.get? i = some row ∧
        row.driverType = driverType ∧ s = t := by
  simp only [driverTypeForDevice, Fallible.bind_eq_ok, requiredDeviceId_eq_ok, lift_eq_ok,
    read_eq_ok]
  constructor
  · rintro ⟨i, _, ⟨rfl, rfl⟩, _, _, ⟨hi, rfl⟩, found, _, ⟨rfl, rfl⟩, h⟩
    cases hrow : s.devices.get? i with
    | none => simp [hrow, raise] at h
    | some row =>
      rw [hrow] at h
      obtain ⟨rfl, rfl⟩ := pure_eq_ok.mp h
      exact ⟨i, row, rfl, hi, hrow, rfl, rfl⟩
  · rintro ⟨i, row, rfl, hi, hrow, rfl, rfl⟩
    exact ⟨i, s, ⟨rfl, rfl⟩, (), s, ⟨hi, rfl⟩, _, s, ⟨rfl, rfl⟩, by rw [hrow]; rfl⟩

theorem validateUniqueTagName_eq_ok {deviceId : Int} {tag : TagSpec F} {u : Unit} :
    validateUniqueTagName deviceId tag s = (.ok u, t) ↔
      sqlIntegerOrNull tag.id = .ok () ∧ s.hasTagName deviceId tag = false ∧ s = t := by
  simp only [validateUniqueTagName, Fallible.bind_eq_ok, lift_eq_ok, read_eq_ok]
  constructor
  · rintro ⟨_, _, ⟨hi, rfl⟩, found, _, ⟨rfl, rfl⟩, h⟩
    cases hname : s.hasTagName deviceId tag with
    | true => simp [hname, raise] at h
    | false =>
      rw [hname] at h
      exact ⟨hi, rfl, (pure_eq_ok.mp h).2⟩
  · rintro ⟨hi, hname, rfl⟩
    exact ⟨(), s, ⟨hi, rfl⟩, _, s, ⟨rfl, rfl⟩, by rw [hname]; rfl⟩

theorem saveSinkConfig_eq_ok {config : SinkConfig F} {u : Unit} :
    saveSinkConfig config s = (.ok u, t) ↔
      PyValue.checkJsonDict config.config.entries = .ok () ∧
        t = s.upsertSinkConfig config.sinkType ⟨config.enabled, config.config⟩ := by
  simp only [saveSinkConfig, commit_eq_ok, bind_eq_ok, pure, Except.pure, Except.ok.injEq,
    Prod.mk.injEq]
  constructor
  · rintro ⟨_, hjson, -, rfl⟩
    exact ⟨hjson, rfl⟩
  · rintro ⟨hjson, rfl⟩
    exact ⟨(), hjson, trivial, rfl⟩

variable [PyRuntime F]

/-- What `save_tag` has checked before it writes. -/
structure TagAdmitted (s : ConfigStore F) (i : Int) (tag : TagSpec F) : Prop where
  deviceId : tag.deviceId = some i
  bound : sqlInteger i = .ok ()
  valid : ∃ device, s.devices.get? i = some device ∧ validateTag device.driverType tag = .ok ()
  tagId : sqlIntegerOrNull tag.id = .ok ()
  unique : s.hasTagName i tag = false

theorem saveTag_eq_ok {tag : TagSpec F} :
    saveTag tag s = (.ok id, t) ↔ ∃ i, TagAdmitted s i tag ∧ writeTag i tag s = .ok (id, t) := by
  simp only [saveTag, Fallible.bind_eq_ok, driverTypeForDevice_eq_ok, lift_eq_ok,
    requiredDeviceId_eq_ok, validateUniqueTagName_eq_ok, commit_eq_ok]
  constructor
  · rintro ⟨_, _, ⟨i, device, hd, hi, hdev, rfl, rfl⟩, _, _, ⟨hv, rfl⟩, j, _, ⟨hj, rfl⟩, _, _,
      ⟨hid, hu, rfl⟩, hw⟩
    obtain rfl := Option.some.inj (hd.symm.trans hj)
    exact ⟨i, ⟨hd, hi, ⟨device, hdev, hv⟩, hid, hu⟩, hw⟩
  · rintro ⟨i, ⟨hd, hi, ⟨device, hdev, hv⟩, hid, hu⟩, hw⟩
    exact ⟨_, s, ⟨i, device, hd, hi, hdev, rfl, rfl⟩, (), s, ⟨hv, rfl⟩, i, s, ⟨hd, rfl⟩, (), s,
      ⟨hid, hu, rfl⟩, hw⟩

theorem writeTag_insert {tag : TagSpec F} {i : Int} (hid : tag.id = none) :
    writeTag i tag s = .ok (id, t) ↔
      ∃ row, tagRow i tag = .ok row ∧ nextRowId s.tags = .ok id ∧ s.insertTag row = .ok t := by
  simp only [writeTag, hid, bind_eq_ok, pure, Except.pure, Except.ok.injEq, Prod.mk.injEq]
  constructor
  · rintro ⟨row, hrow, _, hfresh, _, hput, rfl, rfl⟩
    exact ⟨row, hrow, hfresh, hput⟩
  · rintro ⟨row, hrow, hfresh, hput⟩
    exact ⟨row, hrow, _, hfresh, t, hput, rfl, rfl⟩

theorem writeTag_update {tag : TagSpec F} {i j : Int} (hid : tag.id = some j) :
    writeTag i tag s = .ok (id, t) ↔
      ∃ row, tagRow i tag = .ok row ∧ s.updateTag j row = .ok t ∧ j = id := by
  simp only [writeTag, hid, bind_eq_ok, pure, Except.pure, Except.ok.injEq, Prod.mk.injEq]
  constructor
  · rintro ⟨row, hrow, _, hput, rfl, rfl⟩
    exact ⟨row, hrow, hput, rfl⟩
  · rintro ⟨row, hrow, hput, rfl⟩
    exact ⟨row, hrow, t, hput, rfl, rfl⟩

omit [PyRuntime F] in
theorem routeRow_eq_ok {route : OutputRouteConfig F} {row : OutputRouteRow F} :
    routeRow route = .ok row ↔ PyValue.checkJsonDict route.config.entries = .ok () ∧
      sqlIntegerOrNull route.deviceId = .ok () ∧
      row = ⟨route.deviceId, route.tagGroup, route.sinkType, route.enabled, route.config⟩ := by
  simp only [routeRow, bind_eq_ok, pure, Except.pure, Except.ok.injEq]
  constructor
  · rintro ⟨_, hjson, _, hdevice, rfl⟩
    exact ⟨hjson, hdevice, rfl⟩
  · rintro ⟨hjson, hdevice, rfl⟩
    exact ⟨(), hjson, (), hdevice, rfl⟩

omit [PyRuntime F] in
theorem insertRoute_eq_ok {row : OutputRouteRow F} :
    s.insertRoute row = .ok t ↔
      (∀ deviceId, row.deviceId = some deviceId → (s.devices.get? deviceId).isSome) ∧
        SameButRoutes s t ∧ t.outputRoutes = s.outputRoutes.insert row := by
  unfold insertRoute
  split
  · rename_i h
    simp only [Except.ok.injEq]
    constructor
    · rintro rfl
      exact ⟨h, ⟨rfl, rfl, rfl, rfl, rfl⟩, rfl⟩
    · rintro ⟨-, hsame, hroutes⟩
      refine (hsame.ext ?_ hroutes).symm
      exact ⟨rfl, rfl, rfl, rfl, rfl⟩
  · rename_i h
    simp [h]

omit [PyRuntime F] in
theorem updateRoute_eq_ok {i : Int} {row : OutputRouteRow F} :
    s.updateRoute i row = .ok t ↔
      ((s.outputRoutes.get? i).isSome →
        ∀ deviceId, row.deviceId = some deviceId → (s.devices.get? deviceId).isSome) ∧
        SameButRoutes s t ∧ t.outputRoutes = s.outputRoutes.update i row := by
  unfold updateRoute
  split
  · rename_i h
    simp only [Except.ok.injEq]
    constructor
    · rintro rfl
      exact ⟨h, ⟨rfl, rfl, rfl, rfl, rfl⟩, rfl⟩
    · rintro ⟨-, hsame, hroutes⟩
      refine (hsame.ext ?_ hroutes).symm
      exact ⟨rfl, rfl, rfl, rfl, rfl⟩
  · rename_i h
    simp only [reduceCtorEq, false_iff, not_and]
    exact fun hdevice => absurd hdevice h

omit [PyRuntime F] in
/-- `save_output_route` inserts a row or writes one anew. -/
theorem saveOutputRoute_rows {route : OutputRouteConfig F} :
    saveOutputRoute route s = (.ok id, t) ↔ ∃ row, routeRow route = .ok row ∧
      ((route.id = none ∧ nextRowId s.outputRoutes = .ok id ∧ s.insertRoute row = .ok t) ∨
        (route.id = some id ∧ sqlInteger id = .ok () ∧ s.updateRoute id row = .ok t)) := by
  simp only [saveOutputRoute, commit_eq_ok, bind_eq_ok]
  refine exists_congr fun row => and_congr_right fun _ => ?_
  cases hid : route.id with
  | none =>
    simp only [bind_eq_ok, pure, Except.pure, Except.ok.injEq, Prod.mk.injEq, reduceCtorEq,
      false_and, or_false, true_and]
    constructor
    · rintro ⟨_, hfresh, _, hput, rfl, rfl⟩
      exact ⟨hfresh, hput⟩
    · rintro ⟨hfresh, hput⟩
      exact ⟨_, hfresh, t, hput, rfl, rfl⟩
  | some i =>
    simp only [bind_eq_ok, pure, Except.pure, Except.ok.injEq, Prod.mk.injEq, reduceCtorEq,
      false_and, false_or, Option.some.injEq]
    constructor
    · rintro ⟨_, hi, _, hput, rfl, rfl⟩
      exact ⟨rfl, hi, hput⟩
    · rintro ⟨rfl, hi, hput⟩
      exact ⟨(), hi, t, hput, rfl, rfl⟩

omit [PyRuntime F] in
theorem saveOutputRoute_same {route : OutputRouteConfig F}
    (h : saveOutputRoute route s = (.ok id, t)) : SameButRoutes s t := by
  obtain ⟨row, -, ⟨-, -, hput⟩ | ⟨-, -, hput⟩⟩ := saveOutputRoute_rows.mp h
  · exact (insertRoute_eq_ok.mp hput).2.1
  · exact (updateRoute_eq_ok.mp hput).2.1

omit [PyRuntime F] in
theorem saveOutputRoute_eq_ok {route : OutputRouteConfig F}
    (h : saveOutputRoute route s = (.ok id, t)) : t.devices = s.devices ∧ t.tags = s.tags :=
  ⟨(saveOutputRoute_same h).devices, (saveOutputRoute_same h).tags⟩

-- ---------------------------------------------------------------------------
-- Written tags
-- ---------------------------------------------------------------------------

omit [PyRuntime F] in
theorem insertTag_eq_ok {row : TagRow F} (h : s.insertTag row = .ok t) :
    SameButTags s t ∧ t.tags = s.tags.insert row := by
  unfold insertTag at h
  split at h <;> cases h
  exact ⟨⟨rfl, rfl, rfl, rfl, rfl⟩, rfl⟩

omit [PyRuntime F] in
theorem updateTag_eq_ok {i : Int} {row : TagRow F} (h : s.updateTag i row = .ok t) :
    SameButTags s t ∧ t.tags = s.tags.update i row := by
  unfold updateTag at h
  split at h <;> cases h
  exact ⟨⟨rfl, rfl, rfl, rfl, rfl⟩, rfl⟩

/-- A write of a tag adds a row or replaces the one with the tag's id. -/
theorem writeTag_rows {tag : TagSpec F} {i : Int} (h : writeTag i tag s = .ok (id, t)) :
    SameButTags s t ∧ ∃ row, tagRow i tag = .ok row ∧
      ((tag.id = none ∧ nextRowId s.tags = .ok id ∧ t.tags = s.tags.insert row) ∨
        tag.id = some id ∧ t.tags = s.tags.update id row) := by
  cases hid : tag.id with
  | none =>
    obtain ⟨row, hrow, hfresh, hput⟩ := (writeTag_insert hid).mp h
    obtain ⟨hsame, ht⟩ := insertTag_eq_ok hput
    exact ⟨hsame, row, hrow, .inl ⟨rfl, hfresh, ht⟩⟩
  | some j =>
    obtain ⟨row, hrow, hput, rfl⟩ := (writeTag_update hid).mp h
    obtain ⟨hsame, ht⟩ := updateTag_eq_ok hput
    exact ⟨hsame, row, hrow, .inr ⟨rfl, ht⟩⟩

/-- A tag of the table after a write is the written one or was there before. -/
theorem writeTag_get? {tag : TagSpec F} {i : Int} (h : writeTag i tag s = .ok (id, t)) :
    t.devices = s.devices ∧ ∃ row, tagRow i tag = .ok row ∧
      ∀ j r, t.tags.get? j = some r → r = row ∨ s.tags.get? j = some r := by
  obtain ⟨hsame, row, hrow, ⟨-, -, ht⟩ | ⟨-, ht⟩⟩ := writeTag_rows h
  · refine ⟨hsame.devices, row, hrow, fun j r hj => ?_⟩
    rw [ht, Table.get?_insert] at hj
    split at hj
    · exact .inl (Option.some.inj hj).symm
    · exact .inr hj
  · refine ⟨hsame.devices, row, hrow, fun j r hj => ?_⟩
    rw [ht, Table.get?_update] at hj
    split at hj
    · obtain ⟨old, -, rfl⟩ := Option.map_eq_some_iff.mp hj
      exact .inl rfl
    · exact .inr hj

theorem tagRow_eq_ok {tag : TagSpec F} {i : Int} {row : TagRow F} (h : tagRow i tag = .ok row) :
    row.deviceId = i ∧ ∀ id, row.spec id = { tag with id := some id, deviceId := some i } := by
  simp only [tagRow, bind_eq_ok, pure, Except.pure, Except.ok.injEq] at h
  obtain ⟨_, -, _, -, _, -, _, -, _, -, _, -, rfl⟩ := h
  exact ⟨rfl, fun _ => rfl⟩

omit [PyRuntime F] in
theorem deviceRow_eq_ok {device : DeviceSpec F} {row : DeviceRow F}
    (h : deviceRow device = .ok row) (id : Int) : row.spec id = { device with id := some id } := by
  simp only [deviceRow, bind_eq_ok, pure, Except.pure, Except.ok.injEq] at h
  obtain ⟨_, -, _, -, rfl⟩ := h
  rfl

end ConfigStore

end IndustrialGateway
