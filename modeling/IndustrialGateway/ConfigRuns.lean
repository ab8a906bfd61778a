import IndustrialGateway.CsvRows
import IndustrialGateway.RouteSettings
import IndustrialGateway.StoreLaws

/-!
# Runs of the configuration service

The operations of the service and the writes they are made of: every operation
is a sequence of few kinds of writes, each with the checks made before it. An
invariant of the configuration is proved once for each kind of write.
-/

namespace IndustrialGateway

open Fallible ConfigStore

variable {F : Type} [PyRuntime F]

inductive Operation (F : Type) where
  | createDevice (payload : Settings F)
  | updateDevice (deviceId : Int) (payload : Settings F)
  | deleteDevice (deviceId : Int)
  | createTag (deviceId : Int) (payload : Settings F)
  | updateTag (tagId : Int) (payload : Settings F)
  | deleteTag (tagId : Int)
  | importDevicesCsv (csvText : String)
  | importTagsCsv (deviceId : Int) (csvText : String)
  | saveSinkConfig (payload : Settings F)
  | importPluginsCsv (csvText : String)
  | saveOutputRoute (payload : Settings F)
  | deleteOutputRoute (routeId : Int)
  | importPluginRoutesCsv (csvText : String)
  | resolveOutputRouteTopic (resolver : ConfigService.TopicResolver F) (now : String) (routeId : Int)
  | refreshDynamicOutputRouteTopics (resolver : ConfigService.TopicResolver F) (now : Int → String)

/-- The store after an operation, whether or not it raised. -/
def Operation.run (op : Operation F) (s : ConfigStore F) : ConfigStore F :=
  match op with
  | .createDevice payload => (ConfigService.createDevice payload s).2
  | .updateDevice deviceId payload => (ConfigService.updateDevice deviceId payload s).2
  | .deleteDevice deviceId => (ConfigService.deleteDevice deviceId s).2
  | .createTag deviceId payload => (ConfigService.createTag deviceId payload s).2
  | .updateTag tagId payload => (ConfigService.updateTag tagId payload s).2
  | .deleteTag tagId => (ConfigService.deleteTag tagId s).2
  | .importDevicesCsv csvText => (ConfigService.importDevicesCsv csvText s).2
  | .importTagsCsv deviceId csvText => (ConfigService.importTagsCsv deviceId csvText s).2
  | .saveSinkConfig payload => (ConfigService.saveSinkConfig payload s).2
  | .importPluginsCsv csvText => (ConfigService.importPluginsCsv csvText s).2
  | .saveOutputRoute payload => (ConfigService.saveOutputRoute payload s).2
  | .deleteOutputRoute routeId => (ConfigService.deleteOutputRoute routeId s).2
  | .importPluginRoutesCsv csvText => (ConfigService.importPluginRoutesCsv csvText s).2
  | .resolveOutputRouteTopic resolver now routeId =>
    (ConfigService.resolveOutputRouteTopic resolver now routeId s).2
  | .refreshDynamicOutputRouteTopics resolver now =>
    (ConfigService.refreshDynamicOutputRouteTopics resolver now s).2

/-- The stores that runs of allowed operations reach from a new file. -/
inductive Reachable (allowed : Operation F → ConfigStore F → Prop) : ConfigStore F → Prop
  | initialized : Reachable allowed initialized
  | run {s : ConfigStore F} (op : Operation F) (h : Reachable allowed s) (hop : allowed op s) :
    Reachable allowed (op.run s)

-- ---------------------------------------------------------------------------
-- Writes
-- ---------------------------------------------------------------------------

/-- What the service has checked of a device before it writes the row. -/
structure DeviceChecked (device : DeviceSpec F) (row : DeviceRow F) : Prop where
  valid : validateDevice device = .ok ()
  connection : device.connection.keys =
    (connectionFieldsForDriver device.driverType).map ConnectionField.key
  row : deviceRow device = .ok row

/-- What `save_output_route` has made of a route before it writes the row. -/
structure SavedRoute (route : OutputRouteConfig F) : Prop where
  sinkType : route.sinkType = "mqtt"
  tagGroup : PyText.Stripped route.tagGroup
  config : Readable route.config

/-- The routes that an operation can save. -/
def Operation.saves : Operation F → OutputRouteConfig F → Prop
  | .saveOutputRoute _, route => SavedRoute route
  | .importPluginsCsv _, route | .importPluginRoutesCsv _, route
  | .resolveOutputRouteTopic _ _ _, route | .refreshDynamicOutputRouteTopics _ _, route =>
    Readable route.config
  | _, _ => False

/-- The routes that an operation can save, with their configs as the service leaves them. -/
def Operation.writes (op : Operation F) (route : OutputRouteConfig F) : Prop :=
  op.saves route ∧ WrittenConfig route.config

/-- A sink config with the settings of its schema. -/
def SchemaKeys (config : SinkConfig F) : Prop :=
  config.config.keys = (pluginFields config.sinkType).map PluginField.key

/-- The writes of the service but for the update of a device. -/
inductive Write (saves : OutputRouteConfig F → Prop) : ConfigStore F → ConfigStore F → Prop
  | insertDevice {s : ConfigStore F} {id : Int} {device : DeviceSpec F} {row : DeviceRow F}
    (h : DeviceChecked device row) (hid : nextRowId s.devices = .ok id) :
    Write saves s (s.insertDevice row)
  | deleteDevice (s : ConfigStore F) (deviceId : Int) : Write saves s (s.deleteDevice deviceId)
  | writeTag {s t : ConfigStore F} {i id : Int} {tag : TagSpec F} (h : TagAdmitted s i tag)
    (hnode : tag.nodeId ≠ some "") (hwrite : writeTag i tag s = .ok (id, t)) : Write saves s t
  | deleteTag (s : ConfigStore F) (tagId : Int) : Write saves s (s.deleteTag tagId)
  | saveRoute {s t : ConfigStore F} {id : Int} {route : OutputRouteConfig F} (h : saves route)
    (hsave : saveOutputRoute route s = (.ok id, t)) : Write saves s t
  | deleteRoute (s : ConfigStore F) (routeId : Int) : Write saves s (s.deleteRoute routeId)
  | saveSink (s : ConfigStore F) {config : SinkConfig F} (hkeys : SchemaKeys config) :
    Write saves s (s.upsertSinkConfig config.sinkType ⟨config.enabled, config.config⟩)

variable {saves : OutputRouteConfig F → Prop}

theorem Write.mono {saves' : OutputRouteConfig F → Prop} {s t : ConfigStore F}
    (hsaves : ∀ route, saves route → saves' route) (h : Write saves s t) : Write saves' s t := by
  cases h with
  | insertDevice h hid => exact .insertDevice h hid
  | deleteDevice deviceId => exact .deleteDevice s deviceId
  | writeTag h hnode hwrite => exact .writeTag h hnode hwrite
  | deleteTag tagId => exact .deleteTag s tagId
  | saveRoute h hsave => exact .saveRoute (hsaves _ h) hsave
  | deleteRoute routeId => exact .deleteRoute s routeId
  | saveSink hkeys => exact .saveSink s hkeys

theorem saveDevice_steps {device : DeviceSpec F} (hid : device.id = none)
    (hkeys : device.connection.keys =
      (connectionFieldsForDriver device.driverType).map ConnectionField.key) :
    Steps (Write saves) (saveDevice device) := by
  refine (atomic_saveDevice device).steps fun s id t h => ?_
  obtain ⟨hvalid, row, hrow, hfresh, rfl⟩ := (saveDevice_insert hid).mp h
  exact .insertDevice ⟨hvalid, hkeys, hrow⟩ hfresh

theorem saveTag_steps {tag : TagSpec F} (hnode : tag.nodeId ≠ some "") :
    Steps (Write saves) (saveTag tag) := by
  refine (atomic_saveTag tag).steps fun s id t h => ?_
  obtain ⟨i, hadmitted, hwrite⟩ := saveTag_eq_ok.mp h
  exact .writeTag hadmitted hnode hwrite

theorem saveSinkConfig_steps {config : SinkConfig F} (hkeys : SchemaKeys config) :
    Steps (Write saves) (ConfigStore.saveSinkConfig config) := by
  refine (atomic_saveSinkConfig config).steps fun s u t h => ?_
  obtain ⟨-, rfl⟩ := saveSinkConfig_eq_ok.mp h
  exact .saveSink s hkeys

theorem saveOutputRoute_steps {route : OutputRouteConfig F} (h : saves route) :
    Steps (Write saves) (ConfigStore.saveOutputRoute route) :=
  (atomic_saveOutputRoute route).steps fun _ _ _ hsave => .saveRoute h hsave

-- ---------------------------------------------------------------------------
-- Operations as sequences of writes
-- ---------------------------------------------------------------------------

namespace ConfigService

theorem deviceFromPayload_keys {id : Option Int} {payload : Settings F} {device : DeviceSpec F}
    (h : deviceFromPayload id payload = .ok device) :
    device.id = id ∧ device.connection.keys =
      (connectionFieldsForDriver device.driverType).map ConnectionField.key := by
  simp only [deviceFromPayload, bind_eq_ok, pure, Except.pure, Except.ok.injEq] at h
  obtain ⟨_, -, _, -, _, -, _, hconnection, rfl⟩ := h
  exact ⟨rfl, keys_normalizeConnection hconnection⟩

theorem deviceFromCsvRow_keys {row : Csv.Row} {device : DeviceSpec F}
    (h : deviceFromCsvRow row = .ok device) :
    device.id = none ∧ device.connection.keys =
      (connectionFieldsForDriver device.driverType).map ConnectionField.key := by
  simp only [deviceFromCsvRow, csvConnection, bind_eq_ok, pure, Except.pure, Except.ok.injEq] at h
  obtain ⟨_, -, _, ⟨_, -, hconnection⟩, rfl⟩ := h
  exact ⟨rfl, keys_normalizeConnection hconnection⟩

omit [PyRuntime F] in
theorem textOfNodeId_ne_empty {error : String} {value : PyValue F} {nodeId : Option String}
    (h : textOfNodeId error value = .ok nodeId) : nodeId ≠ some "" := by
  unfold textOfNodeId at h
  split at h
  · cases h
  · rename_i s
    simp only [bind_eq_ok, pure, Except.pure, Except.ok.injEq] at h
    obtain ⟨_, hgiven, rfl⟩ := h
    rintro ⟨⟩
    exact absurd (raiseUnless_eq_ok.mp hgiven) (by decide)
  · cases h

theorem storedNodeId_ne_empty {value : PyValue F} {nodeId : Option String} (hvalue : value ≠ .str "")
    (h : storedNodeId value = .ok nodeId) : nodeId ≠ some "" := by
  unfold storedNodeId at h
  split at h
  · cases h
    simp
  · cases h
    rintro h
    cases h
    exact hvalue rfl
  · rename_i b
    cases h
    cases b <;> simp
  · rename_i n
    simp only [bind_eq_ok, pure, Except.pure, Except.ok.injEq] at h
    obtain ⟨_, -, rfl⟩ := h
    simpa using PyText.textOfInt_ne_empty n
  · rename_i x
    cases h
    rintro hrepr
    have hstrip := PyRuntime.strip_repr x
    rw [Option.some.inj hrepr] at hstrip
    exact hstrip PyText.stripped_empty
  · cases h

theorem tagFromPayload_nodeId {id : Option Int} {deviceId : Int} {payload : Settings F}
    {draft : TagDraft F} (h : tagFromPayload id deviceId payload = .ok draft) :
    draft.nodeId ≠ .str "" := by
  simp only [tagFromPayload, bind_eq_ok, pure, Except.pure, Except.ok.injEq] at h
  obtain ⟨_, -, _, -, _, -, _, -, _, -, _, -, _, -, _, -, rfl⟩ := h
  simp only [valueOr]
  split
  · rename_i htruthy
    rintro hempty
    rw [hempty] at htruthy
    exact absurd htruthy (by simp [PyValue.truthy])
  · simp

theorem saveTagDraft_steps {draft : TagDraft F} (h : draft.nodeId ≠ .str "") :
    Steps (Write saves) (saveTagDraft draft) := by
  refine (readOnly_driverTypeForDevice _).steps.bind fun driverType _ _ _ => ?_
  refine (ReadOnly.lift _).steps.bind fun tag _ _ hspec => ?_
  refine saveTag_steps ?_
  obtain ⟨function, dataType, nodeId, rfl, ⟨error, hnode⟩ | hnode⟩ :=
    TagDraft.spec_ok (lift_eq_ok.mp hspec).1
  · exact textOfNodeId_ne_empty hnode
  · exact storedNodeId_ne_empty h hnode

theorem tagFromCsvRow_nodeId {row : Csv.Row} {driverType tagNameKey : String} {tag : TagSpec F}
    (h : tagFromCsvRow row driverType tagNameKey = .ok tag) : tag.nodeId ≠ some "" := by
  simp only [tagFromCsvRow, bind_eq_ok, pure, Except.pure, Except.ok.injEq] at h
  obtain ⟨_, -, _, -, _, -, _, -, _, -, _, -, rfl⟩ := h
  simp only
  split
  · simp
  · rename_i hne
    simpa using hne

theorem upsertTag_steps (deviceId : Int) {tag : TagSpec F} (h : tag.nodeId ≠ some "") :
    Steps (Write saves) (upsertTag deviceId tag) :=
  (ReadOnly.read _).steps.bind fun _ _ _ _ => saveTag_steps h

theorem importTagsRow_steps (deviceId : Int) (driverType : String) (imported : Nat)
    (row : Csv.Row) :
    Steps (Write saves) (importTagsRow deviceId driverType imported row : StoreAct F Nat) :=
  (ReadOnly.lift _).steps.bind fun _ _ _ h =>
    (upsertTag_steps _ (tagFromCsvRow_nodeId (lift_eq_ok.mp h).1)).bind fun _ _ _ _ =>
      (ReadOnly.pure _).steps

theorem importDevice_steps (state : DeviceImport F) {device : DeviceSpec F}
    (h : device.id = none ∧ device.connection.keys =
      (connectionFieldsForDriver device.driverType).map ConnectionField.key) :
    Steps (Write saves) (importDevice state device) := by
  rw [importDevice]
  cases state.devicesByKey.get? (deviceImportKey device) with
  | none => exact (saveDevice_steps h.1 h.2).bind fun _ _ _ _ => (ReadOnly.pure _).steps
  | some existing => exact (ReadOnly.bind (.lift _) fun _ => .pure _).steps

theorem importDevicesRow_steps (state : DeviceImport F) (row : Csv.Row) :
    Steps (Write saves) (importDevicesRow state row) := by
  refine (ReadOnly.lift _).steps.bind fun device _ _ hdevice => ?_
  have hkeys := deviceFromCsvRow_keys (lift_eq_ok.mp hdevice).1
  refine (importDevice_steps state hkeys).bind fun ⟨existing, state⟩ _ _ _ => ?_
  simp only
  split
  · exact (ReadOnly.pure _).steps
  · exact (ReadOnly.lift _).steps.bind fun _ _ _ htag =>
      (upsertTag_steps _ (tagFromCsvRow_nodeId (lift_eq_ok.mp htag).1)).bind fun _ _ _ _ =>
        (ReadOnly.pure _).steps

theorem csvPluginConfig_keys {sinkType : String} {row : Csv.Row} {config : Settings F}
    (h : csvPluginConfig sinkType row = .ok config) :
    config.keys = (pluginFields sinkType).map PluginField.key := by
  obtain ⟨values, -, hconfig⟩ := bind_eq_ok.mp h
  exact keys_normalizePluginConfig hconfig

theorem importPluginRow_keys {row : Csv.Row} {config : SinkConfig F} {s t : ConfigStore F}
    (h : importPluginRow row s = (.ok config, t)) : SchemaKeys config := by
  simp only [importPluginRow, Fallible.bind_eq_ok, lift_eq_ok, pure_eq_ok] at h
  obtain ⟨values, _, ⟨hvalues, -⟩, _, _, -, rfl, -⟩ := h
  exact csvPluginConfig_keys hvalues

theorem importPluginRow_steps (row : Csv.Row) :
    Steps (Write saves) (importPluginRow row : StoreAct F (SinkConfig F)) := by
  refine (ReadOnly.lift _).steps.bind fun config _ _ h => ?_
  have hkeys := csvPluginConfig_keys (lift_eq_ok.mp h).1
  refine Steps.bind (saveSinkConfig_steps ?_) fun _ _ _ _ => (ReadOnly.pure _).steps
  exact hkeys

section Imports

variable (hwritten : ∀ route : OutputRouteConfig F, WrittenConfig route.config → saves route)
include hwritten

theorem importPluginRouteRow_steps (devices : OrderedDict (String × String) (DeviceSpec F))
    (existingRoutes : List (OutputRouteConfig F)) (row : Csv.Row) :
    Steps (Write saves) (importPluginRouteRow devices existingRoutes row) :=
  (ReadOnly.lift _).steps.bind fun _ _ _ _ => (ReadOnly.lift _).steps.bind fun _ _ _ h =>
    saveOutputRoute_steps (hwritten _ (written_routeConfig (lift_eq_ok.mp h).1))

theorem importPluginRoutesRow_steps (devices : OrderedDict (String × String) (DeviceSpec F))
    (state : RouteImport F) (row : Csv.Row) :
    Steps (Write saves) (importPluginRoutesRow devices state row) :=
  (importPluginRouteRow_steps hwritten _ _ _).bind fun _ _ _ _ =>
    (ReadOnly.bind (.read _) fun _ => .pure _).steps

theorem importPluginsRow_steps (devices : OrderedDict (String × String) (DeviceSpec F))
    (state : PluginImport F) (row : Csv.Row) :
    Steps (Write saves) (importPluginsRow devices state row) := by
  unfold importPluginsRow
  split
  · exact (importPluginRouteRow_steps hwritten _ _ _).bind fun _ _ _ _ =>
      (ReadOnly.bind (.read _) fun _ => .pure _).steps
  · exact (importPluginRow_steps _).bind fun _ _ _ _ => (ReadOnly.pure _).steps

end Imports

/-- The selected sink config of an import came from a row. -/
theorem importPluginsRow_selectedKeys {devices : OrderedDict (String × String) (DeviceSpec F)}
    {state state' : PluginImport F} {row : Csv.Row} {s t : ConfigStore F}
    (hstate : ∀ config, state.selectedConfig = some config → SchemaKeys config)
    (h : importPluginsRow devices state row s = (.ok state', t)) :
    ∀ config, state'.selectedConfig = some config → SchemaKeys config := by
  unfold importPluginsRow at h
  split at h
  · simp only [Fallible.bind_eq_ok, pure_eq_ok] at h
    obtain ⟨_, _, -, _, _, -, rfl, -⟩ := h
    exact hstate
  · simp only [Fallible.bind_eq_ok, pure_eq_ok] at h
    obtain ⟨saved, _, hsaved, rfl, -⟩ := h
    intro config hconfig
    simp only at hconfig
    split at hconfig
    · cases hconfig
      exact importPluginRow_keys hsaved
    · exact hstate config hconfig

omit [PyRuntime F] in
theorem forRows_steps {R : ConfigStore F → ConfigStore F → Prop} {body : β → Csv.Row → StoreAct F β}
    (h : ∀ state row, Steps R (body state row)) (csvText : String) (init : β) :
    Steps R (forRows csvText init body) := by
  rw [forRows]
  split
  · exact (ReadOnly.raise _).steps
  · exact (ReadOnly.raise _).steps
  · refine (Steps.foldlM h _ _).bind fun _ _ _ _ => ?_
    split
    · exact (ReadOnly.raise _).steps
    · exact (ReadOnly.pure _).steps

theorem readOnly_routeDeviceId (value : PyValue F) :
    ReadOnly (routeDeviceId value : StoreAct F (Option Int)) := by
  unfold routeDeviceId
  split
  · exact .pure _
  · exact .bind (.lift _) fun _ => .bind readOnly_getDevice fun _ => .pure _

theorem readOnly_nextOutputRoute (routeId : Int) :
    ReadOnly (nextOutputRoute routeId : StoreAct F (OutputRouteConfig F)) := by
  refine .bind (.read _) fun routes => .bind (.lift _) fun routes => ?_
  split
  · exact .pure _
  · exact .raise _

theorem saveOutputRoute_writes (payload : Settings F) :
    Steps (Write fun route => SavedRoute route ∧ WrittenConfig route.config)
      (saveOutputRoute payload) := by
  refine (ReadOnly.lift _).steps.bind fun config _ _ hconfig => ?_
  refine (readOnly_routeDeviceId _).steps.bind fun deviceId _ _ _ => ?_
  refine (ReadOnly.lift _).steps.bind fun routeId _ _ _ => ?_
  have hwritten := written_routeConfig (lift_eq_ok.mp hconfig).1
  refine (saveOutputRoute_steps ((and_iff_right_of_imp fun h => ⟨rfl, ?_, h.readable⟩).mpr ?_)).bind
    fun savedId _ _ _ => (readOnly_nextOutputRoute _).steps
  · simp only
    split
    · exact hwritten.systemHeartbeat
    · exact hwritten
  · simp only
    split
    · exact PyText.stripped_empty
    · exact PyText.stripped_strip _

section Topics

variable {R : ConfigStore F → ConfigStore F → Prop}

/-- Topic resolution writes nothing but routes. -/
theorem resolveOutputRouteTopic_steps
    (hR : ∀ route, WrittenConfig route.config → Steps R (ConfigStore.saveOutputRoute route))
    (resolver : TopicResolver F) (now : String) (routeId : Int) :
    Steps R (resolveOutputRouteTopic resolver now routeId) := by
  refine (ReadOnly.read _).steps.bind fun routes _ _ _ => ?_
  refine (ReadOnly.lift _).steps.bind fun route _ _ _ => ?_
  refine (ReadOnly.lift _).steps.bind fun config _ _ hconfig => ?_
  refine (ReadOnly.lift _).steps.bind fun _ _ _ hmac => ?_
  refine (ReadOnly.read _).steps.bind fun sink _ _ _ => ?_
  obtain ⟨r, rfl⟩ := routeConfig_eq_ok (lift_eq_ok.mp hconfig).1
  have hmac := of_decide_eq_true (raiseUnless_eq_ok.mp (lift_eq_ok.mp hmac).1)
  rw [macAddress_toSettings] at hmac ⊢
  have hwritten := written_topic hmac now (resolveTopic resolver r.macAddress.text sink.config)
    fun topic sensorCount => resolveTopic_ne_blank
  split
  · rename_i e hanswer
    rw [hanswer] at hwritten
    refine (hR _ hwritten).bind fun _ _ _ _ => ?_
    exact (ReadOnly.bind (readOnly_nextOutputRoute _) fun _ => .pure _).steps
  · rename_i topic sensorCount hanswer
    rw [hanswer] at hwritten
    refine (hR _ hwritten).bind fun _ _ _ _ => ?_
    exact (ReadOnly.bind (readOnly_nextOutputRoute _) fun _ => .pure _).steps

theorem refreshDynamicOutputRouteTopics_steps
    (hR : ∀ route, WrittenConfig route.config → Steps R (ConfigStore.saveOutputRoute route))
    (resolver : TopicResolver F) (now : Int → String) :
    Steps R (refreshDynamicOutputRouteTopics resolver now) := by
  refine (ReadOnly.read _).steps.bind fun routes _ _ _ => Steps.foldlM (fun results route => ?_) _ _
  refine (ReadOnly.lift _).steps.bind fun config _ _ _ => ?_
  split
  · exact (ReadOnly.pure _).steps
  · split
    · exact (ReadOnly.pure _).steps
    · exact (resolveOutputRouteTopic_steps hR _ _ _).bind fun _ _ _ _ => (ReadOnly.pure _).steps

end Topics

/-- A refresh of the topics keeps the devices and tags. -/
theorem refreshDynamicOutputRouteTopics_keeps (resolver : TopicResolver F) (now : Int → String)
    (s : ConfigStore F) :
    (refreshDynamicOutputRouteTopics resolver now s).2.devices = s.devices ∧
      (refreshDynamicOutputRouteTopics resolver now s).2.tags = s.tags := by
  let R : ConfigStore F → ConfigStore F → Prop := fun s t =>
    t.devices = s.devices ∧ t.tags = s.tags
  have hR : ∀ route, WrittenConfig route.config → Steps R (ConfigStore.saveOutputRoute route) :=
    fun route _ => (atomic_saveOutputRoute route).steps fun _ _ _ h => saveOutputRoute_eq_ok h
  refine (refreshDynamicOutputRouteTopics_steps hR resolver now).keeps (I := R s) ?_ ⟨rfl, rfl⟩
  rintro t u ⟨hdevices, htags⟩ ⟨htd, htt⟩
  exact ⟨hdevices.trans htd, htags.trans htt⟩

/-- The update of a device writes its row when every check passes. -/
theorem updateDevice_write (deviceId : Int) (payload : Settings F) (s : ConfigStore F) :
    (updateDevice deviceId payload s).2 = s ∨
      ∃ device row, deviceFromPayload (some deviceId) payload = .ok device ∧
        DeviceChecked device row ∧ (updateDevice deviceId payload s).2 = s.updateDevice deviceId row := by
  rw [updateDevice]
  rcases ReadOnly.bind_state readOnly_getDevice _ s with h | ⟨_, -, h⟩
  · exact .inl h
  rw [h]
  rcases ReadOnly.bind_state (.lift _) _ s with h | ⟨device, hdevice, h⟩
  · exact .inl h
  rw [h, bind_state_of_readOnly _ fun _ => readOnly_getDevice]
  obtain ⟨hdevice, -⟩ := lift_eq_ok.mp hdevice
  obtain ⟨hid, hkeys⟩ := deviceFromPayload_keys hdevice
  rcases hsave : saveDevice device s with ⟨e | id, t⟩
  · exact .inl (atomic_saveDevice device s e t hsave)
  · obtain ⟨hvalid, row, hrow, -, -, rfl⟩ := (saveDevice_update hid).mp hsave
    exact .inr ⟨device, row, hdevice, ⟨hvalid, hkeys, hrow⟩, rfl⟩

/-- Every operation but the update of a device is a sequence of writes. -/
theorem operation_writes (op : Operation F) (s : ConfigStore F) :
    Relation.ReflTransGen (Write op.writes) s (op.run s) ∨
      ∃ deviceId payload device row, op = .updateDevice deviceId payload ∧
        deviceFromPayload (some deviceId) payload = .ok device ∧ DeviceChecked device row ∧
        op.run s = s.updateDevice deviceId row := by
  cases op with
  | updateDevice deviceId payload =>
    rcases updateDevice_write deviceId payload s with h | ⟨device, row, hdevice, hchecked, h⟩
    · exact .inl (by rw [Operation.run, h])
    · exact .inr ⟨deviceId, payload, device, row, rfl, hdevice, hchecked, h⟩
  | createDevice payload =>
    refine .inl (Steps.bind (ReadOnly.lift _).steps (fun device _ _ h => ?_) s)
    obtain ⟨hid, hkeys⟩ := deviceFromPayload_keys (lift_eq_ok.mp h).1
    exact (saveDevice_steps hid hkeys).bind fun _ _ _ _ => readOnly_getDevice.steps
  | deleteDevice deviceId =>
    refine .inl (Steps.bind readOnly_getDevice.steps (fun _ _ _ _ => ?_) s)
    exact (Atomic.commit _).steps fun s _ _ h => by
      cases commit_eq_ok.mp h
      exact .deleteDevice s deviceId
  | createTag deviceId payload =>
    refine .inl (Steps.bind readOnly_getDevice.steps (fun _ _ _ _ => ?_) s)
    refine (ReadOnly.lift _).steps.bind fun draft _ _ h => ?_
    exact (saveTagDraft_steps (tagFromPayload_nodeId (lift_eq_ok.mp h).1)).bind fun _ _ _ _ =>
      readOnly_getTag.steps
  | updateTag tagId payload =>
    refine .inl (Steps.bind readOnly_getTag.steps (fun _ _ _ _ => ?_) s)
    refine (ReadOnly.lift _).steps.bind fun deviceId _ _ _ => ?_
    refine (ReadOnly.lift _).steps.bind fun draft _ _ h => ?_
    exact (saveTagDraft_steps (tagFromPayload_nodeId (lift_eq_ok.mp h).1)).bind fun _ _ _ _ =>
      readOnly_getTag.steps
  | deleteTag tagId =>
    refine .inl (Steps.bind readOnly_getTag.steps (fun _ _ _ _ => ?_) s)
    exact (Atomic.commit _).steps fun s _ _ h => by
      cases commit_eq_ok.mp h
      exact .deleteTag s tagId
  | importDevicesCsv csvText =>
    refine .inl (Steps.bind (ReadOnly.read _).steps (fun _ _ _ _ => ?_) s)
    exact (forRows_steps importDevicesRow_steps _ _).bind fun _ _ _ _ => (ReadOnly.pure _).steps
  | importTagsCsv deviceId csvText =>
    exact .inl (Steps.bind readOnly_getDevice.steps
      (fun _ _ _ _ => forRows_steps (importTagsRow_steps _ _) _ _) s)
  | saveSinkConfig payload =>
    refine .inl (Steps.bind (ReadOnly.lift _).steps (fun _ _ _ _ => ?_) s)
    refine (ReadOnly.lift _).steps.bind fun _ _ _ h => ?_
    have hkeys := keys_normalizePluginConfig (lift_eq_ok.mp h).1
    refine Steps.bind (saveSinkConfig_steps ?_) fun _ _ _ _ => (ReadOnly.read _).steps
    exact hkeys
  | importPluginsCsv csvText =>
    refine .inl (Steps.bind (ReadOnly.read _).steps (fun devices _ _ _ => ?_) s)
    refine (ReadOnly.read _).steps.bind fun routes _ _ _ => ?_
    refine (forRows_steps (importPluginsRow_steps (fun _ h => ⟨h.readable, h⟩) _) _ _).bind fun state _ _ h => ?_
    have hkeys : ∀ config, state.selectedConfig = some config → SchemaKeys config :=
      foldlM_variable (fun _ _ _ _ _ => importPluginsRow_selectedKeys)
        (fun _ hnone => by cases hnone) (forRows_eq_ok h)
    cases hselected : state.selectedConfig with
    | none => exact (ReadOnly.pure _).steps
    | some config =>
      exact (saveSinkConfig_steps (hkeys config hselected)).bind fun _ _ _ _ =>
        (ReadOnly.pure _).steps
  | saveOutputRoute payload => exact .inl (saveOutputRoute_writes payload s)
  | deleteOutputRoute routeId =>
    refine .inl (Steps.bind (ReadOnly.lift _).steps (fun _ _ _ _ => ?_) s)
    exact (Atomic.commit _).steps fun s _ _ h => by
      cases commit_eq_ok.mp h
      exact .deleteRoute s routeId
  | importPluginRoutesCsv csvText =>
    refine .inl (Steps.bind (ReadOnly.read _).steps (fun devices _ _ _ => ?_) s)
    refine (ReadOnly.read _).steps.bind fun routes _ _ _ => ?_
    exact (forRows_steps (importPluginRoutesRow_steps (fun _ h => ⟨h.readable, h⟩) _) _ _).bind fun _ _ _ _ =>
      (ReadOnly.pure _).steps
  | resolveOutputRouteTopic resolver now routeId =>
    exact .inl (resolveOutputRouteTopic_steps (fun _ h => saveOutputRoute_steps ⟨h.readable, h⟩)
      resolver now routeId s)
  | refreshDynamicOutputRouteTopics resolver now =>
    exact .inl (refreshDynamicOutputRouteTopics_steps
      (fun _ h => saveOutputRoute_steps ⟨h.readable, h⟩) resolver now s)

end ConfigService

/-- An invariant holds at first and is kept by each write and by the updates of
devices that the run allows. -/
theorem Reachable.invariant_writes {allowed : Operation F → ConfigStore F → Prop}
    {I : ConfigStore F → Prop} (hinit : I ConfigStore.initialized)
    (hwrite : ∀ op s t, (∃ s₀, allowed op s₀) → Write op.writes s t → I s → I t)
    (hupdate : ∀ s deviceId payload device row, allowed (.updateDevice deviceId payload) s →
      ConfigService.deviceFromPayload (some deviceId) payload = .ok device →
      DeviceChecked device row → I s → I (s.updateDevice deviceId row))
    {s : ConfigStore F} (h : Reachable allowed s) : I s := by
  induction h with
  | initialized => exact hinit
  | @run s op _ hop ih =>
    rcases ConfigService.operation_writes op s with
      hsteps | ⟨deviceId, payload, device, row, rfl, hdevice, hchecked, hrun⟩
    · generalize op.run s = t at hsteps
      induction hsteps with
      | refl => exact ih
      | tail _ hstep ih => exact hwrite op _ _ ⟨_, hop⟩ hstep ih
    · rw [hrun]
      exact hupdate s deviceId payload device row hop hdevice hchecked ih

/-- The same for an invariant that asks nothing of the texts of a route. -/
theorem Reachable.invariant {allowed : Operation F → ConfigStore F → Prop}
    {I : ConfigStore F → Prop} (hinit : I ConfigStore.initialized)
    (hwrite : ∀ op s t, (∃ s₀, allowed op s₀) → Write op.saves s t → I s → I t)
    (hupdate : ∀ s deviceId payload device row, allowed (.updateDevice deviceId payload) s →
      ConfigService.deviceFromPayload (some deviceId) payload = .ok device →
      DeviceChecked device row → I s → I (s.updateDevice deviceId row))
    {s : ConfigStore F} (h : Reachable allowed s) : I s :=
  h.invariant_writes hinit
    (fun op s t hop hstep => hwrite op s t hop (hstep.mono fun _ hwrites => hwrites.1)) hupdate

end IndustrialGateway
