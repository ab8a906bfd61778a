import IndustrialGateway.ConfigRuns
import IndustrialGateway.DeviceRows
import IndustrialGateway.Lib.WholeFloat

/-!
# The file of the sink configs

What `import_plugins_csv` makes of the file that `export_plugins_csv` wrote of a
store without routes: the same sink configs, as far as the columns of the file
and the cells of a row can carry their settings, and the same selection.
-/

namespace IndustrialGateway

open ConfigStore Fallible

namespace ConfigService

variable {F : Type} [PyRuntime F]

-- ---------------------------------------------------------------------------
-- Cells
-- ---------------------------------------------------------------------------

/-- The kind of value that the importer reads for a field. -/
def OfPluginKind : PluginFieldKind → PyValue F → Prop
  | .int, .int _ => True
  | .bool, .bool _ => True
  | .text, .str _ => True
  | .password, .str _ => True
  | _, _ => False

/-- A value that a cell carries: the default of the field, or a value of its
kind with a text that is not blank. -/
def Carried (field : PluginField) (value : PyValue F) : Prop :=
  value = field.default.value ∨ OfPluginKind field.kind value ∧ PyText.strip value.text ≠ ""

def pluginCsvKeys : List String := ["record_type", "sink_type", "selected", "enabled"]

omit [PyRuntime F] in
theorem keys_pluginCsvColumns (config : SinkConfig F) (selected : Bool) :
    (pluginCsvColumns config selected).map Prod.fst = pluginCsvKeys := rfl

theorem csvCell_pluginCsvRow (config : SinkConfig F) (selected : Bool) {key : String}
    (hkey : key ∈ pluginCsvFields) :
    csvCell (pluginCsvRow config selected) key =
      csvText (((OrderedDict.lookup key (pluginCsvColumns config selected)).or
        (config.config.get? key)).getD (.str "")) := by
  have hn : ((pluginCsvColumns config selected).map Prod.fst).Nodup := by
    rw [keys_pluginCsvColumns]
    decide
  rw [csvCell, pluginCsvRow, ConfigService.optional, get?_connectionColumns, if_pos hkey,
    OrderedDict.get?_ofList_of_nodup hn]

variable {config : SinkConfig F} {selected : Bool} {key : String} {value : PyValue F}

theorem cell_pluginColumn (hkey : key ∈ pluginCsvFields)
    (h : OrderedDict.lookup key (pluginCsvColumns config selected) = some value) :
    cell (readBack pluginCsvFields (pluginCsvRow config selected)) key = some (csvText value) := by
  rw [cell_readBack (by decide), if_pos hkey, csvCell_pluginCsvRow config selected hkey, h]
  rfl

/-- A setting with no column of its own is lost. -/
theorem cell_pluginSetting (hcolumn : key ∉ pluginCsvKeys) (h : config.config.get? key = some value) :
    cell (readBack pluginCsvFields (pluginCsvRow config selected)) key =
      if key ∈ pluginCsvFields then some (csvText value) else none := by
  have hlookup : OrderedDict.lookup key (pluginCsvColumns config selected) = none :=
    OrderedDict.lookup_eq_none.mpr hcolumn
  rw [cell_readBack (by decide)]
  split
  · rename_i hkey
    rw [csvCell_pluginCsvRow config selected hkey, hlookup, h]
    rfl
  · rfl

theorem pluginField_column {sinkType : String} :
    ∀ field ∈ pluginFields sinkType, field.key ∉ pluginCsvKeys :=
  pluginFields_induction (P := fun fields => ∀ field ∈ fields, field.key ∉ pluginCsvKeys)
    (by decide) (by simp) sinkType

theorem ofPluginKind_default {sinkType : String} :
    ∀ field ∈ pluginFields sinkType, OfPluginKind field.kind (field.default.value : PyValue F) := by
  refine pluginFields_induction
    (P := fun fields => ∀ field ∈ fields, OfPluginKind field.kind (field.default.value : PyValue F)) ?_
    (by simp) sinkType
  simp [allPluginFields, OfPluginKind, Literal.value]

theorem Carried.ofKind {sinkType : String} {field : PluginField} (h : Carried field value)
    (hfield : field ∈ pluginFields sinkType) : OfPluginKind field.kind value := by
  rcases h with rfl | ⟨h, -⟩
  · exact ofPluginKind_default field hfield
  · exact h

theorem csvText_of_ofPluginKind {kind : PluginFieldKind} (h : OfPluginKind kind value) :
    csvText value = value.text := by
  cases value with
  | none => cases kind <;> exact h.elim
  | _ => rfl

omit [PyRuntime F] in
theorem checkJson_of_ofPluginKind {kind : PluginFieldKind} (h : OfPluginKind kind value) :
    value.checkJson = .ok () := by
  cases value with
  | list xs => cases kind <;> exact h.elim
  | dict kvs => cases kind <;> exact h.elim
  | object name text => cases kind <;> exact h.elim
  | _ => simp [PyValue.checkJson]

/-- The importer reads back the text of a value of the right kind. -/
theorem csvPluginValue_text {kind : PluginFieldKind} (h : OfPluginKind kind value) :
    csvPluginValue kind value.text = .ok value := by
  have htruths : csvTruths.contains (PyText.lower (PyText.strip "True")) = true ∧
      csvTruths.contains (PyText.lower (PyText.strip "False")) = false := by decide
  cases kind with
  | int =>
    cases value with
    | int n => simp [csvPluginValue, csvInt, PyValue.text, PyValue.repr, PyValue.toInt,
        PyText.intOfText_textOfInt, Except.map]
    | _ => exact h.elim
  | bool =>
    cases value with
    | bool b =>
      refine congrArg (fun b => Except.ok (PyValue.bool b)) ?_
      cases b
      · exact htruths.2
      · exact htruths.1
    | _ => exact h.elim
  | text =>
    cases value with
    | str s => rfl
    | _ => exact h.elim
  | password =>
    cases value with
    | str s => rfl
    | _ => exact h.elim

-- ---------------------------------------------------------------------------
-- Rows
-- ---------------------------------------------------------------------------

/-- What the file brings back of a setting: a setting without a column is the
default again. -/
def keptValue (config : Settings F) (field : PluginField) : PyValue F :=
  if field.key ∈ pluginCsvFields then (config.get? field.key).getD field.default.value
  else field.default.value

def keptSettings (sinkType : String) (config : Settings F) : Settings F :=
  .ofList ((pluginFields sinkType).map fun field => (field.key, keptValue config field))

def keptConfig (config : SinkConfig F) : SinkConfig F :=
  { config with config := keptSettings config.sinkType config.config }

/-- A sink config that the importer can read back: the settings of its schema,
and those with a column in a form that the cell carries. -/
structure PortableSink (config : SinkConfig F) : Prop where
  sinkType : Plain config.sinkType
  keys : SchemaKeys config
  carried : ∀ field ∈ pluginFields config.sinkType, field.key ∈ pluginCsvFields →
    ∀ value, config.config.get? field.key = some value → Carried field value

theorem nodup_keptSettings (sinkType : String) (config : Settings F) :
    (((pluginFields sinkType).map fun field => (field.key, keptValue config field)).map
      Prod.fst).Nodup := by
  simpa [Function.comp_def] using nodup_pluginFields sinkType

theorem keys_keptSettings (sinkType : String) (config : Settings F) :
    (keptSettings sinkType config).keys = (pluginFields sinkType).map PluginField.key := by
  rw [keptSettings, OrderedDict.keys, OrderedDict.entries_ofList (nodup_keptSettings _ _)]
  simp [Function.comp_def]

theorem get?_keptSettings {sinkType : String} {field : PluginField}
    (hfield : field ∈ pluginFields sinkType) (config : Settings F) :
    (keptSettings sinkType config).get? field.key = some (keptValue config field) := by
  rw [OrderedDict.get?_eq_some, keptSettings, OrderedDict.entries_ofList (nodup_keptSettings _ _)]
  exact List.mem_map.mpr ⟨field, hfield, rfl⟩

theorem PortableSink.get? (h : PortableSink config) {field : PluginField}
    (hfield : field ∈ pluginFields config.sinkType) :
    ∃ value, config.config.get? field.key = some value := by
  rw [← OrderedDict.mem_keys_iff, h.keys]
  exact List.mem_map_of_mem hfield

/-- What the importer finds in the cell of a setting. -/
def foundPluginSetting (config : Settings F) (key : String) : Option (PyValue F) :=
  (config.get? key).filter fun value => key ∈ pluginCsvFields ∧ PyText.strip value.text ≠ ""

theorem readSetting_pluginCsvRow (h : PortableSink config) {field : PluginField}
    (hfield : field ∈ pluginFields config.sinkType) :
    readSetting (readBack pluginCsvFields (pluginCsvRow config selected))
        (field.key, csvPluginValue field.kind) =
      .ok (foundPluginSetting config.config field.key) := by
  obtain ⟨value, hvalue⟩ := h.get? hfield
  rw [readSetting, cell_pluginSetting (pluginField_column field hfield) hvalue, foundPluginSetting,
    hvalue]
  by_cases hcolumn : field.key ∈ pluginCsvFields
  · have hkind := (h.carried field hfield hcolumn value hvalue).ofKind hfield
    rw [if_pos hcolumn, csvText_of_ofPluginKind hkind]
    by_cases hblank : PyText.strip value.text = ""
    · simp [hblank, Option.filter]
    · simp [hblank, hcolumn, Option.filter, csvPluginValue_text hkind, Except.map]
  · simp [hcolumn, Option.filter]

theorem keptValue_eq (h : PortableSink config) {field : PluginField}
    (hfield : field ∈ pluginFields config.sinkType) :
    (foundPluginSetting config.config field.key).getD field.default.value =
      keptValue config.config field := by
  obtain ⟨value, hvalue⟩ := h.get? hfield
  rw [foundPluginSetting, keptValue, hvalue]
  by_cases hcolumn : field.key ∈ pluginCsvFields
  · rcases h.carried field hfield hcolumn value hvalue with rfl | ⟨-, htext⟩
    · simp only [Option.filter, if_pos hcolumn, Option.getD_some]
      split <;> rfl
    · simp [Option.filter, hcolumn, htext]
  · simp [Option.filter, hcolumn]

theorem csvPluginConfig_pluginCsvRow (h : PortableSink config) (selected : Bool) :
    csvPluginConfig config.sinkType (readBack pluginCsvFields (pluginCsvRow config selected)) =
      .ok (keptSettings config.sinkType config.config) := by
  have hread : ∀ field ∈ (pluginFields config.sinkType).map fun f => (f.key, csvPluginValue f.kind),
      readSetting (readBack pluginCsvFields (pluginCsvRow config selected)) field =
        .ok (foundPluginSetting config.config field.1) := by
    rintro _ hmem
    obtain ⟨field, hfield, rfl⟩ := List.mem_map.mp hmem
    exact readSetting_pluginCsvRow h hfield
  obtain ⟨settings, hsettings, hkeys, hget⟩ :=
    readSettings_ok (nodup_pluginDefaults config.sinkType) (by simp [Function.comp_def]) hread
  refine hsettings.trans (congrArg Except.ok ?_)
  have hkeys : settings.keys = (keptSettings config.sinkType config.config).keys := by
    rw [hkeys, keys_keptSettings]
    simp [Function.comp_def]
  refine OrderedDict.ext_get? hkeys fun key => ?_
  by_cases hkey : key ∈ (keptSettings config.sinkType config.config).keys
  · rw [keys_keptSettings] at hkey
    obtain ⟨field, hfield, rfl⟩ := List.mem_map.mp hkey
    rw [hget (field.key, field.default) (List.mem_map_of_mem hfield), keptValue_eq h hfield,
      get?_keptSettings hfield]
  · rw [OrderedDict.get?_eq_none.mpr hkey, OrderedDict.get?_eq_none.mpr (hkeys ▸ hkey)]

theorem checkJson_keptSettings (h : PortableSink config) :
    PyValue.checkJsonDict (keptConfig config).config.entries = .ok () := by
  refine PyValue.checkJsonDict_eq_ok.mpr fun p hp => ?_
  rw [keptConfig, keptSettings, OrderedDict.entries_ofList (nodup_keptSettings _ _)] at hp
  obtain ⟨field, hfield, rfl⟩ := List.mem_map.mp hp
  obtain ⟨value, hvalue⟩ := h.get? hfield
  simp only [keptValue, hvalue, Option.getD_some]
  split
  · rename_i hcolumn
    exact checkJson_of_ofPluginKind ((h.carried field hfield hcolumn value hvalue).ofKind hfield)
  · exact checkJson_of_ofPluginKind (ofPluginKind_default field hfield)

/-- What is left in the store of a sink config. -/
def savedSink (s : ConfigStore F) (config : SinkConfig F) : ConfigStore F :=
  s.upsertSinkConfig config.sinkType ⟨config.enabled, config.config⟩

theorem importPluginRow_pluginCsvRow (h : PortableSink config) (selected : Bool)
    (s : ConfigStore F) :
    importPluginRow (readBack pluginCsvFields (pluginCsvRow config selected)) s =
      (.ok (keptConfig config), savedSink s (keptConfig config)) := by
  have htype : cell (readBack pluginCsvFields (pluginCsvRow config selected)) "sink_type" =
      some (csvText (.str config.sinkType : PyValue F)) := cell_pluginColumn (by decide) rfl
  have henabled : cell (readBack pluginCsvFields (pluginCsvRow config selected)) "enabled" =
      some (csvText (boolInt config.enabled : PyValue F)) := cell_pluginColumn (by decide) rfl
  have hsave : ConfigStore.saveSinkConfig (keptConfig config) s =
      (.ok (), savedSink s (keptConfig config)) :=
    saveSinkConfig_eq_ok.mpr ⟨checkJson_keptSettings h, rfl⟩
  simp only [importPluginRow, cellOr, htype, henabled, csvText_str, csvBool_boolInt,
    strip_textOr_of_plain h.sinkType, csvPluginConfig_pluginCsvRow h]
  exact Fallible.bind_eq_ok.mpr ⟨_, s, rfl, Fallible.bind_eq_ok.mpr ⟨_, _, hsave, rfl⟩⟩

theorem importPluginsRow_pluginCsvRow (h : PortableSink config) (selected : Bool)
    (devices : OrderedDict (String × String) (DeviceSpec F)) (state : PluginImport F)
    (s : ConfigStore F) :
    importPluginsRow devices state (readBack pluginCsvFields (pluginCsvRow config selected)) s =
      (.ok { state with
        selectedConfig := if selected then some (keptConfig config) else state.selectedConfig
        plugins := state.plugins + 1 }, savedSink s (keptConfig config)) := by
  have hrecord : cell (readBack pluginCsvFields (pluginCsvRow config selected)) "record_type" =
      some (csvText (.str "plugin" : PyValue F)) := cell_pluginColumn (by decide) rfl
  have hselected : cell (readBack pluginCsvFields (pluginCsvRow config selected)) "selected" =
      some (csvText (boolInt selected : PyValue F)) := cell_pluginColumn (by decide) rfl
  have hplugin : PyText.lower (PyText.strip (textOr (some "plugin") "plugin")) ≠ "route" := by decide
  rw [importPluginsRow, cellOr, hrecord, csvText_str, if_neg hplugin,
    Fallible.bind_eq_of_ok (importPluginRow_pluginCsvRow h selected s), hselected, csvBool_boolInt]
  rfl

-- ---------------------------------------------------------------------------
-- Files
-- ---------------------------------------------------------------------------

def keptEntry (config : SinkConfig F) : String × SinkRow F :=
  (config.sinkType, ⟨config.enabled, keptSettings config.sinkType config.config⟩)

/-- The import of exported rows saves every config and remembers the selected one. -/
theorem importPluginsRows_ok (devices : OrderedDict (String × String) (DeviceSpec F))
    (selected : String) {configs : List (SinkConfig F)} (h : ∀ config ∈ configs, PortableSink config)
    (state : PluginImport F) (s : ConfigStore F) :
    ∃ state' t, (configs.map fun config => readBack pluginCsvFields
        (pluginCsvRow config (config.sinkType = selected))).foldlM (importPluginsRow devices) state s =
          (.ok state', t) ∧
      t.sinkConfigs = s.sinkConfigs.update (configs.map keptEntry) ∧
      (state'.selectedConfig = state.selectedConfig ∧
          (∀ config ∈ configs, config.sinkType ≠ selected) ∨
        ∃ config ∈ configs, config.sinkType = selected ∧
          state'.selectedConfig = some (keptConfig config)) := by
  induction configs generalizing state s with
  | nil => exact ⟨state, s, rfl, rfl, .inl ⟨rfl, fun _ hmem => nomatch hmem⟩⟩
  | cons config configs ih =>
    have hrow := importPluginsRow_pluginCsvRow (h config List.mem_cons_self)
      (decide (config.sinkType = selected)) devices state s
    obtain ⟨state', t, hrest, hconfigs, hselected⟩ :=
      ih (fun c hc => h c (List.mem_cons_of_mem _ hc)) _ (savedSink s (keptConfig config))
    refine ⟨state', t, ?_, hconfigs, ?_⟩
    · rw [List.map_cons, List.foldlM_cons]
      exact Fallible.bind_eq_ok.mpr ⟨_, _, hrow, hrest⟩
    · rcases hselected with ⟨hsame, hothers⟩ | ⟨found, hfound, hselected⟩
      · by_cases htype : config.sinkType = selected
        · refine .inr ⟨config, List.mem_cons_self, htype, ?_⟩
          rw [hsame]
          simp [htype]
        · refine .inl ⟨?_, ?_⟩
          · rw [hsame]
            simp [htype]
          · rintro c (_ | ⟨_, hc⟩)
            · exact htype
            · exact hothers c hc
      · exact .inr ⟨found, List.mem_cons_of_mem _ hfound, hselected⟩

/-- The import of a written file goes through the written rows and saves the
selected config again. -/
theorem importPluginsCsv_written (rows : List (Settings F)) (t : ConfigStore F) :
    importPluginsCsv (Csv.dictWriter pluginCsvFields (rows.map csvCell)) t =
      ((rows.map (readBack pluginCsvFields)).foldlM (importPluginsRow (devicesByKey t))
        ⟨t.listOutputRoutes, none, 0, 0⟩ >>= fun result => do
          match result.selectedConfig with
          | some config => ConfigStore.saveSinkConfig config
          | none => pure ()
          return (result.plugins, result.routes)) t := by
  have hdevices : (Fallible.read devicesByKey : StoreAct F _) t = (.ok (devicesByKey t), t) := rfl
  have hroutes : (Fallible.read ConfigStore.listOutputRoutes : StoreAct F _) t =
      (.ok t.listOutputRoutes, t) := rfl
  have hfields : pluginCsvFields ≠ [] := List.cons_ne_nil _ _
  have hloop := forRows_dictWriter hfields rows ⟨t.listOutputRoutes, none, 0, 0⟩
    (importPluginsRow (devicesByKey t))
  rw [importPluginsCsv, Fallible.bind_eq_of_ok hdevices, Fallible.bind_eq_of_ok hroutes]
  exact congrFun (congrArg (· >>= _) hloop) t

/-- The import of the exported configs into a new store: each is there as its row
brings it back, and the selected one is selected. -/
theorem importPluginsCsv_rows {selected : String} {configs : List (SinkConfig F)}
    (h : ∀ config ∈ configs, PortableSink config) (hn : (configs.map SinkConfig.sinkType).Nodup)
    (hselected : ∃ config ∈ configs, config.sinkType = selected) :
    ∃ imported t, importPluginsCsv (Csv.dictWriter pluginCsvFields ((configs.map fun config =>
        pluginCsvRow config (config.sinkType = selected)).map csvCell)) (initialized : ConfigStore F) =
          (.ok imported, t) ∧
      t.sinkSelection = some selected ∧
      ∀ sinkType, t.sinkConfigs.get? sinkType =
        OrderedDict.lookup sinkType (configs.map keptEntry) := by
  have hkeys : ((configs.map keptEntry).map Prod.fst).Nodup := by
    rw [List.map_map]
    exact hn
  obtain ⟨state, t, hrows, hconfigs, hfound⟩ := importPluginsRows_ok
    (devicesByKey (initialized : ConfigStore F)) selected h
    ⟨(initialized : ConfigStore F).listOutputRoutes, none, 0, 0⟩ initialized
  obtain ⟨config, hconfig, htype, hstate⟩ : ∃ config ∈ configs, config.sinkType = selected ∧
      state.selectedConfig = some (keptConfig config) := by
    rcases hfound with ⟨-, hothers⟩ | hfound
    · obtain ⟨config, hconfig, htype⟩ := hselected
      exact absurd htype (hothers config hconfig)
    · exact hfound
  have hagain : ConfigStore.saveSinkConfig (keptConfig config) t =
      (.ok (), savedSink t (keptConfig config)) :=
    saveSinkConfig_eq_ok.mpr ⟨checkJson_keptSettings (h config hconfig), rfl⟩
  refine ⟨(state.plugins, state.routes), savedSink t (keptConfig config), ?_, ?_, ?_⟩
  · rw [importPluginsCsv_written, List.map_map, Function.comp_def, Fallible.bind_eq_of_ok hrows, hstate]
    exact Fallible.bind_eq_of_ok hagain
  · exact congrArg some htype
  · intro sinkType
    have hlookup : OrderedDict.lookup config.sinkType (configs.map keptEntry) =
        some (keptEntry config).2 :=
      (OrderedDict.lookup_eq_some hkeys).mpr (List.mem_map.mpr ⟨config, hconfig, rfl⟩)
    have hget : (savedSink t (keptConfig config)).sinkConfigs.get? sinkType =
        if config.sinkType = sinkType then some (keptEntry config).2
        else t.sinkConfigs.get? sinkType := OrderedDict.get?_set ..
    rw [hget, hconfigs, OrderedDict.get?_update_of_nodup _ hkeys]
    split
    · rename_i hsame
      rw [← hsame, hlookup]
    · exact Option.or_none ..

-- ---------------------------------------------------------------------------
-- Stores
-- ---------------------------------------------------------------------------

variable {s t : ConfigStore F}

/-- The stored sink configs have the settings of their schemas, and the selected
type is one of them. -/
structure SavedSinks (s : ConfigStore F) : Prop where
  keys : ∀ sinkType row, s.sinkConfigs.get? sinkType = some row →
    SchemaKeys ⟨sinkType, row.enabled, row.config⟩
  selected : ∀ sinkType, s.sinkSelection = some sinkType →
    ∃ row, s.sinkConfigs.get? sinkType = some row

omit [PyRuntime F] in
theorem SavedSinks.congr (h : SavedSinks s) (hconfigs : t.sinkConfigs = s.sinkConfigs)
    (hselection : t.sinkSelection = s.sinkSelection) : SavedSinks t := by
  refine ⟨?_, ?_⟩
  · intro sinkType row hrow
    exact h.keys sinkType row (hconfigs ▸ hrow)
  · intro sinkType hselected
    rw [hconfigs]
    exact h.selected sinkType (hselection ▸ hselected)

omit [PyRuntime F] in
theorem SavedSinks.saveSink (h : SavedSinks s) {config : SinkConfig F} (hkeys : SchemaKeys config) :
    SavedSinks (s.upsertSinkConfig config.sinkType ⟨config.enabled, config.config⟩) := by
  refine ⟨?_, ?_⟩
  · intro sinkType row hrow
    simp only [upsertSinkConfig, OrderedDict.get?_set] at hrow
    split at hrow
    · rename_i htype
      cases hrow
      subst htype
      exact hkeys
    · exact h.keys sinkType row hrow
  · rintro sinkType ⟨⟩
    exact ⟨_, OrderedDict.get?_set_self ..⟩

theorem SavedSinks.write (h : SavedSinks s) {saves : OutputRouteConfig F → Prop}
    (hwrite : Write saves s t) : SavedSinks t := by
  cases hwrite with
  | insertDevice hrow hid => exact h.congr rfl rfl
  | deleteDevice deviceId => exact h.congr rfl rfl
  | writeTag hadmitted hnode hwrite =>
    have hsame := (writeTag_rows hwrite).1
    exact h.congr hsame.sinkConfigs hsame.sinkSelection
  | deleteTag tagId => exact h.congr rfl rfl
  | saveRoute hsaves hsave =>
    have hsame := saveOutputRoute_same hsave
    exact h.congr hsame.sinkConfigs hsame.sinkSelection
  | deleteRoute routeId => exact h.congr rfl rfl
  | saveSink hkeys => exact h.saveSink hkeys

theorem savedSinks_of_reachable {allowed : Operation F → ConfigStore F → Prop}
    (h : Reachable allowed s) : SavedSinks s := by
  refine h.invariant ?_ (fun _ _ _ _ hwrite h => h.write hwrite) ?_
  · refine ⟨fun sinkType row hrow => ?_, fun sinkType hselected => ?_⟩
    · cases hrow
    · cases hselected
  · intro s deviceId payload device row _ _ _ h
    exact h.congr rfl rfl

omit [PyRuntime F] in
theorem mem_listSinkConfigs :
    config ∈ s.listSinkConfigs ↔
      s.sinkConfigs.get? config.sinkType = some ⟨config.enabled, config.config⟩ := by
  simp only [listSinkConfigs, mem_orderBy, List.mem_map, Prod.exists, OrderedDict.get?_eq_some]
  constructor
  · rintro ⟨sinkType, row, hmem, rfl⟩
    exact hmem
  · rintro hmem
    exact ⟨_, _, hmem, rfl⟩

omit [PyRuntime F] in
theorem nodup_listSinkConfigs (s : ConfigStore F) :
    (s.listSinkConfigs.map SinkConfig.sinkType).Nodup := by
  have hperm : s.listSinkConfigs.Perm
      (s.sinkConfigs.entries.map fun e => ⟨e.1, e.2.enabled, e.2.config⟩) := perm_orderBy _ _
  rw [(hperm.map _).nodup_iff, List.map_map]
  exact s.sinkConfigs.nodup

/-- What the file of a store without routes says. -/
theorem exportPluginsCsv_eq {selected : String} (h : SavedSinks s)
    (hselected : s.sinkSelection = some selected) (hroutes : s.listOutputRoutes = []) :
    exportPluginsCsv s = .ok (Csv.dictWriter pluginCsvFields
      ((s.listSinkConfigs.map fun config =>
        pluginCsvRow config (config.sinkType = selected)).map csvCell)) := by
  have htype : s.getSelectedSinkType = selected := by
    rw [getSelectedSinkType, hselected]
    rfl
  have hn : ((s.listSinkConfigs.map fun config => (config.sinkType, config)).map Prod.fst).Nodup := by
    rw [List.map_map]
    exact nodup_listSinkConfigs s
  obtain ⟨row, hrow⟩ := h.selected selected hselected
  have hknown : (OrderedDict.ofList
      (s.listSinkConfigs.map fun config => (config.sinkType, config))).contains selected = true := by
    rw [OrderedDict.contains_iff, OrderedDict.mem_keys_ofList, List.map_map]
    exact List.mem_map.mpr ⟨⟨selected, row.enabled, row.config⟩, mem_listSinkConfigs.mpr hrow, rfl⟩
  have hconfigs : (exportedSinkConfigs s).values = s.listSinkConfigs := by
    simp only [exportedSinkConfigs, htype, if_pos hknown, OrderedDict.values,
      OrderedDict.entries_ofList hn, List.map_map]
    exact List.map_id _
  simp only [exportPluginsCsv, pluginRouteCsvRows, hroutes, pluginCsvRows, hconfigs, htype]
  rw [List.mapM_nil, pure_bind, List.append_nil]
  rfl

-- ---------------------------------------------------------------------------
-- The round trip
-- ---------------------------------------------------------------------------

/-- Every setting with a column is in a form that its cell carries. -/
def CarriesSettings (sinkType : String) (row : SinkRow F) : Prop :=
  ∀ field ∈ pluginFields sinkType, field.key ∈ pluginCsvFields →
    ∀ value ∈ row.config.get? field.key, Carried field value

/-- The same settings, and the same values of those that have a column or the
default. -/
structure SameSink (sinkType : String) (row row' : SinkRow F) : Prop where
  enabled : row'.enabled = row.enabled
  keys : row'.config.keys = row.config.keys
  settings : ∀ field ∈ pluginFields sinkType,
    field.key ∈ pluginCsvFields ∨ row.config.get? field.key = some field.default.value →
      row'.config.get? field.key = row.config.get? field.key

theorem plain_sinkType : ∀ sinkType ∈ allPluginFields.map Prod.fst, Plain sinkType := by
  unfold Plain
  decide

theorem sameSink_kept (hkeys : SchemaKeys config) :
    SameSink config.sinkType ⟨config.enabled, config.config⟩
      ⟨config.enabled, keptSettings config.sinkType config.config⟩ := by
  refine ⟨rfl, (keys_keptSettings _ _).trans hkeys.symm, fun field hfield hkept => ?_⟩
  obtain ⟨value, hvalue⟩ : ∃ value, config.config.get? field.key = some value := by
    rw [← OrderedDict.mem_keys_iff, hkeys]
    exact List.mem_map_of_mem hfield
  simp only [get?_keptSettings hfield, keptValue, hvalue] at hkept ⊢
  rcases hkept with hcolumn | hdefault
  · rw [if_pos hcolumn]
    rfl
  · cases hdefault
    split <;> rfl

/-- The import of the file that a store without routes exports brings its sink
configs and their selection into a new store. -/
theorem importPluginsCsv_exportPluginsCsv {allowed : Operation F → ConfigStore F → Prop}
    {selected : String} (hs : Reachable allowed s) (hroutes : s.listOutputRoutes = [])
    (htypes : ∀ sinkType ∈ s.sinkConfigs.keys, sinkType ∈ allPluginFields.map Prod.fst)
    (hselected : s.sinkSelection = some selected)
    (hcarried : ∀ sinkType row, s.sinkConfigs.get? sinkType = some row →
      CarriesSettings sinkType row) :
    ∃ csvText imported t, exportPluginsCsv s = .ok csvText ∧
      importPluginsCsv csvText initialized = (.ok imported, t) ∧
      t.sinkSelection = some selected ∧
      ∀ sinkType, Option.Rel (SameSink sinkType) (s.sinkConfigs.get? sinkType)
        (t.sinkConfigs.get? sinkType) := by
  have hsaved := savedSinks_of_reachable hs
  have hportable : ∀ config ∈ s.listSinkConfigs, PortableSink config := by
    intro config hconfig
    have hrow := mem_listSinkConfigs.mp hconfig
    refine ⟨plain_sinkType _ (htypes _ ?_), hsaved.keys _ _ hrow, hcarried _ _ hrow⟩
    exact OrderedDict.mem_keys_iff.mpr ⟨_, hrow⟩
  have hfound : ∃ config ∈ s.listSinkConfigs, config.sinkType = selected := by
    obtain ⟨row, hrow⟩ := hsaved.selected selected hselected
    exact ⟨⟨selected, row.enabled, row.config⟩, mem_listSinkConfigs.mpr hrow, rfl⟩
  obtain ⟨imported, t, himport, hselection, hget⟩ :=
    importPluginsCsv_rows hportable (nodup_listSinkConfigs s) hfound
  refine ⟨_, imported, t, exportPluginsCsv_eq hsaved hselected hroutes, himport, hselection, ?_⟩
  intro sinkType
  have hn : ((s.listSinkConfigs.map keptEntry).map Prod.fst).Nodup := by
    rw [List.map_map]
    exact nodup_listSinkConfigs s
  cases hrow : s.sinkConfigs.get? sinkType with
  | some row =>
    have hmem : (⟨sinkType, row.enabled, row.config⟩ : SinkConfig F) ∈ s.listSinkConfigs :=
      mem_listSinkConfigs.mpr hrow
    have hkept : t.sinkConfigs.get? sinkType =
        some ⟨row.enabled, keptSettings sinkType row.config⟩ := by
      rw [hget, OrderedDict.lookup_eq_some hn]
      exact List.mem_map.mpr ⟨_, hmem, rfl⟩
    rw [hkept]
    exact .some (sameSink_kept (hsaved.keys sinkType row hrow))
  | none =>
    have hnone : t.sinkConfigs.get? sinkType = none := by
      rw [hget, OrderedDict.lookup_eq_none, List.map_map]
      rintro hmem
      obtain ⟨config, hconfig, rfl⟩ := List.mem_map.mp hmem
      cases hrow.symm.trans (mem_listSinkConfigs.mp hconfig)
    rw [hnone]
    exact .none

instance (kind : PluginFieldKind) : DecidablePred (OfPluginKind (F := F) kind) := fun value => by
  cases kind <;> cases value <;> first | exact .isTrue trivial | exact .isFalse id

instance [DecidableEq F] (field : PluginField) : DecidablePred (Carried (F := F) field) :=
  fun _ => inferInstanceAs (Decidable (_ ∨ _))

instance [DecidableEq F] (sinkType : String) : DecidablePred (CarriesSettings (F := F) sinkType) :=
  fun _ => inferInstanceAs (Decidable (∀ _ ∈ _, _))

def mqttPayload : Settings WholeFloat :=
  .ofList [("sink_type", .str "mqtt"), ("enabled", .bool false),
    ("config", .dict [("host", .str "broker"), ("qos", .int 1),
      ("message_stale_timeout_s", .int 30), ("topic_request_on_start", .bool false)])]

def postgresqlPayload : Settings WholeFloat :=
  .ofList [("sink_type", .str "postgresql"), ("config", .dict [("password", .str "a,b\"\n")])]

/-- A database sink that was selected before the broker. -/
def twoSinks : ConfigStore WholeFloat :=
  (Operation.saveSinkConfig mqttPayload).run
    ((Operation.saveSinkConfig postgresqlPayload).run initialized)

theorem twoSinks_reachable : Reachable (fun _ _ => True) twoSinks :=
  .run _ (.run _ .initialized trivial) trivial

theorem twoSinks_carried : ∀ e ∈ twoSinks.sinkConfigs.entries, CarriesSettings e.1 e.2 := by
  decide +kernel

/-- Both sinks come back with what the file has columns for, the broker selected; the
stale timeout of the broker has none. -/
theorem twoSinks_importPluginsCsv :
    ∃ csvText imported t, exportPluginsCsv twoSinks = .ok csvText ∧
      importPluginsCsv csvText initialized = (.ok imported, t) ∧
      t.sinkSelection = some "mqtt" ∧
      ∀ sinkType, Option.Rel (SameSink sinkType) (twoSinks.sinkConfigs.get? sinkType)
        (t.sinkConfigs.get? sinkType) :=
  importPluginsCsv_exportPluginsCsv twoSinks_reachable (by decide +kernel) (by decide +kernel)
    (by decide +kernel) fun _ _ hrow => twoSinks_carried _ (OrderedDict.get?_eq_some.mp hrow)

def blankBrokerPayload : Settings WholeFloat :=
  .ofList [("sink_type", .str "mqtt"), ("config", .dict [("host", .str "")])]

def blankBroker : ConfigStore WholeFloat :=
  (Operation.saveSinkConfig blankBrokerPayload).run initialized

theorem blankBroker_reachable : Reachable (fun _ _ => True) blankBroker :=
  .run _ .initialized trivial

def hostOf (s : ConfigStore WholeFloat) (sinkType : String) : Option (PyValue WholeFloat) :=
  (s.sinkConfigs.get? sinkType).bind fun row => row.config.get? "host"

theorem blankBroker_export : exportPluginsCsv blankBroker = .ok (Csv.dictWriter pluginCsvFields
    ((blankBroker.listSinkConfigs.map fun config =>
      pluginCsvRow config (config.sinkType = "mqtt")).map csvCell)) :=
  exportPluginsCsv_eq (savedSinks_of_reachable blankBroker_reachable) (by decide +kernel) (by decide +kernel)

theorem blankBroker_differs :
    hostOf (importPluginsCsv (Csv.dictWriter pluginCsvFields
      ((blankBroker.listSinkConfigs.map fun config =>
        pluginCsvRow config (config.sinkType = "mqtt")).map csvCell)) initialized).2 "mqtt" ≠
      hostOf blankBroker "mqtt" := by
  rw [importPluginsCsv_written]
  decide +kernel

/-- A blank broker host comes back as the default host. -/
theorem blank_broker_becomes_default :
    ¬ ∀ s : ConfigStore WholeFloat, Reachable (fun _ _ => True) s → s.listOutputRoutes = [] →
      ∃ csvText imported t, exportPluginsCsv s = .ok csvText ∧
        importPluginsCsv csvText initialized = (.ok imported, t) ∧
        ∀ sinkType row, s.sinkConfigs.get? sinkType = some row →
          ∃ row', t.sinkConfigs.get? sinkType = some row' ∧ row'.enabled = row.enabled ∧
            ∀ field ∈ pluginFields sinkType, row'.config.get? field.key = row.config.get? field.key := by
  intro h
  obtain ⟨csvText, imported, t, hexport, himport, hsame⟩ :=
    h blankBroker blankBroker_reachable (by decide +kernel)
  have hcsv := Except.ok.inj (hexport.symm.trans blankBroker_export)
  have hdiffers := blankBroker_differs
  rw [← hcsv, himport] at hdiffers
  have hhost : (⟨"host", .text, .text "localhost"⟩ : PluginField) ∈ pluginFields "mqtt" := by decide
  cases hrow : blankBroker.sinkConfigs.get? "mqtt" with
  | none =>
    have hsome : (blankBroker.sinkConfigs.get? "mqtt").isSome = true := by decide +kernel
    rw [hrow] at hsome
    cases hsome
  | some row =>
    obtain ⟨row', hrow', -, hfields⟩ := hsame "mqtt" row hrow
    refine hdiffers ?_
    rw [hostOf, hostOf, hrow, hrow']
    exact hfields _ hhost

end ConfigService

end IndustrialGateway
