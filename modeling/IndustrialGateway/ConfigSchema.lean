import IndustrialGateway.Lib.PyExcept
import IndustrialGateway.Lib.PyValue

/-!
# The configuration schema

`config_schema.py`: the settings of each driver and plugin with their kinds and
defaults, and the normaliser that keeps the settings of the schema and fills in
the rest. Labels, choices and bounds are for the forms of the web page only.
-/

namespace IndustrialGateway

/-- A literal of the schema. -/
inductive Literal where
  | text (s : String)
  | int (n : Int)
  | float (n : Nat)
  | bool (b : Bool)
  deriving DecidableEq

def Literal.value [PyRuntime F] : Literal → PyValue F
  | .text s => .str s
  | .int n => .int n
  | .float n => .float (PyRuntime.lit n)
  | .bool b => .bool b

inductive ConnectionFieldKind where
  | text
  | int
  | float
  | choice
  deriving DecidableEq

structure ConnectionField where
  key : String
  kind : ConnectionFieldKind
  default : Literal
  deriving DecidableEq

inductive PluginFieldKind where
  | text
  | int
  | bool
  | password
  deriving DecidableEq

structure PluginField where
  key : String
  kind : PluginFieldKind
  default : Literal
  deriving DecidableEq

def commonModbusLimits : List ConnectionField :=
  [ ⟨"max_block_gap", .int, .int 4⟩,
    ⟨"max_registers_per_read", .int, .int 125⟩,
    ⟨"max_bits_per_read", .int, .int 2000⟩ ]

def serialFields : List ConnectionField :=
  [ ⟨"port", .text, .text "COM1"⟩,
    ⟨"baudrate", .int, .int 9600⟩,
    ⟨"parity", .choice, .text "N"⟩,
    ⟨"stopbits", .int, .int 1⟩,
    ⟨"bytesize", .int, .int 8⟩,
    ⟨"timeout", .float, .float 2⟩ ]

/-- `_CONNECTION_FIELDS`. -/
def connectionFields : List (String × List ConnectionField) :=
  [ ("modbus_tcp",
      ⟨"host", .text, .text "127.0.0.1"⟩ :: ⟨"port", .int, .int 502⟩ :: commonModbusLimits),
    ("modbus_serial", serialFields ++ commonModbusLimits),
    ("modbus_rtu_monitor", serialFields ++ [⟨"capture_wait_s", .float, .float 5⟩]),
    ("opcua",
      [ ⟨"endpoint", .text, .text "opc.tcp://127.0.0.1:4840/freeopcua/server/"⟩,
        ⟨"mode", .choice, .text "polling"⟩,
        ⟨"subscription_interval_ms", .int, .int 250⟩ ]),
    ("mqtt",
      [ ⟨"host", .text, .text "localhost"⟩,
        ⟨"port", .int, .int 1883⟩,
        ⟨"topic_filter", .text, .text "curiot/+/data"⟩,
        ⟨"client_id", .text, .text "industrial-gateway-input"⟩,
        ⟨"username", .text, .text ""⟩,
        ⟨"password", .text, .text ""⟩,
        ⟨"qos", .int, .int 0⟩,
        ⟨"topic_mac_index", .int, .int 1⟩,
        ⟨"timestamp_field", .text, .text "Time"⟩,
        ⟨"sensor_id_field", .text, .text "sensor_id"⟩ ]) ]

/-- `_PLUGIN_FIELDS`. -/
def allPluginFields : List (String × List PluginField) :=
  [ ("mqtt",
      [ ⟨"host", .text, .text "localhost"⟩,
        ⟨"port", .int, .int 1883⟩,
        ⟨"base_topic", .text, .text "industrial"⟩,
        ⟨"username", .text, .text ""⟩,
        ⟨"password", .password, .text ""⟩,
        ⟨"client_id", .text, .text "industrial-gateway"⟩,
        ⟨"qos", .int, .int 0⟩,
        ⟨"message_stale_timeout_s", .int, .int 15⟩,
        ⟨"status_publish_interval_s", .int, .int 60⟩,
        ⟨"topic_request_on_start", .bool, .bool true⟩,
        ⟨"topic_refresh_interval_s", .int, .int 300⟩ ]),
    ("postgresql",
      [ ⟨"host", .text, .text "localhost"⟩,
        ⟨"port", .int, .int 5432⟩,
        ⟨"database", .text, .text "gateway"⟩,
        ⟨"username", .text, .text "postgres"⟩,
        ⟨"password", .password, .text ""⟩,
        ⟨"table", .text, .text "gateway_tag_values"⟩,
        ⟨"auto_create", .bool, .bool true⟩ ]) ]

def connectionFieldsForDriver (driverType : String) : List ConnectionField :=
  (OrderedDict.lookup driverType connectionFields).getD []

def pluginFields (pluginType : String) : List PluginField :=
  (OrderedDict.lookup pluginType allPluginFields).getD []

def tagFunctionChoicesForDriver (driverType : String) : List String :=
  if driverType = "opcua" then ["opcua_node"]
  else if driverType = "mqtt" then ["json_field"]
  else ["holding_register", "input_register", "coil", "discrete_input"]

def tagTypeChoicesForDriver (driverType : String) : List String :=
  if driverType = "opcua" ∨ driverType = "mqtt" then
    ["auto", "bool", "int16", "uint16", "int32", "uint32", "float32", "float64", "string"]
  else ["bool", "int16", "uint16", "int32", "uint32", "float32", "float64", "string"]

-- ---------------------------------------------------------------------------
-- Facts about the schema
-- ---------------------------------------------------------------------------

theorem lookup_getD_induction {P : List α → Prop} {schema : List (String × List α)}
    (hn : (schema.map Prod.fst).Nodup) (hall : ∀ entry ∈ schema, P entry.2) (hnil : P [])
    (name : String) : P ((OrderedDict.lookup name schema).getD []) := by
  cases h : OrderedDict.lookup name schema with
  | none => exact hnil
  | some fields => exact hall _ ((OrderedDict.lookup_eq_some hn).mp h)

/-- What holds of the settings of each driver, and of none, holds for every
driver type. -/
theorem connectionFieldsForDriver_induction {P : List ConnectionField → Prop}
    (hall : ∀ driver ∈ connectionFields, P driver.2) (hnil : P []) (driverType : String) :
    P (connectionFieldsForDriver driverType) :=
  lookup_getD_induction (by decide) hall hnil driverType

theorem pluginFields_induction {P : List PluginField → Prop}
    (hall : ∀ plugin ∈ allPluginFields, P plugin.2) (hnil : P []) (pluginType : String) :
    P (pluginFields pluginType) :=
  lookup_getD_induction (by decide) hall hnil pluginType

theorem nodup_connectionFields (driverType : String) :
    ((connectionFieldsForDriver driverType).map fun f => f.key).Nodup :=
  connectionFieldsForDriver_induction (P := fun fields => (fields.map fun f => f.key).Nodup)
    (by decide) List.nodup_nil driverType

theorem nodup_connectionDefaults (driverType : String) :
    (((connectionFieldsForDriver driverType).map fun f => (f.key, f.default)).map Prod.fst).Nodup := by
  simpa [Function.comp_def] using nodup_connectionFields driverType

theorem nodup_pluginFields (pluginType : String) :
    ((pluginFields pluginType).map fun f => f.key).Nodup :=
  pluginFields_induction (P := fun fields => (fields.map fun f => f.key).Nodup)
    (by decide) List.nodup_nil pluginType

theorem nodup_pluginDefaults (pluginType : String) :
    (((pluginFields pluginType).map fun f => (f.key, f.default)).map Prod.fst).Nodup := by
  simpa [Function.comp_def] using nodup_pluginFields pluginType

section Normalisation

variable [PyRuntime F]

/-- A setting that is there replaces the default. -/
def overwriteSetting (existing : PyValue F) (values : OrderedDict String (PyValue F))
    (field : String × Literal) : Except PyException (OrderedDict String (PyValue F)) := do
  match ← existing.item field.1 with
  | some value => pure (values.set field.1 value)
  | none => pure values

def normalizeSettings (defaults : List (String × Literal)) (existing : PyValue F) :
    Except PyException (OrderedDict String (PyValue F)) :=
  let values := OrderedDict.ofList (defaults.map fun field => (field.1, field.2.value))
  if existing.truthy then defaults.foldlM (overwriteSetting existing) values else .ok values

def normalizeConnectionForDriver (driverType : String) (existing : PyValue F) :
    Except PyException (OrderedDict String (PyValue F)) :=
  normalizeSettings ((connectionFieldsForDriver driverType).map fun f => (f.key, f.default)) existing

def normalizePluginConfig (pluginType : String) (existing : PyValue F) :
    Except PyException (OrderedDict String (PyValue F)) :=
  normalizeSettings ((pluginFields pluginType).map fun f => (f.key, f.default)) existing

-- ---------------------------------------------------------------------------
-- What the normaliser leaves
-- ---------------------------------------------------------------------------

/-- The settings of a list that are there. -/
def settingsIn (existing : PyValue F) (defaults : List (String × Literal)) :
    List (String × PyValue F) :=
  defaults.filterMap fun field => (existing.item field.1).toOption.join.map (Prod.mk field.1)

theorem overwrite_eq_ok {existing : PyValue F} {fields : List (String × Literal)}
    {values out : OrderedDict String (PyValue F)} :
    fields.foldlM (overwriteSetting existing) values = .ok out ↔
      (∀ field ∈ fields, ∃ x, existing.item field.1 = .ok x) ∧
        out = values.update (settingsIn existing fields) := by
  induction fields generalizing values with
  | nil => simp [settingsIn, pure, Except.pure, eq_comm]
  | cons field fields ih =>
    rw [List.foldlM_cons, bind_eq_ok, List.forall_mem_cons]
    cases hitem : existing.item field.1 with
    | error e => simp [overwriteSetting, hitem, bind, Except.bind]
    | ok item =>
      cases item <;>
        simp only [overwriteSetting, settingsIn, hitem, ih, bind, Except.bind, pure, Except.pure,
          Except.ok.injEq, exists_eq_left', exists_eq', true_and, List.filterMap_cons,
          Except.toOption, Option.join_some, Option.map_some, Option.map_none,
          OrderedDict.update_cons]

theorem get?_update_settingsIn (existing : PyValue F) (fields : List (String × Literal))
    (values : OrderedDict String (PyValue F)) (k : String) :
    (values.update (settingsIn existing fields)).get? k =
      if k ∈ fields.map Prod.fst then (existing.item k).toOption.join.or (values.get? k)
      else values.get? k := by
  induction fields generalizing values with
  | nil => rfl
  | cons field fields ih =>
    rw [settingsIn, List.filterMap_cons]
    cases hitem : (existing.item field.1).toOption.join with
    | none =>
      rw [Option.map_none, ← settingsIn, ih]
      by_cases hk : field.1 = k
      · subst hk
        simp [hitem]
      · simp only [List.map_cons, List.mem_cons, Ne.symm hk, false_or]
    | some value =>
      rw [Option.map_some, OrderedDict.update_cons, ← settingsIn, ih, OrderedDict.get?_set]
      by_cases hk : field.1 = k
      · subst hk
        simp [hitem]
      · simp only [hk, ↓reduceIte, List.map_cons, List.mem_cons, Ne.symm hk, false_or]

theorem keys_ofList_defaults {defaults : List (String × α)} {f : α → β}
    (hn : (defaults.map Prod.fst).Nodup) :
    (OrderedDict.ofList (defaults.map fun field => (field.1, f field.2))).keys =
      defaults.map Prod.fst := by
  rw [OrderedDict.keys, OrderedDict.entries_ofList (by simpa [Function.comp_def] using hn)]
  simp [Function.comp_def]

/-- Exactly the settings of the schema are left. -/
theorem keys_normalizeSettings {defaults : List (String × Literal)}
    (hn : (defaults.map Prod.fst).Nodup) {existing : PyValue F}
    {values : OrderedDict String (PyValue F)} (h : normalizeSettings defaults existing = .ok values) :
    values.keys = defaults.map Prod.fst := by
  unfold normalizeSettings at h
  simp only at h
  split at h
  · obtain ⟨-, rfl⟩ := overwrite_eq_ok.mp h
    rw [OrderedDict.keys_update_of_subset, keys_ofList_defaults hn]
    intro p hp
    obtain ⟨field, hf, hp⟩ := List.mem_filterMap.mp hp
    obtain ⟨x, -, rfl⟩ := Option.map_eq_some_iff.mp hp
    rw [keys_ofList_defaults hn]
    exact List.mem_map_of_mem hf
  · cases h
    exact keys_ofList_defaults hn

theorem keys_normalizeConnection {driverType : String} {existing : PyValue F}
    {connection : OrderedDict String (PyValue F)}
    (h : normalizeConnectionForDriver driverType existing = .ok connection) :
    connection.keys = (connectionFieldsForDriver driverType).map ConnectionField.key := by
  have hkeys := keys_normalizeSettings (nodup_connectionDefaults driverType) h
  simpa [Function.comp_def] using hkeys

theorem keys_normalizePluginConfig {pluginType : String} {existing : PyValue F}
    {config : OrderedDict String (PyValue F)}
    (h : normalizePluginConfig pluginType existing = .ok config) :
    config.keys = (pluginFields pluginType).map PluginField.key := by
  have hkeys := keys_normalizeSettings (nodup_pluginDefaults pluginType) h
  simpa [Function.comp_def] using hkeys

/-- From a dictionary come its own settings and the defaults of the others. -/
theorem normalizeSettings_dict {defaults : List (String × Literal)}
    (hn : (defaults.map Prod.fst).Nodup) (kvs : List (String × PyValue F)) :
    ∃ values, normalizeSettings defaults (.dict kvs) = .ok values ∧
      ∀ field ∈ defaults, values.get? field.1 =
        some ((OrderedDict.lookup field.1 kvs).getD field.2.value) := by
  have hdefault : ∀ field ∈ defaults,
      (OrderedDict.ofList (defaults.map fun field => (field.1, field.2.value (F := F)))).get? field.1 =
        some field.2.value := by
    intro field hf
    rw [OrderedDict.get?_eq_some, OrderedDict.entries_ofList (by simpa [Function.comp_def] using hn)]
    exact List.mem_map.mpr ⟨field, hf, rfl⟩
  cases kvs with
  | nil => exact ⟨_, rfl, hdefault⟩
  | cons kv kvs =>
    refine ⟨_, overwrite_eq_ok.mpr ⟨fun field _ => ⟨_, rfl⟩, rfl⟩, ?_⟩
    intro field hf
    rw [get?_update_settingsIn, if_pos (List.mem_map_of_mem hf), hdefault field hf]
    simp only [PyValue.item, Except.toOption, Option.join_some]
    cases OrderedDict.lookup field.1 (kv :: kvs) <;> rfl

theorem normalizeConnection_dict (driverType : String) (kvs : List (String × PyValue F)) :
    ∃ connection, normalizeConnectionForDriver driverType (.dict kvs) = .ok connection ∧
      ∀ field ∈ connectionFieldsForDriver driverType, connection.get? field.key =
        some ((OrderedDict.lookup field.key kvs).getD field.default.value) := by
  obtain ⟨connection, hconnection, hget⟩ :=
    normalizeSettings_dict (nodup_connectionDefaults driverType) kvs
  exact ⟨connection, hconnection, fun field hf => hget _ (List.mem_map_of_mem hf)⟩

end Normalisation

end IndustrialGateway
