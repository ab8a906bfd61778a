import IndustrialGateway.CsvRows

/-!
# Exported rows

What the importer makes of a row that the exporter wrote: the device and the tag
of the row, when their texts are stripped, the tag is valid and every setting comes
back equal from its cell. Equal is what Python compares as equal: a whole number in
a float field comes back as a float.
-/

namespace IndustrialGateway

namespace ConfigService

open ConfigStore

variable {F : Type} [PyRuntime F]

-- ---------------------------------------------------------------------------
-- Cells
-- ---------------------------------------------------------------------------

/-- A written row as the reader gives it. -/
def readRow (row : Settings F) : Csv.Row :=
  .ofList (deviceCsvFields.map fun key => (key, some (csvCell row key)))

theorem cell_readRow (row : Settings F) (key : String) :
    cell (readRow row) key = if key ∈ deviceCsvFields then some (csvCell row key) else none := by
  exact cell_readBack (by decide) row key

omit [PyRuntime F] in
theorem get?_addConnectionColumn (connection row : Settings F) (key k : String) :
    (addConnectionColumn connection row key).get? k =
      (row.get? k).or (if k = key then connection.get? k else none) := by
  unfold addConnectionColumn
  cases hrow : row.get? key with
  | some value =>
    rw [if_pos (by simp [OrderedDict.contains, hrow])]
    by_cases hk : k = key
    · rw [hk, hrow, Option.some_or]
    · rw [if_neg hk, Option.or_none]
  | none =>
    rw [if_neg (by simp [OrderedDict.contains, hrow])]
    cases hconnection : connection.get? key with
    | none =>
      simp only
      split
      · rename_i hk
        rw [hk, hconnection, Option.or_none]
      · rw [Option.or_none]
    | some value =>
      rw [OrderedDict.get?_set]
      by_cases hk : key = k
      · rw [if_pos hk, if_pos hk.symm, ← hk, hrow, hconnection, Option.none_or]
      · rw [if_neg hk, if_neg (Ne.symm hk), Option.or_none]

omit [PyRuntime F] in
theorem get?_connectionColumns (connection row : Settings F) (keys : List String) (k : String) :
    (keys.foldl (addConnectionColumn connection) row).get? k =
      (row.get? k).or (if k ∈ keys then connection.get? k else none) := by
  induction keys generalizing row with
  | nil => simp
  | cons key keys ih =>
    rw [List.foldl_cons, ih, get?_addConnectionColumn, Option.or_assoc]
    congr 1
    by_cases hk : k = key
    · rw [if_pos hk, if_pos (List.mem_cons.mpr (.inl hk))]
      cases connection.get? k <;> simp
    · simp only [hk, if_false, Option.none_or, List.mem_cons, false_or]

def deviceCsvKeys : List String :=
  ["device_group", "device_name", "driver_type", "enabled", "poll_interval_ms"]

def tagCsvKeys : List String :=
  ["tag_group", "tag_name", "node_id", "address", "function", "data_type", "scale", "offset",
    "tag_enabled", "unit_id", "count", "word_count", "byte_order", "word_order"]

omit [PyRuntime F] in
theorem keys_deviceCsvColumns (device : DeviceSpec F) :
    (deviceCsvColumns device).map Prod.fst = deviceCsvKeys := rfl

omit [PyRuntime F] in
theorem keys_tagCsvColumns (tag : TagSpec F) : (tagCsvColumns tag).map Prod.fst = tagCsvKeys := rfl

/-- Tag columns come before device columns, and these before settings. -/
theorem csvCell_deviceCsvRow (device : DeviceSpec F) (tag : Option (TagSpec F)) (key : String) :
    csvCell (deviceCsvRow device tag) key =
      csvText ((((tag.bind fun tag => OrderedDict.lookup key (tagCsvColumns tag)).or
        (OrderedDict.lookup key (deviceCsvColumns device))).or
          (if key ∈ deviceCsvFields then device.connection.get? key else none)).getD (.str "")) := by
  have hdevice : ((deviceCsvColumns device).map Prod.fst).Nodup := by
    rw [keys_deviceCsvColumns]
    decide
  have htag (tag : TagSpec F) : ((tagCsvColumns tag).map Prod.fst).Nodup := by
    rw [keys_tagCsvColumns]
    decide
  unfold csvCell deviceCsvRow optional
  cases tag with
  | none => simp only [get?_connectionColumns, OrderedDict.get?_ofList_of_nodup hdevice,
      Option.bind_none, Option.none_or]
  | some tag => simp only [OrderedDict.get?_update_of_nodup _ (htag tag), get?_connectionColumns,
      OrderedDict.get?_ofList_of_nodup hdevice, Option.bind_some, Option.or_assoc]

variable {device : DeviceSpec F} {tag : TagSpec F} {key : String} {value : PyValue F}

theorem cell_tagColumn (hkey : key ∈ deviceCsvFields)
    (h : OrderedDict.lookup key (tagCsvColumns tag) = some value) :
    cell (readRow (deviceCsvRow device (some tag))) key = some (csvText value) := by
  rw [cell_readRow, if_pos hkey, csvCell_deviceCsvRow, Option.bind_some, h]
  rfl

omit [PyRuntime F] in
theorem lookup_tagCsvColumns (hkey : key ∉ tagCsvKeys) (tag : Option (TagSpec F)) :
    (tag.bind fun tag => OrderedDict.lookup key (tagCsvColumns tag)) = none := by
  cases tag with
  | none => rfl
  | some tag => exact OrderedDict.lookup_eq_none.mpr hkey

theorem cell_deviceColumn (hkey : key ∈ deviceCsvFields) (htag : key ∉ tagCsvKeys)
    (h : OrderedDict.lookup key (deviceCsvColumns device) = some value) (tag : Option (TagSpec F)) :
    cell (readRow (deviceCsvRow device tag)) key = some (csvText value) := by
  rw [cell_readRow, if_pos hkey, csvCell_deviceCsvRow, lookup_tagCsvColumns htag, h]
  rfl

/-- A setting with no column of its own is lost. -/
theorem cell_connectionColumn (htag : key ∉ tagCsvKeys) (hdevice : key ∉ deviceCsvKeys)
    (h : device.connection.get? key = some value) (tag : Option (TagSpec F)) :
    cell (readRow (deviceCsvRow device tag)) key =
      if key ∈ deviceCsvFields then some (csvText value) else none := by
  have hlookup : OrderedDict.lookup key (deviceCsvColumns device) = none :=
    OrderedDict.lookup_eq_none.mpr hdevice
  rw [cell_readRow]
  split
  · rename_i hkey
    rw [csvCell_deviceCsvRow, lookup_tagCsvColumns htag, hlookup, if_pos hkey, h]
    rfl
  · rfl

/-- The tag columns of a device without tags are blank. -/
theorem cell_noTag (hkey : key ∈ deviceCsvFields) (hdevice : key ∉ deviceCsvKeys)
    (h : device.connection.get? key = none) :
    cell (readRow (deviceCsvRow device none)) key = some "" := by
  have hlookup : OrderedDict.lookup key (deviceCsvColumns device) = none :=
    OrderedDict.lookup_eq_none.mpr hdevice
  rw [cell_readRow, if_pos hkey, csvCell_deviceCsvRow, hlookup, if_pos hkey, h]
  rfl

-- ---------------------------------------------------------------------------
-- Settings
-- ---------------------------------------------------------------------------

/-- What the importer makes of the cell of a setting; `none` is a blank cell. -/
def readSetting (row : Csv.Row) (field : String × (String → Except PyException (PyValue F))) :
    Except PyException (Option (PyValue F)) :=
  match cell row field.1 with
  | none => .ok none
  | some s => if PyText.strip s = "" then .ok none else (field.2 s).map some

def addSetting (values : Settings F) (key : String) : Option (PyValue F) → Settings F
  | none => values
  | some value => values.set key value

omit [PyRuntime F] in
theorem csvSettings_eq (fields : List (String × (String → Except PyException (PyValue F))))
    (row : Csv.Row) :
    csvSettings fields row = fields.foldlM (fun values field =>
      (readSetting row field).map (addSetting values field.1)) ∅ := by
  unfold csvSettings readSetting
  congr 1
  funext values field
  cases cell row field.1 with
  | none => rfl
  | some s =>
    simp only
    split
    · rfl
    · cases field.2 s <;> rfl

omit [PyRuntime F] in
theorem get?_addSetting (values : Settings F) (key k : String) (found : Option (PyValue F)) :
    (addSetting values key found).get? k =
      if key = k then found.or (values.get? k) else values.get? k := by
  cases found with
  | none => simp [addSetting]
  | some value => rw [addSetting, OrderedDict.get?_set, Option.some_or]

omit [PyRuntime F] in
theorem csvSettings_ok {row : Csv.Row}
    {fields : List (String × (String → Except PyException (PyValue F)))}
    {found : String → Option (PyValue F)}
    (h : ∀ field ∈ fields, readSetting row field = .ok (found field.1)) :
    ∃ values, csvSettings fields row = .ok values ∧
      ∀ key ∈ fields.map Prod.fst, values.get? key = found key := by
  suffices hfold : ∀ init : Settings F, ∃ values,
      fields.foldlM (fun values field => (readSetting row field).map (addSetting values field.1))
        init = .ok values ∧
      ∀ key, values.get? key =
        if key ∈ fields.map Prod.fst then (found key).or (init.get? key) else init.get? key by
    obtain ⟨values, hvalues, hget⟩ := hfold ∅
    refine ⟨values, (csvSettings_eq fields row).trans hvalues, fun key hkey => ?_⟩
    rw [hget, if_pos hkey, OrderedDict.get?_empty, Option.or_none]
  induction fields with
  | nil => exact fun init => ⟨init, rfl, fun key => rfl⟩
  | cons field fields ih =>
    intro init
    have hfield := h field (by simp)
    obtain ⟨values, hvalues, hrest⟩ :=
      ih (fun f hf => h f (by simp [hf])) (addSetting init field.1 (found field.1))
    refine ⟨values, ?_, fun key => ?_⟩
    · rw [List.foldlM_cons, hfield]
      exact hvalues
    · rw [hrest, get?_addSetting]
      by_cases hkey : field.1 = key
      · subst hkey
        cases found field.1 <;> simp
      · simp only [hkey, if_false, List.map_cons, List.mem_cons, Ne.symm hkey, false_or]

/-- The settings that a row gives, and the defaults of the others. -/
theorem readSettings_ok {row : Csv.Row} {defaults : List (String × Literal)}
    {fields : List (String × (String → Except PyException (PyValue F)))}
    (hn : (defaults.map Prod.fst).Nodup) (hfields : fields.map Prod.fst = defaults.map Prod.fst)
    {found : String → Option (PyValue F)}
    (h : ∀ field ∈ fields, readSetting row field = .ok (found field.1)) :
    ∃ config : Settings F,
      (csvSettings fields row >>= fun values => normalizeSettings defaults (.dict values.entries)) =
        .ok config ∧
      config.keys = defaults.map Prod.fst ∧
      ∀ field ∈ defaults, config.get? field.1 = some ((found field.1).getD field.2.value) := by
  obtain ⟨values, hvalues, hfound⟩ := csvSettings_ok h
  obtain ⟨config, hconfig, hget⟩ := normalizeSettings_dict hn values.entries
  refine ⟨config, ?_, keys_normalizeSettings hn hconfig, ?_⟩
  · rw [hvalues]
    exact hconfig
  · intro field hfield
    have hvalue : OrderedDict.lookup field.1 values.entries = found field.1 :=
      hfound field.1 (hfields ▸ List.mem_map_of_mem hfield)
    rw [hget field hfield, hvalue]

/-- What the importer reads of the text of a value, where it reads the value again. -/
def readValue : ConnectionFieldKind → PyValue F → Option (PyValue F)
  | .int, .int n => some (.int n)
  | .float, .float x => some (.float x)
  | .float, .int n => (PyRuntime.ofInt n).map .float
  | .text, .str s => some (.str s)
  | .choice, .str s => some (.str s)
  | _, _ => none

/-- A setting with a column of the file and a text that is not blank. -/
def HasCell (key : String) (value : PyValue F) : Prop :=
  key ∈ deviceCsvFields ∧ PyText.strip (csvText value) ≠ ""

instance (key : String) (value : PyValue F) : Decidable (HasCell key value) :=
  inferInstanceAs (Decidable (_ ∧ _))

/-- What comes back for a setting: the default of its field where it has no cell. -/
def importedValue (field : ConnectionField) (value : PyValue F) : Option (PyValue F) :=
  if HasCell field.key value then readValue field.kind value else some field.default.value

/-- A setting that comes back as a value that Python takes for equal. -/
def SurvivesCell (field : ConnectionField) (value : PyValue F) : Prop :=
  (importedValue field value).any fun back => PyValue.eq back value

instance (field : ConnectionField) (value : PyValue F) : Decidable (SurvivesCell field value) :=
  inferInstanceAs (Decidable (_ = true))

theorem SurvivesCell.back {field : ConnectionField} (h : SurvivesCell field value) :
    ∃ back, importedValue field value = some back ∧ PyValue.eq back value = true := by
  rwa [SurvivesCell, Option.any_eq_true] at h

theorem csvConnectionValue_text {kind : ConnectionFieldKind} {back : PyValue F}
    (h : readValue kind value = some back) : csvConnectionValue kind (csvText value) = .ok back := by
  unfold readValue at h
  split at h
  · cases h
    simp [csvConnectionValue, csvInt, csvText, PyValue.text, PyValue.repr, PyValue.toInt,
      PyText.intOfText_textOfInt, Except.map]
  · cases h
    simp [csvConnectionValue, csvFloat, csvText, PyValue.text, PyValue.repr, PyValue.toFloat,
      PyRuntime.parse_repr, Except.map]
  · rename_i n
    obtain ⟨x, hx, rfl⟩ := Option.map_eq_some_iff.mp h
    simp [csvConnectionValue, csvFloat, csvText, PyValue.text, PyValue.repr, PyValue.toFloat,
      PyRuntime.parse_textOfInt n x hx, Except.map]
  · cases h
    rfl
  · cases h
    rfl
  · cases h

theorem eq_literal (literal : Literal) :
    PyValue.eq (literal.value : PyValue F) literal.value = true := by
  cases literal with
  | float n => exact PyRuntime.eq_self _ (PyRuntime.isNaN_lit n)
  | _ => simp [Literal.value, PyValue.eq]

/-- Two rows of one device give settings that are equal. -/
theorem eq_self_of_readValue {kind : ConnectionFieldKind} {back : PyValue F}
    (h : readValue kind value = some back) (heq : PyValue.eq back value = true) :
    PyValue.eq back back = true := by
  unfold readValue at h
  split at h
  · cases h
    exact heq
  · cases h
    exact heq
  · rename_i n
    obtain ⟨x, hx, rfl⟩ := Option.map_eq_some_iff.mp h
    exact PyRuntime.eq_self x (PyRuntime.isNaN_ofInt n x hx)
  · cases h
    exact heq
  · cases h
    exact heq
  · cases h

theorem checkJson_literal (literal : Literal) :
    (literal.value : PyValue F).checkJson = .ok () := by
  cases literal <;> rfl

theorem checkJson_of_readValue {kind : ConnectionFieldKind} {back : PyValue F}
    (h : readValue kind value = some back) : back.checkJson = .ok () := by
  unfold readValue at h
  split at h
  · cases h
    rfl
  · cases h
    rfl
  · obtain ⟨x, -, rfl⟩ := Option.map_eq_some_iff.mp h
    rfl
  · cases h
    rfl
  · cases h
    rfl
  · cases h

/-- What comes back can be stored, and equals itself. -/
theorem SurvivesCell.stored {field : ConnectionField} {back : PyValue F}
    (h : SurvivesCell field value) (hback : importedValue field value = some back) :
    back.checkJson = .ok () ∧ PyValue.eq back back = true := by
  obtain ⟨back', hback', heq⟩ := h.back
  obtain rfl := Option.some.inj (hback.symm.trans hback')
  unfold importedValue at hback
  split at hback
  · exact ⟨checkJson_of_readValue hback, eq_self_of_readValue hback heq⟩
  · cases hback
    exact ⟨checkJson_literal _, eq_literal _⟩

/-- The columns of the settings are no others. -/
theorem connectionField_column {driverType : String} :
    ∀ field ∈ connectionFieldsForDriver driverType,
      field.key ∉ tagCsvKeys ∧ field.key ∉ deviceCsvKeys :=
  connectionFieldsForDriver_induction
    (P := fun fields => ∀ field ∈ fields, field.key ∉ tagCsvKeys ∧ field.key ∉ deviceCsvKeys)
    (by decide) (by simp) driverType

/-- The schema's settings of a device, each of which comes back. -/
structure SettingsSurvive (device : DeviceSpec F) : Prop where
  keys : device.connection.keys =
    (connectionFieldsForDriver device.driverType).map ConnectionField.key
  survives : ∀ field ∈ connectionFieldsForDriver device.driverType, ∀ value,
    device.connection.get? field.key = some value → SurvivesCell field value

/-- The settings of a device after an export and an import. -/
def importedConnection (device : DeviceSpec F) : Settings F :=
  .ofList ((connectionFieldsForDriver device.driverType).map fun field =>
    (field.key, ((device.connection.get? field.key).bind (importedValue field)).getD
      field.default.value))

theorem keys_importedConnection (device : DeviceSpec F) :
    (importedConnection device).keys =
      (connectionFieldsForDriver device.driverType).map ConnectionField.key := by
  rw [OrderedDict.keys, importedConnection, OrderedDict.entries_ofList]
  · rw [List.map_map]
    rfl
  · rw [List.map_map]
    exact nodup_connectionFields device.driverType

/-- A setting of the schema, before and after. -/
theorem SettingsSurvive.setting (h : SettingsSurvive device) {field : ConnectionField}
    (hfield : field ∈ connectionFieldsForDriver device.driverType) :
    ∃ value back, device.connection.get? field.key = some value ∧ SurvivesCell field value ∧
      importedValue field value = some back ∧ PyValue.eq back value = true ∧
      (importedConnection device).get? field.key = some back := by
  obtain ⟨value, hvalue⟩ : ∃ value, device.connection.get? field.key = some value := by
    rw [← OrderedDict.mem_keys_iff, h.keys]
    exact List.mem_map_of_mem hfield
  have hsurvives := h.survives field hfield value hvalue
  obtain ⟨back, hback, heq⟩ := hsurvives.back
  refine ⟨value, back, hvalue, hsurvives, hback, heq, ?_⟩
  have hnodup : (((connectionFieldsForDriver device.driverType).map fun field => (field.key,
      ((device.connection.get? field.key).bind (importedValue field)).getD field.default.value)).map
        Prod.fst).Nodup := by
    rw [List.map_map]
    exact nodup_connectionFields device.driverType
  rw [importedConnection, OrderedDict.get?_ofList_of_nodup hnodup, OrderedDict.lookup_eq_some hnodup]
  refine List.mem_map.mpr ⟨field, hfield, ?_⟩
  rw [hvalue, Option.bind_some, hback, Option.getD_some]

/-- What the importer finds in the cell of a setting. -/
def foundSetting (device : DeviceSpec F) (key : String) : Option (PyValue F) :=
  (device.connection.get? key).bind fun value =>
    if HasCell key value then (importedConnection device).get? key else none

theorem readSetting_deviceCsvRow (h : SettingsSurvive device) (tag : Option (TagSpec F))
    {field : ConnectionField} (hfield : field ∈ connectionFieldsForDriver device.driverType) :
    readSetting (readRow (deviceCsvRow device tag)) (field.key, csvConnectionValue field.kind) =
      .ok (foundSetting device field.key) := by
  obtain ⟨value, back, hvalue, -, hback, -, himported⟩ := h.setting hfield
  obtain ⟨htag, hdevice⟩ := connectionField_column field hfield
  rw [readSetting, cell_connectionColumn htag hdevice hvalue, foundSetting, hvalue,
    Option.bind_some, himported]
  by_cases hcell : HasCell field.key value
  · rw [importedValue, if_pos hcell] at hback
    rw [if_pos hcell.1, if_pos hcell]
    simp only [if_neg hcell.2, csvConnectionValue_text hback]
    rfl
  · rw [if_neg hcell]
    by_cases hkey : field.key ∈ deviceCsvFields
    · have hblank : PyText.strip (csvText value) = "" := by
        by_contra hne
        exact hcell ⟨hkey, hne⟩
      simp [hkey, hblank]
    · simp [hkey]

theorem csvConnection_deviceCsvRow (h : SettingsSurvive device) (tag : Option (TagSpec F)) :
    csvConnection device.driverType (readRow (deviceCsvRow device tag)) =
      .ok (importedConnection device) := by
  have hread : ∀ field ∈ (connectionFieldsForDriver device.driverType).map fun f =>
      (f.key, csvConnectionValue f.kind),
      readSetting (readRow (deviceCsvRow device tag)) field = .ok (foundSetting device field.1) := by
    rintro _ hmem
    obtain ⟨field, hfield, rfl⟩ := List.mem_map.mp hmem
    exact readSetting_deviceCsvRow h tag hfield
  obtain ⟨connection, hconnection, hkeys, hget⟩ :=
    readSettings_ok (nodup_connectionDefaults device.driverType) (by simp [Function.comp_def]) hread
  refine hconnection.trans (congrArg Except.ok ?_)
  have hkeys : connection.keys = (importedConnection device).keys := by
    rw [hkeys, keys_importedConnection]
    simp [Function.comp_def]
  refine OrderedDict.ext_get? hkeys fun key => ?_
  by_cases hkey : key ∈ (importedConnection device).keys
  · obtain ⟨field, hfield, rfl⟩ := List.mem_map.mp (keys_importedConnection device ▸ hkey)
    obtain ⟨value, back, hvalue, -, hback, -, himported⟩ := h.setting hfield
    have hfound := hget (field.key, field.default) (List.mem_map_of_mem hfield)
    simp only [foundSetting, hvalue, Option.bind_some, himported] at hfound
    rw [hfound, himported]
    split
    · rfl
    · rename_i hcell
      rw [importedValue, if_neg hcell] at hback
      rw [Option.getD_none, hback]
  · rw [OrderedDict.get?_eq_none.mpr hkey, OrderedDict.get?_eq_none.mpr (hkeys ▸ hkey)]

/-- An entry that comes back. -/
theorem SettingsSurvive.entry (h : SettingsSurvive device) {p : String × PyValue F}
    (hp : p ∈ (importedConnection device).entries) :
    p.2.checkJson = .ok () ∧ PyValue.eq p.2 p.2 = true ∧
      ∃ value, device.connection.get? p.1 = some value ∧ PyValue.eq p.2 value = true := by
  have hget := OrderedDict.get?_eq_some.mpr hp
  have hkey : p.1 ∈ (importedConnection device).keys := OrderedDict.mem_keys_iff.mpr ⟨p.2, hget⟩
  rw [keys_importedConnection] at hkey
  obtain ⟨field, hfield, hkey⟩ := List.mem_map.mp hkey
  obtain ⟨value, back, hvalue, hsurvives, hback, heq, himported⟩ := h.setting hfield
  rw [hkey] at hvalue himported
  obtain rfl : back = p.2 := Option.some.inj (himported.symm.trans hget)
  obtain ⟨hjson, hself⟩ := hsurvives.stored hback
  exact ⟨hjson, hself, value, hvalue, heq⟩

theorem dictEq_importedConnection (h : SettingsSurvive device) :
    PyValue.dictEq (importedConnection device) device.connection = true := by
  have hlength : (importedConnection device).entries.length = device.connection.entries.length := by
    have hkeys := congrArg List.length ((keys_importedConnection device).trans h.keys.symm)
    simpa only [OrderedDict.keys, List.length_map] using hkeys
  rw [PyValue.dictEq, decide_eq_true hlength, Bool.true_and]
  exact PyValue.subDict_of_forall fun p hp => (h.entry hp).2.2

-- ---------------------------------------------------------------------------
-- Devices
-- ---------------------------------------------------------------------------

/-- A device that comes back from a row. -/
structure DeviceExportable (device : DeviceSpec F) : Prop extends SettingsSurvive device where
  deviceGroup : PyText.Stripped device.deviceGroup
  name : PyText.Stripped device.name
  driverType : PyText.Stripped device.driverType
  valid : validateDevice device = .ok ()

/-- A text that neither the strip nor a default changes. -/
def Plain (s : String) : Prop := PyText.Stripped s ∧ s ≠ ""

theorem plain_of_nameGiven {s : String} (h : PyText.Stripped s) (hgiven : nameGiven s = true) :
    Plain s := by
  refine ⟨h, ?_⟩
  rintro rfl
  exact absurd hgiven (by decide)

omit [PyRuntime F] in
theorem validateDevice_ok :
    validateDevice device = .ok () ↔
      nameGiven device.name = true ∧ nameGiven device.driverType = true ∧
        100 ≤ device.pollIntervalMs := by
  simp [validateDevice, raiseUnless_bind_eq_ok]

/-- A plain text is read as it was written. -/
theorem strip_textOr_of_plain {s : String} (h : Plain s) (default : String) :
    PyText.strip (textOr (some s) default) = s := by
  rw [textOr_some, if_neg h.2]
  exact h.1

theorem strip_textOr_of_stripped {s : String} (h : PyText.Stripped s) :
    PyText.strip (textOr (some s) "") = s := by
  rw [textOr_blank]
  exact h

theorem csvBool_boolInt (b default : Bool) :
    csvBool (cellValue (some (csvText (boolInt b : PyValue F))) : PyValue F) default = b := by
  have htruths : csvTruths.contains (PyText.lower (PyText.strip (PyText.textOfInt 1))) = true ∧
      csvTruths.contains (PyText.lower (PyText.strip (PyText.textOfInt 0))) = false := by decide
  cases b
  · exact htruths.2
  · exact htruths.1

theorem csvInt_text (n : Int) : csvInt F (csvText (.int n : PyValue F)) = .ok n := by
  simp [csvInt, csvText, PyValue.text, PyValue.repr, PyValue.toInt, PyText.intOfText_textOfInt]

theorem csvInt_textOr (n : Int) (default : String) :
    csvInt F (textOr (some (csvText (.int n : PyValue F))) default) = .ok n := by
  have hne : csvText (.int n : PyValue F) ≠ "" := PyText.textOfInt_ne_empty n
  rw [textOr_some, if_neg hne, csvInt_text]

theorem csvText_str (s : String) : csvText (.str s : PyValue F) = s := rfl

theorem deviceFromCsvRow_deviceCsvRow (h : DeviceExportable device) (tag : Option (TagSpec F)) :
    deviceFromCsvRow (readRow (deviceCsvRow device tag)) =
      .ok { device with id := none, connection := importedConnection device } := by
  obtain ⟨hname, hdriver, -⟩ := validateDevice_ok.mp h.valid
  have hgroup : cell (readRow (deviceCsvRow device tag)) "device_group" =
      some (csvText (.str device.deviceGroup : PyValue F)) :=
    cell_deviceColumn (by decide) (by decide) rfl tag
  have hnameCell : cell (readRow (deviceCsvRow device tag)) "device_name" =
      some (csvText (.str device.name : PyValue F)) :=
    cell_deviceColumn (by decide) (by decide) rfl tag
  have hdriverCell : cell (readRow (deviceCsvRow device tag)) "driver_type" =
      some (csvText (.str device.driverType : PyValue F)) :=
    cell_deviceColumn (by decide) (by decide) rfl tag
  have henabled : cell (readRow (deviceCsvRow device tag)) "enabled" =
      some (csvText (boolInt device.enabled : PyValue F)) :=
    cell_deviceColumn (by decide) (by decide) rfl tag
  have hpoll : cell (readRow (deviceCsvRow device tag)) "poll_interval_ms" =
      some (csvText (.int device.pollIntervalMs : PyValue F)) :=
    cell_deviceColumn (by decide) (by decide) rfl tag
  have hdriverType : PyText.strip (textOr (some device.driverType) "modbus_tcp") = device.driverType :=
    strip_textOr_of_plain (plain_of_nameGiven h.driverType hdriver) _
  simp only [deviceFromCsvRow, cellOr, hgroup, hnameCell, hdriverCell, henabled, hpoll, csvText_str,
    hdriverType, csvInt_textOr, csvConnection_deviceCsvRow h.toSettingsSurvive, csvBool_boolInt,
    strip_textOr_of_plain (plain_of_nameGiven h.name hname), strip_textOr_of_stripped h.deviceGroup]
  rfl

-- ---------------------------------------------------------------------------
-- Tags
-- ---------------------------------------------------------------------------

/-- A tag that comes back from a row as it was. -/
structure TagExportable (driverType : String) (tag : TagSpec F) : Prop where
  tagGroup : PyText.Stripped tag.tagGroup
  name : PyText.Stripped tag.name
  nodeId : ∀ s, tag.nodeId = some s → Plain s
  unitId : tag.unitId ≠ some 0
  valid : validateTag driverType tag = .ok ()

theorem function_of_validateTag {driverType : String} (h : validateTag driverType tag = .ok ()) :
    tag.function ∈ "opcua_node" :: "json_field" :: modbusFunctions := by
  unfold validateTag at h
  split at h
  · rw [(validateNodeTag_ok.mp h).function]
    decide
  · split at h
    · rw [(validateNodeTag_ok.mp h).function]
      decide
    · exact .tail _ (.tail _ (validateModbusTag_ok.mp h).function)

/-- The texts that the validators choose from are plain. -/
theorem plain_choice :
    ∀ s ∈ "opcua_node" :: "json_field" :: modbusFunctions ++ dataTypes ++ orders, Plain s := by
  unfold Plain
  decide

theorem plain_of_validateTag {driverType : String} (h : validateTag driverType tag = .ok ()) :
    Plain tag.function ∧ Plain tag.dataType ∧ Plain tag.byteOrder ∧ Plain tag.wordOrder := by
  obtain ⟨-, hcommon⟩ := commonFieldsOk_of_validateTag h
  refine ⟨plain_choice _ ?_, plain_choice _ ?_, plain_choice _ ?_, plain_choice _ ?_⟩
  · exact List.mem_append_left _ (List.mem_append_left _ (function_of_validateTag h))
  · exact List.mem_append_left _ (List.mem_append_right _ hcommon.dataType)
  · exact List.mem_append_right _ hcommon.byteOrder
  · exact List.mem_append_right _ hcommon.wordOrder

theorem csvFloatOr_text (x : F) (default : Nat) :
    csvFloatOr (csvText (.float x)) default = .ok x := by
  have hne : PyRuntime.repr x ≠ "" := by
    rintro hempty
    have hstrip := PyRuntime.strip_repr x
    rw [hempty] at hstrip
    exact hstrip PyText.stripped_empty
  simp [csvFloatOr, csvFloat, csvText, PyValue.text, PyValue.repr, hne, PyValue.toFloat,
    PyRuntime.parse_repr]

/-- The blank cell of no number is read as no number; a zero is lost. -/
theorem csvOptionalInt_intOrBlank {n : Option Int} (h : n ≠ some 0) :
    csvOptionalInt (F := F) (some (csvText (intOrBlank n : PyValue F))) = .ok n := by
  cases n with
  | none => rfl
  | some n =>
    have hn : n ≠ 0 := fun hn => h (congrArg some hn)
    have hstrip : PyText.strip (PyText.textOfInt n) ≠ "" := by
      rw [PyText.textOfInt_stripped n]
      exact PyText.textOfInt_ne_empty n
    have htext : csvText (intOrBlank (some n) : PyValue F) = PyText.textOfInt n := by
      rw [intOrBlank, if_neg hn]
      rfl
    have hint : csvInt F (PyText.textOfInt n) = .ok n := csvInt_text n
    have hcell : csvOptionalInt (F := F) (some (PyText.textOfInt n)) =
        if PyText.strip (PyText.textOfInt n) = "" then .ok none
        else (csvInt F (PyText.textOfInt n)).map some := rfl
    rw [htext, hcell, if_neg hstrip, hint]
    rfl

theorem nodeId_cell {nodeId : Option String} (h : ∀ s, nodeId = some s → Plain s) :
    (if PyText.strip (nodeId.getD "") = "" then none else some (PyText.strip (nodeId.getD ""))) =
      nodeId := by
  cases nodeId with
  | none => rfl
  | some s =>
    obtain ⟨hstripped, hne⟩ := h s rfl
    rw [Option.getD_some, hstripped, if_neg hne]

theorem contains_readRow (row : Settings F) {key : String} (hkey : key ∈ deviceCsvFields) :
    (readRow row).contains key = true := by
  rw [OrderedDict.contains_iff, readRow, OrderedDict.mem_keys_ofList, List.map_map]
  exact List.mem_map.mpr ⟨key, hkey, rfl⟩

theorem tagFromCsvRow_deviceCsvRow {driverType : String} (h : TagExportable driverType tag)
    (device : DeviceSpec F) :
    tagFromCsvRow (readRow (deviceCsvRow device (some tag))) driverType "tag_name" =
      .ok { tag with id := none, deviceId := none } := by
  obtain ⟨hfunction, hdataType, hbyteOrder, hwordOrder⟩ := plain_of_validateTag h.valid
  obtain ⟨hgiven, hcommon⟩ := commonFieldsOk_of_validateTag h.valid
  obtain ⟨hname, hne⟩ := plain_of_nameGiven h.name (decide_eq_true hgiven)
  have htagGroup : PyText.strip tag.tagGroup = tag.tagGroup := h.tagGroup
  have hname : PyText.strip tag.name = tag.name := hname
  have hgivenOk : raiseUnless (decide (tag.name ≠ "")) "tag name is required" = .ok () :=
    raiseUnless_eq_ok.mpr (decide_eq_true hne)
  have hcount := contains_readRow (deviceCsvRow device (some tag)) (by decide : "count" ∈ deviceCsvFields)
  have hwordCount : tag.wordCount ≠ some 0 := fun hzero =>
    absurd (hcommon.count 0 hzero) (by decide)
  have hcell : ∀ key value, key ∈ deviceCsvFields →
      OrderedDict.lookup key (tagCsvColumns tag) = some value →
      cell (readRow (deviceCsvRow device (some tag))) key = some (csvText value) :=
    fun key value hkey hvalue => cell_tagColumn hkey hvalue
  simp only [tagFromCsvRow, cellOr, if_true, hcell "tag_name" _ (by decide) rfl,
    hcell "node_id" _ (by decide) rfl, hcell "address" _ (by decide) rfl,
    hcell "scale" _ (by decide) rfl, hcell "offset" _ (by decide) rfl,
    hcell "tag_group" _ (by decide) rfl, hcell "function" _ (by decide) rfl,
    hcell "data_type" _ (by decide) rfl, hcell "tag_enabled" _ (by decide) rfl,
    hcell "unit_id" _ (by decide) rfl, hcell "count" _ (by decide) rfl,
    hcell "byte_order" _ (by decide) rfl, hcell "word_order" _ (by decide) rfl,
    hcount, csvText_str, hname, hgivenOk, htagGroup, strip_textOr_of_plain hfunction,
    strip_textOr_of_plain hdataType, strip_textOr_of_plain hbyteOrder,
    strip_textOr_of_plain hwordOrder, textOr_blank,
    nodeId_cell h.nodeId, csvInt_textOr, csvFloatOr_text, csvBool_boolInt,
    csvOptionalInt_intOrBlank h.unitId, csvOptionalInt_intOrBlank hwordCount]
  rfl

theorem tagName_deviceCsvRow (device : DeviceSpec F) (tag : TagSpec F) :
    cellOr (readRow (deviceCsvRow device (some tag))) "tag_name" = tag.name := by
  have hcell : cell (readRow (deviceCsvRow device (some tag))) "tag_name" =
      some (csvText (.str tag.name : PyValue F)) :=
    cell_tagColumn (by decide) rfl
  rw [cellOr, hcell, textOr_blank]
  rfl

theorem tagName_deviceCsvRow_none (h : SettingsSurvive device) :
    cellOr (readRow (deviceCsvRow device none)) "tag_name" = "" := by
  have hconnection : device.connection.get? "tag_name" = none := by
    rw [OrderedDict.get?_eq_none, h.keys]
    intro hmem
    obtain ⟨field, hfield, hkey⟩ := List.mem_map.mp hmem
    exact (connectionField_column field hfield).1 (by rw [hkey]; decide)
  rw [cellOr, cell_noTag (by decide) (by decide) hconnection]
  rfl

end ConfigService

end IndustrialGateway
