import IndustrialGateway.CsvRows
import IndustrialGateway.Lib.WholeFloat
import IndustrialGateway.StoreLaws

/-!
# Imports that fail

An import commits row by row. When it raises, the store is as its loop over the
rows before the failing one left it; of the failing row at most its new device
is left. What an import does after its loop, the last save of the selected
sink, is not done.
-/

namespace IndustrialGateway

open Fallible

namespace ConfigService

open ConfigStore

variable {F : Type} [PyRuntime F]

-- ---------------------------------------------------------------------------
-- Rows
-- ---------------------------------------------------------------------------

theorem atomic_upsertTag (deviceId : Int) (tag : TagSpec F) : Atomic (upsertTag deviceId tag) :=
  .bind (.read _) fun _ => atomic_saveTag _

theorem deviceFromCsvRow_id {row : Csv.Row} {device : DeviceSpec F}
    (h : deviceFromCsvRow row = .ok device) : device.id = none := by
  simp only [deviceFromCsvRow, bind_eq_ok, pure, Except.pure, Except.ok.injEq] at h
  obtain ⟨_, -, _, -, rfl⟩ := h
  rfl

/-- Where the loop over the rows of a file raised: at the header, in a row after
the rows before it, or after all rows where the text goes wrong. The rows of
`imported` were saved one by one, and `left` says what the failing row leaves. -/
inductive Stopped (body : β → Csv.Row → StoreAct F β)
    (left : β → Csv.Row → ConfigStore F → ConfigStore F → Prop) (init : β) (csvText : String)
    (s : ConfigStore F) (e : PyException) : List Csv.Row → ConfigStore F → Prop
  | header (hnames : ∀ names, (Csv.dictReader csvText).fieldnames ≠ .ok (some names)) :
    Stopped body left init csvText s e [] s
  | row {before : List Csv.Row} {row : Csv.Row} {rest : List Csv.Row} {state : β}
    {store t : ConfigStore F} (hrows : (Csv.dictReader csvText).rows = before ++ row :: rest)
    (hbefore : before.foldlM body init s = (.ok state, store))
    (hrow : body state row store = (.error e, t)) (hleft : left state row store t) :
    Stopped body left init csvText s e before t
  | text {state : β} {message : String} {t : ConfigStore F}
    (herror : (Csv.dictReader csvText).error = some message)
    (hrows : (Csv.dictReader csvText).rows.foldlM body init s = (.ok state, t)) :
    Stopped body left init csvText s e (Csv.dictReader csvText).rows t

/-- A failing row leaves nothing. -/
def Nothing : β → Csv.Row → ConfigStore F → ConfigStore F → Prop := fun _ _ store t => t = store

/-- The sink that a row of a plugin file saves, and by that selects. -/
def savedSinkType (row : Csv.Row) : Option String :=
  if PyText.lower (PyText.strip (cellOr row "record_type" "plugin")) = "route" then none
  else some (PyText.strip (cellOr row "sink_type" "mqtt"))

theorem importPluginsRow_sinkSelection {devices : OrderedDict (String × String) (DeviceSpec F)}
    {state state' : PluginImport F} {row : Csv.Row} {s t : ConfigStore F}
    (h : importPluginsRow devices state row s = (.ok state', t)) :
    t.sinkSelection = (savedSinkType row).or s.sinkSelection := by
  unfold importPluginsRow at h
  rw [savedSinkType]
  split at h
  · rename_i hroute
    simp only [importPluginRouteRow, replaceRoute, Fallible.bind_eq_ok, lift_eq_ok, read_eq_ok,
      pure_eq_ok] at h
    obtain ⟨_, _, ⟨_, _, ⟨-, rfl⟩, _, _, ⟨-, rfl⟩, hsave⟩, _, _, ⟨-, rfl⟩, -, rfl⟩ := h
    rw [if_pos hroute, Option.none_or]
    exact (saveOutputRoute_same hsave).sinkSelection
  · rename_i hplugin
    simp only [importPluginRow, Fallible.bind_eq_ok, lift_eq_ok, saveSinkConfig_eq_ok, pure_eq_ok] at h
    obtain ⟨_, _, ⟨_, _, ⟨-, rfl⟩, _, _, ⟨-, rfl⟩, -, rfl⟩, -, rfl⟩ := h
    rw [if_neg hplugin, Option.some_or]
    rfl

/-- The rows of a plugin file leave the sink of the last plugin row selected. -/
theorem importPluginsRows_sinkSelection {devices : OrderedDict (String × String) (DeviceSpec F)}
    {rows : List Csv.Row} {state state' : PluginImport F} {s t : ConfigStore F}
    (h : rows.foldlM (importPluginsRow devices) state s = (.ok state', t)) :
    t.sinkSelection = (rows.filterMap savedSinkType).getLast?.or s.sinkSelection := by
  induction rows generalizing state s with
  | nil =>
    obtain ⟨-, rfl⟩ := pure_eq_ok.mp h
    rfl
  | cons row rows ih =>
    rw [List.foldlM_cons, Fallible.bind_eq_ok] at h
    obtain ⟨state₁, u, hrow, hrows⟩ := h
    rw [ih hrows, importPluginsRow_sinkSelection hrow, List.filterMap_cons]
    cases savedSinkType row with
    | none => rfl
    | some sinkType =>
      rw [List.getLast?_cons]
      cases (rows.filterMap savedSinkType).getLast? <;> rfl

theorem Stopped.sinkSelection {devices : OrderedDict (String × String) (DeviceSpec F)}
    {init : PluginImport F} {csvText : String} {s t : ConfigStore F} {e : PyException}
    {imported : List Csv.Row}
    (h : Stopped (importPluginsRow devices) Nothing init csvText s e imported t) :
    t.sinkSelection = (imported.filterMap savedSinkType).getLast?.or s.sinkSelection := by
  cases h with
  | header hnames => rfl
  | row hrows hbefore hrow hleft =>
    obtain rfl := hleft
    exact importPluginsRows_sinkSelection hbefore
  | text herror hrows => exact importPluginsRows_sinkSelection hrows

def oneDevice : ConfigStore WholeFloat :=
  initialized.insertDevice ⟨"", "plc", "modbus_tcp", true, 1000, ∅⟩

end ConfigService

end IndustrialGateway
