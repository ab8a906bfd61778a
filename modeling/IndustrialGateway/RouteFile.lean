import IndustrialGateway.RouteRows
import IndustrialGateway.StoredRoutes

/-!
# The route file

The import of routes upserts them under device, tag group and sink type, so a store
without routes takes of each key the last row of the file.
-/

namespace IndustrialGateway

open ConfigStore ConfigService Fallible

variable {F : Type} [PyRuntime F]

-- ---------------------------------------------------------------------------
-- Rows of the file
-- ---------------------------------------------------------------------------

def routeKey (row : OutputRouteRow F) : Option Int × String × String :=
  (row.deviceId, row.tagGroup, row.sinkType)

/-- The route that the importer makes of a row. -/
def routeOfRow (devices : OrderedDict (String × String) (DeviceSpec F)) (row : Csv.Row) :
    Except PyException (OutputRouteRow F) := do
  let deviceId ← csvRouteDeviceId row devices
  let config ← routeConfig (rowPayload row)
  return ⟨deviceId, PyText.strip (cellOr row "tag_group"),
    PyText.strip (cellOr row "sink_type" "mqtt"),
    csvBool (cellValue (cell row "enabled") : PyValue F) true, config⟩

def OutputRouteRow.withId (row : OutputRouteRow F) (id : Option Int) : OutputRouteConfig F :=
  { row.route 0 with id }

omit [PyRuntime F] in
theorem routeRow_withId {row written : OutputRouteRow F} {id : Option Int}
    (h : routeRow (row.withId id) = .ok written) : written = row := by
  obtain ⟨-, -, rfl⟩ := routeRow_eq_ok.mp h
  rfl

theorem importPluginRouteRow_eq (devices : OrderedDict (String × String) (DeviceSpec F))
    (existingRoutes : List (OutputRouteConfig F)) (row : Csv.Row) :
    importPluginRouteRow devices existingRoutes row =
      Fallible.lift (routeOfRow devices row) >>= fun r => ConfigStore.saveOutputRoute
        (r.withId (existingRouteId existingRoutes r.deviceId r.tagGroup r.sinkType)) := by
  rw [importPluginRouteRow, routeOfRow]
  cases csvRouteDeviceId row devices with
  | error e => rfl
  | ok deviceId =>
    rw [lift_ok_bind, ok_bind]
    cases routeConfig (rowPayload row : Settings F) with
    | error e => rfl
    | ok config => rfl

variable {devices : OrderedDict (String × String) (DeviceSpec F)} {route : OutputRouteConfig F}
  {device : Option (DeviceSpec F)} {r : RouteSettings F}

theorem cell_routeRowBack {key text : String} (h : (key, text) ∈ routeColumns route device r) :
    cell (routeRowBack route device r) key = some text := by
  have hkeys : ((routeColumns route device r).map fun c => (c.1, some c.2)).map Prod.fst =
      pluginRouteCsvFields := by
    rw [List.map_map]
    exact keys_routeColumns route device r
  have hn : pluginRouteCsvFields.Nodup := by decide
  have hlookup : OrderedDict.lookup key ((routeColumns route device r).map fun c => (c.1, some c.2)) =
      some (some text) :=
    (OrderedDict.lookup_eq_some (hkeys ▸ hn)).mpr (List.mem_map.mpr ⟨(key, text), h, rfl⟩)
  rw [cell, routeRowBack, OrderedDict.get?_ofList_of_nodup (hkeys ▸ hn), hlookup]
  rfl

theorem rowPayload_routeRowBack :
    rowPayload (routeRowBack route device r) =
      (.ofList ((routeColumns route device r).map fun c => (c.1, .str c.2)) : Settings F) := by
  have hkeys : ((routeColumns route device r).map fun c => (c.1, some c.2)).map Prod.fst =
      pluginRouteCsvFields := by
    rw [List.map_map]
    exact keys_routeColumns route device r
  have hn : pluginRouteCsvFields.Nodup := by decide
  rw [rowPayload, routeRowBack, OrderedDict.entries_ofList (hkeys ▸ hn), List.map_map]
  rfl

theorem routeConfig_rowPayload :
    routeConfig (rowPayload (routeRowBack route device r)) = .ok r.toSettings := by
  have hkeys : ((routeColumns route device r).map fun c => (c.1, (.str c.2 : PyValue F))).map
      Prod.fst = pluginRouteCsvFields := by
    rw [List.map_map]
    exact keys_routeColumns route device r
  have hn : pluginRouteCsvFields.Nodup := by decide
  have hget : ∀ key, (rowPayload (routeRowBack route device r) : Settings F).get? key =
      OrderedDict.lookup key ((routeColumns route device r).map fun c => (c.1, .str c.2)) :=
    fun key => by rw [rowPayload_routeRowBack, OrderedDict.get?_ofList_of_nodup (hkeys ▸ hn)]
  have hconfig : configPart (rowPayload (routeRowBack route device r) : Settings F) = .ok ∅ := by
    have hnone : (rowPayload (routeRowBack route device r) : Settings F).get? "config" = none := by
      rw [hget, OrderedDict.lookup_eq_none, hkeys]
      decide
    simp only [configPart, ConfigService.optional, hnone]
    rfl
  have hsettings : routeSettings ∅ (rowPayload (routeRowBack route device r)) = .ok r := by
    refine routeSettings_columns r fun key text hmem => ?_
    rw [hget, OrderedDict.lookup_eq_some (hkeys ▸ hn)]
    exact List.mem_map.mpr ⟨(key, text), List.mem_append_right _ hmem, rfl⟩
  rw [routeConfig_eq, hconfig, ok_bind, hsettings]
  rfl

/-- A written route is imported with its texts and settings. -/
theorem routeOfRow_routeRowBack (hgroup : PyText.Stripped route.tagGroup)
    (hsink : route.sinkType = "mqtt") :
    routeOfRow devices (routeRowBack route device r) =
      (csvRouteDeviceId (routeRowBack route device r) devices).map fun deviceId =>
        ⟨deviceId, route.tagGroup, route.sinkType, route.enabled, r.toSettings⟩ := by
  have htagGroup : PyText.strip (cellOr (routeRowBack route device r) "tag_group") =
      route.tagGroup := by
    rw [cellOr, cell_routeRowBack (show ("tag_group", route.tagGroup) ∈ _ by simp [routeColumns]), textOr]
    split
    · rename_i hblank
      rw [hblank]
      exact PyText.stripped_empty
    · exact hgroup
  have hsinkType : PyText.strip (cellOr (routeRowBack route device r) "sink_type" "mqtt") =
      route.sinkType := by
    rw [cellOr, cell_routeRowBack (show ("sink_type", route.sinkType) ∈ _ by simp [routeColumns]), hsink]
    decide +kernel
  have henabled : csvBool (cellValue (cell (routeRowBack route device r) "enabled") : PyValue F) true =
      route.enabled := by
    rw [cell_routeRowBack (show ("enabled", flagText route.enabled) ∈ _ by simp [routeColumns])]
    exact csvBool_flagText route.enabled true
  rw [routeOfRow, routeConfig_rowPayload, htagGroup, hsinkType, henabled]
  cases csvRouteDeviceId (routeRowBack route device r) devices <;> rfl

/-- A heartbeat is imported for no device. -/
theorem csvRouteDeviceId_heartbeat (h : r.heartbeat.isSome) :
    csvRouteDeviceId (routeRowBack route device r) devices = .ok none := by
  have hkind : PyText.strip (cellOr (routeRowBack route device r) "route_kind") =
      "system_heartbeat" := by
    rw [cellOr, cell_routeRowBack (show ("route_kind", r.kindText) ∈ _ by
      simp [routeColumns, RouteSettings.columns]), RouteSettings.kindText, if_pos h]
    decide +kernel
  rw [csvRouteDeviceId, if_pos hkind]

theorem csvRouteDeviceId_data (h : r.heartbeat.isSome = false) :
    csvRouteDeviceId (routeRowBack route device r) devices =
      if PyText.strip ((device.map DeviceSpec.name).getD "") = "" then .ok none
      else match devices.get? (PyText.strip ((device.map DeviceSpec.deviceGroup).getD ""),
          PyText.strip ((device.map DeviceSpec.name).getD "")) with
        | some found => .ok found.id
        | none => .error ⟨.valueError, "route device '" ++
            PyText.strip ((device.map DeviceSpec.name).getD "") ++ "' in group '" ++
            textOr (PyText.strip ((device.map DeviceSpec.deviceGroup).getD "")) "default" ++
            "' does not exist"⟩ := by
  have hkind : PyText.strip (cellOr (routeRowBack route device r) "route_kind") ≠
      "system_heartbeat" := by
    rw [cellOr, cell_routeRowBack (show ("route_kind", r.kindText) ∈ _ by
      simp [routeColumns, RouteSettings.columns]), RouteSettings.kindText, h]
    decide +kernel
  have hname : cellOr (routeRowBack route device r) "device_name" =
      (device.map DeviceSpec.name).getD "" := by
    rw [cellOr, cell_routeRowBack (show ("device_name", if r.heartbeat.isSome then "System Heartbeat"
      else (device.map DeviceSpec.name).getD "") ∈ _ by simp [routeColumns]), textOr_blank, h]
    rfl
  have hgroup : cellOr (routeRowBack route device r) "device_group" =
      (device.map DeviceSpec.deviceGroup).getD "" := by
    rw [cellOr, cell_routeRowBack (show ("device_group", (device.map DeviceSpec.deviceGroup).getD "")
      ∈ _ by simp [routeColumns]), textOr_blank]
  rw [csvRouteDeviceId, if_neg hkind, hname]
  exact hgroup ▸ rfl

omit [PyRuntime F] in
/-- The device of a row is one that the importer knows, under stripped texts. -/
theorem csvRouteDeviceId_eq_ok {row : Csv.Row} {deviceId : Option Int}
    (h : csvRouteDeviceId row devices = .ok deviceId) :
    deviceId = none ∨
      PyText.strip (cellOr row "route_kind") ≠ "system_heartbeat" ∧
      ∃ found, devices.get? (PyText.strip (cellOr row "device_group"),
        PyText.strip (cellOr row "device_name")) = some found ∧ found.id = deviceId := by
  rw [csvRouteDeviceId] at h
  split at h
  · exact .inl (Except.ok.inj h).symm
  · rename_i hkind
    simp only at h
    split at h
    · exact .inl (Except.ok.inj h).symm
    · split at h
      · rename_i found hfound
        exact .inr ⟨hkind, found, hfound, Except.ok.inj h⟩
      · cases h

-- ---------------------------------------------------------------------------
-- Upserts
-- ---------------------------------------------------------------------------

variable {t₀ t u : ConfigStore F} {rows : List (OutputRouteRow F)} {state next : RouteImport F}

/-- The rows of the file so far, the last of each key. -/
def upserted (rows : List (OutputRouteRow F)) :
    OrderedDict (Option Int × String × String) (OutputRouteRow F) :=
  .ofList (rows.map fun row => (routeKey row, row))

omit [PyRuntime F] in
theorem upserted_append (rows : List (OutputRouteRow F)) (row : OutputRouteRow F) :
    upserted (rows ++ [row]) = (upserted rows).set (routeKey row) row := by
  rw [upserted, OrderedDict.ofList, List.map_append, OrderedDict.update_append]
  rfl

/-- The store holds the rows that were imported, and the importer knows its routes. -/
structure Upserting (t₀ : ConfigStore F) (rows : List (OutputRouteRow F)) (state : RouteImport F)
    (t : ConfigStore F) : Prop where
  same : SameButRoutes t₀ t
  keyed : Table.Keyed routeKey t.outputRoutes (upserted rows)
  known : ∀ route, route ∈ state.existingRoutes ↔ route ∈ t.listOutputRoutes
  routeIds : t.outputRoutes.lastId = t₀.outputRoutes.lastId + t.outputRoutes.rows.entries.length
  length_le : t.outputRoutes.rows.entries.length ≤ rows.length

omit [PyRuntime F] in
theorem Upserting.existing (h : Upserting t₀ rows state t) {row : OutputRouteRow F} :
    (existingRouteId state.existingRoutes row.deviceId row.tagGroup row.sinkType = none ∧
      ∀ id old, t.outputRoutes.get? id = some old → routeKey old ≠ routeKey row) ∨
    ∃ id old, existingRouteId state.existingRoutes row.deviceId row.tagGroup row.sinkType = some id ∧
      t.outputRoutes.get? id = some old ∧ routeKey old = routeKey row := by
  rw [existingRouteId]
  cases hfound : state.existingRoutes.find? fun route => route.deviceId = row.deviceId ∧
    route.tagGroup = row.tagGroup ∧ route.sinkType = row.sinkType with
  | none =>
    refine .inl ⟨rfl, fun id old hrow hkey => ?_⟩
    have hknown := (h.known _).mpr (mem_listOutputRoutes.mpr ⟨id, old, hrow, rfl⟩)
    have hother := List.find?_eq_none.mp hfound _ hknown
    simp only [routeKey, Prod.mk.injEq] at hkey
    exact hother (decide_eq_true hkey)
  | some route =>
    obtain ⟨id, old, hrow, rfl⟩ :=
      mem_listOutputRoutes.mp ((h.known _).mp (List.mem_of_find?_eq_some hfound))
    have hkey := List.find?_some hfound
    rw [decide_eq_true_eq] at hkey
    refine .inr ⟨id, old, rfl, hrow, ?_⟩
    rw [routeKey, routeKey]
    exact Prod.ext hkey.1 (Prod.ext hkey.2.1 hkey.2.2)

omit [PyRuntime F] in
/-- After a save the importer knows the routes again. -/
theorem known_replaceRoute {existingRoutes : List (OutputRouteConfig F)} {routeId : Int}
    {row : OutputRouteRow F} (h : ∀ route, route ∈ existingRoutes ↔ route ∈ t.listOutputRoutes)
    (hget : ∀ i, u.outputRoutes.get? i = if i = routeId then some row else t.outputRoutes.get? i) :
    ∀ route, route ∈ existingRoutes.filter (fun route => route.id ≠ some routeId) ++
        u.listOutputRoutes.filter (fun route => route.id = some routeId) ↔
      route ∈ u.listOutputRoutes := by
  intro route
  rw [List.mem_append, List.mem_filter, List.mem_filter, h, decide_eq_true_eq, decide_eq_true_eq]
  constructor
  · rintro (⟨hmem, hid⟩ | ⟨hmem, -⟩)
    · obtain ⟨i, old, hrow, rfl⟩ := mem_listOutputRoutes.mp hmem
      have hne : i ≠ routeId := fun hi => hid (congrArg some hi)
      exact mem_listOutputRoutes.mpr ⟨i, old, by rw [hget, if_neg hne, hrow], rfl⟩
    · exact hmem
  · intro hmem
    by_cases hid : route.id = some routeId
    · exact .inr ⟨hmem, hid⟩
    · obtain ⟨i, found, hrow, rfl⟩ := mem_listOutputRoutes.mp hmem
      have hne : i ≠ routeId := fun hi => hid (congrArg some hi)
      rw [hget, if_neg hne] at hrow
      exact .inl ⟨mem_listOutputRoutes.mpr ⟨i, found, hrow, rfl⟩, hid⟩

/-- One row of the file is one more upsert. -/
theorem Upserting.row (h : Upserting t₀ rows state t) {csvRow : Csv.Row}
    (hrow : importPluginRoutesRow devices state csvRow t = (.ok next, u)) :
    ∃ row, routeOfRow devices csvRow = .ok row ∧ Upserting t₀ (rows ++ [row]) next u := by
  rw [importPluginRoutesRow, Fallible.bind_eq_ok] at hrow
  obtain ⟨routeId, v, himport, hrow⟩ := hrow
  rw [importPluginRouteRow_eq] at himport
  obtain ⟨row, w, hlift, hsave⟩ := Fallible.bind_eq_ok.mp himport
  obtain ⟨hdecode, rfl⟩ := lift_eq_ok.mp hlift
  obtain ⟨existing, w, hread, hrow⟩ := Fallible.bind_eq_ok.mp hrow
  obtain ⟨rfl, rfl⟩ := pure_eq_ok.mp hrow
  cases hread
  refine ⟨row, hdecode, ?_⟩
  obtain ⟨written, hwritten, hput⟩ := saveOutputRoute_rows.mp hsave
  obtain rfl := routeRow_withId hwritten
  have hexisting := @Upserting.existing _ _ _ _ _ h written
  obtain ⟨hsame, hupsert⟩ : SameButRoutes t v ∧
      Table.Upserted routeKey t.outputRoutes written routeId v.outputRoutes := by
    rcases hput with ⟨hnone, hfresh, hput⟩ | ⟨hsome, -, hput⟩
    · obtain ⟨-, hsame, hroutes⟩ := insertRoute_eq_ok.mp hput
      rcases hexisting with ⟨-, hnew⟩ | ⟨id, old, hid, -⟩
      · exact ⟨hsame, .added hnew (nextRowId_eq_ok.mp hfresh).2 hroutes⟩
      · cases hid.symm.trans hnone
    · obtain ⟨-, hsame, hroutes⟩ := updateRoute_eq_ok.mp hput
      rcases hexisting with ⟨hid, -⟩ | ⟨id, old, hid, hold, hkey⟩
      · cases hid.symm.trans hsome
      · cases hid.symm.trans hsome
        exact ⟨hsame, .replaced hold hkey hroutes⟩
  have hids := h.routeIds
  have hlength := h.length_le
  refine ⟨h.same.trans hsame, ?_, known_replaceRoute h.known hupsert.get?, ?_, ?_⟩
  · rw [upserted_append]
    exact hupsert.keyed h.keyed
  · rcases hupsert.lengths with ⟨hlast, hrows⟩ | ⟨hlast, hrows⟩ <;> omega
  · rw [List.length_append, List.length_singleton]
    rcases hupsert.lengths with ⟨-, hrows⟩ | ⟨-, hrows⟩ <;> omega

/-- A route that a store can take. -/
structure Storable (s : ConfigStore F) (row : OutputRouteRow F) : Prop where
  config : Readable row.config
  device : ∀ deviceId, row.deviceId = some deviceId → (s.devices.get? deviceId).isSome

/-- A storable row is upserted while an id is left. -/
theorem Upserting.importRow (h : Upserting t₀ rows state t) (hrows : StoredRows t)
    (hroom : t₀.outputRoutes.lastId + rows.length + 1 < 2 ^ 63) {csvRow : Csv.Row}
    {row : OutputRouteRow F} (hdecode : routeOfRow devices csvRow = .ok row) (hrow : Storable t row) :
    ∃ next u, importPluginRoutesRow devices state csvRow t = (.ok next, u) ∧
      Upserting t₀ (rows ++ [row]) next u := by
  have hids : t.outputRoutes.lastId + 1 < 2 ^ 63 := by
    have := h.routeIds
    have := h.length_le
    omega
  have hsaved : ∃ id u, ConfigStore.saveOutputRoute (row.withId
      (existingRouteId state.existingRoutes row.deviceId row.tagGroup row.sinkType)) t = (.ok id, u) := by
    rcases @Upserting.existing _ _ _ _ _ h row with ⟨hid, -⟩ | ⟨id, old, hid, hold, -⟩
    · rw [hid]
      obtain ⟨u, hsave⟩ := saveOutputRoute_insert hrows
        (show (row.withId none).id = none from rfl) hids hrow.config hrow.device
      exact ⟨_, u, hsave⟩
    · rw [hid]
      obtain ⟨u, hsave, -⟩ := saveOutputRoute_update hrows
        (show (row.withId (some id)).id = some id from rfl)
        (sqlInteger_of_isSome (Nat.lt_of_succ_lt hids) (Option.isSome_iff_exists.mpr ⟨old, hold⟩))
        hrow.config hrow.device
      exact ⟨_, u, hsave⟩
  obtain ⟨id, u, hsave⟩ := hsaved
  have himport : importPluginRouteRow devices state.existingRoutes csvRow t = (.ok id, u) := by
    rw [importPluginRouteRow_eq, hdecode]
    exact hsave
  have hstep : ∃ next, importPluginRoutesRow devices state csvRow t = (.ok next, u) := by
    rw [importPluginRoutesRow, Fallible.bind_eq_of_ok himport]
    exact ⟨_, rfl⟩
  obtain ⟨next, hstep⟩ := hstep
  obtain ⟨row', hdecode', hnext⟩ := h.row hstep
  cases hdecode.symm.trans hdecode'
  exact ⟨next, u, hstep, hnext⟩

/-- The rows of a file that a store can take. -/
theorem Upserting.importRows {csvRows : List Csv.Row} {rest : List (OutputRouteRow F)}
    (h : Upserting t₀ rows state t) (hrows : StoredRows t₀)
    (hroom : t₀.outputRoutes.lastId + (rows ++ rest).length < 2 ^ 63)
    (hrest : List.Forall₂ (fun csvRow row => routeOfRow devices csvRow = .ok row ∧ Storable t₀ row)
      csvRows rest) :
    ∃ next u, csvRows.foldlM (importPluginRoutesRow devices) state t = (.ok next, u) ∧
      Upserting t₀ (rows ++ rest) next u := by
  induction hrest generalizing rows state t with
  | nil =>
    rw [List.append_nil]
    exact ⟨state, t, rfl, h⟩
  | @cons csvRow row csvRows rest hrow _ ih =>
    obtain ⟨hdecode, hconfig, hdevice⟩ := hrow
    have hroom' : t₀.outputRoutes.lastId + rows.length + 1 < 2 ^ 63 := by
      simp only [List.length_append, List.length_cons] at hroom
      omega
    obtain ⟨next, u, hstep, hnext⟩ := h.importRow (hrows.congr h.same.devices h.same.tags) hroom'
      hdecode ⟨hconfig, h.same.devices ▸ hdevice⟩
    rw [List.append_cons] at hroom ⊢
    obtain ⟨last, v, hlast, hend⟩ := ih hnext hroom
    refine ⟨last, v, ?_, hend⟩
    rw [List.foldlM_cons, bind_eq_of_ok hstep]
    exact hlast

/-- Whatever rows an import has taken, they were upserted in the order of the file. -/
theorem Upserting.rows_of_ok {csvRows : List Csv.Row} (h : Upserting t₀ rows state t)
    (hrows : csvRows.foldlM (importPluginRoutesRow devices) state t = (.ok next, u)) :
    ∃ rest, List.Forall₂ (fun csvRow row => routeOfRow devices csvRow = .ok row) csvRows rest ∧
      Upserting t₀ (rows ++ rest) next u := by
  induction csvRows generalizing rows state t with
  | nil =>
    cases hrows
    exact ⟨[], .nil, (List.append_nil rows).symm ▸ h⟩
  | cons csvRow csvRows ih =>
    rw [List.foldlM_cons] at hrows
    obtain ⟨middle, v, hstep, hrows⟩ := Fallible.bind_eq_ok.mp hrows
    obtain ⟨row, hdecode, hmiddle⟩ := h.row hstep
    obtain ⟨rest, hrest, hend⟩ := ih hmiddle hrows
    rw [List.append_assoc] at hend
    exact ⟨row :: rest, .cons hdecode hrest, hend⟩

omit [PyRuntime F] in
theorem Upserting.start (h : t.listOutputRoutes = []) (imported : Nat) :
    Upserting t [] ⟨t.listOutputRoutes, imported⟩ t := by
  have hentries : t.outputRoutes.rows.entries = [] := by
    have hperm := perm_orderBy routeOrder (t.outputRoutes.rows.entries.map fun e => e.2.route e.1)
    have hlist : orderBy routeOrder (t.outputRoutes.rows.entries.map fun e => e.2.route e.1) = [] := h
    rw [hlist] at hperm
    exact List.map_eq_nil_iff.mp hperm.symm.eq_nil
  refine ⟨⟨rfl, rfl, rfl, rfl, rfl⟩, ?_, fun _ => Iff.rfl, ?_, ?_⟩
  · rw [Table.Keyed, hentries]
    rfl
  · rw [hentries]
    rfl
  · rw [hentries]
    exact Nat.le_refl 0

end IndustrialGateway
