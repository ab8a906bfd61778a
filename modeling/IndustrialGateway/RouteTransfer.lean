import IndustrialGateway.DeviceRows
import IndustrialGateway.Lib.WholeFloat
import IndustrialGateway.RouteFile

/-!
# Routes from store to store

What a route is without ids, and which sets of routes an import of their own export
gives to another store with the same devices.
-/

namespace IndustrialGateway

open ConfigStore ConfigService Fallible

variable {F : Type} [PyRuntime F] {s t u : ConfigStore F}

-- ---------------------------------------------------------------------------
-- Routes without ids
-- ---------------------------------------------------------------------------

/-- A route with the group and name of its device, and its settings as they are read. -/
structure PortableRoute (F : Type) where
  device : Option (String × String)
  tagGroup : String
  sinkType : String
  enabled : Bool
  config : Except PyException (Settings F)

namespace PortableRoute

def key (route : PortableRoute F) : Option (String × String) × String × String :=
  (route.device, route.tagGroup, route.sinkType)

def isHeartbeat (route : PortableRoute F) : Bool :=
  match route.config with
  | .ok config => isText (config.get? "route_kind") "system_heartbeat"
  | .error _ => false

end PortableRoute

def ConfigStore.deviceKey (s : ConfigStore F) (deviceId : Int) : Option (String × String) :=
  (s.devices.get? deviceId).map fun row => (row.deviceGroup, row.name)

def portableRoute (s : ConfigStore F) (route : OutputRouteConfig F) : PortableRoute F :=
  ⟨route.deviceId.bind s.deviceKey, route.tagGroup, route.sinkType, route.enabled,
    normalConfig route.config⟩

def portableRoutes (s : ConfigStore F) : List (PortableRoute F) :=
  s.listOutputRoutes.map (portableRoute s)

def deviceKeys (s : ConfigStore F) : List (String × String) := s.listDevices.map deviceImportKey

/-- The same devices by group and name, no two of them alike. -/
structure SameDevices (s t : ConfigStore F) : Prop where
  keys : (deviceKeys t).Perm (deviceKeys s)
  distinct : (deviceKeys s).Nodup

/-- Routes that keep apart: each has its own device, tag group and sink type, heartbeats
are for no device, and the texts of devices are stripped. -/
structure Transferable (routes : List (PortableRoute F)) : Prop where
  distinct : (routes.map PortableRoute.key).Nodup
  heartbeat : ∀ route ∈ routes, route.isHeartbeat → route.device = none
  device : ∀ route ∈ routes, ∀ key, route.device = some key →
    PyText.Stripped key.1 ∧ PyText.Stripped key.2

omit [PyRuntime F] in
theorem Transferable.perm {routes routes' : List (PortableRoute F)} (h : Transferable routes)
    (hperm : routes'.Perm routes) : Transferable routes' where
  distinct := (hperm.map _).nodup_iff.mpr h.distinct
  heartbeat route hroute := h.heartbeat route (hperm.mem_iff.mp hroute)
  device route hroute := h.device route (hperm.mem_iff.mp hroute)

-- ---------------------------------------------------------------------------
-- Devices
-- ---------------------------------------------------------------------------

omit [PyRuntime F] in
theorem get?_devicesById_none : (devicesById s).get? none = none := by
  rw [OrderedDict.get?_eq_none, devicesById, OrderedDict.mem_keys_ofList, List.map_map]
  intro hmem
  obtain ⟨device, hdevice, hnone⟩ := List.mem_map.mp hmem
  obtain ⟨id, row, -, rfl⟩ := mem_listDevices.mp hdevice
  cases hnone

omit [PyRuntime F] in
theorem get?_devicesById {id : Int} {row : DeviceRow F} (h : s.devices.get? id = some row) :
    (devicesById s).get? (some id) = some (row.spec id) := by
  have hn : ((s.listDevices.map fun device => (device.id, device)).map Prod.fst).Nodup := by
    have hperm : s.listDevices.Perm (s.devices.rows.entries.map fun e => e.2.spec e.1) :=
      perm_orderBy _ _
    have hids := s.devices.rows.nodup.map (Option.some_injective Int)
    rw [List.map_map] at hids
    rw [List.map_map, (hperm.map _).nodup_iff, List.map_map]
    exact hids
  rw [devicesById, OrderedDict.get?_ofList_of_nodup hn, OrderedDict.lookup_eq_some hn]
  exact List.mem_map.mpr ⟨row.spec id, mem_listDevices.mpr ⟨id, row, h, rfl⟩, rfl⟩

omit [PyRuntime F] in
/-- The importer knows the devices by group and name. -/
theorem get?_devicesByKey (hn : (deviceKeys s).Nodup) {key : String × String}
    {device : DeviceSpec F} :
    (devicesByKey s).get? key = some device ↔
      ∃ id row, s.devices.get? id = some row ∧ device = row.spec id ∧
        (row.deviceGroup, row.name) = key := by
  have hkeys : ((s.listDevices.map fun device => (deviceImportKey device, device)).map
      Prod.fst).Nodup := by
    rw [List.map_map]
    exact hn
  rw [devicesByKey, OrderedDict.get?_ofList_of_nodup hkeys, OrderedDict.lookup_eq_some hkeys,
    List.mem_map]
  constructor
  · rintro ⟨found, hfound, heq⟩
    cases heq
    obtain ⟨id, row, hrow, rfl⟩ := mem_listDevices.mp hfound
    exact ⟨id, row, hrow, rfl, rfl⟩
  · rintro ⟨id, row, hrow, rfl, rfl⟩
    exact ⟨row.spec id, mem_listDevices.mpr ⟨id, row, hrow, rfl⟩, rfl⟩

omit [PyRuntime F] in
theorem deviceKey_inj (hn : (deviceKeys s).Nodup) {i j : Int} {key : String × String}
    (hi : s.deviceKey i = some key) (hj : s.deviceKey j = some key) : i = j := by
  obtain ⟨a, ha, hkeyA⟩ := Option.map_eq_some_iff.mp hi
  obtain ⟨b, hb, hkeyB⟩ := Option.map_eq_some_iff.mp hj
  have heq := List.inj_on_of_nodup_map hn (mem_listDevices.mpr ⟨i, a, ha, rfl⟩)
    (mem_listDevices.mpr ⟨j, b, hb, rfl⟩) (hkeyA.trans hkeyB.symm)
  exact Option.some.inj (congrArg DeviceSpec.id heq)

omit [PyRuntime F] in
/-- A device of one store is in the other, under another id. -/
theorem SameDevices.device (h : SameDevices s t) {id : Int} {key : String × String}
    (hid : s.deviceKey id = some key) :
    ∃ id' row, t.devices.get? id' = some row ∧ (row.deviceGroup, row.name) = key := by
  obtain ⟨row, hrow, rfl⟩ := Option.map_eq_some_iff.mp hid
  have hmem : (row.deviceGroup, row.name) ∈ deviceKeys s :=
    List.mem_map.mpr ⟨row.spec id, mem_listDevices.mpr ⟨id, row, hrow, rfl⟩, rfl⟩
  obtain ⟨device, hdevice, hkey⟩ := List.mem_map.mp (h.keys.mem_iff.mpr hmem)
  obtain ⟨id', row', hrow', rfl⟩ := mem_listDevices.mp hdevice
  exact ⟨id', row', hrow', hkey⟩

-- ---------------------------------------------------------------------------
-- Saved routes
-- ---------------------------------------------------------------------------

/-- Runs in which no route comes from a file or an answer to a topic request. -/
def SavesRoutes : Operation F → ConfigStore F → Prop
  | .importPluginsCsv _, _ | .importPluginRoutesCsv _, _ | .resolveOutputRouteTopic _ _ _, _
  | .refreshDynamicOutputRouteTopics _ _, _ => False
  | _, _ => True

theorem savedRoute_of_saves {op : Operation F} (hop : ∃ s, SavesRoutes op s)
    {route : OutputRouteConfig F} (h : op.saves route) : SavedRoute route := by
  obtain ⟨s, hop⟩ := hop
  cases op with
  | saveOutputRoute payload => exact h
  | importPluginsCsv csvText => exact hop.elim
  | importPluginRoutesCsv csvText => exact hop.elim
  | resolveOutputRouteTopic resolver now routeId => exact hop.elim
  | refreshDynamicOutputRouteTopics resolver now => exact hop.elim
  | _ => exact h.elim

def SavedRows (s : ConfigStore F) : Prop :=
  ∀ id row, s.outputRoutes.get? id = some row → SavedRoute (row.route id)

theorem SavedRoute.withId {row : OutputRouteRow F} {id : Int} (h : SavedRoute (row.route id))
    (id' : Int) : SavedRoute (row.route id') := ⟨h.sinkType, h.tagGroup, h.config⟩

theorem SavedRows.saveRoute (h : SavedRows s) {route : OutputRouteConfig F} {id : Int}
    (hroute : SavedRoute route) (hsave : ConfigStore.saveOutputRoute route s = (.ok id, t)) :
    SavedRows t := by
  have hnew : ∀ i, SavedRoute
      ((⟨route.deviceId, route.tagGroup, route.sinkType, route.enabled, route.config⟩ :
        OutputRouteRow F).route i) := fun i => ⟨hroute.sinkType, hroute.tagGroup, hroute.config⟩
  obtain ⟨row, hrow, hput⟩ := saveOutputRoute_rows.mp hsave
  obtain ⟨-, -, rfl⟩ := routeRow_eq_ok.mp hrow
  intro i found hfound
  rcases hput with ⟨-, -, hput⟩ | ⟨-, -, hput⟩
  · obtain ⟨-, -, hroutes⟩ := insertRoute_eq_ok.mp hput
    rw [hroutes, Table.get?_insert] at hfound
    split at hfound
    · cases hfound
      exact hnew i
    · exact h i found hfound
  · obtain ⟨-, -, hroutes⟩ := updateRoute_eq_ok.mp hput
    rw [hroutes, Table.get?_update] at hfound
    split at hfound
    · obtain ⟨old, -, rfl⟩ := Option.map_eq_some_iff.mp hfound
      exact hnew i
    · exact h i found hfound

theorem savedRows_of_reachable (h : Reachable SavesRoutes s) : SavedRows s := by
  refine h.invariant ?_ (fun op s t hop hwrite h => ?_) ?_
  · intro id row hrow
    cases hrow
  · cases hwrite with
    | insertDevice hrow hid => exact h
    | deleteDevice deviceId =>
      intro i row hrow
      exact h i row (Option.filter_eq_some_iff.mp ((Table.get?_filter ..).symm.trans hrow)).1
    | writeTag hadmitted hnode hwrite =>
      have hroutes := (writeTag_rows hwrite).1.outputRoutes
      exact fun i row hrow => h i row (hroutes ▸ hrow)
    | deleteTag tagId => exact h
    | saveRoute hsaves hsave => exact h.saveRoute (savedRoute_of_saves hop hsaves) hsave
    | deleteRoute routeId =>
      intro i row hrow
      exact h i row (Option.filter_eq_some_iff.mp ((Table.get?_filter ..).symm.trans hrow)).1
    | saveSink hkeys => exact h
  · intro s deviceId payload device row _ _ _ h
    exact h

-- ---------------------------------------------------------------------------
-- One route
-- ---------------------------------------------------------------------------

/-- The device of a route as the exporter finds it. -/
def exportedDevice (s : ConfigStore F) (route : OutputRouteConfig F) : Option (DeviceSpec F) :=
  (devicesById s).get? route.deviceId

/-- A route of the list is exported with its settings. -/
theorem exported_row (hs : StoredRoutes s) {route : OutputRouteConfig F}
    (hroute : route ∈ s.listOutputRoutes) :
    ∃ (r : RouteSettings F) (row : Settings F), routeSettings route.config ∅ = .ok r ∧
      pluginRouteCsvRow route (exportedDevice s route) = .ok row ∧
      readBack pluginRouteCsvFields row = routeRowBack route (exportedDevice s route) r := by
  obtain ⟨id, stored, hstored, rfl⟩ := mem_listOutputRoutes.mp hroute
  obtain ⟨r, hr⟩ := (hs.readable id stored hstored).normal
  have hconfig : routeSettings (stored.route id).config ∅ = .ok r := hr
  obtain ⟨row, hrow, hread⟩ := readBack_pluginRouteCsvRow (exportedDevice s (stored.route id)) hconfig
  exact ⟨r, row, hconfig, hrow, hread⟩

theorem isHeartbeat_portableRoute {route : OutputRouteConfig F} {r : RouteSettings F}
    (h : routeSettings route.config ∅ = .ok r) :
    (portableRoute s route).isHeartbeat = r.heartbeat.isSome := by
  have hnormal : normalConfig route.config = .ok r.toSettings := by
    rw [normalConfig_eq, h]
    rfl
  rw [PortableRoute.isHeartbeat, portableRoute]
  simp only [hnormal, r.heartbeat_toSettings.1]
  exact r.csvText_heartbeat.1

/-- A route of a store that is transferable is imported as it was. -/
theorem routeOfRow_exported (hs : Reachable SavesRoutes s) (hdevices : SameDevices s t)
    (htransfer : Transferable (portableRoutes s)) {route : OutputRouteConfig F}
    (hroute : route ∈ s.listOutputRoutes) {r : RouteSettings F}
    (hr : routeSettings route.config ∅ = .ok r) :
    ∃ row, routeOfRow (devicesByKey t) (routeRowBack route (exportedDevice s route) r) = .ok row ∧
      Storable t row ∧ ∀ id, portableRoute t (row.route id) = portableRoute s route := by
  obtain ⟨i, stored, hstored, rfl⟩ := mem_listOutputRoutes.mp hroute
  have hsaved := savedRows_of_reachable hs i stored hstored
  have hmem : portableRoute s (stored.route i) ∈ portableRoutes s := List.mem_map_of_mem hroute
  have hbeat := isHeartbeat_portableRoute (s := s) hr
  -- the device is found again, or there is none on either side
  have hdevice : ∃ deviceId, csvRouteDeviceId
      (routeRowBack (stored.route i) (exportedDevice s (stored.route i)) r) (devicesByKey t) =
        .ok deviceId ∧ deviceId.bind t.deviceKey = stored.deviceId.bind s.deviceKey ∧
      ∀ d, deviceId = some d → (t.devices.get? d).isSome := by
    cases hheartbeat : r.heartbeat.isSome with
    | true =>
      have hnone := htransfer.heartbeat _ hmem (hbeat.trans hheartbeat)
      exact ⟨none, csvRouteDeviceId_heartbeat hheartbeat, hnone.symm, fun d hd => by cases hd⟩
    | false =>
      cases hid : stored.deviceId with
      | none =>
        have hexported : exportedDevice s (stored.route i) = none := by
          rw [exportedDevice]
          exact (congrArg _ hid).trans get?_devicesById_none
        refine ⟨none, ?_, rfl, fun d hd => by cases hd⟩
        rw [csvRouteDeviceId_data hheartbeat, hexported]
        exact if_pos PyText.stripped_empty
      | some d =>
        obtain ⟨row, hrow⟩ := Option.isSome_iff_exists.mp (s.routeDevice i stored d hstored hid)
        have hkey : s.deviceKey d = some (row.deviceGroup, row.name) := by
          rw [ConfigStore.deviceKey, hrow]
          rfl
        have hexported : exportedDevice s (stored.route i) = some (row.spec d) := by
          rw [exportedDevice]
          exact (congrArg _ hid).trans (get?_devicesById hrow)
        have hportable : (portableRoute s (stored.route i)).device =
            some (row.deviceGroup, row.name) := by
          rw [portableRoute]
          exact (congrArg (fun deviceId => Option.bind deviceId s.deviceKey) hid).trans hkey
        obtain ⟨hgroup, hname⟩ := htransfer.device _ hmem _ hportable
        obtain ⟨device, hchecked⟩ := (storedRows_of_reachable hs).device d row hrow
        have hgiven : row.name ≠ "" := by
          have hspec := congrArg DeviceSpec.name (deviceRow_eq_ok hchecked.row d)
          have hvalid := (validateDevice_ok.mp hchecked.valid).1
          rw [show row.name = device.name from hspec]
          exact (plain_of_nameGiven (hspec ▸ hname) hvalid).2
        obtain ⟨d', row', hrow', hkey'⟩ := hdevices.device hkey
        have hfound : (devicesByKey t).get? (row.deviceGroup, row.name) = some (row'.spec d') :=
          (get?_devicesByKey (hdevices.keys.nodup_iff.mpr hdevices.distinct)).mpr
            ⟨d', row', hrow', rfl, hkey'⟩
        refine ⟨some d', ?_, ?_, fun d hd => ?_⟩
        · have hstripGroup : PyText.strip row.deviceGroup = row.deviceGroup := hgroup
          have hstripName : PyText.strip row.name = row.name := hname
          rw [csvRouteDeviceId_data hheartbeat, hexported]
          simp only [Option.map_some, Option.getD_some, DeviceRow.spec, hstripGroup, hstripName,
            if_neg hgiven, hfound]
        · rw [Option.bind_some, Option.bind_some, hkey, ConfigStore.deviceKey, hrow', ← hkey']
          rfl
        · cases hd
          exact Option.isSome_iff_exists.mpr ⟨row', hrow'⟩
  obtain ⟨deviceId, hread, hkey, hsome⟩ := hdevice
  refine ⟨⟨deviceId, stored.tagGroup, stored.sinkType, stored.enabled, r.toSettings⟩, ?_,
    ⟨readable_toSettings r, hsome⟩, fun id => ?_⟩
  · rw [routeOfRow_routeRowBack hsaved.tagGroup hsaved.sinkType, hread]
    rfl
  · have hnormal : normalConfig stored.config = .ok r.toSettings := by
      rw [normalConfig_eq]
      exact congrArg (Except.map RouteSettings.toSettings) hr
    rw [portableRoute, portableRoute]
    simp only [OutputRouteRow.route, hkey, hnormal, normalConfig_toSettings]

/-- What was imported is for no device when it is a heartbeat, and else for one with
stripped texts. -/
theorem portableRoute_imported (hn : (deviceKeys t).Nodup) {route : OutputRouteConfig F}
    {device : Option (DeviceSpec F)} {r : RouteSettings F} {row : OutputRouteRow F}
    (h : routeOfRow (devicesByKey t) (routeRowBack route device r) = .ok row) (id : Int) :
    ((portableRoute t (row.route id)).isHeartbeat → (portableRoute t (row.route id)).device = none) ∧
      ∀ key, (portableRoute t (row.route id)).device = some key →
        PyText.Stripped key.1 ∧ PyText.Stripped key.2 := by
  rw [routeOfRow, routeConfig_rowPayload] at h
  obtain ⟨deviceId, hdevice, h⟩ := bind_eq_ok.mp h
  have hconfig : routeSettings (row.route id).config ∅ = .ok r := by
    have hrow : row.config = r.toSettings := by
      cases h
      rfl
    rw [show (row.route id).config = row.config from rfl, hrow, routeSettings_toSettings]
  obtain rfl : row.deviceId = deviceId := by
    cases h
    rfl
  constructor
  · intro hbeat
    rw [isHeartbeat_portableRoute hconfig] at hbeat
    rw [csvRouteDeviceId_heartbeat hbeat] at hdevice
    rw [portableRoute, show (row.route id).deviceId = none from (Except.ok.inj hdevice).symm]
    rfl
  · intro key hkey
    obtain ⟨d, hd, hkey⟩ := Option.bind_eq_some_iff.mp hkey
    rcases csvRouteDeviceId_eq_ok hdevice with hnone | ⟨-, found, hfound, hid⟩
    · cases hnone.symm.trans hd
    · obtain ⟨i, stored, hstored, rfl, htexts⟩ := (get?_devicesByKey hn).mp hfound
      cases hid.trans hd
      rw [ConfigStore.deviceKey, hstored, Option.map_some, htexts] at hkey
      rw [← Option.some.inj hkey]
      exact ⟨PyText.stripped_strip _, PyText.stripped_strip _⟩

-- ---------------------------------------------------------------------------
-- All routes
-- ---------------------------------------------------------------------------

/-- The file of a store, row by row. -/
theorem exported_rows (hs : StoredRoutes s) :
    ∃ rows, pluginRouteCsvRows s = .ok rows ∧
      List.Forall₂ (fun route row => ∃ r : RouteSettings F, routeSettings route.config ∅ = .ok r ∧
        readBack pluginRouteCsvFields row = routeRowBack route (exportedDevice s route) r)
        s.listOutputRoutes rows := by
  have hall : ∀ routes, (∀ route ∈ routes, route ∈ s.listOutputRoutes) →
      ∃ rows, (routes.mapM fun route => pluginRouteCsvRow route (exportedDevice s route)) = .ok rows ∧
        List.Forall₂ (fun route row => ∃ r : RouteSettings F, routeSettings route.config ∅ = .ok r ∧
          readBack pluginRouteCsvFields row = routeRowBack route (exportedDevice s route) r)
          routes rows := by
    intro routes hroutes
    induction routes with
    | nil => exact ⟨[], rfl, .nil⟩
    | cons route routes ih =>
      obtain ⟨r, row, hr, hrow, hread⟩ := exported_row hs (hroutes route List.mem_cons_self)
      obtain ⟨rows, hrows, hrest⟩ := ih fun other hother => hroutes other (List.mem_cons_of_mem _ hother)
      refine ⟨row :: rows, ?_, .cons ⟨r, hr, hread⟩ hrest⟩
      rw [List.mapM_cons, hrow, ok_bind, hrows]
      rfl
  exact hall _ fun route hroute => hroute

/-- The rows of transferable routes are taken by a store with the same devices. -/
theorem routesOfRows_exported (hs : Reachable SavesRoutes s) (hdevices : SameDevices s t)
    (htransfer : Transferable (portableRoutes s)) {routes : List (OutputRouteConfig F)}
    {csvRows : List (Settings F)} (hroutes : ∀ route ∈ routes, route ∈ s.listOutputRoutes)
    (hrows : List.Forall₂ (fun route row => ∃ r : RouteSettings F,
      routeSettings route.config ∅ = .ok r ∧
        readBack pluginRouteCsvFields row = routeRowBack route (exportedDevice s route) r)
      routes csvRows) :
    ∃ rest, List.Forall₂ (fun csvRow row => routeOfRow (devicesByKey t) csvRow = .ok row ∧
        Storable t row) (csvRows.map (readBack pluginRouteCsvFields)) rest ∧
      (rest.map fun row => portableRoute t (row.route 0)) = routes.map (portableRoute s) := by
  induction hrows with
  | nil => exact ⟨[], .nil, rfl⟩
  | @cons route csvRow routes csvRows hrow _ ih =>
    obtain ⟨r, hr, hread⟩ := hrow
    obtain ⟨row, hdecode, hstorable, hportable⟩ :=
      routeOfRow_exported hs hdevices htransfer (hroutes route List.mem_cons_self) hr
    obtain ⟨rest, hrest, hsame⟩ := ih fun other hother => hroutes other (List.mem_cons_of_mem _ hother)
    refine ⟨row :: rest, ?_, ?_⟩
    · rw [List.map_cons, hread]
      exact .cons ⟨hdecode, hstorable⟩ hrest
    · rw [List.map_cons, List.map_cons, hportable 0, hsame]

omit [PyRuntime F] in
theorem Upserting.values {rows : List (OutputRouteRow F)} {state : RouteImport F}
    (h : Upserting t rows state u) : u.outputRoutes.rows.values = (upserted rows).values := by
  have hkeyed : u.outputRoutes.rows.entries.map (fun e => (routeKey e.2, e.2)) =
      (upserted rows).entries := h.keyed
  rw [OrderedDict.values, OrderedDict.values, ← hkeyed, List.map_map]
  rfl

theorem portableRoutes_perm (u : ConfigStore F) : (portableRoutes u).Perm
    (u.outputRoutes.rows.values.map fun row => portableRoute u (row.route 0)) := by
  have hperm : u.listOutputRoutes.Perm (u.outputRoutes.rows.entries.map fun e => e.2.route e.1) :=
    perm_orderBy _ _
  have hmap := hperm.map (portableRoute u)
  rw [List.map_map] at hmap
  rw [OrderedDict.values, List.map_map]
  exact hmap

theorem portableRoute_congr (h : u.devices = t.devices) : portableRoute u = portableRoute t := by
  funext route
  have hkey : u.deviceKey = t.deviceKey := by
    funext id
    rw [ConfigStore.deviceKey, ConfigStore.deviceKey, h]
  rw [portableRoute, portableRoute, hkey]

/-- A device key is no more than the id says. -/
theorem key_portableRoute (row : OutputRouteRow F) :
    (portableRoute t (row.route 0)).key =
      ((routeKey row).1.bind t.deviceKey, (routeKey row).2) := rfl

theorem importPluginRoutesCsv_rows (rows : List (Settings F)) (t : ConfigStore F) :
    importPluginRoutesCsv (Csv.dictWriter pluginRouteCsvFields (rows.map csvCell)) t =
      ((rows.map (readBack pluginRouteCsvFields)).foldlM (importPluginRoutesRow (devicesByKey t))
        ⟨t.listOutputRoutes, 0⟩ >>= fun result => pure result.imported) t := by
  have hfields : pluginRouteCsvFields ≠ [] := List.cons_ne_nil _ _
  rw [importPluginRoutesCsv, read_bind, read_bind, forRows_dictWriter hfields]

-- ---------------------------------------------------------------------------
-- Transfers
-- ---------------------------------------------------------------------------

omit [PyRuntime F] in
/-- Where devices have their own keys, so have routes that differ. -/
theorem routeKey_of_key (hn : (deviceKeys u).Nodup) {i j : Int} {a b : OutputRouteRow F}
    (ha : u.outputRoutes.get? i = some a) (hb : u.outputRoutes.get? j = some b)
    (hdevice : a.deviceId.bind u.deviceKey = b.deviceId.bind u.deviceKey) : a.deviceId = b.deviceId := by
  have hkey : ∀ i row d, u.outputRoutes.get? i = some row → row.deviceId = some d →
      ∃ key, u.deviceKey d = some key := fun i row d hrow hd => by
    obtain ⟨device, hdevice⟩ := Option.isSome_iff_exists.mp (u.routeDevice i row d hrow hd)
    exact ⟨_, by rw [ConfigStore.deviceKey, hdevice]; rfl⟩
  cases hda : a.deviceId with
  | none =>
    cases hdb : b.deviceId with
    | none => rfl
    | some d =>
      obtain ⟨key, hd⟩ := hkey j b d hb hdb
      rw [hda, hdb, Option.bind_some, hd] at hdevice
      cases hdevice
  | some d =>
    obtain ⟨key, hd⟩ := hkey i a d ha hda
    cases hdb : b.deviceId with
    | none =>
      rw [hda, hdb, Option.bind_some, hd] at hdevice
      cases hdevice
    | some d' =>
      rw [hda, hdb, Option.bind_some, Option.bind_some, hd] at hdevice
      rw [deviceKey_inj hn hd hdevice.symm]

/-- An import into a store without routes leaves transferable routes. -/
theorem transferable_imported (hn : (deviceKeys t).Nodup) {rest : List (OutputRouteRow F)}
    {state : RouteImport F} (h : Upserting t rest state u)
    (hrest : ∀ row ∈ rest, ∃ route device, ∃ r : RouteSettings F,
      routeOfRow (devicesByKey t) (routeRowBack route device r) = .ok row) :
    Transferable (portableRoutes u) := by
  refine Transferable.perm ?_ (portableRoutes_perm u)
  have hrows : ∀ row ∈ u.outputRoutes.rows.values, row ∈ rest := by
    intro row hrow
    rw [h.values, OrderedDict.mem_values_iff] at hrow
    obtain ⟨key, hget⟩ := hrow
    rw [upserted, OrderedDict.get?_ofList, Option.map_eq_some_iff] at hget
    obtain ⟨p, hp, rfl⟩ := hget
    obtain ⟨found, hfound, rfl⟩ := List.mem_map.mp (List.mem_filter.mp (List.mem_of_getLast? hp)).1
    exact hfound
  have hportable := portableRoute_congr h.same.devices
  refine ⟨?_, ?_, ?_⟩
  · have hkeys : (u.outputRoutes.rows.values.map routeKey).Nodup := by
      have hnodup := (upserted rest).nodup
      have hkeyed : u.outputRoutes.rows.entries.map (fun e => (routeKey e.2, e.2)) =
        (upserted rest).entries := h.keyed
      rw [← hkeyed, List.map_map] at hnodup
      rw [OrderedDict.values, List.map_map]
      exact hnodup
    have hkeysU : (deviceKeys u).Nodup := by
      rw [deviceKeys, listDevices, h.same.devices]
      exact hn
    rw [List.map_map]
    refine (List.Nodup.of_map _ hkeys).map_on fun a ha b hb heq => ?_
    obtain ⟨i, hi⟩ := OrderedDict.mem_values_iff.mp ha
    obtain ⟨j, hj⟩ := OrderedDict.mem_values_iff.mp hb
    simp only [Function.comp_apply, key_portableRoute, Prod.mk.injEq] at heq
    refine List.inj_on_of_nodup_map hkeys ha hb ?_
    exact Prod.ext (routeKey_of_key hkeysU hi hj heq.1) heq.2
  · intro route hroute hbeat
    obtain ⟨row, hrow, rfl⟩ := List.mem_map.mp hroute
    obtain ⟨route, device, r, hdecode⟩ := hrest row (hrows row hrow)
    rw [hportable] at hbeat ⊢
    exact (portableRoute_imported hn hdecode 0).1 hbeat
  · intro route hroute
    obtain ⟨row, hrow, rfl⟩ := List.mem_map.mp hroute
    obtain ⟨route, device, r, hdecode⟩ := hrest row (hrows row hrow)
    rw [hportable]
    exact (portableRoute_imported hn hdecode 0).2

/-- The import of the routes' own export brings them into the other store. -/
def TakesOver (s t : ConfigStore F) : Prop :=
  ∃ csvText imported u, exportPluginRoutesCsv s = .ok csvText ∧
    importPluginRoutesCsv csvText t = (.ok imported, u) ∧ (portableRoutes u).Perm (portableRoutes s)

theorem exportPluginRoutesCsv_eq {rows : List (Settings F)} (h : pluginRouteCsvRows s = .ok rows) :
    exportPluginRoutesCsv s = .ok (Csv.dictWriter pluginRouteCsvFields (rows.map csvCell)) := by
  rw [exportPluginRoutesCsv, h]
  rfl

/-- Whatever was taken over is transferable, and had room. -/
theorem TakesOver.transferable (h : TakesOver s t) (hs : Reachable SavesRoutes s)
    (ht : Reachable (fun _ _ => True) t) (hdevices : SameDevices s t) (hnone : t.listOutputRoutes = []) :
    Transferable (portableRoutes s) ∧
      t.outputRoutes.lastId + s.listOutputRoutes.length < 2 ^ 63 := by
  obtain ⟨csvRows, hcsvRows, hexported⟩ := exported_rows (storedRoutes_of_reachable hs)
  obtain ⟨csvText, imported, u, hcsv, himport, hperm⟩ := h
  cases (exportPluginRoutesCsv_eq hcsvRows).symm.trans hcsv
  have hn : (deviceKeys t).Nodup := hdevices.keys.nodup_iff.mpr hdevices.distinct
  have hreachable : Reachable (fun _ _ => True) u := by
    have hrun := ht.run (.importPluginRoutesCsv
      (Csv.dictWriter pluginRouteCsvFields (csvRows.map csvCell))) trivial
    rwa [Operation.run, himport] at hrun
  rw [importPluginRoutesCsv_rows] at himport
  obtain ⟨result, v, hrows, himport⟩ := Fallible.bind_eq_ok.mp himport
  obtain ⟨-, rfl⟩ := pure_eq_ok.mp himport
  obtain ⟨rest, hrest, hend⟩ := (Upserting.start hnone 0).rows_of_ok hrows
  have hdecoded : ∀ row ∈ rest, ∃ route device, ∃ r : RouteSettings F,
      routeOfRow (devicesByKey t) (routeRowBack route device r) = .ok row := by
    intro row hrow
    obtain ⟨csvRow, hcsvRow, hdecode⟩ := exists_of_forall₂ hrest.flip hrow
    obtain ⟨written, hwritten, rfl⟩ := List.mem_map.mp hcsvRow
    obtain ⟨route, -, r, -, hread⟩ := exists_of_forall₂ hexported.flip hwritten
    exact ⟨route, exportedDevice s route, r, hread ▸ hdecode⟩
  have hlength : v.outputRoutes.rows.entries.length = s.listOutputRoutes.length := by
    have hrows := ((portableRoutes_perm v).symm.trans hperm).length_eq
    rw [portableRoutes, List.length_map, List.length_map, OrderedDict.values, List.length_map] at hrows
    exact hrows
  refine ⟨(transferable_imported hn hend hdecoded).perm hperm.symm, ?_⟩
  rw [← hlength, ← hend.routeIds]
  exact (storedRoutes_of_reachable hreachable).routeIds

/-- Transferable routes are taken over while the ids suffice. -/
theorem Transferable.takesOver (htransfer : Transferable (portableRoutes s))
    (hroom : t.outputRoutes.lastId + s.listOutputRoutes.length < 2 ^ 63)
    (hs : Reachable SavesRoutes s) (ht : Reachable (fun _ _ => True) t) (hdevices : SameDevices s t)
    (hnone : t.listOutputRoutes = []) : TakesOver s t := by
  obtain ⟨csvRows, hcsvRows, hexported⟩ := exported_rows (storedRoutes_of_reachable hs)
  obtain ⟨rest, hrest, hsame⟩ := routesOfRows_exported hs hdevices htransfer (fun _ h => h) hexported
  have hlength : rest.length = s.listOutputRoutes.length := by
    have hlength := congrArg List.length hsame
    rwa [List.length_map, List.length_map] at hlength
  obtain ⟨result, u, hrows, hend⟩ := (Upserting.start hnone 0).importRows (storedRows_of_reachable ht)
    (by rw [List.nil_append, hlength]; exact hroom) hrest
  -- every row has a key of its own, so none is lost
  have hkeys : (rest.map routeKey).Nodup := by
    have hdistinct := htransfer.distinct
    rw [portableRoutes, ← hsame, List.map_map] at hdistinct
    refine List.Nodup.of_map (fun key : Option Int × String × String =>
      (key.1.bind t.deviceKey, key.2)) ?_
    rw [List.map_map]
    exact hdistinct
  have hentries : (upserted rest).entries = rest.map fun row => (routeKey row, row) := by
    refine OrderedDict.entries_ofList ?_
    rw [List.map_map]
    exact hkeys
  have hvalues : u.outputRoutes.rows.values = rest := by
    rw [hend.values, OrderedDict.values, List.nil_append, hentries, List.map_map]
    exact List.map_id rest
  refine ⟨_, result.imported, u, exportPluginRoutesCsv_eq hcsvRows, ?_, ?_⟩
  · rw [importPluginRoutesCsv_rows]
    exact Fallible.bind_eq_of_ok hrows
  · refine (portableRoutes_perm u).trans ?_
    rw [hvalues, portableRoute_congr hend.same.devices, hsame]
    exact List.Perm.refl _

/-- A store with the same devices and no routes takes over the routes exactly when
they are transferable and its ids suffice. -/
theorem takesOver_iff (hs : Reachable SavesRoutes s) (ht : Reachable (fun _ _ => True) t)
    (hdevices : SameDevices s t) (hnone : t.listOutputRoutes = []) :
    TakesOver s t ↔ Transferable (portableRoutes s) ∧
      t.outputRoutes.lastId + s.listOutputRoutes.length < 2 ^ 63 := by
  constructor
  · intro h
    exact h.transferable hs ht hdevices hnone
  · rintro ⟨htransfer, hroom⟩
    exact htransfer.takesOver hroom hs ht hdevices hnone

def heartbeatPayload : Settings WholeFloat := .ofList [("route_kind", .str "system_heartbeat")]

def addPress : Operation WholeFloat := .createDevice (.ofList [("driver_type", .str "modbus_tcp"),
  ("name", .str "press"), ("device_group", .str "hall")])

/-- A press with a route, a tag group of all devices with another, and a heartbeat. -/
def pressRoutes : ConfigStore WholeFloat :=
  (Operation.saveOutputRoute heartbeatPayload).run
    ((Operation.saveOutputRoute (.ofList [("tag_group", .str "fast"), ("topic", .str "plant/fast")])).run
      ((Operation.saveOutputRoute (.ofList [("device_id", .int 1), ("topic", .str "plant/press")])).run
        (addPress.run initialized)))

theorem pressRoutes_reachable : Reachable SavesRoutes pressRoutes :=
  .run _ (.run _ (.run _ (.run _ .initialized trivial) trivial) trivial) trivial

/-- A store that has the press under another id. -/
def pressElsewhere : ConfigStore WholeFloat :=
  addPress.run ((Operation.deleteDevice 1).run (addPress.run initialized))

theorem pressElsewhere_reachable : Reachable (fun _ _ => True) pressElsewhere :=
  .run _ (.run _ (.run _ .initialized trivial) trivial) trivial

theorem pressRoutes_takesOver : TakesOver pressRoutes pressElsewhere := by
  refine (takesOver_iff pressRoutes_reachable pressElsewhere_reachable
    ⟨by decide +kernel, by decide +kernel⟩ rfl).mpr ⟨⟨by decide +kernel, ?_, ?_⟩, by decide +kernel⟩
  · decide +kernel
  · decide +kernel

/-- A route of all devices and a heartbeat. -/
def heartbeatStore : ConfigStore WholeFloat :=
  (Operation.saveOutputRoute heartbeatPayload).run
    ((Operation.saveOutputRoute (.ofList [("topic", .str "plant/data")])).run initialized)

theorem heartbeat_lost : ¬ ∀ s t : ConfigStore WholeFloat, Reachable SavesRoutes s →
    Reachable (fun _ _ => True) t → SameDevices s t → t.listOutputRoutes = [] → TakesOver s t := by
  intro h
  have hs : Reachable SavesRoutes heartbeatStore := .run _ (.run _ .initialized trivial) trivial
  have hdevices : SameDevices heartbeatStore initialized := ⟨by decide +kernel, by decide +kernel⟩
  have htakes := h heartbeatStore initialized hs .initialized hdevices rfl
  have hdistinct := (htakes.transferable hs .initialized hdevices rfl).1.distinct
  exact absurd hdistinct (by decide +kernel)

end IndustrialGateway
