import IndustrialGateway.StoredRows

/-!
# Stored routes

Every config of a reachable store can be read, so the service finds each route
that is there, and a route that was read can be written again.
-/

namespace IndustrialGateway

open ConfigStore Fallible

variable {F : Type} [PyRuntime F] {s t : ConfigStore F}

structure StoredRoutes (s : ConfigStore F) : Prop where
  readable : ∀ id row, s.outputRoutes.get? id = some row → Readable row.config
  routeIds : s.outputRoutes.lastId < 2 ^ 63

-- ---------------------------------------------------------------------------
-- Writes
-- ---------------------------------------------------------------------------

theorem StoredRoutes.congr (h : StoredRoutes s)
    (hrows : ∀ id row, t.outputRoutes.get? id = some row → s.outputRoutes.get? id = some row)
    (hids : t.outputRoutes.lastId = s.outputRoutes.lastId) : StoredRoutes t where
  readable id row hrow := h.readable id row (hrows id row hrow)
  routeIds := hids.trans_lt h.routeIds

omit [PyRuntime F] in
/-- A row after a save is an old one, or has the config of the route. -/
theorem saveOutputRoute_config {route : OutputRouteConfig F} {id i : Int} {found : OutputRouteRow F}
    (hsave : saveOutputRoute route s = (.ok id, t)) (hfound : t.outputRoutes.get? i = some found) :
    found.config = route.config ∨ s.outputRoutes.get? i = some found := by
  obtain ⟨row, hrow, hput⟩ := saveOutputRoute_rows.mp hsave
  obtain ⟨-, -, rfl⟩ := routeRow_eq_ok.mp hrow
  rcases hput with ⟨-, -, hput⟩ | ⟨-, -, hput⟩
  · obtain ⟨-, -, hroutes⟩ := insertRoute_eq_ok.mp hput
    rw [hroutes, Table.get?_insert] at hfound
    split at hfound
    · cases hfound
      exact .inl rfl
    · exact .inr hfound
  · obtain ⟨-, -, hroutes⟩ := updateRoute_eq_ok.mp hput
    rw [hroutes, Table.get?_update] at hfound
    split at hfound
    · obtain ⟨old, -, rfl⟩ := Option.map_eq_some_iff.mp hfound
      exact .inl rfl
    · exact .inr hfound

theorem StoredRoutes.saveRoute (h : StoredRoutes s) {route : OutputRouteConfig F} {id : Int}
    (hconfig : Readable route.config) (hsave : saveOutputRoute route s = (.ok id, t)) :
    StoredRoutes t := by
  refine ⟨fun i found hfound => ?_, ?_⟩
  · rcases saveOutputRoute_config hsave hfound with hnew | hold
    · exact hnew ▸ hconfig
    · exact h.readable i found hold
  · obtain ⟨row, -, ⟨-, hfresh, hput⟩ | ⟨-, -, hput⟩⟩ := saveOutputRoute_rows.mp hsave
    · obtain ⟨-, -, hroutes⟩ := insertRoute_eq_ok.mp hput
      have hbound := (nextRowId_eq_ok.mp hfresh).1
      simp only [Table.nextId] at hbound
      simp only [hroutes, Table.insert]
      omega
    · obtain ⟨-, -, hroutes⟩ := updateRoute_eq_ok.mp hput
      rw [hroutes, Table.lastId_update]
      exact h.routeIds

/-- What is known of the configs of the routes that are saved is known of all. -/
theorem Write.configs {saves : OutputRouteConfig F → Prop} {p : Settings F → Prop}
    (hsaves : ∀ route, saves route → p route.config) (hwrite : Write saves s t)
    (h : ∀ id row, s.outputRoutes.get? id = some row → p row.config) :
    ∀ id row, t.outputRoutes.get? id = some row → p row.config := by
  cases hwrite with
  | insertDevice hrow hid => exact h
  | deleteDevice deviceId =>
    exact fun i row hrow =>
      h i row (Option.filter_eq_some_iff.mp ((Table.get?_filter ..).symm.trans hrow)).1
  | writeTag hadmitted hnode hwrite =>
    rw [(writeTag_rows hwrite).1.outputRoutes]
    exact h
  | deleteTag tagId => exact h
  | saveRoute hroute hsave =>
    intro i row hrow
    rcases saveOutputRoute_config hsave hrow with hnew | hold
    · exact hnew ▸ hsaves _ hroute
    · exact h i row hold
  | deleteRoute routeId =>
    exact fun i row hrow =>
      h i row (Option.filter_eq_some_iff.mp ((Table.get?_filter ..).symm.trans hrow)).1
  | saveSink hkeys => exact h

theorem Operation.saves_readable {op : Operation F} {route : OutputRouteConfig F}
    (h : op.saves route) : Readable route.config := by
  cases op with
  | saveOutputRoute payload => exact h.config
  | importPluginsCsv csvText => exact h
  | importPluginRoutesCsv csvText => exact h
  | resolveOutputRouteTopic resolver now routeId => exact h
  | refreshDynamicOutputRouteTopics resolver now => exact h
  | _ => exact h.elim

theorem StoredRoutes.write (h : StoredRoutes s) {op : Operation F} (hwrite : Write op.saves s t) :
    StoredRoutes t := by
  cases hwrite with
  | insertDevice hrow hid => exact h.congr (fun _ _ hrow => hrow) rfl
  | deleteDevice deviceId =>
    refine h.congr (fun i row hrow => ?_) rfl
    exact (Option.filter_eq_some_iff.mp ((Table.get?_filter ..).symm.trans hrow)).1
  | writeTag hadmitted hnode hwrite =>
    have hroutes := (writeTag_rows hwrite).1.outputRoutes
    exact h.congr (fun _ _ hrow => hroutes ▸ hrow) (by rw [hroutes])
  | deleteTag tagId => exact h.congr (fun _ _ hrow => hrow) rfl
  | saveRoute hsaves hsave => exact h.saveRoute (Operation.saves_readable hsaves) hsave
  | deleteRoute routeId =>
    refine h.congr (fun i row hrow => ?_) rfl
    exact (Option.filter_eq_some_iff.mp ((Table.get?_filter ..).symm.trans hrow)).1
  | saveSink hkeys => exact h.congr (fun _ _ hrow => hrow) rfl

theorem storedRoutes_of_reachable {allowed : Operation F → ConfigStore F → Prop}
    (h : Reachable allowed s) : StoredRoutes s := by
  refine h.invariant ?_ (fun _ _ _ _ hwrite h => h.write hwrite) ?_
  · refine ⟨fun _ _ h => ?_, Nat.two_pow_pos 63⟩
    cases h
  · intro s deviceId payload device row _ _ _ h
    exact h.congr (fun _ _ hrow => hrow) rfl

theorem writtenConfig_of_reachable {allowed : Operation F → ConfigStore F → Prop}
    (h : Reachable allowed s) :
    ∀ id row, s.outputRoutes.get? id = some row → WrittenConfig row.config := by
  refine h.invariant_writes (I := fun s => ∀ id row, s.outputRoutes.get? id = some row →
    WrittenConfig row.config) (fun _ _ h => ?_) (fun op s t _ hwrite h => ?_)
    fun _ _ _ _ _ _ _ _ h => h
  · cases h
  · exact hwrite.configs (fun _ hwrites => hwrites.2) h

theorem sqlInteger_eq_ok {n : Int} : sqlInteger n = .ok () ↔ -2 ^ 63 ≤ n ∧ n < 2 ^ 63 := by
  unfold sqlInteger
  split <;> simp_all

omit [PyRuntime F] in
theorem sqlInteger_of_isSome {α : Type} {table : Table α} (hids : table.lastId < 2 ^ 63) {id : Int}
    (h : (table.get? id).isSome) : sqlInteger id = .ok () := by
  obtain ⟨row, hrow⟩ := Option.isSome_iff_exists.mp h
  have := table.bounded id (OrderedDict.mem_keys_iff.mpr ⟨row, hrow⟩)
  rw [sqlInteger_eq_ok]
  omega

theorem routeRow_ok (h : StoredRows s) {route : OutputRouteConfig F} (hconfig : Readable route.config)
    (hdevice : ∀ deviceId, route.deviceId = some deviceId → (s.devices.get? deviceId).isSome) :
    routeRow route = .ok ⟨route.deviceId, route.tagGroup, route.sinkType, route.enabled, route.config⟩ := by
  refine routeRow_eq_ok.mpr ⟨hconfig.json, ?_, rfl⟩
  cases hd : route.deviceId with
  | none => rfl
  | some deviceId => exact sqlInteger_of_isSome h.deviceIds (hdevice deviceId hd)

/-- A new route is written when its device is there and an id is left. -/
theorem saveOutputRoute_insert (h : StoredRows s) {route : OutputRouteConfig F} (hid : route.id = none)
    (hbound : s.outputRoutes.lastId + 1 < 2 ^ 63) (hconfig : Readable route.config)
    (hdevice : ∀ deviceId, route.deviceId = some deviceId → (s.devices.get? deviceId).isSome) :
    ∃ t, saveOutputRoute route s = (.ok s.outputRoutes.nextId, t) := by
  have hfresh : nextRowId s.outputRoutes = .ok s.outputRoutes.nextId := by
    rw [nextRowId_eq_ok]
    refine ⟨?_, rfl⟩
    rw [Table.nextId]
    omega
  cases hput : s.insertRoute ⟨route.deviceId, route.tagGroup, route.sinkType, route.enabled,
    route.config⟩ with
  | error e =>
    unfold insertRoute at hput
    rw [dif_pos hdevice] at hput
    cases hput
  | ok t =>
    exact ⟨t, saveOutputRoute_rows.mpr ⟨_, routeRow_ok h hconfig hdevice, .inl ⟨hid, hfresh, hput⟩⟩⟩

/-- A route with an id is written when its device is there. -/
theorem saveOutputRoute_update (h : StoredRows s) {route : OutputRouteConfig F} {id : Int}
    (hid : route.id = some id) (hbound : sqlInteger id = .ok ()) (hconfig : Readable route.config)
    (hdevice : ∀ deviceId, route.deviceId = some deviceId → (s.devices.get? deviceId).isSome) :
    ∃ t, saveOutputRoute route s = (.ok id, t) ∧ SameButRoutes s t ∧
      t.outputRoutes = s.outputRoutes.update id
        ⟨route.deviceId, route.tagGroup, route.sinkType, route.enabled, route.config⟩ := by
  have hrow := routeRow_ok h hconfig hdevice
  rcases hput : s.updateRoute id ⟨route.deviceId, route.tagGroup, route.sinkType, route.enabled,
    route.config⟩ with e | t
  · unfold updateRoute at hput
    rw [dif_pos fun _ => hdevice] at hput
    cases hput
  · obtain ⟨-, hsame, hroutes⟩ := updateRoute_eq_ok.mp hput
    exact ⟨t, saveOutputRoute_rows.mpr ⟨_, hrow, .inr ⟨hid, hbound, hput⟩⟩, hsame, hroutes⟩

-- ---------------------------------------------------------------------------
-- Reads
-- ---------------------------------------------------------------------------

omit [PyRuntime F] in
theorem mem_listOutputRoutes {route : OutputRouteConfig F} :
    route ∈ s.listOutputRoutes ↔ ∃ id row, s.outputRoutes.get? id = some row ∧ route = row.route id :=
  mem_orderBy_rows fun id (row : OutputRouteRow F) => row.route id

omit [PyRuntime F] in
theorem find?_listOutputRoutes (id : Int) :
    (s.listOutputRoutes.find? fun route => route.id = some id) =
      (s.outputRoutes.get? id).map fun row => row.route id :=
  find?_orderBy_rows (fun id (row : OutputRouteRow F) => row.route id) OutputRouteConfig.id
    (fun _ _ => rfl) id

namespace ConfigService

omit [PyRuntime F] in
theorem routeByRequiredId_eq (routeId : Int) :
    routeByRequiredId s.listOutputRoutes routeId =
      match s.outputRoutes.get? routeId with
      | some row => .ok (row.route routeId)
      | none => .error ⟨.keyError, "'route not found: " ++ PyText.textOfInt routeId ++ "'"⟩ := by
  rw [routeByRequiredId, find?_listOutputRoutes]
  cases s.outputRoutes.get? routeId <;> rfl

/-- A search for an id in the list of the service finds the route of the store. -/
theorem find?_mapM_routeToDict {routes dicts : List (OutputRouteConfig F)} {routeId : Int}
    (h : routes.mapM routeToDict = .ok dicts) :
    (∀ route, (routes.find? fun route => route.id = some routeId) = some route →
      ∃ dict, routeToDict route = .ok dict ∧
        (dicts.find? fun route => route.id = some routeId) = some dict) ∧
    ((routes.find? fun route => route.id = some routeId) = none →
      (dicts.find? fun route => route.id = some routeId) = none) := by
  induction routes generalizing dicts with
  | nil =>
    cases h
    exact ⟨fun _ h => (by cases h), fun _ => rfl⟩
  | cons first routes ih =>
    rw [List.mapM_cons, bind_eq_ok] at h
    obtain ⟨dict, hdict, h⟩ := h
    obtain ⟨rest, hrest, h⟩ := bind_eq_ok.mp h
    cases h
    obtain ⟨hsome, hnone⟩ := ih hrest
    have hid : dict.id = first.id := by
      obtain ⟨config, -, hconfig⟩ := bind_eq_ok.mp hdict
      cases hconfig
      rfl
    rw [List.find?_cons, List.find?_cons, hid]
    split
    · refine ⟨fun route hroute => ?_, fun h => by cases h⟩
      cases hroute
      exact ⟨dict, hdict, rfl⟩
    · exact ⟨hsome, hnone⟩

theorem routeToDict_eq_ok {row : OutputRouteRow F} (h : Readable row.config) (id : Int) :
    ∃ r : RouteSettings F, routeSettings row.config ∅ = .ok r ∧
      routeToDict (row.route id) = .ok { row.route id with config := r.toSettings } := by
  obtain ⟨r, hr⟩ := h.normal
  have hnormal : normalConfig row.config = .ok r.toSettings := by
    rw [normalConfig_eq, hr]
    rfl
  refine ⟨r, hr, ?_⟩
  rw [routeToDict]
  exact congrArg (Except.map fun config => { row.route id with config }) hnormal

theorem listOutputRoutes_eq_ok (h : StoredRoutes s) :
    ∃ dicts, listOutputRoutes s = .ok dicts := by
  have hall : ∀ routes : List (OutputRouteConfig F), (∀ route ∈ routes, ∃ dict,
      routeToDict route = .ok dict) → ∃ dicts, routes.mapM routeToDict = .ok dicts := by
    intro routes hroutes
    induction routes with
    | nil => exact ⟨[], rfl⟩
    | cons route routes ih =>
      obtain ⟨dict, hdict⟩ := hroutes route List.mem_cons_self
      obtain ⟨dicts, hdicts⟩ := ih fun route hroute => hroutes route (List.mem_cons_of_mem _ hroute)
      refine ⟨dict :: dicts, ?_⟩
      rw [List.mapM_cons, hdict, ok_bind, hdicts]
      rfl
  refine hall _ fun route hroute => ?_
  obtain ⟨id, row, hrow, rfl⟩ := mem_listOutputRoutes.mp hroute
  obtain ⟨r, -, hdict⟩ := routeToDict_eq_ok (h.readable id row hrow) id
  exact ⟨_, hdict⟩

/-- `next(...)` finds the route when it is there, with its settings read again. -/
theorem nextOutputRoute_eq_ok (h : StoredRoutes s) {routeId : Int} {row : OutputRouteRow F}
    (hrow : s.outputRoutes.get? routeId = some row) :
    ∃ r : RouteSettings F, routeSettings row.config ∅ = .ok r ∧
      nextOutputRoute routeId s = (.ok { row.route routeId with config := r.toSettings }, s) := by
  obtain ⟨dicts, hdicts⟩ := listOutputRoutes_eq_ok h
  obtain ⟨r, hr, hdict⟩ := routeToDict_eq_ok (h.readable routeId row hrow) routeId
  have hmem : (s.listOutputRoutes.find? fun route => route.id = some routeId) =
      some (row.route routeId) := by
    rw [find?_listOutputRoutes, hrow]
    rfl
  obtain ⟨dict, hdict', hfind⟩ := (find?_mapM_routeToDict hdicts).1 _ hmem
  cases hdict.symm.trans hdict'
  refine ⟨r, hr, ?_⟩
  rw [nextOutputRoute, read_bind, hdicts, lift_ok_bind, hfind]
  rfl

theorem nextOutputRoute_eq_error (h : StoredRoutes s) {routeId : Int}
    (hrow : s.outputRoutes.get? routeId = none) :
    nextOutputRoute routeId s = (.error ⟨.other "StopIteration", ""⟩, s) := by
  obtain ⟨dicts, hdicts⟩ := listOutputRoutes_eq_ok h
  have hmem : (s.listOutputRoutes.find? fun route => route.id = some routeId) = none := by
    rw [find?_listOutputRoutes, hrow]
    rfl
  rw [nextOutputRoute, read_bind, hdicts, lift_ok_bind, (find?_mapM_routeToDict hdicts).2 hmem]
  rfl

-- ---------------------------------------------------------------------------
-- Topic requests
-- ---------------------------------------------------------------------------

/-- The error text that `resolve_output_route_topic` returns. -/
def topicError : Except PyException (String × Int) → Option String
  | .error e => some e.message
  | .ok _ => none

/-- The row that a request writes: the settings of its answer over those of the route. -/
def resolvedRow (row : OutputRouteRow F) (r : RouteSettings F) (now : String)
    (answer : Except PyException (String × Int)) : OutputRouteRow F :=
  { row with config := r.toSettings.update (topicSettings r.macAddress.text now answer) }

theorem readable_resolvedRow (row : OutputRouteRow F) (r : RouteSettings F) (now : String)
    (answer : Except PyException (String × Int)) : Readable (resolvedRow row r now answer).config :=
  (readable_toSettings r).update (setting_topic _ _ answer)

theorem resolveOutputRouteTopic_eq_ok (hrows : StoredRows s) (h : StoredRoutes s)
    (resolver : TopicResolver F) (now : String) {routeId : Int} {row : OutputRouteRow F}
    {r : RouteSettings F} (hrow : s.outputRoutes.get? routeId = some row)
    (hr : routeSettings row.config ∅ = .ok r) (hmac : r.macAddress.text ≠ "") :
    ∃ result t, resolveOutputRouteTopic resolver now routeId s = (.ok result, t) ∧
      SameButRoutes s t ∧
      t.outputRoutes = s.outputRoutes.update routeId (resolvedRow row r now
        (resolveTopic resolver r.macAddress.text (s.getSinkConfig (some "mqtt")).config)) ∧
      result.error = topicError
        (resolveTopic resolver r.macAddress.text (s.getSinkConfig (some "mqtt")).config) ∧
      result.route.id = some routeId := by
  have hnormal : routeConfig (.ofList [("config", .dict (row.route routeId).config.entries)]) =
      .ok r.toSettings := (normalConfig_eq row.config).trans (congrArg _ hr)
  have hsome : (s.outputRoutes.get? routeId).isSome := Option.isSome_iff_exists.mpr ⟨row, hrow⟩
  have hbound := sqlInteger_of_isSome h.routeIds hsome
  rw [resolveOutputRouteTopic, read_bind, routeByRequiredId_eq, hrow, lift_ok_bind, hnormal,
    lift_ok_bind, macAddress_toSettings, raiseUnless, if_pos (decide_eq_true hmac), lift_ok_bind,
    read_bind]
  generalize hanswer : resolveTopic resolver r.macAddress.text _ = answer
  have hconfig := readable_resolvedRow row r now answer
  obtain ⟨t, hsave, hsame, hroutes⟩ := saveOutputRoute_update hrows
    (show ((resolvedRow row r now answer).route routeId).id = some routeId from rfl) hbound hconfig
    fun deviceId => s.routeDevice routeId row deviceId hrow
  have hfound : t.outputRoutes.get? routeId = some (resolvedRow row r now answer) := by
    rw [hroutes, Table.get?_update, if_pos rfl, hrow]
    rfl
  obtain ⟨dict, -, hnext⟩ := nextOutputRoute_eq_ok (h.saveRoute hconfig hsave) hfound
  cases answer with
  | error e =>
    exact ⟨_, t, Fallible.bind_eq_ok.mpr ⟨routeId, t, hsave,
      Fallible.bind_eq_ok.mpr ⟨_, t, hnext, rfl⟩⟩, hsame, hroutes, rfl, rfl⟩
  | ok found =>
    obtain ⟨topic, sensorCount⟩ := found
    exact ⟨_, t, Fallible.bind_eq_ok.mpr ⟨routeId, t, hsave,
      Fallible.bind_eq_ok.mpr ⟨_, t, hnext, rfl⟩⟩, hsame, hroutes, rfl, rfl⟩

end ConfigService

end IndustrialGateway
