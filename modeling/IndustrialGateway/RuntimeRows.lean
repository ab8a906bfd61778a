import IndustrialGateway.RuntimeEvents
import IndustrialGateway.StoredRows
import IndustrialGateway.TagEvents
import IndustrialGateway.TagValidity

/-!
# The rows of the runtime view

`_initial_runtime_tags` makes a row for each enabled tag and `_record_status` writes the
tag updates into it. A row stands under the name of the device and the node id or name of
the tag, and the updates of a Modbus tag under its name in any case. The tag group is in
neither key.
-/

namespace IndustrialGateway

open ConfigStore LatestStatusQueue OrderedDict RuntimeManager SinkPublisher

variable {F : Type}

-- ---------------------------------------------------------------------------
-- Keys
-- ---------------------------------------------------------------------------

namespace RuntimeTag

/-- The key of the initial row. -/
def rowKey (x : RuntimeTag F) : String × String := (x.device.name, textOr x.tag.nodeId x.tag.name)

/-- The key of the tag's updates. -/
def eventKey (x : RuntimeTag F) : String × String :=
  (x.device.name,
    if x.device.driverType ∈ modbusDrivers then x.tag.name else textOr x.tag.nodeId x.tag.name)

def keys (x : RuntimeTag F) : List (String × String) := [x.rowKey, x.eventKey]

def initialRow (x : RuntimeTag F) : Settings F := .ofList [
  ("type", .str "tag_update"), ("device", .str x.device.name), ("tag_group", .str x.tag.tagGroup),
  ("tag", .str x.tag.name), ("node_id", .str (x.tag.nodeId.getD "")),
  ("mode", .str (runtimeMode x.device)), ("timestamp", .str ""), ("quality", .str "unknown"),
  ("error", .none)]

end RuntimeTag

open RuntimeTag

/-- No two tags have a key in common. -/
def RowsApart (s : ConfigStore F) : Prop :=
  ∀ x ∈ enabledTags s, ∀ y ∈ enabledTags s, y ≠ x → x.keys.Disjoint y.keys

variable [PyRuntime F] {s : ConfigStore F} {x y : RuntimeTag F} {m : RuntimeManager F}
  {e : StatusEvent}

/-- The publisher emits the tag update in some run on results of the store's devices. -/
def Published (s : ConfigStore F) (e : StatusEvent) : Prop :=
  ∃ cfg routes calls, (∀ c ∈ calls, Call.Fed s c) ∧ e ∈ publishedUpdates cfg routes calls

/-- The view begins with one row for each tag, and each recorded tag update is one on a
tag and leaves the rows of all others as they are. -/
structure OneRowPerTag (s : ConfigStore F) : Prop where
  rows : (initialRuntimeTags s).entries = (enabledTags s).map fun x => (x.rowKey, x.initialRow)
  apart : ∀ (m : RuntimeManager F) (events : List StatusEvent) (e : StatusEvent),
    m.runtimeTags = initialRuntimeTags s → (∀ e' ∈ events ++ [e], Published s e') →
      ∃ x ∈ enabledTags s, EmittedFor x e ∧ ∀ y ∈ enabledTags s, y ≠ x → ∀ key ∈ y.keys,
        ((events.foldl recorded m).recorded e).runtimeTags.get? key =
          (events.foldl recorded m).runtimeTags.get? key

omit [PyRuntime F] in
theorem initialRuntimeTags_eq (s : ConfigStore F) : initialRuntimeTags s =
    .ofList ((enabledTags s).map fun x => (x.rowKey, x.initialRow)) := by
  rw [initialRuntimeTags, enabledTags, List.map_flatMap]
  simp only [List.map_map]
  rfl

omit [PyRuntime F] in
theorem key_of_emitted (h : EmittedFor x e) :
    key 0 e = .tagUpdate x.eventKey.1 x.eventKey.2 := by
  have hresult : ∀ {r : TagResult F}, DriverResult x r →
      tagOf (r.nodeId.getD "") r.name = x.eventKey.2 := by
    intro r hr
    have hother : ∀ driver, x.device.driverType = driver → driver ∉ modbusDrivers →
        x.eventKey.2 = textOr x.tag.nodeId x.tag.name := by
      rintro driver rfl hdriver
      exact if_neg hdriver
    have hnode : tagOf (x.tag.nodeId.getD "") x.tag.name = textOr x.tag.nodeId x.tag.name := by
      cases x.tag.nodeId <;> rfl
    cases hr with
    | modbus hdriver timestamp outcome =>
      rw [eventKey, if_pos hdriver]
      cases outcome <;> rfl
    | opcua hdriver timestamp outcome =>
      rw [hother _ hdriver (by decide), ← hnode]
      cases outcome <;> rfl
    | mqtt hdriver timestamp outcome =>
      have hfield : tagOf (textOr x.tag.nodeId x.tag.name) x.tag.name =
          textOr x.tag.nodeId x.tag.name := by
        rw [← hnode, tagOf, tagOf]
        split <;> rename_i hempty
        · split <;> simp_all
        · rfl
      rw [hother _ hdriver (by decide), ← hfield]
      cases outcome <;> rfl
    | mqttBad hdriver timestamp error =>
      rw [hother _ hdriver (by decide), ← hnode]
      rfl
  cases h with
  | read hr => exact congrArg (StatusKey.tagUpdate x.device.name) (hresult hr)
  | restated hr status error timestamp =>
    exact congrArg (StatusKey.tagUpdate x.device.name) (hresult hr)

-- ---------------------------------------------------------------------------
-- The tags
-- ---------------------------------------------------------------------------

omit [PyRuntime F] in
theorem nodup_listDevices (s : ConfigStore F) : s.listDevices.Nodup := by
  have hids : (s.listDevices.map DeviceSpec.id).Nodup := by
    have hperm : s.listDevices.Perm (s.devices.rows.entries.map fun e => e.2.spec e.1) :=
      perm_orderBy _ _
    have hnodup := s.devices.rows.nodup.map (Option.some_injective Int)
    rw [List.map_map] at hnodup
    rw [(hperm.map _).nodup_iff, List.map_map]
    exact hnodup
  exact hids.of_map

omit [PyRuntime F] in
theorem nodup_listTags (s : ConfigStore F) (deviceId : Int) : (s.listTags deviceId).Nodup := by
  have hids : ((s.listTags deviceId).map TagSpec.id).Nodup := by
    let rows := s.tags.rows.entries.filter fun e => e.2.deviceId = deviceId
    have hperm : (s.listTags deviceId).Perm (rows.map fun e => e.2.spec e.1) := perm_orderBy _ _
    have hsub : (rows.map Prod.fst).Sublist (s.tags.rows.entries.map Prod.fst) :=
      List.filter_sublist.map Prod.fst
    have hnodup := (s.tags.rows.nodup.sublist hsub).map (Option.some_injective Int)
    rw [List.map_map] at hnodup
    rw [(hperm.map _).nodup_iff, List.map_map]
    exact hnodup
  exact hids.of_map

omit [PyRuntime F] in
theorem nodup_enabledTags (s : ConfigStore F) : (enabledTags s).Nodup := by
  rw [enabledTags, List.nodup_flatMap]
  refine ⟨fun device _ => ?_, ?_⟩
  · refine ((nodup_listTags s _).filter _).map fun tag tag' h => ?_
    exact (RuntimeTag.mk.inj h).2
  · refine ((nodup_listDevices s).filter _).imp fun hne x hx hx' => hne ?_
    obtain ⟨tag, -, rfl⟩ := List.mem_map.mp hx
    obtain ⟨tag', -, h⟩ := List.mem_map.mp hx'
    exact (RuntimeTag.mk.inj h).1.symm

omit [PyRuntime F] in
theorem RowsApart.rows (h : RowsApart s) : (initialRuntimeTags s).entries =
    (enabledTags s).map fun x => (x.rowKey, x.initialRow) := by
  rw [initialRuntimeTags_eq]
  refine entries_ofList ?_
  rw [List.map_map]
  refine (nodup_enabledTags s).map_on fun x hx y hy hkey => ?_
  by_contra hne
  have hmem : x.rowKey ∈ y.keys := List.mem_cons.mpr (.inl hkey)
  exact h x hx y hy (Ne.symm hne) List.mem_cons_self hmem

-- ---------------------------------------------------------------------------
-- Updates of Modbus tags
-- ---------------------------------------------------------------------------

omit [PyRuntime F] in
/-- A row of the initial view has seen no update. -/
theorem quality_initialRuntimeTags {key : String × String} {row : Settings F}
    (h : (initialRuntimeTags s).get? key = some row) :
    row.get? "quality" = some (.str "unknown") := by
  rw [initialRuntimeTags_eq, ofList, get?_update, get?_empty, Option.or_none] at h
  have hmem := mem_of_lookup h
  rw [List.mem_reverse] at hmem
  obtain ⟨x, -, hrow⟩ := List.mem_map.mp hmem
  obtain ⟨-, rfl⟩ := Prod.mk.inj hrow
  rfl

/-- The result of a Modbus tag that could not be read. -/
def unread (x : RuntimeTag F) : TagResult F := Modbus.bad x.tag 0 ""

def unreadUpdate (x : RuntimeTag F) : StatusEvent :=
  tagUpdate x.device (unread x) 0 "bad" (some "")

omit [PyRuntime F] in
theorem emittedFor_unread (hdriver : x.device.driverType ∈ modbusDrivers) :
    EmittedFor x (unreadUpdate x) :=
  .read (.modbus hdriver 0 (.error ⟨.valueError, ""⟩))

theorem published_unread (hx : x ∈ enabledTags s) (hdriver : x.device.driverType ∈ modbusDrivers) :
    Published s (unreadUpdate x) := by
  refine ⟨⟨{}, "mqtt", PyRuntime.lit 15, PyRuntime.lit 60⟩, [],
    [.publishOnce ⟨x.device, 0, [unread x], none⟩ 0 fun _ => none], ?_, ?_⟩
  · intro c hc
    obtain rfl := List.mem_singleton.mp hc
    refine ⟨(mem_enabledTags.mp hx).1, fun r hr => ?_⟩
    obtain rfl := List.mem_singleton.mp hr
    exact ⟨x.tag, hx, .modbus hdriver 0 (.error ⟨.valueError, ""⟩)⟩
  · refine List.mem_filterMap.mpr ⟨.status (unreadUpdate x), ?_, rfl⟩
    simp only [Act.events_forEach_cons, Act.forEach_nil, Act.events_skip, List.append_nil, call,
      publishResult, textTruthy_none, Bool.false_eq_true, if_false, cacheResult, Act.events_seq,
      Act.events_modify, List.nil_append, Act.events_emitAll, List.flatMap_cons, List.flatMap_nil]
    refine List.mem_append_left _ (List.mem_append_right _ ?_)
    exact List.mem_singleton.mpr rfl

omit [PyRuntime F] in
theorem recorded_unread (hdriver : x.device.driverType ∈ modbusDrivers)
    (hm : m.runtimeTags = initialRuntimeTags s) :
    (m.recorded (unreadUpdate x)).runtimeTags.get? x.eventKey ≠ m.runtimeTags.get? x.eventKey := by
  intro hsame
  have hnew := runtimeTags_recorded m (unreadUpdate x) x.eventKey.1 x.eventKey.2
  rw [if_pos (key_of_emitted (emittedFor_unread hdriver))] at hnew
  have hrow := hnew.symm.trans hsame
  rw [hm] at hrow
  have hquality := quality_initialRuntimeTags hrow.symm
  rw [get?_update_of_nodup _ (WebRuntime.nodup_entries _)] at hquality
  have htexts : "bad" = "unknown" := PyValue.str.inj (Option.some.inj hquality)
  exact absurd htexts (by decide)

/-- An update is written under the key of one tag only. -/
theorem OneRowPerTag.eventKey (h : OneRowPerTag s) (hx : x ∈ enabledTags s)
    (hdriver : x.device.driverType ∈ modbusDrivers) (hy : y ∈ enabledTags s)
    (hkey : x.eventKey ∈ y.keys) : y = x := by
  let m : RuntimeManager F := {
    store := s
    driverRegistry := defaultDriverRegistry
    sinkRegistry := defaultSinkRegistry
    runtimeTags := initialRuntimeTags s }
  have hpublished : ∀ e ∈ [] ++ [unreadUpdate x], Published s e := by
    intro e he
    obtain rfl := List.mem_singleton.mp he
    exact published_unread hx hdriver
  obtain ⟨z, -, -, hother⟩ := h.apart m [] (unreadUpdate x) rfl hpublished
  have honly : ∀ y ∈ enabledTags s, x.eventKey ∈ y.keys → y = z := by
    intro y hy hkey
    by_contra hne
    exact recorded_unread hdriver rfl (hother y hy hne x.eventKey hkey)
  have hself : x.eventKey ∈ x.keys := List.mem_cons_of_mem _ List.mem_cons_self
  rw [honly y hy hkey, honly x hx hself]

omit [PyRuntime F] in
theorem eventKey_of_not_modbus (h : x.device.driverType ∉ modbusDrivers) :
    x.eventKey = x.rowKey := by
  rw [RuntimeTag.eventKey, if_neg h, rowKey]

-- ---------------------------------------------------------------------------
-- One row for each tag
-- ---------------------------------------------------------------------------

omit [PyRuntime F] in
theorem keys_eq_or {key : String × String} (h : key ∈ x.keys) :
    key = x.rowKey ∨ key = x.eventKey ∧ x.device.driverType ∈ modbusDrivers := by
  by_cases hdriver : x.device.driverType ∈ modbusDrivers
  · simpa [RuntimeTag.keys, hdriver] using h
  · simpa [RuntimeTag.keys, hdriver, eventKey_of_not_modbus hdriver] using h

theorem OneRowPerTag.rowsApart (h : OneRowPerTag s) : RowsApart s := by
  have hinjective : ∀ x ∈ enabledTags s, ∀ y ∈ enabledTags s, x.rowKey = y.rowKey → x = y := by
    have hnodup := (initialRuntimeTags s).nodup
    rw [h.rows, List.map_map] at hnodup
    exact fun x hx y hy => List.inj_on_of_nodup_map hnodup hx hy
  intro x hx y hy hne key hkey hkey'
  rcases keys_eq_or hkey with hrow | ⟨hevent, hdriver⟩
  · rcases keys_eq_or hkey' with hrow' | ⟨hevent', hdriver'⟩
    · exact hne (hinjective y hy x hx (hrow'.symm.trans hrow))
    · exact hne (h.eventKey hy hdriver' hx (hevent' ▸ hkey)).symm
  · exact hne (h.eventKey hx hdriver hy (hevent ▸ hkey'))

/-- The view has one row for each tag exactly when no two enabled tags have a key in
common. -/
theorem oneRowPerTag_iff (s : ConfigStore F) : OneRowPerTag s ↔ RowsApart s := by
  refine ⟨OneRowPerTag.rowsApart, fun h => ⟨h.rows, fun m events e _ hpublished => ?_⟩⟩
  obtain ⟨cfg, routes, calls, hcalls, hmem⟩ :=
    hpublished e (List.mem_append_right _ (List.mem_singleton_self e))
  obtain ⟨x, hx, he⟩ := emittedFor_of_published cfg routes hcalls e hmem
  refine ⟨x, hx, he, fun y hy hne key hkey => ?_⟩
  have hself : x.eventKey ∈ x.keys := List.mem_cons_of_mem _ List.mem_cons_self
  have hother : key ≠ x.eventKey := by
    rintro rfl
    exact h x hx y hy hne hself hkey
  rw [runtimeTags_recorded, if_neg]
  rw [key_of_emitted he, StatusKey.tagUpdate.injEq]
  exact fun hsame => hother (Prod.ext hsame.1.symm hsame.2.symm)

def levelPayload (tagGroup : String) : Settings WholeFloat :=
  .ofList [("name", .str "level"), ("function", .str "holding_register"),
    ("data_type", .str "uint16"), ("tag_group", .str tagGroup)]

/-- A device with a tag of one name in two groups. -/
def twoGroups : ConfigStore WholeFloat :=
  (Operation.createTag 1 (levelPayload "inlet")).run
    ((Operation.createTag 1 (levelPayload "outlet")).run
      ((Operation.createDevice (plcPayload "modbus_tcp")).run initialized))

theorem twoGroups_share_row :
    ¬ ∀ s : ConfigStore WholeFloat, Reachable (fun _ _ => True) s → OneRowPerTag s := by
  intro h
  have hreachable : Reachable (fun _ _ => True) twoGroups :=
    .run _ (.run _ (.run _ .initialized trivial) trivial) trivial
  have hrows := congrArg List.length (h twoGroups hreachable).rows
  have htags : (enabledTags twoGroups).length = 2 := by decide +kernel
  have hrow : (initialRuntimeTags twoGroups).entries.length = 1 := by decide +kernel
  rw [List.length_map, htags, hrow] at hrows
  cases hrows

-- ---------------------------------------------------------------------------
-- What the store sees to
-- ---------------------------------------------------------------------------

/-- Names are unique in a tag group only: rows are apart where enabled devices have names
of their own, each has its tags in one group, and none of them has a node id. -/
theorem rowsApart_of_reachable {allowed : Operation F → ConfigStore F → Prop}
    (h : Reachable allowed s)
    (hnames : ∀ x ∈ enabledTags s, ∀ y ∈ enabledTags s, x.device.name = y.device.name →
      x.device = y.device)
    (hgroups : ∀ x ∈ enabledTags s, ∀ y ∈ enabledTags s, x.device = y.device →
      x.tag.tagGroup = y.tag.tagGroup)
    (hnodes : ∀ x ∈ enabledTags s, x.tag.nodeId = none) : RowsApart s := by
  have hkeys : ∀ x ∈ enabledTags s, ∀ key ∈ x.keys, key = (x.device.name, x.tag.name) := by
    intro x hx key hkey
    rcases keys_eq_or hkey with rfl | ⟨rfl, hdriver⟩
    · rw [rowKey, hnodes x hx]
      rfl
    · rw [RuntimeTag.eventKey, if_pos hdriver]
  intro x hx y hy hne key hkey hkey'
  obtain ⟨hdevice, hname⟩ := Prod.mk.inj ((hkeys x hx key hkey).symm.trans (hkeys y hy key hkey'))
  have hsame := hnames x hx y hy hdevice
  obtain ⟨i, a, ha, hai, hax⟩ := mem_listTags.mp (mem_enabledTags.mp hx).2.2.1
  obtain ⟨j, b, hb, hbj, hby⟩ := mem_listTags.mp (mem_enabledTags.mp hy).2.2.1
  have hgroup := hgroups x hx y hy hsame
  rw [hax, hby] at hgroup hname
  have hij := (storedRows_of_reachable h).unique i j a b ha hb (by rw [hai, hbj, hsame]) hgroup
    hname
  obtain ⟨device, tag⟩ := x
  obtain ⟨device', tag'⟩ := y
  obtain rfl := hij
  obtain rfl := Option.some.inj (ha.symm.trans hb)
  exact hne (by rw [RuntimeTag.mk.injEq]; exact ⟨hsame.symm, hby.trans hax.symm⟩)

end IndustrialGateway
