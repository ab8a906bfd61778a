import IndustrialGateway.TopicRace
import IndustrialGateway.WebApi

/-!
# Requests that fail

Every endpoint on the configuration but the file imports makes one write, after
all of its checks, and reads the written row back. In a store that the gateway
can reach the row is found, so a request that raises has changed nothing.
-/

namespace IndustrialGateway

open Fallible ConfigStore ConfigService

variable {F : Type} [PyRuntime F] {s t : ConfigStore F}

namespace ConfigService

-- ---------------------------------------------------------------------------
-- Devices and tags
-- ---------------------------------------------------------------------------

theorem atomic_createDevice (payload : Settings F) : AtomicAt s (createDevice payload) := by
  refine .bind (.lift _) fun device hdevice => .andThen (atomic_saveDevice device |>.at s) ?_
  intro id t hsave
  obtain ⟨hid, -⟩ := deviceFromPayload_keys (lift_eq_ok.mp hdevice).1
  obtain ⟨-, row, -, hfresh, rfl⟩ := (saveDevice_insert hid).mp hsave
  obtain ⟨-, rfl⟩ := nextRowId_eq_ok.mp hfresh
  have hget : (s.insertDevice row).devices.get? s.devices.nextId = some row :=
    (Table.get?_insert ..).trans (if_pos rfl)
  exact ⟨_, _, getDevice_of_row hget⟩

theorem atomic_updateDevice (deviceId : Int) (payload : Settings F) :
    AtomicAt s (updateDevice deviceId payload) := by
  refine .bind readOnly_getDevice fun existing hexisting => .bind (.lift _) fun device hdevice => ?_
  refine .andThen (atomic_saveDevice device |>.at s) fun id t hsave => ?_
  obtain ⟨old, hold⟩ := Option.isSome_iff_exists.mp (getDevice_eq_ok hexisting).1
  obtain ⟨hid, -⟩ := deviceFromPayload_keys (lift_eq_ok.mp hdevice).1
  obtain ⟨-, row, -, -, rfl, rfl⟩ := (saveDevice_update hid).mp hsave
  have hrow : (s.updateDevice id row).devices.get? id = some row := by
    refine (Table.get?_update ..).trans ?_
    rw [if_pos rfl, hold, Option.map_some]
  exact ⟨_, _, getDevice_of_row hrow⟩

omit [PyRuntime F] in
theorem getTag_of_row {tagId : Int} {row : TagRow F} (h : s.tags.get? tagId = some row) :
    getTag tagId s = (.ok (row.spec tagId), s) := by
  have hmem : row.spec tagId ∈ allTags s := by
    obtain ⟨device, hdevice⟩ := Option.isSome_iff_exists.mp (s.tagDevice tagId row h)
    refine List.mem_flatMap.mpr ⟨device.spec row.deviceId,
      mem_listDevices.mpr ⟨row.deviceId, device, hdevice, rfl⟩, ?_⟩
    exact mem_listTags.mpr ⟨tagId, row, h, rfl, rfl⟩
  have hfind : (allTags s).find? (fun tag => tag.id = some tagId) = some (row.spec tagId) := by
    cases hfound : (allTags s).find? fun tag => tag.id = some tagId with
    | none => exact absurd (decide_eq_true rfl) (List.find?_eq_none.mp hfound _ hmem)
    | some tag =>
      obtain ⟨device, -, htag⟩ := List.mem_flatMap.mp (List.mem_of_find?_eq_some hfound)
      obtain ⟨i, other, hother, -, rfl⟩ := mem_listTags.mp htag
      have hid := List.find?_some hfound
      obtain rfl : i = tagId := Option.some.inj (of_decide_eq_true hid)
      rw [Option.some.inj (hother.symm.trans h)]
  rw [getTag, read_bind, hfind]
  rfl

omit [PyRuntime F] in
theorem getTag_eq_ok {tagId : Int} {tag : TagSpec F} (h : getTag tagId s = (.ok tag, t)) :
    ∃ row, s.tags.get? tagId = some row := by
  rw [getTag, read_bind] at h
  cases hfound : (allTags s).find? fun tag => tag.id = some tagId with
  | none =>
    rw [hfound] at h
    cases h
  | some found =>
    obtain ⟨device, -, htag⟩ := List.mem_flatMap.mp (List.mem_of_find?_eq_some hfound)
    obtain ⟨i, row, hrow, -, rfl⟩ := mem_listTags.mp htag
    have hid := List.find?_some hfound
    obtain rfl : i = tagId := Option.some.inj (of_decide_eq_true hid)
    exact ⟨row, hrow⟩

theorem atomic_saveTagDraft (draft : TagDraft F) : Atomic (saveTagDraft draft) :=
  .bind (readOnly_driverTypeForDevice _) fun _ => .bind (.lift _) fun tag => atomic_saveTag tag

/-- A saved tag is found again, unless its id was none of the store's. -/
theorem saveTagDraft_row {draft : TagDraft F} {id : Int} (h : saveTagDraft draft s = (.ok id, t)) :
    (∀ i, draft.tag.id = some i → i = id) ∧
      ((∀ i, draft.tag.id = some i → (s.tags.get? i).isSome) → ∃ row, t.tags.get? id = some row) := by
  obtain ⟨driverType, u, hdriver, hrest⟩ := Fallible.bind_eq_ok.mp h
  have hu : u = s := (readOnly_driverTypeForDevice _).state_eq hdriver
  subst hu
  obtain ⟨tag, v, hlift, hsave⟩ := Fallible.bind_eq_ok.mp hrest
  obtain ⟨hspec, rfl⟩ := lift_eq_ok.mp hlift
  obtain ⟨i, -, hwrite⟩ := saveTag_eq_ok.mp hsave
  have hid : tag.id = draft.tag.id := by
    obtain ⟨function, dataType, nodeId, rfl, -⟩ := TagDraft.spec_ok hspec
    rfl
  obtain ⟨-, row, -, ⟨hnone, hfresh, htags⟩ | ⟨hsome, htags⟩⟩ := writeTag_rows hwrite
  · obtain ⟨-, rfl⟩ := nextRowId_eq_ok.mp hfresh
    refine ⟨fun i hi => ?_, fun _ => ⟨row, by rw [htags, Table.get?_insert, if_pos rfl]⟩⟩
    rw [← hid, hnone] at hi
    cases hi
  · rw [hid] at hsome
    refine ⟨fun i hi => Option.some.inj (hi.symm.trans hsome), fun hstored => ?_⟩
    obtain ⟨old, hold⟩ := Option.isSome_iff_exists.mp (hstored id hsome)
    exact ⟨row, by rw [htags, Table.get?_update, if_pos rfl, hold, Option.map_some]⟩

theorem tagFromPayload_id {id : Option Int} {deviceId : Int} {payload : Settings F}
    {draft : TagDraft F} (h : tagFromPayload id deviceId payload = .ok draft) : draft.tag.id = id := by
  simp only [tagFromPayload, bind_eq_ok, pure, Except.pure, Except.ok.injEq] at h
  obtain ⟨_, -, _, -, _, -, _, -, _, -, _, -, _, -, _, -, rfl⟩ := h
  rfl

theorem atomic_createTag (deviceId : Int) (payload : Settings F) :
    AtomicAt s (createTag deviceId payload) := by
  refine .bind readOnly_getDevice fun _ _ => .bind (.lift _) fun draft hdraft => ?_
  refine .andThen (atomic_saveTagDraft draft |>.at s) fun id t hsave => ?_
  have hid := tagFromPayload_id (lift_eq_ok.mp hdraft).1
  obtain ⟨row, hrow⟩ := (saveTagDraft_row hsave).2 fun i hi =>
    absurd (hid.symm.trans hi) (Option.some_ne_none i).symm
  exact ⟨_, _, getTag_of_row hrow⟩

theorem atomic_updateTag (tagId : Int) (payload : Settings F) :
    AtomicAt s (updateTag tagId payload) := by
  refine .bind readOnly_getTag fun existing hexisting => .bind (.lift _) fun deviceId _ => ?_
  refine .bind (.lift _) fun draft hdraft => ?_
  refine .andThen (atomic_saveTagDraft draft |>.at s) fun id t hsave => ?_
  have hid := tagFromPayload_id (lift_eq_ok.mp hdraft).1
  obtain ⟨hsame, hfound⟩ := saveTagDraft_row hsave
  obtain rfl := hsame tagId hid
  obtain ⟨row, hrow⟩ := hfound fun i hi => by
    obtain rfl := Option.some.inj (hid.symm.trans hi)
    exact Option.isSome_iff_exists.mpr (getTag_eq_ok hexisting)
  exact ⟨_, _, getTag_of_row hrow⟩

-- ---------------------------------------------------------------------------
-- Routes
-- ---------------------------------------------------------------------------

/-- A route that was written is found again. With the id of no route nothing was
written, and the search fails. -/
theorem atomic_savedRoute (h : StoredRoutes s) {route : OutputRouteConfig F}
    (hread : Readable route.config) :
    AtomicAt s (ConfigStore.saveOutputRoute route >>= nextOutputRoute) := by
  intro e t hfail
  rcases bind_eq_error.mp hfail with hsave | ⟨id, u, hsave, hnext⟩
  · exact ConfigStore.atomic_saveOutputRoute route s e t hsave
  · obtain rfl : t = u := (readOnly_nextOutputRoute id).state_eq hnext
    have hstored := h.saveRoute hread hsave
    have found : ∀ row, t.outputRoutes.get? id = some row → t = s := fun row hrow => by
      obtain ⟨r, -, hok⟩ := nextOutputRoute_eq_ok hstored hrow
      cases hok.symm.trans hnext
    obtain ⟨row, -, ⟨-, hfresh, hput⟩ | ⟨-, -, hput⟩⟩ := saveOutputRoute_rows.mp hsave
    · obtain ⟨-, -, hroutes⟩ := insertRoute_eq_ok.mp hput
      obtain ⟨-, rfl⟩ := nextRowId_eq_ok.mp hfresh
      exact found row (by rw [hroutes, Table.get?_insert, if_pos rfl])
    · obtain ⟨-, hsame, hroutes⟩ := updateRoute_eq_ok.mp hput
      cases hold : s.outputRoutes.get? id with
      | none =>
        rw [Table.update_of_get?_eq_none hold] at hroutes
        exact hsame.ext ⟨rfl, rfl, rfl, rfl, rfl⟩ hroutes
      | some old =>
        exact found row (by rw [hroutes, Table.get?_update, if_pos rfl, hold, Option.map_some])

theorem atomic_saveOutputRoute (h : StoredRoutes s) (payload : Settings F) :
    AtomicAt s (saveOutputRoute payload) := by
  refine .bind (.lift _) fun config hconfig => .bind (readOnly_routeDeviceId _) fun deviceId _ =>
    .bind (.lift _) fun routeId _ => atomic_savedRoute h ?_
  have hread := readable_routeConfig (lift_eq_ok.mp hconfig).1
  simp only
  split
  · exact readable_systemHeartbeatConfig hread
  · exact hread

/-- Every check of a topic request is before its one write. -/
theorem atomic_resolveOutputRouteTopic (hrows : StoredRows s) (h : StoredRoutes s)
    (resolver : TopicResolver F) (now : String) (routeId : Int) :
    AtomicAt s (resolveOutputRouteTopic resolver now routeId) := by
  intro e t hfail
  have hwhole := hfail
  rw [resolveOutputRouteTopic, read_bind, routeByRequiredId_eq] at hfail
  cases hrow : s.outputRoutes.get? routeId with
  | none =>
    rw [hrow] at hfail
    cases hfail
    rfl
  | some row =>
    obtain ⟨r, hr⟩ := (h.readable routeId row hrow).normal
    by_cases hmac : r.macAddress.text = ""
    · have hnormal : routeConfig (.ofList [("config", .dict (row.route routeId).config.entries)]) =
          .ok r.toSettings := (normalConfig_eq row.config).trans (congrArg _ hr)
      rw [hrow, lift_ok_bind, hnormal, lift_ok_bind, macAddress_toSettings, hmac] at hfail
      cases hfail
      rfl
    · obtain ⟨result, u, hok, -⟩ := resolveOutputRouteTopic_eq_ok hrows h resolver now hrow hr hmac
      cases hok.symm.trans hwhole

end ConfigService

namespace WebApi

-- ---------------------------------------------------------------------------
-- Endpoints
-- ---------------------------------------------------------------------------

/-- The imports write row after row. -/
def ConfigRequest.imports : ConfigRequest F → Bool
  | .importDevicesCsv _ | .importTagsCsv .. | .importPluginsCsv _ | .importPluginRoutesCsv _ => true
  | _ => false

def ConfigRequest.reads : ConfigRequest F → Bool
  | .listDevices | .exportDevicesCsv | .listTags _ | .listAllTags | .exportTagsCsv _ | .listPlugins
  | .exportPluginsCsv | .getPlugin _ | .listPluginRoutes | .exportPluginRoutesCsv => true
  | _ => false

theorem readOnly_configContent (app : App F) {request : ConfigRequest F} (h : request.reads = true) :
    ReadOnly (configContent app request) := by
  cases request with
  | listDevices => exact .read _
  | exportDevicesCsv => exact .read _
  | listTags deviceId => exact .bind readOnly_getDevice fun _ => .read _
  | listAllTags => exact .read _
  | exportTagsCsv deviceId =>
    exact .bind (.bind readOnly_getDevice fun _ => .read _) fun _ => .pure _
  | listPlugins => exact .read _
  | exportPluginsCsv => exact .bind (.read _) fun _ => .bind (.lift _) fun _ => .pure _
  | getPlugin sinkType => exact .read _
  | listPluginRoutes => exact .bind (.read _) fun _ => .bind (.lift _) fun _ => .read _
  | exportPluginRoutesCsv => exact .bind (.read _) fun _ => .bind (.lift _) fun _ => .pure _
  | _ => cases h

/-- A request that raises changes nothing, unless it imports a file. -/
theorem atomic_configContent (hrows : StoredRows s) (h : StoredRoutes s) (app : App F)
    {request : ConfigRequest F} (himports : request.imports = false) :
    AtomicAt s (configContent app request) := by
  cases request with
  | createDevice payload => exact (atomic_createDevice payload).andThen fun _ _ _ => ⟨_, _, rfl⟩
  | updateDevice deviceId payload =>
    exact (atomic_updateDevice deviceId payload).andThen fun _ _ _ => ⟨_, _, rfl⟩
  | deleteDevice deviceId =>
    exact (Atomic.at (.bind readOnly_getDevice fun _ => .commit _) s).andThen fun _ _ _ => ⟨_, _, rfl⟩
  | createTag deviceId payload =>
    exact (atomic_createTag deviceId payload).andThen fun _ _ _ => ⟨_, _, rfl⟩
  | updateTag tagId payload =>
    exact (atomic_updateTag tagId payload).andThen fun _ _ _ => ⟨_, _, rfl⟩
  | deleteTag tagId =>
    exact (Atomic.at (.bind readOnly_getTag fun _ => .commit _) s).andThen fun _ _ _ => ⟨_, _, rfl⟩
  | savePlugin sinkType payload =>
    refine AtomicAt.andThen ?_ fun _ _ _ => ⟨_, _, rfl⟩
    refine .bind (.lift _) fun _ _ => .bind (.lift _) fun _ _ => ?_
    exact ((ConfigStore.atomic_saveSinkConfig _).at s).andThen fun _ _ _ => ⟨_, _, rfl⟩
  | savePluginRoute payload => exact (atomic_saveOutputRoute h _).andThen fun _ _ _ => ⟨_, _, rfl⟩
  | updatePluginRoute routeId payload =>
    exact (atomic_saveOutputRoute h _).andThen fun _ _ _ => ⟨_, _, rfl⟩
  | resolvePluginRouteTopic resolver now routeId =>
    exact (atomic_resolveOutputRouteTopic hrows h resolver now routeId).andThen
      fun _ _ _ => ⟨_, _, rfl⟩
  | deletePluginRoute routeId =>
    exact (Atomic.at (.bind (.lift _) fun _ => .commit _) s).andThen fun _ _ _ => ⟨_, _, rfl⟩
  | importDevicesCsv body => cases himports
  | importTagsCsv deviceId body => cases himports
  | importPluginsCsv body => cases himports
  | importPluginRoutesCsv body => cases himports
  | _ => exact (readOnly_configContent app rfl).atomic.at s

end WebApi

end IndustrialGateway
