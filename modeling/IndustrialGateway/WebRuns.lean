import IndustrialGateway.WebEdits
import IndustrialGateway.WebSessions

/-!
# Runs of requests

Whatever the requests, the store goes through the operations of the service alone,
those that a start of the runtime makes included. So a request meets a store that
the service can reach, and the ids of deleted rows are never given out again.
-/

namespace IndustrialGateway

open Fallible ConfigService

variable {F : Type} [PyRuntime F]

namespace RuntimeManager

-- ---------------------------------------------------------------------------
-- The store of a manager
-- ---------------------------------------------------------------------------

/-- The store is as it was, or it took an operation. -/
def Operated (m t : RuntimeManager F) : Prop :=
  t.store = m.store ∨ ∃ op : Operation F, t.store = op.run m.store

theorem launch_operated {role : WorkerRole} {raised : Option PyException}
    {assign : Worker → RuntimeManager F → RuntimeManager F}
    (h : ∀ worker m, (assign worker m).store = m.store) :
    Steps Operated (launch role raised assign) := by
  refine (ReadOnly.read _).steps.bind fun worker _ _ _ => ?_
  refine Steps.bind (.modify fun m => .inl (h worker _)) fun _ _ _ _ => ?_
  refine (ReadOnly.raiseIf _).steps.bind fun _ _ _ _ => ?_
  exact Steps.bind (.modify fun _ => .inl rfl) fun _ _ _ _ => (ReadOnly.pure _).steps

theorem newOutputRoutes_operated : Steps Operated (newOutputRoutes : ManagerAct F _) := by
  refine (ReadOnly.read _).steps.bind fun _ _ _ _ => ?_
  refine (ReadOnly.lift _).steps.bind fun routes _ _ _ => ?_
  exact Steps.bind (.modify fun _ => .inl rfl) fun _ _ _ _ => (ReadOnly.pure _).steps

/-- The topic requests are the one operation that a manager makes on its own. -/
theorem refreshDynamicRouteTopics_operated (resolver : TopicResolver F) (now : Int → String) :
    Steps Operated (refreshDynamicRouteTopics resolver now) := by
  refine Steps.bind (fun m => .single ?_) fun _ _ _ _ => ?_
  · exact .inr ⟨.refreshDynamicOutputRouteTopics resolver now, rfl⟩
  refine (ReadOnly.read _).steps.bind fun hasPublisher _ _ _ => ?_
  split
  · exact newOutputRoutes_operated.bind fun _ _ _ _ => .modify fun _ => .inl rfl
  · exact (ReadOnly.pure _).steps

theorem startPublisher_operated (env : StartEnv F) : Steps Operated (startPublisher env) := by
  refine (ReadOnly.read _).steps.bind fun sinkConfig _ _ _ => ?_
  refine Steps.bind ?_ fun _ _ _ _ => ?_
  · unfold requestTopicsOnStart
    split
    · exact refreshDynamicRouteTopics_operated _ _
    · exact (ReadOnly.pure _).steps
  refine (ReadOnly.read _).steps.bind fun _ _ _ _ => ?_
  refine (ReadOnly.lift _).steps.bind fun _ _ _ _ => ?_
  refine (ReadOnly.raiseIf _).steps.bind fun _ _ _ _ => ?_
  refine (ReadOnly.lift _).steps.bind fun _ _ _ _ => ?_
  refine newOutputRoutes_operated.bind fun _ _ _ _ => ?_
  refine (ReadOnly.lift _).steps.bind fun _ _ _ _ => ?_
  refine (ReadOnly.lift _).steps.bind fun _ _ _ _ => ?_
  refine (ReadOnly.raiseIf _).steps.bind fun _ _ _ _ => ?_
  exact Steps.bind (launch_operated fun _ _ => rfl) fun _ _ _ _ => (ReadOnly.pure _).steps

theorem startTopicRefreshThread_operated (env : StartEnv F) (config : Settings F) :
    Steps Operated (startTopicRefreshThread env config) := by
  refine (ReadOnly.lift _).steps.bind fun _ _ _ _ => ?_
  split
  · exact (ReadOnly.pure _).steps
  · refine Steps.bind (.modify fun _ => .inl rfl) fun _ _ _ _ => ?_
    exact Steps.bind (launch_operated fun _ _ => rfl) fun _ _ _ _ => (ReadOnly.pure _).steps

theorem startTopicResponder_operated (env : StartEnv F) :
    Steps Operated (startTopicResponder env) := by
  refine Steps.bind (.modify fun _ => .inl rfl) fun _ _ _ _ => ?_
  split
  · exact (ReadOnly.pure _).steps
  · refine (ReadOnly.raiseIf _).steps.bind fun _ _ _ _ => ?_
    exact Steps.bind (launch_operated fun _ _ => rfl) fun _ _ _ _ => (ReadOnly.pure _).steps

theorem startDevice_operated (env : StartEnv F) (device : DeviceSpec F) :
    Steps Operated (startDevice env device) := by
  unfold startDevice
  split
  · exact (ReadOnly.pure _).steps
  · refine (ReadOnly.read _).steps.bind fun _ _ _ _ => ?_
    refine (ReadOnly.lift _).steps.bind fun driverClass _ _ _ => ?_
    refine (ReadOnly.read _).steps.bind fun tags _ _ _ => ?_
    refine (ReadOnly.raiseIf _).steps.bind fun _ _ _ _ => ?_
    split <;> exact Steps.bind (launch_operated fun _ _ => rfl) fun _ _ _ _ => .modify fun _ => .inl rfl

theorem start_operated (env : StartEnv F) (healthIntervalS : Option Int)
    (runtimeLogEnabled : Option Bool) :
    Steps Operated (start env healthIntervalS runtimeLogEnabled) := by
  refine (ReadOnly.read _).steps.bind fun running _ _ _ => ?_
  split
  · exact (ReadOnly.read _).steps
  · refine Steps.bind (.modify fun _ => .inl rfl) fun _ _ _ _ => ?_
    refine (startPublisher_operated env).bind fun sinkConfig _ _ _ => ?_
    refine Steps.bind ?_ fun _ _ _ _ => ?_
    · refine (startTopicRefreshThread_operated env _).bind fun _ _ _ _ => ?_
      refine (startTopicResponder_operated env).bind fun _ _ _ _ => ?_
      refine Steps.bind (.modify fun _ => .inl rfl) fun _ _ _ _ => ?_
      refine (ReadOnly.read _).steps.bind fun devices _ _ _ => ?_
      exact Steps.forM (startDevice_operated env) devices
    · exact Steps.bind (.modify fun _ => .inl rfl) fun _ _ _ _ => (ReadOnly.read _).steps

omit [PyRuntime F] in
theorem join_steps (ends : Worker → Bool) (worker : Worker) {R : RuntimeManager F → RuntimeManager F → Prop}
    (h : ∀ m live, R m { m with live }) : Steps R (join ends worker) := by
  unfold join
  split
  · exact .modify fun m => h m _
  · exact (ReadOnly.raise _).steps

theorem stop_operated (ends : Worker → Bool) :
    Steps Operated (stop ends : ManagerAct F (RuntimeSnapshot F)) := by
  have hjoin (workers : List Worker) : Steps Operated (forM workers (join ends) : ManagerAct F PUnit) :=
    Steps.forM (fun worker => join_steps ends worker fun _ _ => .inl rfl) workers
  refine (ReadOnly.read _).steps.bind fun running _ _ _ => ?_
  split
  · exact (ReadOnly.read _).steps
  · refine Steps.bind (.modify fun _ => .inl rfl) fun _ _ _ _ => ?_
    refine Steps.bind (.modify fun _ => .inl rfl) fun _ _ _ _ => ?_
    refine (ReadOnly.read _).steps.bind fun _ _ _ _ => (hjoin _).bind fun _ _ _ _ => ?_
    refine Steps.bind (.modify fun _ => .inl rfl) fun _ _ _ _ => ?_
    refine Steps.bind (.modify fun _ => .inl rfl) fun _ _ _ _ => ?_
    refine (ReadOnly.read _).steps.bind fun _ _ _ _ => (hjoin _).bind fun _ _ _ _ => ?_
    exact Steps.bind (.modify fun _ => .inl rfl) fun _ _ _ _ => (ReadOnly.read _).steps

end RuntimeManager

namespace WebApi

-- ---------------------------------------------------------------------------
-- The store in a run
-- ---------------------------------------------------------------------------

/-- An endpoint on the configuration reads, or it runs one operation. -/
theorem configContent_operated (app : App F) (request : ConfigRequest F) (s : ConfigStore F) :
    (configContent app request s).2 = s ∨
      ∃ op : Operation F, (configContent app request s).2 = op.run s := by
  have runs {α : Type} {act : StoreAct F α} {f : α → StoreAct F (Content F)} (op : Operation F)
      (hop : (act s).2 = op.run s) (hf : ∀ a, ReadOnly (f a)) :
      ((act >>= f) s).2 = s ∨ ∃ op : Operation F, ((act >>= f) s).2 = op.run s :=
    .inr ⟨op, (bind_state_of_readOnly act hf s).trans hop⟩
  have decodes {α : Type} {body : ByteArray} {act : String → StoreAct F α}
      {f : α → StoreAct F (Content F)} (op : String → Operation F)
      (hop : ∀ text, (act text s).2 = (op text).run s) (hf : ∀ a, ReadOnly (f a)) :
      ((Fallible.lift (decodeBody app body) >>= fun text => act text >>= f) s).2 = s ∨
        ∃ op : Operation F,
          ((Fallible.lift (decodeBody app body) >>= fun text => act text >>= f) s).2 = op.run s := by
    rcases (ReadOnly.lift (decodeBody app body)).bind_state (fun text => act text >>= f) s with
      h | ⟨text, -, h⟩
    · exact .inl h
    · exact .inr ⟨op text, h.trans ((bind_state_of_readOnly _ hf s).trans (hop text))⟩
  cases request with
  | createDevice payload => exact runs (.createDevice payload) rfl fun _ => .pure _
  | updateDevice deviceId payload => exact runs (.updateDevice deviceId payload) rfl fun _ => .pure _
  | deleteDevice deviceId => exact runs (.deleteDevice deviceId) rfl fun _ => .pure _
  | importDevicesCsv body => exact decodes .importDevicesCsv (fun _ => rfl) fun _ => .pure _
  | importTagsCsv deviceId body =>
    exact decodes (.importTagsCsv deviceId) (fun _ => rfl) fun _ => .pure _
  | createTag deviceId payload => exact runs (.createTag deviceId payload) rfl fun _ => .pure _
  | updateTag tagId payload => exact runs (.updateTag tagId payload) rfl fun _ => .pure _
  | deleteTag tagId => exact runs (.deleteTag tagId) rfl fun _ => .pure _
  | importPluginsCsv body => exact decodes .importPluginsCsv (fun _ => rfl) fun _ => .pure _
  | savePlugin sinkType payload => exact runs (.saveSinkConfig _) rfl fun _ => .read _
  | importPluginRoutesCsv body =>
    exact decodes .importPluginRoutesCsv (fun _ => rfl) fun _ => .pure _
  | savePluginRoute payload => exact runs (.saveOutputRoute payload) rfl fun _ => .read _
  | updatePluginRoute routeId payload => exact runs (.saveOutputRoute _) rfl fun _ => .read _
  | resolvePluginRouteTopic resolver now routeId =>
    exact runs (.resolveOutputRouteTopic resolver now routeId) rfl fun _ => .read _
  | deletePluginRoute routeId => exact runs (.deleteOutputRoute routeId) rfl fun _ => .pure _
  | _ => exact .inl (readOnly_configContent app rfl s)

omit [PyRuntime F] in
theorem store_drainRounds (limit : Nat) (m : RuntimeManager F) :
    (m.drainRounds limit).2.store = m.store := by
  induction limit generalizing m with
  | zero => rfl
  | succ limit ih =>
    rw [RuntimeManager.drainRounds]
    cases hround : m.drainRound with
    | none => rfl
    | some next =>
      obtain ⟨⟨item, queue⟩, -, rfl⟩ := Option.map_eq_some_iff.mp hround
      refine (ih _).trans ?_
      cases item <;> rfl

omit [PyRuntime F] in
theorem store_drainEvents (lines : List String) (limit : Nat) (m : RuntimeManager F) :
    (m.drainEvents lines limit).2.store = m.store := by
  have hrounds := store_drainRounds limit m
  rw [RuntimeManager.drainEvents]
  simp only [RuntimeManager.appendLogs]
  exact hrounds

theorem endpoint_operated (app : App F) (user : Settings F) (endpoint : Endpoint F) :
    Steps RuntimeManager.Operated (endpointContent app user endpoint) := by
  cases endpoint with
  | session => exact (ReadOnly.pure _).steps
  | config request => exact fun m => .single (configContent_operated app request m.store)
  | startRuntime env healthIntervalS runtimeLogEnabled =>
    exact (RuntimeManager.start_operated env _ _).bind fun _ _ _ _ => (ReadOnly.pure _).steps
  | stopRuntime ends =>
    exact (RuntimeManager.stop_operated ends).bind fun _ _ _ _ => (ReadOnly.pure _).steps
  | runtimeStatus lines =>
    refine Steps.bind (fun m => .single (.inl ?_)) fun _ _ _ _ => (ReadOnly.pure _).steps
    simp only [runtimeStatus, store_drainEvents]

theorem handle_operated (app : App F) (m : RuntimeManager F) (request : Request F) :
    Relation.ReflTransGen RuntimeManager.Operated m (handle app m request).2 := by
  cases request with
  | login username password => exact .refl
  | logout => exact .refl
  | gated cookie endpoint =>
    rw [handle]
    split
    · exact .refl
    · rename_i user _
      have hsteps := endpoint_operated app user endpoint m
      rw [serve]
      split <;> (rename_i hend; rw [hend] at hsteps; exact hsteps)

theorem run_operated (app : App F) (m : RuntimeManager F) (requests : List (Request F)) :
    Relation.ReflTransGen RuntimeManager.Operated m (run app m requests) := by
  induction requests generalizing m with
  | nil => exact .refl
  | cons request requests ih => exact (handle_operated app m request).trans (ih _)

/-- What every operation keeps every request keeps. -/
theorem reachable_run (app : App F) {m : RuntimeManager F} (h : Reachable (fun _ _ => True) m.store)
    (requests : List (Request F)) : Reachable (fun _ _ => True) (run app m requests).store := by
  have hsteps := run_operated app m requests
  generalize run app m requests = t at hsteps ⊢
  induction hsteps with
  | refl => exact h
  | tail _ hstep ih =>
    rcases hstep with hsame | ⟨op, hop⟩
    · rw [hsame]
      exact ih
    · rw [hop]
      exact .run op ih trivial

-- ---------------------------------------------------------------------------
-- Failed requests
-- ---------------------------------------------------------------------------

/-- After any requests, one on the configuration that is not answered with 200 has
changed nothing, unless it imports a file. The exception is a request whose endpoint
returned and whose answer could not be rendered: the write it made stays. -/
theorem failed_request (app : App F) {m : RuntimeManager F}
    (hstore : Reachable (fun _ _ => True) m.store) (requests : List (Request F))
    {cookie : Option String} {request : ConfigRequest F} (himports : request.imports = false)
    {answer : Response F} {t : RuntimeManager F}
    (hanswer : handle app (run app m requests) (.gated cookie (.config request)) = (answer, t))
    (hfailed : answer.statusCode ≠ 200) :
    t = run app m requests ∨ ∃ content exc, app.renderer.render content = some exc ∧
      configContent app request (run app m requests).store = (.ok content, t.store) := by
  have hreach := reachable_run app hstore requests
  generalize run app m requests = u at hreach hanswer ⊢
  have hatomic := atomic_configContent (storedRows_of_reachable hreach)
    (storedRoutes_of_reachable hreach) app himports
  rw [handle] at hanswer
  split at hanswer
  · cases hanswer
    exact .inl rfl
  · rename_i user _
    rcases hcontent : configContent app request u.store with ⟨e | content, store⟩
    · have hend : endpointContent app user (.config request) u = (.error e, { u with store }) := by
        rw [endpointContent, RuntimeManager.onStore, zoom, hcontent]
      rw [serve, hend] at hanswer
      cases hanswer
      rw [hatomic e store hcontent]
      exact .inl rfl
    · have hend : endpointContent app user (.config request) u = (.ok content, { u with store }) := by
        rw [endpointContent, RuntimeManager.onStore, zoom, hcontent]
      rw [serve, hend] at hanswer
      cases hanswer
      rw [contentResponse] at hfailed
      split at hfailed
      · exact absurd rfl hfailed
      · rename_i exc hrender
        exact .inr ⟨content, exc, hrender, rfl⟩

/-- The update of a route that is not there: the server's own error, after a write
that hit no row. -/
def missingRoute : Request WholeFloat :=
  .gated (some (createSessionToken defaultApp)) (.config (.updatePluginRoute 7 ∅))

theorem missingRoute_unchanged :
    let m := run defaultApp newManager [.login "admin" "admin"]
    (handle defaultApp m missingRoute).1.statusCode = 500 ∧ (handle defaultApp m missingRoute).2 = m := by
  intro m
  have hstatus : (handle defaultApp m missingRoute).1.statusCode = 500 := by decide +kernel
  refine ⟨hstatus, ?_⟩
  have hfailed : (handle defaultApp m missingRoute).1.statusCode ≠ 200 := by
    rw [hstatus]
    decide
  have hanswer : handle defaultApp m (.gated (some (createSessionToken defaultApp))
      (.config (.updatePluginRoute 7 ∅))) =
      ((handle defaultApp m missingRoute).1, (handle defaultApp m missingRoute).2) := rfl
  rcases failed_request (m := newManager) defaultApp .initialized [.login "admin" "admin"] rfl
    hanswer hfailed with h | ⟨content, exc, -, hcontent⟩
  · exact h
  · have herror : (configContent defaultApp (.updatePluginRoute 7 ∅) m.store).1.isOk = false := by
      decide +kernel
    rw [hcontent] at herror
    cases herror

-- ---------------------------------------------------------------------------
-- Ids of deleted rows
-- ---------------------------------------------------------------------------

/-- No table gives out an id again. -/
structure Grown (s t : ConfigStore F) : Prop where
  devices : Table.Grown s.devices t.devices
  tags : Table.Grown s.tags t.tags
  outputRoutes : Table.Grown s.outputRoutes t.outputRoutes

omit [PyRuntime F] in
theorem Grown.refl (s : ConfigStore F) : Grown s s := ⟨.refl _, .refl _, .refl _⟩

omit [PyRuntime F] in
theorem Grown.trans {s t u : ConfigStore F} (h : Grown s t) (h' : Grown t u) : Grown s u :=
  ⟨h.devices.trans h'.devices, h.tags.trans h'.tags, h.outputRoutes.trans h'.outputRoutes⟩

theorem grown_write {saves : OutputRouteConfig F → Prop} {s t : ConfigStore F}
    (h : Write saves s t) : Grown s t := by
  cases h with
  | insertDevice hrow hid => exact ⟨.insert _ _, .refl _, .refl _⟩
  | deleteDevice deviceId => exact ⟨.filter _ _, .filter _ _, .filter _ _⟩
  | writeTag hadmitted hnode hwrite =>
    obtain ⟨hsame, row, -, htags⟩ := ConfigStore.writeTag_rows hwrite
    refine ⟨hsame.devices ▸ .refl _, ?_, hsame.outputRoutes ▸ .refl _⟩
    rcases htags with ⟨-, -, htags⟩ | ⟨-, htags⟩
    · exact htags ▸ .insert _ _
    · exact htags ▸ .update _ _ _
  | deleteTag tagId => exact ⟨.refl _, .filter _ _, .refl _⟩
  | saveRoute hroute hsave =>
    have hsame := ConfigStore.saveOutputRoute_same hsave
    refine ⟨hsame.devices ▸ .refl _, hsame.tags ▸ .refl _, ?_⟩
    obtain ⟨row, -, ⟨-, -, hput⟩ | ⟨-, -, hput⟩⟩ := ConfigStore.saveOutputRoute_rows.mp hsave
    · rw [(ConfigStore.insertRoute_eq_ok.mp hput).2.2]
      exact .insert _ _
    · rw [(ConfigStore.updateRoute_eq_ok.mp hput).2.2]
      exact .update _ _ _
  | deleteRoute routeId => exact ⟨.refl _, .refl _, .filter _ _⟩
  | saveSink hkeys => exact ⟨.refl _, .refl _, .refl _⟩

theorem grown_operation (op : Operation F) (s : ConfigStore F) : Grown s (op.run s) := by
  rcases operation_writes op s with hsteps | ⟨deviceId, payload, device, row, -, -, -, hrun⟩
  · generalize op.run s = t at hsteps
    induction hsteps with
    | refl => exact .refl s
    | tail _ hstep ih => exact ih.trans (grown_write hstep)
  · rw [hrun]
    exact ⟨.update _ _ _, .refl _, .refl _⟩

theorem grown_run (app : App F) (m : RuntimeManager F) (requests : List (Request F)) :
    Grown m.store (run app m requests).store := by
  have hsteps := run_operated app m requests
  generalize run app m requests = t at hsteps ⊢
  induction hsteps with
  | refl => exact .refl _
  | tail _ hstep ih =>
    rcases hstep with hsame | ⟨op, hop⟩
    · rw [hsame]
      exact ih
    · rw [hop]
      exact ih.trans (grown_operation op _)

/-- A device that some requests have deleted is not there after any further ones, nor
is a tag or a route under its id; and no deleted tag or route comes back. -/
theorem deleted_stays_away (app : App F) (m : RuntimeManager F) (requests later : List (Request F))
    (id : Int) :
    let s := (run app m requests).store
    let t := (run app m (requests ++ later)).store
    ((m.store.devices.get? id).isSome → s.devices.get? id = none →
      t.devices.get? id = none ∧ (∀ i row, t.tags.get? i = some row → row.deviceId ≠ id) ∧
        ∀ i row, t.outputRoutes.get? i = some row → row.deviceId ≠ some id) ∧
    ((m.store.tags.get? id).isSome → s.tags.get? id = none → t.tags.get? id = none) ∧
    ((m.store.outputRoutes.get? id).isSome → s.outputRoutes.get? id = none →
      t.outputRoutes.get? id = none) := by
  intro s t
  have hbefore : Grown m.store s := grown_run app m requests
  have hafter : Grown s t := by
    have hrun : run app m (requests ++ later) = run app (run app m requests) later :=
      List.foldl_append ..
    have hgrown := grown_run app (run app m requests) later
    rwa [← hrun] at hgrown
  refine ⟨fun hdevice hgone => ?_, hbefore.tags.get?_eq_none hafter.tags,
    hbefore.outputRoutes.get?_eq_none hafter.outputRoutes⟩
  have haway := hbefore.devices.get?_eq_none hafter.devices hdevice hgone
  refine ⟨haway, fun i row hrow hid => ?_, fun i row hrow hid => ?_⟩
  · have hsome := t.tagDevice i row hrow
    rw [hid, haway] at hsome
    exact Bool.false_ne_true hsome
  · have hsome := t.routeDevice i row id hrow hid
    rw [haway] at hsome
    exact Bool.false_ne_true hsome

/-- A deletion, and a device made after it. -/
theorem press_stays_away :
    let app := defaultApp
    let delete := [.login "admin" "admin",
      .gated (some (createSessionToken app)) (.config (.deleteDevice 1))]
    let create := [.gated (some (createSessionToken app)) (.config (.createDevice
      (.ofList [("name", .str "press"), ("driver_type", .str "modbus_tcp")])))]
    let store := (run app { newManager with store := oldStore } (delete ++ create)).store
    store.devices.get? 1 = none ∧ (store.devices.get? 2).isSome := by
  intro app delete create store
  have hgone : (run app { newManager with store := oldStore } delete).store.devices.get? 1 = none := by
    decide +kernel
  have hnew : (store.devices.get? 2).isSome := by decide +kernel
  exact ⟨((deleted_stays_away app { newManager with store := oldStore } delete create 1).1
    (by decide +kernel) hgone).1, hnew⟩

end WebApi

end IndustrialGateway
