import IndustrialGateway.StoredRoutes

/-!
# Tasks between store calls

A topic request, the refresh of all routes and a user's edit of a route, cut at
their calls of the store: each step makes one call and the store is open to
others before the next. Alone, each of them does what its function does.
-/

namespace IndustrialGateway

open ConfigService Fallible

variable {F : Type} [PyRuntime F]

-- ---------------------------------------------------------------------------
-- Requests
-- ---------------------------------------------------------------------------

/-- Where `resolve_output_route_topic` stands. -/
inductive Request (F : Type) where
  | listing (routeId : Int)
  | readingSink (routeId : Int) (route : OutputRouteConfig F) (config : Settings F)
    (macAddress : String)
  | asking (routeId : Int) (route : OutputRouteConfig F) (config : Settings F) (macAddress : String)
    (mqttConfig : Settings F)
  | saving (routeId : Int) (route : OutputRouteConfig F) (config : Settings F) (macAddress : String)
    (answer : Except PyException (String × Int))
  | answering (routeId : Int) (answer : Except PyException (String × Int))

namespace Request

def routeId : Request F → Int
  | listing routeId | readingSink routeId .. | asking routeId .. | saving routeId ..
  | answering routeId _ => routeId

/-- The result for a route that was read again. -/
def resolved (route : OutputRouteConfig F) (now : String) :
    Except PyException (String × Int) → ResolvedRoute F
  | .error e => ⟨route, "", 0, now, some e.message⟩
  | .ok (topic, sensorCount) => ⟨route, topic, sensorCount, now, none⟩

def step (resolver : TopicResolver F) (now : Int → String) :
    Request F → StoreAct F (Request F ⊕ ResolvedRoute F)
  | listing routeId => do
    let route ← .lift (routeByRequiredId (← .read ConfigStore.listOutputRoutes) routeId)
    let config ← .lift (routeConfig (.ofList [("config", .dict route.config.entries)]))
    let macAddress := PyText.strip (valueOr (optional config "mac_address") (.str "")).text
    .lift (raiseUnless (macAddress ≠ "") "route mac_address is required")
    return .inl (readingSink routeId route config macAddress)
  | readingSink routeId route config macAddress => do
    let sink ← .read fun store => store.getSinkConfig (some "mqtt")
    return .inl (asking routeId route config macAddress sink.config)
  | asking routeId route config macAddress mqttConfig =>
    return .inl (saving routeId route config macAddress (resolveTopic resolver macAddress mqttConfig))
  | saving routeId route config macAddress answer => do
    let _ ← ConfigStore.saveOutputRoute { route with
      config := config.update (topicSettings macAddress (now routeId) answer) }
    return .inl (answering routeId answer)
  | answering routeId answer => do
    return .inr (resolved (← nextOutputRoute routeId) (now routeId) answer)

/-- So many steps with nothing between them. -/
def run (resolver : TopicResolver F) (now : Int → String) :
    Nat → Request F → StoreAct F (Request F ⊕ ResolvedRoute F)
  | 0, request => return .inl request
  | steps + 1, request => do
    match ← request.step resolver now with
    | .inl request => run resolver now steps request
    | .inr result => return .inr result

/-- Alone, the five steps are `resolve_output_route_topic`. -/
theorem run_listing (resolver : TopicResolver F) (now : Int → String) (routeId : Int) :
    run resolver now 5 (listing routeId) =
      Sum.inr <$> resolveOutputRouteTopic resolver (now routeId) routeId := by
  simp only [run, step, resolveOutputRouteTopic, map_bind, bind_assoc, pure_bind]
  refine bind_congr fun routes => bind_congr fun route => bind_congr fun config =>
    bind_congr fun _ => bind_congr fun sink => ?_
  cases resolveTopic resolver _ sink.config with
  | error e => simp only [map_bind, map_pure, topicSettings, failedSettings, resolved]
  | ok found =>
    obtain ⟨topic, sensorCount⟩ := found
    simp only [map_bind, map_pure, topicSettings, resolvedSettings, resolved]

end Request

-- ---------------------------------------------------------------------------
-- Refreshes
-- ---------------------------------------------------------------------------

/-- Where `refresh_dynamic_output_route_topics` stands: it holds the routes of its
first call that are still to come. One request is a refresh with no more to come. -/
inductive Task (F : Type) where
  | listing
  | resolving (request : Request F) (rest : List (OutputRouteConfig F))
    (results : List (ResolvedRoute F))
  | returned (results : List (ResolvedRoute F))
  | raised (e : PyException)

/-- Whether the loop resolves a route. -/
def isDynamic (route : OutputRouteConfig F) : Except PyException Bool := do
  let config ← routeConfig (.ofList [("config", .dict route.config.entries)])
  return route.enabled && route.sinkType = "mqtt" &&
    (optional config "dynamic_topic_enabled").truthy && (optional config "mac_address").truthy

namespace Task

variable (resolver : TopicResolver F) (now : Int → String)

/-- The loop up to its next request. -/
def next : List (OutputRouteConfig F) → List (ResolvedRoute F) → Task F
  | [], results => returned results
  | route :: rest, results =>
    match isDynamic route with
    | .error e => raised e
    | .ok false => next rest results
    | .ok true => resolving (.listing (route.id.getD 0)) rest results

def step : Task F → ConfigStore F → Task F × ConfigStore F
  | listing, s => (next s.listOutputRoutes [], s)
  | resolving request rest results, s =>
    match request.step resolver now s with
    | (.ok (.inl request), t) => (resolving request rest results, t)
    | (.ok (.inr result), t) => (next rest (results ++ [result]), t)
    | (.error e, t) => (raised e, t)
  | returned results, s => (returned results, s)
  | raised e, s => (raised e, s)

def ofOutcome : Except PyException (List (ResolvedRoute F)) → Task F
  | .ok results => returned results
  | .error e => raised e

/-- Steps with nothing between them. -/
def Alone : Task F × ConfigStore F → Task F × ConfigStore F → Prop :=
  Relation.ReflTransGen fun x y => y = x.1.step resolver now x.2

variable {resolver now}

theorem alone_step {task : Task F} {s : ConfigStore F} {x : Task F × ConfigStore F}
    (h : Alone resolver now (task.step resolver now s) x) : Alone resolver now (task, s) x :=
  .head rfl h

theorem alone_run {steps : Nat} {request : Request F} {rest : List (OutputRouteConfig F)}
    {results : List (ResolvedRoute F)} {s t : ConfigStore F} :
    (∀ result, request.run resolver now steps s = (.ok (.inr result), t) →
      Alone resolver now (resolving request rest results, s) (next rest (results ++ [result]), t)) ∧
    ∀ e, request.run resolver now steps s = (.error e, t) →
      Alone resolver now (resolving request rest results, s) (raised e, t) := by
  induction steps generalizing request s with
  | zero =>
    constructor
    · intro result h
      cases h
    · intro e h
      cases h
  | succ steps ih =>
    have hstep : (resolving request rest results).step resolver now s =
        match request.step resolver now s with
        | (.ok (.inl request), t) => (resolving request rest results, t)
        | (.ok (.inr result), t) => (next rest (results ++ [result]), t)
        | (.error e, t) => (raised e, t) := rfl
    rw [Request.run, bind_apply]
    rcases hrequest : request.step resolver now s with ⟨e | request' | result', u⟩
    · rw [hrequest] at hstep
      refine ⟨fun result h => (by cases h), fun e' h => ?_⟩
      cases h
      exact alone_step (hstep ▸ .refl)
    · rw [hrequest] at hstep
      obtain ⟨hok, herror⟩ := @ih request' u
      exact ⟨fun result h => alone_step (hstep ▸ hok result h),
        fun e h => alone_step (hstep ▸ herror e h)⟩
    · rw [hrequest] at hstep
      refine ⟨fun result h => ?_, fun e' h => (by cases h)⟩
      cases h
      exact alone_step (hstep ▸ .refl)

/-- A round of the loop. -/
def round (resolver : TopicResolver F) (now : Int → String) (results : List (ResolvedRoute F))
    (route : OutputRouteConfig F) : StoreAct F (List (ResolvedRoute F)) := do
  if ← .lift (isDynamic route) then
    let routeId := route.id.getD 0
    return results ++ [← resolveOutputRouteTopic resolver (now routeId) routeId]
  return results

theorem refresh_eq_rounds :
    refreshDynamicOutputRouteTopics resolver now =
      .read ConfigStore.listOutputRoutes >>= fun routes => routes.foldlM (round resolver now) [] := by
  rw [refreshDynamicOutputRouteTopics]
  congr 1
  funext routes
  congr 1
  funext results route
  simp only [round, isDynamic]
  cases routeConfig (.ofList [("config", .dict route.config.entries)]) with
  | error e => rfl
  | ok config =>
    simp only [ok_bind, lift_ok_bind, pure, Except.pure, ne_eq, decide_not]
    cases route.enabled <;> cases decide (route.sinkType = "mqtt") <;>
      cases (optional config "dynamic_topic_enabled").truthy <;>
      cases (optional config "mac_address").truthy <;> rfl

theorem alone_loop (rest : List (OutputRouteConfig F)) (results : List (ResolvedRoute F))
    (s : ConfigStore F) :
    Alone resolver now (next rest results, s)
      (ofOutcome (rest.foldlM (round resolver now) results s).1,
        (rest.foldlM (round resolver now) results s).2) := by
  induction rest generalizing results s with
  | nil => exact .refl
  | cons route rest ih =>
    rw [next, List.foldlM_cons, bind_apply]
    rcases hdue : isDynamic route with e | due
    · rw [round, hdue]
      exact .refl
    · cases due with
      | false =>
        have hround : round resolver now results route = pure results := by
          rw [round, hdue]
          rfl
        rw [hround]
        exact ih results s
      | true =>
        have hrun := congrFun (Request.run_listing resolver now (route.id.getD 0)) s
        rw [map_apply] at hrun
        rw [round, hdue, lift_ok_bind, if_pos rfl, bind_apply]
        rcases hresolve : resolveOutputRouteTopic resolver (now (route.id.getD 0))
          (route.id.getD 0) s with ⟨e | result, t⟩
        · rw [hresolve] at hrun
          exact alone_run.2 e hrun
        · rw [hresolve] at hrun
          exact (alone_run.1 result hrun).trans (ih _ _)

/-- Alone, the steps are `refresh_dynamic_output_route_topics`. -/
theorem alone_listing (s : ConfigStore F) :
    Alone resolver now (listing, s)
      (ofOutcome (refreshDynamicOutputRouteTopics resolver now s).1,
        (refreshDynamicOutputRouteTopics resolver now s).2) := by
  rw [refresh_eq_rounds, read_bind]
  exact alone_step (alone_loop _ _ _)

/-- Alone, the steps of one request are `resolve_output_route_topic`. -/
theorem alone_resolving (routeId : Int) (s : ConfigStore F) :
    Alone resolver now (resolving (.listing routeId) [] [], s)
      (ofOutcome ((resolveOutputRouteTopic resolver (now routeId) routeId s).1.map fun r => [r]),
        (resolveOutputRouteTopic resolver (now routeId) routeId s).2) := by
  have hrun := congrFun (Request.run_listing resolver now routeId) s
  rw [map_apply] at hrun
  rcases hresolve : resolveOutputRouteTopic resolver (now routeId) routeId s with ⟨e | result, t⟩
  · rw [hresolve] at hrun
    exact alone_run.2 e hrun
  · rw [hresolve] at hrun
    exact alone_run.1 result hrun

end Task

-- ---------------------------------------------------------------------------
-- Edits
-- ---------------------------------------------------------------------------

/-- One user's edit of a route. -/
inductive Edit (F : Type) where
  | save (payload : Settings F)
  | delete (routeId : Int)

/-- Where an edit stands, with the route that it has written. -/
inductive EditTask (F : Type) where
  | checking (payload : Settings F)
  | saving (route : OutputRouteConfig F)
  | deleting (routeId : Int)
  | answering (savedId : Int) (written : OutputRouteConfig F)
  | saved (written : OutputRouteConfig F)
  | deleted
  | raised (e : PyException)

namespace EditTask

def start : Edit F → EditTask F
  | .save payload => checking payload
  | .delete routeId => deleting routeId

/-- The route of a payload, for a device that was found. -/
def routeOfPayload (payload : Settings F) : StoreAct F (OutputRouteConfig F) := do
  let deviceIdValue := optional payload "device_id"
  let config ← .lift (routeConfig payload)
  let isSystemHeartbeat := isText (config.get? "route_kind") "system_heartbeat" ||
    isText (some deviceIdValue) "system_heartbeat"
  let deviceId ← routeDeviceId deviceIdValue
  return {
    id := ← .lift (optionalInt (optional payload "id"))
    deviceId
    tagGroup := if isSystemHeartbeat then ""
      else PyText.strip (optional payload "tag_group" (.str "")).text
    sinkType := "mqtt"
    enabled := (optional payload "enabled" (.bool true)).truthy
    config := if isSystemHeartbeat then systemHeartbeatConfig config else config }

def step : EditTask F → StoreAct F (EditTask F)
  | checking payload => do return saving (← routeOfPayload payload)
  | saving route => do return answering (← ConfigStore.saveOutputRoute route) route
  | deleting routeId => do
    deleteOutputRoute routeId
    return deleted
  | answering savedId written => do
    let _ ← nextOutputRoute savedId
    return saved written
  | edit => return edit

/-- Alone, the steps of a save are `save_output_route`. -/
theorem save_eq_steps (payload : Settings F) :
    saveOutputRoute payload = routeOfPayload payload >>= fun route =>
      ConfigStore.saveOutputRoute route >>= fun savedId => nextOutputRoute savedId := by
  simp only [saveOutputRoute, routeOfPayload, bind_assoc, pure_bind]

end EditTask

end IndustrialGateway
