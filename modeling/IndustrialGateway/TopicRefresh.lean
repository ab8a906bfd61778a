import IndustrialGateway.RuntimeManager
import IndustrialGateway.TopicRace

/-!
# The refresh of topics, route by route

A request writes to its own route what the topic server has answered, and a request
that fails keeps the topic of the answer before. So the refresh of all routes is what
its requests are, each alone with its route.
-/

namespace IndustrialGateway

open ConfigService Fallible

variable {F : Type} [PyRuntime F] {s t : ConfigStore F}

-- ---------------------------------------------------------------------------
-- What a request leaves to be read
-- ---------------------------------------------------------------------------

theorem text_strippedText (config payload : Settings F) (key : String) :
    (strippedText config payload key).text = routeText config payload key := rfl

theorem strippedText_of_str {config : Settings F} {key text : String}
    (h : config.get? key = some (.str text)) : strippedText config ∅ key = .of text := by
  rw [strippedText, ConfigService.optional, h, Option.getD_some, valueOr]
  split
  · rfl
  · rename_i hblank
    obtain rfl : text = "" := by simpa [PyValue.truthy] using hblank
    rfl

theorem routeSettings_fields {config : Settings F} {r : RouteSettings F}
    (h : routeSettings config ∅ = .ok r) :
    r.dynamicTopicEnabled = csvBool (dynamicFlag config ∅) false ∧
      r.resolvedTopic = strippedText config ∅ "resolved_topic" ∧
      optionalInt (ConfigService.optional config "resolved_sensor_count"
        (ConfigService.optional ∅ "resolved_sensor_count")) = .ok r.resolvedSensorCount := by
  rw [routeSettings] at h
  split at h
  all_goals
    obtain ⟨heartbeat, -, h⟩ := bind_eq_ok.mp h
    obtain ⟨count, hcount, h⟩ := bind_eq_ok.mp h
    cases h
    exact ⟨rfl, rfl, hcount⟩

/-- Another config that has the same heartbeat is read with its own topics. -/
theorem routeSettings_update {config config' : Settings F} {r : RouteSettings F} (count : Option Int)
    (h : routeSettings config ∅ = .ok r)
    (hkind : config'.get? "route_kind" = config.get? "route_kind")
    (hcode : config'.get? "sensor_code" = config.get? "sensor_code")
    (hinterval : config'.get? "heartbeat_interval_s" = config.get? "heartbeat_interval_s")
    (hcount : config'.get? "resolved_sensor_count" = count.map .int) :
    routeSettings config' ∅ = .ok {
      heartbeat := r.heartbeat
      topic := strippedText config' ∅ "topic"
      dynamicTopicEnabled := csvBool (dynamicFlag config' ∅) false
      macAddress := strippedText config' ∅ "mac_address"
      resolvedTopic := strippedText config' ∅ "resolved_topic"
      resolvedSensorCount := count
      resolvedError := strippedText config' ∅ "resolved_error"
      resolvedAt := strippedText config' ∅ "resolved_at" } := by
  have hread {key : String} (h : config'.get? key = config.get? key) (default : PyValue F) :
      ConfigService.optional config' key default = ConfigService.optional config key default := by
    rw [ConfigService.optional, ConfigService.optional, h]
  have hbeat : isHeartbeat config' ∅ = isHeartbeat config ∅ := by
    rw [isHeartbeat, isHeartbeat, routeText, routeText, hread hkind]
  have hcounts : optionalInt (ConfigService.optional config' "resolved_sensor_count"
      (ConfigService.optional ∅ "resolved_sensor_count")) = .ok count := by
    rw [ConfigService.optional, hcount]
    cases count <;> rfl
  rw [routeSettings] at h ⊢
  rw [hbeat, hread hcode, hread hinterval, hcounts]
  split at h
  · rename_i hsystem
    obtain ⟨heartbeat, hheartbeat, h⟩ := bind_eq_ok.mp h
    obtain ⟨_, -, h⟩ := bind_eq_ok.mp h
    cases h
    rw [if_pos hsystem, hheartbeat]
    rfl
  · rename_i hsystem
    obtain ⟨heartbeat, hheartbeat, h⟩ := bind_eq_ok.mp h
    obtain ⟨_, -, h⟩ := bind_eq_ok.mp h
    cases h
    rw [if_neg hsystem, hheartbeat]
    rfl

/-- The record after a request. -/
def RouteSettings.answered (r : RouteSettings F) (now : String) :
    Except PyException (String × Int) → RouteSettings F
  | .error e =>
    { r with dynamicTopicEnabled := true, resolvedError := .of e.message, resolvedAt := .of now }
  | .ok (topic, sensorCount) =>
    { r with
      dynamicTopicEnabled := true
      resolvedTopic := .of topic
      resolvedSensorCount := some sensorCount
      resolvedError := .of ""
      resolvedAt := .of now }

/-- What a request writes is read as the record after it. -/
theorem routeSettings_topicSettings {r : RouteSettings F} (hmac : r.macAddress.text ≠ "") (now : String)
    (answer : Except PyException (String × Int)) :
    routeSettings (r.toSettings.update (topicSettings r.macAddress.text now answer)) ∅ =
      .ok (r.answered now answer) := by
  have hset (key : String) : (r.toSettings.update (topicSettings r.macAddress.text now answer)).get? key =
      (OrderedDict.lookup key (topicSettings r.macAddress.text now answer).reverse).or
        (r.toSettings.get? key) := OrderedDict.get?_update _ _ _
  obtain ⟨hdynamic, hrequest, hcount⟩ := r.flags_toSettings
  obtain ⟨htopic, hmacAddress, hresolved, -, -⟩ := r.texts_toSettings
  have hflag : (r.toSettings.update (topicSettings r.macAddress.text now answer)).get?
      "dynamic_topic_enabled" = some (.bool true) := by
    rw [hset]
    rcases answer with e | ⟨topic, sensorCount⟩ <;> rfl
  have hdynamic : csvBool (dynamicFlag
      (r.toSettings.update (topicSettings r.macAddress.text now answer)) ∅) false = true := by
    rw [dynamicFlag, ConfigService.optional, hflag]
    exact csvBool_flag true
  have htopic : strippedText (r.toSettings.update (topicSettings r.macAddress.text now answer)) ∅
      "topic" = r.topic := by
    refine strippedText_of_config ?_
    rw [hset, ← htopic]
    rcases answer with e | ⟨topic, sensorCount⟩ <;> rfl
  have hmacAddress : strippedText (r.toSettings.update
      (topicSettings r.macAddress.text now answer)) ∅ "mac_address" = r.macAddress := by
    refine strippedText_of_config ?_
    rw [hset, textField, if_neg hmac]
    rcases answer with e | ⟨topic, sensorCount⟩ <;> rfl
  have hat : strippedText (r.toSettings.update (topicSettings r.macAddress.text now answer)) ∅
      "resolved_at" = .of now := by
    refine strippedText_of_str ?_
    rw [hset]
    rcases answer with e | ⟨topic, sensorCount⟩ <;> rfl
  rcases answer with e | ⟨topic, sensorCount⟩
  · have hread := routeSettings_update r.resolvedSensorCount (routeSettings_toSettings r)
      (hset _) (hset _) (hset _) ((hset _).trans hcount)
    rw [hread, htopic, hmacAddress, hdynamic, hat, strippedText_of_config ((hset "resolved_topic").trans hresolved),
      strippedText_of_str (hset "resolved_error")]
    rfl
  · have hread := routeSettings_update (some sensorCount) (routeSettings_toSettings r)
      (hset _) (hset _) (hset _) (hset _)
    rw [hread, htopic, hmacAddress, hdynamic, hat, strippedText_of_str (hset "resolved_topic"),
      strippedText_of_str (hset "resolved_error")]
    rfl

-- ---------------------------------------------------------------------------
-- The runtime's topics
-- ---------------------------------------------------------------------------

def baseTopic (sinkConfig : Settings F) : String :=
  PyText.stripChar '/' (valueOr (optional sinkConfig "base_topic") (.str "industrial")).text

/-- The route is among those of `_output_routes`. -/
def isPublished (store : ConfigStore F) (route : OutputRouteConfig F) : Bool :=
  (store.getSinkConfig none).sinkType = "mqtt" && route.enabled && route.sinkType = "mqtt"

/-- The topic that `_output_routes` gives the route. -/
def publishedTopic (store : ConfigStore F) (route : OutputRouteConfig F) : Option String :=
  if isPublished store route then
    some (routeTopic (baseTopic (store.getSinkConfig none).config) (routePublishTopic route.config))
  else none

theorem topic_outputRoute {sinkConfig : Settings F} {route : OutputRouteConfig F} {objectId : Nat}
    {output : OutputRoute F} (h : outputRoute sinkConfig route objectId = .ok output) :
    output.topic = routeTopic (baseTopic sinkConfig) (routePublishTopic route.config) := by
  simp only [outputRoute, bind_eq_ok, pure, Except.pure, Except.ok.injEq] at h
  obtain ⟨qos, -, interval, -, rfl⟩ := h
  dsimp only
  rw [baseTopic]

/-- The topics of the route objects are those of the stored routes, one by one. -/
theorem topics_outputRoutes {firstId : Nat} {outputs : List (OutputRoute F)}
    (h : outputRoutes s firstId = .ok outputs) :
    outputs.map OutputRoute.topic = s.listOutputRoutes.filterMap (publishedTopic s) := by
  unfold outputRoutes at h
  dsimp only at h
  by_cases hsink : (s.getSinkConfig none).sinkType = "mqtt"
  · have hpublished (route : OutputRouteConfig F) :
        isPublished s route = (route.enabled && route.sinkType = "mqtt") := by
      simp [isPublished, hsink]
    rw [if_neg (not_not_intro hsink)] at h
    simp only [← hpublished] at h
    generalize s.listOutputRoutes = routes at h
    induction routes generalizing firstId outputs with
    | nil =>
      cases h
      rfl
    | cons route routes ih =>
      cases hroute : isPublished s route with
      | true =>
        rw [List.filter_cons_of_pos hroute, List.zipIdx_cons, List.mapM_cons] at h
        obtain ⟨output, houtput, h⟩ := bind_eq_ok.mp h
        obtain ⟨rest, hrest, h⟩ := bind_eq_ok.mp h
        cases h
        rw [List.map_cons, topic_outputRoute houtput, ih hrest, List.filterMap_cons, publishedTopic,
          if_pos hroute]
      | false =>
        rw [List.filter_cons_of_neg (by simp [hroute])] at h
        rw [ih h, List.filterMap_cons, publishedTopic, if_neg (by simp [hroute])]
  · rw [if_pos hsink] at h
    cases h
    rw [eq_comm, List.map_nil, List.filterMap_eq_nil_iff]
    intro route _
    rw [publishedTopic, if_neg (by simp [isPublished, hsink])]

theorem routeTopic_congr {base : String} {topic topic' : PyValue F}
    (h : PyText.strip (valueOr topic (.str "")).text = PyText.strip (valueOr topic' (.str "")).text) :
    routeTopic base topic = routeTopic base topic' := by
  simp only [routeTopic, h]

/-- The text that the topic of the route is made of. -/
def RouteSettings.publishTopic (r : RouteSettings F) : StrippedText :=
  if r.dynamicTopicEnabled ∧ r.resolvedTopic.text ≠ "" then r.resolvedTopic else r.topic

/-- A config as the service leaves it is published to the topic it is read with. -/
theorem routeTopic_publishTopic {config : Settings F} {r : RouteSettings F} (h : WrittenConfig config)
    (hr : routeSettings config ∅ = .ok r) (base : String) :
    routeTopic base (routePublishTopic config) =
      routeTopic base (.str r.publishTopic.text : PyValue F) := by
  obtain ⟨hdynamic, hresolved, -⟩ := routeSettings_fields hr
  obtain ⟨htopic, -⟩ := routeSettings_texts hr
  have hblank : (optional config "resolved_topic").truthy = decide (r.resolvedTopic.text ≠ "") := by
    rw [hresolved, Bool.eq_iff_iff, decide_eq_true_iff]
    refine ⟨h.resolved, fun hne => ?_⟩
    by_contra hfalse
    rw [strippedText, valueOr, if_neg hfalse] at hne
    exact hne (PyText.stripped_empty : PyText.strip "" = "")
  have hflag : (optional config "dynamic_topic_enabled").truthy = r.dynamicTopicEnabled :=
    h.dynamic.trans hdynamic.symm
  have htext (text : StrippedText) :
      PyText.strip (valueOr (.str text.text) (.str "") : PyValue F).text = text.text := by
    rw [valueOr]
    split
    · exact text.stripped
    · rename_i hfalse
      obtain hempty : text.text = "" := by simpa [PyValue.truthy] using hfalse
      rw [hempty]
      exact (PyText.stripped_empty : PyText.strip "" = "")
  refine routeTopic_congr (Eq.trans ?_ (htext _).symm)
  rw [routePublishTopic, hflag, hblank, RouteSettings.publishTopic]
  by_cases hpublished : r.dynamicTopicEnabled ∧ r.resolvedTopic.text ≠ ""
  · rw [if_pos (by simpa using hpublished), if_pos hpublished, hresolved]
    rfl
  · rw [if_neg (by simpa using hpublished), if_neg hpublished, htopic]
    rfl

-- ---------------------------------------------------------------------------
-- Requests that fail
-- ---------------------------------------------------------------------------

/-- A published route whose flag is off, with an earlier answer that names another topic
than the route's own. -/
structure Redirectable (s : ConfigStore F) (route : OutputRouteConfig F) : Prop where
  published : isPublished s route = true
  fixed : csvBool (dynamicFlag route.config ∅) false = false
  resolved : routeText route.config ∅ "resolved_topic" ≠ ""
  differs : routeTopic (baseTopic (s.getSinkConfig none).config)
      (.str (routeText route.config ∅ "resolved_topic") : PyValue F) ≠
    routeTopic (baseTopic (s.getSinkConfig none).config)
      (.str (routeText route.config ∅ "topic") : PyValue F)

/-- A request leaves its route published as it was, and to the topic of the record after it. -/
theorem publishedTopic_resolvedRow {row : OutputRouteRow F} {r : RouteSettings F}
    (hmac : r.macAddress.text ≠ "") (hsame : s.SameButRoutes t) (routeId : Int) (now : String)
    {answer : Except PyException (String × Int)}
    (hanswer : ∀ topic sensorCount, answer = .ok (topic, sensorCount) → PyText.strip topic ≠ "") :
    publishedTopic t ((resolvedRow row r now answer).route routeId) =
      if isPublished s (row.route routeId) then
        some (routeTopic (baseTopic (s.getSinkConfig none).config)
          (.str (r.answered now answer).publishTopic.text : PyValue F))
      else none := by
  have hpublished : isPublished t ((resolvedRow row r now answer).route routeId) =
      isPublished s (row.route routeId) := by
    rw [isPublished, isPublished, hsame.getSinkConfig]
    rfl
  rw [publishedTopic, hpublished, hsame.getSinkConfig]
  exact congrArg (fun topic => if isPublished s (row.route routeId) then some topic else none)
    (routeTopic_publishTopic (written_topic hmac now _ hanswer) (routeSettings_topicSettings hmac now answer) _)

/-- The topic before and after a request that fails. -/
theorem publishedTopic_failed {row : OutputRouteRow F} {r : RouteSettings F}
    (hwritten : WrittenConfig row.config) (hr : routeSettings row.config ∅ = .ok r)
    (hmac : r.macAddress.text ≠ "") (hsame : s.SameButRoutes t) (routeId : Int) (now : String)
    (e : PyException) :
    publishedTopic t ((resolvedRow row r now (.error e)).route routeId) =
        publishedTopic s (row.route routeId) ↔ ¬ Redirectable s (row.route routeId) := by
  obtain ⟨hdynamic, hresolved, -⟩ := routeSettings_fields hr
  obtain ⟨htopic, -⟩ := routeSettings_texts hr
  have hresolvedText : routeText row.config ∅ "resolved_topic" = r.resolvedTopic.text := by
    rw [hresolved]
    rfl
  have htopicText : routeText row.config ∅ "topic" = r.topic.text := by
    rw [htopic]
    rfl
  have hconfig : (row.route routeId).config = row.config := rfl
  rw [publishedTopic_resolvedRow hmac hsame routeId now fun _ _ h => (by cases h), publishedTopic,
    hconfig, routeTopic_publishTopic hwritten hr]
  cases hpublished : isPublished s (row.route routeId) with
  | false =>
    rw [if_neg Bool.false_ne_true, if_neg Bool.false_ne_true]
    exact iff_of_true rfl fun h => Bool.false_ne_true (hpublished.symm.trans h.published)
  | true =>
    rw [if_pos rfl, if_pos rfl, Option.some.injEq]
    by_cases hredirected : r.dynamicTopicEnabled = false ∧ r.resolvedTopic.text ≠ ""
    · obtain ⟨hflag, hgiven⟩ := hredirected
      have hnow : (r.answered now (.error e)).publishTopic = r.resolvedTopic := if_pos ⟨rfl, hgiven⟩
      have hthen : r.publishTopic = r.topic := if_neg (by simp [hflag])
      rw [hnow, hthen, ← hresolvedText, ← htopicText]
      refine ⟨fun heq h => h.differs heq, fun h => ?_⟩
      by_contra hne
      exact h ⟨hpublished, hdynamic.symm.trans hflag, hresolvedText ▸ hgiven, hne⟩
    · have hkept : (r.answered now (.error e)).publishTopic = r.publishTopic := by
        rw [RouteSettings.publishTopic, RouteSettings.publishTopic]
        refine if_congr ?_ rfl rfl
        cases hflag : r.dynamicTopicEnabled with
        | true => simp [RouteSettings.answered]
        | false =>
          have hblank : r.resolvedTopic.text = "" := by simpa [hflag] using hredirected
          simp [RouteSettings.answered, hblank]
      rw [hkept]
      refine iff_of_true rfl fun h => hredirected ⟨hdynamic.trans h.fixed, ?_⟩
      exact hresolvedText ▸ h.resolved

/-- A request that fails leaves a route with a MAC where it was published, unless the
route has its flag off and an earlier answer that names another topic. -/
theorem failedRequest_keeps_iff {allowed : Operation F → ConfigStore F → Prop} (h : Reachable allowed s)
    {routeId : Int} {row : OutputRouteRow F} (hrow : s.outputRoutes.get? routeId = some row)
    (hmac : macGiven row.config = true) {resolver : TopicResolver F}
    (hraises : ∀ macAddress mqttConfig, ∃ e, resolver macAddress mqttConfig = .error e)
    (now : String) :
    ∃ result t after, resolveOutputRouteTopic resolver now routeId s = (.ok result, t) ∧
      t.outputRoutes.get? routeId = some after ∧
      (publishedTopic t (after.route routeId) = publishedTopic s (row.route routeId) ↔
        ¬ Redirectable s (row.route routeId)) := by
  have hwritten := writtenConfig_of_reachable h routeId row hrow
  obtain ⟨r, hr⟩ := hwritten.readable.normal
  have hgiven := (macGiven_iff hr).mp hmac
  obtain ⟨result, t, hresolve, hsame, hroutes, -, -⟩ := resolveOutputRouteTopic_eq_ok
    (storedRows_of_reachable h) (storedRoutes_of_reachable h) resolver now hrow hr hgiven
  obtain ⟨e, he⟩ := hraises r.macAddress.text (s.getSinkConfig (some "mqtt")).config
  rw [resolveTopic, he, error_bind] at hroutes
  refine ⟨result, t, resolvedRow row r now (.error e), hresolve, ?_, ?_⟩
  · rw [hroutes, Table.get?_update, if_pos rfl, hrow]
    rfl
  · exact publishedTopic_failed hwritten hr hgiven hsame routeId now e

def requestedPayload : Settings WholeFloat :=
  .ofList [("dynamic_topic_enabled", .bool true), ("mac_address", .str "AA:BB")]

def requestedStore : ConfigStore WholeFloat :=
  (Operation.saveOutputRoute requestedPayload).run .initialized

def requestedRow : OutputRouteRow WholeFloat := ⟨none, "", "mqtt", true, requestedPayload⟩

theorem requestedStore_reachable : Reachable (fun _ _ => True) requestedStore :=
  .run _ .initialized trivial

theorem requestedStore_row : requestedStore.outputRoutes.get? 1 = some requestedRow := by
  decide +kernel

def timeoutResolver : TopicResolver WholeFloat :=
  fun _ _ => .error ⟨.other "TimeoutError", "topic response timeout"⟩

theorem requestedRoute_kept :
    ∃ result t after, resolveOutputRouteTopic timeoutResolver "noon" 1 requestedStore = (.ok result, t) ∧
      t.outputRoutes.get? 1 = some after ∧
      (publishedTopic t (after.route 1) = publishedTopic requestedStore (requestedRow.route 1) ↔
        ¬ Redirectable requestedStore (requestedRow.route 1)) :=
  failedRequest_keeps_iff requestedStore_reachable requestedStore_row (by decide +kernel)
    (fun _ _ => ⟨_, rfl⟩) "noon"

/-- The flag is off, and an earlier answer is kept. -/
def fixedPayload : Settings WholeFloat :=
  .ofList [("topic", .str "plant/line"), ("mac_address", .str "AA:BB"),
    ("resolved_topic", .str "C-S/press")]

def fixedStore : ConfigStore WholeFloat :=
  (Operation.saveOutputRoute fixedPayload).run .initialized

def fixedRow : OutputRouteRow WholeFloat := ⟨none, "", "mqtt", true, fixedPayload⟩

theorem fixedStore_row : fixedStore.outputRoutes.get? 1 = some fixedRow := by decide +kernel

/-- A request that times out sends the route to the topic of the earlier answer. -/
theorem fixedRoute_redirected :
    ¬ ∀ (s : ConfigStore WholeFloat) (routeId : Int) (row after : OutputRouteRow WholeFloat),
      Reachable (fun _ _ => True) s → s.outputRoutes.get? routeId = some row →
      macGiven row.config = true →
      (resolveOutputRouteTopic timeoutResolver "noon" routeId s).2.outputRoutes.get? routeId =
        some after →
      publishedTopic (resolveOutputRouteTopic timeoutResolver "noon" routeId s).2
        (after.route routeId) = publishedTopic s (row.route routeId) := by
  intro h
  have hbefore : publishedTopic fixedStore (fixedRow.route 1) = some "industrial/plant/line" := by
    decide +kernel
  have htopic : ((resolveOutputRouteTopic timeoutResolver "noon" 1 fixedStore).2.outputRoutes.get? 1).map
      (fun after => publishedTopic (resolveOutputRouteTopic timeoutResolver "noon" 1 fixedStore).2
        (after.route 1)) = some (some "C-S/press") := by
    decide +kernel
  obtain ⟨after, hafter, htopic⟩ := Option.map_eq_some_iff.mp htopic
  have hkept := h fixedStore 1 fixedRow after (.run _ .initialized trivial) fixedStore_row
    (by decide +kernel) hafter
  rw [htopic, hbefore] at hkept
  exact absurd (Option.some.inj hkept) (by decide)

-- ---------------------------------------------------------------------------
-- The loop over the routes
-- ---------------------------------------------------------------------------

/-- The path of an answer, without the slashes in front of it and the server's prefix. -/
def answeredPath (topic : String) : String :=
  let stripped := PyText.lstripChar '/' topic
  if PyText.startsWith "C-S/" stripped then String.ofList (stripped.toList.drop 4) else stripped

theorem receivedTopicPath_eq (topic : String) :
    receivedTopicPath topic = "C-S/" ++ answeredPath topic := by
  rw [receivedTopicPath, answeredPath]
  split
  · rename_i hprefix
    obtain ⟨rest, hrest⟩ := List.isPrefixOf_iff_prefix.mp hprefix
    have hdrop : ("C-S/".toList ++ rest).drop 4 = rest := List.drop_left' (by decide)
    rw [← hrest, hdrop, ← String.toList_inj, String.toList_append]
    exact hrest.symm.trans (congrArg _ String.toList_ofList.symm)
  · rfl

/-- A route that the loop resolves. -/
def isEligible (route : OutputRouteConfig F) : Bool :=
  route.enabled && route.sinkType = "mqtt" && csvBool (dynamicFlag route.config ∅) false &&
    macGiven route.config

/-- What the resolver answers for the MAC of a route. -/
def routeAnswer (resolver : TopicResolver F) (mqttConfig : Settings F) (route : OutputRouteConfig F) :
    Except PyException (String × Int) :=
  resolveTopic resolver (routeText route.config ∅ "mac_address") mqttConfig

theorem StoredRoutes.update (h : StoredRoutes s) {routeId : Int} {row : OutputRouteRow F}
    (hroutes : t.outputRoutes = s.outputRoutes.update routeId row) (hconfig : Readable row.config) :
    StoredRoutes t where
  readable id found hfound := by
    rw [hroutes, Table.get?_update] at hfound
    split at hfound
    · obtain ⟨old, -, rfl⟩ := Option.map_eq_some_iff.mp hfound
      exact hconfig
    · exact h.readable id found hfound
  routeIds := by
    rw [hroutes, Table.lastId_update]
    exact h.routeIds

section Rounds

variable (resolver : TopicResolver F) (now : Int → String)

/-- The row of a route after its request. -/
def RowAnswered (mqttConfig : Settings F) (id : Int) (row after : OutputRouteRow F) : Prop :=
  ∃ r : RouteSettings F, routeSettings row.config ∅ = .ok r ∧
    after = resolvedRow row r (now id) (routeAnswer resolver mqttConfig (row.route id))

/-- A result of the loop is the one of a route, with the outcome of its request. -/
def ResultOf (mqttConfig : Settings F) (route : OutputRouteConfig F) (result : ResolvedRoute F) : Prop :=
  result.route.id = route.id ∧ result.error = topicError (routeAnswer resolver mqttConfig route)

end Rounds

-- ---------------------------------------------------------------------------
-- The refresh
-- ---------------------------------------------------------------------------

/-- What a refresh keeps of an eligible route, what it stores of an answer, and that a
request that fails leaves the earlier answer and the topic. -/
structure RouteRefreshed (resolver : TopicResolver F) (s t : ConfigStore F)
    (route after : OutputRouteConfig F) : Prop where
  deviceId : after.deviceId = route.deviceId
  tagGroup : after.tagGroup = route.tagGroup
  sinkType : after.sinkType = route.sinkType
  enabled : after.enabled = route.enabled
  topic : after.config.get? "topic" = route.config.get? "topic"
  macAddress : after.config.get? "mac_address" = route.config.get? "mac_address"
  answered : ∀ topic sensorCount,
    routeAnswer resolver (s.getSinkConfig (some "mqtt")).config route = .ok (topic, sensorCount) →
    ∃ resolved, resolver (routeText route.config ∅ "mac_address")
        (s.getSinkConfig (some "mqtt")).config = .ok resolved ∧
      after.config.get? "resolved_topic" =
        some (.str ("C-S/" ++ answeredPath (valueOr (optional resolved "topic") (.str "")).text))
  failed : ∀ e, routeAnswer resolver (s.getSinkConfig (some "mqtt")).config route = .error e →
    routeText after.config ∅ "resolved_topic" = routeText route.config ∅ "resolved_topic" ∧
      after.config.get? "resolved_sensor_count" = route.config.get? "resolved_sensor_count" ∧
      publishedTopic t after = publishedTopic s route

theorem resolvedSensorCount_eq {config : Settings F} {r : RouteSettings F} (h : Readable config)
    (hr : routeSettings config ∅ = .ok r) :
    config.get? "resolved_sensor_count" = r.resolvedSensorCount.map .int := by
  obtain ⟨-, -, hcount⟩ := routeSettings_fields hr
  rw [ConfigService.optional] at hcount
  cases hget : config.get? "resolved_sensor_count" with
  | none =>
    rw [hget] at hcount
    rw [← Except.ok.inj hcount]
    rfl
  | some value =>
    obtain ⟨n, rfl⟩ := (h _ _ hget).count rfl
    rw [hget] at hcount
    rw [← Except.ok.inj hcount]
    rfl

theorem RowAnswered.refreshed {resolver : TopicResolver F} {now : Int → String} {id : Int}
    {row after : OutputRouteRow F} (hwritten : WrittenConfig row.config)
    (heligible : isEligible (row.route id) = true) (hsame : s.SameButRoutes t)
    (h : RowAnswered resolver now (s.getSinkConfig (some "mqtt")).config id row after) :
    RouteRefreshed resolver s t (row.route id) (after.route id) := by
  obtain ⟨r, hr, rfl⟩ := h
  simp only [isEligible, Bool.and_eq_true] at heligible
  have hmac : r.macAddress.text ≠ "" := (macGiven_iff hr).mp heligible.2
  have hedit : KeepsEdit (row.route id) row := ⟨rfl, rfl, rfl, rfl, rfl⟩
  have hkeeps := hedit.resolved hwritten.formed hr hmac (now id)
    (routeAnswer resolver (s.getSinkConfig (some "mqtt")).config (row.route id))
  refine ⟨rfl, rfl, rfl, rfl, hkeeps.topic, hkeeps.macAddress, fun topic sensorCount hanswer => ?_,
    fun e hanswer => ?_⟩
  · have hstored : (resolvedRow row r (now id) (.ok (topic, sensorCount))).config.get?
        "resolved_topic" = some (.str topic) := by
      rw [resolvedRow, OrderedDict.get?_update]
      rfl
    obtain ⟨resolved, hresolved, htopic⟩ := resolveTopic_eq_ok hanswer
    rw [htopic, receivedTopicPath_eq] at hstored
    rw [hanswer, htopic, receivedTopicPath_eq]
    exact ⟨resolved, hresolved, hstored⟩
  · have hcount : (resolvedRow row r (now id) (.error e)).config.get? "resolved_sensor_count" =
        r.toSettings.get? "resolved_sensor_count" := by
      rw [resolvedRow, OrderedDict.get?_update]
      rfl
    have hresolved : (resolvedRow row r (now id) (.error e)).config.get? "resolved_topic" =
        r.toSettings.get? "resolved_topic" := by
      rw [resolvedRow, OrderedDict.get?_update]
      rfl
    rw [hanswer]
    refine ⟨?_, ?_, ?_⟩
    · have htext := (strippedText_congr hresolved).trans
        (strippedText_of_config r.texts_toSettings.2.2.1)
      rw [(routeSettings_fields hr).2.1] at htext
      rw [← text_strippedText, ← text_strippedText]
      exact congrArg StrippedText.text htext
    · refine hcount.trans (r.flags_toSettings.2.2.trans ?_)
      exact (resolvedSensorCount_eq hwritten.readable hr).symm
    · refine (publishedTopic_failed hwritten hr hmac hsame id (now id) e).mpr fun h => ?_
      exact Bool.false_ne_true (h.fixed.symm.trans heligible.1.2)

end IndustrialGateway
