import IndustrialGateway.ConfigRuns
import IndustrialGateway.Lib.Marks
import IndustrialGateway.Lib.Runs
import IndustrialGateway.Outage
import IndustrialGateway.PublisherRules
import IndustrialGateway.RuntimeManager

/-!
# Runs of system heartbeats

The publisher remembers a heartbeat under the identity of its route object, and a
refresh puts new objects in the place of the old ones. So the interval of a
heartbeat holds as long as no refresh comes between, and after a refresh when it
has passed by then.
-/

namespace IndustrialGateway

open SinkPublisher Runs

variable {F : Type}

-- ---------------------------------------------------------------------------
-- Heartbeats
-- ---------------------------------------------------------------------------

/-- A heartbeat message, or a refresh of the routes. -/
inductive Beat where
  | sent (topic : String) (time : Datetime)
  | refreshed
  deriving DecidableEq

def Output.beat? (now : Datetime) : Output F → Option Beat
  | .sent ⟨.systemHeartbeat, _, message⟩ => some (.sent message.topic now)
  | _ => none

namespace OutputRoute

def Beats (route : OutputRoute F) : Prop := route.routeKind = "system_heartbeat" ∧ route.topic ≠ ""

instance (route : OutputRoute F) : Decidable route.Beats := inferInstanceAs (Decidable (_ ∧ _))

/-- The topic of its heartbeats. -/
def heartbeatTopic (route : OutputRoute F) : String := PyText.rstripChar '/' route.topic ++ "/status"

/-- The route without its identity. -/
def anonymous (route : OutputRoute F) : OutputRoute F := { route with objectId := 0 }

end OutputRoute

/-- The last heartbeat on the topic, and whether the routes were refreshed since. -/
def standing (topic : String) (beats : List Beat) : Option (Datetime × Bool) :=
  beats.foldl (fun last beat => match beat with
    | .sent topic' time => if topic' = topic then some (time, false) else last
    | .refreshed => last.map fun last => (last.1, true)) none

theorem standing_sent (topic topic' : String) (beats : List Beat) (time : Datetime) :
    standing topic (beats ++ [.sent topic' time]) =
      if topic' = topic then some (time, false) else standing topic beats := by
  rw [standing, List.foldl_append]
  rfl

theorem standing_refreshed (topic : String) (beats : List Beat) :
    standing topic (beats ++ [.refreshed]) = (standing topic beats).map fun last => (last.1, true) := by
  rw [standing, List.foldl_append]
  rfl

/-- What comes after the last heartbeat on a topic does not change its time. -/
theorem standing_between {topic : String} {earlier between : List Beat} {t : Datetime}
    (h : ∀ time, .sent topic time ∉ between) :
    ∃ b, standing topic (earlier ++ .sent topic t :: between) = some (t, b) := by
  induction between using List.reverseRecOn with
  | nil => exact ⟨false, by rw [standing_sent, if_pos rfl]⟩
  | append_singleton between beat ih =>
    obtain ⟨b, hb⟩ := ih fun time hmem => h time (List.mem_append_left _ hmem)
    rw [← List.cons_append, ← List.append_assoc]
    cases beat with
    | sent topic' time =>
      have hne : topic' ≠ topic := by
        rintro rfl
        exact h time (List.mem_append_right _ List.mem_cons_self)
      exact ⟨b, by rw [standing_sent, if_neg hne, hb]⟩
    | refreshed => exact ⟨true, by rw [standing_refreshed, hb]; rfl⟩

-- ---------------------------------------------------------------------------
-- Rebuilt routes
-- ---------------------------------------------------------------------------

section Rebuilt

variable [PyRuntime F]

/-- The routes of the store, whatever their identities. -/
structure RebuiltFrom (store : ConfigStore F) (routes : List (OutputRoute F)) : Prop where
  settings : ∃ built, outputRoutes store 0 = .ok built ∧
    routes.map OutputRoute.anonymous = built.map OutputRoute.anonymous
  distinct : (routes.map OutputRoute.objectId).Nodup

/-- The store's routes send heartbeats on different topics. -/
def OneHeartbeatPerTopic (store : ConfigStore F) : Prop :=
  ∀ built, outputRoutes store 0 = .ok built →
    ((built.filter fun route => route.Beats).map OutputRoute.heartbeatTopic).Nodup

theorem outputRoute_anonymous {sinkConfig : Settings F} {route : OutputRouteConfig F} {id : Nat}
    {output : OutputRoute F} (h : outputRoute sinkConfig route id = .ok output) (id' : Nat) :
    output.objectId = id ∧ ∃ output', outputRoute sinkConfig route id' = .ok output' ∧
      output.anonymous = output'.anonymous := by
  simp only [outputRoute, bind_eq_ok, pure, Except.pure, Except.ok.injEq] at h ⊢
  obtain ⟨qos, hqos, interval, hinterval, rfl⟩ := h
  exact ⟨rfl, _, ⟨qos, hqos, interval, hinterval, rfl⟩, rfl⟩

/-- The routes that are made of a list are the list as new objects. -/
theorem mapM_outputRoute (sinkConfig : Settings F) {configs : List (OutputRouteConfig F)} (id id' : Nat)
    {outputs : List (OutputRoute F)}
    (h : ((configs.zipIdx id).mapM fun (route, id) => outputRoute sinkConfig route id) = .ok outputs) :
    outputs.map OutputRoute.objectId = List.range' id configs.length ∧
      ∃ built, ((configs.zipIdx id').mapM fun (route, id) => outputRoute sinkConfig route id) = .ok built ∧
        outputs.map OutputRoute.anonymous = built.map OutputRoute.anonymous := by
  induction configs generalizing id id' outputs with
  | nil =>
    cases h
    exact ⟨rfl, [], rfl, rfl⟩
  | cons config configs ih =>
    rw [List.zipIdx_cons, List.mapM_cons] at h
    obtain ⟨output, houtput, h⟩ := bind_eq_ok.mp h
    obtain ⟨rest, hrest, h⟩ := bind_eq_ok.mp h
    cases h
    obtain ⟨hid, output', houtput', hsame⟩ := outputRoute_anonymous houtput id'
    obtain ⟨hids, built, hbuilt, hsames⟩ := ih (id + 1) (id' + 1) hrest
    refine ⟨?_, output' :: built, ?_, ?_⟩
    · rw [List.map_cons, hid, hids, List.length_cons, List.range'_succ]
    · rw [List.zipIdx_cons, List.mapM_cons]
      exact bind_eq_ok.mpr ⟨output', houtput', bind_eq_ok.mpr ⟨built, hbuilt, rfl⟩⟩
    · rw [List.map_cons, List.map_cons, hsame, hsames]

/-- The routes that `_output_routes` makes of a store are its routes as new objects. -/
theorem rebuiltFrom_outputRoutes {store : ConfigStore F} {firstId : Nat} {routes : List (OutputRoute F)}
    (h : outputRoutes store firstId = .ok routes) : RebuiltFrom store routes := by
  unfold outputRoutes at h
  dsimp only at h
  split at h
  · rename_i hsink
    cases h
    refine ⟨⟨[], ?_, rfl⟩, List.nodup_nil⟩
    rw [outputRoutes]
    exact if_pos hsink
  · rename_i hsink
    obtain ⟨hids, built, hbuilt, hsame⟩ := mapM_outputRoute _ firstId 0 h
    refine ⟨⟨built, ?_, hsame⟩, ?_⟩
    · rw [outputRoutes]
      exact (if_neg hsink).trans hbuilt
    · rw [hids]
      exact List.nodup_range'

variable {store : ConfigStore F} {routes : List (OutputRoute F)}

omit [PyRuntime F] in
/-- Heartbeats and their topics do not depend on the identity. -/
theorem heartbeatTopics_anonymous (routes : List (OutputRoute F)) :
    (routes.filter fun route => route.Beats).map OutputRoute.heartbeatTopic =
      ((routes.map OutputRoute.anonymous).filter fun route => route.Beats).map
        OutputRoute.heartbeatTopic := by
  rw [List.filter_map, List.map_map]
  rfl

/-- Each topic has one route object. -/
theorem RebuiltFrom.eq_of_topic (h : RebuiltFrom store routes) (hone : OneHeartbeatPerTopic store)
    {r r' : OutputRoute F} (hr : r ∈ routes) (hr' : r' ∈ routes) (hbeats : r.Beats) (hbeats' : r'.Beats)
    (htopic : r.heartbeatTopic = r'.heartbeatTopic) : r = r' := by
  obtain ⟨built, hbuilt, hsame⟩ := h.settings
  have hnodup := hone built hbuilt
  rw [heartbeatTopics_anonymous, ← hsame, ← heartbeatTopics_anonymous] at hnodup
  exact List.inj_on_of_nodup_map hnodup (List.mem_filter.mpr ⟨hr, decide_eq_true hbeats⟩)
    (List.mem_filter.mpr ⟨hr', decide_eq_true hbeats'⟩) htopic

/-- The store has a heartbeat route with this topic and interval. -/
def HasHeartbeat (store : ConfigStore F) (topic : String) (interval : F) : Prop :=
  ∃ built, outputRoutes store 0 = .ok built ∧ ∃ route ∈ built, route.Beats ∧
    route.heartbeatTopic = topic ∧ route.heartbeatIntervalS = interval

theorem RebuiltFrom.exists_route (h : RebuiltFrom store routes) {topic : String} {interval : F}
    (hstore : HasHeartbeat store topic interval) :
    ∃ route ∈ routes, route.Beats ∧ route.heartbeatTopic = topic ∧ route.heartbeatIntervalS = interval := by
  obtain ⟨built, hbuilt, hsame⟩ := h.settings
  obtain ⟨built', hbuilt', route, hroute, hbeats, rfl, rfl⟩ := hstore
  obtain rfl := Except.ok.inj (hbuilt.symm.trans hbuilt')
  have hmem := List.mem_map_of_mem (f := OutputRoute.anonymous) hroute
  rw [← hsame] at hmem
  obtain ⟨r, hr, hanonymous⟩ := List.mem_map.mp hmem
  have hfield {β : Type} (g : OutputRoute F → β) : g r.anonymous = g route.anonymous :=
    congrArg g hanonymous
  have hkind : r.routeKind = route.routeKind := hfield OutputRoute.routeKind
  have htopic : r.topic = route.topic := hfield OutputRoute.topic
  refine ⟨r, hr, ?_, hfield OutputRoute.heartbeatTopic, hfield OutputRoute.heartbeatIntervalS⟩
  rwa [OutputRoute.Beats, hkind, htopic]

end Rebuilt

-- ---------------------------------------------------------------------------
-- One call
-- ---------------------------------------------------------------------------

section Calls

variable [PyRuntime F] (cfg : PublisherConfig F)

/-- A heartbeat keeps the interval of its route since the last one on its topic. -/
def KeepsInterval (store : ConfigStore F) (earlier : List Beat) : Beat → Prop
  | .sent topic time => ∀ t b, standing topic earlier = some (t, b) → ∀ interval,
    HasHeartbeat store topic interval →
      PyRuntime.lt (PyRuntime.totalSeconds (time - t)) interval = false
  | .refreshed => True

/-- The publisher remembers each heartbeat that was sent since the last refresh. -/
def Remembers (p : SinkPublisher F) (beats : List Beat) : Prop :=
  ∀ route ∈ p.outputRoutes, route.Beats → ∀ t, standing route.heartbeatTopic beats = some (t, false) →
    p.heartbeatPublishedAt.get? route.objectId = some t

/-- The interval of each heartbeat that was sent before the last refresh has passed. -/
def Settled (p : SinkPublisher F) (beats : List Beat) (now : Datetime) : Prop :=
  ∀ route ∈ p.outputRoutes, route.Beats → ∀ t, standing route.heartbeatTopic beats = some (t, true) →
    PyRuntime.lt (PyRuntime.totalSeconds (now - t)) route.heartbeatIntervalS = false

/-- The routes are the store's, what the publisher remembers is right, and all heartbeats kept
their interval. -/
structure Beating (store : ConfigStore F) (beats : List Beat) (p : SinkPublisher F) : Prop where
  rebuilt : RebuiltFrom store p.outputRoutes
  remembers : Remembers p beats
  inOrder : List.Along (KeepsInterval store) [] beats

variable {store : ConfigStore F} {now : Datetime}

/-- The action sends no heartbeat and leaves routes and memory. -/
def Quiet (now : Datetime) (a : PublisherAct F) : Prop :=
  ∀ p, ((a.state p).outputRoutes = p.outputRoutes ∧
      (a.state p).heartbeatPublishedAt = p.heartbeatPublishedAt) ∧
    (a.events p).filterMap (Output.beat? now) = []

omit [PyRuntime F] in
theorem quiet_of_respects {a : PublisherAct F} (h : ∀ routes published, Act.Respects
    (fun p => p.outputRoutes = routes ∧ p.heartbeatPublishedAt = published)
    (fun o => o.beat? now = none) a) : Quiet now a := by
  intro p
  obtain ⟨hkeeps, hemits⟩ := h p.outputRoutes p.heartbeatPublishedAt
  exact ⟨hkeeps p ⟨rfl, rfl⟩, List.filterMap_eq_nil_iff.mpr (hemits p ⟨rfl, rfl⟩)⟩

omit [PyRuntime F] in
theorem rules_quiet (routes : List (OutputRoute F)) (published : OrderedDict Nat Datetime) :
    Rules cfg (fun _ => True) (fun p => p.outputRoutes = routes ∧ p.heartbeatPublishedAt = published)
      (fun o => o.beat? now = none) where
  setState _ _ _ hp := hp
  device _ _ _ _ := trivial
  text _ := rfl
  log _ := rfl
  update p _ device _ status error now o ho := by
    rw [emitRuntimeTagStatus, Act.events_look] at ho
    split at ho
    · cases ho
    · obtain ⟨tag, -, rfl⟩ := List.mem_map.mp ho
      rfl
  status _ _ _ _ _ _ _ _ := rfl
  measurement _ _ _ _ _ := rfl

theorem quiet_refreshStaleStatuses (sink : Sink F) (now : Datetime) : Quiet now (refreshStaleStatuses cfg sink now) :=
  quiet_of_respects fun _ _ => (rules_quiet cfg _ _).respects_refreshStaleStatuses sink now

omit [PyRuntime F] in
theorem quiet_publishSnapshots (sink : Sink F) (now : Datetime) :
    Quiet now (.look fun p => Act.forEach (publishSnapshot cfg sink now) p.latest.values) :=
  quiet_of_respects fun _ _ => (rules_quiet cfg _ _).respects_publishSnapshots sink now

theorem quiet_publishResult (sink : Sink F) (result : ReadResult F) (now : Datetime) :
    Quiet now (publishResult cfg sink result now) := by
  refine quiet_of_respects fun _ _ =>
    (rules_quiet cfg _ _).respects_publishResult sink trivial now (fun _ hp => hp) fun tag _ o ho => ?_
  rw [reportTag, List.mem_append, List.mem_singleton] at ho
  rcases ho with ho | rfl
  · split at ho
    · cases ho
    · obtain rfl := List.mem_singleton.mp ho
      rfl
  · rfl

omit [PyRuntime F] in
theorem Quiet.traces {a : PublisherAct F} (h : Quiet now a) {I : List Beat → SinkPublisher F → Prop}
    (hI : ∀ beats p q, q.outputRoutes = p.outputRoutes →
      q.heartbeatPublishedAt = p.heartbeatPublishedAt → I beats p → I beats q) :
    Act.Traces I (a.collect (Output.beat? now)) := by
  intro beats p hp
  obtain ⟨⟨hroutes, hpublished⟩, hnone⟩ := h p
  rw [Act.events_collect, hnone, List.append_nil]
  exact hI beats p _ hroutes hpublished hp

omit [PyRuntime F] in
theorem beats_publishMessage (sink : Sink F) (route : OutputRoute F) (deviceName : String) :
    (publishMessage cfg sink .systemHeartbeat route.sinkType (systemHeartbeatStatusMessage route now)
      deviceName).filterMap (Output.beat? now) = [.sent route.heartbeatTopic now] := by
  unfold publishMessage
  cases sink (systemHeartbeatStatusMessage route now) <;> rfl

/-- A heartbeat that is not too early keeps everything in order. -/
theorem Beating.beat {beats : List Beat} {p : SinkPublisher F} (h : Beating store beats p)
    (hone : OneHeartbeatPerTopic store) (hsettled : Settled p beats now) {route : OutputRoute F}
    (hroute : route ∈ p.outputRoutes) (hbeats : route.Beats) (htime : p.heartbeatTooEarly now route = false) :
    Beating store (beats ++ [.sent route.heartbeatTopic now]) (p.setHeartbeat route now) ∧
      Settled (p.setHeartbeat route now) (beats ++ [.sent route.heartbeatTopic now]) now := by
  have hothers {r : OutputRoute F} (hr : r ∈ p.outputRoutes) (hr' : r.Beats) (hne : r ≠ route) :
      standing r.heartbeatTopic (beats ++ [.sent route.heartbeatTopic now]) =
        standing r.heartbeatTopic beats := by
    refine (standing_sent _ _ _ _).trans (if_neg fun htopic => hne ?_)
    exact h.rebuilt.eq_of_topic hone hr hroute hr' hbeats htopic.symm
  refine ⟨⟨h.rebuilt, ?_, List.along_append.mpr ⟨h.inOrder, ?_, trivial⟩⟩, ?_⟩
  · intro r hr hr' t hstanding
    by_cases hsame : r = route
    · rw [hsame, standing_sent, if_pos rfl] at hstanding
      cases hstanding
      rw [hsame]
      exact OrderedDict.get?_set_self _ _ _
    · rw [hothers hr hr' hsame] at hstanding
      have hid : route.objectId ≠ r.objectId := fun hid =>
        hsame (List.inj_on_of_nodup_map h.rebuilt.distinct hr hroute hid.symm)
      exact (OrderedDict.get?_set_of_ne hid).trans (h.remembers r hr hr' t hstanding)
  · -- the only route of the topic is this one
    intro t b hstanding interval hstore
    obtain ⟨r, hr, hr', htopic, rfl⟩ := h.rebuilt.exists_route hstore
    obtain rfl := h.rebuilt.eq_of_topic hone hr hroute hr' hbeats htopic
    cases b with
    | true => exact hsettled r hr hr' t hstanding
    | false =>
      rw [heartbeatTooEarly, h.remembers r hr hr' t hstanding] at htime
      exact htime
  · intro r hr hr' t hstanding
    by_cases hsame : r = route
    · rw [hsame, standing_sent, if_pos rfl] at hstanding
      cases hstanding
    · rw [hothers hr hr' hsame] at hstanding
      exact hsettled r hr hr' t hstanding

/-- One round of the loop over the routes. -/
theorem traces_publishSystemHeartbeat (hone : OneHeartbeatPerTopic store) (sink : Sink F)
    {routes : List (OutputRoute F)} {route : OutputRoute F} (hroute : route ∈ routes) :
    Act.Traces (fun beats p => (Beating store beats p ∧ Settled p beats now) ∧ p.outputRoutes = routes)
      ((publishSystemHeartbeat cfg sink now route).collect (Output.beat? now)) := by
  rintro beats p ⟨⟨h, hsettled⟩, rfl⟩
  unfold publishSystemHeartbeat
  split
  · rw [Act.events_collect, Act.events_skip, List.filterMap_nil, List.append_nil]
    exact ⟨⟨h, hsettled⟩, rfl⟩
  · rename_i hbeats
    rw [not_or, not_not] at hbeats
    rw [Act.collect_look, Act.state_look, Act.events_look]
    split
    · rw [Act.events_collect, Act.events_skip, List.filterMap_nil, List.append_nil]
      exact ⟨⟨h, hsettled⟩, rfl⟩
    · rename_i htime
      rw [Act.events_collect, Act.events_seq, Act.events_modify, List.nil_append, Act.events_emitAll,
        beats_publishMessage]
      exact ⟨h.beat hone hsettled hroute hbeats (eq_false_of_ne_true htime), rfl⟩

end Calls

-- ---------------------------------------------------------------------------
-- Runs
-- ---------------------------------------------------------------------------

/-- A call of the publisher's loop, or the new routes of a refresh. -/
inductive HeartbeatStep (F : Type) where
  | call (c : Call F)
  | refresh (routes : List (OutputRoute F))

/-- The publisher with the heartbeats that it has sent. -/
structure HeartbeatRun (F : Type) where
  publisher : SinkPublisher F
  beats : List Beat

/-- The heartbeats on a topic of the store are at least its interval apart. -/
def Spaced [PyRuntime F] (store : ConfigStore F) (beats : List Beat) : Prop :=
  ∀ earlier topic t₁ between t₂ later,
    beats = earlier ++ .sent topic t₁ :: between ++ .sent topic t₂ :: later →
    (∀ t, .sent topic t ∉ between) → ∀ interval, HasHeartbeat store topic interval →
      PyRuntime.lt (PyRuntime.totalSeconds (t₂ - t₁)) interval = false

namespace HeartbeatRun

/-- The publisher as it starts. -/
def start (routes : List (OutputRoute F)) : HeartbeatRun F := ⟨fresh routes, []⟩

variable [PyRuntime F] (cfg : PublisherConfig F)

def step (run : HeartbeatRun F) : HeartbeatStep F → HeartbeatRun F
  | .call c => ⟨(call cfg c).state run.publisher,
    run.beats ++ ((call cfg c).events run.publisher).filterMap (Output.beat? c.time)⟩
  | .refresh routes => ⟨{ run.publisher with outputRoutes := routes }, run.beats ++ [.refreshed]⟩

/-- A refresh takes its routes from the unchanged store. -/
def Rebuilds (store : ConfigStore F) : HeartbeatStep F → Prop
  | .call _ => True
  | .refresh routes => RebuiltFrom store routes

/-- When the cache is published, each heartbeat that a refresh has replaced is due. -/
def RefreshesDue (run : HeartbeatRun F) : HeartbeatStep F → Prop
  | .call (.publishCached now _) => Settled run.publisher run.beats now
  | _ => True

theorem beating_call {store : ConfigStore F} (hone : OneHeartbeatPerTopic store) {run : HeartbeatRun F}
    (h : Beating store run.beats run.publisher) {c : Call F} (hdue : RefreshesDue run (.call c)) :
    Beating store (step cfg run (.call c)).beats (step cfg run (.call c)).publisher := by
  cases c with
  | publishOnce result now sink =>
    refine (quiet_publishResult cfg sink result now).traces
      (I := fun beats p => Beating store beats p) (fun beats p q hroutes hpublished hp => ?_) _ _ h
    exact ⟨hroutes ▸ hp.rebuilt, by rw [Remembers, hroutes, hpublished]; exact hp.remembers, hp.inOrder⟩
  | publishCached now sink =>
    have hquiet (routes : List (OutputRoute F)) (beats : List Beat) (p q : SinkPublisher F)
        (hroutes : q.outputRoutes = p.outputRoutes)
        (hpublished : q.heartbeatPublishedAt = p.heartbeatPublishedAt)
        (hp : (Beating store beats p ∧ Settled p beats now) ∧ p.outputRoutes = routes) :
        (Beating store beats q ∧ Settled q beats now) ∧ q.outputRoutes = routes := by
      obtain ⟨⟨⟨hrebuilt, hremembers, hinOrder⟩, hsettled⟩, rfl⟩ := hp
      refine ⟨⟨⟨hroutes ▸ hrebuilt, ?_, hinOrder⟩, ?_⟩, hroutes⟩
      · rw [Remembers, hroutes, hpublished]
        exact hremembers
      · rw [Settled, hroutes]
        exact hsettled
    have hloop (routes : List (OutputRoute F)) : Act.Traces
        (fun beats p => (Beating store beats p ∧ Settled p beats now) ∧ p.outputRoutes = routes)
        ((publishSystemHeartbeats cfg sink now).collect (Output.beat? now)) := by
      rintro beats p ⟨hp, rfl⟩
      rw [publishSystemHeartbeats, Act.collect_look, Act.state_look, Act.events_look, Act.collect_forEach]
      exact Act.Traces.forEach
        (fun route hroute => traces_publishSystemHeartbeat cfg hone sink hroute) beats p ⟨hp, rfl⟩
    have hcall := ((quiet_refreshStaleStatuses cfg sink now).traces (hquiet run.publisher.outputRoutes)).seq
      ((hloop _).seq ((quiet_publishSnapshots cfg sink now).traces (hquiet _)))
    rw [← Act.collect_seq, ← Act.collect_seq] at hcall
    exact (hcall run.beats run.publisher ⟨⟨h, hdue⟩, rfl⟩).1.1

/-- What a run of such steps keeps. -/
theorem beating_run {store : ConfigStore F} (hone : OneHeartbeatPerTopic store)
    {routes : List (OutputRoute F)} (hroutes : RebuiltFrom store routes) {run : HeartbeatRun F}
    (hrun : Reaches (step cfg) (fun run s => Rebuilds store s ∧ RefreshesDue run s) (start routes) run) :
    Beating store run.beats run.publisher := by
  let inv (run : HeartbeatRun F) : Prop := Beating store run.beats run.publisher
  have hstart : inv (start routes) := ⟨hroutes, fun _ _ _ _ h => (nomatch h), trivial⟩
  change inv run
  refine hrun.invariant hstart ?_
  rintro run (c | routes) h ⟨hrebuilds, hdue⟩
  · exact beating_call cfg hone h hdue
  · refine ⟨hrebuilds, fun route _ _ t ht => ?_, List.along_append.mpr ⟨h.inOrder, trivial, trivial⟩⟩
    -- after a refresh no heartbeat is newer than it
    simp only [step, standing_refreshed, Option.map_eq_some_iff, Prod.mk.injEq] at ht
    obtain ⟨_, -, -, hfalse⟩ := ht
    cases hfalse

end HeartbeatRun

/-- As long as every heartbeat is due that a refresh has replaced, the heartbeats on a topic
keep their interval. -/
theorem heartbeats_spaced (cfg : PublisherConfig F) [PyRuntime F] {store : ConfigStore F}
    (hone : OneHeartbeatPerTopic store) {routes : List (OutputRoute F)}
    (hroutes : RebuiltFrom store routes) {run : HeartbeatRun F}
    (hrun : Reaches (HeartbeatRun.step cfg)
      (fun run s => HeartbeatRun.Rebuilds store s ∧ HeartbeatRun.RefreshesDue run s)
      (.start routes) run) : Spaced store run.beats := by
  intro earlier topic t₁ between t₂ later hsplit hnone interval hstore
  have hinOrder := (HeartbeatRun.beating_run cfg hone hroutes hrun).inOrder
  rw [hsplit] at hinOrder
  obtain ⟨b, hstanding⟩ := @standing_between topic earlier between t₁ hnone
  exact hinOrder.at t₁ b hstanding interval hstore

/-- A store with one heartbeat route, every second. -/
def pulseStore : ConfigStore WholeFloat :=
  (Operation.saveOutputRoute (.ofList [("device_id", .str "system_heartbeat"), ("topic", .str "plant"),
    ("route_kind", .str "system_heartbeat"), ("heartbeat_interval_s", .int 1)])).run .initialized

def pulseRoute (objectId : Nat) : OutputRoute WholeFloat where
  objectId
  deviceId := none
  tagGroup := ""
  sinkType := "mqtt"
  mqttConfig := {}
  topic := "industrial/plant"
  routeKind := "system_heartbeat"
  heartbeatIntervalS := ⟨1⟩

theorem outputRoutes_pulseStore : outputRoutes pulseStore 0 = .ok [pulseRoute 0] := by
  decide +kernel

theorem pulseStore_one : OneHeartbeatPerTopic pulseStore := by
  intro built hbuilt
  obtain rfl := Except.ok.inj (outputRoutes_pulseStore.symm.trans hbuilt)
  decide

theorem pulseRoute_rebuilt (objectId : Nat) : RebuiltFrom pulseStore [pulseRoute objectId] :=
  ⟨⟨_, outputRoutes_pulseStore, rfl⟩, List.nodup_singleton _⟩

/-- The cache is published at the start, the routes are refreshed, and it is published again. -/
def refreshedBetween (again : Datetime) : List (HeartbeatStep WholeFloat) :=
  [.call (.publishCached 0 fun _ => none), .refresh [pulseRoute 1],
    .call (.publishCached again fun _ => none)]

theorem refreshedBetween_spaced : Spaced pulseStore
    ((refreshedBetween 2000000).foldl (HeartbeatRun.step defaultConfig) (.start [pulseRoute 0])).beats := by
  refine heartbeats_spaced defaultConfig pulseStore_one (pulseRoute_rebuilt 0)
    (Reaches.start.of_lets ⟨⟨trivial, fun _ _ _ _ h => (nomatch h)⟩, ⟨pulseRoute_rebuilt 1, trivial⟩,
      ⟨trivial, ?_⟩, trivial⟩)
  have hbeats : (((refreshedBetween 2000000).take 2).foldl (HeartbeatRun.step defaultConfig)
      (.start [pulseRoute 0])).beats = [.sent "industrial/plant/status" 0, .refreshed] := by
    decide +kernel
  intro route hroute _ t hstanding
  obtain rfl := List.mem_singleton.mp hroute
  have htime : standing "industrial/plant/status" [.sent "industrial/plant/status" 0, .refreshed] =
      some (t, true) := by
    rw [← hbeats]
    exact hstanding
  cases htime
  decide

/-- A refresh between two calls half a second apart sends the heartbeat a second time. -/
theorem heartbeat_repeated : ¬ ∀ (store : ConfigStore WholeFloat) (routes : List (OutputRoute WholeFloat))
    (steps : List (HeartbeatStep WholeFloat)), OneHeartbeatPerTopic store → RebuiltFrom store routes →
    (∀ s ∈ steps, HeartbeatRun.Rebuilds store s) →
    (∀ c, .call c ∈ steps → ∃ now sink, c = .publishCached now sink) →
    (steps.filterMap fun | .call c => some c.time | .refresh _ => none).Pairwise (· ≤ ·) →
    Spaced store (steps.foldl (HeartbeatRun.step defaultConfig) (.start routes)).beats := by
  intro h
  have hspaced := h pulseStore [pulseRoute 0] (refreshedBetween 500000) pulseStore_one
    (pulseRoute_rebuilt 0) ?_ ?_ (by decide)
  · have hbeats : ((refreshedBetween 500000).foldl (HeartbeatRun.step defaultConfig)
        (.start [pulseRoute 0])).beats = [] ++ .sent "industrial/plant/status" 0 :: [.refreshed] ++
          .sent "industrial/plant/status" 500000 :: [] := by
      decide +kernel
    have hlate := hspaced _ _ _ _ _ _ hbeats (by simp) ⟨1⟩
      ⟨_, outputRoutes_pulseStore, _, List.mem_cons_self, by decide, by decide, rfl⟩
    exact absurd hlate (by decide)
  · intro s hs
    simp only [refreshedBetween, List.mem_cons, List.not_mem_nil, or_false] at hs
    rcases hs with rfl | rfl | rfl
    · trivial
    · exact pulseRoute_rebuilt 1
    · trivial
  · intro c hc
    simp only [refreshedBetween, List.mem_cons, HeartbeatStep.call.injEq, List.not_mem_nil, or_false,
      reduceCtorEq, false_or] at hc
    rcases hc with rfl | rfl <;> exact ⟨_, _, rfl⟩

end IndustrialGateway
