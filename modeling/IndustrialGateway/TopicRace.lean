import IndustrialGateway.Lib.WholeFloat
import IndustrialGateway.TopicTasks

/-!
# Requests against edits

A request or a refresh of the topics runs against one user's edit of a route, in
any order of their store calls. The edit stays when it is not written while the
route is held: between the read of the route and the write of its row.
-/

namespace IndustrialGateway

open ConfigStore ConfigService Fallible

variable {F : Type} [PyRuntime F] {s t : ConfigStore F}

-- ---------------------------------------------------------------------------
-- Races
-- ---------------------------------------------------------------------------

structure Race (F : Type) where
  task : Task F
  edit : EditTask F
  store : ConfigStore F

namespace Race

def stepTask (resolver : TopicResolver F) (now : Int → String) (race : Race F) : Race F :=
  let after := race.task.step resolver now race.store
  { race with task := after.1, store := after.2 }

def stepEdit (race : Race F) : Race F :=
  match race.edit.step race.store with
  | (.ok edit, t) => { race with edit, store := t }
  | (.error e, t) => { race with edit := .raised e, store := t }

/-- A step of either side; the edit moves only in races that `clear` allows. -/
inductive Step (resolver : TopicResolver F) (now : Int → String) (clear : Race F → Prop) :
    Race F → Race F → Prop
  | task (race : Race F) : Step resolver now clear race (race.stepTask resolver now)
  | edit (race : Race F) (h : clear race) : Step resolver now clear race race.stepEdit

end Race

def Task.finished : Task F → Bool
  | .returned _ | .raised _ => true
  | _ => false

def EditTask.finished : EditTask F → Bool
  | .saved _ | .deleted | .raised _ => true
  | _ => false

/-- A row that has what the edit wrote. -/
structure KeepsEdit (route : OutputRouteConfig F) (row : OutputRouteRow F) : Prop where
  deviceId : row.deviceId = route.deviceId
  tagGroup : row.tagGroup = route.tagGroup
  enabled : row.enabled = route.enabled
  topic : row.config.get? "topic" = route.config.get? "topic"
  macAddress : row.config.get? "mac_address" = route.config.get? "mac_address"

/-- A refresh has not raised, a saved route is as the user saved it and a deleted
one is away. -/
structure Race.Kept (refreshes : Bool) (race : Race F) (routeId : Int) : Prop where
  task : refreshes → ∀ e, race.task ≠ .raised e
  saved : ∀ route, race.edit = .answering routeId route ∨ race.edit = .saved route →
    ∃ row, race.store.outputRoutes.get? routeId = some row ∧ KeepsEdit route row
  deleted : race.edit = .deleted → race.store.outputRoutes.get? routeId = none

-- ---------------------------------------------------------------------------
-- The condition
-- ---------------------------------------------------------------------------

def macGiven (config : Settings F) : Bool := routeText config ∅ "mac_address" ≠ ""

/-- The request has read the route and has not written it yet. -/
def Request.Holds (routeId : Int) : Request F → Prop
  | .listing _ | .answering _ _ => False
  | .readingSink i .. | .asking i .. | .saving i .. => i = routeId

/-- The routes that the loop is still to resolve. -/
def dueIds (rest : List (OutputRouteConfig F)) : List Int :=
  (rest.filter fun route => (isDynamic route).toOption = some true).map fun route => route.id.getD 0

namespace Task

def Holds (routeId : Int) : Task F → Prop
  | .resolving request _ _ => request.Holds routeId
  | _ => False

/-- The route is still to be read. -/
def Due (routeId : Int) : Task F → Prop
  | .resolving (.listing i) rest _ => i = routeId ∨ routeId ∈ dueIds rest
  | .resolving _ rest _ => routeId ∈ dueIds rest
  | _ => False

/-- The route is still to be read, held or to be read back. -/
def Uses (routeId : Int) : Task F → Prop
  | .resolving request rest _ => request.routeId = routeId ∨ routeId ∈ dueIds rest
  | _ => False

end Task

/-- A saved route is not held. In a refresh it also has a MAC if it is due, and a
deleted route is not in use. -/
def Race.Clear (refreshes : Bool) (race : Race F) : Prop :=
  match race.edit with
  | .saving route => ∀ routeId, route.id = some routeId → ¬ race.task.Holds routeId ∧
    (refreshes → race.task.Due routeId → macGiven route.config = true)
  | .deleting routeId => refreshes → ¬ race.task.Uses routeId
  | _ => True

instance (routeId : Int) (request : Request F) : Decidable (request.Holds routeId) :=
  match request with
  | .listing _ | .answering _ _ => .isFalse id
  | .readingSink i .. | .asking i .. | .saving i .. => inferInstanceAs (Decidable (i = routeId))

instance (routeId : Int) (task : Task F) : Decidable (task.Holds routeId) :=
  match task with
  | .resolving request _ _ => inferInstanceAs (Decidable (request.Holds routeId))
  | .listing | .returned _ | .raised _ => .isFalse id

instance (routeId : Int) (task : Task F) : Decidable (task.Due routeId) :=
  match task with
  | .resolving (.listing i) rest _ => inferInstanceAs (Decidable (i = routeId ∨ routeId ∈ dueIds rest))
  | .resolving (.readingSink ..) rest _ | .resolving (.asking ..) rest _
  | .resolving (.saving ..) rest _ | .resolving (.answering ..) rest _ =>
    inferInstanceAs (Decidable (routeId ∈ dueIds rest))
  | .listing | .returned _ | .raised _ => .isFalse id

instance (routeId : Int) (task : Task F) : Decidable (task.Uses routeId) :=
  match task with
  | .resolving request rest _ =>
    inferInstanceAs (Decidable (request.routeId = routeId ∨ routeId ∈ dueIds rest))
  | .listing | .returned _ | .raised _ => .isFalse id

instance (refreshes : Bool) (race : Race F) : Decidable (race.Clear refreshes) :=
  match race with
  | ⟨task, .saving route, _⟩ => inferInstanceAs (Decidable (∀ routeId ∈ route.id,
      ¬ task.Holds routeId ∧ (refreshes → task.Due routeId → macGiven route.config = true)))
  | ⟨task, .deleting routeId, _⟩ => inferInstanceAs (Decidable (refreshes → ¬ task.Uses routeId))
  | ⟨_, .checking _, _⟩ | ⟨_, .answering _ _, _⟩ | ⟨_, .saved _, _⟩ | ⟨_, .deleted, _⟩
  | ⟨_, .raised _, _⟩ => .isTrue trivial

-- ---------------------------------------------------------------------------
-- What both sides rely on
-- ---------------------------------------------------------------------------

theorem macGiven_iff {config : Settings F} {r : RouteSettings F}
    (h : routeSettings config ∅ = .ok r) : macGiven config = true ↔ r.macAddress.text ≠ "" := by
  rw [(routeSettings_texts h).2, macGiven, decide_eq_true_eq]
  rfl

/-- A request writes a row that keeps the edit. -/
theorem KeepsEdit.resolved {route : OutputRouteConfig F} {row : OutputRouteRow F}
    (h : KeepsEdit route row) (hformed : Formed route.config) {r : RouteSettings F}
    (hr : routeSettings row.config ∅ = .ok r) (hmac : r.macAddress.text ≠ "") (now : String)
    (answer : Except PyException (String × Int)) : KeepsEdit route (resolvedRow row r now answer) := by
  obtain ⟨htopicText, hmacText⟩ := routeSettings_texts hr
  obtain ⟨htopic, -⟩ := r.texts_toSettings
  refine ⟨h.deviceId, h.tagGroup, h.enabled, ?_, ?_⟩
  · have hkeeps : (resolvedRow row r now answer).config.get? "topic" = r.toSettings.get? "topic" := by
      rw [resolvedRow, OrderedDict.get?_update]
      rcases answer with e | ⟨topic, sensorCount⟩ <;> rfl
    rw [hkeeps, htopic, htopicText, strippedText_congr h.topic, ← hformed.topic]
  · have hwritten : (resolvedRow row r now answer).config.get? "mac_address" =
        some (.str r.macAddress.text) := by
      rw [resolvedRow, OrderedDict.get?_update]
      rcases answer with e | ⟨topic, sensorCount⟩ <;> rfl
    rw [hwritten, hformed.macAddress, ← strippedText_congr h.macAddress, ← hmacText, textField,
      if_neg hmac]

theorem macGiven_resolvedRow {row : OutputRouteRow F} {r : RouteSettings F}
    (hmac : r.macAddress.text ≠ "") (now : String) (answer : Except PyException (String × Int)) :
    macGiven (resolvedRow row r now answer).config = true := by
  have hwritten : (resolvedRow row r now answer).config.get? "mac_address" =
      textField r.macAddress := by
    rw [textField, if_neg hmac, resolvedRow, OrderedDict.get?_update]
    rcases answer with e | ⟨topic, sensorCount⟩ <;> rfl
  have htext := congrArg StrippedText.text (strippedText_of_config hwritten)
  rw [macGiven, decide_eq_true_eq, ne_eq]
  intro hblank
  exact hmac (htext.symm.trans hblank)

-- ---------------------------------------------------------------------------
-- Soundness
-- ---------------------------------------------------------------------------

/-- The route can be resolved. -/
def Resolvable (s : ConfigStore F) (routeId : Int) : Prop :=
  ∃ row, s.outputRoutes.get? routeId = some row ∧ macGiven row.config = true

/-- What a request has read is what the store still holds. -/
def Held (s : ConfigStore F) (routeId : Int) (route : OutputRouteConfig F) (config : Settings F)
    (macAddress : String) : Prop :=
  ∃ row r, s.outputRoutes.get? routeId = some row ∧ route = row.route routeId ∧
    routeSettings row.config ∅ = .ok r ∧ config = r.toSettings ∧ macAddress = r.macAddress.text ∧
    macAddress ≠ ""

/-- The route that a request has read was deleted. -/
def Away (s : ConfigStore F) (routeId : Int) (route : OutputRouteConfig F) : Prop :=
  route.id = some routeId ∧ s.outputRoutes.get? routeId = none

/-- A lone request may find that its route is away. -/
def Request.Sound (refreshes : Bool) (s : ConfigStore F) : Request F → Prop
  | .listing routeId => refreshes → Resolvable s routeId
  | .readingSink routeId route config macAddress
  | .asking routeId route config macAddress _
  | .saving routeId route config macAddress _ =>
    Held s routeId route config macAddress ∨ (¬ refreshes ∧ Away s routeId route)
  | .answering routeId _ => refreshes → (s.outputRoutes.get? routeId).isSome

/-- The loop will find every route that is due. -/
structure Pending (s : ConfigStore F) (rest : List (OutputRouteConfig F)) : Prop where
  readable : ∀ route ∈ rest, Readable route.config
  due : ∀ routeId ∈ dueIds rest, Resolvable s routeId

def Task.Sound (refreshes : Bool) (s : ConfigStore F) : Task F → Prop
  | .listing | .returned _ => True
  | .resolving request rest _ => request.Sound refreshes s ∧ (refreshes → Pending s rest)
  | .raised _ => ¬ refreshes

def EditTask.Sound (s : ConfigStore F) (routeId : Int) : EditTask F → Prop
  | .checking payload =>
    optionalInt (optional payload "id") = .ok (some routeId) ∧ (s.outputRoutes.get? routeId).isSome
  | .saving route => route.id = some routeId ∧ Readable route.config ∧ Formed route.config ∧
    (∀ deviceId, route.deviceId = some deviceId → (s.devices.get? deviceId).isSome) ∧
    (s.outputRoutes.get? routeId).isSome
  | .deleting i => i = routeId
  | .answering i route => i = routeId ∧ Formed route.config ∧
    ∃ row, s.outputRoutes.get? routeId = some row ∧ KeepsEdit route row
  | .saved route => Formed route.config ∧
    ∃ row, s.outputRoutes.get? routeId = some row ∧ KeepsEdit route row
  | .deleted => s.outputRoutes.get? routeId = none
  | .raised _ => True

structure Race.Sound (refreshes : Bool) (race : Race F) (routeId : Int) : Prop where
  rows : StoredRows race.store
  routes : StoredRoutes race.store
  task : race.task.Sound refreshes race.store
  edit : race.edit.Sound race.store routeId

-- ---------------------------------------------------------------------------
-- Steps of the task
-- ---------------------------------------------------------------------------

theorem isDynamic_of_readable {route : OutputRouteConfig F} (h : Readable route.config) :
    ∃ r : RouteSettings F, routeSettings route.config ∅ = .ok r ∧
      isDynamic route = .ok (route.enabled && route.sinkType = "mqtt" &&
        r.dynamicTopicEnabled && r.macAddress.text ≠ "") := by
  obtain ⟨r, hr⟩ := h.normal
  have hnormal : routeConfig (.ofList [("config", .dict route.config.entries)]) =
      .ok r.toSettings := (normalConfig_eq route.config).trans (congrArg _ hr)
  obtain ⟨-, hmac, -⟩ := r.texts_toSettings
  obtain ⟨hdynamic, -⟩ := r.flags_toSettings
  have hdynamicFlag : (ConfigService.optional r.toSettings "dynamic_topic_enabled").truthy =
      r.dynamicTopicEnabled := by
    rw [ConfigService.optional, hdynamic]
    cases r.dynamicTopicEnabled <;> rfl
  have hmacFlag : (ConfigService.optional r.toSettings "mac_address").truthy =
      decide (r.macAddress.text ≠ "") := by
    rw [ConfigService.optional, hmac, textField]
    split
    · rename_i hblank
      simp [hblank, PyValue.truthy]
    · rfl
  exact ⟨r, hr, by rw [isDynamic, hnormal, ok_bind, hdynamicFlag, hmacFlag]; rfl⟩

theorem Pending.tail {route : OutputRouteConfig F} {rest : List (OutputRouteConfig F)}
    (h : Pending s (route :: rest)) : Pending s rest where
  readable other hother := h.readable other (List.mem_cons_of_mem _ hother)
  due routeId hdue := h.due routeId (by
    rw [dueIds, List.filter_cons]
    split
    · exact List.mem_cons_of_mem _ hdue
    · exact hdue)

theorem Task.sound_next {refreshes : Bool} {rest : List (OutputRouteConfig F)}
    (h : refreshes → Pending s rest) (results : List (ResolvedRoute F)) :
    (Task.next rest results).Sound refreshes s := by
  induction rest with
  | nil => trivial
  | cons route rest ih =>
    rw [Task.next]
    split
    · rename_i e hdue
      intro hrefreshes
      obtain ⟨r, -, hflags⟩ :=
        isDynamic_of_readable ((h hrefreshes).readable route List.mem_cons_self)
      cases hdue.symm.trans hflags
    · exact ih fun hrefreshes => (h hrefreshes).tail
    · rename_i hdue
      refine ⟨fun hrefreshes => (h hrefreshes).due _ ?_, fun hrefreshes => (h hrefreshes).tail⟩
      rw [dueIds, List.filter_cons, if_pos (by rw [hdue]; rfl)]
      exact List.mem_cons_self

theorem pending_listOutputRoutes (h : StoredRoutes s) : Pending s s.listOutputRoutes where
  readable route hroute := by
    obtain ⟨id, row, hrow, rfl⟩ := mem_listOutputRoutes.mp hroute
    exact h.readable id row hrow
  due routeId hdue := by
    obtain ⟨route, hroute, rfl⟩ := List.mem_map.mp hdue
    obtain ⟨hroute, hdynamic⟩ := List.mem_filter.mp hroute
    obtain ⟨id, row, hrow, rfl⟩ := mem_listOutputRoutes.mp hroute
    have hread : Readable (row.route id).config := h.readable id row hrow
    obtain ⟨r, hr, hflags⟩ := isDynamic_of_readable hread
    refine ⟨row, hrow, (macGiven_iff hr).mpr ?_⟩
    rw [hflags, decide_eq_true_eq] at hdynamic
    have hdynamic := Option.some.inj hdynamic
    simp only [Bool.and_eq_true, decide_eq_true_eq] at hdynamic
    exact hdynamic.2

omit [PyRuntime F] in
/-- A save of a route that is away leaves the store as it is. -/
theorem saveOutputRoute_away {route : OutputRouteConfig F} {routeId : Int}
    (hid : route.id = some routeId) (h : s.outputRoutes.get? routeId = none)
    {outcome : Except PyException Int} (hsave : ConfigStore.saveOutputRoute route s = (outcome, t)) :
    t = s := by
  cases outcome with
  | error e => exact Atomic.commit _ s e t hsave
  | ok id =>
    obtain ⟨row, -, ⟨hnew, -⟩ | ⟨hold, -, hwrite⟩⟩ := saveOutputRoute_rows.mp hsave
    · cases hid.symm.trans hnew
    · cases hid.symm.trans hold
      obtain ⟨-, hsame, hroutes⟩ := updateRoute_eq_ok.mp hwrite
      rw [Table.update_of_get?_eq_none h] at hroutes
      exact hsame.ext ⟨rfl, rfl, rfl, rfl, rfl⟩ hroutes

namespace Request

variable (resolver : TopicResolver F) (now : Int → String) {routeId : Int}
  {route : OutputRouteConfig F} {config : Settings F} {macAddress : String}

variable (routeId) in
/-- A request reads its route when the route is there and has a MAC. -/
theorem step_listing (hroutes : StoredRoutes s) :
    (∃ route config macAddress, (listing routeId).step resolver now s =
      (.ok (.inl (readingSink routeId route config macAddress)), s) ∧
        Held s routeId route config macAddress) ∨
    ∃ e, (listing routeId).step resolver now s = (.error e, s) ∧ ¬ Resolvable s routeId := by
  cases hrow : s.outputRoutes.get? routeId with
  | none =>
    refine .inr ⟨⟨.keyError, "'route not found: " ++ PyText.textOfInt routeId ++ "'"⟩, ?_, ?_⟩
    · rw [step, read_bind, routeByRequiredId_eq, hrow]
      rfl
    · rintro ⟨row, hfound, -⟩
      cases hrow.symm.trans hfound
  | some row =>
    obtain ⟨r, hr⟩ := (hroutes.readable routeId row hrow).normal
    have hnormal : routeConfig (.ofList [("config", .dict (row.route routeId).config.entries)]) =
        .ok r.toSettings := (normalConfig_eq row.config).trans (congrArg _ hr)
    by_cases hmac : r.macAddress.text = ""
    · refine .inr ⟨⟨.valueError, "route mac_address is required"⟩, ?_, ?_⟩
      · rw [step, read_bind, routeByRequiredId_eq, hrow, lift_ok_bind, hnormal, lift_ok_bind,
          macAddress_toSettings, raiseUnless, if_neg (by simp [hmac])]
        rfl
      · rintro ⟨found, hfound, hgiven⟩
        cases hrow.symm.trans hfound
        exact (macGiven_iff hr).mp hgiven hmac
    · refine .inl ⟨_, _, _, ?_, row, r, hrow, rfl, hr, rfl, rfl, hmac⟩
      rw [step, read_bind, routeByRequiredId_eq, hrow, lift_ok_bind, hnormal, lift_ok_bind,
        macAddress_toSettings, raiseUnless, if_pos (decide_eq_true hmac), lift_ok_bind]
      rfl

theorem step_saving (hrows : StoredRows s) (hroutes : StoredRoutes s)
    (answer : Except PyException (String × Int)) (h : Held s routeId route config macAddress) :
    ∃ row r t, (saving routeId route config macAddress answer).step resolver now s =
        (.ok (.inl (answering routeId answer)), t) ∧
      s.outputRoutes.get? routeId = some row ∧ routeSettings row.config ∅ = .ok r ∧
      r.macAddress.text ≠ "" ∧ SameButRoutes s t ∧ StoredRoutes t ∧
      t.outputRoutes = s.outputRoutes.update routeId (resolvedRow row r (now routeId) answer) := by
  obtain ⟨row, r, hrow, rfl, hr, rfl, rfl, hmac⟩ := h
  have hconfig := readable_resolvedRow row r (now routeId) answer
  have hbound := sqlInteger_of_isSome hroutes.routeIds (Option.isSome_iff_exists.mpr ⟨row, hrow⟩)
  obtain ⟨t, hsave, hsame, hupdate⟩ := saveOutputRoute_update hrows
    (show ((resolvedRow row r (now routeId) answer).route routeId).id = some routeId from rfl) hbound
    hconfig fun deviceId => s.routeDevice routeId row deviceId hrow
  exact ⟨row, r, t, Fallible.bind_eq_ok.mpr ⟨routeId, t, hsave, rfl⟩, hrow, hr, hmac, hsame,
    hroutes.saveRoute hconfig hsave, hupdate⟩

/-- A request that finds its route away writes nothing. -/
theorem step_saving_away (config : Settings F) (macAddress : String)
    (answer : Except PyException (String × Int)) (hid : route.id = some routeId)
    (h : s.outputRoutes.get? routeId = none) :
    (saving routeId route config macAddress answer).step resolver now s =
        (.ok (.inl (answering routeId answer)), s) ∨
      ∃ e, (saving routeId route config macAddress answer).step resolver now s = (.error e, s) := by
  rw [step, bind_apply]
  let written := { route with config := config.update (topicSettings macAddress (now routeId) answer) }
  have hwritten : written.id = some routeId := hid
  rcases hsave : ConfigStore.saveOutputRoute written s with ⟨e | id, t⟩
  · cases saveOutputRoute_away hwritten h hsave
    exact .inr ⟨e, rfl⟩
  · cases saveOutputRoute_away hwritten h hsave
    exact .inl rfl

variable (routeId) in
/-- A request reads its route again when the route is there. -/
theorem step_answering (hroutes : StoredRoutes s) (answer : Except PyException (String × Int)) :
    (∃ result, (answering routeId answer).step resolver now s = (.ok (.inr result), s)) ∨
    ∃ e, (answering routeId answer).step resolver now s = (.error e, s) ∧
      s.outputRoutes.get? routeId = none := by
  cases hrow : s.outputRoutes.get? routeId with
  | none =>
    refine .inr ⟨⟨.other "StopIteration", ""⟩, ?_, rfl⟩
    rw [step, bind_apply, nextOutputRoute_eq_error hroutes hrow]
  | some row =>
    obtain ⟨r, -, hnext⟩ := nextOutputRoute_eq_ok hroutes hrow
    exact .inl ⟨_, Fallible.bind_eq_ok.mpr ⟨_, s, hnext, rfl⟩⟩

end Request

-- ---------------------------------------------------------------------------
-- Writes of one route
-- ---------------------------------------------------------------------------

section Write

variable {routeId : Int}

/-- A write of one route keeps what is known of the others, and of itself when the
new row has a MAC. -/
theorem Resolvable.update {i : Int} {row : OutputRouteRow F} (h : Resolvable s i)
    (hroutes : t.outputRoutes = s.outputRoutes.update routeId row)
    (hrow : i = routeId → macGiven row.config = true) : Resolvable t i := by
  obtain ⟨old, hold, hgiven⟩ := h
  rw [Resolvable, hroutes]
  by_cases hi : routeId = i
  · exact ⟨row, by rw [Table.get?_update, if_pos hi, hold]; rfl, hrow hi.symm⟩
  · exact ⟨old, by rw [Table.get?_update, if_neg hi, hold], hgiven⟩

theorem Pending.update {rest : List (OutputRouteConfig F)} {row : OutputRouteRow F}
    (h : Pending s rest) (hroutes : t.outputRoutes = s.outputRoutes.update routeId row)
    (hrow : routeId ∈ dueIds rest → macGiven row.config = true) : Pending t rest where
  readable := h.readable
  due i hi := (h.due i hi).update hroutes fun heq => hrow (heq ▸ hi)

theorem Held.update {i : Int} {route : OutputRouteConfig F} {config : Settings F}
    {macAddress : String} {row : OutputRouteRow F} (h : Held s i route config macAddress)
    (hroutes : t.outputRoutes = s.outputRoutes.update routeId row) (hne : routeId ≠ i) :
    Held t i route config macAddress := by
  obtain ⟨old, r, hold, hheld⟩ := h
  refine ⟨old, r, ?_, hheld⟩
  rw [hroutes, Table.get?_update, if_neg hne, hold]

/-- A request that writes its row keeps what the edit relies on. -/
theorem EditTask.Sound.resolved {edit : EditTask F} (h : edit.Sound s routeId) {i : Int}
    {row : OutputRouteRow F} {r : RouteSettings F} {now : String}
    {answer : Except PyException (String × Int)} (hsame : SameButRoutes s t)
    (hroutes : t.outputRoutes = s.outputRoutes.update i (resolvedRow row r now answer))
    (hrow : s.outputRoutes.get? i = some row) (hr : routeSettings row.config ∅ = .ok r)
    (hmac : r.macAddress.text ≠ "") : edit.Sound t routeId := by
  have hsome : (s.outputRoutes.get? routeId).isSome → (t.outputRoutes.get? routeId).isSome := by
    rw [hroutes, Table.isSome_get?_update]
    exact id
  have hkeeps : ∀ route : OutputRouteConfig F, Formed route.config →
      (∃ row, s.outputRoutes.get? routeId = some row ∧ KeepsEdit route row) →
      ∃ row, t.outputRoutes.get? routeId = some row ∧ KeepsEdit route row := by
    rintro route hformed ⟨old, hold, hkept⟩
    rw [hroutes, Table.get?_update]
    by_cases hi : i = routeId
    · cases hi
      cases hrow.symm.trans hold
      exact ⟨_, by rw [if_pos rfl, hold]; rfl, hkept.resolved hformed hr hmac _ _⟩
    · exact ⟨old, by rw [if_neg hi, hold], hkept⟩
  cases edit with
  | checking payload => exact ⟨h.1, hsome h.2⟩
  | saving route =>
    obtain ⟨hid, hread, hformed, hdevice, hrow⟩ := h
    exact ⟨hid, hread, hformed, hsame.devices ▸ hdevice, hsome hrow⟩
  | deleting i => exact h
  | answering i route => exact ⟨h.1, h.2.1, hkeeps route h.2.1 h.2.2⟩
  | saved route => exact ⟨h.1, hkeeps route h.1 h.2⟩
  | deleted =>
    have hnone : s.outputRoutes.get? routeId = none := h
    have hi : i ≠ routeId := fun hi => by
      rw [hi, hnone] at hrow
      cases hrow
    show t.outputRoutes.get? routeId = none
    rw [hroutes, Table.get?_update, if_neg hi, hnone]
  | raised e => trivial

end Write

variable {resolver : TopicResolver F} {now : Int → String} {race : Race F} {routeId : Int}
  {refreshes : Bool}

theorem Race.sound_stepTask (h : race.Sound refreshes routeId) :
    (race.stepTask resolver now).Sound refreshes routeId := by
  obtain ⟨task, edit, s⟩ := race
  obtain ⟨hrows, hroutes, htask, hedit⟩ := h
  cases task with
  | listing =>
    exact ⟨hrows, hroutes, Task.sound_next (fun _ => pending_listOutputRoutes hroutes) [], hedit⟩
  | returned results => exact ⟨hrows, hroutes, htask, hedit⟩
  | raised e => exact ⟨hrows, hroutes, htask, hedit⟩
  | resolving request rest results =>
    obtain ⟨hrequest, hpending⟩ := htask
    rw [stepTask, Task.step]
    cases request with
    | listing i =>
      rcases Request.step_listing resolver now i hroutes with
        ⟨route, config, macAddress, hstep, hheld⟩ | ⟨e, hstep, haway⟩
      · simp only [hstep]
        exact ⟨hrows, hroutes, ⟨.inl hheld, hpending⟩, hedit⟩
      · simp only [hstep]
        exact ⟨hrows, hroutes, fun hrefreshes => haway (hrequest hrefreshes), hedit⟩
    | readingSink i route config macAddress => exact ⟨hrows, hroutes, ⟨hrequest, hpending⟩, hedit⟩
    | asking i route config macAddress mqttConfig =>
      exact ⟨hrows, hroutes, ⟨hrequest, hpending⟩, hedit⟩
    | saving i route config macAddress answer =>
      rcases hrequest with hheld | ⟨hlone, haway⟩
      · obtain ⟨row, r, t, hstep, hrow, hr, hmac, hsame, hroutes', hupdate⟩ :=
          Request.step_saving resolver now hrows hroutes answer hheld
        simp only [hstep]
        refine ⟨hrows.congr hsame.devices hsame.tags, hroutes', ⟨fun _ => ?_, fun hrefreshes => ?_⟩,
          hedit.resolved hsame hupdate hrow hr hmac⟩
        · rw [hupdate, Table.isSome_get?_update, hrow]
          rfl
        · exact (hpending hrefreshes).update hupdate fun _ => macGiven_resolvedRow hmac _ _
      · obtain ⟨hid, haway⟩ := haway
        rcases Request.step_saving_away resolver now config macAddress answer hid haway with
          hstep | ⟨e, hstep⟩
        · simp only [hstep]
          exact ⟨hrows, hroutes, ⟨fun hrefreshes => (hlone hrefreshes).elim, hpending⟩, hedit⟩
        · simp only [hstep]
          exact ⟨hrows, hroutes, hlone, hedit⟩
    | answering i answer =>
      rcases Request.step_answering resolver now i hroutes answer with
        ⟨result, hstep⟩ | ⟨e, hstep, haway⟩
      · simp only [hstep]
        exact ⟨hrows, hroutes, Task.sound_next hpending _, hedit⟩
      · simp only [hstep]
        refine ⟨hrows, hroutes, fun hrefreshes => ?_, hedit⟩
        have hsome : (s.outputRoutes.get? i).isSome := hrequest hrefreshes
        rw [haway] at hsome
        cases hsome

-- ---------------------------------------------------------------------------
-- Steps of the edit
-- ---------------------------------------------------------------------------

omit [PyRuntime F] in
theorem getDevice_eq_ok {deviceId : Int} {device : DeviceSpec F}
    (h : getDevice deviceId s = (.ok device, t)) : (s.devices.get? deviceId).isSome ∧ s = t := by
  rw [getDevice, read_bind, find?_listDevices] at h
  cases hrow : s.devices.get? deviceId with
  | none =>
    rw [hrow] at h
    cases h
  | some row =>
    rw [hrow] at h
    obtain ⟨-, rfl⟩ := pure_eq_ok.mp h
    exact ⟨rfl, rfl⟩

theorem routeDeviceId_eq_ok {value : PyValue F} {deviceId : Option Int}
    (h : routeDeviceId value s = (.ok deviceId, t)) :
    (∀ d, deviceId = some d → (s.devices.get? d).isSome) ∧ s = t := by
  unfold routeDeviceId at h
  split at h
  · obtain ⟨rfl, rfl⟩ := pure_eq_ok.mp h
    exact ⟨fun d hd => (by cases hd), rfl⟩
  · obtain ⟨i, u, hi, h⟩ := Fallible.bind_eq_ok.mp h
    obtain ⟨-, rfl⟩ := lift_eq_ok.mp hi
    obtain ⟨device, u, hdevice, h⟩ := Fallible.bind_eq_ok.mp h
    obtain ⟨hsome, rfl⟩ := getDevice_eq_ok hdevice
    obtain ⟨rfl, rfl⟩ := pure_eq_ok.mp h
    exact ⟨fun d hd => Option.some.inj hd ▸ hsome, rfl⟩

namespace EditTask

theorem routeOfPayload_eq_ok {payload : Settings F} {route : OutputRouteConfig F}
    (h : routeOfPayload payload s = (.ok route, t)) :
    optionalInt (optional payload "id") = .ok route.id ∧ Readable route.config ∧
      Formed route.config ∧
      (∀ d, route.deviceId = some d → (s.devices.get? d).isSome) ∧ s = t := by
  obtain ⟨config, u, hlift, h⟩ := Fallible.bind_eq_ok.mp h
  obtain ⟨hconfig, rfl⟩ := lift_eq_ok.mp hlift
  obtain ⟨deviceId, u, hread, h⟩ := Fallible.bind_eq_ok.mp h
  obtain ⟨hdevice, rfl⟩ := routeDeviceId_eq_ok hread
  obtain ⟨id, u, hlift, h⟩ := Fallible.bind_eq_ok.mp h
  obtain ⟨hid, rfl⟩ := lift_eq_ok.mp hlift
  obtain ⟨rfl, rfl⟩ := pure_eq_ok.mp h
  have hread := readable_routeConfig hconfig
  obtain ⟨r, rfl⟩ := routeConfig_eq_ok hconfig
  refine ⟨hid, ?_, ?_, hdevice, rfl⟩
  · simp only
    split
    · exact readable_systemHeartbeatConfig hread
    · exact hread
  · simp only
    split
    · exact formed_systemHeartbeatConfig (formed_toSettings r)
    · exact formed_toSettings r

theorem readOnly_routeOfPayload (payload : Settings F) : ReadOnly (routeOfPayload payload) :=
  .bind (.lift _) fun _ => .bind (readOnly_routeDeviceId _) fun _ => .bind (.lift _) fun _ => .pure _

end EditTask

omit [PyRuntime F] in
theorem keepsEdit_self (route : OutputRouteConfig F) :
    KeepsEdit route ⟨route.deviceId, route.tagGroup, route.sinkType, route.enabled, route.config⟩ :=
  ⟨rfl, rfl, rfl, rfl, rfl⟩

/-- A saved route that is not held leaves the task sound; in a refresh it has a MAC
if it is due. -/
theorem Task.Sound.save {task : Task F} (h : task.Sound refreshes s) {row : OutputRouteRow F}
    (hroutes : t.outputRoutes = s.outputRoutes.update routeId row) (hheld : ¬ task.Holds routeId)
    (hdue : refreshes → task.Due routeId → macGiven row.config = true) : task.Sound refreshes t := by
  have haway : ∀ i (route : OutputRouteConfig F), Away s i route → Away t i route := by
    rintro i route ⟨hid, hnone⟩
    refine ⟨hid, ?_⟩
    rw [hroutes, Table.get?_update, hnone]
    split <;> rfl
  cases task with
  | listing => trivial
  | returned results => trivial
  | raised e => exact h
  | resolving request rest results =>
    obtain ⟨hrequest, hpending⟩ := h
    cases request with
    | listing i =>
      exact ⟨fun hr => (hrequest hr).update hroutes fun hi => hdue hr (.inl hi),
        fun hr => (hpending hr).update hroutes fun hi => hdue hr (.inr hi)⟩
    | readingSink i route config macAddress =>
      exact ⟨hrequest.imp (fun h => h.update hroutes fun hi => hheld hi.symm) (.imp_right (haway _ _)),
        fun hr => (hpending hr).update hroutes (hdue hr)⟩
    | asking i route config macAddress mqttConfig =>
      exact ⟨hrequest.imp (fun h => h.update hroutes fun hi => hheld hi.symm) (.imp_right (haway _ _)),
        fun hr => (hpending hr).update hroutes (hdue hr)⟩
    | saving i route config macAddress answer =>
      exact ⟨hrequest.imp (fun h => h.update hroutes fun hi => hheld hi.symm) (.imp_right (haway _ _)),
        fun hr => (hpending hr).update hroutes (hdue hr)⟩
    | answering i answer =>
      refine ⟨fun hr => ?_, fun hr => (hpending hr).update hroutes (hdue hr)⟩
      rw [hroutes, Table.isSome_get?_update]
      exact hrequest hr

omit [PyRuntime F] in
theorem get?_deleteRoute (i : Int) :
    (s.deleteRoute routeId).outputRoutes.get? i =
      if i = routeId then none else s.outputRoutes.get? i := by
  refine (Table.get?_filter ..).trans ?_
  split
  · rename_i hi
    exact Option.filter_eq_none_iff.mpr fun _ _ => by simp [hi]
  · rename_i hi
    cases hrow : s.outputRoutes.get? i with
    | none => rfl
    | some row => exact if_pos (decide_eq_true hi)

theorem Held.delete {i : Int} {route : OutputRouteConfig F} {config : Settings F}
    {macAddress : String} (h : Held s i route config macAddress) (hne : i ≠ routeId) :
    Held (s.deleteRoute routeId) i route config macAddress := by
  obtain ⟨row, r, hrow, hheld⟩ := h
  exact ⟨row, r, by rw [get?_deleteRoute, if_neg hne, hrow], hheld⟩

/-- A route is away after it was deleted: only a lone request still holds it. -/
theorem Held.deleted {i : Int} {route : OutputRouteConfig F} {config : Settings F}
    {macAddress : String} (h : Held s i route config macAddress ∨ (¬ refreshes ∧ Away s i route))
    (huse : refreshes → i ≠ routeId) :
    Held (s.deleteRoute routeId) i route config macAddress ∨
      (¬ refreshes ∧ Away (s.deleteRoute routeId) i route) := by
  rcases h with hheld | ⟨hlone, hid, haway⟩
  · by_cases hi : i = routeId
    · obtain ⟨row, r, -, rfl, -⟩ := hheld
      exact .inr ⟨fun hr => huse hr hi, rfl, by rw [get?_deleteRoute, if_pos hi]⟩
    · exact .inl (hheld.delete hi)
  · refine .inr ⟨hlone, hid, ?_⟩
    rw [get?_deleteRoute, haway, ite_self]

/-- A deleted route leaves the task sound; in a refresh it is not in use. -/
theorem Task.Sound.delete {task : Task F} (h : task.Sound refreshes s)
    (huse : refreshes → ¬ task.Uses routeId) : task.Sound refreshes (s.deleteRoute routeId) := by
  have hresolvable : ∀ i, i ≠ routeId → Resolvable s i → Resolvable (s.deleteRoute routeId) i := by
    rintro i hi ⟨row, hrow, hgiven⟩
    exact ⟨row, by rw [get?_deleteRoute, if_neg hi, hrow], hgiven⟩
  cases task with
  | listing => trivial
  | returned results => trivial
  | raised e => exact h
  | resolving request rest results =>
    obtain ⟨hrequest, hpending⟩ := h
    have hid : refreshes → request.routeId ≠ routeId := fun hr hi => huse hr (.inl hi)
    refine ⟨?_, fun hr => ⟨(hpending hr).readable, fun i hi => ?_⟩⟩
    · cases request with
      | listing i => exact fun hr => hresolvable i (hid hr) (hrequest hr)
      | readingSink i route config macAddress => exact Held.deleted hrequest hid
      | asking i route config macAddress mqttConfig => exact Held.deleted hrequest hid
      | saving i route config macAddress answer => exact Held.deleted hrequest hid
      | answering i answer =>
        intro hr
        have hne : i ≠ routeId := hid hr
        rw [get?_deleteRoute, if_neg hne]
        exact hrequest hr
    · exact hresolvable i (fun heq => huse hr (.inr (heq ▸ hi))) ((hpending hr).due i hi)

theorem storedRoutes_deleteRoute (h : StoredRoutes s) (routeId : Int) :
    StoredRoutes (s.deleteRoute routeId) := by
  refine h.congr (fun i row hrow => ?_) rfl
  rw [get?_deleteRoute] at hrow
  split at hrow
  · cases hrow
  · exact hrow

theorem Race.sound_stepEdit (h : race.Sound refreshes routeId) (hclear : race.Clear refreshes) :
    race.stepEdit.Sound refreshes routeId := by
  obtain ⟨task, edit, s⟩ := race
  obtain ⟨hrows, hroutes, htask, hedit⟩ := h
  cases edit with
  | checking payload =>
    have hread := EditTask.readOnly_routeOfPayload payload s
    rw [stepEdit, EditTask.step, bind_apply]
    rcases hroute : EditTask.routeOfPayload payload s with ⟨e | route, t⟩
    · rw [hroute] at hread
      cases hread
      exact ⟨hrows, hroutes, htask, trivial⟩
    · obtain ⟨hid, hconfig, hformed, hdevice, rfl⟩ := EditTask.routeOfPayload_eq_ok hroute
      have hrouteId : route.id = some routeId := Except.ok.inj (hid.symm.trans hedit.1)
      exact ⟨hrows, hroutes, htask, hrouteId, hconfig, hformed, hdevice, hedit.2⟩
  | saving route =>
    obtain ⟨hid, hread, hformed, hdevice, hsome⟩ := hedit
    obtain ⟨hheld, hdue⟩ := hclear routeId hid
    obtain ⟨t, hsave, hsame, hupdate⟩ := saveOutputRoute_update hrows hid
      (sqlInteger_of_isSome hroutes.routeIds hsome) hread hdevice
    have hstep : EditTask.step (.saving route) s = (.ok (.answering routeId route), t) :=
      Fallible.bind_eq_ok.mpr ⟨routeId, t, hsave, rfl⟩
    rw [stepEdit]
    simp only [hstep]
    refine ⟨hrows.congr hsame.devices hsame.tags, hroutes.saveRoute hread hsave,
      htask.save hupdate hheld hdue, rfl, hformed, _, ?_, keepsEdit_self route⟩
    obtain ⟨old, hold⟩ := Option.isSome_iff_exists.mp hsome
    rw [hupdate, Table.get?_update, if_pos rfl, hold]
    rfl
  | deleting i =>
    obtain rfl : i = routeId := hedit
    have huse : refreshes → ¬ task.Uses i := hclear
    cases hbound : sqlInteger i with
    | error e =>
      have hstep : EditTask.step (.deleting i) s = (.error e, s) := by
        rw [EditTask.step, deleteOutputRoute, hbound]
        rfl
      rw [stepEdit]
      simp only [hstep]
      exact ⟨hrows, hroutes, htask, trivial⟩
    | ok bound =>
      have hstep : EditTask.step (.deleting i) s = (.ok .deleted, s.deleteRoute i) := by
        rw [EditTask.step, deleteOutputRoute, hbound]
        rfl
      rw [stepEdit]
      simp only [hstep]
      refine ⟨hrows.congr rfl rfl, storedRoutes_deleteRoute hroutes i, htask.delete huse, ?_⟩
      show (s.deleteRoute i).outputRoutes.get? i = none
      rw [get?_deleteRoute, if_pos rfl]
  | answering i route =>
    obtain ⟨rfl, hkept⟩ := hedit
    have hread := readOnly_nextOutputRoute i s
    rw [stepEdit, EditTask.step, bind_apply]
    rcases hnext : nextOutputRoute i s with ⟨e | found, t⟩
    · rw [hnext] at hread
      cases hread
      exact ⟨hrows, hroutes, htask, trivial⟩
    · rw [hnext] at hread
      cases hread
      exact ⟨hrows, hroutes, htask, hkept⟩
  | saved route => exact ⟨hrows, hroutes, htask, hedit⟩
  | deleted => exact ⟨hrows, hroutes, htask, hedit⟩
  | raised e => exact ⟨hrows, hroutes, htask, hedit⟩

-- ---------------------------------------------------------------------------
-- Runs
-- ---------------------------------------------------------------------------

/-- A refresh or a lone request. -/
inductive Task.Starts : Bool → Task F → Prop
  | refresh : Starts true .listing
  | request (routeId : Int) : Starts false (.resolving (.listing routeId) [] [])

/-- An edit of the route with the id. -/
def Edit.Of (routeId : Int) : Edit F → Prop
  | .save payload => optionalInt (optional payload "id") = .ok (some routeId)
  | .delete i => i = routeId

theorem Race.Sound.kept (h : race.Sound refreshes routeId) : race.Kept refreshes routeId := by
  obtain ⟨task, edit, s⟩ := race
  obtain ⟨-, -, htask, hedit⟩ := h
  refine ⟨?_, ?_, ?_⟩
  · rintro hrefreshes e rfl
    exact htask hrefreshes
  · rintro route (rfl | rfl)
    · exact hedit.2.2
    · exact hedit.2
  · rintro rfl
    exact hedit

/-- An edit stays in every run in which it is written only when it is clear. -/
theorem edit_kept {allowed : Operation F → ConfigStore F → Prop} (h : Reachable allowed s)
    (resolver : TopicResolver F) (now : Int → String) {task : Task F} (htask : task.Starts refreshes)
    {edit : Edit F} (hedit : edit.Of routeId) (hroute : (s.outputRoutes.get? routeId).isSome)
    (hrun : Relation.ReflTransGen (Race.Step resolver now (Race.Clear refreshes))
      ⟨task, EditTask.start edit, s⟩ race) : race.Kept refreshes routeId := by
  have hstart : (⟨task, EditTask.start edit, s⟩ : Race F).Sound refreshes routeId := by
    refine ⟨storedRows_of_reachable h, storedRoutes_of_reachable h, ?_, ?_⟩
    · cases htask with
      | refresh => trivial
      | request i =>
        exact ⟨fun hrefreshes => (by cases hrefreshes), fun hrefreshes => (by cases hrefreshes)⟩
    · cases edit with
      | save payload => exact ⟨hedit, hroute⟩
      | delete i => exact hedit
  have hsound : race.Sound refreshes routeId := by
    induction hrun with
    | refl => exact hstart
    | tail _ hstep ih =>
      cases hstep with
      | task => exact Race.sound_stepTask ih
      | edit hclear => exact Race.sound_stepEdit ih hclear
  exact hsound.kept

/-- Steps of the task with no edit between them. -/
theorem Race.run_tasks (resolver : TopicResolver F) (now : Int → String) (clear : Race F → Prop)
    (steps : Nat) (race : Race F) : Relation.ReflTransGen (Race.Step resolver now clear) race
      ((Race.stepTask resolver now)^[steps] race) := by
  induction steps with
  | zero => exact .refl
  | succ steps ih =>
    rw [Function.iterate_succ_apply']
    exact ih.tail (.task _)

def pressPayload : Settings WholeFloat :=
  .ofList [("dynamic_topic_enabled", .bool true), ("mac_address", .str "AA:BB")]

def pressStore : ConfigStore WholeFloat := (Operation.saveOutputRoute pressPayload).run initialized

theorem pressStore_reachable : Reachable (fun _ _ => True) pressStore := .run _ .initialized trivial

def fanPayload : Settings WholeFloat := .ofList [("tag_group", .str "fan"),
  ("dynamic_topic_enabled", .bool true), ("mac_address", .str "CC:DD")]

/-- The user gives a route the tag group `fast`. -/
def groupEdit (routeId : Int) (macAddress : String) : Edit WholeFloat :=
  .save (.ofList [("id", .int routeId), ("tag_group", .str "fast"),
    ("dynamic_topic_enabled", .bool true), ("mac_address", .str macAddress)])

def hallTopic : TopicResolver WholeFloat := fun _ _ =>
  .ok (.ofList [("topic", .str "plant/hall"), ("sensor_count", .int 2)])

def hallTask : Race WholeFloat → Race WholeFloat := Race.stepTask hallTopic fun _ => "noon"

/-- The refresh asks for the topic of the first route. -/
def fanRace : Race WholeFloat := hallTask^[3]
  ⟨.listing, .start (groupEdit 2 "CC:DD"), (Operation.saveOutputRoute fanPayload).run pressStore⟩

/-- The edit of the second is written meanwhile, and both topics after it. -/
def editFirst : Race WholeFloat := hallTask^[8] fanRace.stepEdit.stepEdit.stepEdit

theorem edit_kept_first : editFirst.Kept true 2 :=
  edit_kept (.run _ pressStore_reachable trivial) hallTopic (fun _ => "noon") .refresh
    (show (groupEdit 2 "CC:DD").Of 2 from rfl) (by decide +kernel)
    (((((Race.run_tasks _ _ _ 3 _).tail (.edit _ (by decide +kernel))).tail
      (.edit _ (by decide +kernel))).tail (.edit _ (by decide +kernel))).trans
      (Race.run_tasks _ _ _ 8 _))

def noAnswer : TopicResolver WholeFloat := fun _ _ => .error ⟨.other "TimeoutError", "no answer"⟩

def heldRace : Race WholeFloat :=
  ⟨.resolving (.listing 1) [] [], .start (groupEdit 1 "AA:BB"), pressStore⟩

/-- The request reads the route, the edit is written, the request writes the route. -/
def editHeld : Race WholeFloat :=
  let task := Race.stepTask noAnswer fun _ => "noon"
  task^[4] (task heldRace).stepEdit.stepEdit.stepEdit

def EditTask.savedGroup : EditTask F → Option String
  | .saved route => some route.tagGroup
  | _ => none

theorem edit_lost : ¬ ∀ race, Relation.ReflTransGen
    (Race.Step noAnswer (fun _ => "noon") fun _ => True) heldRace race →
      race.task.finished → race.edit.finished → race.Kept false 1 := by
  intro h
  have hrun : Relation.ReflTransGen (Race.Step noAnswer (fun _ => "noon") fun _ => True)
      heldRace editHeld :=
    ((((Race.run_tasks _ _ _ 1 _).tail (.edit _ trivial)).tail (.edit _ trivial)).tail
      (.edit _ trivial)).trans (Race.run_tasks _ _ _ 4 _)
  have hkept := h editHeld hrun (by decide +kernel) (by decide +kernel)
  have hedit : editHeld.edit.savedGroup = some "fast" := by decide +kernel
  have hstored : (editHeld.store.outputRoutes.get? 1).map (·.tagGroup) = some "" := by decide +kernel
  cases hwritten : editHeld.edit with
  | saved route =>
    obtain ⟨row, hrow, hkeeps⟩ := hkept.saved route (.inr hwritten)
    rw [hwritten] at hedit
    rw [hrow] at hstored
    have hgroup : "" = "fast" := Option.some.inj
      (hstored.symm.trans ((congrArg some hkeeps.tagGroup).trans hedit))
    exact absurd hgroup (by decide)
  | _ =>
    rw [hwritten] at hedit
    cases hedit

end IndustrialGateway
