import IndustrialGateway.ConfigRuns
import IndustrialGateway.StatusTopic

/-!
# Automatic topics

Without a route a topic is made of the base topic, the device's name and the
group, so the group of the device is no part of it. Two pairs of a device and a
group have one topic exactly when their paths are the same; without slashes in
names and groups these are the same only for one token and one group. A base topic of
slashes keeps the front slash of a topic without a group and loses it with one.
-/

namespace IndustrialGateway

open SinkPublisher

variable {F : Type}

-- ---------------------------------------------------------------------------
-- Paths
-- ---------------------------------------------------------------------------

theorem textTruthy_iff {group : Option String} : textTruthy group = true ↔ group.getD "" ≠ "" := by
  cases group <;> simp

theorem getD_of_not_textTruthy {group : Option String} (h : ¬textTruthy group = true) :
    group.getD "" = "" := not_not.mp (mt textTruthy_iff.mpr h)

theorem slash_not_mem_topicToken {name : String} (h : '/' ∉ name.toList) :
    '/' ∉ (topicToken name).toList := by
  rw [topicToken, PyText.replaceChar, String.toList_ofList, PyText.strip, String.toList_ofList]
  intro hmem
  obtain ⟨x, hx, hslash⟩ := List.mem_map.mp hmem
  split at hslash
  · cases hslash
  · subst hslash
    have hfront := (List.rdropWhile_prefix PyText.isSpace _).subset hx
    exact h ((List.dropWhile_suffix PyText.isSpace).subset hfront)

theorem append_slash_ne (token group : String) : token ++ "/" ++ group ≠ token := by
  intro h
  have hlength := congrArg String.length h
  simp only [String.length_append] at hlength
  have hslash : "/".length = 1 := rfl
  omega

theorem slash_mem_append (token group : String) : '/' ∈ (token ++ "/" ++ group).toList := by
  simp

/-- A group without slashes stands behind the last slash. -/
theorem append_slash_inj {token token' group group' : String} (h : '/' ∉ group.toList)
    (h' : '/' ∉ group'.toList) :
    token ++ "/" ++ group = token' ++ "/" ++ group' ↔ token = token' ∧ group = group' := by
  have hlist (t g : String) : (t ++ "/" ++ g).toList = t.toList ++ '/' :: g.toList := by simp
  rw [← String.toList_inj, hlist, hlist, PyText.append_sep_inj h h', String.toList_inj,
    String.toList_inj]

theorem topicPath_group_ne (name : String) {group group' : Option String}
    (h : group.getD "" ≠ group'.getD "") : topicPath name group ≠ topicPath name group' := by
  unfold topicPath
  split
  · split
    · intro hsame
      rw [String.append_assoc, String.append_assoc] at hsame
      exact h ((String.append_right_inj _).mp ((String.append_right_inj _).mp hsame))
    · exact append_slash_ne _ _
  · split
    · exact (append_slash_ne _ _).symm
    · rename_i hg hg'
      exact absurd ((getD_of_not_textTruthy hg).trans (getD_of_not_textTruthy hg').symm) h

theorem topicPath_eq_iff {name name' : String} {group group' : Option String}
    (hname : '/' ∉ name.toList) (hname' : '/' ∉ name'.toList) (hgroup : '/' ∉ (group.getD "").toList)
    (hgroup' : '/' ∉ (group'.getD "").toList) :
    topicPath name group = topicPath name' group' ↔
      topicToken name = topicToken name' ∧ group.getD "" = group'.getD "" := by
  have htoken := slash_not_mem_topicToken hname
  have htoken' := slash_not_mem_topicToken hname'
  unfold topicPath
  split
  · rename_i hg
    split
    · exact append_slash_inj hgroup hgroup'
    · rename_i hg'
      rw [getD_of_not_textTruthy hg']
      exact ⟨fun h => absurd (h ▸ slash_mem_append _ _) htoken',
        fun h => absurd h.2 (textTruthy_iff.mp hg)⟩
  · rename_i hg
    rw [getD_of_not_textTruthy hg]
    split
    · rename_i hg'
      exact ⟨fun h => absurd (h ▸ slash_mem_append _ _) htoken,
        fun h => absurd h.2.symm (textTruthy_iff.mp hg')⟩
    · rename_i hg'
      rw [getD_of_not_textTruthy hg']
      exact ⟨fun h => ⟨h, rfl⟩, fun h => h.1⟩

/-- Below one base topic the paths tell the topics apart. -/
theorem plainTopic_eq_iff {baseTopic : String} (hbase : ∃ x ∈ baseTopic.toList, x ≠ '/')
    {name name' : String} {group group' : Option String} :
    plainTopic baseTopic name group = plainTopic baseTopic name' group' ↔
      topicPath name group = topicPath name' group' := by
  rw [plainTopic_eq hbase, plainTopic_eq hbase, String.append_right_inj, String.append_left_inj,
    String.append_right_inj]

-- ---------------------------------------------------------------------------
-- Base topics of slashes
-- ---------------------------------------------------------------------------

/-- The topic of a group below a base topic of slashes. -/
def bareGroupTopic (name group : String) : String :=
  let token := PyText.lstripChar '/' (topicToken name)
  if token = "" then "data/" ++ group else token ++ "/" ++ group ++ "/data"

theorem plainTopic_bare {baseTopic : String} (hbase : ∀ x ∈ baseTopic.toList, x = '/')
    (name : String) (group : Option String) :
    plainTopic baseTopic name group =
      if textTruthy group then bareGroupTopic name (group.getD "")
      else "/" ++ topicToken name ++ "/data" := by
  have hstrip : PyText.stripChar '/' ("" ++ "/" ++ topicToken name ++ "/data") =
      if PyText.lstripChar '/' (topicToken name) = "" then "data"
      else PyText.lstripChar '/' (topicToken name) ++ "/data" := by
    have hlast : ∀ x, ("" ++ "/" ++ topicToken name ++ "/data").toList.getLast? = some x →
        x ≠ '/' := by
      intro x hx
      rw [String.toList_append, List.getLast?_append_of_ne_nil _ (by decide)] at hx
      obtain rfl := Option.some.inj hx
      decide
    have hslash : PyText.lstripChar '/' ("" ++ "/") = "" := by decide
    have hdata : PyText.lstripChar '/' "/data" = "data" := by decide
    rw [PyText.stripChar_eq_lstripChar hlast, PyText.lstripChar_append, PyText.lstripChar_append,
      if_pos hslash, hdata]
  rw [plainTopic, PyText.stripChar_eq_empty hbase]
  split
  · unfold bareGroupTopic
    dsimp only
    split at hstrip
    · rename_i htoken
      have hsplit : PyText.split '/' "data" = ["data"] := rfl
      unfold topicWithGroup
      dsimp only
      rw [hstrip, hsplit, if_neg (by decide), if_pos htoken]
      rfl
    · rename_i htoken
      have hlast : PyText.lstripChar '/' (topicToken name) ++ "/data" =
          PyText.lstripChar '/' (topicToken name) ++ "/" ++ "data" := by
        rw [String.append_assoc]
        rfl
      rw [topicWithGroup_append _ (hstrip.trans hlast) rfl, if_neg htoken]
      simp only [String.append_assoc]
      rfl
  · rfl

/-- A topic with a group has no slash in front. -/
theorem bareGroupTopic_ne (name group rest : String) : bareGroupTopic name group ≠ "/" ++ rest := by
  intro h
  have hslash : ("/" ++ rest).toList.head? = some '/' := by simp
  rw [← h] at hslash
  unfold bareGroupTopic at hslash
  dsimp only at hslash
  split at hslash
  · have hdata : ("data/" ++ group).toList.head? = some 'd' := by simp
    cases hdata.symm.trans hslash
  · rename_i htoken
    have hkept : (PyText.lstripChar '/' (topicToken name)).toList =
        (topicToken name).toList.dropWhile (· == '/') := String.toList_ofList
    have hnonempty : (topicToken name).toList.dropWhile (· == '/') ≠ [] := by
      rw [← hkept]
      simpa using htoken
    have hfirst := List.head_dropWhile_not (· == '/') hnonempty
    rw [String.append_assoc, String.append_assoc, String.toList_append, hkept,
      List.head?_append_of_ne_nil _ hnonempty, List.head?_eq_some_head hnonempty] at hslash
    rw [Option.some.inj hslash] at hfirst
    exact absurd hfirst (by decide)

theorem bareGroupTopic_inj {name group group' : String}
    (h : bareGroupTopic name group = bareGroupTopic name group') : group = group' := by
  unfold bareGroupTopic at h
  dsimp only at h
  split at h
  · exact (String.append_right_inj _).mp h
  · rw [String.append_left_inj, String.append_right_inj] at h
    exact h

theorem bareGroupTopic_eq_iff {name name' group group' : String} (hname : '/' ∉ name.toList)
    (hname' : '/' ∉ name'.toList) (hgroup : '/' ∉ group.toList) (hgroup' : '/' ∉ group'.toList) :
    bareGroupTopic name group = bareGroupTopic name' group' ↔
      topicToken name = topicToken name' ∧ group = group' := by
  have hdata : '/' ∉ "data".toList := by decide
  have hword (g : String) : "data/" ++ g = "data" ++ "/" ++ g := rfl
  have hbehind (t g : String) : t ++ "/" ++ g ++ "/data" = t ++ "/" ++ g ++ "/" ++ "data" := by
    simp only [String.append_assoc]
    rfl
  unfold bareGroupTopic
  dsimp only
  rw [PyText.lstripChar_of_not_mem (slash_not_mem_topicToken hname),
    PyText.lstripChar_of_not_mem (slash_not_mem_topicToken hname')]
  split
  · rename_i htoken
    split
    · rename_i htoken'
      rw [String.append_right_inj, htoken, htoken']
      exact ⟨fun h => ⟨rfl, h⟩, fun h => h.2⟩
    · rename_i htoken'
      rw [hword, hbehind, append_slash_inj hgroup hdata]
      exact ⟨fun h => absurd (h.1 ▸ slash_mem_append _ _) hdata,
        fun h => absurd (h.1.symm.trans htoken) htoken'⟩
  · rename_i htoken
    split
    · rename_i htoken'
      rw [hword, hbehind, append_slash_inj hdata hgroup']
      exact ⟨fun h => absurd (h.1.symm ▸ slash_mem_append _ _) hdata,
        fun h => absurd (h.1.trans htoken') htoken⟩
    · rw [String.append_left_inj, append_slash_inj hgroup hgroup']

/-- When two names and groups have one topic below a base topic of slashes. -/
inductive SameBareTopic (name : String) (group : Option String) (name' : String)
    (group' : Option String) : Prop
  | device (hgroup : group.getD "" = "") (hgroup' : group'.getD "" = "")
    (htoken : topicToken name = topicToken name')
  | group (hgroup : group.getD "" ≠ "") (hgroup' : group'.getD "" ≠ "")
    (htopic : bareGroupTopic name (group.getD "") = bareGroupTopic name' (group'.getD ""))

theorem plainTopic_bare_iff {baseTopic : String} (hbase : ∀ x ∈ baseTopic.toList, x = '/')
    {name name' : String} {group group' : Option String} :
    plainTopic baseTopic name group = plainTopic baseTopic name' group' ↔
      SameBareTopic name group name' group' := by
  rw [plainTopic_bare hbase, plainTopic_bare hbase]
  split
  · rename_i hg
    split
    · rename_i hg'
      refine ⟨.group (textTruthy_iff.mp hg) (textTruthy_iff.mp hg'), fun h => ?_⟩
      cases h with
      | device hgroup => exact absurd hgroup (textTruthy_iff.mp hg)
      | group _ _ htopic => exact htopic
    · rename_i hg'
      rw [String.append_assoc]
      refine ⟨fun h => absurd h (bareGroupTopic_ne _ _ _), fun h => ?_⟩
      cases h with
      | device hgroup => exact absurd hgroup (textTruthy_iff.mp hg)
      | group _ hgroup' => exact absurd (getD_of_not_textTruthy hg') hgroup'
  · rename_i hg
    split
    · rename_i hg'
      rw [String.append_assoc]
      refine ⟨fun h => absurd h.symm (bareGroupTopic_ne _ _ _), fun h => ?_⟩
      cases h with
      | device _ hgroup' => exact absurd hgroup' (textTruthy_iff.mp hg')
      | group hgroup => exact absurd (getD_of_not_textTruthy hg) hgroup
    · rename_i hg'
      rw [String.append_left_inj, String.append_right_inj]
      refine ⟨.device (getD_of_not_textTruthy hg) (getD_of_not_textTruthy hg'), fun h => ?_⟩
      cases h with
      | device _ _ htoken => exact htoken
      | group hgroup => exact absurd (getD_of_not_textTruthy hg) hgroup

-- ---------------------------------------------------------------------------
-- Measurements without a route
-- ---------------------------------------------------------------------------

/-- When the topics of two names and groups below one base topic are the same. -/
structure TopicsApart (baseTopic name : String) (group : Option String) (name' : String)
    (group' : Option String) (topic topic' : String) : Prop where
  oneDevice : name = name' → group.getD "" ≠ group'.getD "" → topic ≠ topic'
  plain : '/' ∉ name.toList → '/' ∉ name'.toList → '/' ∉ (group.getD "").toList →
    '/' ∉ (group'.getD "").toList →
      (topic = topic' ↔ topicToken name = topicToken name' ∧ group.getD "" = group'.getD "")
  path : (∃ x ∈ baseTopic.toList, x ≠ '/') →
    (topic = topic' ↔ topicPath name group = topicPath name' group')
  bare : (∀ x ∈ baseTopic.toList, x = '/') → (topic = topic' ↔ SameBareTopic name group name' group')

theorem plainTopics_apart (baseTopic name : String) (group : Option String) (name' : String)
    (group' : Option String) : TopicsApart baseTopic name group name' group'
      (plainTopic baseTopic name group) (plainTopic baseTopic name' group') := by
  by_cases hbase : ∃ x ∈ baseTopic.toList, x ≠ '/'
  · constructor
    · rintro rfl hgroup
      rw [Ne, plainTopic_eq_iff hbase]
      exact topicPath_group_ne name hgroup
    · intro hname hname' hgroup hgroup'
      rw [plainTopic_eq_iff hbase, topicPath_eq_iff hname hname' hgroup hgroup']
    · exact fun _ => plainTopic_eq_iff hbase
    · rintro hslashes
      obtain ⟨x, hx, hne⟩ := hbase
      exact absurd (hslashes x hx) hne
  · have hslashes : ∀ x ∈ baseTopic.toList, x = '/' := by simpa using hbase
    constructor
    · rintro rfl hgroup
      rw [Ne, plainTopic_bare_iff hslashes]
      intro h
      cases h with
      | device hnone hnone' => exact hgroup (hnone.trans hnone'.symm)
      | group _ _ htopic => exact hgroup (bareGroupTopic_inj htopic)
    · intro hname hname' hgroup hgroup'
      rw [plainTopic_bare_iff hslashes]
      constructor
      · intro h
        cases h with
        | device hnone hnone' htoken => exact ⟨htoken, hnone.trans hnone'.symm⟩
        | group _ _ htopic => exact (bareGroupTopic_eq_iff hname hname' hgroup hgroup').mp htopic
      · rintro ⟨htoken, hsame⟩
        by_cases hnone : group.getD "" = ""
        · exact .device hnone (hsame ▸ hnone) htoken
        · exact .group hnone (hsame ▸ hnone)
            ((bareGroupTopic_eq_iff hname hname' hgroup hgroup').mpr ⟨htoken, hsame⟩)
    · exact fun h => absurd h hbase
    · exact fun _ => plainTopic_bare_iff hslashes

/-- Without a route, one device has one topic for each group, and the topics of two
devices are told apart by their names and groups. -/
theorem automatic_topics_apart (cfg : PublisherConfig F) {routes : List (OutputRoute F)}
    {device device' : DeviceSpec F} (tags tags' : List (TagResult F)) {group group' : Option String}
    (now now' : Datetime) (h : routeFor routes device (group.getD "") = none)
    (h' : routeFor routes device' (group'.getD "") = none) :
    TopicsApart cfg.mqttConfig.baseTopic device.name group device'.name group'
      (measurementMessage cfg routes device tags group now).1.topic
      (measurementMessage cfg routes device' tags' group' now').1.topic := by
  rw [(measurementMessage_none cfg tags now h).1, (measurementMessage_none cfg tags' now' h').1]
  exact plainTopics_apart ..

def hallPublisher : PublisherConfig WholeFloat :=
  { mqttConfig := { baseTopic := "plant" }, staleTimeoutS := ⟨15⟩, statusPublishIntervalS := ⟨60⟩ }

def hallDevice (id : Int) (hall name : String) : DeviceSpec WholeFloat :=
  { id := some id, name, driverType := "modbus_tcp", enabled := true, pollIntervalMs := 1000,
    deviceGroup := hall, connection := ∅ }

/-- Routes of the first device for another group, of a third device and of a group of
all devices, and a heartbeat. -/
def hallRoutes : List (OutputRoute WholeFloat) :=
  let route (objectId : Nat) (deviceId : Option Int) (tagGroup topic routeKind : String) :
      OutputRoute WholeFloat :=
    { objectId, deviceId, tagGroup, sinkType := "mqtt", mqttConfig := { baseTopic := "plant" }, topic,
      routeKind, heartbeatIntervalS := ⟨60⟩ }
  [route 0 (some 1) "speed" "plant/speed" "data", route 1 (some 3) "" "plant/fan" "data",
    route 2 none "level" "plant/level" "data", route 3 none "" "plant/alive" "system_heartbeat"]

theorem hallTopics_apart :
    TopicsApart "plant" "press 1" (some "temp") "press-1" none
      (measurementMessage hallPublisher hallRoutes (hallDevice 1 "east" "press 1") [] (some "temp") 0).1.topic
      (measurementMessage hallPublisher hallRoutes (hallDevice 2 "west" "press-1") [] none 0).1.topic := by
  have heast : routeFor hallRoutes (hallDevice 1 "east" "press 1") ((some "temp").getD "") = none := by
    decide
  have hwest : routeFor hallRoutes (hallDevice 2 "west" "press-1") ((none : Option String).getD "") =
      none := by decide
  exact automatic_topics_apart hallPublisher [] [] 0 0 heast hwest

def pressIn (hall : String) : Settings WholeFloat :=
  .ofList [("driver_type", .str "modbus_tcp"), ("name", .str "press"), ("device_group", .str hall)]

/-- A press in each of two halls. -/
def twoHalls : ConfigStore WholeFloat :=
  (Operation.createDevice (pressIn "west")).run
    ((Operation.createDevice (pressIn "east")).run ConfigStore.initialized)

/-- Two devices of one name have one topic, whatever their groups are. -/
theorem twoHalls_topic : ¬ ∀ (s : ConfigStore WholeFloat) (cfg : PublisherConfig WholeFloat) (i j : Int)
    (row row' : DeviceRow WholeFloat) (group group' : Option String),
    Reachable (fun _ _ => True) s → s.devices.get? i = some row → s.devices.get? j = some row' →
      (row.deviceGroup, row.name) ≠ (row'.deviceGroup, row'.name) ∨
        i = j ∧ group.getD "" ≠ group'.getD "" →
      (measurementMessage cfg [] (row.spec i) [] group 0).1.topic ≠
        (measurementMessage cfg [] (row'.spec j) [] group' 0).1.topic := by
  intro h
  have hreachable : Reachable (fun _ _ => True) twoHalls :=
    .run _ (.run _ .initialized trivial) trivial
  have hkeys : (twoHalls.devices.get? 1).map (fun row => (row.deviceGroup, row.name)) =
        some ("east", "press") ∧
      (twoHalls.devices.get? 2).map (fun row => (row.deviceGroup, row.name)) =
        some ("west", "press") := by decide +kernel
  obtain ⟨east, heast, heastKey⟩ := Option.map_eq_some_iff.mp hkeys.1
  obtain ⟨west, hwest, hwestKey⟩ := Option.map_eq_some_iff.mp hkeys.2
  have hother : (east.deviceGroup, east.name) ≠ (west.deviceGroup, west.name) := by
    rw [heastKey, hwestKey]
    decide
  refine h twoHalls hallPublisher 1 2 east west none none hreachable heast hwest (.inl hother) ?_
  have hname : east.name = west.name := (Prod.mk.inj heastKey).2.trans (Prod.mk.inj hwestKey).2.symm
  rw [(measurementMessage_none hallPublisher [] 0 rfl).1,
    (measurementMessage_none hallPublisher [] 0 rfl).1]
  exact congrArg (fun name => plainTopic "plant" name none) hname

end IndustrialGateway
