import IndustrialGateway.SinkPublisher
import IndustrialGateway.Sinks

/-!
# The topic of a status

A status message takes its topic from the measurement message it goes with. The
sink publishes a measurement on its own topic only where a route gave it one, and
on the base topic otherwise.
-/

namespace IndustrialGateway

variable {F σ : Type}

-- ---------------------------------------------------------------------------
-- Topics with a group
-- ---------------------------------------------------------------------------

theorem split_ne_nil (c : Char) (s : String) : PyText.split c s ≠ [] := by
  rw [PyText.split, Ne, List.map_eq_nil_iff]
  exact PyText.splitChars_ne_nil c s.toList

/-- The group does not cost the topic anything but slashes. -/
theorem mem_topicWithGroup {topic group : String} {x : Char} (hx : x ∈ topic.toList) (hne : x ≠ '/') :
    x ∈ (topicWithGroup topic group).toList := by
  have hstrip := PyText.mem_stripChar hx hne
  have hparts := split_ne_nil '/' (PyText.stripChar '/' topic)
  have hjoin := PyText.intercalate_split "/" '/' rfl (PyText.stripChar '/' topic)
  unfold topicWithGroup
  dsimp only
  generalize PyText.split '/' (PyText.stripChar '/' topic) = parts at hparts hjoin ⊢
  split
  · rename_i hlength
    have hfront : parts.dropLast ≠ [] := by
      rw [← List.length_pos_iff, List.length_dropLast]
      omega
    have hback : parts = parts.dropLast ++ [parts.getLastD ""] := by
      rw [List.getLastD_eq_getLast?, List.getLast?_eq_some_getLast hparts, Option.getD_some,
        List.dropLast_append_getLast]
    rw [← hjoin, hback, String.intercalate_append_of_ne_nil hfront (List.cons_ne_nil _ _)] at hstrip
    rw [String.intercalate_append_of_ne_nil hfront (List.cons_ne_nil _ _)]
    simp only [String.toList_append, List.mem_append, String.intercalate_singleton,
      String.intercalate_cons_cons] at hstrip ⊢
    rcases hstrip with (h | h) | h
    · exact .inl (.inl h)
    · exact .inl (.inr h)
    · exact .inr (.inr h)
  · simp only [String.toList_append, List.mem_append]
    exact .inl (.inl hstrip)

/-- The group goes before the last part of the topic. -/
theorem topicWithGroup_append {topic front last : String} (group : String)
    (hstrip : PyText.stripChar '/' topic = front ++ "/" ++ last)
    (hlast : PyText.split '/' last = [last]) :
    topicWithGroup topic group = front ++ "/" ++ (group ++ "/" ++ last) := by
  have hsplit : PyText.split '/' (front ++ "/" ++ last) = PyText.split '/' front ++ [last] := by
    rw [← hlast, PyText.split, PyText.split, PyText.split, ← List.map_append,
      ← PyText.splitChars_append]
    simp
  have hparts := split_ne_nil '/' front
  have hlength : 2 ≤ (PyText.split '/' front ++ [last]).length := by
    have hpos := List.length_pos_iff.mpr hparts
    rw [List.length_append, List.length_singleton]
    omega
  unfold topicWithGroup
  dsimp only
  rw [hstrip, hsplit, if_pos hlength, List.dropLast_concat, List.getLastD_concat,
    String.intercalate_append_of_ne_nil hparts (List.cons_ne_nil _ _), PyText.intercalate_split "/" '/' rfl]
  simp

-- ---------------------------------------------------------------------------
-- The two topics
-- ---------------------------------------------------------------------------

open SinkPublisher

/-- The topic that a measurement has before a route replaces it. -/
def plainTopic (baseTopic deviceName : String) (group : Option String) : String :=
  let topic := PyText.stripChar '/' baseTopic ++ "/" ++ topicToken deviceName ++ "/data"
  if textTruthy group then topicWithGroup topic (group.getD "") else topic

/-- What the device and the group add to a base topic. -/
def topicPath (deviceName : String) (group : Option String) : String :=
  if textTruthy group then topicToken deviceName ++ "/" ++ group.getD "" else topicToken deviceName

theorem data_mem_plainTopic (baseTopic deviceName : String) (group : Option String) :
    'd' ∈ (plainTopic baseTopic deviceName group).toList := by
  have hdata : 'd' ∈ (PyText.stripChar '/' baseTopic ++ "/" ++ topicToken deviceName ++
      "/data").toList := by
    rw [String.toList_append, List.mem_append]
    exact .inr (by decide)
  unfold plainTopic
  dsimp only
  split
  · exact mem_topicWithGroup hdata (by decide)
  · exact hdata

section BaseTopic

variable {baseTopic : String} (hbase : ∃ x ∈ baseTopic.toList, x ≠ '/')

include hbase

/-- Nothing is stripped from what stands behind a base topic. -/
theorem strip_dataTopic (path : String) :
    PyText.stripChar '/' (PyText.stripChar '/' baseTopic ++ ("/" ++ path ++ "/data")) =
      PyText.stripChar '/' baseTopic ++ ("/" ++ path ++ "/data") := by
  refine PyText.stripChar_stripChar_append hbase ?_ ?_
  · intro x hx
    rw [String.toList_append, List.getLast?_append_of_ne_nil _ (by decide)] at hx
    obtain rfl := Option.some.inj hx
    decide
  · intro hnil
    have htoList := congrArg String.toList hnil
    simp at htoList

theorem plainTopic_eq (deviceName : String) (group : Option String) :
    plainTopic baseTopic deviceName group =
      PyText.stripChar '/' baseTopic ++ ("/" ++ topicPath deviceName group ++ "/data") := by
  have hplain : PyText.stripChar '/' baseTopic ++ "/" ++ topicToken deviceName ++ "/data" =
      PyText.stripChar '/' baseTopic ++ ("/" ++ topicToken deviceName ++ "/data") := by
    simp only [String.append_assoc]
  unfold plainTopic topicPath
  dsimp only
  split
  · have hdata : PyText.stripChar '/' baseTopic ++ "/" ++ topicToken deviceName ++ "/data" =
        PyText.stripChar '/' baseTopic ++ "/" ++ topicToken deviceName ++ "/" ++ "data" := by
      rw [show "/data" = "/" ++ "data" from rfl, ← String.append_assoc]
    have hstrip : PyText.stripChar '/'
        (PyText.stripChar '/' baseTopic ++ "/" ++ topicToken deviceName ++ "/data") =
          PyText.stripChar '/' baseTopic ++ "/" ++ topicToken deviceName ++ "/" ++ "data" := by
      rw [hplain, strip_dataTopic hbase, ← hplain, hdata]
    rw [topicWithGroup_append (group.getD "") hstrip rfl]
    simp only [String.append_assoc]
    rfl
  · exact hplain

end BaseTopic

/-- Once its slashes are stripped, a measurement's topic is never the base topic. -/
theorem strip_plainTopic_ne (baseTopic deviceName : String) (group : Option String) :
    PyText.stripChar '/' (plainTopic baseTopic deviceName group) ≠ PyText.stripChar '/' baseTopic := by
  intro heq
  by_cases hbase : ∃ x ∈ baseTopic.toList, x ≠ '/'
  · -- the topic is the base topic with something behind, of which nothing is stripped
    rw [plainTopic_eq hbase, strip_dataTopic hbase] at heq
    have hlength := congrArg String.length heq
    simp only [String.length_append] at hlength
    have hslash : "/".length = 1 := rfl
    omega
  · have hempty := PyText.stripChar_eq_empty (c := '/') (s := baseTopic) fun x hx => by
      by_contra hne
      exact hbase ⟨x, hx, hne⟩
    have hmem := PyText.mem_stripChar (c := '/') (data_mem_plainTopic baseTopic deviceName group)
      (by decide)
    rw [heq, hempty] at hmem
    cases hmem

theorem fromResults_topic (device : DeviceSpec F) (tags : List (TagResult F)) (now : Datetime)
    (mqtt : MqttConfig) : (BatchMessage.fromResults device tags now mqtt).topic =
      PyText.stripChar '/' mqtt.baseTopic ++ "/" ++ topicToken device.name ++ "/data" := rfl

/-- Without a route a measurement has the plain topic, which the sink is not to use. -/
theorem measurementMessage_none (cfg : PublisherConfig F) {routes : List (OutputRoute F)}
    {device : DeviceSpec F} (tags : List (TagResult F)) {group : Option String} (now : Datetime)
    (h : routeFor routes device (group.getD "") = none) :
    (measurementMessage cfg routes device tags group now).1.topic =
        plainTopic cfg.mqttConfig.baseTopic device.name group ∧
      (measurementMessage cfg routes device tags group now).1.useMessageTopic = false := by
  simp only [measurementMessage, h, plainTopic, Option.all_none, Bool.and_true, Option.map_none,
    Option.getD_none]
  split
  · exact ⟨by rw [fromResults_topic], by rw [BatchMessage.fromResults]⟩
  · exact ⟨by rw [fromResults_topic], by rw [BatchMessage.fromResults]⟩

/-- A route's topic comes before the plain one. -/
theorem measurementMessage_some (cfg : PublisherConfig F) {routes : List (OutputRoute F)}
    {device : DeviceSpec F} (tags : List (TagResult F)) {group : Option String} (now : Datetime)
    {route : OutputRoute F} (h : routeFor routes device (group.getD "") = some route) :
    (measurementMessage cfg routes device tags group now).1.useMessageTopic = true ∧
      ∃ shown, (measurementMessage cfg routes device tags group now).1.topic =
        if route.topic = "" then plainTopic route.mqttConfig.baseTopic device.name shown
        else route.topic := by
  simp only [measurementMessage, h, Option.all_some, Option.map_some, Option.getD_some, true_and]
  split
  · split
    · rename_i hgroup
      rw [Bool.and_eq_true] at hgroup
      refine ⟨group, ?_⟩
      rw [fromResults_topic, plainTopic, if_pos hgroup.1]
    · refine ⟨none, ?_⟩
      rw [fromResults_topic, plainTopic, if_neg]
      exact Bool.false_ne_true
  · exact ⟨none, rfl⟩

/-- Publishing a topic with `/status` appended appends it to what is published for the
topic, unless that is made of slashes only. -/
theorem strip_status_iff {topic : String} :
    PyText.stripChar '/' (PyText.rstripChar '/' topic ++ "/status") =
        PyText.stripChar '/' topic ++ "/status" ↔ ∃ x ∈ topic.toList, x ≠ '/' := by
  constructor
  · intro heq
    by_contra hslashes
    have hall : ∀ x ∈ topic.toList, x = '/' := fun x hx =>
      not_not.mp fun hne => hslashes ⟨x, hx, hne⟩
    have hright : topic.toList.rdropWhile (· == '/') = [] :=
      List.rdropWhile_eq_nil_iff.mpr fun x hx => beq_iff_eq.mpr (hall x hx)
    rw [PyText.rstripChar, hright, PyText.stripChar_eq_empty hall] at heq
    have hword : PyText.stripChar '/' "/status" ≠ "/status" := by decide
    exact hword heq
  · intro htopic
    refine PyText.stripChar_append htopic ?_ (by decide)
    rintro x ⟨⟩
    decide

/-- The status goes to the measurement's topic with `/status` appended exactly when a
route is found for the device and group whose topic is not made of slashes only. -/
theorem status_topic_iff (cfg : PublisherConfig F) (client : Option (MqttClient σ))
    (routes : List (OutputRoute F)) (device : DeviceSpec F) (goodTags tags : List (TagResult F))
    (group : Option String) (connStatus : String) (errorMsg : Option String) (now : Datetime) :
    let sink : MqttSink σ := ⟨cfg.mqttConfig, client⟩
    let measurement := (measurementMessage cfg routes device goodTags group now).1
    sink.effectiveTopic (ctmStatusMessage measurement tags connStatus errorMsg now) =
        sink.effectiveTopic measurement ++ "/status" ↔
      ∃ route, routeFor routes device (group.getD "") = some route ∧
        (route.topic = "" ∨ ∃ x ∈ route.topic.toList, x ≠ '/') := by
  have hplain := fun baseTopic shown => strip_status_iff.mpr
    ⟨'d', data_mem_plainTopic baseTopic device.name shown, by decide⟩
  dsimp only
  rw [MqttSink.effectiveTopic, MqttSink.effectiveTopic, ctmStatusMessage]
  cases hroute : routeFor routes device (group.getD "") with
  | none =>
    obtain ⟨htopic, hbase⟩ := measurementMessage_none cfg goodTags now hroute
    rw [hbase, htopic, if_pos rfl, if_neg nofun, hplain]
    constructor
    · intro heq
      exact absurd ((String.append_left_inj _).mp heq) (strip_plainTopic_ne _ _ _)
    · rintro ⟨route, hsome, -⟩
      cases hsome
  | some route =>
    obtain ⟨huse, shown, htopic⟩ :=
      measurementMessage_some cfg goodTags now hroute
    rw [huse, if_pos rfl, if_pos rfl, htopic]
    by_cases hempty : route.topic = ""
    · rw [if_pos hempty]
      exact ⟨fun _ => ⟨route, rfl, .inl hempty⟩, fun _ => hplain _ shown⟩
    · rw [if_neg hempty, strip_status_iff]
      constructor
      · exact fun hslash => ⟨route, rfl, .inr hslash⟩
      · rintro ⟨_, ⟨⟩, hnone | hslash⟩
        · exact absurd hnone hempty
        · exact hslash

/-- Without routes the measurement is on the base topic and the status is not. -/
theorem status_topic_without_route :
    ¬ ∀ (cfg : PublisherConfig WholeFloat) (routes : List (OutputRoute WholeFloat))
      (device : DeviceSpec WholeFloat) (group : Option String) (now : Datetime),
      let sink : MqttSink Unit := ⟨cfg.mqttConfig, none⟩
      let measurement := (measurementMessage cfg routes device [] group now).1
      sink.effectiveTopic (ctmStatusMessage measurement [] "on" none now) =
        sink.effectiveTopic measurement ++ "/status" := by
  intro h
  have hsame := h ⟨{}, "mqtt", ⟨15⟩, ⟨60⟩⟩ [] ⟨some 1, "press", "opcua", true, 1000, "", ∅⟩ none 0
  exact absurd hsame (by decide +kernel)

end IndustrialGateway
