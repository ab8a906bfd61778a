import IndustrialGateway.Lib.WholeFloat
import IndustrialGateway.TopicRequest

/-!
# Agreement on topics

The responder and the client through the broker: a route gets the topic of its
MAC when the table has one, unless the client takes a part of it for the prefix.
The client takes the answer to an unknown MAC for a topic too.
-/

namespace IndustrialGateway

open ConfigStore ConfigService Fallible

variable {F : Type} [PyRuntime F] {s t : ConfigStore F}

-- ---------------------------------------------------------------------------
-- Received topics
-- ---------------------------------------------------------------------------

theorem lstripChar_of_startsWith {topic : String} (h : PyText.startsWith "/" topic = true) :
    (PyText.lstripChar '/' topic).toList.length < topic.toList.length := by
  rw [PyText.lstripChar, String.toList_ofList]
  cases hcs : topic.toList with
  | nil =>
    rw [PyText.startsWith, hcs] at h
    cases h
  | cons c cs =>
    have hc : c = '/' := by
      rw [PyText.startsWith, hcs] at h
      have h : ('/' == c && List.isPrefixOf [] cs) = true := h
      exact (beq_iff_eq.mp (Bool.and_eq_true_iff.mp h).1).symm
    rw [hc, List.dropWhile_cons_of_pos (by simp), List.length_cons]
    exact Nat.lt_succ_of_le (List.dropWhile_sublist _).length_le

theorem lstripChar_of_not_startsWith {topic : String} (h : PyText.startsWith "/" topic = false) :
    PyText.lstripChar '/' topic = topic := by
  have hdrop : topic.toList.dropWhile (· == '/') = topic.toList := by
    cases hcs : topic.toList with
    | nil => rfl
    | cons c cs =>
      rw [PyText.startsWith, hcs] at h
      refine List.dropWhile_cons_of_neg fun hc => ?_
      rw [beq_iff_eq.mp hc] at h
      cases h
  rw [PyText.lstripChar, hdrop, String.ofList_toList]

/-- The client puts the prefix before a topic that has neither a slash nor the
prefix in front. -/
theorem receivedTopicPath_eq_iff (topic : String) :
    receivedTopicPath topic = "C-S/" ++ topic ↔
      PyText.startsWith "/" topic = false ∧ PyText.startsWith "C-S/" topic = false := by
  have hlength : ("C-S/" ++ topic).toList.length = topic.toList.length + 4 := by
    rw [String.toList_append, List.length_append, add_comm]
    rfl
  have hprefixed : ∀ s : String, ("C-S/" ++ s).toList.length = s.toList.length + 4 := fun s => by
    rw [String.toList_append, List.length_append, add_comm]
    rfl
  rw [receivedTopicPath]
  cases hslash : PyText.startsWith "/" topic with
  | true =>
    have hshort := lstripChar_of_startsWith hslash
    refine iff_of_false (fun h => ?_) (by simp)
    have hlen := congrArg (fun s : String => s.toList.length) h
    simp only [hprefixed] at hlen
    split at hlen
    · omega
    · rw [hprefixed] at hlen
      omega
  | false =>
    rw [lstripChar_of_not_startsWith hslash]
    cases hcs : PyText.startsWith "C-S/" topic with
    | true =>
      refine iff_of_false (fun h => ?_) (by simp)
      have hlen := congrArg (fun s : String => s.toList.length) h
      simp only [↓reduceIte, hprefixed] at hlen
      omega
    | false => simp

/-- Only the first part of a path decides whether it begins with a prefix whose
one slash is at its end. -/
theorem isPrefixOf_first {p : List Char} (hp : '/' ∉ p.dropLast) (first rest : List Char) :
    p.isPrefixOf (first ++ '/' :: rest) = p.isPrefixOf (first ++ ['/']) := by
  induction first generalizing p with
  | nil =>
    cases p with
    | nil => rfl
    | cons c p =>
      cases p with
      | nil => rfl
      | cons d p =>
        have hc : (c == '/') = false := by
          rw [beq_eq_false_iff_ne]
          rintro rfl
          exact hp List.mem_cons_self
        simp only [List.nil_append, List.isPrefixOf, hc, Bool.false_and]
  | cons x first ih =>
    cases p with
    | nil => rfl
    | cons c p =>
      have hp' : '/' ∉ p.dropLast := fun h => hp (by
        cases p with
        | nil => cases h
        | cons d p => exact List.mem_cons_of_mem _ h)
      simp only [List.cons_append, List.isPrefixOf, ih hp']

theorem startsWith_first {p : String} (hp : '/' ∉ p.toList.dropLast) (first rest : String) :
    PyText.startsWith p (first ++ ("/" ++ rest)) = PyText.startsWith p (first ++ "/") := by
  simp only [PyText.startsWith, String.toList_append]
  exact isPrefixOf_first hp _ _

namespace TopicResponder

/-- A topic of the table that the client keeps as it is: its first part is given
and is no prefix of its own. -/
def KeepsPrefix (mapping : Settings F) : Prop :=
  PyText.startsWith "/" ((optional mapping "plant_cd").text ++ "/") = false ∧
    PyText.startsWith "C-S/" ((optional mapping "plant_cd").text ++ "/") = false

theorem receivedTopicPath_mappingTopic (mapping : Settings F) :
    receivedTopicPath (mappingTopic mapping) = "C-S/" ++ mappingTopic mapping ↔
      KeepsPrefix mapping := by
  rw [receivedTopicPath_eq_iff, KeepsPrefix, mappingTopic]
  simp only [String.append_assoc]
  rw [startsWith_first (by decide), startsWith_first (by decide)]

theorem receivedTopicPath_ne_of_end (front : String) :
    receivedTopicPath (front ++ "-/") ≠ "C-S/" := by
  obtain ⟨cs, hcs⟩ : ∃ cs, PyText.lstripChar '/' (front ++ "-/") = String.ofList (cs ++ ['-', '/']) := by
    rw [PyText.lstripChar, String.toList_append, List.dropWhile_append]
    split
    · exact ⟨[], rfl⟩
    · exact ⟨_, rfl⟩
  have hend : ∀ ds : List Char, (ds ++ ['-', '/']).reverse.take 2 ≠ "C-S/".toList.reverse.take 2 :=
    fun ds => by simp
  rw [receivedTopicPath, hcs]
  intro h
  have hlist := congrArg (fun s : String => s.toList.reverse.take 2) h
  split at hlist
  · rw [String.toList_ofList] at hlist
    exact hend cs hlist
  · simp only [String.toList_append, String.toList_ofList, ← List.append_assoc] at hlist
    exact hend _ hlist

/-- No answer is taken for an empty topic. -/
theorem receivedTopicPath_topicValue (responder : TopicResponder F) (mac : String) :
    receivedTopicPath (responder.topicValue mac) ≠ "C-S/" := by
  simp only [topicValue]
  split
  · decide +kernel
  · rw [mappingTopic, show ("/-/" : String) = "/" ++ "-/" from rfl, ← String.append_assoc]
    exact receivedTopicPath_ne_of_end _

-- ---------------------------------------------------------------------------
-- The exchange
-- ---------------------------------------------------------------------------

theorem handlePayload_request (responder : TopicResponder F) {mac : String}
    (hstripped : PyText.Stripped mac) (hmac : mac ≠ "") (topic : String) :
    responder.handlePayload ⟨topic, some (.dict [("mac", .str mac)])⟩ =
      if topic = requestTopic then responder.publishTopicResponse mac
      else if topic = requestSensorCode then responder.publishSensorCodeResponse mac
      else .ok [] := by
  have hread : PyText.strip (valueOr (optional (.ofList [("mac", .str mac)] : Settings F) "mac")
      (.str "")).text = mac := by
    have hget : optional (.ofList [("mac", .str mac)] : Settings F) "mac" = .str mac := rfl
    rw [hget, valueOr]
    simp only [PyValue.truthy, hmac, ne_eq, not_false_eq_true, decide_true, ↓reduceIte]
    exact hstripped
  simp only [handlePayload, hread, if_neg hmac]

theorem answers_topic (responder : TopicResponder F)
    (connect : TopicClient F → Except PyException Unit) {mac : String}
    (hstripped : PyText.Stripped mac) (hmac : mac ≠ "") :
    (responder.broker connect).answers ⟨requestTopic, some (.dict [("mac", .str mac)])⟩ =
      [⟨"S-C/request-topic/" ++ mac, some (.dict [("topic", .str (responder.topicValue mac))])⟩] := by
  simp only [broker, responder.handlePayload_request hstripped hmac, ↓reduceIte]
  rfl

theorem answers_sensorCode (responder : TopicResponder F)
    (connect : TopicClient F → Except PyException Unit) {mac : String}
    (hstripped : PyText.Stripped mac) (hmac : mac ≠ "") :
    (responder.broker connect).answers ⟨requestSensorCode, some (.dict [("mac", .str mac)])⟩ = [] ∨
      ∃ rows, (responder.broker connect).answers
          ⟨requestSensorCode, some (.dict [("mac", .str mac)])⟩ =
        [⟨"S-C/request-sensor_cd/" ++ mac, some (.list rows)⟩] := by
  have hne : requestSensorCode ≠ requestTopic := by decide
  simp only [broker, responder.handlePayload_request hstripped hmac, if_neg hne, ↓reduceIte,
    publishSensorCodeResponse]
  rcases responder.fetchSensorRows mac with e | rows
  · exact .inl rfl
  · rw [ok_bind, publish]
    cases hjson : PyValue.checkJson (.list (rows.map fun row => PyValue.dict row.entries)) with
    | error e => exact .inl rfl
    | ok checked => exact .inr ⟨_, rfl⟩

theorem valueOr_text (s : String) : (valueOr (.str s) (.str "") : PyValue F).text = s := by
  rw [valueOr]
  split
  · rfl
  · rename_i hblank
    have hblank : s = "" := by simpa [PyValue.truthy] using hblank
    rw [hblank]
    rfl

theorem onMessage_topic (responder : TopicResponder F) (mac : String) :
    TopicAnswer.onMessage mac ⟨none, none⟩ (⟨"S-C/request-topic/" ++ mac,
      some (.dict [("topic", .str (responder.topicValue mac))])⟩ : TopicMessage F) =
        ⟨some (responder.topicValue mac), none⟩ := by
  have hget : optional (.ofList [("topic", .str (responder.topicValue mac))] : Settings F) "topic" =
      .str (responder.topicValue mac) := rfl
  simp only [TopicAnswer.onMessage, ↓reduceIte, hget, valueOr_text]

/-- The client comes back with the topic that the responder published. -/
theorem requestTopicByMac_broker (responder : TopicResponder F)
    {connect : TopicClient F → Except PyException Unit} {mqttConfig : Settings F} {millis : Int}
    (hconnect : topicClient mqttConfig millis >>= connect = .ok ()) {mac : String}
    (hstripped : PyText.Stripped mac) (hmac : mac ≠ "") :
    ∃ sensorCount : Nat, requestTopicByMac (responder.broker connect) millis mac mqttConfig =
      .ok (.ofList [("topic", .str (responder.topicValue mac)), ("sensor_count", .int sensorCount)]) := by
  obtain ⟨client, hclient, hconnect⟩ := bind_eq_ok.mp hconnect
  have hstrip : PyText.strip mac = mac := hstripped
  have htopic := responder.answers_topic connect hstripped hmac
  have hsensors := responder.answers_sensorCode connect hstripped hmac
  rw [requestTopic] at htopic
  rw [requestSensorCode] at hsensors
  rw [requestTopicByMac, hstrip, raiseUnless, if_pos (decide_eq_true hmac), ok_bind, hclient, ok_bind,
    show (responder.broker connect).connect client = connect client from rfl, hconnect, ok_bind]
  simp only [htopic, List.foldl_cons, List.foldl_nil, onMessage_topic, Option.isNone_some,
    Bool.false_eq_true, ↓reduceIte]
  rcases hsensors with hsensors | ⟨rows, hsensors⟩
  · refine ⟨0, ?_⟩
    simp only [hsensors, List.foldl_nil, Option.getD_some, Option.getD_none, pure, Except.pure]
  · refine ⟨rows.length, ?_⟩
    simp only [hsensors, List.foldl_cons, List.foldl_nil, TopicAnswer.onMessage, ↓reduceIte,
      Option.getD_some, pure, Except.pure]

theorem resolveTopic_broker (responder : TopicResponder F)
    {connect : TopicClient F → Except PyException Unit} {mqttConfig : Settings F} {millis : Int}
    (hconnect : topicClient mqttConfig millis >>= connect = .ok ()) {mac : String}
    (hstripped : PyText.Stripped mac) (hmac : mac ≠ "") :
    ∃ sensorCount, resolveTopic (requestTopicByMac (responder.broker connect) millis) mac mqttConfig =
      .ok (receivedTopicPath (responder.topicValue mac), sensorCount) := by
  obtain ⟨sensorCount, hrequest⟩ := responder.requestTopicByMac_broker hconnect hstripped hmac
  refine ⟨sensorCount, ?_⟩
  have htopic : optional (.ofList [("topic", .str (responder.topicValue mac)),
      ("sensor_count", .int sensorCount)] : Settings F) "topic" = .str (responder.topicValue mac) := by
    rw [ConfigService.optional, OrderedDict.get?_ofList]
    rfl
  have hcount : optional (.ofList [("topic", .str (responder.topicValue mac)),
      ("sensor_count", .int sensorCount)] : Settings F) "sensor_count" = .int sensorCount := by
    rw [ConfigService.optional, OrderedDict.get?_ofList]
    rfl
  have hcountInt : (valueOr (.int sensorCount) (.int 0) : PyValue F).toInt = .ok (sensorCount : Int) := by
    rw [valueOr]
    split
    · rfl
    · rename_i hzero
      have hzero : (sensorCount : Int) = 0 := by simpa [PyValue.truthy] using hzero
      rw [hzero]
      rfl
  have hne := responder.receivedTopicPath_topicValue mac
  simp only [resolveTopic, hrequest, ok_bind, htopic, valueOr_text, hcount, hcountInt, raiseUnless,
    hne, ne_eq, not_false_eq_true, decide_true, ↓reduceIte]
  rfl

theorem unknownMac_ne (mapping : Settings F) :
    receivedTopicPath "Unknown MAC" ≠ "C-S/" ++ mappingTopic mapping := by
  have hpath : receivedTopicPath "Unknown MAC" = "C-S/Unknown MAC" := by decide +kernel
  rw [hpath, mappingTopic]
  intro h
  have hlist := congrArg (fun s : String => s.toList.reverse.take 1) h
  simp only [String.toList_append, List.reverse_append] at hlist
  cases hlist

/-- What a route has after a request: the topic of its MAC, or an error and the
topics that it had. -/
structure Agrees (responder : TopicResponder F) (mac : String) (before after : OutputRouteRow F)
    (error : Option String) : Prop where
  known : ∀ mapping, responder.deviceMap.get? mac = some mapping →
    after.config.get? "resolved_topic" = some (.str ("C-S/" ++ mappingTopic mapping))
  unknown : responder.deviceMap.get? mac = none → error ≠ none ∧
    after.config.get? "resolved_topic" = before.config.get? "resolved_topic" ∧
    ∀ base, routeTopic base (routePublishTopic after.config) =
      routeTopic base (routePublishTopic before.config)

theorem resolve_agrees_iff {allowed : Operation F → ConfigStore F → Prop} (h : Reachable allowed s)
    (responder : TopicResponder F) {connect : TopicClient F → Except PyException Unit}
    {millis : Int} (now : String) {routeId : Int} {row : OutputRouteRow F} {mac : String}
    (hrow : s.outputRoutes.get? routeId = some row)
    (hmac : routeText row.config ∅ "mac_address" = mac) (hgiven : mac ≠ "")
    (hconnect : topicClient (s.getSinkConfig (some "mqtt")).config millis >>= connect = .ok ()) :
    ∃ result t after,
      resolveOutputRouteTopic (requestTopicByMac (responder.broker connect) millis) now routeId s =
        (.ok result, t) ∧
      t.outputRoutes.get? routeId = some after ∧
      (Agrees responder mac row after result.error ↔
        ∃ mapping, responder.deviceMap.get? mac = some mapping ∧ mapping ≠ ∅ ∧
          KeepsPrefix mapping) := by
  obtain ⟨r, hr⟩ := ((storedRoutes_of_reachable h).readable routeId row hrow).normal
  have hmacText : r.macAddress.text = mac := by
    rw [(routeSettings_texts hr).2, ← hmac]
    rfl
  obtain ⟨sensorCount, htopic⟩ := responder.resolveTopic_broker hconnect
    (hmacText ▸ r.macAddress.stripped) hgiven
  obtain ⟨result, t, hresolve, -, hroutes, herror, -⟩ := resolveOutputRouteTopic_eq_ok
    (storedRows_of_reachable h) (storedRoutes_of_reachable h)
    (requestTopicByMac (responder.broker connect) millis) now hrow hr (hmacText ▸ hgiven)
  rw [hmacText, htopic] at hroutes herror
  refine ⟨result, t, _, hresolve, by rw [hroutes, Table.get?_update, if_pos rfl, hrow]; rfl, ?_⟩
  have hafter : (resolvedRow row r now (.ok (receivedTopicPath (responder.topicValue mac),
      sensorCount))).config.get? "resolved_topic" =
        some (.str (receivedTopicPath (responder.topicValue mac))) := by
    rw [resolvedRow, OrderedDict.get?_update]
    rfl
  have hvalue : ∀ mapping, responder.deviceMap.get? mac = some mapping → mapping ≠ ∅ →
      responder.topicValue mac = mappingTopic mapping := fun mapping hget hne => by
    have hempty : mapping.isEmpty ≠ true := fun h => hne (OrderedDict.isEmpty_iff.mp h)
    simp only [topicValue, hget, Option.getD_some, if_neg hempty]
  constructor
  · rintro ⟨hknown, hunknown⟩
    cases hget : responder.deviceMap.get? mac with
    | none => exact absurd herror (hunknown hget).1
    | some mapping =>
      have hresolved := hafter.symm.trans (hknown mapping hget)
      simp only [Option.some.injEq, PyValue.str.injEq] at hresolved
      by_cases hempty : mapping = ∅
      · subst hempty
        have hunknownMac : responder.topicValue mac = "Unknown MAC" := by
          simp only [topicValue, hget, Option.getD_some]
          rfl
        rw [hunknownMac] at hresolved
        exact absurd hresolved (unknownMac_ne _)
      · rw [hvalue mapping hget hempty, receivedTopicPath_mappingTopic] at hresolved
        exact ⟨mapping, rfl, hempty, hresolved⟩
  · rintro ⟨mapping, hget, hne, hkeeps⟩
    refine ⟨fun found hfound => ?_, fun hnone => ?_⟩
    · cases hget.symm.trans hfound
      rw [hafter, hvalue mapping hget hne, (receivedTopicPath_mappingTopic mapping).mpr hkeeps]
    · cases hget.symm.trans hnone

def boxPayload : Settings WholeFloat :=
  .ofList [("dynamic_topic_enabled", .bool true), ("mac_address", .str "AA:BB")]

def boxStore : ConfigStore WholeFloat := (Operation.saveOutputRoute boxPayload).run initialized

def boxRow : OutputRouteRow WholeFloat := ⟨none, "", "mqtt", true, boxPayload⟩

theorem boxStore_reachable : Reachable (fun _ _ => True) boxStore := .run _ .initialized trivial

theorem boxStore_row : boxStore.outputRoutes.get? 1 = some boxRow := by decide +kernel

def pressMapping : Settings WholeFloat :=
  .ofList [("mac_address", .str "AA:BB"), ("process_type", .str "press"), ("line_code", .str "L1"),
    ("equip_name", .str "P-7"), ("plant_bd", .str "B1"), ("plant_cd", .str "K1")]

def pressResponder : TopicResponder WholeFloat := ⟨.ofList [("AA:BB", pressMapping)], fun _ => .ok []⟩

theorem resolve_agrees_press : ∃ result t after,
    resolveOutputRouteTopic (requestTopicByMac (pressResponder.broker fun _ => .ok ()) 0) "noon" 1
      boxStore = (.ok result, t) ∧
    t.outputRoutes.get? 1 = some after ∧
    (Agrees pressResponder "AA:BB" boxRow after result.error ↔
      ∃ mapping, pressResponder.deviceMap.get? "AA:BB" = some mapping ∧ mapping ≠ ∅ ∧
        KeepsPrefix mapping) :=
  resolve_agrees_iff boxStore_reachable pressResponder "noon" boxStore_row (by decide +kernel)
    (by decide) rfl

def unknownResponder : TopicResponder WholeFloat := ⟨∅, fun _ => .ok []⟩

def unknownRequest : Except PyException (ResolvedRoute WholeFloat) × ConfigStore WholeFloat :=
  resolveOutputRouteTopic (requestTopicByMac (unknownResponder.broker fun _ => .ok ()) 0) "noon" 1
    boxStore

/-- The answer to an unknown MAC becomes the topic of the route. -/
theorem unknownMac_resolved : ¬ ∀ result after, unknownRequest.1 = .ok result →
    unknownRequest.2.outputRoutes.get? 1 = some after →
      Agrees unknownResponder "AA:BB" boxRow after result.error := by
  intro h
  have herror : (unknownRequest.1.map ResolvedRoute.error).toOption = some none := by decide +kernel
  have hfound : (unknownRequest.2.outputRoutes.get? 1).isSome = true := by decide +kernel
  obtain ⟨after, hafter⟩ := Option.isSome_iff_exists.mp hfound
  cases hresult : unknownRequest.1 with
  | error e =>
    rw [hresult] at herror
    cases herror
  | ok result =>
    rw [hresult] at herror
    have hnone : result.error = none := Option.some.inj herror
    exact ((h result after hresult hafter).unknown rfl).1 hnone

end TopicResponder

end IndustrialGateway
