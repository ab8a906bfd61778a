import IndustrialGateway.CsvRows
import IndustrialGateway.RouteSettings

/-!
# Exported routes

The columns of a route and what the importer makes of them: every setting comes
back as it was written, while the device is looked up by its group and name.
-/

namespace IndustrialGateway

open ConfigService

variable {F : Type} [PyRuntime F]

-- ---------------------------------------------------------------------------
-- Columns
-- ---------------------------------------------------------------------------

def flagText (b : Bool) : String := if b then "1" else "0"

/-- The text of a number that may be missing. -/
def countText : Option Int → String
  | none => ""
  | some n => PyText.textOfInt n

namespace RouteSettings

def kindText (r : RouteSettings F) : String :=
  if r.heartbeat.isSome then "system_heartbeat" else "data"

def intervalText (r : RouteSettings F) : String :=
  countText (r.heartbeat.bind fun h => h.intervalS.map Interval.seconds)

def codeText (r : RouteSettings F) : String :=
  (r.heartbeat.map fun h => h.sensorCode.text).getD ""

/-- The settings of a route as texts. -/
def columns (r : RouteSettings F) : List (String × String) :=
  [("route_kind", r.kindText), ("topic", r.topic.text), ("heartbeat_interval_s", r.intervalText),
    ("sensor_code", r.codeText), ("request_topic_by_mac", flagText r.dynamicTopicEnabled),
    ("dynamic_topic_enabled", flagText r.dynamicTopicEnabled), ("mac_address", r.macAddress.text),
    ("resolved_topic", r.resolvedTopic.text),
    ("resolved_sensor_count", countText r.resolvedSensorCount),
    ("resolved_error", r.resolvedError.text), ("resolved_at", r.resolvedAt.text)]

end RouteSettings

def routeColumns (route : OutputRouteConfig F) (device : Option (DeviceSpec F))
    (r : RouteSettings F) : List (String × String) :=
  [("record_type", "route"), ("device_group", (device.map DeviceSpec.deviceGroup).getD ""),
    ("device_name", if r.heartbeat.isSome then "System Heartbeat"
      else (device.map DeviceSpec.name).getD ""),
    ("tag_group", route.tagGroup), ("sink_type", route.sinkType),
    ("enabled", flagText route.enabled)] ++ r.columns

theorem keys_routeColumns (route : OutputRouteConfig F) (device : Option (DeviceSpec F))
    (r : RouteSettings F) : (routeColumns route device r).map Prod.fst = pluginRouteCsvFields := rfl

omit [PyRuntime F] in
theorem csvText_boolInt [PyRuntime F] (b : Bool) : csvText (boolInt b : PyValue F) = flagText b := by
  cases b <;> rfl

theorem csvText_textField (s : StrippedText) :
    csvText ((textField s : Option (PyValue F)).getD (.str "")) = s.text := by
  rw [textField]
  split
  · rename_i hblank
    exact hblank.symm
  · rfl

theorem csvText_count (n : Option Int) :
    csvText ((n.map PyValue.int).getD (.str "") : PyValue F) = countText n := by
  cases n <;> rfl

theorem truthy_flagField (b : Bool) :
    ((flagField b : Option (PyValue F)).getD (.bool false)).truthy = b := by
  cases b <;> rfl

theorem RouteSettings.csvText_heartbeat (r : RouteSettings F) :
    isText (r.heartbeat.map fun _ => (.str "system_heartbeat" : PyValue F)) "system_heartbeat" =
        r.heartbeat.isSome ∧
      csvText ((r.heartbeat.map fun _ => (.str "system_heartbeat" : PyValue F)).getD (.str "data")) =
        r.kindText ∧
      csvText ((r.heartbeat.map fun h => (.str h.sensorCode.text : PyValue F)).getD (.str "")) =
        r.codeText ∧
      csvText ((r.heartbeat.bind fun h => h.intervalS.map fun i => (.int i.seconds : PyValue F)).getD
        (.str "")) = r.intervalText := by
  rw [kindText, codeText, intervalText]
  rcases r.heartbeat with _ | ⟨code, _ | i, given⟩ <;> exact ⟨rfl, rfl, rfl, rfl⟩

/-- The written texts of a row. -/
def rowTexts (columns : List (String × PyValue F)) : List (String × String) :=
  columns.map fun c => (c.1, csvText c.2)

theorem readBack_ofList {fields : List String} {columns : List (String × PyValue F)}
    (hkeys : columns.map Prod.fst = fields) (hn : fields.Nodup) :
    readBack fields (.ofList columns) =
      .ofList ((rowTexts columns).map fun c => (c.1, some c.2)) := by
  have hcells : fields.map (fun key => (key, some (csvCell (.ofList columns) key))) =
      (rowTexts columns).map fun c => (c.1, some c.2) := by
    rw [← hkeys, rowTexts, List.map_map, List.map_map]
    refine List.map_congr_left fun c hc => ?_
    have hget : (OrderedDict.ofList columns).get? c.1 = some c.2 := by
      rw [OrderedDict.get?_ofList_of_nodup (hkeys ▸ hn)]
      exact (OrderedDict.lookup_eq_some (hkeys ▸ hn)).mpr hc
    simp only [Function.comp_apply, csvCell, ConfigService.optional, hget, Option.getD_some]
  rw [readBack, hcells]

/-- A route as the reader gives it. -/
def routeRowBack (route : OutputRouteConfig F) (device : Option (DeviceSpec F))
    (r : RouteSettings F) : Csv.Row :=
  .ofList ((routeColumns route device r).map fun c => (c.1, some c.2))

/-- The row of a route holds its columns. -/
theorem readBack_pluginRouteCsvRow {route : OutputRouteConfig F} (device : Option (DeviceSpec F))
    {r : RouteSettings F} (h : routeSettings route.config ∅ = .ok r) :
    ∃ row, pluginRouteCsvRow route device = .ok row ∧
      readBack pluginRouteCsvFields row = routeRowBack route device r := by
  have hnormal : routeConfig (.ofList [("config", .dict route.config.entries)]) =
      .ok r.toSettings := (normalConfig_eq route.config).trans (congrArg _ h)
  rw [pluginRouteCsvRow, hnormal, ok_bind]
  refine ⟨_, rfl, ?_⟩
  refine (readBack_ofList ?_ (by decide)).trans ?_
  · rfl
  obtain ⟨hkind, hcode, hinterval⟩ := r.heartbeat_toSettings
  obtain ⟨htopic, hmac, hresolved, herror, hat⟩ := r.texts_toSettings
  obtain ⟨hdynamic, -, hcount⟩ := r.flags_toSettings
  rw [routeRowBack]
  obtain ⟨hisHeartbeat, hkindText, hcodeText, hintervalText⟩ := r.csvText_heartbeat
  simp only [rowTexts, List.map_cons, List.map_nil, ConfigService.optional, hkind, hcode, hinterval,
    htopic, hmac, hresolved, herror, hat, hdynamic, hcount, csvText_textField, csvText_count,
    csvText_boolInt, hisHeartbeat, hkindText, hcodeText, hintervalText, truthy_flagField]
  rfl

-- ---------------------------------------------------------------------------
-- Settings
-- ---------------------------------------------------------------------------

theorem strippedText_of_cell {payload : Settings F} {key : String} {s : StrippedText}
    (h : payload.get? key = some (.str s.text)) : strippedText ∅ payload key = s := by
  have htext : (valueOr (ConfigService.optional (∅ : Settings F) key)
      (valueOr (ConfigService.optional payload key) (.str ""))).text = s.text := by
    rw [ConfigService.optional, ConfigService.optional, h]
    change (valueOr (.str s.text) (.str "") : PyValue F).text = s.text
    rw [valueOr]
    split
    · rfl
    · rename_i hblank
      have hempty : s.text = "" := by simpa [PyValue.truthy] using hblank
      rw [hempty]
      rfl
  rw [strippedText, htext, StrippedText.of]
  obtain ⟨text, hstripped⟩ := s
  simp only [StrippedText.mk.injEq]
  exact hstripped

theorem heartbeatInterval_text {n : Int} (h : heartbeatInterval (.int n : PyValue F) = .ok n) :
    heartbeatInterval (.str (PyText.textOfInt n) : PyValue F) = .ok n := by
  cases hx : (PyRuntime.ofInt n : Option F) with
  | none =>
    have hfloat : (PyValue.int n : PyValue F).toFloat =
        .error ⟨.overflowError, "int too large to convert to float"⟩ := by
      simp [PyValue.toFloat, hx]
    rw [heartbeatInterval, hfloat] at h
    cases h
  | some x =>
    have hfloat : (PyValue.int n : PyValue F).toFloat = .ok x := by simp [PyValue.toFloat, hx]
    have htext : (PyValue.str (PyText.textOfInt n) : PyValue F).toFloat = .ok x := by
      simp [PyValue.toFloat, PyRuntime.parse_textOfInt n x hx]
    rw [heartbeatInterval, hfloat] at h
    rw [heartbeatInterval, htext]
    exact h

theorem csvBool_flagText (b default : Bool) : csvBool (.str (flagText b) : PyValue F) default = b := by
  have htruth : csvTruths.contains (PyText.lower (PyText.strip (flagText b))) = b := by
    revert b
    decide +kernel
  have hblank : isBlank (.str (flagText b) : PyValue F) = false := by cases b <;> rfl
  rw [csvBool, hblank]
  exact htruth

theorem optionalInt_countText (n : Option Int) :
    optionalInt (.str (countText n) : PyValue F) = .ok n := by
  cases n with
  | none => rfl
  | some n =>
    have hblank : isBlank (.str (PyText.textOfInt n) : PyValue F) = false :=
      decide_eq_false (PyText.textOfInt_ne_empty n)
    rw [countText, optionalInt, hblank, PyValue.toInt, PyText.intOfText_textOfInt]
    rfl

theorem heartbeatSettings_texts (h : HeartbeatSettings F) :
    heartbeatSettings h.sensorCode.text
      (.str (countText (h.intervalS.map Interval.seconds)) : PyValue F) = .ok h := by
  obtain ⟨code, interval, hgiven⟩ := h
  have hself := heartbeatSettings_self (⟨code, none, hgiven⟩ : HeartbeatSettings F)
  cases interval with
  | none => exact hself
  | some i =>
    have hblank : isBlank (.str (PyText.textOfInt i.seconds) : PyValue F) = false :=
      decide_eq_false (PyText.textOfInt_ne_empty _)
    have hread : Interval.of (.str (PyText.textOfInt i.seconds) : PyValue F) = .ok i :=
      Interval.of_readable (heartbeatInterval_text i.readable)
    have hcode : sensorCodeOf code.text = code := congrArg HeartbeatSettings.sensorCode (Except.ok.inj hself)
    rw [heartbeatSettings]
    simp only [Option.map_some, countText, hblank, Bool.false_eq_true, ↓reduceIte, hread, hcode]
    rfl

/-- The settings of a route come back from their texts. -/
theorem routeSettings_columns (r : RouteSettings F) {payload : Settings F}
    (h : ∀ key text, (key, text) ∈ r.columns → payload.get? key = some (.str text)) :
    routeSettings ∅ payload = .ok r := by
  have htext : ∀ key (s : StrippedText), (key, s.text) ∈ r.columns → strippedText ∅ payload key = s :=
    fun key s hmem => strippedText_of_cell (h key s.text hmem)
  have hflag : csvBool (dynamicFlag ∅ payload) false = r.dynamicTopicEnabled := by
    have hcell := h "dynamic_topic_enabled" (flagText r.dynamicTopicEnabled)
      (by simp [RouteSettings.columns])
    have hread : dynamicFlag ∅ payload = .str (flagText r.dynamicTopicEnabled) := by
      simp only [dynamicFlag, ConfigService.optional, hcell]
      rfl
    rw [hread, csvBool_flagText]
  have hcount : optionalInt (ConfigService.optional (∅ : Settings F) "resolved_sensor_count"
      (ConfigService.optional payload "resolved_sensor_count")) = .ok r.resolvedSensorCount := by
    have hcell := h "resolved_sensor_count" (countText r.resolvedSensorCount)
      (by simp [RouteSettings.columns])
    simp only [ConfigService.optional, hcell]
    exact optionalInt_countText r.resolvedSensorCount
  have hinterval : ConfigService.optional (∅ : Settings F) "heartbeat_interval_s"
      (ConfigService.optional payload "heartbeat_interval_s") = .str r.intervalText := by
    have hcell := h "heartbeat_interval_s" r.intervalText (by simp [RouteSettings.columns])
    simp only [ConfigService.optional, hcell]
    rfl
  have hkind : isHeartbeat ∅ payload = r.heartbeat.isSome := by
    have hcell := h "route_kind" r.kindText (by simp [RouteSettings.columns])
    simp only [isHeartbeat, routeText, ConfigService.optional, hcell, RouteSettings.kindText]
    cases r.heartbeat with
    | none =>
      change decide (PyText.strip "data" = "system_heartbeat") = false
      decide +kernel
    | some h =>
      change decide (PyText.strip "system_heartbeat" = "system_heartbeat") = true
      decide +kernel
  have hcode := h "sensor_code" r.codeText (by simp [RouteSettings.columns])
  rw [routeSettings, hkind, hinterval, hcount, hflag,
    htext "topic" r.topic (by simp [RouteSettings.columns]),
    htext "mac_address" r.macAddress (by simp [RouteSettings.columns]),
    htext "resolved_topic" r.resolvedTopic (by simp [RouteSettings.columns]),
    htext "resolved_error" r.resolvedError (by simp [RouteSettings.columns]),
    htext "resolved_at" r.resolvedAt (by simp [RouteSettings.columns])]
  cases hr : r.heartbeat with
  | none =>
    rw [Option.isSome_none, if_neg Bool.false_ne_true]
    change Except.ok _ = _
    rw [← hr]
  | some beat =>
    have hcodeText : (valueOr (ConfigService.optional (∅ : Settings F) "sensor_code")
        (valueOr (ConfigService.optional payload "sensor_code") (.str "SYSTEM"))).text =
          beat.sensorCode.text := by
      rw [RouteSettings.codeText, hr] at hcode
      simp only [ConfigService.optional, hcode]
      change (valueOr (.str beat.sensorCode.text) (.str "SYSTEM") : PyValue F).text = _
      simp [valueOr, PyValue.truthy, beat.given, PyValue.text]
    have hintervalText : r.intervalText = countText (beat.intervalS.map Interval.seconds) := by
      rw [RouteSettings.intervalText, hr]
      rfl
    rw [Option.isSome_some, if_pos rfl, hcodeText, hintervalText, heartbeatSettings_texts]
    change Except.ok _ = _
    rw [← hr]

end IndustrialGateway
