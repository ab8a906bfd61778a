import IndustrialGateway.ConfigService
import IndustrialGateway.Lib.WholeFloat

/-!
# The settings of a route

`_route_config` gives every route the same few settings in the same order. A record
holds what it has found, with texts that are stripped and intervals that a float can
hold, so that reading the stored settings again gives the same record.
-/

namespace IndustrialGateway

open ConfigService

variable {F : Type} [PyRuntime F]

-- ---------------------------------------------------------------------------
-- The record
-- ---------------------------------------------------------------------------

/-- A text without white space around it. -/
structure StrippedText where
  text : String
  stripped : PyText.Stripped text
  deriving DecidableEq

def StrippedText.of (s : String) : StrippedText := ⟨PyText.strip s, PyText.stripped_strip s⟩

/-- Seconds between two heartbeats, as a config can hold them. -/
structure Interval (F : Type) [PyRuntime F] where
  seconds : Int
  readable : heartbeatInterval (.int seconds : PyValue F) = .ok seconds

structure HeartbeatSettings (F : Type) [PyRuntime F] where
  sensorCode : StrippedText
  intervalS : Option (Interval F)
  given : sensorCode.text ≠ ""

structure RouteSettings (F : Type) [PyRuntime F] where
  heartbeat : Option (HeartbeatSettings F)
  topic : StrippedText
  dynamicTopicEnabled : Bool
  macAddress : StrippedText
  resolvedTopic : StrippedText
  resolvedSensorCount : Option Int
  resolvedError : StrippedText
  resolvedAt : StrippedText

/-- Blank texts are left out. -/
def textField (s : StrippedText) : Option (PyValue F) :=
  if s.text = "" then none else some (.str s.text)

def flagField (b : Bool) : Option (PyValue F) := if b then some (.bool true) else none

namespace RouteSettings

def fields (r : RouteSettings F) : List (String × Option (PyValue F)) :=
  [("route_kind", r.heartbeat.map fun _ => .str "system_heartbeat"),
    ("sensor_code", r.heartbeat.map fun h => .str h.sensorCode.text),
    ("heartbeat_interval_s", r.heartbeat.bind fun h => h.intervalS.map fun i => .int i.seconds),
    ("topic", textField r.topic), ("dynamic_topic_enabled", flagField r.dynamicTopicEnabled),
    ("mac_address", textField r.macAddress), ("resolved_topic", textField r.resolvedTopic),
    ("resolved_sensor_count", r.resolvedSensorCount.map .int),
    ("resolved_error", textField r.resolvedError), ("resolved_at", textField r.resolvedAt)]

def toSettings (r : RouteSettings F) : Settings F := OrderedDict.ofFields r.fields

end RouteSettings

-- ---------------------------------------------------------------------------
-- Reading
-- ---------------------------------------------------------------------------

/-- The config of a payload, and the flag that has several names. -/
def configPart (payload : Settings F) : Except PyException (Settings F) :=
  match valueOr (optional payload "config") (.dict []) with
  | .dict kvs => .ok (OrderedDict.ofList kvs)
  | v => .error ⟨.attributeError, "'" ++ v.typeName ++ "' object has no attribute 'get'"⟩

def dynamicFlag (config payload : Settings F) : PyValue F :=
  optional config "dynamic_topic_enabled" (optional config "request_topic_by_mac"
    (optional payload "dynamic_topic_enabled" (optional payload "request_topic_by_mac")))

def strippedText (config payload : Settings F) (key : String) : StrippedText :=
  .of (valueOr (optional config key) (valueOr (optional payload key) (.str ""))).text

theorem heartbeatInterval_readable {value : PyValue F} {n : Int}
    (h : heartbeatInterval value = .ok n) : heartbeatInterval (.int n : PyValue F) = .ok n := by
  simp only [heartbeatInterval, bind_eq_ok, pure, Except.pure, Except.ok.injEq] at h
  obtain ⟨x, -, m, hm, rfl⟩ := h
  have htrunc : ∀ k : Int, PyRuntime.trunc x = some k → heartbeatInterval (.int k : PyValue F) =
      .ok (max 1 k) := fun k hk => by
    obtain ⟨y, hy, hyk⟩ := PyRuntime.ofInt_trunc x k hk
    simp [heartbeatInterval, PyValue.toFloat, PyValue.toInt, hy, hyk, bind, Except.bind, pure,
      Except.pure]
  have hone : heartbeatInterval (.int 1 : PyValue F) = .ok 1 := by
    obtain ⟨y, hy, hyk⟩ := PyRuntime.ofInt_trunc (PyRuntime.lit 1 : F) 1 PyRuntime.trunc_lit_one
    simp [heartbeatInterval, PyValue.toFloat, PyValue.toInt, hy, hyk, bind, Except.bind, pure,
      Except.pure]
  have hx : PyRuntime.trunc x = some m := by
    rw [PyValue.toInt] at hm
    split at hm
    · rename_i k hk
      rw [hk, Except.ok.inj hm]
    · split at hm <;> cases hm
  rcases Int.le_total 1 m with h | h
  · rw [max_eq_right h, htrunc m hx, max_eq_right h]
  · rw [max_eq_left h, hone]

/-- `str(code).strip() or "SYSTEM"`. -/
def sensorCodeOf (s : String) : StrippedText where
  text := if PyText.strip s = "" then "SYSTEM" else PyText.strip s
  stripped := by
    split
    · decide +kernel
    · exact PyText.stripped_strip s

theorem given_sensorCodeOf (s : String) : (sensorCodeOf s).text ≠ "" := by
  simp only [sensorCodeOf]
  split
  · simp
  · assumption

def Interval.of (value : PyValue F) : Except PyException (Interval F) :=
  match h : heartbeatInterval value with
  | .ok seconds => .ok ⟨seconds, heartbeatInterval_readable h⟩
  | .error e => .error e

theorem heartbeatInterval_eq (value : PyValue F) :
    heartbeatInterval value = (Interval.of value).map Interval.seconds := by
  rw [Interval.of]
  split
  · exact ‹_›
  · exact ‹_›

theorem Interval.of_readable {value : PyValue F} {i : Interval F}
    (h : heartbeatInterval value = .ok i.seconds) : Interval.of value = .ok i := by
  rw [heartbeatInterval_eq] at h
  cases hof : Interval.of value with
  | error e =>
    rw [hof] at h
    cases h
  | ok j =>
    rw [hof] at h
    obtain ⟨seconds, hj⟩ := j
    obtain ⟨seconds', hi⟩ := i
    cases h
    rfl

def heartbeatSettings (code : String) (interval : PyValue F) :
    Except PyException (HeartbeatSettings F) := do
  let intervalS ← if isBlank interval then pure none else (Interval.of interval).map some
  return ⟨sensorCodeOf code, intervalS, given_sensorCodeOf code⟩

def isHeartbeat (config payload : Settings F) : Bool :=
  routeText config payload "route_kind" "data" = "system_heartbeat"

def routeSettings (config payload : Settings F) : Except PyException (RouteSettings F) := do
  let heartbeat ← if isHeartbeat config payload then
      (heartbeatSettings (valueOr (optional config "sensor_code")
          (valueOr (optional payload "sensor_code") (.str "SYSTEM"))).text
        (optional config "heartbeat_interval_s" (optional payload "heartbeat_interval_s"))).map some
    else pure none
  let resolvedSensorCount ← optionalInt
    (optional config "resolved_sensor_count" (optional payload "resolved_sensor_count"))
  return {
    heartbeat
    topic := strippedText config payload "topic"
    dynamicTopicEnabled := csvBool (dynamicFlag config payload) false
    macAddress := strippedText config payload "mac_address"
    resolvedTopic := strippedText config payload "resolved_topic"
    resolvedSensorCount
    resolvedError := strippedText config payload "resolved_error"
    resolvedAt := strippedText config payload "resolved_at" }

theorem routeSettings_texts {config payload : Settings F} {r : RouteSettings F}
    (h : routeSettings config payload = .ok r) :
    r.topic = strippedText config payload "topic" ∧
      r.macAddress = strippedText config payload "mac_address" := by
  rw [routeSettings] at h
  split at h
  all_goals
    obtain ⟨heartbeat, -, h⟩ := bind_eq_ok.mp h
    obtain ⟨count, -, h⟩ := bind_eq_ok.mp h
    cases h
    exact ⟨rfl, rfl⟩

theorem setText_eq (values config payload : Settings F) (key : String) :
    setText values key (routeText config payload key) =
      OrderedDict.setField values (key, textField (strippedText config payload key)) := by
  rw [setText, textField]
  change (if (strippedText config payload key).text = "" then values else _) = _
  split <;> rfl

theorem configPart_cases (payload : Settings F) :
    (∃ kvs, valueOr (optional payload "config") (.dict []) = .dict kvs ∧
      configPart payload = .ok (.ofList kvs)) ∨
    ∃ e, configPart payload = .error e ∧ routeConfig payload = .error e := by
  cases hv : valueOr (optional payload "config") (.dict []) with
  | dict kvs => exact .inl ⟨kvs, rfl, by rw [configPart, hv]⟩
  | _ => exact .inr ⟨_, by rw [configPart, hv], by simp only [routeConfig, hv, error_bind]⟩

/-- `_route_config` reads the record and writes it down. -/
theorem routeConfig_eq (payload : Settings F) :
    routeConfig payload = configPart payload >>= fun config =>
      (routeSettings config payload).map RouteSettings.toSettings := by
  obtain ⟨kvs, hv, hconfig⟩ | ⟨e, hconfig, hroute⟩ := configPart_cases payload
  · rw [hconfig, routeConfig, hv, ok_bind]
    simp only [setText_eq, Except.pure, Except.bind, bind, pure]
    generalize OrderedDict.ofList kvs = config
    have hcode : (if routeText config payload "sensor_code" "SYSTEM" = "" then "SYSTEM"
        else routeText config payload "sensor_code" "SYSTEM") =
          (sensorCodeOf (valueOr (optional config "sensor_code")
            (valueOr (optional payload "sensor_code") (.str "SYSTEM"))).text).text := by
      rw [sensorCodeOf, routeText]
    simp only [hcode, routeSettings, isHeartbeat, optionalInt, decide_eq_true_eq, bind, Except.bind,
      pure, Except.pure, dynamicFlag]
    generalize optional config "resolved_sensor_count" (optional payload "resolved_sensor_count") =
      count
    generalize csvBool (optional config "dynamic_topic_enabled" _) false = dynamic
    generalize strippedText config payload "topic" = topic
    generalize strippedText config payload "mac_address" = macAddress
    generalize strippedText config payload "resolved_topic" = resolvedTopic
    generalize strippedText config payload "resolved_error" = resolvedError
    generalize strippedText config payload "resolved_at" = resolvedAt
    by_cases hkind : routeText config payload "route_kind" "data" = "system_heartbeat"
    · simp only [hkind, ↓reduceIte]
      generalize optional config "heartbeat_interval_s"
        (optional payload "heartbeat_interval_s") = interval
      generalize (valueOr (optional config "sensor_code")
            (valueOr (optional payload "sensor_code") (.str "SYSTEM"))).text = code
      simp only [heartbeatSettings, heartbeatInterval_eq, bind, Except.bind, pure, Except.pure]
      generalize Interval.of interval = seconds
      cases seconds with
      | error e =>
        cases isBlank interval with
        | true =>
          cases isBlank count with
          | true => cases dynamic <;> rfl
          | false => cases count.toInt <;> cases dynamic <;> rfl
        | false => rfl
      | ok seconds =>
        cases isBlank interval <;> cases isBlank count with
        | true => cases dynamic <;> rfl
        | false => cases count.toInt <;> cases dynamic <;> rfl
    · simp only [hkind, ↓reduceIte]
      cases isBlank count with
      | true => cases dynamic <;> rfl
      | false => cases count.toInt <;> cases dynamic <;> rfl
  · rw [hroute, hconfig, error_bind]

-- ---------------------------------------------------------------------------
-- Stored configs
-- ---------------------------------------------------------------------------

/-- How the service reads the config of a stored route. -/
def normalConfig (config : Settings F) : Except PyException (Settings F) :=
  routeConfig (.ofList [("config", .dict config.entries)])

def routeKeys : List String :=
  ["route_kind", "sensor_code", "heartbeat_interval_s", "topic", "dynamic_topic_enabled",
    "request_topic_by_mac", "mac_address", "resolved_topic", "resolved_sensor_count",
    "resolved_error", "resolved_at"]

theorem routeSettings_congr {config payload payload' : Settings F}
    (h : ∀ key ∈ routeKeys, payload.get? key = payload'.get? key) :
    routeSettings config payload = routeSettings config payload' := by
  have hread : ∀ key ∈ routeKeys, ∀ default, ConfigService.optional payload key default =
      ConfigService.optional payload' key default := fun key hkey default => by
    rw [ConfigService.optional, ConfigService.optional, h key hkey]
  have htext : ∀ key ∈ routeKeys, strippedText config payload key =
      strippedText config payload' key := fun key hkey => by
    rw [strippedText, strippedText, hread key hkey]
  have hkind : isHeartbeat config payload = isHeartbeat config payload' := by
    rw [isHeartbeat, isHeartbeat, routeText, routeText, hread _ (by simp [routeKeys])]
  have hdynamic : dynamicFlag config payload = dynamicFlag config payload' := by
    rw [dynamicFlag, dynamicFlag, hread _ (by simp [routeKeys]), hread _ (by simp [routeKeys])]
  simp only [routeKeys, List.mem_cons, List.not_mem_nil, or_false, forall_eq_or_imp,
    forall_eq] at hread htext
  obtain ⟨-, hcode, hinterval, -, -, -, -, -, hcount, -, -⟩ := hread
  obtain ⟨-, -, -, htopic, -, -, hmac, hresolved, -, herror, hat⟩ := htext
  simp only [routeSettings, hkind, hdynamic, hcode, hinterval, hcount, htopic, hmac, hresolved,
    herror, hat]

theorem normalConfig_eq (config : Settings F) :
    normalConfig config = (routeSettings config ∅).map RouteSettings.toSettings := by
  have hpart : configPart (.ofList [("config", .dict config.entries)]) = .ok config := by
    have hget : optional (.ofList [("config", .dict config.entries)] : Settings F) "config" =
        .dict config.entries := rfl
    have hor : valueOr (.dict config.entries) (.dict [] : PyValue F) = .dict config.entries := by
      cases hentries : config.entries <;> rfl
    rw [configPart, hget, hor]
    exact congrArg Except.ok (OrderedDict.ext (OrderedDict.entries_ofList config.nodup))
  have hpayload : ∀ key ∈ routeKeys,
      (OrderedDict.ofList [("config", .dict config.entries)] : Settings F).get? key =
        (∅ : Settings F).get? key := fun key hkey => by
    rw [OrderedDict.get?_ofList, OrderedDict.get?_empty]
    simp only [routeKeys, List.mem_cons, List.not_mem_nil, or_false] at hkey
    rcases hkey with rfl | rfl | rfl | rfl | rfl | rfl | rfl | rfl | rfl | rfl | rfl <;> rfl
  rw [normalConfig, routeConfig_eq, hpart, ok_bind, routeSettings_congr hpayload]

namespace RouteSettings

theorem get?_toSettings (r : RouteSettings F) (key : String) :
    r.toSettings.get? key = (OrderedDict.lookup key r.fields).join :=
  OrderedDict.get?_ofFields (by simp [fields]) key

theorem heartbeat_toSettings (r : RouteSettings F) :
    r.toSettings.get? "route_kind" = r.heartbeat.map (fun _ => .str "system_heartbeat") ∧
    r.toSettings.get? "sensor_code" = r.heartbeat.map (fun h => .str h.sensorCode.text) ∧
    r.toSettings.get? "heartbeat_interval_s" =
      r.heartbeat.bind fun h => h.intervalS.map fun i => .int i.seconds := by
  simp [get?_toSettings, fields, OrderedDict.lookup]

theorem texts_toSettings (r : RouteSettings F) :
    r.toSettings.get? "topic" = textField r.topic ∧
    r.toSettings.get? "mac_address" = textField r.macAddress ∧
    r.toSettings.get? "resolved_topic" = textField r.resolvedTopic ∧
    r.toSettings.get? "resolved_error" = textField r.resolvedError ∧
    r.toSettings.get? "resolved_at" = textField r.resolvedAt := by
  simp [get?_toSettings, fields, OrderedDict.lookup]

theorem flags_toSettings (r : RouteSettings F) :
    r.toSettings.get? "dynamic_topic_enabled" = flagField r.dynamicTopicEnabled ∧
    r.toSettings.get? "request_topic_by_mac" = none ∧
    r.toSettings.get? "resolved_sensor_count" = r.resolvedSensorCount.map .int := by
  simp [get?_toSettings, fields, OrderedDict.lookup]

end RouteSettings

theorem strippedText_of_config {config : Settings F} {key : String} {s : StrippedText}
    (h : config.get? key = textField s) : strippedText config ∅ key = s := by
  have htext : (valueOr (ConfigService.optional config key)
      (valueOr (ConfigService.optional (∅ : Settings F) key) (.str ""))).text = s.text := by
    rw [ConfigService.optional, h, textField]
    split
    · rename_i hblank
      rw [hblank]
      rfl
    · rename_i hgiven
      simp [valueOr, PyValue.truthy, hgiven, PyValue.text]
  rw [strippedText, htext, StrippedText.of]
  obtain ⟨text, hstripped⟩ := s
  simp only [StrippedText.mk.injEq]
  exact hstripped

theorem heartbeatSettings_self (h : HeartbeatSettings F) :
    heartbeatSettings h.sensorCode.text
      ((h.intervalS.map fun i => PyValue.int i.seconds).getD .none) = .ok h := by
  obtain ⟨code, interval, hgiven⟩ := h
  have hcode : sensorCodeOf code.text = code := by
    obtain ⟨text, hstripped⟩ := code
    have hstrip : PyText.strip text = text := hstripped
    simp only at hgiven
    simp [sensorCodeOf, hstrip, hgiven]
  cases interval with
  | none =>
    simp only [heartbeatSettings, Option.map_none, Option.getD_none, isBlank, ↓reduceIte, hcode]
    rfl
  | some i =>
    have hi : Interval.of (.int i.seconds : PyValue F) = .ok i := Interval.of_readable i.readable
    simp only [heartbeatSettings, Option.map_some, Option.getD_some, isBlank, Bool.false_eq_true,
      ↓reduceIte, hi, hcode]
    rfl

theorem csvBool_flag (b : Bool) : csvBool ((flagField b).getD .none : PyValue F) false = b := by
  cases b with
  | false => rfl
  | true =>
    have htruth : csvTruths.contains (PyText.lower (PyText.strip "True")) = true := by
      decide +kernel
    have htext : (PyValue.bool true : PyValue F).text = "True" := rfl
    change csvBool (.bool true) false = true
    rw [csvBool, htext, htruth]
    rfl

theorem dynamicFlag_toSettings (r : RouteSettings F) :
    csvBool (dynamicFlag r.toSettings ∅) false = r.dynamicTopicEnabled := by
  obtain ⟨hdynamic, hrequest, -⟩ := r.flags_toSettings
  rw [dynamicFlag, ConfigService.optional, ConfigService.optional, hdynamic, hrequest]
  exact csvBool_flag _

/-- What is written down is read as it was. -/
theorem routeSettings_toSettings (r : RouteSettings F) : routeSettings r.toSettings ∅ = .ok r := by
  obtain ⟨hkind, hcode, hinterval⟩ := r.heartbeat_toSettings
  obtain ⟨htopic, hmac, hresolved, herror, hat⟩ := r.texts_toSettings
  obtain ⟨-, -, hcount⟩ := r.flags_toSettings
  have hcounts : optionalInt (ConfigService.optional r.toSettings "resolved_sensor_count"
      (ConfigService.optional ∅ "resolved_sensor_count")) = .ok r.resolvedSensorCount := by
    rw [ConfigService.optional, hcount]
    cases r.resolvedSensorCount <;> rfl
  rw [routeSettings, strippedText_of_config htopic, strippedText_of_config hmac,
    strippedText_of_config hresolved, strippedText_of_config herror, strippedText_of_config hat,
    dynamicFlag_toSettings, hcounts]
  cases hr : r.heartbeat with
  | none =>
    have hdata : isHeartbeat r.toSettings ∅ = false := by
      rw [isHeartbeat, routeText, ConfigService.optional, hkind, hr]
      change decide (PyText.strip "data" = "system_heartbeat") = false
      decide +kernel
    rw [hdata, if_neg Bool.false_ne_true]
    change Except.ok _ = _
    rw [← hr]
  | some h =>
    have hbeat : isHeartbeat r.toSettings ∅ = true := by
      rw [isHeartbeat, routeText, ConfigService.optional, hkind, hr]
      change decide (PyText.strip "system_heartbeat" = "system_heartbeat") = true
      decide +kernel
    have hcodeText : (valueOr (ConfigService.optional r.toSettings "sensor_code")
        (valueOr (ConfigService.optional ∅ "sensor_code") (.str "SYSTEM"))).text =
          h.sensorCode.text := by
      rw [ConfigService.optional, hcode, hr]
      simp [valueOr, PyValue.truthy, h.given, PyValue.text]
    have hintervalRead : ConfigService.optional r.toSettings "heartbeat_interval_s"
        (ConfigService.optional ∅ "heartbeat_interval_s") =
          (h.intervalS.map fun i => PyValue.int i.seconds).getD .none := by
      rw [ConfigService.optional, hinterval, hr]
      rfl
    rw [hbeat, if_pos rfl, hcodeText, hintervalRead, heartbeatSettings_self]
    change Except.ok _ = _
    rw [← hr]

theorem normalConfig_toSettings (r : RouteSettings F) :
    normalConfig r.toSettings = .ok r.toSettings := by
  rw [normalConfig_eq, routeSettings_toSettings]
  rfl

-- ---------------------------------------------------------------------------
-- Readable configs
-- ---------------------------------------------------------------------------

/-- What a stored config can hold under a key. -/
structure Setting (key : String) (value : PyValue F) : Prop where
  json : value.checkJson = .ok ()
  interval : key = "heartbeat_interval_s" → ∃ i : Interval F, value = .int i.seconds
  count : key = "resolved_sensor_count" → ∃ n, value = .int n

/-- A config that the service reads without an exception. -/
def Readable (config : Settings F) : Prop :=
  ∀ key value, config.get? key = some value → Setting key value

theorem setting_str (s : String) {key : String} (hinterval : key ≠ "heartbeat_interval_s")
    (hcount : key ≠ "resolved_sensor_count") : Setting key (.str s : PyValue F) :=
  ⟨rfl, fun h => absurd h hinterval, fun h => absurd h hcount⟩

theorem setting_bool (b : Bool) {key : String} (hinterval : key ≠ "heartbeat_interval_s")
    (hcount : key ≠ "resolved_sensor_count") : Setting key (.bool b : PyValue F) :=
  ⟨rfl, fun h => absurd h hinterval, fun h => absurd h hcount⟩

theorem setting_count (n : Int) : Setting "resolved_sensor_count" (.int n : PyValue F) :=
  ⟨rfl, fun h => absurd h (by decide), fun _ => ⟨n, rfl⟩⟩

namespace Readable

variable {config : Settings F}

theorem set (h : Readable config) {key : String} {value : PyValue F} (hvalue : Setting key value) :
    Readable (config.set key value) := by
  intro k v hk
  rw [OrderedDict.get?_set] at hk
  split at hk
  · rename_i hkey
    cases hk
    rw [← hkey]
    exact hvalue
  · exact h k v hk

theorem update (h : Readable config) {settings : List (String × PyValue F)}
    (hsettings : ∀ key value, (key, value) ∈ settings → Setting key value) :
    Readable (config.update settings) := by
  induction settings generalizing config with
  | nil => exact h
  | cons p settings ih =>
    rw [OrderedDict.update_cons]
    exact ih (h.set (hsettings p.1 p.2 List.mem_cons_self)) fun key value hmem =>
      hsettings key value (List.mem_cons_of_mem _ hmem)

theorem json (h : Readable config) : PyValue.checkJsonDict config.entries = .ok () :=
  PyValue.checkJsonDict_eq_ok.mpr fun p hp =>
    (h p.1 p.2 (OrderedDict.get?_eq_some.mpr hp)).json

theorem normal (h : Readable config) : ∃ r, routeSettings config ∅ = .ok r := by
  have hcount : ∃ count, optionalInt (ConfigService.optional config "resolved_sensor_count"
      (ConfigService.optional ∅ "resolved_sensor_count")) = .ok count := by
    rw [ConfigService.optional]
    cases hget : config.get? "resolved_sensor_count" with
    | none => exact ⟨none, rfl⟩
    | some value =>
      obtain ⟨n, rfl⟩ := (h _ _ hget).count rfl
      exact ⟨some n, rfl⟩
  have hheartbeat : ∀ code, ∃ heartbeat, heartbeatSettings code
      (ConfigService.optional config "heartbeat_interval_s"
        (ConfigService.optional ∅ "heartbeat_interval_s")) = .ok heartbeat := fun code => by
    rw [ConfigService.optional]
    cases hget : config.get? "heartbeat_interval_s" with
    | none => exact ⟨_, rfl⟩
    | some value =>
      obtain ⟨i, rfl⟩ := (h _ _ hget).interval rfl
      rw [heartbeatSettings, Option.getD_some, Interval.of_readable i.readable]
      exact ⟨_, rfl⟩
  obtain ⟨count, hcount⟩ := hcount
  rw [routeSettings, hcount]
  split
  · obtain ⟨heartbeat, hheartbeat⟩ := hheartbeat _
    rw [hheartbeat]
    exact ⟨_, rfl⟩
  · exact ⟨_, rfl⟩

end Readable

theorem readable_setFields {fields : List (String × Option (PyValue F))} {config : Settings F}
    (h : Readable config) (hfields : ∀ key value, (key, some value) ∈ fields → Setting key value) :
    Readable (fields.foldl OrderedDict.setField config) := by
  induction fields generalizing config with
  | nil => exact h
  | cons field fields ih =>
    obtain ⟨key, value⟩ := field
    refine ih ?_ fun k v hmem => hfields k v (List.mem_cons_of_mem _ hmem)
    cases value with
    | none => exact h
    | some value => exact h.set (hfields key value List.mem_cons_self)

theorem readable_toSettings (r : RouteSettings F) : Readable r.toSettings := by
  refine readable_setFields (by rintro key value h; cases h) fun key value hmem => ?_
  simp only [RouteSettings.fields, List.mem_cons, Prod.mk.injEq, List.not_mem_nil,
    or_false] at hmem
  have htext : ∀ s : StrippedText, some value = textField s → ∃ t, value = .str t := fun s hs => by
    rw [textField] at hs
    split at hs
    · cases hs
    · exact ⟨_, Option.some.inj hs⟩
  rcases hmem with ⟨rfl, h⟩ | ⟨rfl, h⟩ | ⟨rfl, h⟩ | ⟨rfl, h⟩ | ⟨rfl, h⟩ | ⟨rfl, h⟩ | ⟨rfl, h⟩ |
    ⟨rfl, h⟩ | ⟨rfl, h⟩ | ⟨rfl, h⟩
  · obtain ⟨_, -, rfl⟩ := Option.map_eq_some_iff.mp h.symm
    exact setting_str _ (by decide) (by decide)
  · obtain ⟨_, -, rfl⟩ := Option.map_eq_some_iff.mp h.symm
    exact setting_str _ (by decide) (by decide)
  · obtain ⟨heartbeat, -, h⟩ := Option.bind_eq_some_iff.mp h.symm
    obtain ⟨i, -, rfl⟩ := Option.map_eq_some_iff.mp h
    exact ⟨rfl, fun _ => ⟨i, rfl⟩, fun h => absurd h (by decide)⟩
  · obtain ⟨t, rfl⟩ := htext _ h
    exact setting_str t (by decide) (by decide)
  · rw [flagField] at h
    split at h <;> cases h
    exact setting_bool true (by decide) (by decide)
  · obtain ⟨t, rfl⟩ := htext _ h
    exact setting_str t (by decide) (by decide)
  · obtain ⟨t, rfl⟩ := htext _ h
    exact setting_str t (by decide) (by decide)
  · obtain ⟨n, -, rfl⟩ := Option.map_eq_some_iff.mp h.symm
    exact setting_count n
  · obtain ⟨t, rfl⟩ := htext _ h
    exact setting_str t (by decide) (by decide)
  · obtain ⟨t, rfl⟩ := htext _ h
    exact setting_str t (by decide) (by decide)

theorem routeConfig_eq_ok {payload config : Settings F} (h : routeConfig payload = .ok config) :
    ∃ r : RouteSettings F, config = r.toSettings := by
  rw [routeConfig_eq, bind_eq_ok] at h
  obtain ⟨part, -, h⟩ := h
  cases hr : routeSettings part payload with
  | error e =>
    rw [hr] at h
    cases h
  | ok r =>
    rw [hr] at h
    exact ⟨r, (Except.ok.inj h).symm⟩

/-- A config that `_route_config` has made is read as it is. -/
theorem normalConfig_routeConfig {payload config : Settings F} (h : routeConfig payload = .ok config) :
    routeConfig (.ofList [("config", .dict config.entries)]) = .ok config := by
  obtain ⟨r, rfl⟩ := routeConfig_eq_ok h
  exact normalConfig_toSettings r

/-- A heartbeat route from a form, with a topic in its config. -/
def formPayload : Settings WholeFloat :=
  .ofList [("route_kind", .str " system_heartbeat "), ("sensor_code", .str "  "),
    ("heartbeat_interval_s", .bool false), ("resolved_sensor_count", .str ""),
    ("request_topic_by_mac", .str "Yes"),
    ("config", .dict [("topic", .str " plant "), ("mac_address", .none)])]

/-- The config that it is saved with. -/
def formConfig : Settings WholeFloat :=
  .ofList [("route_kind", .str "system_heartbeat"), ("sensor_code", .str "SYSTEM"),
    ("heartbeat_interval_s", .int 1), ("topic", .str "plant"), ("dynamic_topic_enabled", .bool true)]

theorem formPayload_normal : routeConfig formPayload = .ok formConfig ∧
    routeConfig (.ofList [("config", .dict formConfig.entries)]) = .ok formConfig :=
  have hconfig : routeConfig formPayload = .ok formConfig := by decide +kernel
  ⟨hconfig, normalConfig_routeConfig hconfig⟩

theorem readable_routeConfig {payload config : Settings F} (h : routeConfig payload = .ok config) :
    Readable config := by
  obtain ⟨r, rfl⟩ := routeConfig_eq_ok h
  exact readable_toSettings r

theorem readable_systemHeartbeatConfig {config : Settings F} (h : Readable config) :
    Readable (systemHeartbeatConfig config) := by
  have hkind : Readable (config.set "route_kind" (.str "system_heartbeat")) :=
    h.set (setting_str _ (by decide) (by decide))
  rw [systemHeartbeatConfig]
  split
  · exact hkind
  · exact hkind.set (setting_str "SYSTEM" (by decide) (by decide))

-- ---------------------------------------------------------------------------
-- Settings of a topic request
-- ---------------------------------------------------------------------------

/-- What `resolve_output_route_topic` sets after a request that failed. -/
def failedSettings (macAddress error now : String) : List (String × PyValue F) :=
  [("dynamic_topic_enabled", .bool true), ("mac_address", .str macAddress),
    ("resolved_error", .str error), ("resolved_at", .str now)]

/-- What it sets after an answer. -/
def resolvedSettings (macAddress topic : String) (sensorCount : Int) (now : String) :
    List (String × PyValue F) :=
  [("dynamic_topic_enabled", .bool true), ("mac_address", .str macAddress),
    ("resolved_topic", .str topic), ("resolved_sensor_count", .int sensorCount),
    ("resolved_error", .str ""), ("resolved_at", .str now)]

theorem setting_failed (macAddress error now : String) (key : String) (value : PyValue F)
    (h : (key, value) ∈ failedSettings macAddress error now) : Setting key value := by
  simp only [failedSettings, List.mem_cons, Prod.mk.injEq, List.not_mem_nil, or_false] at h
  rcases h with ⟨rfl, rfl⟩ | ⟨rfl, rfl⟩ | ⟨rfl, rfl⟩ | ⟨rfl, rfl⟩
  · exact setting_bool true (by decide) (by decide)
  all_goals exact setting_str _ (by decide) (by decide)

theorem setting_resolved (macAddress topic : String) (sensorCount : Int) (now : String)
    (key : String) (value : PyValue F)
    (h : (key, value) ∈ resolvedSettings macAddress topic sensorCount now) : Setting key value := by
  simp only [resolvedSettings, List.mem_cons, Prod.mk.injEq, List.not_mem_nil, or_false] at h
  rcases h with ⟨rfl, rfl⟩ | ⟨rfl, rfl⟩ | ⟨rfl, rfl⟩ | ⟨rfl, rfl⟩ | ⟨rfl, rfl⟩ | ⟨rfl, rfl⟩
  · exact setting_bool true (by decide) (by decide)
  · exact setting_str _ (by decide) (by decide)
  · exact setting_str _ (by decide) (by decide)
  · exact setting_count sensorCount
  all_goals exact setting_str _ (by decide) (by decide)

def topicSettings (macAddress now : String) :
    Except PyException (String × Int) → List (String × PyValue F)
  | .error e => failedSettings macAddress e.message now
  | .ok (topic, sensorCount) => resolvedSettings macAddress topic sensorCount now

theorem setting_topic (macAddress now : String) (answer : Except PyException (String × Int))
    (key : String) (value : PyValue F)
    (h : (key, value) ∈ topicSettings macAddress now answer) : Setting key value := by
  cases answer with
  | error e => exact setting_failed _ _ _ key value h
  | ok found => exact setting_resolved _ _ _ _ key value h

/-- The topic of an answer. -/
theorem resolveTopic_eq_ok {resolver : TopicResolver F} {macAddress topic : String}
    {mqttConfig : Settings F} {sensorCount : Int}
    (h : resolveTopic resolver macAddress mqttConfig = .ok (topic, sensorCount)) :
    ∃ resolved, resolver macAddress mqttConfig = .ok resolved ∧
      topic = receivedTopicPath (valueOr (optional resolved "topic") (.str "")).text := by
  simp only [resolveTopic, bind_eq_ok, pure, Except.pure, Except.ok.injEq, Prod.mk.injEq] at h
  obtain ⟨resolved, hresolved, -, -, -, -, rfl, -⟩ := h
  exact ⟨resolved, hresolved, rfl⟩

/-- A received topic has the prefix of the server. -/
theorem resolveTopic_ne_blank {resolver : TopicResolver F} {macAddress topic : String}
    {mqttConfig : Settings F} {sensorCount : Int}
    (h : resolveTopic resolver macAddress mqttConfig = .ok (topic, sensorCount)) :
    PyText.strip topic ≠ "" := by
  obtain ⟨resolved, -, rfl⟩ := resolveTopic_eq_ok h
  refine PyText.strip_ne_empty (x := '/') ?_ (by decide)
  rw [receivedTopicPath]
  split
  · rename_i hprefix
    exact (List.isPrefixOf_iff_prefix.mp hprefix).subset (by decide)
  · rw [String.toList_append, List.mem_append]
    exact .inl (by decide)

theorem macAddress_toSettings (r : RouteSettings F) :
    PyText.strip (valueOr (ConfigService.optional r.toSettings "mac_address") (.str "")).text =
      r.macAddress.text := by
  have hmac := strippedText_of_config r.texts_toSettings.2.1
  have hdefault : valueOr (ConfigService.optional (∅ : Settings F) "mac_address") (.str "") =
      .str "" := rfl
  rw [strippedText, hdefault, StrippedText.of] at hmac
  rw [← hmac]

-- ---------------------------------------------------------------------------
-- Written configs
-- ---------------------------------------------------------------------------

/-- The texts of a config as the service writes them. -/
structure Formed (config : Settings F) : Prop where
  topic : config.get? "topic" = textField (strippedText config ∅ "topic")
  macAddress : config.get? "mac_address" = textField (strippedText config ∅ "mac_address")

theorem strippedText_congr {config config' : Settings F} {key : String}
    (h : config.get? key = config'.get? key) : strippedText config ∅ key = strippedText config' ∅ key := by
  simp only [strippedText, ConfigService.optional, h]

theorem formed_toSettings (r : RouteSettings F) : Formed r.toSettings := by
  obtain ⟨htopic, hmac, -⟩ := r.texts_toSettings
  exact ⟨by rw [strippedText_of_config htopic, htopic], by rw [strippedText_of_config hmac, hmac]⟩

theorem Formed.congr {config config' : Settings F} (h : Formed config)
    (htopic : config'.get? "topic" = config.get? "topic")
    (hmac : config'.get? "mac_address" = config.get? "mac_address") : Formed config' :=
  ⟨by rw [htopic, h.topic, strippedText_congr htopic], by rw [hmac, h.macAddress, strippedText_congr hmac]⟩

theorem formed_systemHeartbeatConfig {config : Settings F} (h : Formed config) :
    Formed (systemHeartbeatConfig config) := by
  rw [systemHeartbeatConfig]
  split
  · exact h.congr (OrderedDict.get?_set_of_ne (by decide)) (OrderedDict.get?_set_of_ne (by decide))
  · refine h.congr ?_ ?_
    all_goals rw [OrderedDict.get?_set_of_ne (by decide), OrderedDict.get?_set_of_ne (by decide)]

/-- A config as the service leaves it: its flag is what it is read as, and a resolved
topic is not blank. -/
structure WrittenConfig (config : Settings F) : Prop where
  readable : Readable config
  formed : Formed config
  dynamic : (optional config "dynamic_topic_enabled").truthy = csvBool (dynamicFlag config ∅) false
  resolved : (optional config "resolved_topic").truthy →
    (strippedText config ∅ "resolved_topic").text ≠ ""

theorem written_toSettings (r : RouteSettings F) : WrittenConfig r.toSettings where
  readable := readable_toSettings r
  formed := formed_toSettings r
  dynamic := by
    rw [dynamicFlag_toSettings, ConfigService.optional, r.flags_toSettings.1]
    cases r.dynamicTopicEnabled <;> rfl
  resolved := by
    obtain ⟨-, -, hresolved, -⟩ := r.texts_toSettings
    rw [strippedText_of_config hresolved, ConfigService.optional, hresolved, textField]
    split
    · nofun
    · exact fun _ => ‹_›

theorem written_routeConfig {payload config : Settings F} (h : routeConfig payload = .ok config) :
    WrittenConfig config := by
  obtain ⟨r, rfl⟩ := routeConfig_eq_ok h
  exact written_toSettings r

theorem WrittenConfig.systemHeartbeat {config : Settings F} (h : WrittenConfig config) :
    WrittenConfig (systemHeartbeatConfig config) := by
  have hget (key : String) (hkind : key ≠ "route_kind") (hcode : key ≠ "sensor_code") :
      (systemHeartbeatConfig config).get? key = config.get? key := by
    rw [systemHeartbeatConfig]
    split
    · exact OrderedDict.get?_set_of_ne hkind.symm
    · rw [OrderedDict.get?_set_of_ne hcode.symm, OrderedDict.get?_set_of_ne hkind.symm]
  have hread (key : String) (hkind : key ≠ "route_kind") (hcode : key ≠ "sensor_code")
      (default : PyValue F) : ConfigService.optional (systemHeartbeatConfig config) key default =
        ConfigService.optional config key default := by
    rw [ConfigService.optional, ConfigService.optional, hget key hkind hcode]
  refine ⟨readable_systemHeartbeatConfig h.readable, formed_systemHeartbeatConfig h.formed, ?_, ?_⟩
  · rw [dynamicFlag, hread _ (by decide) (by decide), hread _ (by decide) (by decide),
      hread _ (by decide) (by decide)]
    exact h.dynamic
  · rw [hread _ (by decide) (by decide), strippedText_congr (hget _ (by decide) (by decide))]
    exact h.resolved

/-- The settings of a request whose answer is no blank. -/
theorem written_topic {r : RouteSettings F} (hmac : r.macAddress.text ≠ "") (now : String)
    (answer : Except PyException (String × Int))
    (hanswer : ∀ topic sensorCount, answer = .ok (topic, sensorCount) → PyText.strip topic ≠ "") :
    WrittenConfig (r.toSettings.update (topicSettings r.macAddress.text now answer)) := by
  have hset (key : String) : (r.toSettings.update (topicSettings r.macAddress.text now answer)).get? key =
      (OrderedDict.lookup key (topicSettings r.macAddress.text now answer).reverse).or
        (r.toSettings.get? key) := OrderedDict.get?_update _ _ _
  have hwritten := written_toSettings r
  have htopic : (r.toSettings.update (topicSettings r.macAddress.text now answer)).get? "topic" =
      r.toSettings.get? "topic" := by
    rw [hset]
    rcases answer with e | ⟨topic, sensorCount⟩ <;> rfl
  have hmacAddress : (r.toSettings.update
      (topicSettings r.macAddress.text now answer)).get? "mac_address" = textField r.macAddress := by
    rw [hset, textField, if_neg hmac]
    rcases answer with e | ⟨topic, sensorCount⟩ <;> rfl
  have hdynamic : (r.toSettings.update
      (topicSettings r.macAddress.text now answer)).get? "dynamic_topic_enabled" =
        some (.bool true) := by
    rw [hset]
    rcases answer with e | ⟨topic, sensorCount⟩ <;> rfl
  refine ⟨hwritten.readable.update (setting_topic _ _ answer), ⟨?_, ?_⟩, ?_, ?_⟩
  · rw [htopic, strippedText_congr htopic]
    exact hwritten.formed.topic
  · rw [strippedText_of_config hmacAddress, hmacAddress]
  · rw [dynamicFlag, ConfigService.optional, ConfigService.optional, hdynamic]
    exact (csvBool_flag true).symm
  · rcases answer with e | ⟨topic, sensorCount⟩
    · have hkeeps : (r.toSettings.update
          (topicSettings r.macAddress.text now (.error e))).get? "resolved_topic" =
            r.toSettings.get? "resolved_topic" := (hset _).trans rfl
      rw [ConfigService.optional, hkeeps, strippedText_congr hkeeps]
      exact hwritten.resolved
    · have hgiven : (r.toSettings.update
          (topicSettings r.macAddress.text now (.ok (topic, sensorCount)))).get? "resolved_topic" =
            some (.str topic) := (hset _).trans rfl
      intro htruthy
      have htext := hanswer topic sensorCount rfl
      rw [ConfigService.optional, hgiven, Option.getD_some] at htruthy
      rw [strippedText, ConfigService.optional, hgiven, Option.getD_some, valueOr, if_pos htruthy]
      exact htext

end IndustrialGateway
