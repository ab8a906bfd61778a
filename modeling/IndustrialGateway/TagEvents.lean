import IndustrialGateway.Modbus
import IndustrialGateway.StoreLaws
import IndustrialGateway.PublisherRules

/-!
# Events on tags

Drivers make results of tags, and the publisher makes events of results: one when it
caches the result, and one for each cached result when the status of its device changes.
Whatever the publisher is given, each of its tag updates is about a tag of the store.
-/

namespace IndustrialGateway

open ConfigStore

variable {F : Type}

-- ---------------------------------------------------------------------------
-- Results of the drivers
-- ---------------------------------------------------------------------------

namespace OpcUa

def bad (tag : TagSpec F) (timestamp : Datetime) (error : String) : TagResult F :=
  ⟨tag.name, tag.address, .none, .bad, some error, timestamp, tag.nodeId, tag.tagGroup⟩

/-- What `_read_tag` and `datachange_notification` make of a value. -/
def tagResult (tag : TagSpec F) (timestamp : Datetime) :
    Except PyException (PyValue F) → TagResult F
  | .ok value => ⟨tag.name, tag.address, value, .good, none, timestamp, tag.nodeId, tag.tagGroup⟩
  | .error exc => bad tag timestamp exc.message

end OpcUa

namespace MqttInput

/-- `_bad`, for a message that cannot be read. -/
def bad (tag : TagSpec F) (timestamp : Datetime) (error : String) : TagResult F :=
  ⟨tag.name, tag.address, .none, .bad, some error, timestamp, tag.nodeId, tag.tagGroup⟩

/-- `_tag_result`, with the field of the message as the node id. -/
def tagResult (tag : TagSpec F) (timestamp : Datetime) :
    Except PyException (PyValue F) → TagResult F
  | .ok value => ⟨tag.name, tag.address, value, .good, none, timestamp,
      some (textOr tag.nodeId tag.name), tag.tagGroup⟩
  | .error exc => ⟨tag.name, tag.address, .none, .bad, some exc.message, timestamp,
      some (textOr tag.nodeId tag.name), tag.tagGroup⟩

end MqttInput

/-- A tag with its device. -/
structure RuntimeTag (F : Type) where
  device : DeviceSpec F
  tag : TagSpec F

def modbusDrivers : List String := ["modbus_tcp", "modbus_serial", "modbus_rtu_monitor"]

/-- The results of the device's driver for the tag. The Modbus drivers leave out the node id. -/
inductive DriverResult (x : RuntimeTag F) : TagResult F → Prop
  | modbus (h : x.device.driverType ∈ modbusDrivers) (timestamp : Datetime)
    (outcome : Except PyException (PyValue F)) :
    DriverResult x (Modbus.tagResult x.tag timestamp outcome)
  | opcua (h : x.device.driverType = "opcua") (timestamp : Datetime)
    (outcome : Except PyException (PyValue F)) :
    DriverResult x (OpcUa.tagResult x.tag timestamp outcome)
  | mqtt (h : x.device.driverType = "mqtt") (timestamp : Datetime)
    (outcome : Except PyException (PyValue F)) :
    DriverResult x (MqttInput.tagResult x.tag timestamp outcome)
  | mqttBad (h : x.device.driverType = "mqtt") (timestamp : Datetime) (error : String) :
    DriverResult x (MqttInput.bad x.tag timestamp error)

-- ---------------------------------------------------------------------------
-- Events
-- ---------------------------------------------------------------------------

def tagUpdate (device : DeviceSpec F) (result : TagResult F) (timestamp : Datetime)
    (quality : String) (error : Option String) : StatusEvent :=
  .tagUpdate device.name result.tagGroup result.name (result.nodeId.getD "") (runtimeMode device)
    (PyTime.iso timestamp) quality error

/-- The tag updates of the publisher on a tag: `read` in `_cache_result` and `restated` in
`_emit_runtime_tag_status`. -/
inductive EmittedFor (x : RuntimeTag F) : StatusEvent → Prop
  | read {result : TagResult F} (h : DriverResult x result) : EmittedFor x
    (tagUpdate x.device result result.timestamp result.quality.text result.error)
  | restated {result : TagResult F} (h : DriverResult x result) (status : DeviceStatus)
    (error : String) (timestamp : Datetime) : EmittedFor x
    (tagUpdate x.device result timestamp status.text
      (if status = .good then none else some error))

def Output.tagUpdate? : Output F → Option StatusEvent
  | .status (.tagUpdate device tagGroup tag nodeId mode timestamp quality error) =>
    some (.tagUpdate device tagGroup tag nodeId mode timestamp quality error)
  | _ => none

def tagUpdates (os : List (Output F)) : List StatusEvent := os.filterMap Output.tagUpdate?

/-- The enabled tags of enabled devices. -/
def enabledTags (s : ConfigStore F) : List (RuntimeTag F) :=
  (s.listDevices.filter DeviceSpec.enabled).flatMap fun device =>
    ((s.listTags (device.id.getD 0)).filter TagSpec.enabled).map (RuntimeTag.mk device)

/-- A result that a driver of one of the store's devices hands over. -/
structure ReadFrom (s : ConfigStore F) (result : ReadResult F) : Prop where
  device : result.device ∈ s.listDevices
  tags : ∀ r ∈ result.tags, ∃ tag, ⟨result.device, tag⟩ ∈ enabledTags s ∧
    DriverResult ⟨result.device, tag⟩ r

variable {s : ConfigStore F} {device device' : DeviceSpec F}

theorem mem_enabledTags {x : RuntimeTag F} : x ∈ enabledTags s ↔
    x.device ∈ s.listDevices ∧ x.device.enabled = true ∧
      x.tag ∈ s.listTags (x.device.id.getD 0) ∧ x.tag.enabled = true := by
  obtain ⟨device, tag⟩ := x
  simp only [enabledTags, List.mem_flatMap, List.mem_filter, List.mem_map, RuntimeTag.mk.injEq]
  constructor
  · rintro ⟨_, ⟨hdevice, hon⟩, _, ⟨htag, htagOn⟩, rfl, rfl⟩
    exact ⟨hdevice, hon, htag, htagOn⟩
  · rintro ⟨hdevice, hon, htag, htagOn⟩
    exact ⟨device, ⟨hdevice, hon⟩, tag, ⟨htag, htagOn⟩, rfl, rfl⟩

theorem device_eq_of_key (h : device ∈ s.listDevices) (h' : device' ∈ s.listDevices)
    (hkey : deviceKey device = deviceKey device') : device = device' := by
  obtain ⟨id, row, hrow, rfl⟩ := mem_listDevices.mp h
  obtain ⟨id', row', hrow', rfl⟩ := mem_listDevices.mp h'
  obtain rfl := PyText.textOfInt_inj.mp (Prod.mk.inj hkey).2
  rw [Option.some.inj (hrow.symm.trans hrow')]

-- ---------------------------------------------------------------------------
-- What the publisher emits
-- ---------------------------------------------------------------------------

/-- An output that is no tag update, or is one on a tag of the store. -/
def AboutTags (s : ConfigStore F) (o : Output F) : Prop :=
  ∀ e, o.tagUpdate? = some e → ∃ x ∈ enabledTags s, EmittedFor x e

namespace SinkPublisher

/-- All snapshots hold results of the store's devices. -/
structure Serves (s : ConfigStore F) (p : SinkPublisher F) : Prop where
  device : ∀ snapshot ∈ p.latest.values, snapshot.device ∈ s.listDevices
  tags : ∀ snapshot ∈ p.latest.values, ∀ r ∈ snapshot.tags.values, ∃ tag,
    ⟨snapshot.device, tag⟩ ∈ enabledTags s ∧ DriverResult ⟨snapshot.device, tag⟩ r

variable {p q : SinkPublisher F} (cfg : PublisherConfig F) (sink : Sink F)

theorem Serves.congr (h : Serves s p) (hlatest : q.latest = p.latest) : Serves s q :=
  ⟨hlatest ▸ h.device, hlatest ▸ h.tags⟩

/-- Of all outputs only the tag updates are on tags, and those are of cached results. -/
theorem rules_aboutTags : Rules cfg (· ∈ s.listDevices) (Serves s) (AboutTags s) where
  setState _ _ _ hp := hp.congr rfl
  device _ hp := hp.device
  text _ _ he := nomatch he
  log _ _ he := nomatch he
  update p hp device hdevice status error now o ho := by
    rw [emitRuntimeTagStatus, Act.events_look] at ho
    split at ho
    · cases ho
    · rename_i snapshot hget
      intro e he
      have hmem := OrderedDict.mem_values_iff.mpr ⟨_, hget⟩
      have hsame := device_eq_of_key (hp.device snapshot hmem) hdevice (p.keyed _ _ hget)
      obtain ⟨r, hr, rfl⟩ := List.mem_map.mp ho
      obtain ⟨tag, htag, hresult⟩ := hp.tags snapshot hmem r hr
      rw [hsame] at htag hresult
      cases he
      exact ⟨_, htag, .restated hresult status error now⟩
  status _ _ _ _ _ _ _ _ _ he := nomatch he
  measurement _ _ _ _ _ _ he := nomatch he

theorem aboutTags_reportTag {x : RuntimeTag F} {r : TagResult F} (hx : x ∈ enabledTags s)
    (hresult : DriverResult x r) : ∀ o ∈ reportTag x.device r, AboutTags s o := by
  intro o ho e he
  rcases List.mem_append.mp ho with ho | ho
  · split at ho
    · cases ho
    · rw [List.mem_singleton.mp ho] at he
      cases he
  · rw [List.mem_singleton.mp ho] at he
    cases he
    exact ⟨_, hx, .read hresult⟩

/-- The new snapshot of the device takes the place of its old one. -/
theorem Serves.cached (h : Serves s p) {result : ReadResult F} (hresult : ReadFrom s result)
    (receivedAt : Datetime) : Serves s (p.setSnapshot (cachedSnapshot p result receivedAt)) := by
  have hvalue : ∀ snapshot ∈ (p.setSnapshot (cachedSnapshot p result receivedAt)).latest.values,
      snapshot = cachedSnapshot p result receivedAt ∨ snapshot ∈ p.latest.values := by
    intro snapshot hmem
    obtain ⟨key, hget⟩ := OrderedDict.mem_values_iff.mp hmem
    rw [latest_setSnapshot, OrderedDict.get?_set] at hget
    split at hget
    · exact .inl (Option.some.inj hget).symm
    · exact .inr (OrderedDict.mem_values_iff.mpr ⟨key, hget⟩)
  constructor
  · intro snapshot hmem
    rcases hvalue snapshot hmem with rfl | hmem
    · exact hresult.device
    · exact h.device snapshot hmem
  · intro snapshot hmem r hr
    rcases hvalue snapshot hmem with rfl | hmem
    · obtain ⟨key, hget⟩ := OrderedDict.mem_values_iff.mp hr
      rw [cachedSnapshot, OrderedDict.get?_update, Option.or_eq_some_iff] at hget
      rcases hget with hnew | ⟨-, hold⟩
      · have hmem := OrderedDict.mem_of_lookup hnew
        rw [List.mem_reverse] at hmem
        obtain ⟨r', hr', heq⟩ := List.mem_map.mp hmem
        obtain ⟨-, rfl⟩ := Prod.mk.inj heq
        exact hresult.tags r' hr'
      · -- the device of the old snapshot is the result's
        rw [cachedTags] at hold
        cases hlatest : p.latest.get? (deviceKey result.device) with
        | none =>
          rw [hlatest] at hold
          cases hold
        | some old =>
          rw [hlatest] at hold
          have hmem := OrderedDict.mem_values_iff.mpr ⟨_, hlatest⟩
          have hsame := device_eq_of_key (h.device old hmem) hresult.device (p.keyed _ _ hlatest)
          obtain ⟨tag, htag⟩ := h.tags old hmem r (OrderedDict.mem_values_iff.mpr ⟨_, hold⟩)
          rw [hsame] at htag
          exact ⟨tag, htag⟩
    · exact h.tags snapshot hmem r hr

variable [PyRuntime F]

/-- The result of the call, if it takes one, is one of the drivers. -/
def Call.Fed (s : ConfigStore F) : Call F → Prop
  | .publishOnce result _ _ => ReadFrom s result
  | .publishCached _ _ => True

/-- The tag updates of a run of the publisher. -/
def publishedUpdates (routes : List (OutputRoute F)) (calls : List (Call F)) : List StatusEvent :=
  tagUpdates ((Act.forEach (call cfg) calls).events (fresh routes))

/-- In every run, each tag update is about an enabled tag of an enabled device. -/
theorem emittedFor_of_published (routes : List (OutputRoute F)) {calls : List (Call F)}
    (hcalls : ∀ c ∈ calls, c.Fed s) :
    ∀ e ∈ publishedUpdates cfg routes calls, ∃ x ∈ enabledTags s, EmittedFor x e := by
  have hrules := rules_aboutTags (s := s) cfg
  have hrun : Act.Respects (Serves s) (AboutTags s) (Act.forEach (call cfg) calls) := by
    refine .forEach fun c hc => ?_
    cases c with
    | publishOnce result now sink =>
      have hresult : ReadFrom s result := hcalls _ hc
      refine hrules.respects_publishResult sink hresult.device now (fun p hp => hp.cached hresult now) ?_
      intro r hr o ho
      obtain ⟨tag, htag, hread⟩ := hresult.tags r hr
      exact aboutTags_reportTag htag hread o ho
    | publishCached now sink =>
      exact hrules.respects_publishCached sink now (fun _ _ hp => hp.congr rfl) fun _ _ he => nomatch he
  have hfresh : Serves s (fresh routes) :=
    ⟨fun _ h => (List.not_mem_nil h).elim, fun _ h => (List.not_mem_nil h).elim⟩
  intro e he
  obtain ⟨o, ho, hupdate⟩ := List.mem_filterMap.mp he
  exact hrun.emits _ hfresh o ho e hupdate

end SinkPublisher

end IndustrialGateway
