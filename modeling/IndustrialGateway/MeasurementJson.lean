import IndustrialGateway.Lib.IeeeFloat
import IndustrialGateway.RegisterCodec
import IndustrialGateway.SinkMessages

/-!
# Published measurements as JSON

What a Modbus tag reads goes from the registers into the payload without any
filter. The payload is a JSON text exactly when every number that the registers
hold is finite and stays finite when it is scaled.
-/

namespace IndustrialGateway

open Modbus

variable {F : Type}

-- ---------------------------------------------------------------------------
-- The numbers in the registers
-- ---------------------------------------------------------------------------

/-- The exponent bits of an IEEE number with so many fraction bits are not all ones. -/
def FiniteBits (fraction exponent bits : Nat) : Prop :=
  bits / 2 ^ fraction % 2 ^ exponent ≠ 2 ^ exponent - 1

/-- The words of one float have the bits of a finite number; other types have none that are not. -/
def finiteWords (tag : TagSpec F) (words : List UInt16) : Prop :=
  (tag.dataType = "float32" → FiniteBits 23 8 (registersToInt (applyWordOrder words tag))) ∧
    (tag.dataType = "float64" → FiniteBits 52 11 (registersToInt (applyWordOrder words tag)))

section

variable [PyRuntime F]

/-- The number that the words of one value hold; texts and truth values are none. -/
def rawNumber (tag : TagSpec F) (words : List UInt16) : Option F :=
  let ordered := applyWordOrder words tag
  let raw := registersToInt ordered
  if tag.dataType = "int16" then PyRuntime.ofInt (signed 16 (ordered.headD 0).toNat)
  else if tag.dataType = "uint16" then PyRuntime.ofInt (ordered.headD 0).toNat
  else if tag.dataType = "int32" then PyRuntime.ofInt (signed 32 raw)
  else if tag.dataType = "uint32" then PyRuntime.ofInt raw
  else if tag.dataType = "float32" then some (PyRuntime.unpackFloat raw)
  else if tag.dataType = "float64" then some (PyRuntime.unpackDouble raw)
  else none

/-- The number in the words is finite, and so it is times the scale plus the offset. -/
def Presentable (tag : TagSpec F) (words : List UInt16) : Prop :=
  finiteWords tag words ∧ ∀ x, rawNumber tag words = some x →
    (PyRuntime.trunc (PyRuntime.add (PyRuntime.mul x tag.scale) tag.offset)).isSome = true

-- ---------------------------------------------------------------------------
-- Decoding
-- ---------------------------------------------------------------------------

/-- A decoded value before scaling: no number, an integer, or a float with its bits. -/
inductive Decoded (tag : TagSpec F) (words : List UInt16) : PyValue F → Prop
  | bool {b : Bool} (hnumber : rawNumber tag words = none) (hfinite : finiteWords tag words) :
    Decoded tag words (.bool b)
  | str {s : String} (hnumber : rawNumber tag words = none) (hfinite : finiteWords tag words) :
    Decoded tag words (.str s)
  | int {n : Int} (hnumber : rawNumber tag words = PyRuntime.ofInt n)
    (hfinite : finiteWords tag words) : Decoded tag words (.int n)
  | float {x : F} (hnumber : rawNumber tag words = some x)
    (hfinite : (PyRuntime.trunc x).isSome = true ↔ finiteWords tag words) :
    Decoded tag words (.float x)

end

theorem firstRegister_eq_ok {words : List UInt16} {register : UInt16}
    (h : firstRegister words = .ok register) : words.head? = some register := by
  cases words with
  | nil => cases h
  | cons w ws => exact congrArg some (Except.ok.inj h)

theorem toBytes_eq_ok {size raw bits : Nat} (h : toBytes size raw = .ok bits) : bits = raw := by
  unfold toBytes at h
  split at h
  · exact (Except.ok.inj h).symm
  · cases h

variable [IeeeFloat F]

theorem decoded_of_single {tag : TagSpec F} {words : List UInt16} {value : PyValue F}
    (h : decodeSingleRegisterValue words tag = .ok value) : Decoded tag words value := by
  unfold decodeSingleRegisterValue at h
  by_cases hbool : tag.dataType = "bool"
  · rw [if_pos hbool, bind_eq_ok] at h
    obtain ⟨register, -, h⟩ := h
    cases h
    refine .bool ?_ ⟨?_, ?_⟩ <;> simp [rawNumber, hbool]
  rw [if_neg hbool] at h
  dsimp only at h
  by_cases hint16 : tag.dataType = "int16"
  · rw [if_pos hint16, bind_eq_ok] at h
    obtain ⟨register, hregister, h⟩ := h
    cases h
    refine .int ?_ ⟨?_, ?_⟩ <;> simp [rawNumber, hint16, firstRegister_eq_ok hregister]
  rw [if_neg hint16] at h
  by_cases huint16 : tag.dataType = "uint16"
  · rw [if_pos huint16, bind_eq_ok] at h
    obtain ⟨register, hregister, h⟩ := h
    cases h
    refine .int ?_ ⟨?_, ?_⟩ <;> simp [rawNumber, huint16, firstRegister_eq_ok hregister]
  rw [if_neg huint16] at h
  by_cases hstring : tag.dataType = "string"
  · rw [if_pos hstring] at h
    cases h
    refine .str ?_ ⟨?_, ?_⟩ <;> simp [rawNumber, hstring]
  rw [if_neg hstring] at h
  by_cases hint32 : tag.dataType = "int32"
  · rw [if_pos hint32] at h
    cases h
    refine .int ?_ ⟨?_, ?_⟩ <;> simp [rawNumber, hint32]
  rw [if_neg hint32] at h
  by_cases huint32 : tag.dataType = "uint32"
  · rw [if_pos huint32] at h
    cases h
    refine .int ?_ ⟨?_, ?_⟩ <;> simp [rawNumber, huint32]
  rw [if_neg huint32] at h
  by_cases hfloat32 : tag.dataType = "float32"
  · rw [if_pos hfloat32, bind_eq_ok] at h
    obtain ⟨bits, hbits, h⟩ := h
    cases h
    obtain rfl := toBytes_eq_ok hbits
    refine .float (by simp [rawNumber, hfloat32]) ?_
    rw [IeeeFloat.trunc_unpackFloat]
    simp [finiteWords, FiniteBits, hfloat32]
  rw [if_neg hfloat32] at h
  by_cases hfloat64 : tag.dataType = "float64"
  · rw [if_pos hfloat64, bind_eq_ok] at h
    obtain ⟨bits, hbits, h⟩ := h
    cases h
    obtain rfl := toBytes_eq_ok hbits
    refine .float (by simp [rawNumber, hfloat64]) ?_
    rw [IeeeFloat.trunc_unpackDouble]
    simp [finiteWords, FiniteBits, hfloat64]
  · rw [if_neg hfloat64] at h
    cases h

/-- A scaled value can be written, and is finite when its words are presentable. -/
theorem scaled_single {tag : TagSpec F} {words : List UInt16} {value scaled : PyValue F}
    (hvalue : Decoded tag words value) (h : applyScale tag.scale tag.offset value = .ok scaled) :
    PyValue.checkJson scaled = .ok () ∧ (PyValue.finite scaled = true ↔ Presentable tag words) := by
  cases hvalue with
  | bool hnumber hfinite =>
    rw [applyScale] at h
    cases h
    refine ⟨rfl, iff_of_true rfl ⟨hfinite, ?_⟩⟩
    intro x hx
    rw [hnumber] at hx
    cases hx
  | str hnumber hfinite =>
    rw [applyScale] at h
    cases h
    refine ⟨rfl, iff_of_true rfl ⟨hfinite, ?_⟩⟩
    intro x hx
    rw [hnumber] at hx
    cases hx
  | @int n hnumber hfinite =>
    rw [applyScale] at h
    cases hn : (PyRuntime.ofInt n : Option F) with
    | none =>
      rw [hn] at h
      cases h
    | some x =>
      rw [hn] at h hnumber
      cases h
      refine ⟨rfl, ?_⟩
      rw [PyValue.finite]
      refine ⟨fun hscaled => ⟨hfinite, ?_⟩, fun hp => hp.2 x hnumber⟩
      intro y hy
      obtain rfl := Option.some.inj (hnumber.symm.trans hy)
      exact hscaled
  | @float x hnumber hfinite =>
    rw [applyScale] at h
    cases h
    refine ⟨rfl, ?_⟩
    rw [PyValue.finite]
    refine ⟨fun hscaled => ⟨?_, ?_⟩, fun hp => hp.2 x hnumber⟩
    · exact hfinite.mp (IeeeFloat.finite_of_scaled x _ _ hscaled)
    · intro y hy
      obtain rfl := Option.some.inj (hnumber.symm.trans hy)
      exact hscaled

theorem scaled_list {tag : TagSpec F} {wordsAt : Nat → List UInt16} {indices : List Nat}
    {values scaled : List (PyValue F)}
    (hvalues : (indices.mapM fun i => decodeSingleRegisterValue (wordsAt i) tag) = .ok values)
    (h : applyScaleList tag.scale tag.offset values = .ok scaled) :
    PyValue.checkJsonList scaled = .ok () ∧
      (PyValue.finiteList scaled = true ↔ ∀ words ∈ indices.map wordsAt, Presentable tag words) := by
  induction indices generalizing values scaled with
  | nil =>
    cases hvalues
    cases h
    exact ⟨rfl, iff_of_true rfl nofun⟩
  | cons i indices ih =>
    rw [List.mapM_cons, bind_eq_ok] at hvalues
    obtain ⟨value, hvalue, hvalues⟩ := hvalues
    rw [bind_eq_ok] at hvalues
    obtain ⟨rest, hrest, hvalues⟩ := hvalues
    cases hvalues
    rw [applyScaleList, bind_eq_ok] at h
    obtain ⟨first, hfirst, h⟩ := h
    rw [bind_eq_ok] at h
    obtain ⟨others, hothers, h⟩ := h
    cases h
    obtain ⟨hcheck, hfinite⟩ := scaled_single (decoded_of_single hvalue) hfirst
    obtain ⟨hchecks, hfinites⟩ := ih hrest hothers
    refine ⟨?_, ?_⟩
    · rw [PyValue.checkJsonList, hcheck]
      exact hchecks
    · rw [PyValue.finiteList, Bool.and_eq_true, hfinite, hfinites, List.map_cons,
        List.forall_mem_cons]

/-- A tag of several values is decoded value by value. -/
theorem decodeRegisters_eq_ok {words : List UInt16} {tag : TagSpec F} {value : PyValue F}
    (h : decodeRegisters words tag = .ok value) :
    if tag.dataType ≠ "string" ∧ 1 < valueCount tag then
      ∃ values, value = .list values ∧ ((List.range (valueCount tag).toNat).mapM fun index : Nat =>
        decodeSingleRegisterValue (PySeq.slice words (index * wordsPerValue tag)
          (index * wordsPerValue tag + wordsPerValue tag)) tag) = .ok values
    else decodeSingleRegisterValue words tag = .ok value := by
  unfold decodeRegisters at h
  by_cases hmany : tag.dataType ≠ "string" ∧ 1 < valueCount tag
  · rw [if_pos hmany] at h ⊢
    split at h
    · cases h
    · rw [bind_eq_ok] at h
      obtain ⟨values, hvalues, h⟩ := h
      cases h
      exact ⟨values, rfl, hvalues⟩
  · rw [if_neg hmany] at h ⊢
    split at h
    · cases h
    · exact h

/-- What the driver makes of a tag's registers can be written, and is finite when the
words of each of its values are presentable. -/
theorem decoded_finite_iff {registers : List UInt16} {block : ReadBlock F} {tag : TagSpec F}
    {value : PyValue F} (h : decodeRegisterTag registers block tag = .ok value) :
    PyValue.checkJson value = .ok () ∧
      (PyValue.finite value = true ↔ ∀ words ∈ valueWords tag (PySeq.slice registers
        (tag.address - block.start) (tag.address - block.start + registerCount tag)),
        Presentable tag words) := by
  unfold decodeRegisterTag at h
  dsimp only at h
  generalize PySeq.slice registers (tag.address - block.start)
    (tag.address - block.start + registerCount tag) = words at h ⊢
  rw [bind_eq_ok] at h
  obtain ⟨read, hread, h⟩ := h
  have hread := decodeRegisters_eq_ok hread
  unfold valueWords
  split at hread
  · rename_i hmany
    rw [if_pos hmany]
    obtain ⟨values, rfl, hvalues⟩ := hread
    rw [applyScale, bind_eq_ok] at h
    obtain ⟨scaled, hscaled, h⟩ := h
    cases h
    exact scaled_list hvalues hscaled
  · rename_i hone
    rw [if_neg hone]
    simpa using scaled_single (decoded_of_single hread) h

-- ---------------------------------------------------------------------------
-- The payload
-- ---------------------------------------------------------------------------

/-- A register tag that has passed its validator, decoded from the answer to a block. -/
structure DecodedTag (F : Type) [PyRuntime F] where
  tag : TagSpec F
  accepted : validateModbusTag tag = .ok ()
  register : tag.function ∈ ["holding_register", "input_register"]
  block : ReadBlock F
  registers : List UInt16
  value : PyValue F
  decoded : decodeRegisterTag registers block tag = .ok value
  timestamp : Datetime

def DecodedTag.result (d : DecodedTag F) : TagResult F :=
  tagResult d.tag d.timestamp (decodeRegisterTag d.registers d.block d.tag)

/-- The words of each of its values. -/
def DecodedTag.words (d : DecodedTag F) : List (List UInt16) :=
  valueWords d.tag (PySeq.slice d.registers (d.tag.address - d.block.start)
    (d.tag.address - d.block.start + registerCount d.tag))

theorem DecodedTag.result_eq (d : DecodedTag F) : d.result =
    ⟨d.tag.name, d.tag.address, d.value, .good, none, d.timestamp, none, d.tag.tagGroup⟩ := by
  rw [DecodedTag.result, d.decoded, tagResult]

/-- Of the tags of one name a payload shows the last. -/
def Shown (tags : List (DecodedTag F)) (d : DecodedTag F) : Prop :=
  (tags.filter fun e => e.tag.name = d.tag.name).getLast? = some d

/-- A client that keeps the payloads it is given. -/
def recorder : MqttClient (List String) := fun _ payload _ sent => (.ok 0, sent ++ [payload])

theorem tagEntries_results (tags : List (DecodedTag F)) :
    tagEntries ((tags.map DecodedTag.result).map TagResult.toPayload) =
      tags.map fun d => (d.tag.name, d.value) := by
  induction tags with
  | nil => rfl
  | cons d tags ih =>
    have hname : d.tag.name ≠ "" := by
      intro hempty
      have hgiven := (validateModbusTag_ok.mp d.accepted).name
      rw [hempty] at hgiven
      exact hgiven PyText.stripped_empty
    have hkept : (d.result.toPayload.name ≠ "") = True := by
      rw [d.result_eq]
      simpa [TagResult.toPayload] using hname
    rw [tagEntries] at ih
    rw [tagEntries, List.map_cons, List.map_cons, List.filter_cons_of_pos (by simpa using hkept),
      List.map_cons, ih, List.map_cons, d.result_eq]
    rfl

/-- A payload is finite when all the values that it shows are. -/
theorem finite_payload_iff {start : OrderedDict String (PyValue F)} {tags : List (DecodedTag F)}
    (hstart : ∀ p ∈ start.entries, PyValue.finite p.2 = true) :
    PyValue.finiteDict (start.update (tags.map fun d => (d.tag.name, d.value))).entries = true ↔
      ∀ d, Shown tags d → PyValue.finite d.value = true := by
  have hlast : ∀ name, ((tags.map fun d => (d.tag.name, d.value)).filter fun q => q.1 = name).getLast? =
      ((tags.filter fun d => d.tag.name = name).getLast?).map fun d => (d.tag.name, d.value) := by
    intro name
    rw [List.filter_map, List.getLast?_map]
    rfl
  rw [PyValue.finiteDict_iff]
  constructor
  · intro h d hd
    refine h (d.tag.name, d.value) (OrderedDict.mem_entries_update.mpr (.inl ?_))
    rw [hlast, hd]
    rfl
  · intro h p hp
    rcases OrderedDict.mem_entries_update.mp hp with hp | ⟨-, hp⟩
    · rw [hlast, Option.map_eq_some_iff] at hp
      obtain ⟨d, hd, rfl⟩ := hp
      exact h d hd
    · exact hstart p hp

/-- The payload of a measurement of register tags is published, and it is a JSON text
exactly when all numbers in the registers of the values it shows are presentable. -/
theorem payload_isText_iff (fromisoformat : String → Option IsoTime) (config : MqttConfig)
    (cfg : PublisherConfig F) (routes : List (OutputRoute F)) (device : DeviceSpec F)
    (group : Option String) (now : Datetime) (tags : List (DecodedTag F)) :
    let message := (SinkPublisher.measurementMessage cfg routes device (tags.map DecodedTag.result)
      group now).1
    ∃ text, (⟨config, some recorder⟩ : MqttSink (List String)).publishBatch fromisoformat message [] =
        (.ok (), [text]) ∧
      (Json.IsText text.toList ↔ ∀ d, Shown tags d → ∀ words ∈ d.words, Presentable d.tag words) := by
  dsimp only
  have hpayload := SinkPublisher.payload_measurementMessage cfg routes device
    (tags.map DecodedTag.result) group now
  generalize (SinkPublisher.measurementMessage cfg routes device (tags.map DecodedTag.result)
    group now).1 = message at hpayload ⊢
  have hjson : Serialisable message := by
    intro payloads hpayloads payload hmem
    rw [hpayload] at hpayloads
    cases hpayloads
    obtain ⟨result, hresult, rfl⟩ := List.mem_map.mp hmem
    obtain ⟨d, -, rfl⟩ := List.mem_map.mp hresult
    rw [d.result_eq]
    exact (decoded_finite_iff d.decoded).1
  have hcheck : PyValue.checkJson (.dict (mqttPayload fromisoformat message.payload)) = .ok () :=
    checkJson_mqttPayload hjson
  have hdumps : PyValue.dumps "" (.dict (mqttPayload fromisoformat message.payload)) = .ok _ :=
    dumps_eq_ok hcheck
  have hpad : Json.Ws "".toList := Json.ws_nil
  refine ⟨_, ?_, (PyValue.isText_dumps hpad hdumps).trans ?_⟩
  · rw [MqttSink.publishBatch]
    dsimp only
    rw [hdumps, Fallible.lift_ok_bind]
    rfl
  · rw [PyValue.finite, hpayload, mqttPayload, tagEntries_results, finite_payload_iff]
    · refine forall_congr' fun d => imp_congr_right fun _ => ?_
      exact (decoded_finite_iff d.decoded).2
    · intro p hp
      obtain rfl := List.mem_singleton.mp hp
      rfl

/-- A float32 tag without scaling. -/
def temperatureTag : TagSpec ClassFloat where
  name := "temperature"
  address := 0
  function := "holding_register"
  dataType := "float32"
  scale := .finite ⟨1⟩
  offset := .finite ⟨0⟩

/-- Its two registers hold a quiet NaN. -/
def nanReading : DecodedTag ClassFloat where
  tag := temperatureTag
  accepted := by decide
  register := by decide
  block := ⟨"holding_register", 1, 0, 2, [temperatureTag]⟩
  registers := [0x7FC0, 0]
  value := .float .nan
  decoded := by rfl
  timestamp := 0

/-- `datetime.fromisoformat` on the time of the reading. -/
def epochIso : String → Option IsoTime := fun _ => some ⟨"1970-01-01 00:00:00", 0, "+0000"⟩

theorem nan_published : ¬ ∀ (config : MqttConfig) (cfg : PublisherConfig ClassFloat)
    (routes : List (OutputRoute ClassFloat)) (device : DeviceSpec ClassFloat) (group : Option String)
    (now : Datetime) (tags : List (DecodedTag ClassFloat)),
    let message := (SinkPublisher.measurementMessage cfg routes device (tags.map DecodedTag.result)
      group now).1
    ∃ text, (⟨config, some recorder⟩ : MqttSink (List String)).publishBatch epochIso message [] =
      (.ok (), [text]) ∧ Json.IsText text.toList := by
  intro h
  obtain ⟨text, hrun, htext⟩ := h {} ⟨{}, "mqtt", .finite ⟨15⟩, .finite ⟨60⟩⟩ []
    ⟨some 1, "press", "modbus_tcp", true, 1000, "", ∅⟩ none 0 [nanReading]
  have hsent : [text] =
      ["\x7b\"timestamp\":\"1970-01-01 00:00:00.000+00\",\"temperature\":NaN\x7d"] := by
    refine (congrArg Prod.snd hrun).symm.trans ?_
    decide +kernel
  obtain rfl := List.singleton_inj.mp hsent
  refine Json.Spoilt.not_isText ⟨_, ⟨?_, rfl⟩, 'N', ?_, ?_⟩ htext <;> decide +kernel

end IndustrialGateway
