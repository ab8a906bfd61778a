import IndustrialGateway.RegisterCodec
import IndustrialGateway.RtuAgreement

/-!
# Tags that the decoder reads

Each data type that the validator admits has a decoding, except the type that leaves
the choice to the driver: registers do not tell their type. The results of a block
stand under the tags' names, where the last tag of a name is the one reported.
-/

/-- An integer of 64 bits is in the range of a float. -/
class WideFloat (F : Type) extends PyRuntime F where
  ofInt_wide : ∀ n : Int, n.natAbs < 2 ^ 64 → ∃ x, ofInt n = some x

instance : WideFloat WholeFloat where
  ofInt_wide n _ := ⟨⟨n⟩, rfl⟩

namespace IndustrialGateway

namespace Modbus

variable {F : Type}

/-- What the registers of one value decode to. -/
inductive RegisterValue : PyValue F → Prop
  | bool (b : Bool) : RegisterValue (.bool b)
  | int {n : Int} (h : n.natAbs < 2 ^ 64) : RegisterValue (.int n)
  | float (x : F) : RegisterValue (.float x)
  | str (s : String) : RegisterValue (.str s)

section Scale

variable [WideFloat F] (scale offset : F) {value : PyValue F}

theorem RegisterValue.scaled (h : RegisterValue value) :
    ∃ scaled, applyScale scale offset value = .ok scaled := by
  cases h with
  | bool b => exact ⟨_, rfl⟩
  | int h =>
    obtain ⟨x, hx⟩ := WideFloat.ofInt_wide (F := F) _ h
    exact ⟨_, by rw [applyScale, hx]⟩
  | float x => exact ⟨_, rfl⟩
  | str s => exact ⟨_, rfl⟩

theorem applyScaleList_ok {values : List (PyValue F)} (h : ∀ value ∈ values, RegisterValue value) :
    ∃ scaled, applyScaleList scale offset values = .ok scaled := by
  induction values with
  | nil => exact ⟨[], rfl⟩
  | cons value values ih =>
    obtain ⟨hvalue, hvalues⟩ := List.forall_mem_cons.mp h
    obtain ⟨scaled, hscaled⟩ := hvalue.scaled scale offset
    obtain ⟨rest, hrest⟩ := ih hvalues
    exact ⟨scaled :: rest, by rw [applyScaleList, hscaled, hrest]; rfl⟩

end Scale

section Registers

variable [PyRuntime F] {tag : TagSpec F} {words registers : List UInt16}

theorem natAbs_signed {bits raw : Nat} (hbits : bits ≤ 32) (hraw : raw < 2 ^ 32) :
    (signed bits raw).natAbs < 2 ^ 64 := by
  have hpow : 2 ^ bits ≤ 2 ^ 32 := Nat.pow_le_pow_right (by decide) hbits
  have hcast : (2 : Int) ^ bits = (2 ^ bits : Nat) := by norm_cast
  rw [signed, hcast]
  generalize 2 ^ bits = modulus at hpow
  split <;> omega

/-- As many words as a value has decode to one. -/
theorem decodeSingle_value (htype : tag.dataType ∈ dataTypes) (hauto : tag.dataType ≠ "auto")
    (hlength : tag.dataType ≠ "string" → (words.length : Int) = wordsPerValue tag) :
    ∃ value, decodeSingleRegisterValue words tag = .ok value ∧ RegisterValue value := by
  have hraw (h : wordsPerValue tag = 2) (hstring : tag.dataType ≠ "string") :
      registersToInt (applyWordOrder words tag) < 2 ^ 32 := by
    have hordered : (applyWordOrder words tag).length = words.length := by
      rw [applyWordOrder]
      split <;> simp
    have htwo : words.length = 2 := Int.ofNat_inj.mp ((hlength hstring).trans h)
    have hlt := registersToInt_lt (applyWordOrder words tag)
    rwa [hordered, htwo] at hlt
  have hnumber (h : tag.dataType ∈ numberTypes) (hstring : tag.dataType ≠ "string") :
      ∃ value, decodeSingleRegisterValue words tag = .ok value :=
    decodeSingle_ok h (hlength hstring)
  simp only [dataTypes, List.mem_cons, List.not_mem_nil, or_false] at htype
  rcases htype with h | h | h | h | h | h | h | h | h
  · exact absurd h hauto
  · have hone : words.length = 1 := by
      have hwords := hlength (by simp [h])
      simp only [wordsPerValue, h] at hwords
      exact Int.ofNat_inj.mp hwords
    obtain ⟨register, rfl⟩ := List.length_eq_one_iff.mp hone
    exact ⟨.bool (register ≠ 0), by simp [decodeSingleRegisterValue, h, firstRegister], .bool _⟩
  · obtain ⟨value, hvalue⟩ := hnumber (by simp [h, numberTypes]) (by simp [h])
    refine ⟨value, hvalue, ?_⟩
    rw [decodeSingle_int16 _ h] at hvalue
    obtain ⟨register, -, rfl⟩ := map_eq_ok.mp hvalue
    have hlt := register.toNat_lt
    exact .int (natAbs_signed (by decide) (by omega))
  · obtain ⟨value, hvalue⟩ := hnumber (by simp [h, numberTypes]) (by simp [h])
    refine ⟨value, hvalue, ?_⟩
    rw [decodeSingle_uint16 _ h] at hvalue
    obtain ⟨register, -, rfl⟩ := map_eq_ok.mp hvalue
    have hlt := register.toNat_lt
    exact .int (by omega)
  · exact ⟨_, decodeSingle_int32 _ h,
      .int (natAbs_signed le_rfl (hraw (by simp [wordsPerValue, h]) (by simp [h])))⟩
  · have hlt := hraw (by simp [wordsPerValue, h]) (by simp [h])
    exact ⟨_, decodeSingle_uint32 _ h, .int (by omega)⟩
  · obtain ⟨value, hvalue⟩ := hnumber (by simp [h, numberTypes]) (by simp [h])
    refine ⟨value, hvalue, ?_⟩
    rw [decodeSingle_float32 _ h] at hvalue
    obtain ⟨bits, -, rfl⟩ := map_eq_ok.mp hvalue
    exact .float _
  · obtain ⟨value, hvalue⟩ := hnumber (by simp [h, numberTypes]) (by simp [h])
    refine ⟨value, hvalue, ?_⟩
    rw [decodeSingle_float64 _ h] at hvalue
    obtain ⟨bits, -, rfl⟩ := map_eq_ok.mp hvalue
    exact .float _
  · exact ⟨_, decodeSingle_string _ h, .str _⟩

theorem decodeSingle_auto (h : tag.dataType = "auto") (words : List UInt16) :
    decodeSingleRegisterValue words tag = .error ⟨.valueError, "unsupported data type auto"⟩ := by
  simp [decodeSingleRegisterValue, h]
  rfl

theorem decodeRegisters_auto (h : tag.dataType = "auto")
    (value : PyValue F) : decodeRegisters registers tag ≠ .ok value := by
  intro hvalue
  by_cases henough : registerCount tag ≤ registers.length
  · by_cases hmany : tag.dataType ≠ "string" ∧ 1 < valueCount tag
    · rw [decodeRegisters_many henough hmany, map_eq_ok] at hvalue
      obtain ⟨values, hvalues, -⟩ := hvalue
      -- there is a first value, which does not decode
      have hfirst : PySeq.slice registers ((0 : Nat) * wordsPerValue tag)
          ((0 : Nat) * wordsPerValue tag + wordsPerValue tag) ∈ valueWords tag registers := by
        rw [valueWords, if_pos hmany]
        exact List.mem_map.mpr ⟨0, List.mem_range.mpr (by omega), rfl⟩
      obtain ⟨_, -, hdecoded⟩ := forall_ok_of_mapM hvalues _ hfirst
      rw [decodeSingle_auto h] at hdecoded
      cases hdecoded
    · rw [decodeRegisters_one henough hmany, decodeSingle_auto h] at hvalue
      cases hvalue
  · rw [decodeRegisters, if_pos (by omega)] at hvalue
    cases hvalue

end Registers

section Tags

variable [WideFloat F] {tag : TagSpec F} {block : ReadBlock F}

/-- As many registers as the tag has decode and scale, whatever they hold. -/
theorem decodeRegisters_scaled (hcommon : CommonFieldsOk tag) (hauto : tag.dataType ≠ "auto")
    {registers : List UInt16} (hlength : (registers.length : Int) = registerCount tag) :
    ∃ value scaled, decodeRegisters registers tag = .ok value ∧
      applyScale tag.scale tag.offset value = .ok scaled := by
  by_cases hmany : tag.dataType ≠ "string" ∧ 1 < valueCount tag
  · obtain ⟨values, hvalues, hall⟩ := mapM_ok_all (p := RegisterValue) fun words hwords =>
      decodeSingle_value hcommon.dataType hauto fun _ =>
        length_valueWords hmany.1 hmany.2 hlength.ge hwords
    obtain ⟨scaled, hscaled⟩ := applyScaleList_ok tag.scale tag.offset hall
    refine ⟨.list values, .list scaled, ?_, ?_⟩
    · rw [decodeRegisters_many hlength.ge hmany, hvalues]
      rfl
    · rw [applyScale, hscaled]
      rfl
  · have hwords (hstring : tag.dataType ≠ "string") :
        (registers.length : Int) = wordsPerValue tag := by
      have hone : valueCount tag = 1 := by
        have hpos := (counts_positive hcommon).1
        have hnot : ¬ 1 < valueCount tag := fun h => hmany ⟨hstring, h⟩
        omega
      rw [hlength, registerCount, if_neg hstring, hone, Int.mul_one]
    obtain ⟨value, hvalue, hregister⟩ := decodeSingle_value hcommon.dataType hauto hwords
    obtain ⟨scaled, hscaled⟩ := hregister.scaled tag.scale tag.offset
    exact ⟨value, scaled, by rw [decodeRegisters_one hlength.ge hmany, hvalue], hscaled⟩

/-- A tag is read from a block's registers when its own are there and its type is not open. -/
theorem decodeRegisterTag_ok_iff (hcommon : CommonFieldsOk tag) (hstart : block.start ≤ tag.address)
    (registers : List UInt16) :
    (∃ value, decodeRegisterTag registers block tag = .ok value) ↔
      tag.dataType ≠ "auto" ∧ tag.address + registerCount tag ≤ block.start + registers.length := by
  have hpos := (counts_positive hcommon).2
  have hoffset : 0 ≤ tag.address - block.start := by omega
  have hlength := PySeq.length_slice_eq registers hoffset
    (show tag.address - block.start ≤ tag.address - block.start + registerCount tag by omega)
  simp only [decodeRegisterTag, bind_eq_ok]
  constructor
  · rintro ⟨scaled, value, hvalue, -⟩
    refine ⟨fun hauto => decodeRegisters_auto hauto value hvalue, ?_⟩
    by_contra hshort
    rw [decodeRegisters, if_pos (by omega)] at hvalue
    cases hvalue
  · rintro ⟨hauto, hheld⟩
    obtain ⟨value, scaled, hvalue, hscaled⟩ := @decodeRegisters_scaled _ _ tag hcommon hauto
      (PySeq.slice registers (tag.address - block.start)
        (tag.address - block.start + registerCount tag)) (by omega)
    exact ⟨scaled, value, hvalue, hscaled⟩

omit [WideFloat F] in
theorem decodeBitTag_ok_iff (hpos : 0 < valueCount tag) (hstart : block.start ≤ tag.address)
    (bits : List Bool) :
    (∃ value, decodeBitTag bits block tag = .ok value) ↔
      tag.address + valueCount tag ≤ block.start + bits.length := by
  have hoffset : 0 ≤ tag.address - block.start := by omega
  have hlength := PySeq.length_slice_eq bits hoffset
    (show tag.address - block.start ≤ tag.address - block.start + valueCount tag by omega)
  rw [decodeBitTag]
  by_cases hheld : tag.address + valueCount tag ≤ block.start + bits.length
  · rw [if_neg (by omega)]
    refine iff_of_true ?_ hheld
    split <;> exact ⟨_, rfl⟩
  · rw [if_pos (by omega)]
    refine iff_of_false ?_ hheld
    rintro ⟨value, hvalue⟩
    cases hvalue

end Tags

-- ---------------------------------------------------------------------------
-- Blocks
-- ---------------------------------------------------------------------------

/-- `_decode_register_block`. -/
def decodeRegisterBlock [PyRuntime F] (registers : List UInt16) (block : ReadBlock F)
    (timestamp : Datetime) : OrderedDict String (TagResult F) :=
  blockResults block timestamp (decodeRegisterTag registers block)

/-- `_decode_bit_block`. -/
def decodeBitBlock (bits : List Bool) (block : ReadBlock F) (timestamp : Datetime) :
    OrderedDict String (TagResult F) :=
  blockResults block timestamp (decodeBitTag bits block)

/-- Under the tag's name stands a good result of a tag of its address and group. -/
def ReportsGood (results : OrderedDict String (TagResult F)) (tag : TagSpec F) : Prop :=
  ∃ result, results.get? tag.name = some result ∧ result.address = tag.address ∧
    result.tagGroup = tag.tagGroup ∧ result.quality = .good

/-- The last tag of the tag's name is at its address and in its group, and is read. -/
def NamesakeRead (block : ReadBlock F) (tag : TagSpec F) (read : TagSpec F → Prop) : Prop :=
  ∀ other, RtuMonitor.namesake block tag = some other →
    other.address = tag.address ∧ other.tagGroup = tag.tagGroup ∧ read other

section Blocks

variable {block : ReadBlock F} {tag : TagSpec F}

/-- The client's answers are decoded as the block's function says. -/
theorem readBlock_values [PyRuntime F] (client : Client) (timestamp : Datetime) :
    (∀ registers : List UInt16,
      block.function = "holding_register" ∧
          client.readHoldingRegisters block.start block.count block.unitId = .ok (.values registers) ∨
        block.function = "input_register" ∧
          client.readInputRegisters block.start block.count block.unitId = .ok (.values registers) →
      readBlock client block timestamp = decodeRegisterBlock registers block timestamp) ∧
    (∀ bits : List Bool,
      block.function = "coil" ∧
          client.readCoils block.start block.count block.unitId = .ok (.values bits) ∨
        block.function = "discrete_input" ∧
          client.readDiscreteInputs block.start block.count block.unitId = .ok (.values bits) →
      readBlock client block timestamp = decodeBitBlock bits block timestamp) := by
  constructor
  · rintro registers (⟨hfunction, hanswer⟩ | ⟨hfunction, hanswer⟩)
    · simp only [readBlock, hfunction, hanswer]
      rfl
    · simp only [readBlock, hfunction, hanswer]
      rfl
  · rintro bits (⟨hfunction, hanswer⟩ | ⟨hfunction, hanswer⟩)
    · simp only [readBlock, hfunction, hanswer]
      rfl
    · simp only [readBlock, hfunction, hanswer]
      rfl

theorem reportsGood_iff (htag : tag ∈ block.tags) (timestamp : Datetime)
    {decode : TagSpec F → Except PyException (PyValue F)} {read : TagSpec F → Prop}
    (hread : ∀ other ∈ block.tags, (∃ value, decode other = .ok value) ↔ read other) :
    ReportsGood (blockResults block timestamp decode) tag ↔ NamesakeRead block tag read := by
  obtain ⟨other, hother, hmem⟩ := RtuMonitor.exists_namesake htag
  rw [ReportsGood, RtuMonitor.get?_blockResults, NamesakeRead, hother, Option.map_some]
  simp only [Option.some.injEq, forall_eq', exists_eq_left']
  rw [← hread other hmem]
  cases decode other with
  | ok value => simp [tagResult]
  | error exc => simp [tagResult, bad]

variable [WideFloat F]

/-- An accepted tag is reported good exactly when the last tag of its name in the block is
its own, has all its values in the response, and in registers a type. -/
theorem accepted_reported_iff (htag : tag ∈ block.tags)
    (haccepted : ∀ other ∈ block.tags, validateModbusTag other = .ok ())
    (hstart : ∀ other ∈ block.tags, block.start ≤ other.address) (timestamp : Datetime) :
    (∀ registers : List UInt16, tag.address + registerCount tag ≤ block.start + registers.length →
      (ReportsGood (decodeRegisterBlock registers block timestamp) tag ↔
        NamesakeRead block tag fun other => other.dataType ≠ "auto" ∧
          other.address + registerCount other ≤ block.start + registers.length)) ∧
    (∀ bits : List Bool, tag.address + valueCount tag ≤ block.start + bits.length →
      (ReportsGood (decodeBitBlock bits block timestamp) tag ↔
        NamesakeRead block tag fun other =>
          other.address + valueCount other ≤ block.start + bits.length)) := by
  have hcommon (other : TagSpec F) (h : other ∈ block.tags) : CommonFieldsOk other :=
    (validateModbusTag_ok.mp (haccepted other h)).common
  constructor
  · intro registers _
    exact reportsGood_iff htag timestamp fun other h =>
      decodeRegisterTag_ok_iff (hcommon other h) (hstart other h) registers
  · intro bits _
    exact reportsGood_iff htag timestamp fun other h =>
      decodeBitTag_ok_iff (counts_positive (hcommon other h)).1 (hstart other h) bits

end Blocks

def autoTag : TagSpec WholeFloat := { RtuMonitor.overlapTag with dataType := "auto" }

theorem level_reported :
    ReportsGood (decodeRegisterBlock [7] (dedicatedBlock 1 RtuMonitor.overlapTag) 0)
      RtuMonitor.overlapTag := by
  refine ((accepted_reported_iff (List.mem_singleton.mpr rfl) (by decide) (by decide) 0).1 [7]
    (by decide)).mpr fun other hother => ?_
  cases hother
  exact ⟨rfl, rfl, by decide, by decide⟩

/-- A register whose type is left open is refused, whatever it holds. -/
theorem autoTag_not_reported :
    ¬ ∀ (tag : TagSpec WholeFloat) (registers : List UInt16), validateModbusTag tag = .ok () →
      registerCount tag ≤ registers.length →
      ReportsGood (decodeRegisterBlock registers (dedicatedBlock 1 tag) 0) tag := by
  intro h
  obtain ⟨result, hresult, -, -, hgood⟩ := h autoTag [7] (by decide) (by decide)
  have hbad : (decodeRegisterBlock [7] (dedicatedBlock 1 autoTag) 0).get? autoTag.name =
      some (bad autoTag 0 "unsupported data type auto") := by decide
  obtain rfl := Option.some.inj (hbad.symm.trans hresult)
  cases hgood

end Modbus

end IndustrialGateway
