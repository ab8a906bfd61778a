import IndustrialGateway.ModbusGrouping
import IndustrialGateway.RtuResults

/-!
# Listening and asking

A slave's answer is the contents of its memory. What the monitor makes of one
exchange on the line is compared with what the active driver makes of the same
memory: the registers agree, the bits are in a response from which the monitor takes
no value.
-/

namespace IndustrialGateway

namespace RtuMonitor

open Modbus

variable {F : Type}

-- ---------------------------------------------------------------------------
-- Exchanges
-- ---------------------------------------------------------------------------

/-- Bits in bytes, the first in the lowest bit. -/
def packBits (bits : List Bool) : List UInt8 :=
  (bits.toChunks 8).map fun byte => UInt8.ofNat (byte.foldr (fun bit n => 2 * n + bit.toNat) 0)

/-- The data of a slave's response. -/
def payload (m : Memory) (function : UInt8) (unitId start : Int) (quantity : Nat) : List UInt8 :=
  if function = 1 then packBits (PySeq.contents (m.coils unitId) start quantity)
  else if function = 2 then packBits (PySeq.contents (m.discrete unitId) start quantity)
  else if function = 3 then (PySeq.contents (m.holding unitId) start quantity).flatMap u16Bytes
  else (PySeq.contents (m.input unitId) start quantity).flatMap u16Bytes

/-- A read request and the slave's response, as they are parsed. -/
structure Exchange (m : Memory) where
  slaveId : UInt8
  function : UInt8
  start : UInt16
  quantity : UInt16
  request : RtuFrame
  response : RtuFrame
  read : isReadFunction function = true
  request_parsed : parseRtuFrame (requestFrame slaveId function start quantity) = .ok request
  response_parsed : parseRtuFrame (responseFrame slaveId function
    (payload m function slaveId.toNat start.toNat quantity.toNat)) = .ok response

namespace Exchange

variable {m : Memory}

def pair (e : Exchange m) : Pair := ⟨e.request, withResponseValue e.response⟩

/-- The request is one of the tag's unit and function, for a range that contains the tag's. -/
structure Contains (e : Exchange m) (unitId : Int) (tag : TagSpec F) : Prop where
  unitId : (e.slaveId.toNat : Int) = unitId
  function : OrderedDict.lookup e.function tagFunctionsByCode = some tag.function
  start : (e.start.toNat : Int) ≤ tag.address
  stop : tag.address + itemCount tag ≤ e.start.toNat + e.quantity.toNat

theorem request_eq (e : Exchange m) :
    e.request = requestFields e.slaveId e.function e.start e.quantity := by
  have hparse := (parse_requestFrame e.slaveId e.start e.quantity e.read).symm.trans e.request_parsed
  exact (Except.ok.inj hparse).symm

/-- Only the register functions have registers, those of the payload. -/
theorem registers_of_response {slaveId function : UInt8} {data : List UInt8} {f : RtuFrame}
    (hread : isReadFunction function = true)
    (hparse : parseRtuFrame (responseFrame slaveId function data) = .ok f) :
    (function ∉ [3, 4] → f.registers = none) ∧
      (function ∈ [3, 4] → data.length % 2 = 0 → f.registers = some (registersOf data)) := by
  obtain ⟨-, -, hshape⟩ := parseRtuFrame_eq_ok.mp hparse
  have hlength := length_responseFrame slaveId function data
  have hdata := extract_responseFrame slaveId function data
  have hcode : byteAt (responseFrame slaveId function data) 1 = function := rfl
  cases hshape with
  | exception hexception _ => exact absurd (not_exception hread) hexception
  | request _ height => exact ⟨fun _ => rfl, fun _ heven => by omega⟩
  | registers _ _ hfunction _ =>
    rw [hdata]
    exact ⟨fun hnot => absurd hfunction hnot, fun _ _ => rfl⟩
  | data _ hcount _ hnot =>
    refine ⟨fun _ => rfl, fun hfunction heven => absurd ⟨hfunction, ?_⟩ hnot⟩
    omega
  | bare _ hfour => omega
  | acknowledgement hwrite _ =>
    have hnever := (not_exception_of_write hwrite).2
    rw [hcode, hread] at hnever
    cases hnever

theorem registers_withResponseValue (f : RtuFrame) : (withResponseValue f).registers = f.registers := by
  rw [withResponseValue]
  split <;> rfl

theorem pair_registers_of_bits (e : Exchange m) (h : e.function ∉ [3, 4]) :
    e.pair.response.registers = none :=
  (registers_withResponseValue _).trans ((registers_of_response e.read e.response_parsed).1 h)

theorem pair_registers (e : Exchange m) {registers : List UInt16} (h : e.function ∈ [3, 4])
    (hpayload : payload m e.function e.slaveId.toNat e.start.toNat e.quantity.toNat =
      registers.flatMap u16Bytes) :
    e.pair.response.registers = some registers := by
  have hparsed := (registers_of_response e.read e.response_parsed).2 h
  rw [hpayload, registersOf_flatMap_u16Bytes, length_flatMap_u16Bytes] at hparsed
  exact (registers_withResponseValue _).trans (hparsed (by omega))

end Exchange

/-- The last tag of the block with the tag's name, whose result the name gets. -/
def namesake (block : ReadBlock F) (tag : TagSpec F) : Option (TagSpec F) :=
  (block.tags.filter fun other => other.name = tag.name).getLast?

structure SameReading (active passive : TagResult F) : Prop where
  quality : active.quality = passive.quality
  value : active.value = passive.value

variable {m : Memory} {tag : TagSpec F} {unitId defaultUnitId : Int} {timestamp : Datetime}

theorem lookup_tagFunction {function : UInt8} (h : isReadFunction function = true) :
    ∃ name, OrderedDict.lookup function tagFunctionsByCode = some name := by
  simp only [isReadFunction_iff, List.mem_cons, List.not_mem_nil, or_false] at h
  rcases h with rfl | rfl | rfl | rfl <;> exact ⟨_, rfl⟩

theorem latestPairs_exchange (e : Exchange m) {name : String}
    (hname : OrderedDict.lookup e.function tagFunctionsByCode = some name) :
    latestPairs [e.pair] = .ok (OrderedDict.set ∅ (e.slaveId, name, e.start) e.pair) := by
  have hrequest : e.pair.request = requestFields e.slaveId e.function e.start e.quantity := e.request_eq
  rw [latestPairs, List.foldlM_cons, hrequest]
  simp only [requestFields, hname]
  rfl

theorem tagFunction_cases {function : UInt8} {name : String}
    (hname : OrderedDict.lookup function tagFunctionsByCode = some name) :
    (function, name) ∈ tagFunctionsByCode :=
  (OrderedDict.lookup_eq_some (by decide)).mp hname

theorem register_function_iff {function : UInt8} {name : String}
    (hname : OrderedDict.lookup function tagFunctionsByCode = some name) :
    function ∈ [3, 4] ↔ name ∈ ["holding_register", "input_register"] := by
  have hcases := tagFunction_cases hname
  simp only [tagFunctionsByCode, List.mem_cons, List.not_mem_nil, or_false, Prod.mk.injEq] at hcases
  rcases hcases with ⟨rfl, rfl⟩ | ⟨rfl, rfl⟩ | ⟨rfl, rfl⟩ | ⟨rfl, rfl⟩ <;> decide

section Agreement

variable [PyRuntime F]

theorem search_single (key : PairKey) (pair : Pair) :
    tagResultFromPairs tag unitId (OrderedDict.set ∅ key pair) timestamp =
      tagResultFromPair tag unitId timestamp (key, pair) := by
  have hentries : (OrderedDict.set (∅ : OrderedDict PairKey Pair) key pair).entries =
      [(key, pair)] := rfl
  rw [tagResultFromPairs, hentries, List.findSome?_cons, List.findSome?_nil]
  cases tagResultFromPair tag unitId timestamp (key, pair) <;> rfl

/-- A tag of bits is not found, whatever its response. -/
theorem search_of_bits (e : Exchange m) (hbits : e.function ∉ [3, 4]) (key : PairKey) :
    tagResultFromPairs tag unitId (OrderedDict.set ∅ key e.pair) timestamp = none := by
  rw [search_single, tagResultFromPair]
  dsimp only
  rw [e.pair_registers_of_bits hbits]
  exact ite_self none

/-- The value of a register tag is the one of its own range of the memory. -/
theorem decodeFrom_contents {memory : Int → UInt16} {start : Int} {count : Nat}
    (hregister : itemCount tag = registerCount tag) (hpos : 0 < registerCount tag)
    (hstart : start ≤ tag.address) (hstop : tag.address + itemCount tag ≤ start + count) :
    decodeFrom (PySeq.contents memory start count) start tag =
      decodeRegisterTag (PySeq.contents memory tag.address (itemCount tag).toNat)
        (dedicatedBlock defaultUnitId tag) tag := by
  have hown := slice_of_fits (dedicatedBlock_fits defaultUnitId tag) (List.mem_singleton.mpr rfl)
    hregister.symm hpos.le memory
  have hwide := PySeq.slice_contents memory start (show 0 ≤ tag.address - start by omega)
    (show tag.address - start + ((registerCount tag).toNat : Int) ≤ count by omega)
  have hback : start + (tag.address - start) = tag.address := by omega
  rw [Int.toNat_of_nonneg hpos.le, hback] at hwide
  simp only [decodeFrom, decodeRegisterTag]
  rw [hwide]
  exact congrArg (fun registers => decodeRegisters registers tag >>=
    applyScale tag.scale tag.offset) hown.symm

/-- A register tag is found, with the value that its range of the memory has. -/
theorem search_of_registers (e : Exchange m) (hregister : e.function ∈ [3, 4])
    (hvalid : CommonFieldsOk tag) (hcontains : e.Contains (unitOf defaultUnitId tag) tag) :
    tagResultFromPairs tag (unitOf defaultUnitId tag)
        (OrderedDict.set ∅ (e.slaveId, tag.function, e.start) e.pair) timestamp =
      some (tagResult tag timestamp (m.value defaultUnitId tag)) := by
  have hname := (register_function_iff hcontains.function).mp hregister
  have hfunction : tag.function = "holding_register" ∨ tag.function = "input_register" := by
    simpa using hname
  have hitems := (itemCount_eq rfl).1 hfunction
  have hpos := (counts_positive hvalid).2
  -- what the memory of the function's registers answers is an observation of the tag
  have hsearch (memory : Int → UInt16)
      (hpayload : payload m e.function e.slaveId.toNat e.start.toNat e.quantity.toNat =
        (PySeq.contents memory e.start.toNat e.quantity.toNat).flatMap u16Bytes) :
      tagResultFromPairs tag (unitOf defaultUnitId tag)
          (OrderedDict.set ∅ (e.slaveId, tag.function, e.start) e.pair) timestamp =
        some (tagResult tag timestamp (decodeRegisterTag
          (PySeq.contents memory tag.address (itemCount tag).toNat)
          (dedicatedBlock defaultUnitId tag) tag)) := by
    have hrequest : e.pair.request = requestFields e.slaveId e.function e.start e.quantity :=
      e.request_eq
    let o : Observation :=
      { pair := e.pair
        function := tag.function
        start := e.start
        registers := PySeq.contents memory e.start.toNat e.quantity.toNat
        function_eq := by rw [hrequest]; exact hcontains.function
        function_code := by rw [hrequest]; exact hregister
        start_eq := by rw [hrequest]; rfl
        registers_eq := e.pair_registers hregister hpayload
        quantity_eq := by rw [hrequest, PySeq.length_contents]; rfl }
    have hslave : o.pair.request.slaveId = e.slaveId := by
      rw [hrequest]
      rfl
    have hholds : o.Holds (unitOf defaultUnitId tag) tag := by
      have hstop := hcontains.stop
      refine ⟨?_, rfl, hcontains.start, ?_⟩
      · rw [Observation.unitId, hslave]
        exact hcontains.unitId
      · rw [PySeq.length_contents]
        show tag.address < e.start.toNat + e.quantity.toNat
        omega
    have hentry : ((e.slaveId, tag.function, e.start), e.pair) = entry o := by
      rw [entry, Observation.key, hslave]
    rw [search_single, hentry, tagResultFromPair_holds hholds]
    exact congrArg (fun value => some (tagResult tag timestamp value))
      (decodeFrom_contents hitems hpos hcontains.start hcontains.stop)
  have hunit : (dedicatedBlock defaultUnitId tag).unitId = e.slaveId.toNat := hcontains.unitId.symm
  have hcases := tagFunction_cases hcontains.function
  simp only [tagFunctionsByCode, List.mem_cons, List.not_mem_nil, or_false, Prod.mk.injEq] at hcases
  rcases hfunction with h | h
  · have hcode : e.function = 3 := by simpa [h] using hcases
    rw [Memory.value, if_pos h, hunit]
    exact hsearch (m.holding e.slaveId.toNat) (by simp [payload, hcode])
  · have hcode : e.function = 4 := by simpa [h] using hcases
    rw [Memory.value, if_neg (by simp [h]), if_pos h, hunit]
    exact hsearch (m.input e.slaveId.toNat) (by simp [payload, hcode])

omit [PyRuntime F] in
theorem get?_blockResults (block : ReadBlock F) (tag : TagSpec F)
    (decode : TagSpec F → Except PyException (PyValue F)) :
    (blockResults block timestamp decode).get? tag.name =
      (namesake block tag).map fun other => tagResult other timestamp (decode other) := by
  rw [blockResults, OrderedDict.get?_ofList, List.filter_map, List.getLast?_map, Option.map_map]
  rfl

omit [PyRuntime F] in
theorem exists_namesake {block : ReadBlock F} (h : tag ∈ block.tags) :
    ∃ other, namesake block tag = some other ∧ other ∈ block.tags := by
  have hne : block.tags.filter (fun other => other.name = tag.name) ≠ [] :=
    List.ne_nil_of_mem (List.mem_filter.mpr ⟨h, decide_eq_true rfl⟩)
  refine ⟨_, List.getLast?_eq_some_getLast hne, ?_⟩
  exact (List.mem_filter.mp (List.getLast_mem hne)).1

omit [PyRuntime F] in
theorem sameReading_iff {other : TagSpec F} {t : Datetime} {x y : Except PyException (PyValue F)} :
    SameReading (tagResult other t x) (tagResult tag timestamp y) ↔ x.toOption = y.toOption := by
  constructor
  · rintro ⟨hquality, hvalue⟩
    cases x with
    | error exc =>
      cases y with
      | error exc' => rfl
      | ok value => cases hquality
    | ok value =>
      cases y with
      | error exc => cases hquality
      | ok value' =>
        obtain rfl : value = value' := hvalue
        rfl
  · intro h
    cases x with
    | error exc =>
      cases y with
      | error exc' => exact ⟨rfl, rfl⟩
      | ok value => cases h
    | ok value =>
      cases y with
      | error exc => cases h
      | ok value' =>
        obtain rfl := Option.some.inj h
        exact ⟨rfl, rfl⟩

/-- The bits of a tag can always be read. -/
theorem value_of_bits (hvalid : CommonFieldsOk tag)
    (hbits : tag.function = "coil" ∨ tag.function = "discrete_input") :
    ∃ value, m.value defaultUnitId tag = .ok value := by
  have hcount := (itemCount_eq rfl).2 hbits
  have hpos := (counts_positive hvalid).1
  have hdecode (memory : Int → Bool) : ∃ value, decodeBitTag
      (PySeq.contents memory tag.address (itemCount tag).toNat) (dedicatedBlock defaultUnitId tag) tag =
        .ok value := by
    have hown : PySeq.slice (PySeq.contents memory tag.address (itemCount tag).toNat)
        (tag.address - (dedicatedBlock defaultUnitId tag).start)
        (tag.address - (dedicatedBlock defaultUnitId tag).start + valueCount tag) =
          PySeq.contents memory tag.address (valueCount tag).toNat :=
      slice_of_fits (dedicatedBlock_fits defaultUnitId tag) (List.mem_singleton.mpr rfl)
        hcount.symm hpos.le memory
    rw [decodeBitTag, hown, if_neg (by rw [PySeq.length_contents]; omega)]
    split
    · exact ⟨_, rfl⟩
    · exact ⟨_, rfl⟩
  rcases hbits with h | h
  · rw [Memory.value, if_neg (by simp [h]), if_neg (by simp [h]), if_pos h]
    exact hdecode _
  · rw [Memory.value, if_neg (by simp [h]), if_neg (by simp [h]), if_neg (by simp [h]), if_pos h]
    exact hdecode _

/-- The monitor and the active driver agree on a tag exactly when it is one of registers
and the result under its name is its own, or one like it. -/
theorem passive_agrees_iff (m : Memory) (e : Exchange m) {device : DeviceSpec F}
    (tags : List (TagSpec F)) (hunit : intSetting device.connection "unit_id" 1 = .ok defaultUnitId)
    (timestamp : Datetime) :
    ∃ results, tagResultsFromPairs device tags [e.pair] timestamp = .ok results ∧
      List.Forall₂ (fun tag passive => e.Contains (unitOf defaultUnitId tag) tag →
        ∀ block, BlockFits defaultUnitId block → tag ∈ block.tags →
          (∀ other ∈ block.tags, validateTag "modbus_rtu_monitor" other = .ok ()) → ∀ t,
            ((∃ active, (readBlock m.client block t).get? tag.name = some active ∧
                SameReading active passive) ↔
              tag.function ∈ ["holding_register", "input_register"] ∧
                ∀ other, namesake block tag = some other →
                  (m.value defaultUnitId other).toOption = (m.value defaultUnitId tag).toOption))
        tags results := by
  obtain ⟨name, hname⟩ := lookup_tagFunction e.read
  refine ⟨_, by rw [tagResultsFromPairs, latestPairs_exchange e hname, hunit]; rfl, ?_⟩
  rw [List.forall₂_map_right_iff, List.forall₂_same]
  intro tag _ hcontains block hfits hmem hblock t
  have hok : ∀ other ∈ block.tags, CommonFieldsOk other := fun other ho =>
    (validateModbusTag_ok.mp (hblock other ho)).common
  obtain ⟨other, hother, hin⟩ := exists_namesake hmem
  obtain rfl := Option.some.inj (hname.symm.trans hcontains.function)
  have hactive : (readBlock m.client block t).get? tag.name =
      some (tagResult other t (m.value defaultUnitId other)) := by
    rw [readBlock_memory m t hfits hok, get?_blockResults, hother, Option.map_some]
  have hsame (passive : TagResult F) :
      (∃ active, (readBlock m.client block t).get? tag.name = some active ∧
        SameReading active passive) ↔
      SameReading (tagResult other t (m.value defaultUnitId other)) passive := by
    simp [hactive]
  rw [hsame, ← register_function_iff hname]
  by_cases hregister : e.function ∈ [3, 4]
  · rw [search_of_registers e hregister (hok tag hmem) hcontains, Option.getD_some, sameReading_iff]
    simp [hregister, hother]
  · refine iff_of_false (fun h => ?_) fun h => hregister h.1
    have hbits : other.function = "coil" ∨ other.function = "discrete_input" := by
      have hcases := tagFunction_cases hname
      rw [(hfits.function tag hmem).trans (hfits.function other hin).symm] at hcases
      simp only [List.mem_cons, List.not_mem_nil, or_false, not_or] at hregister
      have hbits : e.function = 1 ∧ other.function = "coil" ∨
          e.function = 2 ∧ other.function = "discrete_input" := by
        simpa [tagFunctionsByCode, hregister] using hcases
      exact hbits.imp And.right And.right
    obtain ⟨value, hvalue⟩ := value_of_bits (hok other hin) hbits
    rw [search_of_bits e hregister, hvalue] at h
    cases h.quality

end Agreement

-- ---------------------------------------------------------------------------
-- A register and a coil
-- ---------------------------------------------------------------------------

/-- A read of registers 0 to 3, which hold their addresses. -/
def levelExchange : Exchange addressMemory where
  slaveId := 1
  function := 3
  start := 0
  quantity := 4
  request := requestFields 1 3 0 4
  response := registersFields 1 3 (PySeq.contents (addressMemory.holding 1) 0 4)
  read := rfl
  request_parsed := parse_requestFrame 1 0 4 rfl
  response_parsed := parse_registersFrame 1 (by decide) (PySeq.contents (addressMemory.holding 1) 0 4)
    (by simp)

theorem level_agrees : ∃ passive active,
    tagResultsFromPairs overlapDevice [overlapTag] [levelExchange.pair] 0 = .ok [passive] ∧
      (readBlock addressMemory.client (dedicatedBlock 1 overlapTag) 0).get? overlapTag.name =
        some active ∧ SameReading active passive := by
  have hunit : intSetting overlapDevice.connection "unit_id" 1 = .ok 1 := rfl
  obtain ⟨results, hresults, hagree⟩ :=
    passive_agrees_iff addressMemory levelExchange [overlapTag] hunit 0
  cases hagree with
  | cons htag hnil =>
    cases hnil
    obtain ⟨active, hactive, hsame⟩ := (htag ⟨rfl, rfl, by decide, by decide⟩ _
      (dedicatedBlock_fits 1 overlapTag) (List.mem_singleton.mpr rfl) (by decide) 0).mpr
        ⟨by decide, fun other hother => by cases hother; rfl⟩
    exact ⟨_, active, hresults, hactive, hsame⟩

def coilTag : TagSpec WholeFloat := { overlapTag with function := "coil", dataType := "bool" }

/-- A coil is good when it is asked for, and not observed when it is listened to. -/
theorem coil_disagrees :
    ¬ ∀ (e : Exchange addressMemory) (tag : TagSpec WholeFloat) (passive : TagResult WholeFloat),
      validateTag "modbus_rtu_monitor" tag = .ok () → e.Contains (unitOf 1 tag) tag →
      tagResultsFromPairs overlapDevice [tag] [e.pair] 0 = .ok [passive] →
      ∃ active, (readBlock addressMemory.client (dedicatedBlock 1 tag) 0).get? tag.name = some active ∧
        SameReading active passive := by
  intro h
  have hread : isReadFunction 1 = true := rfl
  obtain ⟨response, hresponse, -⟩ := response_of_data 1 (payload addressMemory 1 1 0 8) hread
    (by decide) (by decide) (by decide)
  let e : Exchange addressMemory :=
    { slaveId := 1
      function := 1
      start := 0
      quantity := 8
      request := requestFields 1 1 0 8
      response := response
      read := rfl
      request_parsed := parse_requestFrame 1 0 8 rfl
      response_parsed := hresponse }
  have hnone : tagResultFromPairs coilTag (unitOf 1 coilTag)
      (OrderedDict.set ∅ (1, "coil", 0) e.pair) 0 = none :=
    search_of_bits e (show (1 : UInt8) ∉ [3, 4] by decide) _
  have hpassive : tagResultsFromPairs overlapDevice [coilTag] [e.pair] 0 =
      .ok [notObserved coilTag 0] := by
    rw [tagResultsFromPairs, latestPairs_exchange e rfl, ok_bind]
    exact congrArg (fun result => Except.ok [result.getD (notObserved coilTag 0)]) hnone
  have hstart : ((0 : UInt16).toNat : Int) ≤ coilTag.address := by decide
  have hstop : coilTag.address + itemCount coilTag ≤ (0 : UInt16).toNat + (8 : UInt16).toNat := by decide
  obtain ⟨active, hactive, hsame⟩ := h e coilTag _ (by decide) ⟨rfl, rfl, hstart, hstop⟩ hpassive
  have hgood : (readBlock addressMemory.client (dedicatedBlock 1 coilTag) 0).get? coilTag.name =
      some ⟨"level", 1, .bool false, .good, none, 0, none, ""⟩ := rfl
  obtain rfl := Option.some.inj (hgood.symm.trans hactive)
  cases hsame.quality

end RtuMonitor

end IndustrialGateway
