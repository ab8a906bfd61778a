import IndustrialGateway.RtuMonitor

/-!
# Frames and their parser

What `parse_rtu_frame` accepts is one of six shapes. A request and a response that are
encoded with their checksum are parsed to what they were made of, unless the response
has the length of a request.
-/

namespace IndustrialGateway

namespace RtuMonitor

variable {frame data : List UInt8} {f : RtuFrame}

-- ---------------------------------------------------------------------------
-- Words and bytes
-- ---------------------------------------------------------------------------

def u16Bytes (word : UInt16) : List UInt8 := [(word >>> 8).toUInt8, word.toUInt8]

theorem toNat_u16 (high low : UInt8) : (u16 high low).toNat = high.toNat * 256 + low.toNat := by
  have hhigh := high.toNat_lt
  have hlow := low.toNat_lt
  have height : (8 : UInt16).toNat % 16 = 8 := by decide
  rw [u16, UInt16.toNat_or, UInt16.toNat_shiftLeft, height]
  simp only [UInt8.toNat_toUInt16]
  rw [Nat.mod_eq_of_lt (by rw [Nat.shiftLeft_eq]; omega),
    ← Nat.shiftLeft_add_eq_or_of_lt (by omega), Nat.shiftLeft_eq]

theorem toNat_high (word : UInt16) : (word >>> 8).toUInt8.toNat = word.toNat / 256 := by
  have hword := word.toNat_lt
  have height : (8 : UInt16).toNat % 16 = 8 := by decide
  rw [UInt16.toNat_toUInt8, UInt16.toNat_shiftRight, height, Nat.shiftRight_eq_div_pow]
  omega

@[simp] theorem u16_bytes (word : UInt16) : u16 (word >>> 8).toUInt8 word.toUInt8 = word := by
  apply UInt16.toNat_inj.mp
  rw [toNat_u16, toNat_high, UInt16.toNat_toUInt8]
  omega

@[simp] theorem u16Bytes_u16 (high low : UInt8) : u16Bytes (u16 high low) = [high, low] := by
  have hhigh := high.toNat_lt
  have hlow := low.toNat_lt
  have hh : (u16 high low >>> 8).toUInt8 = high := by
    apply UInt8.toNat_inj.mp
    rw [toNat_high, toNat_u16]
    omega
  have hl : (u16 high low).toUInt8 = low := by
    apply UInt8.toNat_inj.mp
    rw [UInt16.toNat_toUInt8, toNat_u16]
    omega
  rw [u16Bytes, hh, hl]

theorem registersOf_flatMap_u16Bytes (registers : List UInt16) :
    registersOf (registers.flatMap u16Bytes) = registers := by
  induction registers with
  | nil => rfl
  | cons register registers ih =>
    rw [List.flatMap_cons, u16Bytes, List.cons_append, List.cons_append, List.nil_append,
      registersOf, u16_bytes, ih]

theorem flatMap_u16Bytes_registersOf (data : List UInt8) (h : data.length % 2 = 0) :
    (registersOf data).flatMap u16Bytes = data := by
  induction data using registersOf.induct with
  | case1 high low rest ih =>
    have heven : rest.length % 2 = 0 := by
      simp only [List.length_cons] at h
      omega
    rw [registersOf, List.flatMap_cons, u16Bytes_u16, ih heven]
    rfl
  | case2 data hshort =>
    cases data with
    | nil => rfl
    | cons high rest =>
      cases rest with
      | nil => simp at h
      | cons low rest => exact (hshort high low rest rfl).elim

theorem length_flatMap_u16Bytes (registers : List UInt16) :
    (registers.flatMap u16Bytes).length = 2 * registers.length := by
  induction registers with
  | nil => rfl
  | cons register registers ih =>
    rw [List.flatMap_cons, List.length_append, ih, u16Bytes]
    simp only [List.length_cons, List.length_nil]
    omega

-- ---------------------------------------------------------------------------
-- Accepted shapes
-- ---------------------------------------------------------------------------

/-- The frames that pass the checks of their function, with the fields that they get. -/
inductive FrameShape (frame : List UInt8) : RtuFrame → Prop
  | exception : byteAt frame 1 &&& 0x80 ≠ 0 → frame.length = 5 →
      FrameShape frame { commonFields frame with exceptionCode := some (byteAt frame 2) }
  | request : isReadFunction (byteAt frame 1) = true → frame.length = 8 →
      FrameShape frame { commonFields frame with
        startAddress := some (u16 (byteAt frame 2) (byteAt frame 3))
        quantity := some (u16 (byteAt frame 4) (byteAt frame 5)) }
  | registers : isReadFunction (byteAt frame 1) = true → frame.length = (byteAt frame 2).toNat + 5 →
      byteAt frame 1 ∈ [3, 4] → (byteAt frame 2).toNat % 2 = 0 →
      FrameShape frame { commonFields frame with
        byteCount := some (byteAt frame 2)
        registers := some (registersOf (frame.extract 3 (frame.length - 2))) }
  | data : isReadFunction (byteAt frame 1) = true → frame.length = (byteAt frame 2).toNat + 5 →
      frame.length ≠ 8 → ¬ (byteAt frame 1 ∈ [3, 4] ∧ (byteAt frame 2).toNat % 2 = 0) →
      FrameShape frame { commonFields frame with
        byteCount := some (byteAt frame 2)
        dataHex := some (hex (frame.extract 3 (frame.length - 2))) }
  | bare : isReadFunction (byteAt frame 1) = true → frame.length = 4 →
      FrameShape frame (commonFields frame)
  | acknowledgement : byteAt frame 1 ∈ [5, 6, 15, 16] → frame.length = 8 →
      FrameShape frame { commonFields frame with
        startAddress := some (u16 (byteAt frame 2) (byteAt frame 3))
        value := some (u16 (byteAt frame 4) (byteAt frame 5)) }

theorem isReadFunction_iff {function : UInt8} :
    isReadFunction function = true ↔ function ∈ [1, 2, 3, 4] := by
  simp [isReadFunction, readFunctions]

theorem not_exception {function : UInt8} (h : isReadFunction function = true) :
    function &&& 0x80 = 0 := by
  simp only [isReadFunction_iff, List.mem_cons, List.not_mem_nil, or_false] at h
  rcases h with rfl | rfl | rfl | rfl <;> rfl

theorem not_exception_of_write {function : UInt8} (h : function ∈ [5, 6, 15, 16]) :
    function &&& 0x80 = 0 ∧ isReadFunction function = false := by
  simp only [List.mem_cons, List.not_mem_nil, or_false] at h
  rcases h with rfl | rfl | rfl | rfl <;> exact ⟨rfl, rfl⟩

theorem length_data (frame : List UInt8) : (frame.extract 3 (frame.length - 2)).length =
    frame.length - 5 := by
  rw [List.extract_eq_take_drop, List.length_take, List.length_drop]
  omega

theorem decodeFrame_eq_ok (hlen : 4 ≤ frame.length) :
    decodeFrame frame = .ok f ↔ FrameShape frame f := by
  constructor
  · intro h
    simp only [decodeFrame] at h
    split at h
    · rename_i hexception
      split at h
      · cases h
      · rename_i hfive
        cases h
        exact .exception hexception (by simpa using hfive)
    · split at h
      · rename_i hread
        split at h
        · rename_i height
          cases h
          exact .request hread.1 height
        · rename_i height
          split at h
          · cases h
          · rename_i hcount
            replace hcount : frame.length = (byteAt frame 2).toNat + 5 := by simpa using hcount
            have hdata : (frame.extract 3 (frame.length - 2)).length = (byteAt frame 2).toNat := by
              rw [length_data]
              omega
            split at h
            · rename_i hregisters
              cases h
              exact .registers hread.1 hcount hregisters.2.1 hregisters.2.2
            · rename_i hnot
              cases h
              exact .data hread.1 hcount height fun hboth => hnot ⟨hdata, hboth⟩
      · rename_i hexception hread
        split at h
        · rename_i hwrite
          split at h
          · cases h
          · rename_i height
            cases h
            exact .acknowledgement hwrite.1 (by simpa using height)
        · split at h
          · cases h
          · rename_i hfunction
            cases h
            have hfunction : isReadFunction (byteAt frame 1) = true := by simpa using hfunction
            exact .bare hfunction (by have := mt (And.intro hfunction) hread; omega)
  · intro h
    cases h with
    | exception hexception hfive => simp [decodeFrame, hexception, hfive]
    | request hread height => simp [decodeFrame, not_exception hread, hread, height]
    | registers hread hcount hfunction heven =>
      have height : frame.length ≠ 8 := by omega
      have hdata : (frame.extract 3 (frame.length - 2)).length = (byteAt frame 2).toNat := by
        rw [length_data]
        omega
      have hfive : 5 ≤ frame.length := by omega
      simp only [decodeFrame, not_exception hread, hread, hfive, height, hcount.symm, hdata,
        hfunction, heven, ne_eq, not_true_eq_false, and_self, ↓reduceIte]
    | data hread hcount height hnot =>
      have hdata : (frame.extract 3 (frame.length - 2)).length = (byteAt frame 2).toNat := by
        rw [length_data]
        omega
      have hfive : 5 ≤ frame.length := by omega
      simp only [decodeFrame, not_exception hread, hread, hfive, height, hcount.symm, hdata, hnot,
        ne_eq, not_true_eq_false, and_self, and_false, ↓reduceIte]
    | bare hread hfour =>
      have hwrite : byteAt frame 1 ∉ [5, 6, 15, 16] := fun hwrite => by
        rw [(not_exception_of_write hwrite).2] at hread
        cases hread
      simp only [decodeFrame, not_exception hread, hread, hfour, hwrite, ne_eq, not_true_eq_false,
        Nat.reduceLeDiff, and_false, ↓reduceIte]
    | acknowledgement hwrite height =>
      obtain ⟨hexception, hread⟩ := not_exception_of_write hwrite
      simp only [decodeFrame, hexception, hread, hwrite, height, ne_eq, not_true_eq_false,
        Bool.false_eq_true, false_and, le_refl, and_self, ↓reduceIte]

theorem parseRtuFrame_eq_ok : parseRtuFrame frame = .ok f ↔
    4 ≤ frame.length ∧ expectedCrc frame = actualCrc frame ∧ FrameShape frame f := by
  rw [parseRtuFrame]
  split
  · rename_i hshort
    exact ⟨nofun, fun h => absurd h.1 (Nat.not_le_of_lt hshort)⟩
  · rename_i hlong
    split
    · rename_i hcrc
      exact ⟨nofun, fun h => absurd h.2.1 hcrc⟩
    · rename_i hcrc
      rw [decodeFrame_eq_ok (Nat.le_of_not_lt hlong)]
      exact ⟨fun h => ⟨Nat.le_of_not_lt hlong, not_not.mp hcrc, h⟩, fun h => h.2.2⟩

theorem FrameShape.common (h : FrameShape frame f) : f.slaveId = byteAt frame 0 ∧
    f.function = byteAt frame 1 ∧ f.length = frame.length := by
  cases h <;> exact ⟨rfl, rfl, rfl⟩

theorem FrameShape.length_le (h : FrameShape frame f) : frame.length ≤ 260 := by
  have hbyte := (byteAt frame 2).toNat_lt
  cases h <;> omega

/-- A read request is a frame of a read function that has eight bytes. -/
theorem FrameShape.isReadRequest_iff (h : FrameShape frame f) :
    isReadRequest f = true ↔ isReadFunction (byteAt frame 1) = true ∧ frame.length = 8 := by
  cases h with
  | exception _ hfive => simp [isReadRequest, commonFields, hfive]
  | request hread height => simp [isReadRequest, commonFields, hread, height]
  | registers _ hcount _ heven =>
    simp only [isReadRequest, commonFields, Option.isSome_none, Bool.and_false, Bool.false_eq_true,
      false_iff, not_and]
    omega
  | data _ _ height => simp [isReadRequest, commonFields, height]
  | bare _ hfour => simp [isReadRequest, commonFields, hfour]
  | acknowledgement hwrite _ =>
    simp [isReadRequest, commonFields, (not_exception_of_write hwrite).2]

/-- A read response is one of any other length from five bytes on. -/
theorem FrameShape.isReadResponse_iff (h : FrameShape frame f) :
    isReadResponse f = true ↔
      isReadFunction (byteAt frame 1) = true ∧ frame.length = (byteAt frame 2).toNat + 5 ∧
        frame.length ≠ 8 := by
  cases h with
  | exception hexception _ =>
    have hread := mt not_exception hexception
    simp [isReadResponse, commonFields, hread]
  | request _ height => simp [isReadResponse, commonFields, height]
  | registers hread hcount _ heven =>
    have height : frame.length ≠ 8 := by omega
    simp [isReadResponse, commonFields, hread, ← hcount, height]
  | data hread hcount height => simp [isReadResponse, commonFields, hread, ← hcount, height]
  | bare _ hfour =>
    simp only [isReadResponse, commonFields, Option.isSome_none, Bool.and_false, Bool.false_eq_true,
      false_iff, not_and]
    omega
  | acknowledgement hwrite _ =>
    simp [isReadResponse, commonFields, (not_exception_of_write hwrite).2]

-- ---------------------------------------------------------------------------
-- Encoded frames
-- ---------------------------------------------------------------------------

/-- The data with its checksum, the low byte first. -/
def withCrc (data : List UInt8) : List UInt8 :=
  data ++ [(crc16Modbus data).toUInt8, (crc16Modbus data >>> 8).toUInt8]

def requestFrame (slaveId function : UInt8) (startAddress quantity : UInt16) : List UInt8 :=
  withCrc (slaveId :: function :: (u16Bytes startAddress ++ u16Bytes quantity))

def responseFrame (slaveId function : UInt8) (payload : List UInt8) : List UInt8 :=
  withCrc (slaveId :: function :: UInt8.ofNat payload.length :: payload)

@[simp] theorem length_withCrc (data : List UInt8) : (withCrc data).length = data.length + 2 := by
  simp [withCrc]

theorem take_withCrc (data : List UInt8) :
    (withCrc data).take ((withCrc data).length - 2) = data := by
  rw [length_withCrc, Nat.add_sub_cancel, withCrc, List.take_left]

theorem crc_withCrc (data : List UInt8) :
    expectedCrc (withCrc data) = actualCrc (withCrc data) := by
  have hlow : byteAt (withCrc data) data.length = (crc16Modbus data).toUInt8 := by
    simp [byteAt, withCrc]
  have hhigh : byteAt (withCrc data) (data.length + 1) = (crc16Modbus data >>> 8).toUInt8 := by
    simp [byteAt, withCrc]
  rw [expectedCrc, take_withCrc, actualCrc, length_withCrc, Nat.add_sub_cancel, hlow,
    show data.length + 2 - 1 = data.length + 1 by omega, hhigh, UInt16.or_comm]
  exact (u16_bytes _).symm

theorem parse_withCrc (hlen : 2 ≤ data.length) (h : FrameShape (withCrc data) f) :
    parseRtuFrame (withCrc data) = .ok f :=
  parseRtuFrame_eq_ok.mpr ⟨by rw [length_withCrc]; omega, crc_withCrc data, h⟩

section Encoded

variable (slaveId function : UInt8) (startAddress quantity : UInt16) (payload : List UInt8)

/-- What a request frame is parsed to. -/
def requestFields : RtuFrame where
  slaveId := slaveId
  function := function
  functionName := functionName function (requestFrame slaveId function startAddress quantity)
  rawHex := hex (requestFrame slaveId function startAddress quantity)
  length := 8
  startAddress := some startAddress
  quantity := some quantity

/-- What a response frame with registers is parsed to. -/
def registersFields (registers : List UInt16) : RtuFrame where
  slaveId := slaveId
  function := function
  functionName := functionName function
    (responseFrame slaveId function (registers.flatMap u16Bytes))
  rawHex := hex (responseFrame slaveId function (registers.flatMap u16Bytes))
  length := 2 * registers.length + 5
  byteCount := some (UInt8.ofNat (2 * registers.length))
  registers := some registers

theorem length_requestFrame : (requestFrame slaveId function startAddress quantity).length = 8 := by
  simp [requestFrame, u16Bytes]

theorem length_responseFrame : (responseFrame slaveId function payload).length =
    payload.length + 5 := by
  simp [responseFrame]

theorem extract_responseFrame : (responseFrame slaveId function payload).extract 3
    ((responseFrame slaveId function payload).length - 2) = payload := by
  rw [length_responseFrame, responseFrame, withCrc]
  simp [List.extract_eq_take_drop]

variable {function}

theorem parse_requestFrame (h : isReadFunction function = true) :
    parseRtuFrame (requestFrame slaveId function startAddress quantity) =
      .ok (requestFields slaveId function startAddress quantity) := by
  have hshape : FrameShape (requestFrame slaveId function startAddress quantity) _ :=
    .request h (length_requestFrame ..)
  have hfields : requestFields slaveId function startAddress quantity =
      { commonFields (requestFrame slaveId function startAddress quantity) with
        startAddress := some (u16 (startAddress >>> 8).toUInt8 startAddress.toUInt8)
        quantity := some (u16 (quantity >>> 8).toUInt8 quantity.toUInt8) } := by
    have hslave : byteAt (requestFrame slaveId function startAddress quantity) 0 = slaveId := rfl
    have hcode : byteAt (requestFrame slaveId function startAddress quantity) 1 = function := rfl
    rw [u16_bytes, u16_bytes, requestFields, commonFields, length_requestFrame, hslave, hcode]
  rw [hfields]
  exact parse_withCrc (by simp) hshape

theorem toNat_byteCount {n : Nat} (h : n ≤ 250) : (UInt8.ofNat n).toNat = n := by
  rw [UInt8.toNat_ofNat']
  omega

theorem isReadFunction_of_registers (h : function ∈ [3, 4]) : isReadFunction function = true := by
  simp only [List.mem_cons, List.not_mem_nil, or_false] at h
  rcases h with rfl | rfl <;> rfl

theorem parse_registersFrame (h : function ∈ [3, 4]) (registers : List UInt16)
    (hmax : registers.length ≤ 125) :
    parseRtuFrame (responseFrame slaveId function (registers.flatMap u16Bytes)) =
      .ok (registersFields slaveId function registers) := by
  have hlen := length_flatMap_u16Bytes registers
  have hcount : (UInt8.ofNat (registers.flatMap u16Bytes).length).toNat = 2 * registers.length := by
    rw [toNat_byteCount (by omega), hlen]
  have hbytes : (responseFrame slaveId function (registers.flatMap u16Bytes)).length =
      (UInt8.ofNat (registers.flatMap u16Bytes).length).toNat + 5 := by
    rw [length_responseFrame, hcount, hlen]
  have hshape : FrameShape (responseFrame slaveId function (registers.flatMap u16Bytes)) _ :=
    .registers (isReadFunction_of_registers h) hbytes h
      ((congrArg (· % 2) hcount).trans (Nat.mul_mod_right ..))
  have hfields : registersFields slaveId function registers =
      { commonFields (responseFrame slaveId function (registers.flatMap u16Bytes)) with
        byteCount := some (UInt8.ofNat (registers.flatMap u16Bytes).length)
        registers := some (registersOf (registers.flatMap u16Bytes)) } := by
    have hslave : byteAt (responseFrame slaveId function (registers.flatMap u16Bytes)) 0 =
      slaveId := rfl
    have hcode : byteAt (responseFrame slaveId function (registers.flatMap u16Bytes)) 1 =
      function := rfl
    rw [registersOf_flatMap_u16Bytes, registersFields, commonFields, length_responseFrame, hlen,
      hslave, hcode]
  rw [extract_responseFrame] at hshape
  rw [hfields]
  exact parse_withCrc (by simp) hshape

-- ---------------------------------------------------------------------------
-- Parsing undoes encoding
-- ---------------------------------------------------------------------------

structure RecognisedRequest (f : RtuFrame) (slaveId function : UInt8)
    (startAddress quantity : UInt16) : Prop where
  request : isReadRequest f = true
  slaveId : f.slaveId = slaveId
  function : f.function = function
  startAddress : f.startAddress = some startAddress
  quantity : f.quantity = some quantity

structure RecognisedResponse (f : RtuFrame) (slaveId function : UInt8) (payload : List UInt8) :
    Prop where
  response : isReadResponse f = true
  byteCount : f.byteCount.map UInt8.toNat = some payload.length
  registers : function ∈ [3, 4] → f.registers.map (·.flatMap u16Bytes) = some payload
  dataHex : function ∉ [3, 4] → f.dataHex = some (hex payload)
  slaveId : f.slaveId = slaveId
  function : f.function = function

variable (function) in
/-- A response of eight bytes is taken for a request. -/
theorem not_response_of_three (h : payload.length = 3) :
    ¬ ∃ f, parseRtuFrame (responseFrame slaveId function payload) = .ok f ∧
      RecognisedResponse f slaveId function payload := by
  rintro ⟨f, hparse, hresponse⟩
  obtain ⟨-, -, hshape⟩ := parseRtuFrame_eq_ok.mp hparse
  obtain ⟨-, -, height⟩ := hshape.isReadResponse_iff.mp hresponse.response
  exact height (by rw [length_responseFrame, h])

theorem response_of_registers (h : function ∈ [3, 4]) (heven : payload.length % 2 = 0)
    (hmax : payload.length ≤ 250) :
    ∃ f, parseRtuFrame (responseFrame slaveId function payload) = .ok f ∧
      RecognisedResponse f slaveId function payload := by
  have hpayload := flatMap_u16Bytes_registersOf payload heven
  have hlen := length_flatMap_u16Bytes (registersOf payload)
  rw [hpayload] at hlen
  have hparse := parse_registersFrame slaveId h (registersOf payload) (by omega)
  rw [hpayload] at hparse
  refine ⟨_, hparse, ?_, ?_, fun _ => ?_, fun hnot => absurd h hnot, rfl, rfl⟩
  · simp [isReadResponse, registersFields, isReadFunction_of_registers h]
  · rw [registersFields, Option.map_some, toNat_byteCount (by omega), hlen]
  · rw [registersFields, Option.map_some, hpayload]

theorem response_of_data (hread : isReadFunction function = true) (h : function ∉ [3, 4])
    (hmax : payload.length ≤ 250) (hthree : payload.length ≠ 3) :
    ∃ f, parseRtuFrame (responseFrame slaveId function payload) = .ok f ∧
      RecognisedResponse f slaveId function payload := by
  have hcount := toNat_byteCount hmax
  have hlen := length_responseFrame slaveId function payload
  have hshape : FrameShape (responseFrame slaveId function payload) _ :=
    .data hread (hlen.trans (congrArg (· + 5) hcount.symm)) (by omega) fun hboth => h hboth.1
  rw [extract_responseFrame] at hshape
  refine ⟨_, parse_withCrc (by simp) hshape, ?_, ?_, fun hmem => absurd hmem h, fun _ => rfl,
    rfl, rfl⟩
  · exact hshape.isReadResponse_iff.mpr
      ⟨hread, hlen.trans (congrArg (· + 5) hcount.symm), by omega⟩
  · exact congrArg some hcount

/-- Requests are always recognised, responses exactly when they do not have the length
of a request. -/
theorem recognised_iff (hfunction : function ∈ [1, 2, 3, 4]) (hmax : payload.length ≤ 250)
    (heven : function ∈ [3, 4] → payload.length % 2 = 0) :
    ((∃ f, parseRtuFrame (requestFrame slaveId function startAddress quantity) = .ok f ∧
        RecognisedRequest f slaveId function startAddress quantity) ∧
      ∃ f, parseRtuFrame (responseFrame slaveId function payload) = .ok f ∧
        RecognisedResponse f slaveId function payload) ↔
    payload.length ≠ 3 := by
  have hread := isReadFunction_iff.mpr hfunction
  constructor
  · rintro ⟨-, hresponse⟩ hthree
    exact not_response_of_three slaveId function payload hthree hresponse
  · intro hthree
    constructor
    · refine ⟨_, parse_requestFrame slaveId startAddress quantity hread, ?_, rfl, rfl, rfl, rfl⟩
      simp [isReadRequest, requestFields, hread]
    · by_cases hmem : function ∈ [3, 4]
      · exact response_of_registers slaveId payload hmem (heven hmem) hmax
      · exact response_of_data slaveId payload hread hmem hmax hthree

theorem recognised_two_coil_bytes :
    ((∃ f, parseRtuFrame (requestFrame 1 1 0 16) = .ok f ∧ RecognisedRequest f 1 1 0 16) ∧
      ∃ f, parseRtuFrame (responseFrame 1 1 [0x05, 0x00]) = .ok f ∧
        RecognisedResponse f 1 1 [0x05, 0x00]) ↔
    [0x05, (0x00 : UInt8)].length ≠ 3 :=
  recognised_iff 1 0 16 [0x05, 0x00] (by decide) (by decide) (by decide)

/-- The answer to a request for 24 coils. -/
theorem three_coil_bytes_not_recognised :
    ¬ ∀ (slaveId function : UInt8) (startAddress quantity : UInt16) (payload : List UInt8),
      function ∈ [1, 2, 3, 4] → 1 ≤ payload.length → payload.length ≤ 250 →
      (function ∈ [3, 4] → payload.length % 2 = 0) →
      (∃ f, parseRtuFrame (requestFrame slaveId function startAddress quantity) = .ok f ∧
          RecognisedRequest f slaveId function startAddress quantity) ∧
        ∃ f, parseRtuFrame (responseFrame slaveId function payload) = .ok f ∧
          RecognisedResponse f slaveId function payload := by
  intro h
  have hcoils := h 1 1 0 24 [0x05, 0x00, 0x00] (by decide) (by decide) (by decide) (by decide)
  exact not_response_of_three 1 1 [0x05, 0x00, 0x00] rfl hcoils.2

end Encoded

end RtuMonitor

end IndustrialGateway
