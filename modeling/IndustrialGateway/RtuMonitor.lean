import IndustrialGateway.Lib.OrderedDict
import IndustrialGateway.Lib.PyText
import IndustrialGateway.Lib.PyValue
import IndustrialGateway.Lib.Scanner
import Mathlib.Logic.Function.Iterate

/-!
# Modbus RTU monitor

`drivers/modbus_rtu_monitor.py`: the bytes that pass on a serial line are cut into
frames, and a read request is paired with the next read response of its slave and
function. Bytes are `UInt8`, the CRC and the 16-bit fields `UInt16`. What
`serial_port.read` returned until the deadline is given as a list of chunks.
-/

namespace IndustrialGateway

namespace RtuMonitor

open FrameScan (Window Scanner)

def readFunctions : List (UInt8 × String) :=
  [(1, "read_coils"), (2, "read_discrete_inputs"), (3, "read_holding_registers"),
    (4, "read_input_registers")]

def writeFunctions : List (UInt8 × String) :=
  [(5, "write_single_coil"), (6, "write_single_register"), (15, "write_multiple_coils"),
    (16, "write_multiple_registers")]

def isReadFunction (function : UInt8) : Bool := function ∈ readFunctions.map Prod.fst

-- ---------------------------------------------------------------------------
-- Checksum
-- ---------------------------------------------------------------------------

def crcShift (crc : UInt16) : UInt16 :=
  if crc &&& 1 = 1 then (crc >>> 1) ^^^ 0xA001 else crc >>> 1

def crcByte (crc : UInt16) (byte : UInt8) : UInt16 :=
  crcShift^[8] (crc ^^^ byte.toUInt16)

def crc16Modbus (data : List UInt8) : UInt16 := data.foldl crcByte 0xFFFF

example : crc16Modbus [0x01, 0x03, 0x04, 0x00, 0x7B, 0x00, 0x2D] = 0x374A := by decide +kernel

-- ---------------------------------------------------------------------------
-- Frames
-- ---------------------------------------------------------------------------

structure RtuFrame where
  status : String := "ok"
  slaveId : UInt8
  function : UInt8
  functionName : String
  rawHex : String
  length : Nat
  crc : String := "ok"
  exceptionCode : Option UInt8 := none
  startAddress : Option UInt16 := none
  quantity : Option UInt16 := none
  byteCount : Option UInt8 := none
  registers : Option (List UInt16) := none
  dataHex : Option String := none
  value : Option UInt16 := none
  deriving DecidableEq

def valueError (message : String) : PyException := ⟨.valueError, message⟩

def u16 (high low : UInt8) : UInt16 := (high.toUInt16 <<< 8) ||| low.toUInt16

/-- `f"{n:0wX}"`. -/
def hexText (width n : Nat) : String :=
  String.ofList (((Nat.toDigits 16 n).map Char.toUpper).leftpad width '0')

def hex (data : List UInt8) : String :=
  String.intercalate " " (data.map fun byte => hexText 2 byte.toNat)

/-- `data[i]`, where the length was checked before. -/
def byteAt (data : List UInt8) (i : Nat) : UInt8 := data.getD i 0

def functionName (function : UInt8) (frame : List UInt8) : String :=
  if function &&& 0x80 ≠ 0 then "exception_response"
  else match OrderedDict.lookup function readFunctions with
    | some base => if frame.length = 8 then base ++ "_request" else base ++ "_response"
    | none => (OrderedDict.lookup function writeFunctions).getD "unknown"

def registersOf : List UInt8 → List UInt16
  | high :: low :: rest => u16 high low :: registersOf rest
  | _ => []

/-- The result with the fields that every frame has. -/
def commonFields (frame : List UInt8) : RtuFrame where
  slaveId := byteAt frame 0
  function := byteAt frame 1
  functionName := functionName (byteAt frame 1) frame
  rawHex := hex frame
  length := frame.length

/-- `parse_rtu_frame` after its first two checks. -/
def decodeFrame (frame : List UInt8) : Except PyException RtuFrame :=
  let function := byteAt frame 1
  let result := commonFields frame
  if function &&& 0x80 ≠ 0 then
    if frame.length ≠ 5 then
      .error (valueError "Modbus exception response must be exactly 5 bytes")
    else .ok { result with exceptionCode := some (byteAt frame 2) }
  else if isReadFunction function ∧ 5 ≤ frame.length then
    if frame.length = 8 then
      .ok { result with
        startAddress := some (u16 (byteAt frame 2) (byteAt frame 3))
        quantity := some (u16 (byteAt frame 4) (byteAt frame 5)) }
    else
      let byteCount := byteAt frame 2
      let data := frame.extract 3 (frame.length - 2)
      if frame.length ≠ byteCount.toNat + 5 then
        .error (valueError "Modbus read response length does not match byte count")
      else if data.length = byteCount.toNat ∧ function ∈ [3, 4] ∧ byteCount.toNat % 2 = 0 then
        .ok { result with byteCount := some byteCount, registers := some (registersOf data) }
      else if data.length = byteCount.toNat then
        .ok { result with byteCount := some byteCount, dataHex := some (hex data) }
      else .ok { result with byteCount := some byteCount }
  else if function ∈ [5, 6, 15, 16] ∧ 8 ≤ frame.length then
    if frame.length ≠ 8 then
      .error (valueError "Modbus write acknowledgement must be exactly 8 bytes")
    else
      .ok { result with
        startAddress := some (u16 (byteAt frame 2) (byteAt frame 3))
        value := some (u16 (byteAt frame 4) (byteAt frame 5)) }
  else if ¬ isReadFunction function then
    .error (valueError ("unsupported Modbus function " ++ PyText.textOfInt function.toNat))
  else .ok result

/-- The two bytes after the data, the low one first. -/
def actualCrc (frame : List UInt8) : UInt16 :=
  (byteAt frame (frame.length - 2)).toUInt16 ||| (byteAt frame (frame.length - 1)).toUInt16 <<< 8

def expectedCrc (frame : List UInt8) : UInt16 := crc16Modbus (frame.take (frame.length - 2))

def parseRtuFrame (frame : List UInt8) : Except PyException RtuFrame :=
  if frame.length < 4 then .error (valueError "Modbus RTU frame must be at least 4 bytes")
  else if expectedCrc frame ≠ actualCrc frame then
    .error (valueError ("CRC mismatch: expected 0x" ++ hexText 4 (expectedCrc frame).toNat ++
      ", got 0x" ++ hexText 4 (actualCrc frame).toNat))
  else decodeFrame frame

def isReadResponse (frame : RtuFrame) : Bool :=
  isReadFunction frame.function && frame.byteCount.isSome

def isReadRequest (frame : RtuFrame) : Bool :=
  isReadFunction frame.function && frame.startAddress.isSome && frame.quantity.isSome

def withResponseValue (frame : RtuFrame) : RtuFrame :=
  match frame.registers with
  | some [register] => { frame with value := some register }
  | _ => frame

-- ---------------------------------------------------------------------------
-- Looking for a frame
-- ---------------------------------------------------------------------------

/-- The loops of the span functions: the first window with a frame that is wanted, or
the last error. -/
def firstSpan (wanted : RtuFrame → Bool) (data : List UInt8) :
    List (Nat × Nat) → String → Option (Window RtuFrame) × String
  | [], lastError => (none, lastError)
  | (start, stop) :: spans, lastError =>
    match parseRtuFrame (data.extract start stop) with
    | .error exc => firstSpan wanted data spans exc.message
    | .ok frame =>
      if wanted frame then (some ⟨start, stop, frame⟩, "") else firstSpan wanted data spans lastError

def firstValidFrameSpan (data : List UInt8) : Option (Window RtuFrame) × String :=
  firstSpan (fun _ => true) data (FrameScan.spans 4 data.length) ""

def firstResponseFrameSpan (data : List UInt8) : Option (Window RtuFrame) × String :=
  firstSpan isReadResponse data (FrameScan.spans 4 data.length) ""

-- ---------------------------------------------------------------------------
-- Pairing requests and responses
-- ---------------------------------------------------------------------------

structure Pair where
  request : RtuFrame
  response : RtuFrame
  deriving DecidableEq

abbrev Pending : Type := OrderedDict (UInt8 × UInt8) RtuFrame

def RtuFrame.key (frame : RtuFrame) : UInt8 × UInt8 := (frame.slaveId, frame.function)

/-- What a frame does to the pending requests, and the pair that it completes. -/
def recordFrame (pending : Pending) (frame : RtuFrame) : List Pair × Pending :=
  if isReadRequest frame then ([], pending.set frame.key frame)
  else if isReadResponse frame then
    match pending.get? frame.key with
    | some request => ([⟨request, withResponseValue frame⟩], pending.erase frame.key)
    | none => ([], pending)
  else ([], pending)

/-- The variables of a capture: a scanner, of which only the buffer is in the code, and
the pending requests. -/
structure Receiver extends Scanner UInt8 RtuFrame where
  pending : Pending := ∅

def Receiver.extend (s : Receiver) (chunk : List UInt8) : Receiver :=
  { s with toScanner := s.toScanner.extend chunk }

def Receiver.delete (s : Receiver) (n : Nat) : Receiver :=
  { s with toScanner := s.toScanner.delete n }

/-- `del buffer[:end]` after a frame, which is recorded. -/
def Receiver.take (s : Receiver) (w : Window RtuFrame) : Receiver where
  toScanner := s.toScanner.take w
  pending := (recordFrame s.pending w.frame).2

/-- The loop of `_drain_request_response_pairs`; a round takes at least four bytes. -/
def drainLoop : Nat → List Pair → Receiver → List Pair × Receiver
  | 0, pairs, s => (pairs, s)
  | fuel + 1, pairs, s =>
    if s.buffer = [] then (pairs, s)
    else match (firstValidFrameSpan s.buffer).1 with
      | none => (pairs, if 512 < s.buffer.length then s.delete (s.buffer.length - 512) else s)
      | some w => drainLoop fuel (pairs ++ (recordFrame s.pending w.frame).1) (s.take w)

def drainRequestResponsePairs (s : Receiver) : List Pair × Receiver :=
  drainLoop s.buffer.length [] s

def captureLoop : List Pair → Receiver → List (List UInt8) → List Pair × Receiver
  | pairs, s, [] => (pairs, s)
  | pairs, s, chunk :: chunks =>
    captureLoop (pairs ++ (drainRequestResponsePairs (s.extend chunk)).1)
      (drainRequestResponsePairs (s.extend chunk)).2 chunks

/-- `_capture_request_response_pairs` for what the reads returned before the deadline,
an empty chunk for one that timed out. -/
def captureRequestResponsePairs (chunks : List (List UInt8)) : List Pair × Receiver :=
  captureLoop [] {} chunks

end RtuMonitor

end IndustrialGateway
