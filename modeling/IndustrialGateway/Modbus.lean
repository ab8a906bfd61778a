import IndustrialGateway.Lib.PySeq
import IndustrialGateway.Models
import Mathlib.Algebra.Group.Int.Defs
import Mathlib.Algebra.Group.Nat.Defs
import Mathlib.Data.List.Sort

/-!
# Modbus reading

`drivers/modbus.py`: the tags of a device are grouped by function and unit,
merged into blocks of neighbouring addresses, read block by block and decoded
from the block's registers or bits. The client is given as its answers; a
raised exception is an error of `Except`.
-/

namespace IndustrialGateway

variable {F : Type}

namespace Modbus

def maxRegisterReadCount : Int := 125

def maxBitReadCount : Int := 2000

/-- `value or default` for an optional integer. -/
def intOr (value : Option Int) (default : Int) : Int :=
  match value with
  | none => default
  | some n => if n = 0 then default else n

-- ---------------------------------------------------------------------------
-- Counts
-- ---------------------------------------------------------------------------

def valueCount (tag : TagSpec F) : Int := intOr tag.wordCount 1

def wordsPerValue (tag : TagSpec F) : Int :=
  if tag.dataType = "float64" then 4
  else if tag.dataType ∈ ["int32", "uint32", "float32"] then 2 else 1

def registerCount (tag : TagSpec F) : Int :=
  if tag.dataType = "string" then intOr tag.wordCount 1 else wordsPerValue tag * valueCount tag

def itemCount (tag : TagSpec F) : Int :=
  if tag.function ∈ ["coil", "discrete_input"] then valueCount tag else registerCount tag

-- ---------------------------------------------------------------------------
-- Decoding
-- ---------------------------------------------------------------------------

def registersToInt (registers : List UInt16) : Nat :=
  registers.foldl (fun raw register => raw * 0x10000 + register.toNat) 0

def applyWordOrder (registers : List UInt16) (tag : TagSpec F) : List UInt16 :=
  if tag.wordOrder = "little" ∧ 1 < registers.length then registers.reverse else registers

/-- The bytes up to the first zero, as ASCII with replacement characters. -/
def decodeString (registers : List UInt16) (tag : TagSpec F) : String :=
  let bytes := registers.flatMap fun register =>
    let high := register.toNat / 256
    let low := register.toNat % 256
    if tag.byteOrder = "little" then [low, high] else [high, low]
  String.ofList ((bytes.takeWhile (· ≠ 0)).map fun byte =>
    if byte < 128 then Char.ofNat byte else '\uFFFD')

/-- `registers[0]`. -/
def firstRegister : List UInt16 → Except PyException UInt16
  | [] => .error ⟨.other "IndexError", "list index out of range"⟩
  | register :: _ => .ok register

/-- `raw.to_bytes(size, "big")` as a number. -/
def toBytes (size raw : Nat) : Except PyException Nat :=
  if raw < 256 ^ size then .ok raw else .error ⟨.overflowError, "int too big to convert"⟩

/-- An unsigned number read as a signed one of so many bits. -/
def signed (bits raw : Nat) : Int := if raw.testBit (bits - 1) then raw - 2 ^ bits else raw

section Decoding

variable [PyRuntime F]

def decodeSingleRegisterValue (registers : List UInt16) (tag : TagSpec F) :
    Except PyException (PyValue F) := do
  if tag.dataType = "bool" then
    let register ← firstRegister registers
    return .bool (register ≠ 0)
  let ordered := applyWordOrder registers tag
  if tag.dataType = "int16" then
    let register ← firstRegister ordered
    return .int (signed 16 register.toNat)
  if tag.dataType = "uint16" then
    let register ← firstRegister ordered
    return .int register.toNat
  if tag.dataType = "string" then
    return .str (decodeString ordered tag)
  let raw := registersToInt ordered
  if tag.dataType = "int32" then
    return .int (signed 32 raw)
  if tag.dataType = "uint32" then
    return .int raw
  if tag.dataType = "float32" then
    let bits ← toBytes 4 raw
    return .float (PyRuntime.unpackFloat bits)
  if tag.dataType = "float64" then
    let bits ← toBytes 8 raw
    return .float (PyRuntime.unpackDouble bits)
  throw ⟨.valueError, "unsupported data type " ++ tag.dataType⟩

def decodeRegisters (registers : List UInt16) (tag : TagSpec F) : Except PyException (PyValue F) := do
  if (registers.length : Int) < registerCount tag then
    throw ⟨.valueError, "not enough registers for " ++ tag.name⟩
  if tag.dataType ≠ "string" ∧ 1 < valueCount tag then
    let words := wordsPerValue tag
    let values ← (List.range (valueCount tag).toNat).mapM fun index : Nat =>
      decodeSingleRegisterValue (PySeq.slice registers (index * words) (index * words + words)) tag
    return .list values
  decodeSingleRegisterValue registers tag

mutual
def applyScale (scale offset : F) : PyValue F → Except PyException (PyValue F)
  | .int n =>
    match PyRuntime.ofInt n with
    | some x => .ok (.float (PyRuntime.add (PyRuntime.mul x scale) offset))
    | none => .error ⟨.overflowError, "int too large to convert to float"⟩
  | .float x => .ok (.float (PyRuntime.add (PyRuntime.mul x scale) offset))
  | .list values => do return .list (← applyScaleList scale offset values)
  | .none => .ok .none
  | .bool b => .ok (.bool b)
  | .str s => .ok (.str s)
  | .dict kvs => .ok (.dict kvs)
  | .object name text => .ok (.object name text)
def applyScaleList (scale offset : F) : List (PyValue F) → Except PyException (List (PyValue F))
  | [] => .ok []
  | value :: values => do return (← applyScale scale offset value) :: (← applyScaleList scale offset values)
end

end Decoding

def bad (tag : TagSpec F) (timestamp : Datetime) (error : String) : TagResult F :=
  ⟨tag.name, tag.address, .none, .bad, some error, timestamp, none, tag.tagGroup⟩

/-- The result of a tag whose value was decoded, or could not be. -/
def tagResult (tag : TagSpec F) (timestamp : Datetime) : Except PyException (PyValue F) → TagResult F
  | .ok value => ⟨tag.name, tag.address, value, .good, none, timestamp, none, tag.tagGroup⟩
  | .error exc => bad tag timestamp exc.message

-- ---------------------------------------------------------------------------
-- Planning
-- ---------------------------------------------------------------------------

structure ReadBlock (F : Type) where
  function : String
  unitId : Int
  start : Int
  count : Int
  tags : List (TagSpec F)
  deriving DecidableEq

/-- The loop over the sorted tags of one function and unit, with an open block. -/
def mergeFrom (function : String) (unitId maxBlockGap maxCount : Int) (current : List (TagSpec F))
    (start end_ : Int) : List (TagSpec F) → List (ReadBlock F)
  | [] => [⟨function, unitId, start, end_ - start, current⟩]
  | tag :: tags =>
    let tagEnd := tag.address + itemCount tag
    let nextEnd := max end_ tagEnd
    if tag.address ≤ end_ + maxBlockGap ∧ nextEnd - start ≤ maxCount then
      mergeFrom function unitId maxBlockGap maxCount (current ++ [tag]) start nextEnd tags
    else
      ⟨function, unitId, start, end_ - start, current⟩ ::
        mergeFrom function unitId maxBlockGap maxCount [tag] tag.address tagEnd tags

def mergeBlocks (function : String) (unitId maxBlockGap maxCount : Int) :
    List (TagSpec F) → List (ReadBlock F)
  | [] => []
  | tag :: tags =>
    mergeFrom function unitId maxBlockGap maxCount [tag] tag.address (tag.address + itemCount tag) tags

/-- `sorted(tags, key=lambda tag: tag.address)`, which is stable. -/
def sortByAddress (tags : List (TagSpec F)) : List (TagSpec F) :=
  tags.insertionSort fun a b => a.address ≤ b.address

/-- The limit of every function. -/
abbrev MaxCounts := OrderedDict String Int

def limits (registerLimit bitLimit : Int) : MaxCounts :=
  .ofList [("holding_register", registerLimit), ("input_register", registerLimit),
    ("coil", bitLimit), ("discrete_input", bitLimit)]

def unitOf (defaultUnitId : Int) (tag : TagSpec F) : Int := intOr tag.unitId defaultUnitId

section Planning

variable [PyRuntime F]

/-- `d[key]`. -/
def item (d : OrderedDict String α) (key : String) : Except PyException α :=
  match d.get? key with
  | some v => .ok v
  | none => .error ⟨.keyError, PyRuntime.reprStr F key⟩

def planBlocks (tags : List (TagSpec F)) (defaultUnitId maxBlockGap : Int) (maxCounts : MaxCounts) :
    Except PyException (List (ReadBlock F)) := do
  let grouped := OrderedDict.groupBy (fun tag => (tag.function, unitOf defaultUnitId tag)) tags
  let blocks ← grouped.entries.mapM fun ((function, unitId), functionTags) => do
    let maxCount ← item (F := F) maxCounts function
    return mergeBlocks function unitId maxBlockGap maxCount (sortByAddress functionTags)
  return blocks.flatten

/-- `connection.get(key, default)` as an integer. -/
def intSetting (connection : OrderedDict String (PyValue F)) (key : String) (default : Int) :
    Except PyException Int :=
  match connection.get? key with
  | none => .ok default
  | some value => value.toInt

def positiveInt (value : Option (PyValue F)) (default : Int) : Except PyException Int :=
  match value with
  | none | some .none => .ok default
  | some value => do
    let parsed ← value.toInt
    if parsed < 1 then throw ⟨.valueError, "Modbus read limit must be at least 1"⟩
    return parsed

def maxCountsFromConnection (connection : OrderedDict String (PyValue F)) :
    Except PyException MaxCounts := do
  let registers ← positiveInt (connection.get? "max_registers_per_read") maxRegisterReadCount
  let bits ← positiveInt (connection.get? "max_bits_per_read") maxBitReadCount
  return limits (min registers maxRegisterReadCount) (min bits maxBitReadCount)

/-- The settings that a read takes from the connection. -/
structure ReadSettings where
  maxBlockGap : Int
  maxCounts : MaxCounts
  defaultUnitId : Int

def readSettings (connection : OrderedDict String (PyValue F)) : Except PyException ReadSettings := do
  let maxBlockGap ← intSetting connection "max_block_gap" 4
  let maxCounts ← maxCountsFromConnection connection
  let defaultUnitId ← intSetting connection "unit_id" 1
  return ⟨maxBlockGap, maxCounts, defaultUnitId⟩

-- ---------------------------------------------------------------------------
-- Reading
-- ---------------------------------------------------------------------------

/-- A response of the client: an error, with its text, or the values. -/
inductive Response (α : Type) where
  | error (text : String)
  | values (vs : List α)

/-- The client's answers, by start, count and device id. -/
structure Client where
  readHoldingRegisters : Int → Int → Int → Except PyException (Response UInt16)
  readInputRegisters : Int → Int → Int → Except PyException (Response UInt16)
  readCoils : Int → Int → Int → Except PyException (Response Bool)
  readDiscreteInputs : Int → Int → Int → Except PyException (Response Bool)

def decodeRegisterTag (registers : List UInt16) (block : ReadBlock F) (tag : TagSpec F) :
    Except PyException (PyValue F) := do
  let offset := tag.address - block.start
  let value ← decodeRegisters (PySeq.slice registers offset (offset + registerCount tag)) tag
  applyScale tag.scale tag.offset value

def decodeBitTag (bits : List Bool) (block : ReadBlock F) (tag : TagSpec F) :
    Except PyException (PyValue F) :=
  let offset := tag.address - block.start
  let count := valueCount tag
  let values := PySeq.slice bits offset (offset + count)
  if (values.length : Int) < count then .error ⟨.valueError, "not enough bits for " ++ tag.name⟩
  else if count = 1 then .ok (.bool (values.headD false))
  else .ok (.list (values.map .bool))

/-- The results of the block's tags by name, each from its own part of the answer. -/
def blockResults (block : ReadBlock F) (timestamp : Datetime)
    (decode : TagSpec F → Except PyException (PyValue F)) : OrderedDict String (TagResult F) :=
  .ofList (block.tags.map fun tag => (tag.name, tagResult tag timestamp (decode tag)))

def badBlock (block : ReadBlock F) (timestamp : Datetime) (error : TagSpec F → String) :
    OrderedDict String (TagResult F) :=
  .ofList (block.tags.map fun tag => (tag.name, bad tag timestamp (error tag)))

/-- What becomes of the client's answer. -/
def readWith (answer : Except PyException (Response α)) (block : ReadBlock F) (timestamp : Datetime)
    (decode : List α → TagSpec F → Except PyException (PyValue F)) :
    OrderedDict String (TagResult F) :=
  match answer with
  | .error exc => badBlock block timestamp fun _ => exc.message
  | .ok (.error text) => badBlock block timestamp fun _ => text
  | .ok (.values vs) => blockResults block timestamp (decode vs)

def readBlock (client : Client) (block : ReadBlock F) (timestamp : Datetime) :
    OrderedDict String (TagResult F) :=
  if block.function = "holding_register" then
    readWith (client.readHoldingRegisters block.start block.count block.unitId) block timestamp
      fun registers => decodeRegisterTag registers block
  else if block.function = "input_register" then
    readWith (client.readInputRegisters block.start block.count block.unitId) block timestamp
      fun registers => decodeRegisterTag registers block
  else if block.function = "coil" then
    readWith (client.readCoils block.start block.count block.unitId) block timestamp
      fun bits => decodeBitTag bits block
  else if block.function = "discrete_input" then
    readWith (client.readDiscreteInputs block.start block.count block.unitId) block timestamp
      fun bits => decodeBitTag bits block
  else badBlock block timestamp fun tag => "unsupported function " ++ tag.function

/-- `results_by_name` after reading the blocks; `clock` gives the time of each. -/
def readBlocks (client : Client) (clock : Nat → Datetime) (blocks : List (ReadBlock F)) :
    OrderedDict String (TagResult F) :=
  .ofList (blocks.zipIdx.flatMap fun (block, i) => (readBlock client block (clock i)).entries)

def readTagsGrouped (client : Option Client) (device : DeviceSpec F) (tags : List (TagSpec F))
    (clock : Nat → Datetime) : Except PyException (List (TagResult F)) :=
  match client with
  | none => .ok (tags.map fun tag => bad tag (clock 0) "Modbus client is not connected")
  | some client => do
    let settings ← readSettings device.connection
    let blocks ← planBlocks tags settings.defaultUnitId settings.maxBlockGap settings.maxCounts
    let resultsByName := readBlocks client clock blocks
    return tags.map fun tag =>
      (resultsByName.get? tag.name).getD (bad tag (clock blocks.length) "tag was not read")

end Planning

end Modbus

end IndustrialGateway
