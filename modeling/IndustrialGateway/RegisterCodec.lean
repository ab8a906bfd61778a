import IndustrialGateway.Lib.PyExcept
import IndustrialGateway.Lib.RawFloat
import IndustrialGateway.Modbus
import Mathlib.Tactic.NormNum

/-!
# Register encodings

How integers and texts stand in registers, and that the decoder gives them back.
The byte order reaches texts only: the other types read each register as one
number, whatever the order of its bytes.
-/

namespace IndustrialGateway

namespace Modbus

variable {F : Type}

-- ---------------------------------------------------------------------------
-- One value of each type
-- ---------------------------------------------------------------------------

section Types

variable [PyRuntime F] {tag : TagSpec F} (registers : List UInt16)

theorem decodeSingle_int16 (h : tag.dataType = "int16") :
    decodeSingleRegisterValue registers tag =
      (firstRegister (applyWordOrder registers tag)).map fun register =>
        .int (signed 16 register.toNat) := by
  simp [decodeSingleRegisterValue, h]
  rfl

theorem decodeSingle_uint16 (h : tag.dataType = "uint16") :
    decodeSingleRegisterValue registers tag =
      (firstRegister (applyWordOrder registers tag)).map fun register => .int register.toNat := by
  simp [decodeSingleRegisterValue, h]
  rfl

theorem decodeSingle_string (h : tag.dataType = "string") :
    decodeSingleRegisterValue registers tag =
      .ok (.str (decodeString (applyWordOrder registers tag) tag)) := by
  simp [decodeSingleRegisterValue, h]
  rfl

theorem decodeSingle_int32 (h : tag.dataType = "int32") :
    decodeSingleRegisterValue registers tag =
      .ok (.int (signed 32 (registersToInt (applyWordOrder registers tag)))) := by
  simp [decodeSingleRegisterValue, h]
  rfl

theorem decodeSingle_uint32 (h : tag.dataType = "uint32") :
    decodeSingleRegisterValue registers tag =
      .ok (.int (registersToInt (applyWordOrder registers tag))) := by
  simp [decodeSingleRegisterValue, h]
  rfl

theorem decodeSingle_float32 (h : tag.dataType = "float32") :
    decodeSingleRegisterValue registers tag =
      (toBytes 4 (registersToInt (applyWordOrder registers tag))).map fun bits =>
        .float (PyRuntime.unpackFloat bits) := by
  simp [decodeSingleRegisterValue, h]
  rfl

theorem decodeSingle_float64 (h : tag.dataType = "float64") :
    decodeSingleRegisterValue registers tag =
      (toBytes 8 (registersToInt (applyWordOrder registers tag))).map fun bits =>
        .float (PyRuntime.unpackDouble bits) := by
  simp [decodeSingleRegisterValue, h]
  rfl

/-- The words of each value of the tag. -/
def valueWords (tag : TagSpec F) (words : List UInt16) : List (List UInt16) :=
  if tag.dataType ≠ "string" ∧ 1 < valueCount tag then
    (List.range (valueCount tag).toNat).map fun index : Nat =>
      PySeq.slice words (index * wordsPerValue tag) (index * wordsPerValue tag + wordsPerValue tag)
  else [words]

theorem decodeRegisters_one {registers : List UInt16} (henough : registerCount tag ≤ registers.length)
    (hone : ¬ (tag.dataType ≠ "string" ∧ 1 < valueCount tag)) :
    decodeRegisters registers tag = decodeSingleRegisterValue registers tag := by
  rw [decodeRegisters, if_neg (by omega), if_neg hone]

theorem decodeRegisters_many {registers : List UInt16} (henough : registerCount tag ≤ registers.length)
    (hmany : tag.dataType ≠ "string" ∧ 1 < valueCount tag) :
    decodeRegisters registers tag =
      ((valueWords tag registers).mapM fun words => decodeSingleRegisterValue words tag).map .list := by
  rw [decodeRegisters, if_neg (by omega), if_pos hmany, valueWords, if_pos hmany, List.mapM_map]
  rfl

end Types

-- ---------------------------------------------------------------------------
-- Integers
-- ---------------------------------------------------------------------------

/-- So many words of a number, the most significant first. -/
def wordsOf : Nat → Nat → List UInt16
  | 0, _ => []
  | words + 1, raw => wordsOf words (raw / 0x10000) ++ [UInt16.ofNat raw]

@[simp] theorem length_wordsOf (words raw : Nat) : (wordsOf words raw).length = words := by
  induction words generalizing raw with
  | zero => rfl
  | succ words ih => simp [wordsOf, ih]

theorem registersToInt_concat (registers : List UInt16) (register : UInt16) :
    registersToInt (registers ++ [register]) =
      registersToInt registers * 0x10000 + register.toNat := by
  rw [registersToInt, List.foldl_append]
  rfl

theorem registersToInt_wordsOf (words raw : Nat) :
    registersToInt (wordsOf words raw) = raw % 0x10000 ^ words := by
  induction words generalizing raw with
  | zero => simp [wordsOf, registersToInt, Nat.mod_one]
  | succ words ih =>
    rw [Nat.pow_succ', Nat.mod_mul, wordsOf, registersToInt_concat, ih, Nat.add_comm, Nat.mul_comm]
    rfl

inductive IntegerType where
  | int16
  | uint16
  | int32
  | uint32
  deriving DecidableEq, Repr

namespace IntegerType

def name : IntegerType → String
  | int16 => "int16"
  | uint16 => "uint16"
  | int32 => "int32"
  | uint32 => "uint32"

def words : IntegerType → Nat
  | int16 | uint16 => 1
  | int32 | uint32 => 2

def InRange (n : Int) : IntegerType → Prop
  | int16 => -2 ^ 15 ≤ n ∧ n < 2 ^ 15
  | uint16 => 0 ≤ n ∧ n < 2 ^ 16
  | int32 => -2 ^ 31 ≤ n ∧ n < 2 ^ 31
  | uint32 => 0 ≤ n ∧ n < 2 ^ 32

/-- The registers of a number in two's complement. -/
def encode (type : IntegerType) (wordOrder : String) (n : Int) : List UInt16 :=
  let registers := wordsOf type.words (n % 2 ^ (16 * type.words)).toNat
  if wordOrder = "little" then registers.reverse else registers

@[simp] theorem length_encode (type : IntegerType) (wordOrder : String) (n : Int) :
    (type.encode wordOrder n).length = type.words := by
  rw [encode]
  split <;> simp

end IntegerType

/-- The decoder puts the words of a value back in order. -/
theorem applyWordOrder_reverse (registers : List UInt16) (tag : TagSpec F) :
    applyWordOrder (if tag.wordOrder = "little" then registers.reverse else registers) tag =
      registers := by
  by_cases hlittle : tag.wordOrder = "little"
  · rw [applyWordOrder, if_pos hlittle]
    match registers with
    | [] => simp
    | [register] => simp
    | register :: register' :: registers =>
      rw [if_pos ⟨hlittle, by simp⟩, List.reverse_reverse]
  · rw [applyWordOrder, if_neg hlittle, if_neg fun h => hlittle h.1]

theorem signed_sixteen {n : Int} (h : -2 ^ 15 ≤ n ∧ n < 2 ^ 15) :
    signed 16 (n % 2 ^ 16).toNat = n := by
  rw [signed, Nat.testBit_eq_decide_div_mod_eq]
  split <;> rename_i hbit <;> simp only [decide_eq_true_eq] at hbit <;> omega

theorem signed_thirtyTwo {n : Int} (h : -2 ^ 31 ≤ n ∧ n < 2 ^ 31) :
    signed 32 (n % 2 ^ 32).toNat = n := by
  rw [signed, Nat.testBit_eq_decide_div_mod_eq]
  split <;> rename_i hbit <;> simp only [decide_eq_true_eq] at hbit <;> omega

section Integers

variable [PyRuntime F]

/-- One value comes back from its registers. -/
theorem decodeSingleRegisterValue_encode {type : IntegerType} {tag : TagSpec F} {n : Int}
    (htype : tag.dataType = type.name) (hn : type.InRange n) :
    decodeSingleRegisterValue (type.encode tag.wordOrder n) tag = .ok (.int n) := by
  have hordered : applyWordOrder (type.encode tag.wordOrder n) tag =
      wordsOf type.words (n % 2 ^ (16 * type.words)).toNat := applyWordOrder_reverse _ tag
  have hraw : registersToInt (wordsOf type.words (n % 2 ^ (16 * type.words)).toNat) =
      (n % 2 ^ (16 * type.words)).toNat := by
    rw [registersToInt_wordsOf]
    refine Nat.mod_eq_of_lt ?_
    cases type <;> simp only [IntegerType.words] <;> omega
  have hone : firstRegister (wordsOf 1 (n % 2 ^ 16).toNat) =
      .ok (UInt16.ofNat (n % 2 ^ 16).toNat) := rfl
  have hregister : (UInt16.ofNat (n % 2 ^ 16).toNat).toNat = (n % 2 ^ 16).toNat := by
    rw [UInt16.toNat_ofNat']
    omega
  cases type with
  | int16 =>
    refine (decodeSingle_int16 _ htype).trans ?_
    rw [hordered]
    refine (congrArg _ hone).trans ?_
    rw [Except.map, hregister, signed_sixteen hn]
  | uint16 =>
    refine (decodeSingle_uint16 _ htype).trans ?_
    rw [hordered]
    refine (congrArg _ hone).trans ?_
    obtain ⟨hlow, hhigh⟩ := hn
    rw [Except.map, hregister, Int.toNat_of_nonneg (by omega), Int.emod_eq_of_lt hlow hhigh]
  | int32 =>
    rw [decodeSingle_int32 _ htype, hordered, hraw]
    exact congrArg (fun n => Except.ok (PyValue.int n)) (signed_thirtyTwo hn)
  | uint32 =>
    rw [decodeSingle_uint32 _ htype, hordered, hraw]
    have hnat : ((n % 2 ^ 32).toNat : Int) = n := by
      obtain ⟨hlow, hhigh⟩ := hn
      omega
    exact congrArg (fun n => Except.ok (PyValue.int n)) hnat

/-- Several values are a list, one is the value itself. -/
def bareOrList : List Int → PyValue F
  | [n] => .int n
  | values => .list (values.map .int)

/-- A list of values comes back, or the value itself when there is one. -/
theorem decodeRegisters_encode {type : IntegerType} {tag : TagSpec F} {values : List Int}
    (htype : tag.dataType = type.name) (hcount : valueCount tag = values.length)
    (hvalues : values ≠ []) (hrange : ∀ n ∈ values, type.InRange n) :
    decodeRegisters (values.flatMap (type.encode tag.wordOrder)) tag = .ok (bareOrList values) := by
  have hwords : wordsPerValue tag = type.words := by
    cases type <;> simp [wordsPerValue, htype, IntegerType.name, IntegerType.words]
  have hstring : tag.dataType ≠ "string" := by
    rw [htype]
    cases type <;> simp [IntegerType.name]
  have hlength : ((values.flatMap (type.encode tag.wordOrder)).length : Int) = registerCount tag := by
    rw [registerCount, if_neg hstring, hwords, hcount, List.length_flatMap]
    simp [mul_comm]
  match values with
  | [n] =>
    rw [decodeRegisters_one hlength.ge fun h => absurd h.2 (by rw [hcount]; simp)]
    rw [List.flatMap_singleton]
    exact decodeSingleRegisterValue_encode htype (hrange n (List.mem_singleton_self n))
  | n :: m :: rest =>
    have hmany : tag.dataType ≠ "string" ∧ 1 < valueCount tag := ⟨hstring, by rw [hcount]; simp⟩
    have hcut : valueWords tag ((n :: m :: rest).flatMap (type.encode tag.wordOrder)) =
        (n :: m :: rest).map (type.encode tag.wordOrder) := by
      rw [valueWords, if_pos hmany, hwords, hcount, Int.toNat_natCast]
      refine List.ext_getElem (by simp) fun i _ h => ?_
      rw [List.getElem_map, List.getElem_map, List.getElem_range]
      exact PySeq.slice_flatMap (by simp) _
    have hdecode : ((n :: m :: rest).map (type.encode tag.wordOrder)).mapM
        (fun words => decodeSingleRegisterValue words tag) = .ok ((n :: m :: rest).map .int) := by
      rw [List.mapM_map]
      exact mapM_eq_ok_map fun k hk => decodeSingleRegisterValue_encode htype (hrange k hk)
    rw [decodeRegisters_many hlength.ge hmany, hcut, hdecode]
    rfl

end Integers

-- ---------------------------------------------------------------------------
-- Texts
-- ---------------------------------------------------------------------------

/-- The two bytes of a register in the order in which a text has them. -/
def registerBytes (byteOrder : String) (register : UInt16) : List Nat :=
  if byteOrder = "little" then [register.toNat % 256, register.toNat / 256]
  else [register.toNat / 256, register.toNat % 256]

/-- The registers of a sequence of bytes, two in each. -/
def packBytes (byteOrder : String) : List Nat → List UInt16
  | first :: second :: bytes =>
    (if byteOrder = "little" then UInt16.ofNat (second * 256 + first)
      else UInt16.ofNat (first * 256 + second)) :: packBytes byteOrder bytes
  | _ => []

/-- The registers of a text that is filled up with zeros. -/
def encodeText (byteOrder wordOrder : String) (words : Nat) (text : String) : List UInt16 :=
  let registers := packBytes byteOrder ((text.toList.map Char.toNat).rightpad (2 * words) 0)
  if wordOrder = "little" then registers.reverse else registers

theorem length_packBytes (byteOrder : String) (bytes : List Nat) :
    (packBytes byteOrder bytes).length = bytes.length / 2 := by
  fun_induction packBytes byteOrder bytes with
  | case1 first second bytes ih =>
    simp only [List.length_cons, ih]
    omega
  | case2 bytes h =>
    match bytes with
    | [] => rfl
    | [_] => simp
    | first :: second :: bytes => exact absurd rfl (h first second bytes)

theorem registerBytes_packBytes {byteOrder : String} {bytes : List Nat}
    (heven : bytes.length % 2 = 0) (hbytes : ∀ byte ∈ bytes, byte < 256) :
    (packBytes byteOrder bytes).flatMap (registerBytes byteOrder) = bytes := by
  fun_induction packBytes byteOrder bytes with
  | case1 first second bytes ih =>
    have hfirst : first < 256 := hbytes first (by simp)
    have hsecond : second < 256 := hbytes second (by simp)
    have hrest := ih (by simp only [List.length_cons] at heven; omega)
      fun byte h => hbytes byte (by simp [h])
    rw [List.flatMap_cons, hrest, registerBytes]
    split
    · rw [UInt16.toNat_ofNat']
      have hlow : (second * 256 + first) % 2 ^ 16 % 256 = first := by omega
      have hhigh : (second * 256 + first) % 2 ^ 16 / 256 = second := by omega
      rw [hlow, hhigh]
      rfl
    · rw [UInt16.toNat_ofNat']
      have hlow : (first * 256 + second) % 2 ^ 16 % 256 = second := by omega
      have hhigh : (first * 256 + second) % 2 ^ 16 / 256 = first := by omega
      rw [hlow, hhigh]
      rfl
  | case2 bytes h =>
    match bytes with
    | [] => rfl
    | [_] => simp at heven
    | first :: second :: bytes => exact absurd rfl (h first second bytes)

/-- The decoder takes the bytes up to the first zero. -/
theorem decodeString_eq (registers : List UInt16) (tag : TagSpec F) :
    decodeString registers tag =
      String.ofList (((registers.flatMap (registerBytes tag.byteOrder)).takeWhile (· ≠ 0)).map
        fun byte => if byte < 128 then Char.ofNat byte else '\uFFFD') := rfl

theorem takeWhile_rightpad {chars : List Nat} (h : ∀ byte ∈ chars, byte ≠ 0) (n : Nat) :
    (chars.rightpad n 0).takeWhile (· ≠ 0) = chars := by
  rw [List.rightpad, List.takeWhile_append_of_pos (by simpa using h)]
  simp

theorem map_char_toNat {chars : List Char} (h : ∀ c ∈ chars, c.toNat < 128) :
    ((chars.map Char.toNat).map fun byte => if byte < 128 then Char.ofNat byte else '\uFFFD') =
      chars := by
  rw [List.map_map]
  refine (List.map_congr_left fun c hc => ?_).trans (List.map_id chars)
  simp [h c hc]

theorem decodeRegisters_encodeText [PyRuntime F] {tag : TagSpec F} {text : String}
    (htype : tag.dataType = "string") (hascii : ∀ c ∈ text.toList, c ≠ '\x00' ∧ c.toNat < 128)
    (hlength : (text.length : Int) ≤ 2 * registerCount tag) :
    decodeRegisters (encodeText tag.byteOrder tag.wordOrder (registerCount tag).toNat text) tag =
      .ok (.str text) := by
  have hcount : ((registerCount tag).toNat : Int) = registerCount tag := by omega
  generalize (registerCount tag).toNat = words at hcount
  let bytes := (text.toList.map Char.toNat).rightpad (2 * words) 0
  have hpadded : bytes.length = 2 * words := by
    simp only [bytes, List.length_rightpad, List.length_map, String.length_toList]
    omega
  have hbytes : ∀ byte ∈ bytes, byte < 256 := by
    intro byte hbyte
    simp only [bytes, List.rightpad, List.mem_append, List.mem_map, List.mem_replicate] at hbyte
    obtain ⟨c, hc, rfl⟩ | ⟨-, rfl⟩ := hbyte
    · have := (hascii c hc).2
      omega
    · decide
  have hchars : ∀ byte ∈ text.toList.map Char.toNat, byte ≠ 0 := by
    intro byte hbyte hzero
    obtain ⟨c, hc, rfl⟩ := List.mem_map.mp hbyte
    exact (hascii c hc).1 (Char.toNat_inj.mp hzero)
  have hstring : ¬ (tag.dataType ≠ "string" ∧ 1 < valueCount tag) := fun h => h.1 htype
  have henough : registerCount tag ≤ (encodeText tag.byteOrder tag.wordOrder words text).length := by
    rw [encodeText]
    split <;> simp [length_packBytes] <;> omega
  have hordered : applyWordOrder (encodeText tag.byteOrder tag.wordOrder words text) tag =
      packBytes tag.byteOrder bytes := applyWordOrder_reverse _ tag
  rw [decodeRegisters_one henough hstring, decodeSingle_string _ htype, hordered, decodeString_eq,
    registerBytes_packBytes (by omega) hbytes, takeWhile_rightpad hchars,
    map_char_toNat fun c hc => (hascii c hc).2, String.ofList_toList]

/-- What the reference encodings write, the decoder reads. -/
theorem decodeRegisters_encoded [PyRuntime F] (tag : TagSpec F) :
    (∀ (type : IntegerType) (values : List Int), tag.dataType = type.name →
      valueCount tag = values.length → values ≠ [] → (∀ n ∈ values, type.InRange n) →
      decodeRegisters (values.flatMap (type.encode tag.wordOrder)) tag = .ok (bareOrList values)) ∧
    ∀ text : String, tag.dataType = "string" →
      (∀ c ∈ text.toList, c ≠ '\x00' ∧ c.toNat < 128) →
      (text.length : Int) ≤ 2 * registerCount tag →
      decodeRegisters (encodeText tag.byteOrder tag.wordOrder (registerCount tag).toNat text) tag =
        .ok (.str text) :=
  ⟨fun _ _ htype hcount hvalues hrange => decodeRegisters_encode htype hcount hvalues hrange,
    fun _ htype hascii hlength => decodeRegisters_encodeText htype hascii hlength⟩

def codecTag (dataType : String) (count : Int) (byteOrder wordOrder : String) :
    TagSpec RawFloat where
  name := "level"
  address := 0
  function := "holding_register"
  dataType := dataType
  scale := .whole ⟨1⟩
  offset := .whole ⟨0⟩
  wordCount := some count
  byteOrder := byteOrder
  wordOrder := wordOrder

theorem int32_pair_decoded :
    decodeRegisters ([-2, 65536].flatMap (IntegerType.int32.encode "little"))
        (codecTag "int32" 2 "big" "little") = .ok (.list [.int (-2), .int 65536]) ∧
      decodeRegisters (encodeText "little" "big" 2 "abc") (codecTag "string" 2 "little" "big") =
        .ok (.str "abc") := by
  have hascii : ("abc".toList.all fun c => decide (c ≠ '\x00' ∧ c.toNat < 128)) = true := by decide
  refine ⟨(decodeRegisters_encoded (codecTag "int32" 2 "big" "little")).1 .int32 [-2, 65536] rfl rfl
    (by simp) fun n hn => ?_, (decodeRegisters_encoded (codecTag "string" 2 "little" "big")).2 "abc"
    rfl (fun c hc => of_decide_eq_true (List.all_eq_true.mp hascii c hc)) (by decide)⟩
  rcases List.mem_pair.mp hn with rfl | rfl <;> exact ⟨by decide, by decide⟩

-- ---------------------------------------------------------------------------
-- The byte order
-- ---------------------------------------------------------------------------

def swapBytes (register : UInt16) : UInt16 :=
  UInt16.ofNat (register.toNat % 256 * 256 + register.toNat / 256)

/-- The unsigned numbers make the same number of the format, or both do not fit. -/
def SameUnpacked (size fraction exponent raw raw' : Nat) : Prop :=
  raw = raw' ∨ 256 ^ size ≤ raw ∧ 256 ^ size ≤ raw' ∨
    raw < 256 ^ size ∧ raw' < 256 ^ size ∧
      NanBits fraction exponent raw ∧ NanBits fraction exponent raw'

/-- What is read of the words of one value is the same when their bytes are swapped. -/
def SwapInvariant (tag : TagSpec F) (words : List UInt16) : Prop :=
  let ordered := applyWordOrder words tag
  let raw := registersToInt ordered
  let swapped := registersToInt (ordered.map swapBytes)
  if tag.dataType = "string" then True
  else if tag.dataType ∈ ["int16", "uint16"] then ordered.head?.map swapBytes = ordered.head?
  else if tag.dataType = "float32" then SameUnpacked 4 23 8 raw swapped
  else if tag.dataType = "float64" then SameUnpacked 8 52 11 raw swapped
  else ordered.map swapBytes = ordered

instance (size fraction exponent raw raw' : Nat) :
    Decidable (SameUnpacked size fraction exponent raw raw') := by
  unfold SameUnpacked
  infer_instance

instance (tag : TagSpec F) (words : List UInt16) : Decidable (SwapInvariant tag words) := by
  unfold SwapInvariant
  infer_instance

theorem toNat_swapBytes (register : UInt16) :
    (swapBytes register).toNat = register.toNat % 256 * 256 + register.toNat / 256 := by
  rw [swapBytes, UInt16.toNat_ofNat']
  have := register.toNat_lt
  omega

theorem applyWordOrder_map (f : UInt16 → UInt16) (registers : List UInt16) (tag : TagSpec F) :
    applyWordOrder (registers.map f) tag = (applyWordOrder registers tag).map f := by
  rw [applyWordOrder, applyWordOrder, List.length_map]
  split
  · rw [List.map_reverse]
  · rfl

theorem wordsOf_registersToInt (registers : List UInt16) :
    wordsOf registers.length (registersToInt registers) = registers := by
  induction registers using List.reverseRecOn with
  | nil => rfl
  | append_singleton registers register ih =>
    have hregister := register.toNat_lt
    have hhigh : (registersToInt registers * 0x10000 + register.toNat) / 0x10000 =
        registersToInt registers := by omega
    have hlow : UInt16.ofNat (registersToInt registers * 0x10000 + register.toNat) = register := by
      rw [← UInt16.toNat_inj, UInt16.toNat_ofNat']
      omega
    rw [List.length_append, List.length_singleton, registersToInt_concat, wordsOf, hhigh, hlow, ih]

theorem registersToInt_inj {xs ys : List UInt16} (hlength : xs.length = ys.length) :
    registersToInt xs = registersToInt ys ↔ xs = ys := by
  refine ⟨fun h => ?_, congrArg registersToInt⟩
  rw [← wordsOf_registersToInt xs, ← wordsOf_registersToInt ys, hlength, h]

theorem registersToInt_lt (registers : List UInt16) :
    registersToInt registers < 0x10000 ^ registers.length := by
  rw [← wordsOf_registersToInt registers, registersToInt_wordsOf, length_wordsOf]
  exact Nat.mod_lt _ (Nat.pow_pos (by decide))

theorem signed_inj {bits a b : Nat} (hbits : bits = 16 ∨ bits = 32) :
    signed bits a = signed bits b ↔ a = b := by
  refine ⟨fun h => ?_, congrArg _⟩
  rw [signed, signed, Nat.testBit_eq_decide_div_mod_eq, Nat.testBit_eq_decide_div_mod_eq] at h
  rcases hbits with rfl | rfl
  all_goals
    split at h <;> split at h <;> rename_i ha hb <;> simp only [decide_eq_true_eq] at ha hb <;> omega

/-- The types of a register tag but `bool`. -/
def numberTypes : List String := ["int16", "uint16", "int32", "uint32", "float32", "float64"]

def withByteOrder (tag : TagSpec F) (order : String) : TagSpec F := { tag with byteOrder := order }

@[simp] theorem dataType_withByteOrder (tag : TagSpec F) (order : String) :
    (withByteOrder tag order).dataType = tag.dataType := rfl

@[simp] theorem byteOrder_withByteOrder (tag : TagSpec F) (order : String) :
    (withByteOrder tag order).byteOrder = order := rfl

@[simp] theorem valueCount_withByteOrder (tag : TagSpec F) (order : String) :
    valueCount (withByteOrder tag order) = valueCount tag := rfl

@[simp] theorem wordsPerValue_withByteOrder (tag : TagSpec F) (order : String) :
    wordsPerValue (withByteOrder tag order) = wordsPerValue tag := rfl

@[simp] theorem registerCount_withByteOrder (tag : TagSpec F) (order : String) :
    registerCount (withByteOrder tag order) = registerCount tag := rfl

@[simp] theorem applyWordOrder_withByteOrder (registers : List UInt16) (tag : TagSpec F)
    (order : String) :
    applyWordOrder registers (withByteOrder tag order) = applyWordOrder registers tag := rfl

theorem decodeSingle_withByteOrder [PyRuntime F] {tag : TagSpec F} (h : tag.dataType ≠ "string")
    (order : String) (registers : List UInt16) :
    decodeSingleRegisterValue registers (withByteOrder tag order) =
      decodeSingleRegisterValue registers tag := by
  unfold decodeSingleRegisterValue
  simp [h]

/-- Only texts are decoded by the byte order. -/
theorem decodeRegisters_withByteOrder [PyRuntime F] {tag : TagSpec F} (h : tag.dataType ≠ "string")
    (order : String) (registers : List UInt16) :
    decodeRegisters registers (withByteOrder tag order) = decodeRegisters registers tag := by
  unfold decodeRegisters
  simp only [decodeSingle_withByteOrder h, registerCount_withByteOrder, valueCount_withByteOrder,
    wordsPerValue_withByteOrder, dataType_withByteOrder]
  rfl

theorem map_firstRegister_eq_iff {f : UInt16 → PyValue F} (hf : Function.Injective f)
    {xs ys : List UInt16} :
    (firstRegister xs).map f = (firstRegister ys).map f ↔ ys.head? = xs.head? := by
  cases xs <;> cases ys <;> simp [firstRegister, Except.map, hf.eq_iff, eq_comm]

theorem map_toBytes_eq_iff {size a b : Nat} {f : Nat → F} {same : Prop}
    (hf : a < 256 ^ size → b < 256 ^ size → (f a = f b ↔ a = b ∨ same)) :
    ((toBytes size a).map fun bits => PyValue.float (f bits)) =
        (toBytes size b).map (fun bits => PyValue.float (f bits)) ↔
      a = b ∨ 256 ^ size ≤ a ∧ 256 ^ size ≤ b ∨ a < 256 ^ size ∧ b < 256 ^ size ∧ same := by
  unfold toBytes
  split <;> split
  · rename_i ha hb
    simp [Except.map, hf ha hb, ha, hb, Nat.not_le.mpr ha]
  · rename_i ha hb
    have hne : a ≠ b := by omega
    simp [Except.map, ha, hb, hne]
  · rename_i ha hb
    have hne : a ≠ b := by omega
    simp [Except.map, ha, hb, hne]
  · rename_i ha hb
    simp only [Except.map, true_iff]
    omega

/-- One value reads the same from swapped bytes exactly when the swap does not matter. -/
theorem decodeSingle_swapped_iff [ExactUnpack F] {tag : TagSpec F} (htype : tag.dataType ∈ numberTypes)
    (words : List UInt16) :
    decodeSingleRegisterValue words tag = decodeSingleRegisterValue (words.map swapBytes) tag ↔
      SwapInvariant tag words := by
  have hint {f : UInt16 → Int} (hf : Function.Injective f) :
      Function.Injective fun register => PyValue.int (F := F) (f register) :=
    fun _ _ h => hf (PyValue.int.inj h)
  simp only [numberTypes, List.mem_cons, List.not_mem_nil, or_false] at htype
  rcases htype with h | h | h | h | h | h
  · have hinj := hint fun a b hab => UInt16.toNat_inj.mp ((signed_inj (.inl rfl)).mp hab)
    rw [decodeSingle_int16 _ h, decodeSingle_int16 _ h, applyWordOrder_map,
      map_firstRegister_eq_iff hinj, List.head?_map]
    simp [SwapInvariant, h]
  · have hinj := hint fun a b hab => UInt16.toNat_inj.mp (Int.ofNat_inj.mp hab)
    rw [decodeSingle_uint16 _ h, decodeSingle_uint16 _ h, applyWordOrder_map,
      map_firstRegister_eq_iff hinj, List.head?_map]
    simp [SwapInvariant, h]
  · rw [decodeSingle_int32 _ h, decodeSingle_int32 _ h, applyWordOrder_map]
    simp [SwapInvariant, h, signed_inj, registersToInt_inj, eq_comm]
  · rw [decodeSingle_uint32 _ h, decodeSingle_uint32 _ h, applyWordOrder_map]
    simp [SwapInvariant, h, registersToInt_inj, eq_comm]
  · rw [decodeSingle_float32 _ h, decodeSingle_float32 _ h, applyWordOrder_map,
      map_toBytes_eq_iff (ExactUnpack.unpackFloat_eq_iff _ _)]
    simp [SwapInvariant, h, SameUnpacked]
  · rw [decodeSingle_float64 _ h, decodeSingle_float64 _ h, applyWordOrder_map,
      map_toBytes_eq_iff (ExactUnpack.unpackDouble_eq_iff _ _)]
    simp [SwapInvariant, h, SameUnpacked]

theorem decodeString_swapped (registers : List UInt16) (tag : TagSpec F) :
    decodeString registers (withByteOrder tag "little") =
      decodeString (registers.map swapBytes) (withByteOrder tag "big") := by
  have hbytes : (registers.map swapBytes).flatMap (registerBytes "big") =
      registers.flatMap (registerBytes "little") := by
    rw [List.flatMap_map]
    refine List.flatMap_congr fun register _ => ?_
    have hlt := register.toNat_lt
    rw [registerBytes, registerBytes, toNat_swapBytes, if_neg (by decide), if_pos rfl]
    congr 2 <;> omega
  rw [decodeString_eq, decodeString_eq, byteOrder_withByteOrder, byteOrder_withByteOrder, hbytes]

/-- As many words as a value has make a value. -/
theorem decodeSingle_ok [PyRuntime F] {tag : TagSpec F} (htype : tag.dataType ∈ numberTypes)
    {words : List UInt16} (hlength : (words.length : Int) = wordsPerValue tag) :
    ∃ value, decodeSingleRegisterValue words tag = .ok value := by
  have hordered : (applyWordOrder words tag).length = words.length := by
    rw [applyWordOrder]
    split <;> simp
  have hraw := registersToInt_lt (applyWordOrder words tag)
  have hfirst (hone : wordsPerValue tag = 1) :
      ∃ register, firstRegister (applyWordOrder words tag) = .ok register := by
    obtain ⟨register, hregister⟩ := List.length_eq_one_iff.mp
      (hordered.trans (Int.ofNat_inj.mp (hlength.trans hone)))
    exact ⟨register, by rw [hregister]; rfl⟩
  have hbytes (size : Nat) (hsize : 2 * wordsPerValue tag = size) :
      ∃ raw, toBytes size (registersToInt (applyWordOrder words tag)) = .ok raw := by
    have hwords : 2 * words.length = size := by omega
    have hpow : 256 ^ size = 0x10000 ^ (applyWordOrder words tag).length := by
      rw [hordered, ← hwords, Nat.pow_mul]
    exact ⟨_, by rw [toBytes, hpow, if_pos hraw]⟩
  simp only [numberTypes, List.mem_cons, List.not_mem_nil, or_false] at htype
  rcases htype with h | h | h | h | h | h
  · obtain ⟨register, hregister⟩ := hfirst (by simp [wordsPerValue, h])
    exact ⟨_, by rw [decodeSingle_int16 _ h, hregister]; rfl⟩
  · obtain ⟨register, hregister⟩ := hfirst (by simp [wordsPerValue, h])
    exact ⟨_, by rw [decodeSingle_uint16 _ h, hregister]; rfl⟩
  · exact ⟨_, decodeSingle_int32 _ h⟩
  · exact ⟨_, decodeSingle_uint32 _ h⟩
  · obtain ⟨raw, hraw⟩ := hbytes 4 (by simp [wordsPerValue, h])
    exact ⟨_, by rw [decodeSingle_float32 _ h, hraw]; rfl⟩
  · obtain ⟨raw, hraw⟩ := hbytes 8 (by simp [wordsPerValue, h])
    exact ⟨_, by rw [decodeSingle_float64 _ h, hraw]; rfl⟩

theorem length_valueWords {tag : TagSpec F} {registers : List UInt16}
    (hstring : tag.dataType ≠ "string") (hmany : 1 < valueCount tag)
    (henough : registerCount tag ≤ registers.length) {words : List UInt16}
    (h : words ∈ valueWords tag registers) : (words.length : Int) = wordsPerValue tag := by
  rw [valueWords, if_pos ⟨hstring, hmany⟩] at h
  obtain ⟨index, hindex, rfl⟩ := List.mem_map.mp h
  have hwords : 0 < wordsPerValue tag := by
    rw [wordsPerValue]
    split
    · decide
    · split <;> decide
  have hindex : (index : Int) + 1 ≤ valueCount tag := by
    have := List.mem_range.mp hindex
    omega
  have hlast : ((index : Int) + 1) * wordsPerValue tag ≤ registers.length := by
    refine le_trans ?_ henough
    rw [registerCount, if_neg hstring, mul_comm (wordsPerValue tag)]
    exact Int.mul_le_mul_of_nonneg_right hindex hwords.le
  have hstart : 0 ≤ (index : Int) * wordsPerValue tag :=
    Int.mul_nonneg (Int.natCast_nonneg _) hwords.le
  rw [Int.add_mul, Int.one_mul] at hlast
  rw [PySeq.length_slice _ hstart (by omega) hlast]
  omega

theorem valueWords_map (tag : TagSpec F) (f : UInt16 → UInt16) (registers : List UInt16) :
    valueWords tag (registers.map f) = (valueWords tag registers).map (List.map f) := by
  rw [valueWords, valueWords]
  split
  · simp [PySeq.slice_map]
  · rfl

/-- A text in the little byte order is the one that the big order reads from swapped bytes. -/
theorem decodeRegisters_text_swapped [PyRuntime F] {tag : TagSpec F} (htext : tag.dataType = "string")
    {registers : List UInt16} (henough : registerCount tag ≤ registers.length) :
    decodeRegisters registers (withByteOrder tag "little") =
      decodeRegisters (registers.map swapBytes) (withByteOrder tag "big") := by
  have hdecode (order : String) {registers : List UInt16}
      (henough : registerCount (withByteOrder tag order) ≤ registers.length) :
      decodeRegisters registers (withByteOrder tag order) =
        .ok (.str (decodeString (applyWordOrder registers tag) (withByteOrder tag order))) :=
    (decodeRegisters_one henough fun h => h.1 htext).trans (decodeSingle_string registers htext)
  have henough' : registerCount tag ≤ (registers.map swapBytes).length := by
    rwa [List.length_map]
  rw [hdecode "little" henough, hdecode "big" henough', decodeString_swapped, applyWordOrder_map]

/-- The little byte order reads what the big one reads from swapped bytes exactly when
the swap does not matter to any value of the tag. -/
theorem decodeRegisters_little_iff [ExactUnpack F] {tag : TagSpec F}
    (htype : tag.dataType = "string" ∨ tag.dataType ∈ numberTypes) {registers : List UInt16}
    (henough : registerCount tag ≤ registers.length) :
    decodeRegisters registers (withByteOrder tag "little") =
        decodeRegisters (registers.map swapBytes) (withByteOrder tag "big") ↔
      ∀ words ∈ valueWords tag registers, SwapInvariant tag words := by
  have henough' : registerCount tag ≤ (registers.map swapBytes).length := by
    rwa [List.length_map]
  rcases htype with htext | hnumber
  · refine iff_of_true (decodeRegisters_text_swapped htext henough) fun words _ => ?_
    rw [SwapInvariant, if_pos htext]
    trivial
  have hstring : tag.dataType ≠ "string" := by
    intro h
    rw [h] at hnumber
    exact absurd hnumber (by decide)
  rw [decodeRegisters_withByteOrder hstring, decodeRegisters_withByteOrder hstring]
  by_cases hmany : 1 < valueCount tag
  · have hok {words : List UInt16} (h : words ∈ valueWords tag registers) :
        ∃ value, decodeSingleRegisterValue (F := F) words tag = .ok value :=
      decodeSingle_ok hnumber (length_valueWords hstring hmany henough h)
    have hok' {words : List UInt16} (h : words ∈ valueWords tag registers) :
        ∃ value, decodeSingleRegisterValue (F := F) (words.map swapBytes) tag = .ok value := by
      refine decodeSingle_ok hnumber ?_
      rw [List.length_map]
      exact length_valueWords hstring hmany henough h
    have hlist {x y : Except PyException (List (PyValue F))} :
        x.map PyValue.list = y.map PyValue.list ↔ x = y := by
      cases x <;> cases y <;> simp [Except.map]
    rw [decodeRegisters_many henough ⟨hstring, hmany⟩, decodeRegisters_many henough' ⟨hstring, hmany⟩,
      valueWords_map, List.mapM_map, hlist]
    refine (mapM_eq_mapM_iff (fun words h => hok h) fun words h => hok' h).trans ?_
    exact forall₂_congr fun words _ => decodeSingle_swapped_iff hnumber words
  · have hone : ¬ (tag.dataType ≠ "string" ∧ 1 < valueCount tag) := fun h => hmany h.2
    have hwords : valueWords tag registers = [registers] := if_neg hone
    rw [decodeRegisters_one henough hone, decodeRegisters_one henough' hone,
      decodeSingle_swapped_iff hnumber, hwords, List.forall_mem_singleton]

theorem repeated_bytes_swapped :
    decodeRegisters [0x4242, 0x2828] (withByteOrder (codecTag "float32" 1 "little" "big") "little") =
      decodeRegisters ([0x4242, 0x2828].map swapBytes)
        (withByteOrder (codecTag "float32" 1 "little" "big") "big") :=
  (decodeRegisters_little_iff (.inr (by decide)) (by decide)).mpr (by decide +kernel)

/-- The little byte order reads 0x1234 where it should read 0x3412. -/
theorem uint16_not_swapped :
    decodeRegisters [0x1234] (withByteOrder (codecTag "uint16" 1 "little" "big") "little") ≠
      decodeRegisters ([0x1234].map swapBytes)
        (withByteOrder (codecTag "uint16" 1 "little" "big") "big") :=
  fun h => absurd (PyValue.int.inj (Except.ok.inj h)) (by decide)

end Modbus

end IndustrialGateway
