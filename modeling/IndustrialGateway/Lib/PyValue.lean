import IndustrialGateway.Lib.OrderedDict
import IndustrialGateway.Lib.PyText
import Mathlib.Data.Int.Notation

/-!
# Python values

`PyValue F` is the type of the values that JSON documents, CSV cells and
device drivers hand around. `F` is the type of Python's floats; what the
interpreter does with them is the class `PyRuntime F`, whose last fields are
the documented laws of `float` that later proofs use. `PyRuntime` also gives
the text of `repr` on a string, which depends on the interpreter's tables of
printable characters.
-/

/-- The exception classes that appear by name. -/
inductive ExcType where
  | valueError
  | keyError
  | typeError
  | attributeError
  | overflowError
  | runtimeError
  | integrityError
  | csvError
  | other (name : String)
  deriving DecidableEq, Repr

def ExcType.name : ExcType → String
  | .valueError => "ValueError"
  | .keyError => "KeyError"
  | .typeError => "TypeError"
  | .attributeError => "AttributeError"
  | .overflowError => "OverflowError"
  | .runtimeError => "RuntimeError"
  | .integrityError => "IntegrityError"
  | .csvError => "Error"
  | .other name => name

/-- A raised exception: its class and `str(exc)`. -/
structure PyException where
  type : ExcType
  message : String
  deriving DecidableEq, Repr

class PyRuntime (F : Type) where
  /-- The literal `n.0`. -/
  lit : Nat → F
  /-- `float(n)`; `none` is its `OverflowError`. -/
  ofInt : Int → Option F
  /-- `int(x)`; `none` for an infinity or a NaN. -/
  trunc : F → Option Int
  /-- `float(text)`; `none` is its `ValueError`. -/
  parse : String → Option F
  repr : F → String
  isNaN : F → Bool
  /-- `x == y`, `x == n` for an integer `n`, `x < y` and `x <= y`. -/
  eq : F → F → Bool
  eqInt : F → Int → Bool
  lt : F → F → Bool
  le : F → F → Bool
  add : F → F → F
  sub : F → F → F
  mul : F → F → F
  /-- `timedelta(microseconds=n).total_seconds()`. -/
  totalSeconds : Int → F
  /-- `struct.unpack(">f", ...)` and `struct.unpack(">d", ...)` on the bits. -/
  unpackFloat : Nat → F
  unpackDouble : Nat → F
  /-- `repr` of a string. -/
  reprStr : String → String
  /-- What is left of a float by `int` is a float itself. -/
  ofInt_trunc : ∀ x n, trunc x = some n → ∃ y, ofInt n = some y ∧ trunc y = some n
  trunc_lit_one : trunc (lit 1) = some 1
  parse_repr : ∀ x, parse (repr x) = some x
  /-- The text of an integer and the integer are rounded alike. -/
  parse_textOfInt : ∀ n x, ofInt n = some x → parse (PyText.textOfInt n) = some x
  strip_repr : ∀ x, PyText.strip (repr x) ≠ ""
  isNaN_lit : ∀ n, isNaN (lit n) = false
  isNaN_ofInt : ∀ n x, ofInt n = some x → isNaN x = false
  eq_self : ∀ x, isNaN x = false → eq x x = true
  le_totalSeconds : ∀ t a b, a ≤ b → le t (totalSeconds a) = true → le t (totalSeconds b) = true
  totalSeconds_zero : totalSeconds 0 = lit 0
  isNaN_of_lt : ∀ a b, lt a b = true → isNaN b = false
  lt_totalSeconds : ∀ t a, isNaN t = false → (lt (totalSeconds a) t = true ↔ le t (totalSeconds a) = false)

inductive PyValue (F : Type) where
  | none
  | bool (b : Bool)
  | int (n : Int)
  | float (x : F)
  | str (s : String)
  | list (xs : List (PyValue F))
  | dict (kvs : List (String × PyValue F))
  /-- Any other object, with its class name and `str(obj)`. -/
  | object (typeName text : String)
  deriving Repr, Inhabited

namespace PyValue

variable {F : Type}

-- ---------------------------------------------------------------------------
-- Identity
-- ---------------------------------------------------------------------------

section Identity

variable [DecidableEq F]

mutual
def same : PyValue F → PyValue F → Bool
  | .none, .none => true
  | .bool a, .bool b => a = b
  | .int a, .int b => a = b
  | .float a, .float b => a = b
  | .str a, .str b => a = b
  | .list xs, .list ys => sameList xs ys
  | .dict xs, .dict ys => sameDict xs ys
  | .object a s, .object b t => a = b ∧ s = t
  | _, _ => false
def sameList : List (PyValue F) → List (PyValue F) → Bool
  | [], [] => true
  | x :: xs, y :: ys => same x y && sameList xs ys
  | _, _ => false
def sameDict : List (String × PyValue F) → List (String × PyValue F) → Bool
  | [], [] => true
  | (k, x) :: xs, (j, y) :: ys => k = j && same x y && sameDict xs ys
  | _, _ => false
end

mutual
theorem same_iff : (v w : PyValue F) → (same v w = true ↔ v = w)
  | .none, w => by cases w <;> simp [same]
  | .bool _, w => by cases w <;> simp [same]
  | .int _, w => by cases w <;> simp [same]
  | .float _, w => by cases w <;> simp [same]
  | .str _, w => by cases w <;> simp [same]
  | .list xs, w => by cases w <;> simp [same, sameList_iff xs]
  | .dict xs, w => by cases w <;> simp [same, sameDict_iff xs]
  | .object _ _, w => by cases w <;> simp [same]
theorem sameList_iff : (xs ys : List (PyValue F)) → (sameList xs ys = true ↔ xs = ys)
  | [], ys => by cases ys <;> simp [sameList]
  | x :: xs, ys => by cases ys <;> simp [sameList, same_iff x, sameList_iff xs]
theorem sameDict_iff : (xs ys : List (String × PyValue F)) → (sameDict xs ys = true ↔ xs = ys)
  | [], ys => by cases ys <;> simp [sameDict]
  | (k, x) :: xs, ys => by
    cases ys <;> simp [sameDict, same_iff x, sameDict_iff xs, Prod.ext_iff]
end

instance : DecidableEq (PyValue F) := fun v w => decidable_of_iff _ (same_iff v w)

end Identity

-- ---------------------------------------------------------------------------
-- Built-in functions
-- ---------------------------------------------------------------------------

variable [PyRuntime F]

/-- `bool(value)`. -/
def truthy : PyValue F → Bool
  | .none => false
  | .bool b => b
  | .int n => n ≠ 0
  | .float x => !PyRuntime.eqInt x 0
  | .str s => s ≠ ""
  | .list xs => !xs.isEmpty
  | .dict kvs => !kvs.isEmpty
  | .object _ _ => true

/-- The class name `type(value).__name__`. -/
def typeName : PyValue F → String
  | .none => "NoneType"
  | .bool _ => "bool"
  | .int _ => "int"
  | .float _ => "float"
  | .str _ => "str"
  | .list _ => "list"
  | .dict _ => "dict"
  | .object name _ => name

mutual
/-- `repr(value)`. -/
def repr : PyValue F → String
  | .none => "None"
  | .bool b => if b then "True" else "False"
  | .int n => PyText.textOfInt n
  | .float x => PyRuntime.repr x
  | .str s => PyRuntime.reprStr F s
  | .list xs => "[" ++ String.intercalate ", " (reprList xs) ++ "]"
  | .dict kvs => "\x7b" ++ String.intercalate ", " (reprDict kvs) ++ "\x7d"
  | .object _ text => text
def reprList : List (PyValue F) → List String
  | [] => []
  | x :: xs => repr x :: reprList xs
def reprDict : List (String × PyValue F) → List String
  | [] => []
  | (k, x) :: xs => (PyRuntime.reprStr F k ++ ": " ++ repr x) :: reprDict xs
end

/-- `str(value)`. -/
def text : PyValue F → String
  | .str s => s
  | v => repr v

/-- `int(value)`. -/
def toInt : PyValue F → Except PyException Int
  | .bool b => .ok (if b then 1 else 0)
  | .int n => .ok n
  | .float x =>
    match PyRuntime.trunc x with
    | some n => .ok n
    | .none =>
      if PyRuntime.isNaN x then .error ⟨.valueError, "cannot convert float NaN to integer"⟩
      else .error ⟨.overflowError, "cannot convert float infinity to integer"⟩
  | .str s =>
    match PyText.intOfText s with
    | some n => .ok n
    | .none =>
      .error ⟨.valueError, "invalid literal for int() with base 10: " ++ PyRuntime.reprStr F s⟩
  | v => .error ⟨.typeError, "int() argument must be a string, a bytes-like object " ++
      "or a real number, not '" ++ v.typeName ++ "'"⟩

/-- `float(value)`. -/
def toFloat : PyValue F → Except PyException F
  | .bool b => .ok (PyRuntime.lit (if b then 1 else 0))
  | .int n =>
    match PyRuntime.ofInt n with
    | some x => .ok x
    | .none => .error ⟨.overflowError, "int too large to convert to float"⟩
  | .float x => .ok x
  | .str s =>
    match PyRuntime.parse s with
    | some x => .ok x
    | .none => .error ⟨.valueError, "could not convert string to float: " ++ PyRuntime.reprStr F s⟩
  | v => .error ⟨.typeError, "float() argument must be a string or a real number, not '" ++
      v.typeName ++ "'"⟩

mutual
/-- `value == other`: numbers compare across their types, dictionaries without
regard to the order of their keys. -/
def eq : PyValue F → PyValue F → Bool
  | .none, .none => true
  | .bool a, .bool b => a = b
  | .bool a, .int n => (if a then 1 else 0) = n
  | .bool a, .float x => PyRuntime.eqInt x (if a then 1 else 0)
  | .int n, .bool b => n = (if b then 1 else 0)
  | .int n, .int m => n = m
  | .int n, .float x => PyRuntime.eqInt x n
  | .float x, .bool b => PyRuntime.eqInt x (if b then 1 else 0)
  | .float x, .int n => PyRuntime.eqInt x n
  | .float x, .float y => PyRuntime.eq x y
  | .str a, .str b => a = b
  | .list xs, .list ys => eqList xs ys
  | .dict xs, .dict ys => xs.length = ys.length ∧ subDict xs ys
  | .object a s, .object b t => a = b ∧ s = t
  | _, _ => false
def eqList : List (PyValue F) → List (PyValue F) → Bool
  | [], [] => true
  | x :: xs, y :: ys => eq x y && eqList xs ys
  | _, _ => false
/-- Every entry of the first dictionary has an equal one in the second. -/
def subDict : List (String × PyValue F) → List (String × PyValue F) → Bool
  | [], _ => true
  | (k, x) :: xs, ys =>
    (match OrderedDict.lookup k ys with
      | some y => eq x y
      | .none => false) && subDict xs ys
end

mutual
/-- Whether `json.dumps` takes the value, which `json.loads` then gives back. -/
def checkJson : PyValue F → Except PyException Unit
  | .list xs => checkJsonList xs
  | .dict kvs => checkJsonDict kvs
  | .object name _ =>
    .error ⟨.typeError, "Object of type " ++ name ++ " is not JSON serializable"⟩
  | _ => .ok ()
def checkJsonList : List (PyValue F) → Except PyException Unit
  | [] => .ok ()
  | x :: xs => do checkJson x; checkJsonList xs
def checkJsonDict : List (String × PyValue F) → Except PyException Unit
  | [] => .ok ()
  | (_, x) :: xs => do checkJson x; checkJsonDict xs
end

omit [PyRuntime F] in
theorem checkJsonList_eq_ok {xs : List (PyValue F)} :
    checkJsonList xs = .ok () ↔ ∀ x ∈ xs, checkJson x = .ok () := by
  induction xs with
  | nil => simp [checkJsonList]
  | cons x xs ih =>
    rw [checkJsonList, List.forall_mem_cons, ← ih]
    cases hx : checkJson x with
    | error e => simp [bind, Except.bind]
    | ok u => simp [bind, Except.bind]

omit [PyRuntime F] in
theorem checkJsonDict_eq_ok {entries : List (String × PyValue F)} :
    checkJsonDict entries = .ok () ↔ ∀ p ∈ entries, checkJson p.2 = .ok () := by
  induction entries with
  | nil => simp [checkJsonDict]
  | cons p entries ih =>
    rw [checkJsonDict, List.forall_mem_cons, ← ih]
    cases hp : checkJson p.2 with
    | error e => simp [bind, Except.bind]
    | ok u => simp [bind, Except.bind]

/-- `value[key]` where `key in value`. -/
def item (key : String) : PyValue F → Except PyException (Option (PyValue F))
  | .dict kvs => .ok (OrderedDict.lookup key kvs)
  | .list xs =>
    if eqAny (.str key) xs then .error ⟨.typeError, "list indices must be integers or slices, not str"⟩
    else .ok .none
  | .str s =>
    if PyText.contains key s then .error ⟨.typeError, "string indices must be integers, not 'str'"⟩
    else .ok .none
  | v => .error ⟨.typeError, "argument of type '" ++ v.typeName ++ "' is not iterable"⟩
where
  eqAny (v : PyValue F) (xs : List (PyValue F)) : Bool := xs.any (eq v)

/-- Equality of two `dict[str, Any]`. -/
def dictEq (d e : OrderedDict String (PyValue F)) : Bool :=
  d.entries.length = e.entries.length && subDict d.entries e.entries

theorem subDict_of_forall {xs ys : List (String × PyValue F)}
    (h : ∀ p ∈ xs, ∃ y, OrderedDict.lookup p.1 ys = some y ∧ eq p.2 y = true) :
    subDict xs ys = true := by
  induction xs with
  | nil => simp [subDict]
  | cons p xs ih =>
    obtain ⟨k, x⟩ := p
    obtain ⟨y, hy, he⟩ := h (k, x) (by simp)
    simp only at hy he
    simp [subDict, hy, he, ih fun q hq => h q (by simp [hq])]

/-- A dictionary equals itself when its values do. -/
theorem dictEq_self {d : OrderedDict String (PyValue F)}
    (h : ∀ p ∈ d.entries, eq p.2 p.2 = true) : dictEq d d = true := by
  simp only [dictEq, decide_true, Bool.true_and]
  refine subDict_of_forall ?_
  intro p hp
  exact ⟨p.2, OrderedDict.get?_eq_some.mpr hp, h p hp⟩

end PyValue

-- ---------------------------------------------------------------------------
-- Optional texts
-- ---------------------------------------------------------------------------

/-- `bool(text)` for a `str | None`. -/
def textTruthy : Option String → Bool
  | none => false
  | some s => s ≠ ""

/-- `text or default`. -/
def textOr (s : Option String) (default : String) : String :=
  match s with
  | none => default
  | some s => if s = "" then default else s

@[simp] theorem textTruthy_none : textTruthy none = false := rfl

@[simp] theorem textTruthy_some (s : String) : textTruthy (some s) = true ↔ s ≠ "" := by
  simp [textTruthy]

@[simp] theorem textOr_none (d : String) : textOr none d = d := rfl

theorem textOr_some (s d : String) : textOr (some s) d = if s = "" then d else s := rfl
