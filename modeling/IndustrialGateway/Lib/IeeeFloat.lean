import IndustrialGateway.Lib.PyJson

/-!
# Infinities and NaN

What a float does with the bits of an IEEE number: it is finite unless the exponent
bits are all ones, and scaling never makes it finite again. `ClassFloat` runs the
model on such numbers: a whole number, an infinity or a NaN.
-/

class IeeeFloat (F : Type) extends PyJson F where
  trunc_unpackFloat : ∀ bits, (trunc (unpackFloat bits)).isSome ↔ bits / 2 ^ 23 % 2 ^ 8 ≠ 2 ^ 8 - 1
  trunc_unpackDouble : ∀ bits, (trunc (unpackDouble bits)).isSome ↔ bits / 2 ^ 52 % 2 ^ 11 ≠ 2 ^ 11 - 1
  finite_of_scaled : ∀ x scale offset, (trunc (add (mul x scale) offset)).isSome → (trunc x).isSome

inductive ClassFloat where
  | finite (x : WholeFloat)
  | infinity (negative : Bool)
  | nan
  deriving DecidableEq, Repr

namespace ClassFloat

def trunc : ClassFloat → Option Int
  | finite x => some x.value
  | _ => none

def repr : ClassFloat → String
  | finite x => x.repr
  | infinity false => "inf"
  | infinity true => "-inf"
  | nan => "nan"

def parse (s : String) : Option ClassFloat :=
  if s = "inf" then some (infinity false)
  else if s = "-inf" then some (infinity true)
  else if s = "nan" then some nan
  else (WholeFloat.parse s).map finite

def lt : ClassFloat → ClassFloat → Bool
  | finite x, finite y => x.value < y.value
  | finite _, infinity negative => !negative
  | infinity negative, finite _ => negative
  | infinity negative, infinity negative' => negative && !negative'
  | _, _ => false

def le : ClassFloat → ClassFloat → Bool
  | finite x, finite y => x.value ≤ y.value
  | finite _, infinity negative => !negative
  | infinity negative, finite _ => negative
  | infinity negative, infinity negative' => negative || !negative'
  | _, _ => false

def add : ClassFloat → ClassFloat → ClassFloat
  | finite x, finite y => finite ⟨x.value + y.value⟩
  | finite _, infinity negative => infinity negative
  | infinity negative, finite _ => infinity negative
  | infinity negative, infinity negative' => if negative = negative' then infinity negative else nan
  | _, _ => nan

def neg : ClassFloat → ClassFloat
  | finite x => finite ⟨-x.value⟩
  | infinity negative => infinity !negative
  | nan => nan

/-- An infinity times a number of this sign. -/
def scaleInfinity (negative : Bool) (x : Int) : ClassFloat :=
  if x = 0 then nan else infinity (negative != decide (x < 0))

def mul : ClassFloat → ClassFloat → ClassFloat
  | finite x, finite y => finite ⟨x.value * y.value⟩
  | finite x, infinity negative => scaleInfinity negative x.value
  | infinity negative, finite x => scaleInfinity negative x.value
  | infinity negative, infinity negative' => infinity (negative != negative')
  | _, _ => nan

/-- The IEEE number with so many fraction and exponent bits. -/
def ofBits (fraction exponent bits : Nat) : ClassFloat :=
  if bits / 2 ^ fraction % 2 ^ exponent ≠ 2 ^ exponent - 1 then
    finite (WholeFloat.ofBits fraction exponent bits)
  else if bits % 2 ^ fraction = 0 then infinity (bits / 2 ^ (fraction + exponent) % 2 = 1)
  else nan

theorem trunc_ofBits (fraction exponent bits : Nat) :
    (trunc (ofBits fraction exponent bits)).isSome ↔
      bits / 2 ^ fraction % 2 ^ exponent ≠ 2 ^ exponent - 1 := by
  unfold ofBits
  split
  · rename_i h
    exact ⟨fun _ => h, fun _ => rfl⟩
  · rename_i h
    split <;> exact ⟨nofun, fun hne => absurd hne h⟩

theorem finite_of_scaled (x scale offset : ClassFloat) (h : (trunc (add (mul x scale) offset)).isSome) :
    (trunc x).isSome := by
  cases x with
  | finite x => rfl
  | nan => cases scale <;> cases offset <;> cases h
  | infinity negative =>
    cases scale with
    | nan => cases offset <;> cases h
    | infinity negative' =>
      cases offset with
      | infinity negative'' =>
        simp only [mul, add] at h
        split at h <;> cases h
      | _ => cases h
    | finite s =>
      simp only [mul, scaleInfinity] at h
      split at h
      · cases offset <;> cases h
      · cases offset with
        | infinity negative'' =>
          simp only [add] at h
          split at h <;> cases h
        | _ => cases h

theorem parse_finite {s : String} (h : ∃ c ∈ s.toList, c.isDigit = true) :
    parse s = (WholeFloat.parse s).map finite := by
  have hword : ∀ word : String, (word.toList.any Char.isDigit) = false → s ≠ word := by
    rintro word hword rfl
    obtain ⟨c, hc, hdigit⟩ := h
    exact List.any_eq_false.mp hword c hc hdigit
  rw [parse, if_neg (hword _ (by decide)), if_neg (hword _ (by decide)), if_neg (hword _ (by decide))]

theorem digit_mem_textOfInt (n : Int) : ∃ c ∈ (PyText.textOfInt n).toList, c.isDigit = true := by
  have hdigits : ∀ m, ∃ c ∈ Nat.toDigits 10 m, c.isDigit = true := by
    intro m
    obtain ⟨c, hc⟩ := List.exists_mem_of_ne_nil _ (Nat.toDigits_ne_nil (b := 10) (n := m))
    exact ⟨c, hc, Nat.isDigit_of_mem_toDigits (by decide) (by decide) hc⟩
  rw [PyText.toList_textOfInt]
  split
  · exact hdigits _
  · obtain ⟨c, hc, hdigit⟩ := hdigits (-n).toNat
    exact ⟨c, List.mem_cons_of_mem _ hc, hdigit⟩

theorem parse_repr (x : ClassFloat) : parse x.repr = some x := by
  cases x with
  | nan => rfl
  | infinity negative => cases negative <;> rfl
  | finite x =>
    have hdigit : ∃ c ∈ (repr (finite x)).toList, c.isDigit = true := by
      obtain ⟨c, hc, hdigit⟩ := digit_mem_textOfInt x.value
      exact ⟨c, by rw [repr, WholeFloat.repr, String.toList_append]; exact List.mem_append_left _ hc,
        hdigit⟩
    rw [parse_finite hdigit, repr, WholeFloat.parse_repr]
    rfl

theorem number_repr (x : ClassFloat) (n : Int) (h : trunc x = some n) : Json.Number x.repr.toList := by
  cases x with
  | nan => cases h
  | infinity negative => cases h
  | finite x =>
    have hzero : Json.Digits ['0'] := fun c hc => by
      rw [List.mem_singleton.mp hc]
      rfl
    have hfraction : Json.Fraction ['.', '0'] := .digits nofun hzero
    rw [repr, WholeFloat.repr, String.toList_append, PyText.toList_textOfInt]
    split
    · simpa using Json.Number.mk [] (by simp) (PyValue.intPart_toDigits x.value.toNat) hfraction .absent
    · simpa using Json.Number.mk ['-'] (by simp) (PyValue.intPart_toDigits (-x.value).toNat) hfraction
        .absent

instance : IeeeFloat ClassFloat where
  lit n := finite ⟨n⟩
  ofInt n := some (finite ⟨n⟩)
  trunc := trunc
  parse := parse
  repr := repr
  isNaN x := x = nan
  eq x y := x = y ∧ x ≠ nan
  eqInt x n := x = finite ⟨n⟩
  lt := lt
  le := le
  add := add
  sub x y := add x (neg y)
  mul := mul
  totalSeconds n := finite ⟨n / 1000000⟩
  unpackFloat := ofBits 23 8
  unpackDouble := ofBits 52 11
  reprStr s := "'" ++ s ++ "'"
  ofInt_trunc x n h := ⟨finite ⟨n⟩, rfl, rfl⟩
  trunc_lit_one := rfl
  parse_repr := parse_repr
  parse_textOfInt n x h := by
    rw [parse_finite (digit_mem_textOfInt n), WholeFloat.parse_textOfInt, ← h]
    rfl
  strip_repr x := by
    cases x with
    | nan => decide
    | infinity negative => cases negative <;> decide
    | finite x => exact WholeFloat.strip_repr x
  isNaN_lit n := by simp
  isNaN_ofInt n x h := by simp [← Option.some.inj h]
  eq_self x h := by simpa using h
  le_totalSeconds t a b hab h := by
    cases t with
    | finite x =>
      simp only [le, decide_eq_true_eq] at h ⊢
      omega
    | _ => exact h
  totalSeconds_zero := rfl
  isNaN_of_lt a b h := by
    cases b with
    | nan => cases a <;> cases h
    | _ => simp
  lt_totalSeconds t a h := by
    cases t with
    | finite x => simp [lt, le]
    | infinity negative => cases negative <;> simp [lt, le]
    | nan => simp at h
  number_repr := number_repr
  trunc_unpackFloat := trunc_ofBits 23 8
  trunc_unpackDouble := trunc_ofBits 52 11
  finite_of_scaled := finite_of_scaled

example : ofBits 23 8 0x7FC00000 = nan ∧ ofBits 23 8 0xFF800000 = infinity true := by decide +kernel

end ClassFloat
