import IndustrialGateway.Lib.PyValue
import Mathlib.Algebra.Group.Nat.Defs

/-!
# Floats that hold whole numbers

A computable stand-in for Python's floats, to run the model on concrete inputs.
It agrees with them on whole numbers below 2^53 in magnitude; fractions are cut
off.
-/

structure WholeFloat where
  value : Int
  deriving DecidableEq, Repr

namespace WholeFloat

def repr (x : WholeFloat) : String := PyText.textOfInt x.value ++ ".0"

/-- A number, with or without a final `.0`. -/
def parse (s : String) : Option WholeFloat :=
  let cs := PyText.stripChars s.toList
  let digits := if cs.reverse.take 2 = ['0', '.'] then cs.take (cs.length - 2) else cs
  (PyText.intOfChars digits).map WholeFloat.mk

/-- The value of an IEEE number with so many fraction and exponent bits. -/
def ofBits (fraction exponent bits : Nat) : WholeFloat :=
  let significand := bits % 2 ^ fraction + 2 ^ fraction
  let power := bits / 2 ^ fraction % 2 ^ exponent
  let bias := 2 ^ (exponent - 1) - 1 + fraction
  let magnitude := significand * 2 ^ (power - bias) / 2 ^ (bias - power)
  if bits / 2 ^ (fraction + exponent) % 2 = 1 then ⟨-magnitude⟩ else ⟨magnitude⟩

theorem repr_no_space {x : WholeFloat} : ∀ c ∈ x.repr.toList, PyText.isSpace c = false := by
  intro c hc
  rw [repr, String.toList_append, List.mem_append] at hc
  rcases hc with hc | hc
  · exact PyText.textOfInt_no_space c hc
  · have hc : c = '.' ∨ c = '0' := by simpa using hc
    rcases hc with rfl | rfl <;> decide

theorem parse_repr (x : WholeFloat) : parse x.repr = some x := by
  have hcs : PyText.stripChars x.repr.toList = (PyText.textOfInt x.value).toList ++ ['.', '0'] := by
    rw [PyText.stripChars_of_forall repr_no_space, repr, String.toList_append]
    rfl
  have hint := PyText.intOfText_textOfInt x.value
  rw [PyText.intOfText, PyText.stripChars_of_forall PyText.textOfInt_no_space] at hint
  simp [parse, hcs, hint]

theorem parse_textOfInt (n : Int) : parse (PyText.textOfInt n) = some ⟨n⟩ := by
  have hint := PyText.intOfText_textOfInt n
  rw [PyText.intOfText, PyText.stripChars_of_forall PyText.textOfInt_no_space] at hint
  have hdot : (PyText.textOfInt n).toList.reverse.take 2 ≠ ['0', '.'] := by
    intro h
    have hmem : '.' ∈ (PyText.textOfInt n).toList := by
      have htake : '.' ∈ (PyText.textOfInt n).toList.reverse.take 2 := by
        rw [h]
        simp
      exact List.mem_reverse.mp (List.mem_of_mem_take htake)
    rcases PyText.textOfInt_chars hmem with h | h
    · cases h
    · exact absurd h (by decide)
  simp only [parse, PyText.stripChars_of_forall PyText.textOfInt_no_space, if_neg hdot, hint,
    Option.map_some]

theorem strip_repr (x : WholeFloat) : PyText.strip x.repr ≠ "" := by
  rw [PyText.stripped_of_forall repr_no_space]
  intro h
  have := congrArg String.toList h
  simp [repr, String.toList_append] at this

instance : PyRuntime WholeFloat where
  lit n := ⟨n⟩
  ofInt n := some ⟨n⟩
  trunc x := some x.value
  parse := parse
  repr := repr
  isNaN _ := false
  eq x y := x.value = y.value
  eqInt x n := x.value = n
  lt x y := x.value < y.value
  le x y := x.value ≤ y.value
  add x y := ⟨x.value + y.value⟩
  sub x y := ⟨x.value - y.value⟩
  mul x y := ⟨x.value * y.value⟩
  totalSeconds n := ⟨n / 1000000⟩
  unpackFloat := ofBits 23 8
  unpackDouble := ofBits 52 11
  reprStr s := "'" ++ s ++ "'"
  ofInt_trunc x n h := ⟨x, by rw [← Option.some.inj h], h⟩
  trunc_lit_one := rfl
  parse_repr := parse_repr
  parse_textOfInt n x h := h ▸ parse_textOfInt n
  strip_repr := strip_repr
  isNaN_lit _ := rfl
  isNaN_ofInt _ _ _ := rfl
  eq_self := by simp
  le_totalSeconds t a b hab h := by
    simp only [decide_eq_true_eq] at h ⊢
    omega
  totalSeconds_zero := rfl
  isNaN_of_lt := by simp
  lt_totalSeconds := by simp

example : parse "-12" = some ⟨-12⟩ ∧ parse " 3.0" = some ⟨3⟩ ∧ ofBits 23 8 0xC2280000 = ⟨-42⟩ := by
  decide +kernel

end WholeFloat
