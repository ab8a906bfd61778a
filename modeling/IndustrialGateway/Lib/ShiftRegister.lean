import Mathlib.Algebra.Group.Nat.Defs
import Mathlib.Logic.Function.Iterate

/-!
# Feedback shift registers

A register that is shifted to the right, with a polynomial added when a one falls
out, and the checksum of a sequence of symbols that are fed into it. The register is
linear, and it loses nothing when the polynomial sets the highest bit; so a word
with the right checksum has none after a change within two neighbouring symbols.
-/

namespace ShiftRegister

variable {w : Nat} (poly : BitVec w)

def shift (x : BitVec w) : BitVec w := if x.getLsbD 0 then (x >>> 1) ^^^ poly else x >>> 1

/-- The register after a symbol of `n` bits was fed into its low end. -/
def feed {n : Nat} (register : BitVec w) (symbol : BitVec n) : BitVec w :=
  (shift poly)^[n] (register ^^^ symbol.setWidth w)

def checksum {n : Nat} (register : BitVec w) (symbols : List (BitVec n)) : BitVec w :=
  symbols.foldl (feed poly) register

-- ---------------------------------------------------------------------------
-- Shifts
-- ---------------------------------------------------------------------------

@[simp] theorem shift_zero : shift poly 0 = 0 := by simp [shift]

theorem shift_xor (x y : BitVec w) : shift poly (x ^^^ y) = shift poly x ^^^ shift poly y := by
  have hcancel (a b : BitVec w) : (a ^^^ poly) ^^^ (b ^^^ poly) = a ^^^ b := by
    rw [BitVec.xor_assoc, BitVec.xor_comm b, ← BitVec.xor_assoc poly, BitVec.xor_self,
      BitVec.zero_xor]
  unfold shift
  rw [BitVec.getLsbD_xor, BitVec.ushiftRight_xor_distrib]
  cases x.getLsbD 0 <;> cases y.getLsbD 0
  · simp
  · simp [BitVec.xor_assoc]
  · simp [BitVec.xor_assoc, BitVec.xor_comm poly]
  · simp [hcancel]

/-- The highest bit tells whether the polynomial was added. -/
theorem shift_eq_zero (hpoly : poly.msb = true) {x : BitVec w} (h : shift poly x = 0) : x = 0 := by
  unfold shift at h
  split at h
  · have hmsb := congrArg BitVec.msb h
    simp [BitVec.msb_ushiftRight, hpoly] at hmsb
  · rename_i hlow
    refine BitVec.eq_of_getLsbD_eq fun i _ => ?_
    cases i with
    | zero => simpa using hlow
    | succ i =>
      have hbit := congrArg (fun y => y.getLsbD i) h
      simpa [Nat.add_comm] using hbit

theorem shift_injective (hpoly : poly.msb = true) : Function.Injective (shift poly) := by
  intro x y h
  have hzero : shift poly (x ^^^ y) = 0 := by
    rw [shift_xor, h, BitVec.xor_self]
    rfl
  exact BitVec.xor_eq_zero_iff.mp (shift_eq_zero poly hpoly hzero)

theorem shift_iterate_xor (n : Nat) (x y : BitVec w) :
    (shift poly)^[n] (x ^^^ y) = (shift poly)^[n] x ^^^ (shift poly)^[n] y := by
  induction n generalizing x y with
  | zero => rfl
  | succ n ih =>
    rw [Function.iterate_succ_apply, Function.iterate_succ_apply, Function.iterate_succ_apply,
      shift_xor, ih]

/-- What lies high enough is only moved down. -/
theorem shift_iterate_shiftLeft {n : Nat} {x : BitVec w} (h : x.toNat * 2 ^ n < 2 ^ w) :
    (shift poly)^[n] (x <<< n) = x := by
  induction n with
  | zero => simp
  | succ n ih =>
    have hdouble : x.toNat * 2 ^ (n + 1) = 2 * (x.toNat * 2 ^ n) := by
      rw [Nat.pow_succ']
      exact Nat.mul_left_comm _ _ _
    have hdown : shift poly (x <<< (n + 1)) = x <<< n := by
      rw [shift, if_neg (by simp)]
      refine BitVec.eq_of_toNat_eq ?_
      rw [BitVec.toNat_ushiftRight, BitVec.toNat_shiftLeft, BitVec.toNat_shiftLeft, Nat.shiftLeft_eq,
        Nat.shiftLeft_eq, Nat.mod_eq_of_lt h, Nat.mod_eq_of_lt (by omega), hdouble,
        Nat.shiftRight_eq_div_pow]
      omega
    rw [Function.iterate_succ_apply, hdown]
    exact ih (by omega)

-- ---------------------------------------------------------------------------
-- Symbols
-- ---------------------------------------------------------------------------

variable {n : Nat}

@[simp] theorem checksum_nil (register : BitVec w) :
    checksum poly register ([] : List (BitVec n)) = register := rfl

@[simp] theorem checksum_cons (register : BitVec w) (symbol : BitVec n) (symbols : List (BitVec n)) :
    checksum poly register (symbol :: symbols) = checksum poly (feed poly register symbol) symbols := rfl

theorem checksum_append (register : BitVec w) (xs ys : List (BitVec n)) :
    checksum poly register (xs ++ ys) = checksum poly (checksum poly register xs) ys :=
  List.foldl_append

theorem feed_injective (hpoly : poly.msb = true) (symbol : BitVec n) :
    Function.Injective fun register => feed poly register symbol := by
  intro x y h
  exact (BitVec.xor_left_inj _).mp ((shift_injective poly hpoly).iterate n h)

theorem checksum_injective (hpoly : poly.msb = true) (symbols : List (BitVec n)) :
    Function.Injective fun register => checksum poly register symbols := by
  induction symbols with
  | nil => exact fun _ _ h => h
  | cons symbol symbols ih => exact fun x y h => feed_injective poly hpoly symbol (ih h)

/-- Two symbols in a row, the second above the first. -/
def twoSymbols (w : Nat) (low high : BitVec n) : BitVec w :=
  low.setWidth w ^^^ high.setWidth w <<< n

/-- Two symbols are fed in as one number of two digits. -/
theorem feed_feed (hn : n + n ≤ w) (register : BitVec w) (low high : BitVec n) :
    feed poly (feed poly register low) high =
      (shift poly)^[n + n] (register ^^^ twoSymbols w low high) := by
  have hfits : (high.setWidth w).toNat * 2 ^ n < 2 ^ w := by
    rw [BitVec.toNat_setWidth, Nat.mod_eq_of_lt]
    · calc high.toNat * 2 ^ n < 2 ^ n * 2 ^ n := Nat.mul_lt_mul_of_pos_right high.isLt (Nat.two_pow_pos n)
        _ = 2 ^ (n + n) := (Nat.pow_add 2 n n).symm
        _ ≤ 2 ^ w := Nat.pow_le_pow_right (by decide) hn
    · exact Nat.lt_of_lt_of_le high.isLt (Nat.pow_le_pow_right (by decide) (by omega))
  rw [twoSymbols, ← BitVec.xor_assoc, Function.iterate_add_apply, shift_iterate_xor poly n (register ^^^ _),
    shift_iterate_shiftLeft poly hfits]
  rfl

theorem twoSymbols_inj (hn : n + n ≤ w) {low high low' high' : BitVec n}
    (h : twoSymbols w low high = twoSymbols w low' high') : low = low' ∧ high = high' := by
  constructor
  · refine BitVec.eq_of_getLsbD_eq fun i hi => ?_
    have hbit := congrArg (fun x => x.getLsbD i) h
    simpa [twoSymbols, hi, Nat.lt_of_lt_of_le hi (Nat.le_of_add_right_le hn)] using hbit
  · refine BitVec.eq_of_getLsbD_eq fun i hi => ?_
    have hbit := congrArg (fun x => x.getLsbD (n + i)) h
    have hwide : n + i < w := by omega
    have habove : ¬ n + i < n := by omega
    simpa [twoSymbols, hi, hwide, habove] using hbit

/-- The register is empty after a sequence and two more symbols exactly when these are
its checksum. -/
theorem checksum_trailer (hpoly : poly.msb = true) (hn : n + n ≤ w) (register : BitVec w)
    (symbols : List (BitVec n)) (low high : BitVec n) :
    checksum poly register (symbols ++ [low, high]) = 0 ↔
      checksum poly register symbols = twoSymbols w low high := by
  have hzero {x : BitVec w} : (shift poly)^[n + n] x = 0 ↔ x = 0 := by
    have heq := ((shift_injective poly hpoly).iterate (n + n)).eq_iff (a := x) (b := 0)
    rwa [Function.iterate_fixed (shift_zero poly)] at heq
  rw [checksum_append, checksum_cons, checksum_cons, checksum_nil, feed_feed poly hn, hzero]
  exact BitVec.xor_eq_zero_iff

/-- A change within two neighbouring symbols changes the checksum. -/
theorem checksum_burst (hpoly : poly.msb = true) (hn : n + n ≤ w) (register : BitVec w)
    (before after : List (BitVec n)) {low high low' high' : BitVec n}
    (h : checksum poly register (before ++ low :: high :: after) =
      checksum poly register (before ++ low' :: high' :: after)) : low = low' ∧ high = high' := by
  rw [checksum_append, checksum_append] at h
  have htwo := checksum_injective poly hpoly after h
  rw [feed_feed poly hn, feed_feed poly hn] at htwo
  exact twoSymbols_inj hn ((BitVec.xor_right_inj _).mp ((shift_injective poly hpoly).iterate _ htwo))

end ShiftRegister
