import IndustrialGateway.Lib.WholeFloat

/-!
# Floats that keep their bits

Different bit patterns of an IEEE format are different numbers, except that every
NaN is the one NaN. `RawFloat` runs the model on unpacked numbers that stand for
themselves, beside the whole numbers.
-/

/-- The exponent bits are all ones, the fraction is not zero. -/
def NanBits (fraction exponent bits : Nat) : Prop :=
  bits / 2 ^ fraction % 2 ^ exponent = 2 ^ exponent - 1 ∧ bits % 2 ^ fraction ≠ 0

instance (fraction exponent bits : Nat) : Decidable (NanBits fraction exponent bits) := by
  unfold NanBits
  infer_instance

class ExactUnpack (F : Type) extends PyRuntime F where
  unpackFloat_eq_iff : ∀ a b, a < 2 ^ 32 → b < 2 ^ 32 →
    (unpackFloat a = unpackFloat b ↔ a = b ∨ NanBits 23 8 a ∧ NanBits 23 8 b)
  unpackDouble_eq_iff : ∀ a b, a < 2 ^ 64 → b < 2 ^ 64 →
    (unpackDouble a = unpackDouble b ↔ a = b ∨ NanBits 52 11 a ∧ NanBits 52 11 b)

inductive RawFloat where
  | whole (x : WholeFloat)
  | single (bits : Nat)
  | double (bits : Nat)
  | nan
  deriving DecidableEq, Repr

namespace RawFloat

def unpackFloat (bits : Nat) : RawFloat := if NanBits 23 8 bits then nan else single bits

def unpackDouble (bits : Nat) : RawFloat := if NanBits 52 11 bits then nan else double bits

/-- The number without its fraction. -/
def value : RawFloat → Int
  | whole x => x.value
  | single bits => (WholeFloat.ofBits 23 8 bits).value
  | double bits => (WholeFloat.ofBits 52 11 bits).value
  | nan => 0

def trunc : RawFloat → Option Int
  | whole x => some x.value
  | single bits =>
    if bits / 2 ^ 23 % 2 ^ 8 = 2 ^ 8 - 1 then none else some (WholeFloat.ofBits 23 8 bits).value
  | double bits =>
    if bits / 2 ^ 52 % 2 ^ 11 = 2 ^ 11 - 1 then none else some (WholeFloat.ofBits 52 11 bits).value
  | nan => none

def repr : RawFloat → String
  | whole x => x.repr
  | single bits => "s" ++ PyText.textOfInt bits
  | double bits => "d" ++ PyText.textOfInt bits
  | nan => "nan"

def parse (s : String) : Option RawFloat :=
  match s.toList with
  | 's' :: cs => (PyText.intOfChars cs).map fun n => single n.toNat
  | 'd' :: cs => (PyText.intOfChars cs).map fun n => double n.toNat
  | 'n' :: _ => some nan
  | _ => (WholeFloat.parse s).map whole

theorem parse_number {s : String} (h : ∀ c ∈ s.toList, c = '-' ∨ c = '.' ∨ c.isDigit = true) :
    parse s = (WholeFloat.parse s).map whole := by
  have hletter : ∀ c cs, s.toList = c :: cs → c = '-' ∨ c = '.' ∨ c.isDigit = true :=
    fun c cs hs => h c (by simp [hs])
  unfold parse
  split
  · rename_i hs
    exact absurd (hletter _ _ hs) (by decide)
  · rename_i hs
    exact absurd (hletter _ _ hs) (by decide)
  · rename_i hs
    exact absurd (hletter _ _ hs) (by decide)
  · rfl

theorem textOfInt_number {n : Int} :
    ∀ c ∈ (PyText.textOfInt n).toList, c = '-' ∨ c = '.' ∨ c.isDigit = true :=
  fun _ hc => (PyText.textOfInt_chars hc).imp_right .inr

theorem intOfChars_textOfInt (n : Int) :
    PyText.intOfChars (PyText.textOfInt n).toList = some n := by
  have hint := PyText.intOfText_textOfInt n
  rwa [PyText.intOfText, PyText.stripChars_of_forall PyText.textOfInt_no_space] at hint

theorem parse_repr (x : RawFloat) : parse x.repr = some x := by
  cases x with
  | whole x =>
    have hchars : ∀ c ∈ x.repr.toList, c = '-' ∨ c = '.' ∨ c.isDigit = true := by
      intro c hc
      rw [WholeFloat.repr, String.toList_append, List.mem_append] at hc
      rcases hc with hc | hc
      · exact textOfInt_number c hc
      · have hc : c = '.' ∨ c = '0' := by simpa using hc
        rcases hc with rfl | rfl
        · exact .inr (.inl rfl)
        · exact .inr (.inr (by decide))
    rw [repr, parse_number hchars, WholeFloat.parse_repr]
    rfl
  | single bits =>
    have hs : (repr (single bits)).toList = 's' :: (PyText.textOfInt bits).toList := by
      simp [repr, String.toList_append]
    simp [parse, hs, intOfChars_textOfInt]
  | double bits =>
    have hs : (repr (double bits)).toList = 'd' :: (PyText.textOfInt bits).toList := by
      simp [repr, String.toList_append]
    simp [parse, hs, intOfChars_textOfInt]
  | nan => rfl

theorem strip_repr (x : RawFloat) : PyText.strip x.repr ≠ "" := by
  have hword : ∀ c : Char, PyText.isSpace c = false → ∀ n : Int,
      PyText.strip (String.ofList [c] ++ PyText.textOfInt n) ≠ "" := by
    intro c hc n
    have hspace : ∀ d ∈ (String.ofList [c] ++ PyText.textOfInt n).toList, PyText.isSpace d = false := by
      intro d hd
      simp only [String.toList_append, String.toList_ofList, List.cons_append, List.nil_append,
        List.mem_cons] at hd
      rcases hd with rfl | hd
      · exact hc
      · exact PyText.textOfInt_no_space d hd
    rw [PyText.stripped_of_forall hspace]
    intro h
    have := congrArg String.toList h
    simp [String.toList_append] at this
  cases x with
  | whole x => exact WholeFloat.strip_repr x
  | single bits => exact hword 's' (by decide) bits
  | double bits => exact hword 'd' (by decide) bits
  | nan => decide

theorem unpackFloat_eq_iff (a b : Nat) :
    unpackFloat a = unpackFloat b ↔ a = b ∨ NanBits 23 8 a ∧ NanBits 23 8 b := by
  unfold unpackFloat
  split <;> split <;> simp_all <;> rintro rfl <;> contradiction

theorem unpackDouble_eq_iff (a b : Nat) :
    unpackDouble a = unpackDouble b ↔ a = b ∨ NanBits 52 11 a ∧ NanBits 52 11 b := by
  unfold unpackDouble
  split <;> split <;> simp_all <;> rintro rfl <;> contradiction

instance : PyRuntime RawFloat where
  lit n := whole ⟨n⟩
  ofInt n := some (whole ⟨n⟩)
  trunc := trunc
  parse := parse
  repr := repr
  isNaN x := x = nan
  eq x y := x ≠ nan ∧ x = y
  eqInt x n := x = whole ⟨n⟩
  lt x y := x ≠ nan ∧ y ≠ nan ∧ x.value < y.value
  le x y := x ≠ nan ∧ y ≠ nan ∧ x.value ≤ y.value
  add x y := whole ⟨x.value + y.value⟩
  sub x y := whole ⟨x.value - y.value⟩
  mul x y := whole ⟨x.value * y.value⟩
  totalSeconds n := whole ⟨n / 1000000⟩
  unpackFloat := unpackFloat
  unpackDouble := unpackDouble
  reprStr s := "'" ++ s ++ "'"
  ofInt_trunc _ n _ := ⟨whole ⟨n⟩, rfl, rfl⟩
  trunc_lit_one := rfl
  parse_repr := parse_repr
  parse_textOfInt n x h := by
    cases h
    rw [parse_number textOfInt_number, WholeFloat.parse_textOfInt]
    rfl
  strip_repr := strip_repr
  isNaN_lit _ := rfl
  isNaN_ofInt _ _ h := by simp [← Option.some.inj h]
  eq_self := by simp
  le_totalSeconds t a b hab h := by
    obtain ⟨hnan, -, hle⟩ := of_decide_eq_true h
    refine decide_eq_true ⟨hnan, nofun, ?_⟩
    simp only [value] at hle ⊢
    omega
  totalSeconds_zero := rfl
  isNaN_of_lt := by simp_all
  lt_totalSeconds := by simp_all [value]

instance : ExactUnpack RawFloat where
  unpackFloat_eq_iff a b _ _ := unpackFloat_eq_iff a b
  unpackDouble_eq_iff a b _ _ := unpackDouble_eq_iff a b

end RawFloat
