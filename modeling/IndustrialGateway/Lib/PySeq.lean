import Mathlib.Data.Int.Notation
import Mathlib.Data.List.Basic

/-!
# Python's slices and stable sorts

`xs[i:j]` with Python's treatment of negative and too large indices, and the
contents of a run of addresses, of which slices are again such runs.
-/

namespace PySeq

variable {α : Type}

/-- An index of a slice, brought into the range of the sequence. -/
def clamp (n : Nat) (i : Int) : Nat :=
  if i < 0 then (i + n).toNat else min i.toNat n

/-- `xs[i:j]`. -/
def slice (xs : List α) (i j : Int) : List α :=
  (xs.take (clamp xs.length j)).drop (clamp xs.length i)

/-- The contents of `count` addresses from `start` on. -/
def contents (memory : Int → α) (start : Int) (count : Nat) : List α :=
  (List.range count).map fun i : Nat => memory (start + (i : Int))

@[simp] theorem length_contents (memory : Int → α) (start : Int) (count : Nat) :
    (contents memory start count).length = count := by simp [contents]

theorem getElem?_contents (memory : Int → α) (start : Int) (count i : Nat) :
    (contents memory start count)[i]? = if i < count then some (memory (start + i)) else none := by
  by_cases h : i < count <;> simp [contents, h]

theorem clamp_of_nonneg {i : Int} (n : Nat) (h : 0 ≤ i) : clamp n i = min i.toNat n := by
  simp only [clamp, Int.not_lt.mpr h, ↓reduceIte]

/-- A slice of the contents of a range is the contents of the smaller range. -/
theorem slice_contents (memory : Int → α) (start : Int) {offset : Int} {total count : Nat}
    (ho : 0 ≤ offset) (h : offset + count ≤ total) :
    slice (contents memory start total) offset (offset + count) =
      contents memory (start + offset) count := by
  have hi : clamp total offset = offset.toNat := by
    rw [clamp_of_nonneg total ho]
    omega
  have hj : clamp total (offset + count) = offset.toNat + count := by
    rw [clamp_of_nonneg total (by omega)]
    omega
  refine List.ext_getElem? fun i => ?_
  rw [slice, length_contents, hi, hj, List.getElem?_drop, List.getElem?_take, getElem?_contents,
    getElem?_contents]
  by_cases hlt : i < count
  · rw [if_pos (by omega), if_pos (by omega), if_pos hlt]
    congr 2
    omega
  · rw [if_neg (by omega), if_neg hlt]

theorem slice_map {β : Type} (f : α → β) (xs : List α) (i j : Int) :
    slice (xs.map f) i j = (slice xs i j).map f := by
  rw [slice, slice, List.length_map, List.map_drop, List.map_take]

theorem length_slice (xs : List α) {i j : Int} (hi : 0 ≤ i) (hij : i ≤ j) (hj : j ≤ xs.length) :
    ((slice xs i j).length : Int) = j - i := by
  rw [slice, clamp_of_nonneg _ hi, clamp_of_nonneg _ (Int.le_trans hi hij), List.length_drop,
    List.length_take]
  omega

/-- A slice has no more than the sequence has from its start on. -/
theorem length_slice_eq (xs : List α) {i j : Int} (hi : 0 ≤ i) (hij : i ≤ j) :
    (slice xs i j).length = min j.toNat xs.length - min i.toNat xs.length := by
  rw [slice, clamp_of_nonneg _ hi, clamp_of_nonneg _ (Int.le_trans hi hij), List.length_drop,
    List.length_take, Nat.min_eq_left (Nat.min_le_right _ _)]

/-- What follows a sequence does not change the slices within it. -/
theorem slice_of_prefix {xs ys : List α} (h : xs <+: ys) {i j : Int} (hi : 0 ≤ i) (hij : i ≤ j)
    (hj : j ≤ xs.length) : slice ys i j = slice xs i j := by
  obtain ⟨zs, rfl⟩ := h
  rw [slice, slice, clamp_of_nonneg _ hi, clamp_of_nonneg _ hi,
    clamp_of_nonneg _ (Int.le_trans hi hij), clamp_of_nonneg _ (Int.le_trans hi hij),
    List.length_append, Nat.min_eq_left (by omega), Nat.min_eq_left (by omega),
    Nat.min_eq_left (by omega), Nat.min_eq_left (by omega), List.take_append_of_le_length (by omega)]

theorem slice_append (xs ys zs : List α) :
    slice (xs ++ ys ++ zs) xs.length (xs.length + ys.length) = ys := by
  have hlength : (xs ++ ys ++ zs).length = xs.length + ys.length + zs.length := by
    rw [List.length_append, List.length_append]
  have hi : clamp (xs ++ ys ++ zs).length xs.length = xs.length := by
    rw [clamp_of_nonneg _ (by omega), hlength]
    omega
  have hj : clamp (xs ++ ys ++ zs).length (xs.length + ys.length) = (xs ++ ys).length := by
    rw [clamp_of_nonneg _ (by omega), hlength, List.length_append]
    omega
  rw [slice, hi, hj, List.take_left', List.drop_left]
  rfl

/-- Pieces of one length, laid end to end, are cut out again. -/
theorem slice_flatMap {β : Type} {f : β → List α} {n : Nat} (hf : ∀ x, (f x).length = n)
    {xs : List β} {i : Nat} (h : i < xs.length) :
    slice (xs.flatMap f) (i * n) (i * n + n) = f xs[i] := by
  have hsplit : xs.flatMap f =
      (xs.take i).flatMap f ++ f xs[i] ++ (xs.drop (i + 1)).flatMap f := by
    rw [List.append_assoc, ← List.flatMap_cons, ← List.drop_eq_getElem_cons h,
      ← List.flatMap_append, List.take_append_drop]
  have hlength : ((xs.take i).flatMap f).length = i * n := by
    rw [List.length_flatMap]
    simp [hf, Nat.min_eq_left (Nat.le_of_lt h)]
  have hcut := slice_append ((xs.take i).flatMap f) (f xs[i]) ((xs.drop (i + 1)).flatMap f)
  rw [← hsplit, hlength, hf] at hcut
  exact_mod_cast hcut

example : slice [1, 2, 3, 4] 1 3 = [2, 3] ∧ slice [1, 2, 3] (-2) 9 = [2, 3] := by decide

end PySeq
