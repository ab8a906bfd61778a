import Mathlib.Data.Int.Order.Basic
import Mathlib.Data.List.Basic

/-!
# Hulls of ranges

The least range of integers that holds the ranges of a list, and how far the
list may leave a part of it out: no run of more than `gap` numbers of the hull
belongs to none of the ranges.
-/

variable {α : Type}

/-- The hull of the ranges from `first a` up to `stop a`, without the latter. -/
structure Hull (first stop : α → Int) (gap lo hi : Int) (items : List α) : Prop where
  nonempty : ∀ a ∈ items, first a < stop a
  lo_mem : ∃ a ∈ items, first a = lo
  lo_le : ∀ a ∈ items, lo ≤ first a
  hi_mem : ∃ a ∈ items, stop a = hi
  le_hi : ∀ a ∈ items, stop a ≤ hi
  dense : ∀ x, lo ≤ x → x + gap < hi →
    ∃ a ∈ items, ∃ y, x ≤ y ∧ y ≤ x + gap ∧ first a ≤ y ∧ y < stop a

namespace Hull

variable {first stop : α → Int} {gap lo hi : Int} {items : List α} {a : α}

theorem single (hgap : 0 ≤ gap) (ha : first a < stop a) :
    Hull first stop gap (first a) (stop a) [a] where
  nonempty b hb := List.mem_singleton.mp hb ▸ ha
  lo_mem := ⟨a, List.mem_singleton_self a, rfl⟩
  lo_le b hb := List.mem_singleton.mp hb ▸ le_rfl
  hi_mem := ⟨a, List.mem_singleton_self a, rfl⟩
  le_hi b hb := List.mem_singleton.mp hb ▸ le_rfl
  dense x hx hlt := ⟨a, List.mem_singleton_self a, x, le_rfl, by omega, hx, by omega⟩

/-- A range that begins within the gap after the hull. -/
theorem concat (h : Hull first stop gap lo hi items) (hgap : 0 ≤ gap) (ha : first a < stop a)
    (hlo : lo ≤ first a) (hnear : first a ≤ hi + gap) :
    Hull first stop gap lo (max hi (stop a)) (items ++ [a]) where
  nonempty b hb := by
    rcases List.mem_append.mp hb with hb | hb
    · exact h.nonempty b hb
    · exact List.mem_singleton.mp hb ▸ ha
  lo_mem := by
    obtain ⟨b, hb, hfirst⟩ := h.lo_mem
    exact ⟨b, List.mem_append_left _ hb, hfirst⟩
  lo_le b hb := by
    rcases List.mem_append.mp hb with hb | hb
    · exact h.lo_le b hb
    · exact List.mem_singleton.mp hb ▸ hlo
  hi_mem := by
    rcases le_total hi (stop a) with hle | hle
    · exact ⟨a, List.mem_append_right _ (List.mem_singleton_self a), (max_eq_right hle).symm⟩
    · obtain ⟨b, hb, hstop⟩ := h.hi_mem
      exact ⟨b, List.mem_append_left _ hb, hstop.trans (max_eq_left hle).symm⟩
  le_hi b hb := by
    rcases List.mem_append.mp hb with hb | hb
    · exact le_trans (h.le_hi b hb) (le_max_left ..)
    · exact List.mem_singleton.mp hb ▸ le_max_right ..
  dense x hx hlt := by
    by_cases hin : x + gap < hi
    · obtain ⟨b, hb, y, hy⟩ := h.dense x hx hin
      exact ⟨b, List.mem_append_left _ hb, y, hy⟩
    -- the window reaches past the old end, by its last number or into the new range
    have hnew : x + gap < stop a := by omega
    rcases lt_or_ge x hi with hlast | hpast
    · obtain ⟨b, hb, hstop⟩ := h.hi_mem
      have hb' := h.nonempty b hb
      exact ⟨b, List.mem_append_left _ hb, hi - 1, by omega, by omega, by omega, by omega⟩
    · exact ⟨a, List.mem_append_right _ (List.mem_singleton_self a), max x (first a),
        le_max_left .., by omega, le_max_right .., by omega⟩

end Hull
