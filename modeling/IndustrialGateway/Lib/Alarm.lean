import Mathlib.Data.List.Basic

/-!
# An alarm over slots

A loop reads a clock and fires when the reading has reached the next slot, which it
then moves to the first slot that the reading has not reached. It fires at exactly
those readings that reach a slot before any other reading does, one at a time however
many slots a reading skips.
-/

namespace Alarm

variable {ρ : Type} (reached : Nat → ρ → Bool)

/-- The first slot from `k` on that the reading has not reached; `none` when it is not
found in so many comparisons. -/
def advance (c : ρ) : Nat → Nat → Option Nat
  | 0, _ => none
  | fuel + 1, k => if reached k c then advance c fuel (k + 1) else some k

/-- A reading that has reached a slot has reached those before it. -/
def InOrder : Prop := ∀ m n c, m ≤ n → reached n c = true → reached m c = true

/-- What the first reading has reached, the second one has. -/
def NotBefore (c d : ρ) : Prop := ∀ n, reached n c = true → reached n d = true

/-- The reading is the first one to reach some slot. -/
def Fires (earlier : List ρ) (c : ρ) : Prop :=
  ∃ n, reached n c = true ∧ ∀ e ∈ earlier, reached n e = false

/-- The next slot after some readings: none of them has reached it, and each slot before
it was reached by one of them. -/
structure Next (earlier : List ρ) (k : Nat) : Prop where
  ahead : ∀ c ∈ earlier, reached k c = false
  passed : ∀ j < k, ∃ c ∈ earlier, reached j c = true

variable {reached} {earlier : List ρ} {c : ρ} {k k' fuel : Nat}

theorem next_start : Next reached [] 0 :=
  ⟨fun _ hc => absurd hc List.not_mem_nil, fun j hj => absurd hj j.not_lt_zero⟩

theorem Next.fires_iff (h : Next reached earlier k) (hslots : InOrder reached) :
    reached k c = true ↔ Fires reached earlier c := by
  constructor
  · exact fun hk => ⟨k, hk, h.ahead⟩
  · rintro ⟨n, hn, hfirst⟩
    refine hslots k n c ?_ hn
    by_contra hlt
    obtain ⟨e, he, hreached⟩ := h.passed n (Nat.lt_of_not_le hlt)
    rw [hfirst e he] at hreached
    cases hreached

theorem Next.stay (h : Next reached earlier k) (hc : reached k c = false) :
    Next reached (earlier ++ [c]) k where
  ahead d hd := by
    rcases List.mem_append.mp hd with hd | hd
    · exact h.ahead d hd
    · rw [List.mem_singleton.mp hd]
      exact hc
  passed j hj := by
    obtain ⟨e, he, hreached⟩ := h.passed j hj
    exact ⟨e, List.mem_append_left _ he, hreached⟩

/-- What an advance skips, the reading has reached. -/
theorem advance_eq_some (h : advance reached c fuel k = some k') :
    k ≤ k' ∧ reached k' c = false ∧ ∀ j, k ≤ j → j < k' → reached j c = true := by
  induction fuel generalizing k with
  | zero => cases h
  | succ fuel ih =>
    rw [advance] at h
    split at h
    · rename_i hk
      obtain ⟨hle, hopen, hskipped⟩ := ih h
      refine ⟨by omega, hopen, fun j hkj hj => ?_⟩
      rcases Nat.eq_or_lt_of_le hkj with rfl | hlt
      · exact hk
      · exact hskipped j hlt hj
    · rename_i hk
      cases h
      exact ⟨Nat.le_refl _, eq_false_of_ne_true hk,
        fun j hkj hj => absurd hkj (Nat.not_le_of_lt hj)⟩

/-- An advance ends when there is a slot that the reading has not reached. -/
theorem advance_isSome {n : Nat} (hn : reached n c = false) (hle : k ≤ n) (hfuel : n < k + fuel) :
    (advance reached c fuel k).isSome = true := by
  induction fuel generalizing k with
  | zero => omega
  | succ fuel ih =>
    rw [advance]
    split
    · rename_i hk
      have hne : k ≠ n := by
        rintro rfl
        rw [hk] at hn
        cases hn
      exact ih (by omega) (by omega)
    · rfl

theorem Next.advance (h : Next reached earlier k) (hclock : ∀ e ∈ earlier, NotBefore reached e c)
    (hadvance : advance reached c fuel k = some k') : Next reached (earlier ++ [c]) k' := by
  obtain ⟨-, hopen, hskipped⟩ := advance_eq_some hadvance
  refine ⟨fun d hd => ?_, fun j hj => ?_⟩
  · rcases List.mem_append.mp hd with hd | hd
    · by_contra hreached
      rw [hclock d hd k' (eq_true_of_ne_false hreached)] at hopen
      cases hopen
    · rw [List.mem_singleton.mp hd]
      exact hopen
  · rcases Nat.lt_or_ge j k with hlt | hge
    · obtain ⟨e, he, hreached⟩ := h.passed j hlt
      exact ⟨e, List.mem_append_left _ he, hreached⟩
    · exact ⟨c, List.mem_append_right _ (List.mem_singleton_self c), hskipped j hge hj⟩

end Alarm
