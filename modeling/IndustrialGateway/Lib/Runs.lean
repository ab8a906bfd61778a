import Mathlib.Data.List.Basic

/-!
# Runs of a state machine

The states that a machine reaches when a condition on the state lets each of its
steps through, and what holds in all of them.
-/

namespace Runs

variable {σ α : Type}

/-- The states that the steps let through lead to. -/
inductive Reaches (step : σ → α → σ) (allowed : σ → α → Prop) (s₀ : σ) : σ → Prop
  | start : Reaches step allowed s₀ s₀
  | step {s : σ} (h : Reaches step allowed s₀ s) (a : α) (ha : allowed s a) :
    Reaches step allowed s₀ (step s a)

variable {step : σ → α → σ} {allowed : σ → α → Prop} {s₀ s : σ}

/-- What holds at first and is kept by every step holds in every state reached. -/
theorem Reaches.invariant {inv : σ → Prop} (h : Reaches step allowed s₀ s) (h₀ : inv s₀)
    (hstep : ∀ s a, inv s → allowed s a → inv (step s a)) : inv s := by
  induction h with
  | start => exact h₀
  | step h a ha ih => exact hstep _ a ih ha

/-- Steps that are all let through are a run. -/
theorem Reaches.foldl (h : Reaches step allowed s₀ s) {as : List α}
    (hall : ∀ s, ∀ a ∈ as, allowed s a) : Reaches step allowed s₀ (as.foldl step s) := by
  induction as generalizing s with
  | nil => exact h
  | cons a as ih =>
    exact ih (h.step a (hall s a List.mem_cons_self)) fun s b hb =>
      hall s b (List.mem_cons_of_mem a hb)

/-- The steps of a list are all let through, one after the other. -/
def Lets (step : σ → α → σ) (allowed : σ → α → Prop) : σ → List α → Prop
  | _, [] => True
  | s, a :: as => allowed s a ∧ Lets step allowed (step s a) as

instance decidableLets (step : σ → α → σ) (allowed : σ → α → Prop)
    [∀ s a, Decidable (allowed s a)] : ∀ s as, Decidable (Lets step allowed s as)
  | _, [] => inferInstanceAs (Decidable True)
  | s, a :: as =>
    have := decidableLets step allowed (step s a) as
    inferInstanceAs (Decidable (_ ∧ _))

theorem Reaches.of_lets (h : Reaches step allowed s₀ s) {as : List α}
    (hlets : Lets step allowed s as) : Reaches step allowed s₀ (as.foldl step s) := by
  induction as generalizing s with
  | nil => exact h
  | cons a as ih => exact ih (h.step a hlets.1) hlets.2

end Runs
