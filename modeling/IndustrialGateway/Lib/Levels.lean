import Mathlib.Data.List.Basic

/-!
# Choice by levels

From a list the first entry is taken that matches the strictest level with a match.
-/

namespace Levels

variable {α : Type}

/-- The choice: each level is searched when the stricter ones have no match. -/
def choose (levels : List (α → Bool)) (xs : List α) : Option α :=
  levels.findSome? fun level => xs.find? level

/-- The first entry of its level, with nothing at a stricter one, or nothing at any level. -/
def Chosen (levels : List (α → Bool)) (xs : List α) : Option α → Prop
  | some x => ∃ stricter level looser, levels = stricter ++ level :: looser ∧
    xs.find? level = some x ∧ ∀ other ∈ stricter, ∀ y ∈ xs, ¬ other y
  | none => ∀ level ∈ levels, ∀ y ∈ xs, ¬ level y

@[simp] theorem choose_nil (xs : List α) : choose [] xs = none := rfl

@[simp] theorem choose_cons (level : α → Bool) (levels : List (α → Bool)) (xs : List α) :
    choose (level :: levels) xs = (xs.find? level).or (choose levels xs) := by
  rw [choose, List.findSome?_cons]
  cases xs.find? level <;> rfl

theorem choose_append (stricter looser : List (α → Bool)) (xs : List α) :
    choose (stricter ++ looser) xs = (choose stricter xs).or (choose looser xs) := by
  induction stricter with
  | nil => rfl
  | cons level stricter ih => rw [List.cons_append, choose_cons, choose_cons, ih, Option.or_assoc]

theorem chosen_cons {level : α → Bool} {levels : List (α → Bool)} {xs : List α} {o : Option α} :
    Chosen (level :: levels) xs o ↔ (∃ x, xs.find? level = some x ∧ o = some x) ∨
      xs.find? level = none ∧ Chosen levels xs o := by
  cases o with
  | none => simp [Chosen]
  | some x =>
    constructor
    · rintro ⟨stricter, found, looser, hlevels, hfind, hnone⟩
      cases stricter with
      | nil =>
        cases hlevels
        exact .inl ⟨x, hfind, rfl⟩
      | cons head stricter =>
        cases hlevels
        exact .inr ⟨List.find?_eq_none.mpr (hnone level List.mem_cons_self), stricter, found, looser,
          rfl, hfind, fun other h => hnone other (List.mem_cons_of_mem _ h)⟩
    · rintro (⟨y, hfind, hy⟩ | ⟨hskip, stricter, found, looser, rfl, hfind, hnone⟩)
      · cases hy
        exact ⟨[], level, levels, rfl, hfind, nofun⟩
      · refine ⟨level :: stricter, found, looser, rfl, hfind, fun other h => ?_⟩
        rcases List.mem_cons.mp h with rfl | h
        · exact List.find?_eq_none.mp hskip
        · exact hnone other h

/-- One entry is chosen, and it is the choice. -/
theorem chosen_iff {levels : List (α → Bool)} {xs : List α} {o : Option α} :
    Chosen levels xs o ↔ o = choose levels xs := by
  induction levels with
  | nil => cases o <;> simp [Chosen]
  | cons level levels ih =>
    rw [chosen_cons, ih, choose_cons]
    cases xs.find? level <;> simp

end Levels
