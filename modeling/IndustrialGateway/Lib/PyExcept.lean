import Mathlib.Tactic.Common

/-!
# Results that may be an exception

How a computation in `Except` succeeds: a sequence does when both parts do, a
loop when every round does.
-/

theorem bind_eq_ok {ε α β : Type} {x : Except ε α} {f : α → Except ε β} {b : β} :
    x >>= f = .ok b ↔ ∃ a, x = .ok a ∧ f a = .ok b := by
  cases x <;> simp [bind, Except.bind]

theorem error_bind {ε α β : Type} (e : ε) (f : α → Except ε β) :
    (Except.error e >>= f) = .error e := rfl

theorem ok_bind {ε α β : Type} (a : α) (f : α → Except ε β) : (Except.ok a >>= f) = f a := rfl

theorem mapM_eq_ok_map {ε α β : Type} {f : α → Except ε β} {g : α → β} {xs : List α}
    (h : ∀ x ∈ xs, f x = .ok (g x)) : xs.mapM f = .ok (xs.map g) := by
  induction xs with
  | nil => rfl
  | cons x xs ih =>
    rw [List.mapM_cons, h x (by simp), ih fun y hy => h y (by simp [hy])]
    rfl

theorem mapM_ok {ε α β : Type} {f : α → Except ε β} {xs : List α} (h : ∀ x ∈ xs, ∃ y, f x = .ok y) :
    ∃ ys, xs.mapM f = .ok ys := by
  induction xs with
  | nil => exact ⟨[], rfl⟩
  | cons x xs ih =>
    obtain ⟨y, hy⟩ := h x List.mem_cons_self
    obtain ⟨ys, hys⟩ := ih fun z hz => h z (List.mem_cons_of_mem x hz)
    refine ⟨y :: ys, ?_⟩
    rw [List.mapM_cons, hy, ok_bind, hys]
    rfl

/-- Two loops without failures agree exactly when every round does. -/
theorem mapM_eq_mapM_iff {ε α β : Type} {f g : α → Except ε β} {xs : List α}
    (hf : ∀ x ∈ xs, ∃ y, f x = .ok y) (hg : ∀ x ∈ xs, ∃ y, g x = .ok y) :
    xs.mapM f = xs.mapM g ↔ ∀ x ∈ xs, f x = g x := by
  induction xs with
  | nil => simp
  | cons x xs ih =>
    obtain ⟨⟨y, hy⟩, hf⟩ := List.forall_mem_cons.mp hf
    obtain ⟨⟨y', hy'⟩, hg⟩ := List.forall_mem_cons.mp hg
    obtain ⟨ys, hys⟩ := mapM_ok hf
    obtain ⟨ys', hys'⟩ := mapM_ok hg
    rw [List.forall_mem_cons, ← ih hf hg, List.mapM_cons, List.mapM_cons, hy, hy', hys, hys']
    simp [bind, Except.bind, pure, Except.pure]

theorem map_eq_ok {ε α β : Type} {x : Except ε α} {f : α → β} {b : β} :
    x.map f = .ok b ↔ ∃ a, x = .ok a ∧ f a = b := by
  cases x <;> simp [Except.map]

theorem forall_ok_of_mapM {ε α β : Type} {f : α → Except ε β} {xs : List α} {ys : List β}
    (h : xs.mapM f = .ok ys) : ∀ x ∈ xs, ∃ y ∈ ys, f x = .ok y := by
  induction xs generalizing ys with
  | nil => nofun
  | cons x xs ih =>
    rw [List.mapM_cons] at h
    obtain ⟨y, hy, h⟩ := bind_eq_ok.mp h
    obtain ⟨ys, hys, h⟩ := bind_eq_ok.mp h
    cases h
    refine List.forall_mem_cons.mpr ⟨⟨y, List.mem_cons_self, hy⟩, fun z hz => ?_⟩
    obtain ⟨w, hw, hz⟩ := ih hys z hz
    exact ⟨w, List.mem_cons_of_mem y hw, hz⟩

theorem all_of_mapM {ε α β : Type} {f : α → Except ε β} {p : β → Prop} {xs : List α} {ys : List β}
    (hf : ∀ x ∈ xs, ∀ y, f x = .ok y → p y) (h : xs.mapM f = .ok ys) : ∀ y ∈ ys, p y := by
  induction xs generalizing ys with
  | nil =>
    cases h
    exact fun y hy => absurd hy List.not_mem_nil
  | cons x xs ih =>
    obtain ⟨hx, hxs⟩ := List.forall_mem_cons.mp hf
    rw [List.mapM_cons] at h
    obtain ⟨y, hy, h⟩ := bind_eq_ok.mp h
    obtain ⟨rest, hrest, h⟩ := bind_eq_ok.mp h
    cases h
    exact List.forall_mem_cons.mpr ⟨hx y hy, ih hxs hrest⟩

/-- What all rounds of a loop have. -/
theorem mapM_ok_all {ε α β : Type} {f : α → Except ε β} {p : β → Prop} {xs : List α}
    (h : ∀ x ∈ xs, ∃ y, f x = .ok y ∧ p y) : ∃ ys, xs.mapM f = .ok ys ∧ ∀ y ∈ ys, p y := by
  induction xs with
  | nil => exact ⟨[], rfl, nofun⟩
  | cons x xs ih =>
    obtain ⟨⟨y, hy, hp⟩, h⟩ := List.forall_mem_cons.mp h
    obtain ⟨ys, hys, hps⟩ := ih h
    refine ⟨y :: ys, ?_, List.forall_mem_cons.mpr ⟨hp, hps⟩⟩
    rw [List.mapM_cons, hy, ok_bind, hys]
    rfl

/-- A loop whose first failing round is known fails with the error of that round. -/
theorem mapM_eq_error {ε α β : Type} {f : α → Except ε β} {p : α → Bool} {xs : List α} {x : α} {e : ε}
    (hok : ∀ y ∈ xs, p y = false → ∃ z, f y = .ok z) (hfind : xs.find? p = some x)
    (herror : f x = .error e) : xs.mapM f = .error e := by
  induction xs with
  | nil => cases hfind
  | cons y xs ih =>
    rw [List.mapM_cons]
    rw [List.find?_cons] at hfind
    split at hfind
    · obtain rfl := Option.some.inj hfind
      rw [herror]
      rfl
    · rename_i hp
      obtain ⟨z, hz⟩ := hok y List.mem_cons_self hp
      rw [hz, ok_bind, ih (fun w hw => hok w (List.mem_cons_of_mem y hw)) hfind]
      rfl

/-- Each argument of a loop has its result. -/
theorem exists_of_forall₂ {α β : Type} {R : α → β → Prop} {xs : List α} {ys : List β}
    (h : List.Forall₂ R xs ys) {x : α} (hx : x ∈ xs) : ∃ y ∈ ys, R x y := by
  induction h with
  | nil => exact absurd hx List.not_mem_nil
  | cons hr _ ih =>
    rcases List.mem_cons.mp hx with rfl | hx
    · exact ⟨_, List.mem_cons_self, hr⟩
    · obtain ⟨y, hy, hxy⟩ := ih hx
      exact ⟨y, List.mem_cons_of_mem _ hy, hxy⟩
