import IndustrialGateway.Lib.PyExcept
import Mathlib.Data.List.Basic
import Mathlib.Logic.Relation

/-!
# Computations that keep what they wrote

A computation over a state may raise, and what it wrote before stays: each of
its writes commits on its own. The rules say when a failure leaves nothing
behind, how far a loop has come when one of its rounds raises, and which steps a
computation takes whatever its outcome.
-/

def Fallible (ε σ α : Type) : Type := σ → Except ε α × σ

namespace Fallible

variable {ε σ α β : Type}

instance : Monad (Fallible ε σ) where
  pure a s := (.ok a, s)
  bind m f s :=
    match m s with
    | (.ok a, t) => f a t
    | (.error e, t) => (.error e, t)

def raise (e : ε) : Fallible ε σ α := fun s => (.error e, s)

def lift (x : Except ε α) : Fallible ε σ α := fun s => (x, s)

def read (f : σ → α) : Fallible ε σ α := fun s => (.ok (f s), s)

def modify (f : σ → σ) : Fallible ε σ Unit := fun s => (.ok (), f s)

def raiseIf (e : Option ε) : Fallible ε σ Unit :=
  match e with
  | some e => raise e
  | none => pure ()

/-- A computation on a part of the state. -/
def zoom {τ : Type} (get : σ → τ) (put : σ → τ → σ) (m : Fallible ε τ α) : Fallible ε σ α := fun s =>
  ((m (get s)).1, put s (m (get s)).2)

/-- One transaction: all of its writes, or none when it fails. -/
def commit (f : σ → Except ε (α × σ)) : Fallible ε σ α := fun s =>
  match f s with
  | .ok (a, t) => (.ok a, t)
  | .error e => (.error e, s)

-- ---------------------------------------------------------------------------
-- Outcomes
-- ---------------------------------------------------------------------------

theorem pure_apply (a : α) (s : σ) : (pure a : Fallible ε σ α) s = (.ok a, s) := rfl

theorem bind_apply (m : Fallible ε σ α) (f : α → Fallible ε σ β) (s : σ) :
    (m >>= f) s = match m s with
      | (.ok a, t) => f a t
      | (.error e, t) => (.error e, t) := rfl

instance : LawfulMonad (Fallible ε σ) := by
  refine LawfulMonad.mk' _ (fun m => ?_) (fun _ _ => rfl) (fun m f g => ?_)
  · funext s
    change (m >>= pure) s = m s
    rw [bind_apply]
    rcases m s with ⟨_ | a, t⟩ <;> rfl
  · funext s
    simp only [bind_apply]
    rcases m s with ⟨_ | a, t⟩ <;> rfl

protected theorem bind_eq_ok {m : Fallible ε σ α} {f : α → Fallible ε σ β} {s u : σ} {b : β} :
    (m >>= f) s = (.ok b, u) ↔ ∃ a t, m s = (.ok a, t) ∧ f a t = (.ok b, u) := by
  rw [bind_apply]
  rcases m s with ⟨_ | a, t⟩ <;> simp

theorem bind_eq_error {m : Fallible ε σ α} {f : α → Fallible ε σ β} {s u : σ} {e : ε} :
    (m >>= f) s = (.error e, u) ↔
      m s = (.error e, u) ∨ ∃ a t, m s = (.ok a, t) ∧ f a t = (.error e, u) := by
  rw [bind_apply]
  rcases m s with ⟨_ | a, t⟩ <;> simp

theorem lift_eq_ok {x : Except ε α} {s t : σ} {a : α} :
    (lift x : Fallible ε σ α) s = (.ok a, t) ↔ x = .ok a ∧ s = t := by
  simp [lift]

theorem read_eq_ok {f : σ → α} {s t : σ} {a : α} :
    (read f : Fallible ε σ α) s = (.ok a, t) ↔ f s = a ∧ s = t := by
  simp [read]

theorem pure_eq_ok {a b : α} {s t : σ} :
    (pure a : Fallible ε σ α) s = (.ok b, t) ↔ a = b ∧ s = t := by
  simp [pure_apply]

theorem raise_eq_ok {e : ε} {s t : σ} {a : α} :
    (raise e : Fallible ε σ α) s = (.ok a, t) ↔ False := by
  simp [raise]

theorem commit_eq_ok {f : σ → Except ε (α × σ)} {s t : σ} {a : α} :
    commit f s = (.ok a, t) ↔ f s = .ok (a, t) := by
  rw [commit]
  rcases f s with _ | ⟨b, u⟩ <;> simp

theorem bind_eq_of_ok {m : Fallible ε σ α} {f : α → Fallible ε σ β} {s t : σ} {a : α}
    (h : m s = (.ok a, t)) : (m >>= f) s = f a t := by
  rw [bind_apply, h]

theorem map_apply (f : α → β) (m : Fallible ε σ α) (s : σ) :
    (f <$> m) s = match m s with
      | (.ok a, t) => (.ok (f a), t)
      | (.error e, t) => (.error e, t) := rfl

theorem read_bind (f : σ → α) (k : α → Fallible ε σ β) (s : σ) : (read f >>= k) s = k (f s) s := rfl

@[simp] theorem lift_ok_bind (a : α) (f : α → Fallible ε σ β) : (lift (.ok a) >>= f) = f a := rfl

@[simp] theorem raiseIf_none_bind (f : Unit → Fallible ε σ β) : (raiseIf none >>= f) = f () := rfl

/-- What each successful round keeps of the loop variable holds at the end. -/
theorem foldlM_variable {P : β → Prop} {f : β → α → Fallible ε σ β}
    (h : ∀ b x s b' t, P b → f b x s = (.ok b', t) → P b') {xs : List α} {b b' : β} {s t : σ}
    (hb : P b) (hrun : xs.foldlM f b s = (.ok b', t)) : P b' := by
  induction xs generalizing b s with
  | nil =>
    cases hrun
    exact hb
  | cons x xs ih =>
    rw [List.foldlM_cons, Fallible.bind_eq_ok] at hrun
    obtain ⟨c, u, hx, hrun⟩ := hrun
    exact ih (h b x s c u hb hx) hrun

-- ---------------------------------------------------------------------------
-- Failures that leave nothing behind
-- ---------------------------------------------------------------------------

/-- The state stays as it is, whatever the outcome. -/
def ReadOnly (m : Fallible ε σ α) : Prop := ∀ s, (m s).2 = s

/-- A failure leaves the state as it was. -/
def Atomic (m : Fallible ε σ α) : Prop := ∀ s e t, m s = (.error e, t) → t = s

theorem ReadOnly.pure (a : α) : ReadOnly (Pure.pure a : Fallible ε σ α) := fun _ => rfl

theorem ReadOnly.raise (e : ε) : ReadOnly (Fallible.raise e : Fallible ε σ α) := fun _ => rfl

theorem ReadOnly.lift (x : Except ε α) : ReadOnly (lift x : Fallible ε σ α) := fun _ => rfl

theorem ReadOnly.raiseIf (e : Option ε) : ReadOnly (Fallible.raiseIf e : Fallible ε σ Unit) := by
  cases e
  · exact .pure ()
  · exact .raise _

theorem ReadOnly.read (f : σ → α) : ReadOnly (read f : Fallible ε σ α) := fun _ => rfl

theorem ReadOnly.bind {m : Fallible ε σ α} {f : α → Fallible ε σ β} (hm : ReadOnly m)
    (hf : ∀ a, ReadOnly (f a)) : ReadOnly (m >>= f) := by
  intro s
  have h := hm s
  rw [bind_apply]
  rcases hms : m s with ⟨_ | a, t⟩ <;> rw [hms] at h
  · exact h
  · exact (hf a t).trans h

theorem ReadOnly.state_eq {m : Fallible ε σ α} (h : ReadOnly m) {s t : σ} {x : Except ε α}
    (hm : m s = (x, t)) : t = s := by
  have := h s
  rwa [hm] at this

/-- A read before leaves the state to what follows. -/
theorem ReadOnly.bind_state {m : Fallible ε σ α} (h : ReadOnly m) (f : α → Fallible ε σ β) (s : σ) :
    ((m >>= f) s).2 = s ∨ ∃ a, m s = (.ok a, s) ∧ ((m >>= f) s).2 = (f a s).2 := by
  have hs := h s
  rw [bind_apply]
  rcases hm : m s with ⟨e | a, t⟩ <;> rw [hm] at hs <;> obtain rfl := hs
  · exact .inl rfl
  · exact .inr ⟨a, rfl, rfl⟩

/-- A read after keeps the state. -/
theorem bind_state_of_readOnly (m : Fallible ε σ α) {f : α → Fallible ε σ β}
    (h : ∀ a, ReadOnly (f a)) (s : σ) : ((m >>= f) s).2 = (m s).2 := by
  rw [bind_apply]
  rcases m s with ⟨e | a, t⟩
  · rfl
  · exact h a t

theorem Atomic.commit (f : σ → Except ε (α × σ)) : Atomic (commit f) := by
  intro s e t h
  rw [Fallible.commit] at h
  rcases hf : f s with _ | ⟨a, u⟩ <;> rw [hf] at h <;> cases h
  rfl

theorem Atomic.bind {m : Fallible ε σ α} {f : α → Fallible ε σ β} (hm : ReadOnly m)
    (hf : ∀ a, Atomic (f a)) : Atomic (m >>= f) := by
  intro s e t h
  rcases bind_eq_error.mp h with h | ⟨a, u, ha, h⟩
  · exact hm.state_eq h
  · exact (hf a u e t h).trans (hm.state_eq ha)

/-- What follows the write cannot fail. -/
theorem Atomic.andThen {m : Fallible ε σ α} {f : α → Fallible ε σ β} (hm : Atomic m)
    (hf : ∀ a s, ∃ b t, f a s = (.ok b, t)) : Atomic (m >>= f) := by
  intro s e t h
  rcases bind_eq_error.mp h with h | ⟨a, u, -, h⟩
  · exact hm s e t h
  · obtain ⟨b, v, hb⟩ := hf a u
    rw [hb] at h
    cases h

/-- From this state a failure leaves it as it was. -/
def AtomicAt (s : σ) (m : Fallible ε σ α) : Prop := ∀ e t, m s = (.error e, t) → t = s

theorem Atomic.at {m : Fallible ε σ α} (h : Atomic m) (s : σ) : AtomicAt s m := h s

theorem ReadOnly.atomic {m : Fallible ε σ α} (h : ReadOnly m) : Atomic m :=
  fun _ _ _ hm => h.state_eq hm

theorem AtomicAt.bind {m : Fallible ε σ α} {f : α → Fallible ε σ β} {s : σ} (hm : ReadOnly m)
    (hf : ∀ a, m s = (.ok a, s) → AtomicAt s (f a)) : AtomicAt s (m >>= f) := by
  intro e t h
  rcases bind_eq_error.mp h with herr | ⟨a, u, ha, herr⟩
  · exact hm.state_eq herr
  · have hu : u = s := hm.state_eq ha
    subst hu
    exact hf a ha e t herr

/-- What follows the write cannot fail after it. -/
theorem AtomicAt.andThen {m : Fallible ε σ α} {f : α → Fallible ε σ β} {s : σ} (hm : AtomicAt s m)
    (hf : ∀ a t, m s = (.ok a, t) → ∃ b u, f a t = (.ok b, u)) : AtomicAt s (m >>= f) := by
  intro e t h
  rcases bind_eq_error.mp h with h | ⟨a, u, ha, h⟩
  · exact hm e t h
  · obtain ⟨b, v, hb⟩ := hf a u ha
    rw [hb] at h
    cases h

-- ---------------------------------------------------------------------------
-- Computations as sequences of steps
-- ---------------------------------------------------------------------------

/-- Whatever its outcome, the computation takes a sequence of steps of `R`. -/
def Steps (R : σ → σ → Prop) (m : Fallible ε σ α) : Prop :=
  ∀ s, Relation.ReflTransGen R s (m s).2

variable {R : σ → σ → Prop}

theorem ReadOnly.steps {m : Fallible ε σ α} (h : ReadOnly m) : Steps R m := by
  intro s
  rw [h s]

/-- An atomic computation that takes one step when it succeeds. -/
theorem Atomic.steps {m : Fallible ε σ α} (hm : Atomic m)
    (h : ∀ s a t, m s = (.ok a, t) → R s t) : Steps R m := by
  intro s
  rcases hms : m s with ⟨e | a, t⟩
  · rw [hm s e t hms]
  · exact .single (h s a t hms)

theorem Steps.modify {f : σ → σ} (h : ∀ s, R s (f s)) :
    Steps R (Fallible.modify f : Fallible ε σ Unit) := fun s => .single (h s)

/-- The second part may use that the first one gave its value. -/
theorem Steps.bind {m : Fallible ε σ α} {f : α → Fallible ε σ β} (hm : Steps R m)
    (hf : ∀ a s t, m s = (.ok a, t) → Steps R (f a)) : Steps R (m >>= f) := by
  intro s
  have h := hm s
  rw [bind_apply]
  rcases hms : m s with ⟨e | a, t⟩ <;> rw [hms] at h
  · exact h
  · exact h.trans (hf a s t hms t)

theorem Steps.foldlM {f : β → α → Fallible ε σ β} (h : ∀ b x, Steps R (f b x)) (xs : List α)
    (b : β) : Steps R (xs.foldlM f b) := by
  induction xs generalizing b with
  | nil => exact ReadOnly.steps (.pure b)
  | cons x xs ih =>
    rw [List.foldlM_cons]
    exact .bind (h b x) fun _ _ _ _ => ih _

theorem Steps.forM {f : α → Fallible ε σ PUnit} (h : ∀ x, Steps R (f x)) (xs : List α) :
    Steps R (ForM.forM xs f) := by
  induction xs with
  | nil => exact ReadOnly.steps (.pure PUnit.unit)
  | cons x xs ih =>
    rw [List.forM_cons]
    exact .bind (h x) fun _ _ _ _ => ih

/-- What every step keeps the computation keeps. -/
theorem Steps.keeps {m : Fallible ε σ α} (hm : Steps R m) {I : σ → Prop}
    (h : ∀ s t, R s t → I s → I t) {s : σ} (hs : I s) : I (m s).2 := by
  have hrun := hm s
  generalize (m s).2 = t at hrun ⊢
  induction hrun with
  | refl => exact hs
  | tail _ hstep ih => exact h _ _ hstep ih

-- ---------------------------------------------------------------------------
-- Triples
-- ---------------------------------------------------------------------------

/-- From a state of `P` the computation returns into `Q` or raises into `E`. -/
def Triple (P : σ → Prop) (m : Fallible ε σ α) (Q : α → σ → Prop) (E : σ → Prop) : Prop :=
  ∀ s, P s → (∀ a t, m s = (.ok a, t) → Q a t) ∧ ∀ e t, m s = (.error e, t) → E t

variable {P : σ → Prop} {Q : α → σ → Prop} {E : σ → Prop}

theorem Triple.of_ok {m : Fallible ε σ α} (h : ∀ s, P s → ∃ a t, m s = (.ok a, t) ∧ Q a t) :
    Triple P m Q E := by
  intro s hs
  obtain ⟨a, t, hm, hq⟩ := h s hs
  refine ⟨fun b u hb => ?_, fun e u he => ?_⟩
  · rw [hm] at hb
    cases hb
    exact hq
  · rw [hm] at he
    cases he

theorem Triple.pure {a : α} (h : ∀ s, P s → Q a s) :
    Triple P (Pure.pure a : Fallible ε σ α) Q E :=
  .of_ok fun s hs => ⟨a, s, rfl, h s hs⟩

theorem Triple.read {f : σ → α} (h : ∀ s, P s → Q (f s) s) :
    Triple P (Fallible.read f : Fallible ε σ α) Q E :=
  .of_ok fun s hs => ⟨f s, s, rfl, h s hs⟩

theorem Triple.modify {f : σ → σ} {Q : Unit → σ → Prop} (h : ∀ s, P s → Q () (f s)) :
    Triple P (Fallible.modify f : Fallible ε σ Unit) Q E :=
  .of_ok fun s hs => ⟨(), f s, rfl, h s hs⟩

theorem Triple.lift {x : Except ε α} (hok : ∀ a s, x = .ok a → P s → Q a s)
    (herror : ∀ e s, x = .error e → P s → E s) : Triple P (Fallible.lift x) Q E := by
  intro s hs
  constructor
  · intro a t h
    obtain ⟨hx, rfl⟩ := lift_eq_ok.mp h
    exact hok a s hx hs
  · intro e t h
    cases h
    exact herror e s rfl hs

theorem Triple.atomic {m : Fallible ε σ α} (hm : Atomic m)
    (hok : ∀ s a t, P s → m s = (.ok a, t) → Q a t) (herror : ∀ s, P s → E s) : Triple P m Q E := by
  intro s hs
  refine ⟨fun a t h => hok s a t hs h, fun e t h => ?_⟩
  rw [hm s e t h]
  exact herror s hs

theorem Triple.bind {m : Fallible ε σ α} {f : α → Fallible ε σ β} {R : β → σ → Prop}
    (hm : Triple P m Q E) (hf : ∀ a, Triple (Q a) (f a) R E) : Triple P (m >>= f) R E := by
  intro s hs
  obtain ⟨hok, herror⟩ := hm s hs
  constructor
  · intro b u h
    obtain ⟨a, t, ha, h⟩ := Fallible.bind_eq_ok.mp h
    exact (hf a t (hok a t ha)).1 b u h
  · intro e u h
    rcases bind_eq_error.mp h with h | ⟨a, t, ha, h⟩
    · exact herror e u h
    · exact (hf a t (hok a t ha)).2 e u h

theorem Triple.weaken {m : Fallible ε σ α} {P' : σ → Prop} {Q' : α → σ → Prop} {E' : σ → Prop}
    (h : Triple P' m Q' E') (hP : ∀ s, P s → P' s) (hQ : ∀ a s, Q' a s → Q a s)
    (hE : ∀ s, E' s → E s) : Triple P m Q E := fun s hs =>
  ⟨fun a t hm => hQ a t ((h s (hP s hs)).1 a t hm), fun e t hm => hE t ((h s (hP s hs)).2 e t hm)⟩

/-- What holds of both outcomes. -/
theorem Triple.final {m : Fallible ε σ α} (h : Triple P m (fun _ => E) E) {s : σ} (hs : P s) :
    E (m s).2 := by
  obtain ⟨hok, herror⟩ := h s hs
  rcases hm : m s with ⟨e | a, t⟩
  · exact herror e t hm
  · exact hok a t hm

/-- A condition on what the computation takes. -/
theorem Triple.of_and {p : Prop} {m : Fallible ε σ α} (h : p → Triple P m Q E) :
    Triple (fun s => p ∧ P s) m Q E := fun s hs => h hs.1 s hs.2

theorem Triple.of_false {m : Fallible ε σ α} : Triple (fun _ => False) m Q E := fun _ h => h.elim

/-- What every round keeps of the loop variable and the state the loop keeps, and of a
round that raises what it leaves. -/
theorem Triple.foldlM {f : β → α → Fallible ε σ β} {I : β → σ → Prop} {xs : List α}
    (h : ∀ b, ∀ x ∈ xs, Triple (I b) (f b x) I E) (b : β) :
    Triple (I b) (xs.foldlM f b) I E := by
  induction xs generalizing b with
  | nil => exact .pure fun _ hs => hs
  | cons x xs ih =>
    rw [List.foldlM_cons]
    exact (h b x List.mem_cons_self).bind (ih fun c y hy => h c y (List.mem_cons_of_mem x hy))

theorem Triple.forM {f : α → Fallible ε σ PUnit} {I : σ → Prop} {xs : List α}
    (h : ∀ x ∈ xs, Triple I (f x) (fun _ => I) E) : Triple I (ForM.forM xs f) (fun _ => I) E := by
  induction xs with
  | nil => exact .pure fun _ hs => hs
  | cons x xs ih =>
    rw [List.forM_cons]
    exact (h x (by simp)).bind fun _ => ih fun y hy => h y (by simp [hy])

end Fallible
