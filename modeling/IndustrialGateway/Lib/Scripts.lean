import IndustrialGateway.Lib.Fallible
import IndustrialGateway.Lib.Runs
import Mathlib.Logic.Function.Iterate

/-!
# Scripts of calls

A script makes one call at a time and goes on with its answer; between two calls
others may make theirs. Alone it is a computation over the state. In a pool the
scripts of many clients take their calls in any order over one state, and what a
script has checked need not hold any more when it writes: `checked_writes` says
which runs keep an invariant that each write keeps after its check.
-/

/-- A program with calls `c : C` that are answered in `R c`. -/
inductive Script (ε : Type) {C : Type} (R : C → Type) (α : Type) where
  | done (a : α)
  | raised (e : ε)
  | call (c : C) (next : R c → Script ε R α)

namespace Script

variable {ε σ α β C : Type} {R : C → Type}

def bind : Script ε R α → (α → Script ε R β) → Script ε R β
  | done a, f => f a
  | raised e, _ => raised e
  | call c next, f => call c fun r => (next r).bind f

instance : Monad (Script ε R) where
  pure := done
  bind := bind

/-- The call alone. -/
def ask (c : C) : Script ε R (R c) := call c done

def lift : Except ε α → Script ε R α
  | .ok a => done a
  | .error e => raised e

/-- The call that comes next. -/
def next? : Script ε R α → Option C
  | call c _ => some c
  | _ => none

-- ---------------------------------------------------------------------------
-- Alone
-- ---------------------------------------------------------------------------

section Alone

variable (act : (c : C) → Fallible ε σ (R c))

/-- All calls with nothing between them. -/
def run : Script ε R α → Fallible ε σ α
  | done a => pure a
  | raised e => Fallible.raise e
  | call c next => act c >>= fun r => run (next r)

/-- The next call. -/
def step : Script ε R α → σ → Script ε R α × σ
  | call c next, s =>
    match act c s with
    | (.ok r, t) => (next r, t)
    | (.error e, t) => (raised e, t)
  | script, s => (script, s)

variable {act}

theorem run_ask (c : C) : run act (ask c) = act c := bind_pure _

theorem run_lift (x : Except ε α) : run act (lift x : Script ε R α) = .lift x := by
  cases x <;> rfl

theorem run_bind (script : Script ε R α) (f : α → Script ε R β) :
    run act (script >>= f) = run act script >>= fun a => run act (f a) := by
  induction script with
  | done a => rfl
  | raised e => rfl
  | call c next ih =>
    have hcall : run act (call c next >>= f) = act c >>= fun r => run act (next r >>= f) := rfl
    rw [hcall, run, bind_assoc]
    exact bind_congr fun r => ih r

theorem run_foldlM {f : β → α → Script ε R β} {g : β → α → Fallible ε σ β}
    (h : ∀ b a, run act (f b a) = g b a) (as : List α) (b : β) :
    run act (as.foldlM f b) = as.foldlM g b := by
  induction as generalizing b with
  | nil => rfl
  | cons a as ih =>
    rw [List.foldlM_cons, List.foldlM_cons, run_bind, h]
    exact bind_congr fun b => ih b

/-- Alone, the steps of a script are its computation. -/
theorem step_run (script : Script ε R α) (s : σ) :
    ∃ n, (fun x => step act x.1 x.2)^[n] (script, s) =
      (lift (run act script s).1, (run act script s).2) := by
  induction script generalizing s with
  | done a => exact ⟨0, rfl⟩
  | raised e => exact ⟨0, rfl⟩
  | call c next ih =>
    rw [run, Fallible.bind_apply]
    cases hcall : act c s with
    | mk answer t =>
      cases answer with
      | error e => exact ⟨1, by simp [step, hcall, lift]⟩
      | ok r =>
        obtain ⟨n, hn⟩ := ih r t
        refine ⟨n + 1, ?_⟩
        rw [Function.iterate_succ_apply]
        simpa [step, hcall] using hn

end Alone

-- ---------------------------------------------------------------------------
-- Checks before writes
-- ---------------------------------------------------------------------------

/-- Every write comes right after a call that checks for it. -/
inductive Checked (checks : C → C → Prop) (writes : C → Prop) : Script ε R α → Prop
  | done (a : α) : Checked checks writes (done a)
  | raised (e : ε) : Checked checks writes (raised e)
  | call {c : C} {next : R c → Script ε R α} (hc : ¬ writes c)
    (h : ∀ r, Checked checks writes (next r)) : Checked checks writes (call c next)
  | write {c w : C} {next : R c → R w → Script ε R α} (hc : ¬ writes c) (hw : checks c w)
    (h : ∀ r r', Checked checks writes (next r r')) :
    Checked checks writes (.call c fun r => .call w (next r))

namespace Checked

variable {checks : C → C → Prop} {writes : C → Prop}

theorem ask {c : C} (hc : ¬ writes c) : Checked checks writes (Script.ask c : Script ε R (R c)) :=
  .call hc fun r => .done r

theorem lift (x : Except ε α) : Checked checks writes (Script.lift x : Script ε R α) := by
  cases x with
  | ok a => exact .done a
  | error e => exact .raised e

theorem bind {script : Script ε R α} {f : α → Script ε R β} (h : Checked checks writes script)
    (hf : ∀ a, Checked checks writes (f a)) : Checked checks writes (script >>= f) := by
  induction h with
  | done a => exact hf a
  | raised e => exact .raised e
  | call hc _ ih => exact .call hc ih
  | write hc hw _ ih => exact .write hc hw ih

theorem foldlM {f : β → α → Script ε R β} (hf : ∀ b a, Checked checks writes (f b a))
    (as : List α) (b : β) : Checked checks writes (as.foldlM f b) := by
  induction as generalizing b with
  | nil => exact .done b
  | cons a as ih =>
    rw [List.foldlM_cons]
    exact (hf b a).bind ih

end Checked

end Script

-- ---------------------------------------------------------------------------
-- Pools
-- ---------------------------------------------------------------------------

/-- The scripts of many clients over one state. -/
structure Pool (ι ε σ : Type) {C : Type} (R : C → Type) (α : Type) where
  tasks : ι → Script ε R α
  state : σ

namespace Pool

variable {ι ε σ α C : Type} {R : C → Type}

/-- The next call of one client. -/
def step [DecidableEq ι] (act : (c : C) → Fallible ε σ (R c)) (pool : Pool ι ε σ R α) (i : ι) :
    Pool ι ε σ R α :=
  let after := (pool.tasks i).step act pool.state
  ⟨Function.update pool.tasks i after.1, after.2⟩

/-- No other client is about to make a write that clashes with the one that
comes next. -/
def Clear (writes : C → Prop) (clash : C → C → Prop) (pool : Pool ι ε σ R α) (i : ι) : Prop :=
  ∀ w, (pool.tasks i).next? = some w → writes w →
    ∀ j, j ≠ i → ∀ w', (pool.tasks j).next? = some w' → writes w' → ¬ clash w w'

/-- What a call and its check rely on: `good` is the invariant and `fit` is what
the check of a write has found. -/
structure Guards (act : (c : C) → Fallible ε σ (R c)) (checks : C → C → Prop) (writes : C → Prop)
    (clash : C → C → Prop) (good : σ → Prop) (fit : C → σ → Prop) : Prop where
  checksWrite {c w : C} : checks c w → writes w
  check {c w : C} {s t : σ} {r : R c} : checks c w → act c s = (.ok r, t) → fit w t
  write {w : C} {s : σ} : writes w → fit w s → good s → good (act w s).2
  other {c : C} {s : σ} : ¬ writes c → good s → good (act c s).2
  writesFit {w w' : C} {s : σ} : writes w → ¬ clash w w' → fit w s → fit w' s → fit w' (act w s).2
  otherFit {c w : C} {s : σ} : ¬ writes c → fit w s → fit w (act c s).2

/-- A client's next write has been checked, and what the check found still holds. -/
inductive Ready (checks : C → C → Prop) (writes : C → Prop) (fit : C → σ → Prop) (s : σ) :
    Script ε R α → Prop
  | checked {script : Script ε R α} (h : script.Checked checks writes) :
    Ready checks writes fit s script
  | write {w : C} {next : R w → Script ε R α} (hw : writes w) (hfit : fit w s)
    (h : ∀ r, (next r).Checked checks writes) : Ready checks writes fit s (.call w next)

section Run

variable {act : (c : C) → Fallible ε σ (R c)} {checks : C → C → Prop} {writes : C → Prop}
  {clash : C → C → Prop} {good : σ → Prop} {fit : C → σ → Prop} {s t : σ} {script : Script ε R α}

theorem Ready.mono (h : Ready checks writes fit s script)
    (hfit : ∀ w, script.next? = some w → writes w → fit w s → fit w t) :
    Ready checks writes fit t script := by
  cases h with
  | checked h => exact .checked h
  | write hw hs h => exact .write hw (hfit _ rfl hw hs) h

/-- The client that takes its call is ready for the next one. -/
theorem Ready.step (hguards : Guards act checks writes clash good fit)
    (h : Ready checks writes fit s script) (hgood : good s) :
    good (script.step act s).2 ∧
      Ready checks writes fit (script.step act s).2 (script.step act s).1 := by
  cases h with
  | checked h =>
    cases h with
    | done a => exact ⟨hgood, .checked (.done a)⟩
    | raised e => exact ⟨hgood, .checked (.raised e)⟩
    | @call c next hc h =>
      have hother := hguards.other hc hgood
      rw [Script.step]
      cases hcall : act c s with
      | mk answer t =>
        rw [hcall] at hother
        cases answer with
        | error e => exact ⟨hother, .checked (.raised e)⟩
        | ok r => exact ⟨hother, .checked (h r)⟩
    | @write c w next hc hw h =>
      have hother := hguards.other hc hgood
      rw [Script.step]
      cases hcall : act c s with
      | mk answer t =>
        rw [hcall] at hother
        cases answer with
        | error e => exact ⟨hother, .checked (.raised e)⟩
        | ok r => exact ⟨hother, .write (hguards.checksWrite hw) (hguards.check hw hcall) (h r)⟩
  | @write w next hw hfit h =>
    have hwrite := hguards.write hw hfit hgood
    rw [Script.step]
    cases hcall : act w s with
    | mk answer t =>
      rw [hcall] at hwrite
      cases answer with
      | error e => exact ⟨hwrite, .checked (.raised e)⟩
      | ok r => exact ⟨hwrite, .checked (h r)⟩

theorem step_call_state (act : (c : C) → Fallible ε σ (R c)) (c : C) (next : R c → Script ε R α)
    (s : σ) : ((Script.call c next).step act s).2 = (act c s).2 := by
  rw [Script.step]
  cases act c s with
  | mk answer t => cases answer <;> rfl

/-- A call of one client leaves what the checks of the others have found. -/
theorem Ready.stay (hguards : Guards act checks writes clash good fit)
    (h : Ready checks writes fit s script) {other : Script ε R α}
    (hother : Ready checks writes fit s other)
    (hclear : ∀ w, script.next? = some w → writes w → ∀ w', other.next? = some w' → writes w' →
      ¬ clash w w') : Ready checks writes fit (script.step act s).2 other := by
  refine hother.mono fun w' hnext hw' hfit' => ?_
  cases h with
  | checked h =>
    cases h with
    | done a => exact hfit'
    | raised e => exact hfit'
    | call hc h =>
      rw [step_call_state]
      exact hguards.otherFit hc hfit'
    | write hc hw h =>
      rw [step_call_state]
      exact hguards.otherFit hc hfit'
  | write hw hfit h =>
    rw [step_call_state]
    exact hguards.writesFit hw (hclear _ rfl hw _ hnext hw') hfit hfit'

/-- A run keeps the invariant when no write comes between the check and the
write of a clashing one. -/
theorem checked_writes [DecidableEq ι] (hguards : Guards act checks writes clash good fit)
    {pool₀ pool : Pool ι ε σ R α} (hgood : good pool₀.state)
    (hchecked : ∀ i, (pool₀.tasks i).Checked checks writes)
    (h : Runs.Reaches (step act) (Clear writes clash) pool₀ pool) : good pool.state := by
  have hsound : good pool.state ∧ ∀ i, Ready checks writes fit pool.state (pool.tasks i) := by
    apply h.invariant
    · exact ⟨hgood, fun i => .checked (hchecked i)⟩
    rintro pool i ⟨hgood, hready⟩ hclear
    obtain ⟨hgood', hready'⟩ := (hready i).step hguards hgood
    refine ⟨hgood', fun j => ?_⟩
    by_cases hj : j = i
    · subst hj
      simpa [step] using hready'
    · have hstay := (hready i).stay hguards (hready j) fun w hnext hw => hclear w hnext hw j hj
      simpa [step, hj] using hstay
  exact hsound.1

end Run

end Pool
