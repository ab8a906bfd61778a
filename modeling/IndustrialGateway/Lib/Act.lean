import Mathlib.Data.List.Induction

/-!
# Actions that change a state and emit events

An `Act σ ω` turns a state into the next state and the events it emits on the
way. Sequencing runs the second action on the state the first one leaves and
appends its events. The rules below compose: what an action keeps (`Keeps`),
what it emits (`Emits`), and what holds after every run of a step function
over a list of inputs, also relative to the inputs seen so far.
-/

abbrev Act (σ ω : Type) : Type := σ → σ × List ω

namespace Act

variable {σ ω α : Type}

/-- The state an action leaves. -/
def state (a : Act σ ω) (s : σ) : σ := (a s).1

/-- The events an action emits. -/
def events (a : Act σ ω) (s : σ) : List ω := (a s).2

def skip : Act σ ω := fun s => (s, [])

def emit (o : ω) : Act σ ω := fun s => (s, [o])

def emitAll (os : List ω) : Act σ ω := fun s => (s, os)

def modify (f : σ → σ) : Act σ ω := fun s => (f s, [])

def seq (a b : Act σ ω) : Act σ ω := fun s =>
  ((b (a s).1).1, (a s).2 ++ (b (a s).1).2)

/-- Choose the action by looking at the state. -/
def look (f : σ → Act σ ω) : Act σ ω := fun s => f s s

def forEach (f : α → Act σ ω) : List α → Act σ ω
  | [] => skip
  | x :: xs => (f x).seq (forEach f xs)

@[simp] theorem state_skip (s : σ) : (skip : Act σ ω).state s = s := rfl
@[simp] theorem events_skip (s : σ) : (skip : Act σ ω).events s = [] := rfl
@[simp] theorem state_emit (o : ω) (s : σ) : (emit o).state s = s := rfl
@[simp] theorem events_emit (o : ω) (s : σ) : (emit o).events s = [o] := rfl
@[simp] theorem state_emitAll (os : List ω) (s : σ) : (emitAll os).state s = s := rfl
@[simp] theorem events_emitAll (os : List ω) (s : σ) : (emitAll os).events s = os := rfl
@[simp] theorem state_modify (f : σ → σ) (s : σ) : (modify f : Act σ ω).state s = f s := rfl
@[simp] theorem events_modify (f : σ → σ) (s : σ) : (modify f : Act σ ω).events s = [] := rfl

@[simp] theorem state_seq (a b : Act σ ω) (s : σ) :
    (a.seq b).state s = b.state (a.state s) := rfl

@[simp] theorem events_seq (a b : Act σ ω) (s : σ) :
    (a.seq b).events s = a.events s ++ b.events (a.state s) := rfl

@[simp] theorem state_look (f : σ → Act σ ω) (s : σ) : (look f).state s = (f s).state s := rfl

@[simp] theorem events_look (f : σ → Act σ ω) (s : σ) : (look f).events s = (f s).events s := rfl

@[simp] theorem forEach_nil (f : α → Act σ ω) : forEach f [] = skip := rfl

@[simp] theorem state_forEach_cons (f : α → Act σ ω) (x : α) (xs : List α) (s : σ) :
    (forEach f (x :: xs)).state s = (forEach f xs).state ((f x).state s) := rfl

@[simp] theorem events_forEach_cons (f : α → Act σ ω) (x : α) (xs : List α) (s : σ) :
    (forEach f (x :: xs)).events s =
      (f x).events s ++ (forEach f xs).events ((f x).state s) := rfl

theorem state_forEach_append (f : α → Act σ ω) (xs ys : List α) (s : σ) :
    (forEach f (xs ++ ys)).state s = (forEach f ys).state ((forEach f xs).state s) := by
  induction xs generalizing s with
  | nil => rfl
  | cons x xs ih => exact ih _

theorem events_forEach_append (f : α → Act σ ω) (xs ys : List α) (s : σ) :
    (forEach f (xs ++ ys)).events s =
      (forEach f xs).events s ++ (forEach f ys).events ((forEach f xs).state s) := by
  induction xs generalizing s with
  | nil => rfl
  | cons x xs ih =>
    rw [List.cons_append, events_forEach_cons, ih, events_forEach_cons, state_forEach_cons,
      List.append_assoc]

-- ---------------------------------------------------------------------------
-- What an action keeps and what it emits
-- ---------------------------------------------------------------------------

/-- `I` survives the action. -/
def Keeps (I : σ → Prop) (a : Act σ ω) : Prop := ∀ s, I s → I (a.state s)

/-- From a state in `I`, every event of the action is in `Q`. -/
def Emits (I : σ → Prop) (Q : ω → Prop) (a : Act σ ω) : Prop := ∀ s, I s → ∀ o ∈ a.events s, Q o

theorem Keeps.seq {I : σ → Prop} {a b : Act σ ω} (ha : Keeps I a) (hb : Keeps I b) :
    Keeps I (a.seq b) := fun s hs => hb _ (ha s hs)

theorem Emits.seq {I : σ → Prop} {Q : ω → Prop} {a b : Act σ ω} (hk : Keeps I a)
    (ha : Emits I Q a) (hb : Emits I Q b) : Emits I Q (a.seq b) := by
  intro s hs o ho
  rcases List.mem_append.mp ho with h | h
  · exact ha s hs o h
  · exact hb _ (hk s hs) o h

theorem Keeps.forEach {I : σ → Prop} {f : α → Act σ ω} {xs : List α}
    (h : ∀ x ∈ xs, Keeps I (f x)) : Keeps I (forEach f xs) := by
  induction xs with
  | nil => exact fun s hs => hs
  | cons x xs ih =>
    exact (h x (by simp)).seq (ih fun y hy => h y (by simp [hy]))

theorem Emits.forEach {I : σ → Prop} {Q : ω → Prop} {f : α → Act σ ω} {xs : List α}
    (hk : ∀ x ∈ xs, Keeps I (f x)) (he : ∀ x ∈ xs, Emits I Q (f x)) :
    Emits I Q (forEach f xs) := by
  induction xs with
  | nil => exact fun s _ o ho => (List.not_mem_nil ho).elim
  | cons x xs ih =>
    exact Emits.seq (hk x (by simp)) (he x (by simp))
      (ih (fun y hy => hk y (by simp [hy])) fun y hy => he y (by simp [hy]))

/-- In states of `I` the action stays in them and emits what is in `Q`. -/
structure Respects (I : σ → Prop) (Q : ω → Prop) (a : Act σ ω) : Prop where
  keeps : Keeps I a
  emits : Emits I Q a

section Respects

variable {I : σ → Prop} {Q : ω → Prop} {a b : Act σ ω}

theorem respects_skip : Respects I Q (skip : Act σ ω) :=
  ⟨fun _ h => h, fun _ _ _ ho => (List.not_mem_nil ho).elim⟩

theorem respects_emitAll {os : List ω} (h : ∀ o ∈ os, Q o) : Respects I Q (emitAll os) :=
  ⟨fun _ hs => hs, fun _ _ => h⟩

theorem respects_modify {f : σ → σ} (h : ∀ s, I s → I (f s)) :
    Respects I Q (modify f : Act σ ω) := ⟨h, fun _ _ _ ho => (List.not_mem_nil ho).elim⟩

theorem Respects.seq (ha : Respects I Q a) (hb : Respects I Q b) : Respects I Q (a.seq b) :=
  ⟨ha.keeps.seq hb.keeps, .seq ha.keeps ha.emits hb.emits⟩

theorem Respects.look {f : σ → Act σ ω} (h : ∀ s, I s → Respects I Q (f s)) :
    Respects I Q (look f) :=
  ⟨fun s hs => (h s hs).keeps s hs, fun s hs => (h s hs).emits s hs⟩

theorem Respects.forEach {f : α → Act σ ω} {xs : List α} (h : ∀ x ∈ xs, Respects I Q (f x)) :
    Respects I Q (forEach f xs) :=
  ⟨.forEach fun x hx => (h x hx).keeps,
    .forEach (fun x hx => (h x hx).keeps) fun x hx => (h x hx).emits⟩

end Respects

/-- An event of a loop is an event of one of its rounds, in a state that the
rounds before it left. -/
theorem mem_events_forEach {f : α → Act σ ω} {xs : List α} {s : σ} {o : ω}
    (ho : o ∈ (Act.forEach f xs).events s) :
    ∃ ys x zs, xs = ys ++ x :: zs ∧ o ∈ (f x).events ((Act.forEach f ys).state s) := by
  induction xs generalizing s with
  | nil => exact (List.not_mem_nil ho).elim
  | cons x xs ih =>
    rcases List.mem_append.mp ho with h | h
    · exact ⟨[], x, xs, rfl, h⟩
    · obtain ⟨ys, y, zs, rfl, hy⟩ := ih h
      exact ⟨x :: ys, y, zs, rfl, hy⟩

/-- A loop whose rounds leave the state alone emits what its rounds emit. -/
theorem events_forEach_of_pure {f : α → Act σ ω} {s : σ} (xs : List α)
    (h : ∀ x ∈ xs, (f x).state s = s) :
    (Act.forEach f xs).state s = s ∧
      (Act.forEach f xs).events s = xs.flatMap fun x => (f x).events s := by
  induction xs with
  | nil => exact ⟨rfl, rfl⟩
  | cons x xs ih =>
    have hx := h x (by simp)
    obtain ⟨hs, he⟩ := ih fun y hy => h y (by simp [hy])
    simp [hx, hs, he]

/-- A loop over things with different keys, where a round touches the view of
its own key only: the view of a key changes as the one round for it says. -/
theorem view_forEach {κ β : Type} [DecidableEq κ] (view : σ → κ → β) (key : α → κ)
    (g : α → β → β) {f : α → Act σ ω} {xs : List α} {s : σ} (hn : (xs.map key).Nodup)
    (h : ∀ x ∈ xs, ∀ s k, view ((f x).state s) k = if key x = k then g x (view s k) else view s k)
    (k : κ) :
    view ((forEach f xs).state s) k =
      match xs.find? fun x => key x = k with
      | some x => g x (view s k)
      | none => view s k := by
  induction xs generalizing s with
  | nil => rfl
  | cons x xs ih =>
    obtain ⟨hx, hn⟩ := List.nodup_cons.mp hn
    rw [state_forEach_cons, ih hn fun y hy => h y (by simp [hy]), h x (by simp)]
    by_cases hk : key x = k
    · have hnone : xs.find? (fun y => key y = k) = none := by
        rw [List.find?_eq_none]
        intro y hy
        simpa using fun he : key y = k => hx (hk ▸ he ▸ List.mem_map_of_mem hy)
      simp [hk, hnone]
    · simp [hk]

-- ---------------------------------------------------------------------------
-- Runs
-- ---------------------------------------------------------------------------

section Runs

variable {ε : Type} (step : ε → Act σ ω)

/-- The state after a list of inputs. -/
def run (s : σ) (es : List ε) : σ := (forEach step es).state s

@[simp] theorem run_nil (s : σ) : run step s [] = s := rfl

theorem run_append (s : σ) (es fs : List ε) :
    run step s (es ++ fs) = run step (run step s es) fs := state_forEach_append step es fs s

theorem run_concat (s : σ) (es : List ε) (e : ε) :
    run step s (es ++ [e]) = (step e).state (run step s es) := run_append step s es [e]

/-- An invariant may speak of the inputs so far; `ok` says which input lists
are admissible and is closed under prefixes. -/
theorem run_history (ok : List ε → Prop) (I : List ε → σ → Prop) {s : σ} (hs : I [] s)
    (hok : ∀ es e, ok (es ++ [e]) → ok es)
    (h : ∀ es e t, ok (es ++ [e]) → I es t → I (es ++ [e]) ((step e).state t))
    (es : List ε) (hes : ok es) : I es (run step s es) := by
  induction es using List.reverseRecOn with
  | nil => exact hs
  | append_singleton es e ih =>
    rw [run_concat]
    exact h es e _ hes (ih (hok es e hes))

end Runs

end Act
