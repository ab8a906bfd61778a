import IndustrialGateway.Lib.Act

/-!
# Marked actions

An action that emits marks beside the events of another one, and does the same
otherwise, erases to it. What a trace of marks tells is said along the trace:
each mark is judged by those before it.
-/

namespace Act

variable {σ ω μ α : Type}

/-- The action with its events renamed. -/
def map (f : ω → μ) (a : Act σ ω) : Act σ μ := fun s => (a.state s, (a.events s).map f)

@[simp] theorem state_map (f : ω → μ) (a : Act σ ω) (s : σ) : (a.map f).state s = a.state s := rfl

@[simp] theorem events_map (f : ω → μ) (a : Act σ ω) (s : σ) :
    (a.map f).events s = (a.events s).map f := rfl

/-- The action with what `f` makes of its events. -/
def collect (f : ω → Option μ) (a : Act σ ω) : Act σ μ := fun s => (a.state s, (a.events s).filterMap f)

section Collect

variable (f : ω → Option μ)

@[simp] theorem state_collect (a : Act σ ω) (s : σ) : (a.collect f).state s = a.state s := rfl

@[simp] theorem events_collect (a : Act σ ω) (s : σ) :
    (a.collect f).events s = (a.events s).filterMap f := rfl

theorem collect_seq (a b : Act σ ω) : (a.seq b).collect f = (a.collect f).seq (b.collect f) := by
  funext s
  exact Prod.ext rfl List.filterMap_append

theorem collect_look (g : σ → Act σ ω) : (look g).collect f = look fun s => (g s).collect f := rfl

theorem collect_forEach (g : α → Act σ ω) (xs : List α) :
    (forEach g xs).collect f = forEach (fun x => (g x).collect f) xs := by
  induction xs with
  | nil => rfl
  | cons x xs ih => rw [forEach, collect_seq, ih, forEach]

end Collect

/-- Without what `event?` drops, the marked action is the plain one. -/
def Erases (event? : μ → Option ω) (marked : Act σ μ) (a : Act σ ω) : Prop := marked.collect event? = a

section Erases

variable {event? : μ → Option ω} {a b : Act σ ω} {m n : Act σ μ}

theorem Erases.state (h : Erases event? m a) (s : σ) : m.state s = a.state s := congrArg (Act.state · s) h

theorem Erases.events (h : Erases event? m a) (s : σ) : (m.events s).filterMap event? = a.events s :=
  congrArg (Act.events · s) h

theorem erases_skip : Erases event? (skip : Act σ μ) (skip : Act σ ω) := rfl

theorem erases_modify (f : σ → σ) : Erases event? (modify f : Act σ μ) (modify f : Act σ ω) := rfl

theorem erases_map {f : ω → μ} (h : ∀ o, event? (f o) = some o) (a : Act σ ω) :
    Erases event? (a.map f) a := by
  funext s
  refine Prod.ext rfl ?_
  change ((a.events s).map f).filterMap event? = a.events s
  rw [List.filterMap_map]
  exact (congrArg (List.filterMap · (a.events s)) (funext h)).trans List.filterMap_some

theorem Erases.seq (hm : Erases event? m a) (hn : Erases event? n b) :
    Erases event? (m.seq n) (a.seq b) := by
  rw [Erases, collect_seq, hm, hn]

/-- A mark before the action is dropped. -/
theorem Erases.mark (hm : Erases event? m a) {x : μ} (hx : event? x = none) :
    Erases event? ((emit x).seq m) a := by
  funext s
  refine Prod.ext (hm.state s) ?_
  exact (List.filterMap_cons_none hx).trans (hm.events s)

theorem Erases.look {f : σ → Act σ μ} {g : σ → Act σ ω} (h : ∀ s, Erases event? (f s) (g s)) :
    Erases event? (look f) (look g) :=
  (collect_look _ _).trans (congrArg Act.look (funext h))

theorem Erases.forEach {f : α → Act σ μ} {g : α → Act σ ω} (h : ∀ x, Erases event? (f x) (g x))
    (xs : List α) : Erases event? (forEach f xs) (forEach g xs) :=
  (collect_forEach _ _ _).trans (congrArg (Act.forEach · xs) (funext h))

end Erases

/-- `I`, which speaks of the trace so far, survives the action. -/
def Traces (I : List ω → σ → Prop) (a : Act σ ω) : Prop :=
  ∀ trace s, I trace s → I (trace ++ a.events s) (a.state s)

section Traces

variable {I : List ω → σ → Prop} {a b : Act σ ω}

theorem traces_skip : Traces I (skip : Act σ ω) := by
  intro trace s h
  rwa [events_skip, List.append_nil]

theorem Traces.seq (ha : Traces I a) (hb : Traces I b) : Traces I (a.seq b) := by
  intro trace s h
  rw [events_seq, ← List.append_assoc]
  exact hb _ _ (ha _ _ h)

theorem Traces.look {f : σ → Act σ ω} (h : ∀ s, Traces I (f s)) : Traces I (look f) :=
  fun trace s hs => h s trace s hs

theorem Traces.forEach {f : α → Act σ ω} {xs : List α} (h : ∀ x ∈ xs, Traces I (f x)) :
    Traces I (forEach f xs) := by
  induction xs with
  | nil => exact traces_skip
  | cons x xs ih =>
    exact (h x List.mem_cons_self).seq (ih fun y hy => h y (List.mem_cons_of_mem x hy))

end Traces

end Act

namespace List

variable {α : Type}

/-- Every element of the second list meets `P` after those before it. -/
def Along (P : List α → α → Prop) : List α → List α → Prop
  | _, [] => True
  | earlier, a :: later => P earlier a ∧ Along P (earlier ++ [a]) later

variable {P : List α → α → Prop} {earlier xs ys : List α} {a : α}

theorem along_append : Along P earlier (xs ++ ys) ↔ Along P earlier xs ∧ Along P (earlier ++ xs) ys := by
  induction xs generalizing earlier with
  | nil => simp [Along]
  | cons x xs ih => simp [Along, ih, and_assoc]

theorem Along.at (h : Along P earlier (xs ++ a :: ys)) : P (earlier ++ xs) a :=
  (along_append.mp h).2.1

/-- Elements that always meet it may stand anywhere. -/
theorem along_of_forall (h : ∀ earlier, ∀ x ∈ xs, P earlier x) : Along P earlier xs := by
  induction xs generalizing earlier with
  | nil => trivial
  | cons x xs ih =>
    refine ⟨h earlier x mem_cons_self, ih fun earlier y hy => h earlier y (mem_cons_of_mem x hy)⟩

end List
