import IndustrialGateway.Lib.FrameScan
import Mathlib.Data.List.DropRight

/-!
# A scanner with a buffer

The scanner that a program runs: a buffer to which each chunk is appended, from which
every window is deleted with all that is before it, and which is cut to its last
elements when it holds no window. It scans the stream in the sense of `FrameScan.Scans`,
so the windows it takes lie in the stream, in order and apart, and are those that a
reading of the whole stream takes where none of them has another one within it.
-/

namespace FrameScan

variable {α β : Type}

/-- The buffer, how many elements were deleted from the front of it, and where in the
stream windows were taken. -/
structure Scanner (α β : Type) where
  buffer : List α := []
  deleted : Nat := 0
  taken : List (Window β) := []

namespace Scanner

def extend (s : Scanner α β) (chunk : List α) : Scanner α β :=
  { s with buffer := s.buffer ++ chunk }

def delete (s : Scanner α β) (n : Nat) : Scanner α β :=
  { s with buffer := s.buffer.drop n, deleted := s.deleted + n }

def take (s : Scanner α β) (w : Window β) : Scanner α β :=
  { s.delete w.stop with taken := s.taken ++ [w.shift s.deleted] }

/-- The last `keep` elements stay. -/
def trim (keep : Nat) (s : Scanner α β) : Scanner α β :=
  if keep < s.buffer.length then s.delete (s.buffer.length - keep) else s

theorem buffer_trim (keep : Nat) (s : Scanner α β) : (s.trim keep).buffer = s.buffer.rtake keep := by
  rw [trim, List.rtake]
  split
  · rfl
  · rw [Nat.sub_eq_zero_of_le (by omega), List.drop_zero]

theorem taken_trim (keep : Nat) (s : Scanner α β) : (s.trim keep).taken = s.taken := by
  rw [trim]
  split <;> rfl

variable (accept : List α → Option β) (least keep : Nat)

/-- The loop with its way to trim a buffer without windows. -/
def drainLoopWith (trim : Scanner α β → Scanner α β) : Nat → Scanner α β → Scanner α β
  | 0, s => s
  | fuel + 1, s =>
    match first accept least s.buffer with
    | none => trim s
    | some w => drainLoopWith trim fuel (s.take w)

def drainLoop : Nat → Scanner α β → Scanner α β := drainLoopWith accept least (trim keep)

theorem drainLoop_succ (fuel : Nat) (s : Scanner α β) :
    drainLoop accept least keep (fuel + 1) s =
      match first accept least s.buffer with
      | none => s.trim keep
      | some w => drainLoop accept least keep fuel (s.take w) := rfl

/-- Takes all windows of the buffer; each has at least one element. -/
def drain (s : Scanner α β) : Scanner α β := drainLoop accept least keep s.buffer.length s

def scan (s : Scanner α β) (chunks : List (List α)) : Scanner α β :=
  chunks.foldl (fun s chunk => (s.extend chunk).drain accept least keep) s

variable {accept least keep} {received : List α} {s : Scanner α β} {w : Window β}
  {ws : List (Window β)}

-- ---------------------------------------------------------------------------
-- What is taken
-- ---------------------------------------------------------------------------

theorem taken_drainLoop (fuel : Nat) (s : Scanner α β) :
    ∃ ws, (drainLoop accept least keep fuel s).taken = s.taken ++ ws := by
  induction fuel generalizing s with
  | zero => exact ⟨[], (List.append_nil _).symm⟩
  | succ fuel ih =>
    rw [drainLoop_succ]
    split
    · exact ⟨[], by rw [taken_trim, List.append_nil]⟩
    · rename_i w _
      obtain ⟨ws, hws⟩ := ih (s.take w)
      exact ⟨w.shift s.deleted :: ws, hws.trans (List.append_assoc s.taken [_] ws)⟩

theorem taken_drain (s : Scanner α β) :
    ∃ ws, (s.drain accept least keep).taken = s.taken ++ ws := taken_drainLoop s.buffer.length s

theorem taken_scan (s : Scanner α β) (chunks : List (List α)) :
    ∃ ws, (s.scan accept least keep chunks).taken = s.taken ++ ws := by
  induction chunks generalizing s with
  | nil => exact ⟨[], (List.append_nil _).symm⟩
  | cons chunk chunks ih =>
    obtain ⟨ws, hdrain⟩ : ∃ ws, ((s.extend chunk).drain accept least keep).taken = s.taken ++ ws :=
      taken_drain (s.extend chunk)
    obtain ⟨later, hscan⟩ := ih ((s.extend chunk).drain accept least keep)
    exact ⟨ws ++ later, by rw [← List.append_assoc, ← hdrain]; exact hscan⟩

/-- A drain that took nothing found nothing. -/
theorem drain_nothing (h : (s.drain accept least keep).taken = s.taken) :
    s.drain accept least keep = s.trim keep ∧
      (s.buffer ≠ [] → first accept least s.buffer = none) := by
  rw [drain] at h ⊢
  cases hfuel : s.buffer.length with
  | zero =>
    have hbuffer := List.length_eq_zero_iff.mp hfuel
    refine ⟨?_, fun hne => absurd hbuffer hne⟩
    rw [trim, hbuffer, List.length_nil, if_neg (Nat.not_lt_zero _)]
    rfl
  | succ fuel =>
    rw [hfuel, drainLoop_succ] at h
    rw [drainLoop_succ]
    cases hfirst : first accept least s.buffer with
    | none => exact ⟨rfl, fun _ => rfl⟩
    | some w =>
      rw [hfirst] at h
      obtain ⟨ws, hws⟩ : ∃ ws, (drainLoop accept least keep fuel (s.take w)).taken = _ ++ ws :=
        taken_drainLoop fuel (s.take w)
      have hlength := congrArg List.length (hws.symm.trans h)
      simp only [take, delete, List.length_append, List.length_singleton] at hlength
      omega

-- ---------------------------------------------------------------------------
-- The laws of a run
-- ---------------------------------------------------------------------------

/-- The buffer is what was received and not deleted yet. -/
structure Follows (received : List α) (s : Scanner α β) : Prop where
  buffer : s.buffer = received.drop s.deleted
  deleted : s.deleted ≤ received.length

theorem follows_start : Follows [] ({} : Scanner α β) := ⟨rfl, le_refl _⟩

theorem Follows.length (h : Follows received s) :
    s.buffer.length = received.length - s.deleted := by
  rw [h.buffer, List.length_drop]

theorem Follows.extend (h : Follows received s) (chunk : List α) :
    Follows (received ++ chunk) (s.extend chunk) where
  buffer := by
    rw [Scanner.extend, h.buffer]
    exact (List.drop_append_of_le_length h.deleted).symm
  deleted := by
    rw [List.length_append]
    exact h.deleted.trans (Nat.le_add_right ..)

theorem Follows.take (h : Follows received s)
    (hw : Accepted accept least received (w.shift s.deleted)) : Follows received (s.take w) where
  buffer := by rw [Scanner.take, Scanner.delete, h.buffer, List.drop_drop]
  deleted := hw.bound

/-- The scanner that has taken the windows and deleted what is before a position. -/
def after (s : Scanner α β) (received : List α) (ws : List (Window β)) (deleted : Nat) :
    Scanner α β :=
  ⟨received.drop deleted, deleted, s.taken ++ ws⟩

theorem Follows.trim (h : Follows received s) :
    s.trim keep = s.after received [] (max s.deleted (received.length - keep)) := by
  have hlen := h.length
  rw [Scanner.trim, after, List.append_nil]
  split
  · have hcut : s.deleted + (s.buffer.length - keep) = max s.deleted (received.length - keep) := by
      omega
    rw [Scanner.delete, h.buffer, List.drop_drop, ← h.buffer, hcut]
  · rw [Nat.max_eq_left (by omega), ← h.buffer]

theorem Follows.drains_nil (h : Follows received s) (hleast : 0 < least)
    (hnone : first accept least s.buffer = none) : Drains accept least received s.deleted [] := by
  refine .done fun w hw hstart => ?_
  rw [h.buffer, first_eq_none hleast] at hnone
  refine hnone ⟨w.start - s.deleted, w.stop - s.deleted, w.frame⟩ ((accepted_drop hleast).mpr ?_)
  have hspan := hw.least
  have hshift : Window.shift ⟨w.start - s.deleted, w.stop - s.deleted, w.frame⟩ s.deleted = w := by
    obtain ⟨start, stop, frame⟩ := w
    simp only [Window.shift, Window.mk.injEq, and_true] at hspan hstart ⊢
    omega
  rwa [hshift]

theorem Follows.next (h : Follows received s) (hleast : 0 < least)
    (hfirst : first accept least s.buffer = some w) :
    Next accept least received s.deleted (w.shift s.deleted) := by
  rwa [first_eq_some hleast, h.buffer, next_drop hleast] at hfirst

/-- The loop takes the windows of what was received and not deleted, and trims the rest. -/
theorem Follows.drainLoopWith (hleast : 0 < least) {trim : Scanner α β → Scanner α β}
    (htrim : ∀ s, s.buffer = [] → trim s = s) {fuel : Nat} (h : Follows received s)
    (hfuel : s.buffer.length ≤ fuel) :
    ∃ ws, Drains accept least received s.deleted ws ∧
      Scanner.drainLoopWith accept least trim fuel s =
        trim (s.after received ws (reached s.deleted ws)) := by
  have hsame : s.after received [] s.deleted = s := by rw [after, List.append_nil, ← h.buffer]
  induction fuel generalizing s with
  | zero =>
    have hbuffer : s.buffer = [] := List.length_eq_zero_iff.mp (Nat.le_zero.mp hfuel)
    refine ⟨[], h.drains_nil hleast (by rw [hbuffer]; rfl), ?_⟩
    rw [Scanner.drainLoopWith, reached, hsame, htrim s hbuffer]
  | succ fuel ih =>
    rw [Scanner.drainLoopWith]
    cases hfirst : first accept least s.buffer with
    | none => exact ⟨[], h.drains_nil hleast hfirst, by rw [reached, hsame]⟩
    | some w =>
      have hnext := h.next hleast hfirst
      have htake := h.take hnext.accepted
      have hshort : (s.take w).buffer.length ≤ fuel := by
        have hspan := hnext.accepted.least
        have hlen := h.length
        rw [htake.length]
        simp only [Window.shift, Scanner.take, Scanner.delete] at hspan ⊢
        omega
      obtain ⟨ws, hws, hloop⟩ := ih htake hshort (by rw [after, List.append_nil, ← htake.buffer])
      refine ⟨w.shift s.deleted :: ws, .next hnext hws, hloop.trans ?_⟩
      simp only [after, Scanner.take, Scanner.delete, reached, Window.shift, List.append_assoc,
        List.cons_append, List.nil_append]

theorem follows_after {q : Nat} (hq : q ≤ received.length) :
    Follows received (s.after received ws q) := ⟨rfl, hq⟩

/-- One drain keeps the last elements of the rest. -/
theorem Follows.drainLoop (hleast : 0 < least) {fuel : Nat} (h : Follows received s)
    (hfuel : s.buffer.length ≤ fuel) :
    ∃ ws, Drains accept least received s.deleted ws ∧
      Scanner.drainLoop accept least keep fuel s =
        s.after received ws (max (reached s.deleted ws) (received.length - keep)) := by
  have htrim : ∀ s : Scanner α β, s.buffer = [] → s.trim keep = s := fun s hs => by
    rw [Scanner.trim, hs, List.length_nil, if_neg (Nat.not_lt_zero _)]
  obtain ⟨ws, hws, hloop⟩ : ∃ ws, Drains accept least received s.deleted ws ∧
      Scanner.drainLoopWith accept least (Scanner.trim keep) fuel s = _ :=
    h.drainLoopWith hleast htrim hfuel
  refine ⟨ws, hws, hloop.trans ?_⟩
  rw [(follows_after (hws.reached_le h.deleted)).trim, Scanner.after, Scanner.after,
    List.append_nil]
  rfl

/-- A run of the scanner scans the stream. -/
theorem Follows.scan (hleast : 0 < least) (h : Follows received s) (chunks : List (List α)) :
    ∃ ws q, Scans accept least keep received s.deleted chunks ws q ∧
      s.scan accept least keep chunks = s.after (received ++ chunks.flatten) ws q := by
  induction chunks generalizing received s with
  | nil =>
    refine ⟨[], _, .done, ?_⟩
    rw [List.flatten_nil, List.append_nil, after, List.append_nil, ← h.buffer]
    rfl
  | cons chunk chunks ih =>
    have hextend := h.extend chunk
    obtain ⟨ws, hws, hdrain⟩ : ∃ ws, Drains accept least (received ++ chunk) s.deleted ws ∧
        Scanner.drain accept least keep (s.extend chunk) = (s.extend chunk).after (received ++ chunk) ws
          (max (reached s.deleted ws) ((received ++ chunk).length - keep)) :=
      hextend.drainLoop hleast (le_refl _)
    have hafter : Follows (received ++ chunk) ((s.extend chunk).after (received ++ chunk) ws
        (max (reached s.deleted ws) ((received ++ chunk).length - keep))) :=
      follows_after (Nat.max_le.mpr ⟨hws.reached_le hextend.deleted, Nat.sub_le ..⟩)
    obtain ⟨later, q, hscan, hrun⟩ := ih hafter
    refine ⟨ws ++ later, q, .chunk hws hscan, ?_⟩
    rw [List.flatten_cons, ← List.append_assoc]
    rw [Scanner.scan, List.foldl_cons, hdrain]
    refine hrun.trans ?_
    rw [after, after, after, ← List.append_assoc]
    rfl

theorem scan_law (hleast : 0 < least) (chunks : List (List α)) :
    ∃ q, Scans accept least keep [] 0 chunks
        (({} : Scanner α β).scan accept least keep chunks).taken q ∧
      (({} : Scanner α β).scan accept least keep chunks).buffer = chunks.flatten.drop q := by
  obtain ⟨ws, q, hscan, hrun⟩ : ∃ ws q, Scans accept least keep [] 0 chunks ws q ∧
      ({} : Scanner α β).scan accept least keep chunks = after {} ([] ++ chunks.flatten) ws q :=
    follows_start.scan hleast chunks
  rw [hrun]
  exact ⟨q, hscan, rfl⟩

end Scanner

-- ---------------------------------------------------------------------------
-- Independence of the cut
-- ---------------------------------------------------------------------------

variable {least : Nat}

theorem exists_drains (accept : List α → Option β) (hleast : 0 < least) (stream : List α) :
    ∃ ws, Drains accept least stream 0 ws := by
  obtain ⟨ws, hws, -⟩ : ∃ ws, Drains accept least ([] ++ stream) 0 ws ∧
      Scanner.drain accept least 0 (Scanner.extend {} stream) = _ :=
    (Scanner.follows_start.extend stream).drainLoop hleast (le_refl _)
  exact ⟨ws, hws⟩

/-- Reading the whole stream, no window that is taken has another one within it. -/
def UndisturbedStream (accept : List α → Option β) (least : Nat) (stream : List α) : Prop :=
  ∀ ws, Drains accept least stream 0 ws → ∀ w ∈ ws, Undisturbed accept least stream w

end FrameScan
