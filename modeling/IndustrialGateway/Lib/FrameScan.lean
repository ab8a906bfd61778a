import Mathlib.Data.List.Basic
import Mathlib.Data.List.Range

/-!
# Frames in a stream

A stream without delimiters is read by looking for the first window that a parser
accepts: the earliest start, and of the windows that start there the shortest. What
comes before a window is noise. A scanner gets the stream in chunks, takes the
windows that it finds after each chunk, and keeps only so many bytes of the rest.

A window is given by its first position and the position after its last one.
-/

namespace FrameScan

variable {α β : Type}

structure Window (β : Type) where
  start : Nat
  stop : Nat
  frame : β
  deriving DecidableEq

def Window.shift (w : Window β) (offset : Nat) : Window β :=
  ⟨offset + w.start, offset + w.stop, w.frame⟩

-- ---------------------------------------------------------------------------
-- Windows
-- ---------------------------------------------------------------------------

/-- The windows of at least `least` elements, in the order in which they are tried. -/
def spans (least n : Nat) : List (Nat × Nat) :=
  (List.range n).flatMap fun start =>
    (List.range' (start + least) (n + 1 - (start + least))).map (Prod.mk start)

def first (accept : List α → Option β) (least : Nat) (data : List α) : Option (Window β) :=
  (spans least data.length).findSome? fun s =>
    (accept (data.extract s.1 s.2)).map (Window.mk s.1 s.2)

variable (accept : List α → Option β) (least : Nat)

/-- A window of the data that the parser accepts. -/
structure Accepted (data : List α) (w : Window β) : Prop where
  least : w.start + least ≤ w.stop
  bound : w.stop ≤ data.length
  frame : accept (data.extract w.start w.stop) = some w.frame

/-- The first window from a position on. -/
structure Next (data : List α) (p : Nat) (w : Window β) : Prop where
  accepted : Accepted accept least data w
  start : p ≤ w.start
  first : ∀ v, Accepted accept least data v → p ≤ v.start →
    w.start < v.start ∨ w.start = v.start ∧ w.stop ≤ v.stop

variable {accept least} {data : List α} {p : Nat} {v w : Window β}

theorem mem_spans {n start stop : Nat} :
    (start, stop) ∈ spans least n ↔ start < n ∧ start + least ≤ stop ∧ stop ≤ n := by
  simp only [spans, List.mem_flatMap, List.mem_range, List.mem_map, List.mem_range', Prod.mk.injEq]
  constructor
  · rintro ⟨_, hstart, _, ⟨i, hi, rfl⟩, rfl, rfl⟩
    omega
  · rintro ⟨hstart, hleast, hstop⟩
    exact ⟨start, hstart, stop, ⟨stop - (start + least), by omega, by omega⟩, rfl, rfl⟩

/-- Earlier starts come first, and of one start the shorter windows. -/
theorem pairwise_spans (n : Nat) :
    (spans least n).Pairwise fun s t => s.1 < t.1 ∨ s.1 = t.1 ∧ s.2 ≤ t.2 := by
  rw [spans, List.pairwise_flatMap]
  constructor
  · intro start _
    rw [List.pairwise_map]
    exact (List.pairwise_lt_range' ..).imp fun h => .inr ⟨rfl, h.le⟩
  · refine List.pairwise_lt_range.imp fun {a b} hab s hs t ht => ?_
    obtain ⟨_, -, rfl⟩ := List.mem_map.mp hs
    obtain ⟨_, -, rfl⟩ := List.mem_map.mp ht
    exact .inl hab

theorem first_eq_none (hleast : 0 < least) :
    first accept least data = none ↔ ∀ w, ¬ Accepted accept least data w := by
  rw [first, List.findSome?_eq_none_iff]
  constructor
  · rintro h w hw
    have hspan := hw.least
    have hbound := hw.bound
    have hnone := h (w.start, w.stop) (mem_spans.mpr ⟨by omega, hspan, hbound⟩)
    rw [hw.frame] at hnone
    cases hnone
  · rintro h ⟨start, stop⟩ hs
    obtain ⟨-, hspan, hbound⟩ := mem_spans.mp hs
    cases hframe : accept (data.extract start stop) with
    | none => rw [Option.map_none]
    | some frame => exact absurd ⟨hspan, hbound, hframe⟩ (h ⟨start, stop, frame⟩)

theorem Next.eq (hv : Next accept least data p v) (hw : Next accept least data p w) : v = w := by
  have hvw := hv.first w hw.accepted hw.start
  have hwv := hw.first v hv.accepted hv.start
  obtain ⟨vstart, vstop, vframe⟩ := v
  obtain ⟨wstart, wstop, wframe⟩ := w
  simp only at hvw hwv
  obtain rfl : vstart = wstart := by omega
  obtain rfl : vstop = wstop := by omega
  have hframe : some vframe = some wframe := hv.accepted.frame.symm.trans hw.accepted.frame
  rw [Option.some.inj hframe]

theorem next_of_first (hleast : 0 < least) (h : first accept least data = some w) :
    Next accept least data 0 w := by
  obtain ⟨before, ⟨start, stop⟩, after, hspans, hmap, hbefore⟩ := List.findSome?_eq_some_iff.mp h
  obtain ⟨frame, hframe, rfl⟩ := Option.map_eq_some_iff.mp hmap
  have hmem : (start, stop) ∈ spans least data.length := by simp [hspans]
  obtain ⟨-, hspan, hbound⟩ := mem_spans.mp hmem
  refine ⟨⟨hspan, hbound, hframe⟩, Nat.zero_le _, fun v hv _ => ?_⟩
  have hv' : (v.start, v.stop) ∈ spans least data.length := by
    have := hv.least
    have := hv.bound
    exact mem_spans.mpr ⟨by omega, hv.least, hv.bound⟩
  rw [hspans, List.mem_append, List.mem_cons] at hv'
  rcases hv' with hv' | hv' | hv'
  · have hnone := hbefore _ hv'
    rw [hv.frame] at hnone
    cases hnone
  · rw [Prod.mk.injEq] at hv'
    exact .inr ⟨hv'.1.symm, hv'.2.ge⟩
  · have hpairs : (spans least data.length).Pairwise _ := pairwise_spans data.length
    rw [hspans, List.pairwise_append, List.pairwise_cons] at hpairs
    exact hpairs.2.1.1 _ hv'

theorem first_eq_some (hleast : 0 < least) :
    first accept least data = some w ↔ Next accept least data 0 w := by
  refine ⟨next_of_first hleast, fun h => ?_⟩
  cases hfirst : first accept least data with
  | none => exact absurd h.accepted ((first_eq_none hleast).mp hfirst w)
  | some v => rw [(next_of_first hleast hfirst).eq h]

theorem next_of_take {n : Nat} {frame : β} (hn : least ≤ n) (hbound : n ≤ data.length)
    (hframe : accept (data.take n) = some frame) (hshort : ∀ m < n, accept (data.take m) = none) :
    Next accept least data 0 ⟨0, n, frame⟩ := by
  refine ⟨⟨by simpa using hn, hbound, by simpa using hframe⟩, le_refl _, fun v hv _ => ?_⟩
  rcases Nat.eq_zero_or_pos v.start with hzero | hpos
  · refine .inr ⟨hzero.symm, Nat.le_of_not_lt fun hlt => ?_⟩
    have hnone := hshort v.stop hlt
    have hsome := hv.frame
    rw [hzero, List.extract_eq_take_drop, List.drop_zero, Nat.sub_zero, hnone] at hsome
    cases hsome
  · exact .inl hpos

-- ---------------------------------------------------------------------------
-- Parts of a stream
-- ---------------------------------------------------------------------------

theorem extract_drop (data : List α) (p start stop : Nat) :
    (data.drop p).extract start stop = data.extract (p + start) (p + stop) := by
  simp only [List.extract_eq_take_drop, List.drop_drop]
  congr 1
  omega

theorem extract_append (data rest : List α) {start stop : Nat} (h : stop ≤ data.length) :
    (data ++ rest).extract start stop = data.extract start stop := by
  simp only [List.extract_eq_take_drop]
  rcases Nat.le_total start data.length with hstart | hstart
  · rw [List.drop_append_of_le_length hstart, List.take_append_of_le_length]
    rw [List.length_drop]
    omega
  · have hzero : stop - start = 0 := by omega
    rw [hzero, List.take_zero, List.take_zero]

theorem accepted_drop (hleast : 0 < least) :
    Accepted accept least (data.drop p) w ↔ Accepted accept least data (w.shift p) := by
  constructor
  · intro h
    have hspan := h.least
    have hbound := h.bound
    rw [List.length_drop] at hbound
    refine ⟨?_, ?_, (congrArg accept (extract_drop ..)).symm.trans h.frame⟩
    · simp only [Window.shift]
      omega
    · simp only [Window.shift]
      omega
  · intro h
    have hspan := h.least
    have hbound := h.bound
    simp only [Window.shift] at hspan hbound
    refine ⟨by omega, ?_, (congrArg accept (extract_drop ..)).trans h.frame⟩
    rw [List.length_drop]
    omega

theorem Accepted.append (h : Accepted accept least data w) (rest : List α) :
    Accepted accept least (data ++ rest) w where
  least := h.least
  bound := by
    have := h.bound
    rw [List.length_append]
    omega
  frame := (congrArg accept (extract_append data rest h.bound)).trans h.frame

/-- A window that ends within the first part was there before the rest came. -/
theorem Accepted.of_append {rest : List α} (h : Accepted accept least (data ++ rest) w)
    (hbound : w.stop ≤ data.length) : Accepted accept least data w where
  least := h.least
  bound := hbound
  frame := (congrArg accept (extract_append data rest hbound)).symm.trans h.frame

theorem next_drop (hleast : 0 < least) :
    Next accept least (data.drop p) 0 w ↔ Next accept least data p (w.shift p) := by
  constructor
  · intro h
    refine ⟨(accepted_drop hleast).mp h.accepted, Nat.le_add_right _ _, fun v hv hpv => ?_⟩
    have hspan := hv.least
    have hv' : Accepted accept least (data.drop p) ⟨v.start - p, v.stop - p, v.frame⟩ := by
      rw [accepted_drop hleast]
      have hshift : Window.shift ⟨v.start - p, v.stop - p, v.frame⟩ p = v := by
        obtain ⟨start, stop, frame⟩ := v
        simp only [Window.shift, Window.mk.injEq, and_true] at hspan hpv ⊢
        omega
      rwa [hshift]
    have := h.first _ hv' (Nat.zero_le _)
    simp only [Window.shift] at this ⊢
    omega
  · intro h
    refine ⟨(accepted_drop hleast).mpr h.accepted, Nat.zero_le _, fun v hv _ => ?_⟩
    have := h.first _ ((accepted_drop hleast).mp hv) (Nat.le_add_right _ _)
    simp only [Window.shift] at this
    omega

-- ---------------------------------------------------------------------------
-- Taking windows
-- ---------------------------------------------------------------------------

variable (accept least data) in
/-- The windows from a position on, each the first from the end of the one before. -/
inductive Drains : Nat → List (Window β) → Prop
  | done {p : Nat} : (∀ w, Accepted accept least data w → ¬ p ≤ w.start) → Drains p []
  | next {p : Nat} {w : Window β} {ws : List (Window β)} :
      Next accept least data p w → Drains w.stop ws → Drains p (w :: ws)

/-- The position after the last window. -/
def reached (p : Nat) : List (Window β) → Nat
  | [] => p
  | w :: ws => reached w.stop ws

variable {ws vs later : List (Window β)} {rest : List α}

theorem Accepted.start_le_stop (h : Accepted accept least data w) : w.start ≤ w.stop :=
  (Nat.le_add_right ..).trans h.least

theorem Drains.accepted (h : Drains accept least data p ws) :
    ∀ w ∈ ws, Accepted accept least data w := by
  induction h with
  | done => exact fun w hw => (List.not_mem_nil hw).elim
  | next hw _ ih => exact List.forall_mem_cons.mpr ⟨hw.accepted, ih⟩

theorem Drains.le_start (h : Drains accept least data p ws) : ∀ w ∈ ws, p ≤ w.start := by
  induction h with
  | done => exact fun w hw => (List.not_mem_nil hw).elim
  | next hw _ ih =>
    refine List.forall_mem_cons.mpr ⟨hw.start, fun v hv => ?_⟩
    exact hw.start.trans (hw.accepted.start_le_stop.trans (ih v hv))

theorem Drains.pairwise (h : Drains accept least data p ws) :
    ws.Pairwise fun v w => v.stop ≤ w.start := by
  induction h with
  | done => exact .nil
  | next _ hws ih => exact List.pairwise_cons.mpr ⟨hws.le_start, ih⟩

theorem Drains.le_reached (h : Drains accept least data p ws) : p ≤ reached p ws := by
  induction h with
  | done => exact le_refl _
  | next hw _ ih => exact hw.start.trans (hw.accepted.start_le_stop.trans ih)

theorem Drains.stop_le_reached (h : Drains accept least data p ws) :
    ∀ w ∈ ws, w.stop ≤ reached p ws := by
  induction h with
  | done => exact fun w hw => (List.not_mem_nil hw).elim
  | next _ hws ih => exact List.forall_mem_cons.mpr ⟨hws.le_reached, ih⟩

theorem Drains.reached_le (h : Drains accept least data p ws) (hp : p ≤ data.length) :
    reached p ws ≤ data.length := by
  induction h with
  | done => exact hp
  | next hw _ ih => exact ih hw.accepted.bound

/-- What is left holds no window. -/
theorem Drains.none_left (h : Drains accept least data p ws) :
    ∀ w, Accepted accept least data w → ¬ reached p ws ≤ w.start := by
  induction h with
  | done hnone => exact hnone
  | next _ _ ih => exact ih

theorem Drains.eq (hv : Drains accept least data p vs) (hw : Drains accept least data p ws) :
    vs = ws := by
  induction hv generalizing ws with
  | done hnone =>
    cases hw with
    | done => rfl
    | next hw => exact absurd hw.start (hnone _ hw.accepted)
  | next hv _ ih =>
    cases hw with
    | done hnone => exact absurd hv.start (hnone _ hv.accepted)
    | next hw hws =>
      obtain rfl := hv.eq hw
      rw [ih hws]

/-- Noise may be passed over. -/
theorem Drains.advance {q : Nat} (h : Drains accept least data p ws) (hpq : p ≤ q)
    (hq : ∀ w, Accepted accept least data w → p ≤ w.start → q ≤ w.start) :
    Drains accept least data q ws := by
  cases h with
  | done hnone => exact .done fun w hw hqw => hnone w hw (hpq.trans hqw)
  | next hw hws =>
    refine .next ⟨hw.accepted, hq _ hw.accepted hw.start, fun v hv hqv => ?_⟩ hws
    exact hw.first v hv (hpq.trans hqv)

-- ---------------------------------------------------------------------------
-- Positions with the same rest
-- ---------------------------------------------------------------------------

variable (accept least data) in
/-- However the data goes on, the same windows begin after the one position and after
the other. -/
def SameRest (p q : Nat) : Prop :=
  ∀ rest w, Accepted accept least (data ++ rest) w → (p ≤ w.start ↔ q ≤ w.start)

theorem SameRest.append {q : Nat} (h : SameRest accept least data p q) (chunk : List α) :
    SameRest accept least (data ++ chunk) p q := by
  intro rest w hw
  rw [List.append_assoc] at hw
  exact h _ w hw

theorem SameRest.next {q : Nat} (h : SameRest accept least data p q) (hw : Next accept least data p w) :
    Next accept least data q w := by
  have hsame {v : Window β} (hv : Accepted accept least data v) : p ≤ v.start ↔ q ≤ v.start :=
    h [] v (by rwa [List.append_nil])
  exact ⟨hw.accepted, (hsame hw.accepted).mp hw.start, fun v hv hq => hw.first v hv ((hsame hv).mpr hq)⟩

theorem SameRest.drains {q : Nat} (h : SameRest accept least data p q)
    (hws : Drains accept least data p ws) : Drains accept least data q ws := by
  cases hws with
  | done hnone =>
    refine .done fun w hw hq => hnone w hw ((h [] w ?_).mpr hq)
    rwa [List.append_nil]
  | next hw hws => exact .next (h.next hw) hws

theorem SameRest.reached {q : Nat} (h : SameRest accept least data p q) (ws : List (Window β)) :
    SameRest accept least data (reached p ws) (reached q ws) := by
  cases ws with
  | nil => exact h
  | cons w ws => exact fun _ _ _ => Iff.rfl

/-- After a drain, all may be dropped but as many elements as a window can have. -/
theorem SameRest.trim {width keep q : Nat}
    (hwidth : ∀ data w, Accepted accept least data w → w.stop ≤ w.start + width)
    (hkeep : width ≤ keep) (hnone : ∀ w, Accepted accept least data w → ¬ q ≤ w.start) :
    SameRest accept least data q (max q (data.length - keep)) := by
  intro rest w hw
  refine ⟨fun hq => ?_, (Nat.le_max_left ..).trans⟩
  rcases Nat.lt_or_ge data.length w.stop with hlong | hshort
  · have := hwidth _ w hw
    omega
  · exact absurd hq (hnone w (hw.of_append hshort))

-- ---------------------------------------------------------------------------
-- A stream in chunks
-- ---------------------------------------------------------------------------

variable (accept least) in
/-- What a scanner takes that has received some data, has dropped it up to `p`, and now
gets the chunks: after each it takes all windows and keeps `keep` elements of the rest. -/
inductive Scans (keep : Nat) : List α → Nat → List (List α) → List (Window β) → Nat → Prop
  | done {data : List α} {p : Nat} : Scans keep data p [] [] p
  | chunk {data chunk : List α} {p q : Nat} {chunks : List (List α)} {ws later : List (Window β)} :
      Drains accept least (data ++ chunk) p ws →
      Scans keep (data ++ chunk) (max (reached p ws) ((data ++ chunk).length - keep))
        chunks later q →
      Scans keep data p (chunk :: chunks) (ws ++ later) q

variable {keep width q : Nat} {chunks : List (List α)} {chunk stream : List α}

theorem Scans.of_append {chunks' : List (List α)}
    (h : Scans accept least keep data p (chunks ++ chunks') ws q) :
    ∃ vs later m, ws = vs ++ later ∧ Scans accept least keep data p chunks vs m ∧
      Scans accept least keep (data ++ chunks.flatten) m chunks' later q := by
  induction chunks generalizing data p ws with
  | nil => exact ⟨[], ws, p, rfl, .done, by simpa using h⟩
  | cons chunk chunks ih =>
    cases h with
    | chunk hdrain hscan =>
      obtain ⟨vs, later, m, rfl, hvs, hlater⟩ := ih hscan
      refine ⟨_, later, m, (List.append_assoc ..).symm, .chunk hdrain hvs, ?_⟩
      simpa using hlater

/-- A scanner takes the same windows of the same chunks. -/
theorem Scans.eq (hv : Scans accept least keep data p chunks vs q) {r : Nat}
    (hw : Scans accept least keep data p chunks ws r) : vs = ws := by
  induction hv generalizing ws with
  | done =>
    cases hw
    rfl
  | chunk hdrain _ ih =>
    cases hw with
    | chunk hdrain' hscan =>
      obtain rfl := hdrain.eq hdrain'
      rw [ih hscan]

/-- A scanner that took nothing has kept the last elements. -/
theorem Scans.position_of_nil (hp : data.length - keep ≤ p)
    (h : Scans accept least keep data p chunks [] q) :
    q = max p ((data ++ chunks.flatten).length - keep) := by
  generalize hws : ([] : List (Window β)) = ws at h
  induction h with
  | done => simp [hp]
  | chunk hdrain _ ih =>
    obtain ⟨rfl, rfl⟩ := List.append_eq_nil_iff.mp hws.symm
    rw [ih (Nat.le_max_right ..) rfl, reached]
    simp only [List.length_append, List.flatten_cons]
    omega

/-- The windows lie in the stream, in order and apart. -/
theorem Scans.sound (h : Scans accept least keep data p chunks ws q) :
    (∀ w ∈ ws, Accepted accept least (data ++ chunks.flatten) w) ∧ (∀ w ∈ ws, p ≤ w.start) ∧
      ws.Pairwise fun v w => v.stop ≤ w.start := by
  induction h with
  | done => exact ⟨fun w hw => (List.not_mem_nil hw).elim, fun w hw => (List.not_mem_nil hw).elim,
      .nil⟩
  | chunk hdrain _ ih =>
    obtain ⟨haccepted, hstart, hpairwise⟩ := ih
    rw [List.flatten_cons, ← List.append_assoc]
    refine ⟨fun w hw => ?_, fun w hw => ?_, List.pairwise_append.mpr ⟨hdrain.pairwise, hpairwise, ?_⟩⟩
    · rcases List.mem_append.mp hw with hw | hw
      · exact (hdrain.accepted w hw).append _
      · exact haccepted w hw
    · rcases List.mem_append.mp hw with hw | hw
      · exact hdrain.le_start w hw
      · exact hdrain.le_reached.trans ((Nat.le_max_left ..).trans (hstart w hw))
    · intro v hv w hw
      exact (hdrain.stop_le_reached v hv).trans ((Nat.le_max_left ..).trans (hstart w hw))

-- ---------------------------------------------------------------------------
-- How the stream is cut
-- ---------------------------------------------------------------------------

/-- A window within which no other begins later and ends earlier, as far as the data goes. -/
def Undisturbed (accept : List α → Option β) (least : Nat) (data : List α) (w : Window β) : Prop :=
  ∀ v, Accepted accept least data v → w.start < v.start → w.stop ≤ v.stop

theorem undisturbed_iff (hleast : 0 < least) : Undisturbed accept least data w ↔
    ∀ s ∈ spans least data.length, (accept (data.extract s.1 s.2)).isSome = true →
      w.start < s.1 → w.stop ≤ s.2 := by
  constructor
  · rintro h ⟨start, stop⟩ hs hsome
    obtain ⟨-, hspan, hbound⟩ := mem_spans.mp hs
    obtain ⟨frame, hframe⟩ := Option.isSome_iff_exists.mp hsome
    exact h ⟨start, stop, frame⟩ ⟨hspan, hbound, hframe⟩
  · intro h v hv
    have hspan := hv.least
    have hbound := hv.bound
    exact h (v.start, v.stop) (mem_spans.mpr ⟨by omega, hspan, hbound⟩) (by simp [hv.frame])

/-- What is taken from the beginning of a stream is the beginning of what is taken from
the whole, and the windows to come are not complete yet. -/
theorem Drains.of_append (hstream : Drains accept least (data ++ rest) p ws)
    (h : Drains accept least data p vs) (hund : ∀ w ∈ ws, Undisturbed accept least data w) :
    ∃ later, ws = vs ++ later ∧ Drains accept least (data ++ rest) (reached p vs) later ∧
      ∀ w ∈ later, data.length < w.stop := by
  induction h generalizing ws with
  | @done p hnone =>
    refine ⟨ws, rfl, hstream, fun w hw => Nat.lt_of_not_le fun hstop => ?_⟩
    exact hnone w ((hstream.accepted w hw).of_append hstop) (hstream.le_start w hw)
  | @next p v vs hv _ ih =>
    cases hstream with
    | done hnone => exact absurd hv.start (hnone v (hv.accepted.append rest))
    | @next _ w ws hw hws =>
      have hfirst := hw.first v (hv.accepted.append rest) hv.start
      have hle : w.stop ≤ v.stop := by
        rcases hfirst with hlt | ⟨-, hle⟩
        · exact hund w (by simp) v hv.accepted hlt
        · exact hle
      have hw' : Next accept least data p w :=
        ⟨hw.accepted.of_append (hle.trans hv.accepted.bound), hw.start,
          fun u hu => hw.first u (hu.append rest)⟩
      obtain rfl := hv.eq hw'
      obtain ⟨later, rfl, hlater, hstop⟩ := ih hws fun u hu => hund u (by simp [hu])
      exact ⟨later, rfl, hlater, hstop⟩

/-- Keeping as many elements as a window can have keeps every window to come. -/
theorem Drains.trim (hwidth : ∀ w, Accepted accept least (data ++ rest) w → w.stop ≤ w.start + width)
    (hkeep : width ≤ keep) (hlater : Drains accept least (data ++ rest) q later)
    (hnone : ∀ w, Accepted accept least data w → ¬ q ≤ w.start) :
    Drains accept least (data ++ rest) (max q (data.length - keep)) later := by
  refine hlater.advance (Nat.le_max_left ..) fun w hw hq => ?_
  rcases Nat.lt_or_ge data.length w.stop with hlong | hshort
  · have := hwidth w hw
    omega
  · exact absurd hq (hnone w (hw.of_append hshort))

/-- A run over the beginning of a stream in which no complete window disturbs another. -/
theorem Scans.track (rest : List α) (h : Scans accept least keep data p chunks vs q)
    (hdata : stream = data ++ chunks.flatten ++ rest)
    (hwidth : ∀ w, Accepted accept least stream w → w.stop ≤ w.start + width)
    (hkeep : width ≤ keep) (hstream : Drains accept least stream p ws)
    (hstop : ∀ w ∈ ws, data.length < w.stop)
    (hund : ∀ w ∈ ws, Undisturbed accept least (data ++ chunks.flatten) w) :
    ∃ later, ws = vs ++ later ∧ Drains accept least stream q later ∧
      ∀ w ∈ later, (data ++ chunks.flatten).length < w.stop := by
  induction h generalizing ws with
  | done => exact ⟨ws, rfl, hstream, by simpa using hstop⟩
  | @chunk data chunk p q chunks vs _ hdrain _ ih =>
    have hflat : data ++ (chunk :: chunks).flatten = data ++ chunk ++ chunks.flatten := by
      rw [List.flatten_cons, List.append_assoc]
    rw [hflat] at hdata hund ⊢
    have hsplit : stream = (data ++ chunk) ++ (chunks.flatten ++ rest) := by
      rw [hdata, List.append_assoc]
    have hund' : ∀ w ∈ ws, Undisturbed accept least (data ++ chunk) w := fun w hw v hv =>
      hund w hw v (hv.append chunks.flatten)
    obtain ⟨more, rfl, hmore, hlong⟩ := (hsplit ▸ hstream).of_append hdrain hund'
    have htrim := hmore.trim (by rwa [← hsplit]) hkeep hdrain.none_left
    rw [← hsplit] at htrim
    obtain ⟨later, rfl, hlater, hlast⟩ := ih hdata htrim hlong fun w hw => hund w (by simp [hw])
    exact ⟨later, (List.append_assoc ..).symm, hlater, hlast⟩

/-- However an undisturbed stream is cut, its windows are taken. -/
theorem Scans.eq_of_undisturbed (width : Nat) (hleast : 0 < least)
    (h : Scans accept least keep [] 0 chunks vs q)
    (hwidth : ∀ w, Accepted accept least chunks.flatten w → w.stop ≤ w.start + width)
    (hkeep : width ≤ keep) (hstream : Drains accept least chunks.flatten 0 ws)
    (hund : ∀ w ∈ ws, Undisturbed accept least chunks.flatten w) : vs = ws := by
  have hpos : ∀ w ∈ ws, ([] : List α).length < w.stop := fun w hw => by
    have := (hstream.accepted w hw).least
    rw [List.length_nil]
    omega
  obtain ⟨later, rfl, hlater, hstop⟩ :=
    h.track [] (by simp) hwidth hkeep hstream hpos hund
  cases later with
  | nil => exact (List.append_nil vs).symm
  | cons w later =>
    have hlong := hstop w (by simp)
    have hbound := (hlater.accepted w (by simp)).bound
    rw [List.nil_append] at hlong
    omega

-- ---------------------------------------------------------------------------
-- Cuts that show a disturbed window
-- ---------------------------------------------------------------------------

/-- The stream in chunks that are not empty and not longer than a read. -/
structure CutInto (size : Nat) (stream : List α) (chunks : List (List α)) : Prop where
  flatten : chunks.flatten = stream
  nonempty : ∀ chunk ∈ chunks, chunk ≠ []
  size : ∀ chunk ∈ chunks, chunk.length ≤ size

theorem cutInto_singles (size : Nat) (hsize : 0 < size) (stream : List α) :
    CutInto size stream (stream.map fun x => [x]) where
  flatten := by induction stream <;> simp_all
  nonempty := by simp
  size := by
    intro chunk hchunk
    obtain ⟨x, -, rfl⟩ := List.mem_map.mp hchunk
    exact hsize

theorem CutInto.append {size : Nat} {stream' : List α} {chunks' : List (List α)}
    (h : CutInto size stream chunks) (h' : CutInto size stream' chunks') :
    CutInto size (stream ++ stream') (chunks ++ chunks') where
  flatten := by rw [List.flatten_append, h.flatten, h'.flatten]
  nonempty := List.forall_mem_append.mpr ⟨h.nonempty, h'.nonempty⟩
  size := List.forall_mem_append.mpr ⟨h.size, h'.size⟩

theorem cutInto_cons {size : Nat} {chunk : List α} (hne : chunk ≠ []) (hle : chunk.length ≤ size)
    (h : CutInto size stream chunks) : CutInto size (chunk ++ stream) (chunk :: chunks) where
  flatten := by rw [List.flatten_cons, h.flatten]
  nonempty := List.forall_mem_cons.mpr ⟨hne, h.nonempty⟩
  size := List.forall_mem_cons.mpr ⟨hle, h.size⟩

variable {pre post : List (Window β)}

/-- Before the first disturbed window has got longer than the least length, the cut has
made no difference. -/
theorem Scans.before (hstream : Drains accept least stream 0 (pre ++ w :: post))
    (hund : ∀ u ∈ pre, Undisturbed accept least stream u)
    (hwidth : ∀ w, Accepted accept least stream w → w.stop ≤ w.start + width)
    (hkeep : width ≤ keep) (hleast : 0 < least) (hlong : w.start + least < w.stop)
    (h : Scans accept least keep [] 0 chunks vs q)
    (hchunks : chunks.flatten = stream.take (w.start + least)) :
    vs = pre ∧ Drains accept least stream q (w :: post) := by
  have hpairwise := List.pairwise_append.mp hstream.pairwise
  have hlate : ∀ u ∈ w :: post, w.start ≤ u.start := by
    refine List.forall_mem_cons.mpr ⟨le_refl _, fun u hu => ?_⟩
    have := (List.pairwise_cons.mp hpairwise.2.1).1 u hu
    omega
  have hnever : ∀ u ∈ pre ++ w :: post, Undisturbed accept least ([] ++ chunks.flatten) u := by
    rw [List.nil_append, hchunks]
    intro u hu v hv huv
    rcases List.mem_append.mp hu with hu | hu
    · exact hund u hu v (by simpa using hv.append (stream.drop (w.start + least))) huv
    · have hbound := hv.bound
      rw [List.length_take] at hbound
      have := hv.least
      have := hlate u hu
      omega
  have hpos : ∀ u ∈ pre ++ w :: post, ([] : List α).length < u.stop := fun u hu => by
    have := (hstream.accepted u hu).least
    rw [List.length_nil]
    omega
  obtain ⟨later, hsplit, hlater, hstop⟩ :=
    h.track (stream.drop (w.start + least)) (by simp [hchunks]) hwidth hkeep hstream hpos
      hnever
  have hreceived : ([] ++ chunks.flatten).length = w.start + least := by
    have := (hstream.accepted w (by simp)).bound
    rw [List.nil_append, hchunks, List.length_take]
    omega
  rw [hreceived] at hstop
  rcases List.append_eq_append_iff.mp hsplit with ⟨early, rfl, hearly⟩ | ⟨late, rfl, hlate⟩
  · cases early with
    | nil => exact ⟨List.append_nil pre, hearly ▸ hlater⟩
    | cons u early =>
      obtain ⟨rfl, -⟩ := List.cons.inj hearly
      have hbound := (h.sound.1 w (by simp)).bound
      omega
  · cases late with
    | nil =>
      obtain rfl : later = w :: post := hlate
      exact ⟨(List.append_nil vs).symm, hlater⟩
    | cons u late =>
      have hlong := hstop u (hlate ▸ List.mem_cons_self)
      have := hpairwise.2.2 u (by simp) w (by simp)
      omega

theorem Accepted.take (h : Accepted accept least stream w) {n : Nat} (hn : w.stop ≤ n) :
    Accepted accept least (stream.take n) w := by
  rw [← List.take_append_drop n stream] at h
  refine h.of_append ?_
  have := h.bound
  rw [List.take_append_drop] at this
  rw [List.length_take]
  omega

theorem Accepted.of_take {n : Nat} (h : Accepted accept least (stream.take n) w) :
    Accepted accept least stream w := by
  have := h.append (stream.drop n)
  rwa [List.take_append_drop] at this

theorem take_append_extract (stream : List α) {m n : Nat} (h : m ≤ n) :
    stream.take m ++ stream.extract m n = stream.take n := by
  rw [List.extract_eq_take_drop, ← List.take_add, Nat.add_sub_cancel' h]

theorem extract_ne_nil {m n : Nat} (h : m < n) (hn : n ≤ stream.length) :
    stream.extract m n ≠ [] := by
  rw [List.ne_nil_iff_length_pos, List.extract_eq_take_drop, List.length_take, List.length_drop]
  omega

theorem length_extract_le (stream : List α) (m n : Nat) : (stream.extract m n).length ≤ n - m := by
  rw [List.extract_eq_take_drop, List.length_take]
  omega

/-- A cut within the disturbed window, where the other one ends, and a cut without it. -/
theorem exists_cuts_of_disturbed (keep width size : Nat) (hleast : 0 < least)
    (hwidth : ∀ w, Accepted accept least stream w → w.stop ≤ w.start + width)
    (hkeep : width ≤ keep) (hsize : width ≤ size + least) (hpos : 0 < size)
    (hstream : Drains accept least stream 0 ws)
    (hdis : ∃ w ∈ ws, ¬ Undisturbed accept least stream w) :
    ∃ chunks chunks', CutInto size stream chunks ∧ CutInto size stream chunks' ∧
      ∀ vs vs' q q', Scans accept least keep [] 0 chunks vs q →
        Scans accept least keep [] 0 chunks' vs' q' → vs ≠ vs' := by
  classical
  obtain ⟨w, hfind⟩ := Option.isSome_iff_exists.mp
    (List.find?_isSome (p := fun w => decide ¬ Undisturbed accept least stream w) |>.mpr
      (by simpa using hdis))
  obtain ⟨hw, pre, post, rfl, hpre⟩ := List.find?_eq_some_iff_append.mp hfind
  replace hw : ¬ Undisturbed accept least stream w := by simpa using hw
  replace hpre : ∀ u ∈ pre, Undisturbed accept least stream u := by simpa using hpre
  have hw' : Accepted accept least stream w := hstream.accepted w (by simp)
  simp only [Undisturbed, not_forall] at hw
  obtain ⟨v, hv, hstart, hstop⟩ := hw
  have hspan := hv.least
  have hbound := hw'.bound
  have hwide := hwidth w hw'
  have hhead := cutInto_singles size hpos (stream.take (w.start + least))
  have htail := cutInto_singles size hpos (stream.drop w.stop)
  set head := (stream.take (w.start + least)).map fun x => [x]
  set tail := (stream.drop w.stop).map fun x => [x]
  have hjoin : stream.take (w.start + least) ++ stream.extract (w.start + least) v.stop =
      stream.take v.stop := take_append_extract stream (by omega)
  have hjoin' : stream.take (w.start + least) ++ stream.extract (w.start + least) w.stop =
      stream.take w.stop := take_append_extract stream (by omega)
  refine ⟨head ++ stream.extract (w.start + least) v.stop :: stream.extract v.stop w.stop :: tail,
    head ++ stream.extract (w.start + least) w.stop :: tail, ?_, ?_, ?_⟩
  · have := hhead.append (cutInto_cons (extract_ne_nil (by omega) (by omega))
      ((length_extract_le stream (w.start + least) v.stop).trans (by omega))
      (cutInto_cons (extract_ne_nil (by omega) hbound)
        ((length_extract_le stream v.stop w.stop).trans (by omega)) htail))
    rwa [← List.append_assoc, hjoin, ← List.append_assoc, take_append_extract stream (by omega),
      List.take_append_drop] at this
  · have := hhead.append (cutInto_cons (extract_ne_nil (by omega) hbound)
      ((length_extract_le stream (w.start + least) w.stop).trans (by omega)) htail)
    rwa [← List.append_assoc, hjoin', List.take_append_drop] at this
  · intro vs vs' q q' hvs hvs' heq
    obtain ⟨early, later, m, rfl, hearly, hlater⟩ := hvs.of_append
    obtain ⟨early', later', m', rfl, hearly', hlater'⟩ := hvs'.of_append
    obtain ⟨rfl, hm⟩ := hearly.before hstream hpre hwidth hkeep hleast (by omega) hhead.flatten
    obtain ⟨rfl, hm'⟩ := hearly'.before hstream hpre hwidth hkeep hleast (by omega) hhead.flatten
    have hlate := List.append_cancel_left heq
    rw [List.nil_append, hhead.flatten] at hlater hlater'
    -- the cut within `w` lets a shorter window be taken
    cases hlater with
    | chunk hdrain _ =>
      rw [hjoin] at hdrain
      cases hdrain with
      | done hnone =>
        have := hm.le_start w (by simp)
        exact hnone v (hv.take (le_refl _)) (by omega)
      | next hx _ =>
        -- without it `w` comes next
        cases hlater' with
        | chunk hdrain' _ =>
          rw [hjoin'] at hdrain'
          cases hm' with
          | next hnext _ =>
            have hnext' : Next accept least (stream.take w.stop) m' w :=
              ⟨hw'.take (le_refl _), hnext.start, fun u hu => hnext.first u hu.of_take⟩
            cases hdrain' with
            | done hnone => exact hnone w hnext'.accepted hnext'.start
            | next hy _ =>
              obtain rfl := hy.eq hnext'
              obtain ⟨rfl, -⟩ := List.cons.inj hlate
              have := hx.accepted.bound
              rw [List.length_take] at this
              omega

end FrameScan
