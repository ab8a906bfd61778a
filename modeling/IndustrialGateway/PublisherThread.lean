import IndustrialGateway.Coalescing
import IndustrialGateway.Lib.Alarm
import IndustrialGateway.PublicationGate

/-!
# The publisher's thread

`SinkPublisher.run`: pass by pass it takes at most one item from the queue and, when
the clock has reached the next slot, publishes what is cached. So a run of the thread
is a run of the publisher's calls, with one publication at the first reading that
reaches a slot. An item waits behind the keys that are before it and no longer, unless
it is replaced: then it goes to the end of the queue again.
-/

namespace IndustrialGateway

open SinkPublisher LatestReadResultQueue LatestQueue

variable {F : Type}

/-- One pass of the loop: what the workers have put on the queue when `get` returns, what
is read of the clocks, and how the sink behaves. -/
structure Pass (F : Type) where
  puts : List (ReadResult F) := []
  receivedAt : Datetime
  now : F
  publishedAt : Datetime
  sink : Sink F

/-- The variables of `run`, with the calls made so far and what they emitted.
`nextPublish` is `none` while it is still being raised. -/
structure PublisherThread (F : Type) where
  queue : LatestReadResultQueue F
  publisher : SinkPublisher F
  nextPublish : Option F
  calls : List (Call F) := []
  outputs : List (Output F) := []

namespace PublisherThread

/-- Other threads put results on the queue. -/
def hear (t : PublisherThread F) (puts : List (ReadResult F)) : PublisherThread F :=
  { t with queue := puts.foldl .put t.queue }

variable [PyRuntime F] (cfg : PublisherConfig F) (interval : F)

/-- `while next_publish <= now: next_publish += self.publish_interval_s`; `none` when it
has not ended after so many comparisons. -/
def raiseNext (now : F) : Nat → F → Option F
  | 0, _ => none
  | fuel + 1, next =>
    if PyRuntime.le next now then raiseNext now fuel (PyRuntime.add next interval) else some next

def call (t : PublisherThread F) (c : Call F) : PublisherThread F :=
  { t with
    publisher := (SinkPublisher.call cfg c).state t.publisher
    calls := t.calls ++ [c]
    outputs := t.outputs ++ (SinkPublisher.call cfg c).events t.publisher }

def takeOne (t : PublisherThread F) (p : Pass F) : PublisherThread F :=
  match t.queue.get with
  | none => t
  | some (result, rest) =>
    call cfg { t with queue := rest } (.publishOnce result p.receivedAt p.sink)

def publishDue (fuel : Nat) (next : F) (t : PublisherThread F) (p : Pass F) : PublisherThread F :=
  if PyRuntime.le next p.now then
    { call cfg t (.publishCached p.publishedAt p.sink) with
      nextPublish := raiseNext interval p.now fuel next }
  else t

def pass (fuel : Nat) (t : PublisherThread F) (p : Pass F) : PublisherThread F :=
  match t.nextPublish with
  | none => t.hear p.puts
  | some next => publishDue cfg interval fuel next (takeOne cfg (t.hear p.puts) p) p

/-- The thread when its loop begins. -/
def start (routes : List (OutputRoute F)) (queue : LatestReadResultQueue F) (startedAt : F) :
    PublisherThread F where
  queue := queue
  publisher := fresh routes
  nextPublish := some (PyRuntime.add startedAt interval)

def run (fuel : Nat) (routes : List (OutputRoute F)) (queue : LatestReadResultQueue F)
    (startedAt : F) (passes : List (Pass F)) : PublisherThread F :=
  passes.foldl (pass cfg interval fuel) (start interval routes queue startedAt)

-- ---------------------------------------------------------------------------
-- One pass
-- ---------------------------------------------------------------------------

/-- The call of `publish_once` in a pass, when there is an item. -/
def taken (t : PublisherThread F) (p : Pass F) : List (Call F) :=
  ((t.hear p.puts).queue.get.map fun r => .publishOnce r.1 p.receivedAt p.sink).toList

variable {cfg interval} {fuel : Nat} {t : PublisherThread F} {p : Pass F} {next : F}

theorem takeOne_eq (t : PublisherThread F) (p : Pass F) : (takeOne cfg t p).calls = t.calls ++
      (t.queue.get.map fun r => .publishOnce r.1 p.receivedAt p.sink).toList ∧
    (takeOne cfg t p).nextPublish = t.nextPublish ∧
    (takeOne cfg t p).queue = (t.queue.get.map Prod.snd).getD t.queue := by
  rw [takeOne]
  cases t.queue.get with
  | none => exact ⟨(List.append_nil _).symm, rfl, rfl⟩
  | some r => exact ⟨rfl, rfl, rfl⟩

/-- What a pass does while the next slot is known. -/
theorem pass_eq (cfg : PublisherConfig F) (interval : F) (fuel : Nat) (p : Pass F)
    (h : t.nextPublish = some next) :
    (pass cfg interval fuel t p).calls = t.calls ++ t.taken p ++
        (if PyRuntime.le next p.now then [.publishCached p.publishedAt p.sink] else []) ∧
      (pass cfg interval fuel t p).nextPublish =
        (if PyRuntime.le next p.now then raiseNext interval p.now fuel next else some next) ∧
      (pass cfg interval fuel t p).queue =
        ((t.hear p.puts).queue.get.map Prod.snd).getD (t.hear p.puts).queue := by
  obtain ⟨hcalls, hnext, hqueue⟩ : (takeOne cfg (t.hear p.puts) p).calls = _ ∧ _ :=
    takeOne_eq (t.hear p.puts) p
  rw [pass, h]
  simp only [publishDue]
  split
  · refine ⟨?_, rfl, hqueue⟩
    rw [call, hcalls]
    rfl
  · refine ⟨?_, hnext.trans h, hqueue⟩
    rw [hcalls, List.append_nil]
    rfl

-- ---------------------------------------------------------------------------
-- Slots
-- ---------------------------------------------------------------------------

/-- The times for which the thread waits. -/
def slot (interval startedAt : F) : Nat → F
  | 0 => PyRuntime.add startedAt interval
  | n + 1 => PyRuntime.add (slot interval startedAt n) interval

def reached (interval startedAt : F) (n : Nat) (p : Pass F) : Bool :=
  PyRuntime.le (slot interval startedAt n) p.now

variable {startedAt : F} {routes : List (OutputRoute F)} {queue : LatestReadResultQueue F}

theorem raiseNext_slot (k : Nat) : raiseNext interval p.now fuel (slot interval startedAt k) =
    (Alarm.advance (reached interval startedAt) p fuel k).map (slot interval startedAt) := by
  induction fuel generalizing k with
  | zero => rfl
  | succ fuel ih =>
    rw [raiseNext, Alarm.advance, reached]
    split
    · exact ih (k + 1)
    · rfl

/-- The clock of a run: a reading past a slot is past those before it and followed by
readings past it, and each reading is before some slot. -/
structure Clock (interval startedAt : F) (fuel : Nat) (passes : List (Pass F)) : Prop where
  slots : Alarm.InOrder (reached interval startedAt)
  readings : passes.Pairwise (Alarm.NotBefore (reached interval startedAt))
  ends : ∀ p ∈ passes, ∃ n < fuel, reached interval startedAt n p = false

/-- The next slot of the thread after some passes. -/
def OnSlot (interval startedAt : F) (earlier : List (Pass F)) (t : PublisherThread F) : Prop :=
  ∃ k, t.nextPublish = some (slot interval startedAt k) ∧
    Alarm.Next (reached interval startedAt) earlier k

theorem Clock.earlier {before later : List (Pass F)}
    (h : Clock interval startedAt fuel (before ++ p :: later)) :
    Clock interval startedAt fuel before ∧
      ∀ e ∈ before, Alarm.NotBefore (reached interval startedAt) e p := by
  obtain ⟨hbefore, -, hpast⟩ := List.pairwise_append.mp h.readings
  exact ⟨⟨h.slots, hbefore, fun e he => h.ends e (List.mem_append_left _ he)⟩,
    fun e he => hpast e he p List.mem_cons_self⟩

/-- The thread knows its next slot after every pass. -/
theorem OnSlot.pass {earlier : List (Pass F)} (h : OnSlot interval startedAt earlier t)
    (hclock : Clock interval startedAt fuel (earlier ++ [p])) :
    OnSlot interval startedAt (earlier ++ [p]) (pass cfg interval fuel t p) := by
  obtain ⟨k, hk, hnext⟩ := h
  obtain ⟨-, hreadings⟩ := hclock.earlier
  obtain ⟨-, hraised, -⟩ := pass_eq cfg interval fuel p hk
  split at hraised
  · obtain ⟨n, hfuel, hn⟩ := hclock.ends p (List.mem_append_right _ (List.mem_singleton_self p))
    have hle : k ≤ n := by
      by_contra hlt
      obtain ⟨e, he, hreached⟩ := hnext.passed n (Nat.lt_of_not_le hlt)
      rw [hreadings e he n hreached] at hn
      cases hn
    obtain ⟨k', hk'⟩ := Option.isSome_iff_exists.mp
      (Alarm.advance_isSome hn hle (Nat.lt_of_lt_of_le hfuel (Nat.le_add_left fuel k)))
    rw [raiseNext_slot, hk'] at hraised
    exact ⟨k', hraised, hnext.advance hreadings hk'⟩
  · rename_i hopen
    exact ⟨k, hraised, hnext.stay (eq_false_of_ne_true hopen)⟩

theorem run_concat (passes : List (Pass F)) (p : Pass F) :
    run cfg interval fuel routes queue startedAt (passes ++ [p]) =
      pass cfg interval fuel (run cfg interval fuel routes queue startedAt passes) p :=
  List.foldl_append

theorem onSlot_run {passes : List (Pass F)} (hclock : Clock interval startedAt fuel passes) :
    OnSlot interval startedAt passes
      (run cfg interval fuel routes queue startedAt passes) := by
  induction passes using List.reverseRecOn with
  | nil => exact ⟨0, rfl, Alarm.next_start⟩
  | append_singleton passes p ih =>
    rw [run_concat]
    exact (ih hclock.earlier.1).pass hclock

-- ---------------------------------------------------------------------------
-- The calls of a run
-- ---------------------------------------------------------------------------

/-- What the thread has done is what its calls do. -/
structure Made (cfg : PublisherConfig F) (routes : List (OutputRoute F)) (t : PublisherThread F) :
    Prop where
  publisher : t.publisher = after cfg routes t.calls
  outputs : t.outputs = (Act.forEach (SinkPublisher.call cfg) t.calls).events (fresh routes)

theorem Made.call (h : Made cfg routes t) (c : Call F) : Made cfg routes (call cfg t c) where
  publisher := by
    rw [PublisherThread.call, after_concat, ← h.publisher]
  outputs := by
    simp only [PublisherThread.call, h.outputs, h.publisher, Act.events_forEach_append,
      Act.events_forEach_cons, Act.forEach_nil, Act.events_skip, List.append_nil]
    rfl

theorem Made.pass (h : Made cfg routes t) (p : Pass F) :
    Made cfg routes (pass cfg interval fuel t p) := by
  have htake : Made cfg routes (takeOne cfg (t.hear p.puts) p) := by
    rw [takeOne]
    split
    · exact ⟨h.publisher, h.outputs⟩
    · rename_i result rest _
      have hqueue : Made cfg routes { t.hear p.puts with queue := rest } := ⟨h.publisher, h.outputs⟩
      exact hqueue.call _
  rw [PublisherThread.pass]
  split
  · exact ⟨h.publisher, h.outputs⟩
  · rw [publishDue]
    split
    · have hcached := htake.call (.publishCached p.publishedAt p.sink)
      exact ⟨hcached.publisher, hcached.outputs⟩
    · exact htake

theorem made_run (passes : List (Pass F)) :
    Made cfg routes (run cfg interval fuel routes queue startedAt passes) := by
  induction passes using List.reverseRecOn with
  | nil => exact ⟨rfl, rfl⟩
  | append_singleton passes p ih =>
    rw [run_concat]
    exact ih.pass p

/-- A run of the thread is a run of the publisher's calls: in each pass one result, if the
queue has one, and a publication exactly when the reading of the clock is the first
one to reach some slot. -/
theorem published_slots (cfg : PublisherConfig F) (routes : List (OutputRoute F))
    (queue : LatestReadResultQueue F) {passes : List (Pass F)}
    (hclock : Clock interval startedAt fuel passes) :
    Made cfg routes (run cfg interval fuel routes queue startedAt passes) ∧
      ∀ before p later, passes = before ++ p :: later →
        let t := run cfg interval fuel routes queue startedAt before
        ∃ cached, (pass cfg interval fuel t p).calls = t.calls ++ t.taken p ++ cached ∧
          (Alarm.Fires (reached interval startedAt) before p →
            cached = [.publishCached p.publishedAt p.sink]) ∧
          (¬ Alarm.Fires (reached interval startedAt) before p → cached = []) := by
  refine ⟨made_run passes, ?_⟩
  rintro before p later rfl t
  obtain ⟨k, hk, hnext⟩ : OnSlot interval startedAt before t := onSlot_run hclock.earlier.1
  obtain ⟨hcalls, -, -⟩ := pass_eq cfg interval fuel p hk
  have hfires := hnext.fires_iff hclock.slots (c := p)
  refine ⟨_, hcalls, fun h => if_pos (hfires.mpr h), fun h => if_neg fun hreached => ?_⟩
  exact h (hfires.mp hreached)

-- ---------------------------------------------------------------------------
-- Waiting in the queue
-- ---------------------------------------------------------------------------

/-- The items that a pass finds put on the queue. -/
def Pass.items (p : Pass F) : List (ItemKey × ReadResult F) := p.puts.flatMap splitItems

omit [PyRuntime F] in
theorem items_hear (t : PublisherThread F) (p : Pass F) : (t.hear p.puts).queue.items =
    (Pass.items p).foldl (fun q item => q.setLast item.1 item.2) t.queue.items :=
  items_foldl_put t.queue p.puts

theorem queue_pass : ∀ item ∈ (pass cfg interval fuel t p).queue.items.entries,
    item ∈ t.queue.items.entries ∨ item ∈ Pass.items p := by
  have hheard : ∀ item ∈ (t.hear p.puts).queue.items.entries,
      item ∈ t.queue.items.entries ∨ item ∈ Pass.items p := by
    intro item hitem
    rw [items_hear, OrderedDict.entries_foldl_setLast] at hitem
    rcases List.mem_append.mp hitem with hitem | hitem
    · exact .inl (List.mem_filter.mp hitem).1
    · exact .inr ((OrderedDict.keepLast_sublist ..).subset hitem)
  cases hnext : t.nextPublish with
  | none =>
    rw [pass, hnext]
    exact hheard
  | some next =>
    intro item hitem
    obtain ⟨-, -, hqueue⟩ := pass_eq cfg interval fuel p hnext
    rw [hqueue, LatestReadResultQueue.get] at hitem
    cases hpop : (t.hear p.puts).queue.items.popFirst with
    | none =>
      rw [hpop] at hitem
      exact hheard item hitem
    | some found =>
      rw [hpop] at hitem
      refine hheard item ?_
      rw [entries_of_popFirst hpop]
      exact List.mem_cons_of_mem _ hitem

theorem queue_run (passes : List (Pass F)) : ∀ item ∈
    (run cfg interval fuel routes queue startedAt passes).queue.items.entries,
    item ∈ queue.items.entries ∨ item ∈ passes.flatMap Pass.items := by
  induction passes using List.reverseRecOn with
  | nil => exact fun item hitem => .inl hitem
  | append_singleton passes p ih =>
    intro item hitem
    rw [run_concat] at hitem
    rw [List.flatMap_append, List.flatMap_singleton, List.mem_append, ← or_assoc]
    exact (queue_pass item hitem).imp_left (ih item)

variable {key : ItemKey} {result : ReadResult F} {n : Nat}

/-- In one pass an item is taken or comes closer to the front. -/
theorem pass_within {earlier later : List (Pass F)}
    (hclock : Clock interval startedAt fuel (earlier ++ p :: later))
    (hwithin : Within ((run cfg interval fuel routes queue startedAt earlier).hear
      p.puts).queue.items (key, result) n) :
    (run cfg interval fuel routes queue startedAt earlier).taken p =
        [.publishOnce result p.receivedAt p.sink] ∨
      ∃ m, n = m + 1 ∧ Within (run cfg interval fuel routes queue startedAt
        (earlier ++ [p])).queue.items (key, result) m := by
  obtain ⟨k, hk, -⟩ : OnSlot interval startedAt earlier
      (run cfg interval fuel routes queue startedAt earlier) := onSlot_run hclock.earlier.1
  obtain ⟨-, -, hqueue⟩ := pass_eq cfg interval fuel p hk
  obtain ⟨item, rest, hpop, htaken | ⟨m, rfl, hrest⟩⟩ := hwithin.take
  · left
    rw [taken, LatestReadResultQueue.get, hpop, htaken]
    rfl
  · right
    refine ⟨m, rfl, ?_⟩
    rw [run_concat, hqueue, LatestReadResultQueue.get, hpop]
    exact hrest

/-- An item that is not replaced is taken in one of the next passes. -/
theorem within_run {earlier later : List (Pass F)}
    (hclock : Clock interval startedAt fuel (earlier ++ p :: later))
    (hwithin : Within ((run cfg interval fuel routes queue startedAt earlier).hear
      p.puts).queue.items (key, result) n)
    (hagain : ∀ q ∈ later, ∀ item ∈ Pass.items q, item.1 ≠ key) (hlong : n ≤ later.length) :
    ∃ between q rest, p :: later = between ++ q :: rest ∧ between.length ≤ n ∧
      (run cfg interval fuel routes queue startedAt (earlier ++ between)).taken q =
        [.publishOnce result q.receivedAt q.sink] := by
  induction later generalizing earlier p n with
  | nil =>
    rcases pass_within hclock hwithin with htaken | ⟨m, rfl, -⟩
    · exact ⟨[], p, [], rfl, n.zero_le, by rwa [List.append_nil]⟩
    · exact absurd hlong (Nat.not_succ_le_zero m)
  | cons q later ih =>
    rcases pass_within hclock hwithin with htaken | ⟨m, rfl, hcloser⟩
    · exact ⟨[], p, q :: later, rfl, n.zero_le, by rwa [List.append_nil]⟩
    · have hclock' : Clock interval startedAt fuel ((earlier ++ [p]) ++ q :: later) := by
        rwa [List.append_assoc, List.singleton_append]
      have hheard : Within ((run cfg interval fuel routes queue startedAt (earlier ++ [p])).hear
          q.puts).queue.items (key, result) m := by
        rw [items_hear]
        exact hcloser.puts (hagain q List.mem_cons_self)
      obtain ⟨between, q', rest, hsplit, hlen, htaken⟩ := ih hclock' hheard
        (fun q' hq' => hagain q' (List.mem_cons_of_mem q hq')) (Nat.le_of_succ_le_succ hlong)
      refine ⟨p :: between, q', rest, congrArg (List.cons p) hsplit, Nat.succ_le_succ hlen, ?_⟩
      rw [List.append_cons]
      exact htaken

/-- A result that the queue holds under a key is taken at the latest in the pass that
comes as many passes later as there are other keys, unless it is replaced. -/
theorem taken_in_turn (cfg : PublisherConfig F) (routes : List (OutputRoute F))
    {before later : List (Pass F)} (hclock : Clock interval startedAt fuel (before ++ p :: later))
    (hlast : lastOf Prod.fst key (Pass.items p) = some (key, result))
    (hagain : ∀ q ∈ later, ∀ item ∈ Pass.items q, item.1 ≠ key) {others : List ItemKey}
    (hkeys : ∀ item ∈ queue.items.entries ++ (before ++ [p]).flatMap Pass.items,
      item.1 = key ∨ item.1 ∈ others) (hlong : others.length ≤ later.length) :
    ∃ between q rest, p :: later = between ++ q :: rest ∧ between.length ≤ others.length ∧
      (run cfg interval fuel routes queue startedAt (before ++ between)).taken q =
        [.publishOnce result q.receivedAt q.sink] := by
  refine within_run hclock ?_ hagain hlong
  rw [items_hear]
  refine within_of_lastOf hlast (fun item hitem => hkeys item ?_) fun item hitem => hkeys item ?_
  · rw [List.flatMap_append, List.mem_append, List.mem_append]
    exact (queue_run before item hitem).imp_right .inl
  · rw [List.flatMap_append, List.mem_append, List.mem_append, List.flatMap_singleton]
    exact .inr (.inr hitem)

omit [PyRuntime F] in
/-- A pass that finds all keys of the queue put again takes the first of the new items. -/
theorem taken_again (hne : Pass.items p ≠ []) (hnodup : ((Pass.items p).map Prod.fst).Nodup)
    (hqueue : ∀ item ∈ t.queue.items.entries, item.1 ∈ (Pass.items p).map Prod.fst) :
    ∃ item, (Pass.items p).head? = some item ∧
      t.taken p = [.publishOnce item.2 p.receivedAt p.sink] := by
  obtain ⟨item, rest, hpop, hitems⟩ := take_puts_again hne hnodup hqueue
  refine ⟨item, by rw [hitems, List.head?_cons], ?_⟩
  rw [taken, LatestReadResultQueue.get, items_hear, hpop]
  rfl

/-- When every pass finds the same keys put again, only the results under the first of
them are ever taken. -/
theorem first_key_only (cfg : PublisherConfig F) (routes : List (OutputRoute F))
    {others : List ItemKey} (hnodup : (key :: others).Nodup) {passes : List (Pass F)}
    (hpasses : ∀ p ∈ passes, (Pass.items p).map Prod.fst = key :: others) {now : Datetime}
    {sink : Sink F} (htaken : .publishOnce result now sink ∈
      (run cfg interval fuel routes .empty startedAt passes).calls) :
    ∃ p ∈ passes, (Pass.items p).head? = some (key, result) := by
  induction passes using List.reverseRecOn with
  | nil => exact absurd htaken List.not_mem_nil
  | append_singleton passes p ih =>
    have hlast := hpasses p (List.mem_append_right _ (List.mem_singleton_self p))
    have hbefore : ∀ q ∈ passes, (Pass.items q).map Prod.fst = key :: others :=
      fun q hq => hpasses q (List.mem_append_left _ hq)
    have hearlier : .publishOnce result now sink ∈
        (run cfg interval fuel routes .empty startedAt passes).calls →
        ∃ q ∈ passes ++ [p], (Pass.items q).head? = some (key, result) := by
      intro h
      obtain ⟨q, hq, hhead⟩ := ih hbefore h
      exact ⟨q, List.mem_append_left _ hq, hhead⟩
    have hqueue : ∀ item ∈
        (run cfg interval fuel routes .empty startedAt passes).queue.items.entries,
        item.1 ∈ (Pass.items p).map Prod.fst := by
      intro item hitem
      rcases queue_run passes item hitem with hitem | hitem
      · exact absurd hitem List.not_mem_nil
      · obtain ⟨q, hq, hitem⟩ := List.mem_flatMap.mp hitem
        rw [hlast, ← hbefore q hq]
        exact List.mem_map_of_mem hitem
    rw [run_concat] at htaken
    generalize run cfg interval fuel routes .empty startedAt passes = t at htaken hearlier hqueue
    cases hnext : t.nextPublish with
    | none =>
      rw [pass, hnext] at htaken
      exact hearlier htaken
    | some next =>
      obtain ⟨hcalls, -, -⟩ := pass_eq cfg interval fuel p hnext
      have hne : Pass.items p ≠ [] := fun h => by rw [h] at hlast; cases hlast
      obtain ⟨item, hhead, hitem⟩ := taken_again hne (hlast ▸ hnodup) hqueue
      rw [hcalls, hitem, List.append_assoc] at htaken
      rcases List.mem_append.mp htaken with h | h
      · exact hearlier h
      · rcases List.mem_append.mp h with h | h
        · cases List.mem_singleton.mp h
          have hkey : item.1 = key := by
            obtain ⟨items, hitems⟩ := List.head?_eq_some_iff.mp hhead
            rw [hitems, List.map_cons] at hlast
            exact (List.cons.inj hlast).1
          refine ⟨p, List.mem_append_right _ (List.mem_singleton_self p), ?_⟩
          rw [hhead, ← hkey]
        · split at h
          · cases List.mem_singleton.mp h
          · exact absurd h List.not_mem_nil

-- ---------------------------------------------------------------------------
-- A clock of seconds
-- ---------------------------------------------------------------------------

theorem clock_seconds {passes : List (Pass WholeFloat)}
    (hreadings : passes.Pairwise fun p q => p.now.value ≤ q.now.value)
    (hends : ∀ p ∈ passes, p.now.value ≤ fuel) : Clock ⟨1⟩ ⟨0⟩ (fuel + 1) passes := by
  have hslot : ∀ n, slot (⟨1⟩ : WholeFloat) ⟨0⟩ n = ⟨n + 1⟩ := by
    intro n
    induction n with
    | zero => rfl
    | succ n ih =>
      rw [slot, ih]
      rfl
  have hreached : ∀ n (p : Pass WholeFloat),
      reached ⟨1⟩ ⟨0⟩ n p = true ↔ (n : Int) + 1 ≤ p.now.value := by
    intro n p
    rw [reached, hslot]
    exact decide_eq_true_iff
  refine ⟨fun m n p hle h => ?_, hreadings.imp fun hle n h => ?_, fun p hp => ?_⟩
  · rw [hreached] at h ⊢
    omega
  · rw [hreached] at h ⊢
    omega
  · refine ⟨fuel, Nat.lt_succ_self fuel, ?_⟩
    rw [← Bool.not_eq_true, hreached]
    have := hends p hp
    omega

def seconds : PublisherConfig WholeFloat := ⟨{}, "mqtt", ⟨15⟩, ⟨60⟩⟩

def reading (name : String) (value : Int) : TagResult WholeFloat :=
  ⟨name, 0, .int value, .good, none, 0, none, ""⟩

/-- What a poll of a boiler gives. -/
def polled (tags : List (TagResult WholeFloat)) : ReadResult WholeFloat :=
  ⟨⟨some 1, "boiler", "modbus_tcp", true, 1000, "", ∅⟩, 0, tags, none⟩

def passAt (now : Nat) (puts : List (ReadResult WholeFloat)) : Pass WholeFloat :=
  ⟨puts, now * 1000000, ⟨now⟩, now * 1000000, fun _ => none⟩

def firstPoll : ReadResult WholeFloat := polled [reading "temperature" 20, reading "pressure" 3]

def secondPoll : ReadResult WholeFloat := polled [reading "temperature" 21, reading "pressure" 4]

/-- One poll, and a pass that skips a slot. -/
def polledOnce : List (Pass WholeFloat) := [passAt 0 [firstPoll], passAt 0 [], passAt 2 []]

theorem polledOnce_clock : Clock ⟨1⟩ ⟨0⟩ 3 polledOnce := clock_seconds (by decide) (by decide)

/-- The pass that skips a slot publishes once. -/
theorem polledOnce_published :
    let t := run seconds ⟨1⟩ 3 [] .empty ⟨0⟩ [passAt 0 [firstPoll], passAt 0 []]
    (pass seconds ⟨1⟩ 3 t (passAt 2 [])).calls =
      t.calls ++ t.taken (passAt 2 []) ++ [.publishCached 2000000 fun _ => none] := by
  intro t
  obtain ⟨cached, hcalls, hfires, -⟩ := (published_slots seconds [] .empty polledOnce_clock).2
    [passAt 0 [firstPoll], passAt 0 []] (passAt 2 []) [] rfl
  rw [hfires ⟨0, by decide, by decide⟩] at hcalls
  exact hcalls

def boilerKey (name : String) : ItemKey := ⟨some 1, "", "boiler", some ("", name)⟩

/-- The pressure waits for the temperature. -/
theorem pressure_in_turn : ∃ between q rest, polledOnce = between ++ q :: rest ∧
    between.length ≤ 1 ∧
    (run seconds ⟨1⟩ 3 [] .empty ⟨0⟩ between).taken q =
      [.publishOnce (polled [reading "pressure" 3]) q.receivedAt q.sink] := by
  have hlast : lastOf Prod.fst (boilerKey "pressure") (Pass.items (passAt 0 [firstPoll])) =
      some (boilerKey "pressure", polled [reading "pressure" 3]) := rfl
  have hclock : Clock ⟨1⟩ ⟨0⟩ 3 ([] ++ passAt 0 [firstPoll] :: [passAt 0 [], passAt 2 []]) :=
    polledOnce_clock
  have hkeys : ∀ item ∈ (empty : LatestReadResultQueue WholeFloat).items.entries ++
      ([] ++ [passAt 0 [firstPoll]]).flatMap Pass.items,
      item.1 = boilerKey "pressure" ∨ item.1 ∈ [boilerKey "temperature"] := by decide
  exact taken_in_turn seconds [] hclock hlast (by decide) hkeys (by decide)

/-- Polled again before every pass, the boiler has only its temperature taken. -/
theorem temperature_only : ∃ p ∈ [passAt 0 [firstPoll], passAt 0 [secondPoll]],
    (Pass.items p).head? = some (boilerKey "temperature", polled [reading "temperature" 21]) := by
  have hcalls : (run seconds ⟨1⟩ 3 [] .empty ⟨0⟩
      [passAt 0 [firstPoll], passAt 0 [secondPoll]]).calls =
        [.publishOnce (polled [reading "temperature" 20]) 0 fun _ => none,
          .publishOnce (polled [reading "temperature" 21]) 0 fun _ => none] := rfl
  have hnodup : [boilerKey "temperature", boilerKey "pressure"].Nodup := by decide
  have htaken : .publishOnce (polled [reading "temperature" 21]) 0 (fun _ => none) ∈
      (run seconds ⟨1⟩ 3 [] .empty ⟨0⟩ [passAt 0 [firstPoll], passAt 0 [secondPoll]]).calls := by
    rw [hcalls]
    exact List.mem_cons_of_mem _ List.mem_cons_self
  exact first_key_only seconds [] hnodup (by decide) htaken

end PublisherThread

end IndustrialGateway
