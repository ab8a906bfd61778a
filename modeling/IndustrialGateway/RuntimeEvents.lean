import IndustrialGateway.Lib.Runs
import IndustrialGateway.StatusEvents

/-!
# Clients of the runtime's events

`runtime_events` and `runtime_status` of `web/api.py`. A client gets a snapshot
and then whatever its own calls of `drain_events` take out of the one status
queue. An event taken out in the call of one client does not come to another.
-/

namespace IndustrialGateway

open LatestQueue LatestStatusQueue OrderedDict RuntimeManager

variable {F : Type}

-- ---------------------------------------------------------------------------
-- Steps
-- ---------------------------------------------------------------------------

/-- A connected WebSocket. `drained` holds the events of its calls of `drain_events`
that are still to be sent. -/
structure EventClient (F : Type) where
  ident : Nat
  snapshot : RuntimeSnapshot F
  /-- The number of puts before the snapshot. -/
  since : Nat
  drained : List (Settings F) := []
  sent : List (Settings F) := []

/-- The manager, its connected clients and all events put so far. -/
structure WebRuntime (F : Type) where
  manager : RuntimeManager F
  clients : List (EventClient F) := []
  puts : List StatusEvent := []

inductive WebStep where
  | put (e : StatusEvent)
  | connect (ident : Nat)
  | disconnect (ident : Nat)
  /-- A round of `drain_events`, for a client or in a status request. -/
  | drainRound (consumer : Option Nat)
  | send (ident : Nat)

namespace WebRuntime

def connected (s : WebRuntime F) (ident : Nat) : Bool := s.clients.any fun c => c.ident = ident

/-- The consumer's call keeps the event. -/
def collect (consumer : Option Nat) (event : Settings F) (c : EventClient F) : EventClient F :=
  if consumer = some c.ident then { c with drained := c.drained ++ [event] } else c

def sendFirst (ident : Nat) (c : EventClient F) : EventClient F :=
  if c.ident = ident then
    { c with drained := c.drained.drop 1, sent := c.sent ++ c.drained.take 1 }
  else c

def step (s : WebRuntime F) : WebStep → WebRuntime F
  | .put e => { s with manager := s.manager.putStatus e, puts := s.puts ++ [e] }
  | .connect ident =>
    if s.connected ident then s
    else { s with clients := s.clients ++ [⟨ident, s.manager.snapshot, s.puts.length, [], []⟩] }
  | .disconnect ident => { s with clients := s.clients.filter fun c => c.ident ≠ ident }
  | .drainRound consumer =>
    if consumer.all s.connected then
      match s.manager.drainRound with
      | none => s
      | some (event, manager) =>
        { s with manager, clients := s.clients.map (collect consumer event) }
    else s
  | .send ident => { s with clients := s.clients.map (sendFirst ident) }

@[simp] theorem since_collect (consumer : Option Nat) (event : Settings F) (c : EventClient F) :
    (collect consumer event c).since = c.since := by
  unfold collect
  split <;> rfl

@[simp] theorem since_sendFirst (ident : Nat) (c : EventClient F) :
    (sendFirst ident c).since = c.since := by
  unfold sendFirst
  split <;> rfl

-- ---------------------------------------------------------------------------
-- What a client is to see
-- ---------------------------------------------------------------------------

/-- The event is the last one on its tag or server, and newer than the snapshot. -/
def News (puts : List StatusEvent) (c : EventClient F) (e : StatusEvent) : Prop :=
  e.hasState = true ∧ lastOf (key 0) (key 0 e) (puts.drop c.since) = some e

/-- The row shows the state that the event reports. -/
def Carries (row : Settings F) (e : StatusEvent) : Prop :=
  ∀ entry ∈ e.entries, row.get? entry.1 = some entry.2

/-- The queue is empty and all that was taken out of it has been sent. -/
structure Quiet (s : WebRuntime F) : Prop where
  queue : s.manager.statusQueue.items = ∅
  drained : ∀ c ∈ s.clients, c.drained = []

/-- Every connected client has been sent the latest state of each tag and server
that was updated since its snapshot. -/
def AllSeen (s : WebRuntime F) : Prop :=
  ∀ c ∈ s.clients, ∀ e, News s.puts c e → ∃ row ∈ c.sent, Carries row e

/-- What a drain takes out is no news on its tag or server for any other client. -/
def Exclusive (s : WebRuntime F) : WebStep → Prop
  | .drainRound consumer => ∀ e rest, s.manager.statusQueue.getNowait = some (e, rest) →
      e.hasState = true → ∀ c ∈ s.clients, consumer ≠ some c.ident →
        ∀ e' ∈ s.puts.drop c.since, key 0 e' ≠ key 0 e
  | _ => True

-- ---------------------------------------------------------------------------
-- The event of a recorded state
-- ---------------------------------------------------------------------------

theorem nodup_entries (e : StatusEvent) : ((e.entries (F := F)).map Prod.fst).Nodup := by
  cases e <;> simp [StatusEvent.entries]

theorem carries_update (d : Settings F) (e : StatusEvent) : Carries (d.update e.entries) e := by
  intro entry hentry
  rw [get?_update_of_nodup d (nodup_entries e), (lookup_eq_some (nodup_entries e)).mpr hentry]
  rfl

theorem carries_recordStatus (m : RuntimeManager F) {e : StatusEvent} (h : e.hasState = true) :
    Carries (m.recordStatus e).1 e := by
  cases e with
  | text message => cases h
  | tagUpdate device tagGroup tag nodeId mode timestamp quality error => exact carries_update _ _
  | serverStatus device status timestamp error => exact carries_update ∅ _

-- ---------------------------------------------------------------------------
-- The invariant
-- ---------------------------------------------------------------------------

/-- News for a client are still queued or on their way to it. -/
structure Pending (s : WebRuntime F) : Prop where
  keyed : KeyedEvents s.manager.statusQueue.items.entries
  since : ∀ c ∈ s.clients, c.since ≤ s.puts.length
  news : ∀ c ∈ s.clients, ∀ e, News s.puts c e →
    (∃ k, (k, e) ∈ s.manager.statusQueue.items.entries) ∨ ∃ row ∈ c.drained ++ c.sent, Carries row e

variable {s : WebRuntime F}

theorem Pending.put (h : Pending s) (e : StatusEvent) : Pending (s.step (.put e)) := by
  have hentries : (s.manager.statusQueue.put e).items.entries = (s.manager.statusQueue.items.erase
      (key (nextSequence s.manager.statusQueue.sequence e) e)).entries ++
        [(key (nextSequence s.manager.statusQueue.sequence e) e, e)] := entries_setLast _ _ _
  refine ⟨?_, ?_, ?_⟩
  · intro p hp
    rw [step, putStatus, hentries, List.mem_append, List.mem_singleton] at hp
    rcases hp with hp | rfl
    · exact h.keyed p (List.mem_of_mem_filter hp)
    · exact ⟨_, rfl⟩
  · intro c hc
    have hle := h.since c hc
    simp only [step, List.length_append]
    omega
  · intro c hc e' hnews
    obtain ⟨hstate, hlast⟩ := hnews
    simp only [step] at hlast
    rw [List.drop_append_of_le_length (h.since c hc), lastOf_concat] at hlast
    simp only [step, putStatus, hentries, List.mem_append, List.mem_singleton]
    split at hlast
    · cases hlast
      exact .inl ⟨_, .inr rfl⟩
    · rename_i hne
      rcases h.news c hc e' ⟨hstate, hlast⟩ with ⟨k, hk⟩ | ⟨row, hrow, hcarries⟩
      · -- the new event does not replace an event on another tag or server
        obtain ⟨n, hn⟩ := h.keyed _ hk
        have hkey : k ≠ key (nextSequence s.manager.statusQueue.sequence e) e := by
          intro heq
          exact hne (key_congr (heq.symm.trans hn) 0)
        exact .inl ⟨k, .inl (List.mem_filter.mpr ⟨hk, decide_eq_true hkey⟩)⟩
      · exact .inr ⟨row, List.mem_append.mp hrow, hcarries⟩

theorem Pending.connect (h : Pending s) (ident : Nat) : Pending (s.step (.connect ident)) := by
  rw [step]
  split
  · exact h
  · refine ⟨h.keyed, ?_, ?_⟩
    · intro c hc
      rcases List.mem_append.mp hc with hc | hc
      · exact h.since c hc
      · obtain rfl := List.mem_singleton.mp hc
        exact Nat.le_refl _
    · intro c hc e hnews
      rcases List.mem_append.mp hc with hc | hc
      · exact h.news c hc e hnews
      · -- nothing is newer than the snapshot
        obtain rfl := List.mem_singleton.mp hc
        have hlast := hnews.2
        rw [List.drop_length] at hlast
        cases hlast

theorem Pending.disconnect (h : Pending s) (ident : Nat) : Pending (s.step (.disconnect ident)) :=
  ⟨h.keyed, fun c hc => h.since c (List.mem_of_mem_filter hc),
    fun c hc => h.news c (List.mem_of_mem_filter hc)⟩

theorem mem_sendFirst {ident : Nat} {c : EventClient F} {row : Settings F}
    (h : row ∈ c.drained ++ c.sent) :
    row ∈ (sendFirst ident c).drained ++ (sendFirst ident c).sent := by
  unfold sendFirst
  split
  · rw [List.mem_append, ← List.take_append_drop 1 c.drained, List.mem_append] at h
    rw [List.mem_append, List.mem_append]
    rcases h with (htake | hdrop) | hsent
    · exact .inr (.inr htake)
    · exact .inl hdrop
    · exact .inr (.inl hsent)
  · exact h

theorem Pending.send (h : Pending s) (ident : Nat) : Pending (s.step (.send ident)) := by
  refine ⟨h.keyed, ?_, ?_⟩
  · intro c' hc'
    obtain ⟨c, hc, rfl⟩ := List.mem_map.mp hc'
    rw [since_sendFirst]
    exact h.since c hc
  · intro c' hc' e hnews
    obtain ⟨c, hc, rfl⟩ := List.mem_map.mp hc'
    rw [News, since_sendFirst] at hnews
    rcases h.news c hc e hnews with hqueued | ⟨row, hrow, hcarries⟩
    · exact .inl hqueued
    · exact .inr ⟨row, mem_sendFirst hrow, hcarries⟩

theorem mem_collect {consumer : Option Nat} {event row : Settings F} {c : EventClient F}
    (h : row ∈ c.drained ++ c.sent) :
    row ∈ (collect consumer event c).drained ++ (collect consumer event c).sent := by
  unfold collect
  split
  · rw [List.mem_append] at h
    rw [List.mem_append, List.mem_append]
    exact h.imp_left .inl
  · exact h

/-- What is taken out goes to the one client it is news for. -/
theorem Pending.taken (h : Pending s) {consumer : Option Nat}
    (hex : s.Exclusive (.drainRound consumer)) {k : StatusKey} {e : StatusEvent}
    {items : OrderedDict StatusKey StatusEvent}
    (hpop : s.manager.statusQueue.items.popFirst = some ((k, e), items)) {event : Settings F}
    {manager : RuntimeManager F} (hitems : manager.statusQueue.items = items)
    (hevent : e.hasState = true → Carries event e) :
    Pending { s with manager, clients := s.clients.map (collect consumer event) } := by
  have hentries := entries_of_popFirst hpop
  refine ⟨?_, ?_, ?_⟩
  · intro p hp
    rw [hitems] at hp
    exact h.keyed p (hentries ▸ List.mem_cons_of_mem _ hp)
  · intro c' hc'
    obtain ⟨c, hc, rfl⟩ := List.mem_map.mp hc'
    rw [since_collect]
    exact h.since c hc
  · intro c' hc' e' hnews
    obtain ⟨c, hc, rfl⟩ := List.mem_map.mp hc'
    rw [News, since_collect] at hnews
    rcases h.news c hc e' hnews with ⟨k', hqueued⟩ | ⟨row, hrow, hcarries⟩
    · rw [hentries] at hqueued
      rcases List.mem_cons.mp hqueued with heq | hrest
      · obtain ⟨rfl, rfl⟩ := Prod.mk.inj heq
        by_cases hconsumer : consumer = some c.ident
        · refine .inr ⟨event, ?_, hevent hnews.1⟩
          rw [collect, if_pos hconsumer]
          simp
        · have hget : s.manager.statusQueue.getNowait =
              some (e', { s.manager.statusQueue with items }) := by
            rw [getNowait, hpop]
            rfl
          have hmem := (lastOf_some hnews.2).1
          exact absurd rfl (hex e' _ hget hnews.1 c hc hconsumer e' hmem)
      · exact .inl ⟨k', hitems ▸ hrest⟩
    · exact .inr ⟨row, mem_collect hrow, hcarries⟩

theorem Pending.drainRound (h : Pending s) {consumer : Option Nat}
    (hex : s.Exclusive (.drainRound consumer)) : Pending (s.step (.drainRound consumer)) := by
  rw [step]
  split
  · rw [RuntimeManager.drainRound, getNowait]
    cases hpop : s.manager.statusQueue.items.popFirst with
    | none => exact h
    | some next =>
      obtain ⟨⟨k, e⟩, items⟩ := next
      exact h.taken hex hpop (congrArg LatestStatusQueue.items (statusQueue_recorded _ e))
        (carries_recordStatus _)
  · exact h

theorem Pending.step (h : Pending s) {step : WebStep} (hex : s.Exclusive step) :
    Pending (s.step step) := by
  cases step with
  | put e => exact h.put e
  | connect ident => exact h.connect ident
  | disconnect ident => exact h.disconnect ident
  | drainRound consumer => exact h.drainRound hex
  | send ident => exact h.send ident

-- ---------------------------------------------------------------------------
-- Runs
-- ---------------------------------------------------------------------------

/-- When no drain takes news away from another client, every client has been sent
the latest states once the queue is empty. -/
theorem allSeen_of_exclusive {m : RuntimeManager F} (hempty : m.statusQueue.items = ∅)
    (hs : Runs.Reaches WebRuntime.step Exclusive ⟨m, [], []⟩ s) (hquiet : Quiet s) : AllSeen s := by
  have h₀ : Pending (⟨m, [], []⟩ : WebRuntime F) := by
    refine ⟨?_, (fun _ hc => nomatch hc), fun _ hc => nomatch hc⟩
    rw [hempty]
    exact fun _ hp => nomatch hp
  have hpending := hs.invariant h₀ fun s step h hex => h.step hex
  intro c hc e hnews
  rcases hpending.news c hc e hnews with ⟨k, hqueued⟩ | ⟨row, hrow, hcarries⟩
  · rw [hquiet.queue] at hqueued
    cases hqueued
  · rw [hquiet.drained c hc] at hrow
    exact ⟨row, hrow, hcarries⟩

def opened : WebRuntime WholeFloat := ⟨newManager, [], []⟩

def pressureUpdate : StatusEvent :=
  .tagUpdate "boiler" "g" "pressure" "" "Polling" "t1" "good" none

def oneClient : WebRuntime WholeFloat := (opened.step (.connect 0)).step (.put pressureUpdate)

/-- One client drains while another one comes later. -/
theorem allSeen_of_exclusive_pressure :
    AllSeen (((oneClient.step (.drainRound (some 0))).step (.send 0)).step (.connect 1)) := by
  have hrun : Runs.Reaches WebRuntime.step Exclusive opened oneClient :=
    (Runs.Reaches.start.step (WebStep.connect 0) trivial).step (WebStep.put pressureUpdate) trivial
  have hex : Exclusive oneClient (.drainRound (some 0)) := by
    intro e rest _ _ c hc hother
    obtain rfl := List.mem_singleton.mp hc
    exact absurd rfl hother
  have hrun := ((hrun.step (.drainRound (some 0)) hex).step (.send 0) trivial).step (.connect 1) trivial
  refine allSeen_of_exclusive rfl hrun ⟨by decide, ?_⟩
  intro c hc
  rcases List.mem_cons.mp hc with rfl | hc
  · rfl
  · obtain rfl := List.mem_singleton.mp hc
    rfl

/-- The event went to the client whose call took it out, and to no other. -/
theorem second_client_misses_update :
    ¬ ∀ s : WebRuntime WholeFloat, Runs.Reaches WebRuntime.step (fun _ _ => True) opened s →
      Quiet s → AllSeen s := by
  intro h
  let steps : List WebStep :=
    [.connect 0, .connect 1, .put pressureUpdate, .drainRound (some 0), .send 0]
  have hquiet : Quiet (steps.foldl WebRuntime.step opened) := by
    refine ⟨by decide, ?_⟩
    intro c hc
    rcases List.mem_cons.mp hc with rfl | hc
    · rfl
    · obtain rfl := List.mem_singleton.mp hc
      rfl
  have hseen := h _ (Runs.Reaches.start.foldl fun _ _ _ => trivial) hquiet
  obtain ⟨row, hrow, -⟩ := hseen _ (List.mem_cons_of_mem _ (List.mem_singleton_self _))
    pressureUpdate ⟨rfl, rfl⟩
  cases hrow

end WebRuntime

end IndustrialGateway
