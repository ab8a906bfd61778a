import IndustrialGateway.StatusNotes

/-!
# The cadence of status publications

A device publishes its status right after every change, and otherwise only when
the interval since its last publication has passed.
-/

namespace IndustrialGateway

variable {F : Type}

namespace SinkPublisher

-- ---------------------------------------------------------------------------
-- The trace of a run
-- ---------------------------------------------------------------------------

/-- The times of the status publications of the device. -/
def executions (key : DeviceKey) (notes : List (Note F)) : List Datetime :=
  notes.filterMap fun
    | .executed device now => if deviceKey device = key then some now else none
    | _ => none

/-- The statuses that the device gets. -/
def changes (key : DeviceKey) (notes : List (Note F)) : List DeviceStatus :=
  notes.filterMap fun
    | .changed k _ new _ => if k = key then some new else none
    | _ => none

section Notes

variable (key : DeviceKey)

@[simp] theorem executions_nil : executions key ([] : List (Note F)) = [] := rfl

@[simp] theorem changes_nil : changes key ([] : List (Note F)) = [] := rfl

@[simp] theorem executions_append (notes notes' : List (Note F)) :
    executions key (notes ++ notes') = executions key notes ++ executions key notes' :=
  List.filterMap_append

@[simp] theorem changes_append (notes notes' : List (Note F)) :
    changes key (notes ++ notes') = changes key notes ++ changes key notes' :=
  List.filterMap_append

@[simp] theorem executions_outputs (os : List (Output F)) : executions key (os.map .output) = [] := by
  simp [executions]

@[simp] theorem changes_outputs (os : List (Output F)) : changes key (os.map .output) = [] := by
  simp [changes]

@[simp] theorem executions_changed (k : DeviceKey) (old : Option DeviceStatus) (new : DeviceStatus)
    (now : Datetime) (notes : List (Note F)) :
    executions key (.changed k old new now :: notes) = executions key notes := rfl

@[simp] theorem changes_executed (device : DeviceSpec F) (now : Datetime) (notes : List (Note F)) :
    changes key (.executed device now :: notes) = changes key notes := rfl

@[simp] theorem executions_executed (device : DeviceSpec F) (now : Datetime) (notes : List (Note F)) :
    executions key (.executed device now :: notes) =
      (if deviceKey device = key then [now] else []) ++ executions key notes := by
  by_cases h : deviceKey device = key <;> simp [executions, h]

@[simp] theorem changes_changed (k : DeviceKey) (old : Option DeviceStatus) (new : DeviceStatus)
    (now : Datetime) (notes : List (Note F)) :
    changes key (.changed k old new now :: notes) =
      (if k = key then [new] else []) ++ changes key notes := by
  by_cases h : k = key <;> simp [changes, h]

end Notes

/-- The device has just got a new status, and nothing was sent since. -/
def JustChanged (key : DeviceKey) (now : Datetime) (earlier : List (Note F)) : Prop :=
  ∃ before old new updates, earlier = before ++ .changed key old new now :: updates.map .output ∧
    sents updates = []

/-- The notes agree with the state that they lead to. -/
structure Recorded (trace : List (Note F)) (p : SinkPublisher F) : Prop where
  published : ∀ key, (executions key trace).getLast? = p.lastPublished key
  statuses : ∀ key, (changes key trace).getLast? = p.statusOf key

section Runs

variable (cfg : PublisherConfig F) [PyRuntime F]

/-- What may be noted after the earlier notes: a status other than the last one; a publication
of a known device that has just changed or whose interval has passed. -/
def InTurn (earlier : List (Note F)) : Note F → Prop
  | .output _ => True
  | .changed key old new _ => old = (changes key earlier).getLast? ∧ old ≠ some new
  | .executed device now => changes (deviceKey device) earlier ≠ [] ∧
    (JustChanged (deviceKey device) now earlier ∨
      PyRuntime.le cfg.statusPublishIntervalS (PyRuntime.lit 0) = false ∧
        ∀ t, (executions (deviceKey device) earlier).getLast? = some t →
          PyRuntime.le cfg.statusPublishIntervalS (PyRuntime.totalSeconds (now - t)) = true)

theorem along_outputs (earlier : List (Note F)) (os : List (Output F)) :
    List.Along (InTurn cfg) earlier (os.map .output) := by
  refine List.along_of_forall fun earlier note hnote => ?_
  obtain ⟨o, -, rfl⟩ := List.mem_map.mp hnote
  trivial

/-- A visit notes what is in turn, and the notes agree with what it leaves. -/
theorem Recorded.visit {trace notes : List (Note F)} {device : DeviceSpec F} {now : Datetime}
    {p q : SinkPublisher F} (h : Recorded trace p) (hsame : SameBut (deviceKey device) p q)
    (hvisit : Visit cfg device now p q notes) :
    Recorded (trace ++ notes) q ∧ List.Along (InTurn cfg) trace notes := by
  have hothers (key : DeviceKey) (hk : key ≠ deviceKey device) :
      q.lastPublished key = p.lastPublished key ∧ q.statusOf key = p.statusOf key := by
    rw [lastPublished, statusOf, hsame.others key hk]
    exact ⟨rfl, rfl⟩
  -- what is left to show of the device itself
  have hrecorded (hpublished : (executions (deviceKey device) (trace ++ notes)).getLast? =
        q.lastPublished (deviceKey device))
      (hstatuses : (changes (deviceKey device) (trace ++ notes)).getLast? = q.statusOf (deviceKey device))
      (hsilent : ∀ key, key ≠ deviceKey device → executions key notes = [] ∧ changes key notes = []) :
      Recorded (trace ++ notes) q := by
    constructor <;> intro key <;> by_cases hk : key = deviceKey device
    · rw [hk, hpublished]
    · rw [executions_append, (hsilent key hk).1, List.append_nil, h.published, (hothers key hk).1]
    · rw [hk, hstatuses]
    · rw [changes_append, (hsilent key hk).2, List.append_nil, h.statuses, (hothers key hk).2]
  have hknown (hp : p.statusOf (deviceKey device) ≠ none) : changes (deviceKey device) trace ≠ [] := by
    intro hnil
    refine hp ?_
    rw [← h.statuses, hnil]
    rfl
  cases hvisit with
  | quiet hstatus hpublished =>
    refine ⟨hrecorded ?_ ?_ fun _ _ => ⟨rfl, rfl⟩, trivial⟩
    · rw [List.append_nil, h.published, hpublished]
    · rw [List.append_nil, h.statuses, hstatus]
  | first hnew hstatus hpublished =>
    refine ⟨hrecorded ?_ ?_ fun key hk => ⟨rfl, by simp [hk.symm]⟩, ⟨?_, (Option.some_ne_none _).symm⟩,
      trivial⟩
    · have hnone : p.lastPublished (deviceKey device) = none := by
        rw [statusOf, Option.map_eq_none_iff] at hnew
        rw [lastPublished, hnew]
        rfl
      rw [executions_append, executions_changed, executions_nil, List.append_nil, h.published, hnone,
        hpublished]
    · rw [hstatus]
      simp
    · rw [h.statuses, hnew]
  | heartbeat hinterval hp hdue hstatus hpublished hos =>
    refine ⟨hrecorded ?_ ?_ fun key hk => ⟨by simp [hk.symm], by simp⟩, ⟨hknown hp, .inr ⟨hinterval, ?_⟩⟩,
      along_outputs cfg _ _⟩
    · rw [hpublished]
      simp
    · rw [changes_append, changes_executed, changes_outputs, List.append_nil, h.statuses, hstatus]
    · intro t ht
      exact hdue t (by rw [← h.published, ht])
  | @announced new hnew hstatus hpublished updates os hupdates hos =>
    refine ⟨hrecorded ?_ ?_ fun key hk => ⟨by simp [hk.symm], by simp [hk.symm]⟩,
      List.along_append.mpr ⟨⟨⟨(h.statuses _).symm, hnew⟩, along_outputs cfg _ _⟩,
        ⟨?_, .inl ⟨trace, _, new, updates, rfl, hupdates⟩⟩, along_outputs cfg _ _⟩⟩
    · rw [hpublished]
      simp
    · rw [hstatus]
      simp
    · simp

/-- The trace is in turn and agrees with the state. -/
def Cadenced (trace : List (Note F)) (p : SinkPublisher F) : Prop :=
  Recorded trace p ∧ List.Along (InTurn cfg) [] trace

theorem Visits.cadenced {device : DeviceSpec F} {now : Datetime} {a : NotedAct F}
    (h : Visits cfg device now a) : Act.Traces (Cadenced cfg) a := by
  rintro trace p ⟨hrecorded, halong⟩
  obtain ⟨hsame, hvisit⟩ := h p
  obtain ⟨hnext, hnotes⟩ := hrecorded.visit cfg hsame hvisit
  exact ⟨hnext, List.along_append.mpr ⟨halong, hnotes⟩⟩

/-- Outputs change nothing when the states of the devices stay. -/
theorem cadenced_outputs {a : PublisherAct F}
    (h : ∀ p, (a.state p).deviceStatuses = p.deviceStatuses) :
    Act.Traces (Cadenced cfg) (a.map .output) := by
  rintro trace p ⟨⟨hpublished, hstatuses⟩, halong⟩
  refine ⟨⟨fun key => ?_, fun key => ?_⟩, List.along_append.mpr ⟨halong, along_outputs cfg _ _⟩⟩
  · rw [Act.events_map, executions_append, executions_outputs, List.append_nil, hpublished, Act.state_map,
      lastPublished, lastPublished, h]
  · rw [Act.events_map, changes_append, changes_outputs, List.append_nil, hstatuses, Act.state_map, statusOf,
      statusOf, h]

theorem deviceStatuses_publishSystemHeartbeats (sink : Sink F) (now : Datetime) (p : SinkPublisher F) :
    ((publishSystemHeartbeats cfg sink now).state p).deviceStatuses = p.deviceStatuses := by
  refine Act.Keeps.forEach (I := fun q => q.deviceStatuses = p.deviceStatuses) (fun route _ q hq => ?_) p rfl
  unfold publishSystemHeartbeat
  split
  · exact hq
  · rw [Act.state_look]
    split
    · exact hq
    · exact hq

omit [PyRuntime F] in
theorem state_publishSnapshots (sink : Sink F) (now : Datetime) (p : SinkPublisher F) :
    (Act.forEach (publishSnapshot cfg sink now) p.latest.values).state p = p := by
  refine (Act.events_forEach_of_pure _ fun snapshot hsnapshot => ?_).1
  exact (publishSnapshot_law cfg sink p hsnapshot).1

theorem cadenced_call (c : Call F) : Act.Traces (Cadenced cfg) (notedCall cfg c) := by
  cases c with
  | publishOnce result now sink =>
    rw [notedCall, notedPublishResult]
    split
    · exact (cadenced_outputs cfg fun _ => rfl).seq
        (visits_setDeviceStatus cfg sink _ _ _ _ _ _).cadenced
    · refine Act.Traces.seq ?_ ((cadenced_outputs cfg fun _ => rfl).seq
        (visits_setDeviceStatus cfg sink _ _ _ _ _ _).cadenced)
      rintro trace p ⟨⟨hpublished, hstatuses⟩, halong⟩
      rw [Act.events_modify, List.append_nil]
      exact ⟨⟨hpublished, hstatuses⟩, halong⟩
  | publishCached now sink =>
    rw [notedCall, notedPublishCached]
    refine Act.Traces.seq ?_ (cadenced_outputs cfg fun p => ?_)
    · rw [notedRefreshStaleStatuses]
      split
      · exact Act.traces_skip
      · exact Act.Traces.look fun p => .forEach fun snapshot _ =>
          (visits_refreshStaleSnapshot cfg sink now snapshot).cadenced
    · rw [Act.state_seq, Act.state_look, state_publishSnapshots]
      exact deviceStatuses_publishSystemHeartbeats cfg sink now p

/-- The outputs of a run with the notes between them. -/
def trace (routes : List (OutputRoute F)) (calls : List (Call F)) : List (Note F) :=
  (Act.forEach (notedCall cfg) calls).events (fresh routes)

theorem trace_erased (routes : List (OutputRoute F)) (calls : List (Call F)) :
    (Act.forEach (notedCall cfg) calls).state (fresh routes) = after cfg routes calls ∧
      (trace cfg routes calls).filterMap Note.output? = (Act.forEach (call cfg) calls).events (fresh routes) :=
  have herases := Act.Erases.forEach (erases_call cfg) calls
  ⟨herases.state _, herases.events _⟩

theorem cadenced_after (routes : List (OutputRoute F)) (calls : List (Call F)) :
    Cadenced cfg (trace cfg routes calls) (after cfg routes calls) := by
  have h : Cadenced cfg ([] ++ trace cfg routes calls) _ :=
    Act.Traces.forEach (fun c _ => cadenced_call cfg c) [] (fresh routes)
      ⟨⟨fun _ => rfl, fun _ => rfl⟩, trivial⟩
  rwa [List.nil_append, (trace_erased cfg routes calls).1] at h

-- ---------------------------------------------------------------------------
-- One call
-- ---------------------------------------------------------------------------

/-- None of the notes is about the device. -/
def Silent (key : DeviceKey) (notes : List (Note F)) : Prop :=
  executions key notes = [] ∧ changes key notes = []

omit [PyRuntime F] in
theorem silent_outputs (key : DeviceKey) (os : List (Output F)) : Silent key (os.map .output) :=
  ⟨executions_outputs key os, changes_outputs key os⟩

omit [PyRuntime F] in
theorem Silent.append {key : DeviceKey} {notes notes' : List (Note F)} (h : Silent key notes)
    (h' : Silent key notes') : Silent key (notes ++ notes') := by
  constructor
  · rw [executions_append, h.1, h'.1, List.append_nil]
  · rw [changes_append, h.2, h'.2, List.append_nil]

theorem Visit.silent {device : DeviceSpec F} {now : Datetime} {p q : SinkPublisher F}
    {notes : List (Note F)} (h : Visit cfg device now p q notes) {key : DeviceKey}
    (hk : deviceKey device ≠ key) : Silent key notes := by
  cases h with
  | quiet => exact ⟨rfl, rfl⟩
  | first => exact ⟨rfl, by simp [hk]⟩
  | heartbeat => exact ⟨by simp [hk], by simp⟩
  | announced => exact ⟨by simp [hk], by simp [hk]⟩

/-- All that is noted about the device stems from at most one visit, which ends with what `q`
has cached. -/
def VisitedOnce (key : DeviceKey) (now : Datetime) (q : SinkPublisher F) (notes : List (Note F)) : Prop :=
  Silent key notes ∨ ∃ before visit later device p r, notes = before ++ visit ++ later ∧
    Silent key before ∧ Silent key later ∧ deviceKey device = key ∧ r.latest = q.latest ∧
    Visit cfg device now p r visit

variable {key : DeviceKey} {now : Datetime} {p q r : SinkPublisher F} {notes others : List (Note F)}

theorem VisitedOnce.after_silent (h : VisitedOnce cfg key now q notes) (hothers : Silent key others) :
    VisitedOnce cfg key now q (others ++ notes) := by
  rcases h with hsilent | ⟨before, visit, later, device, p, r, rfl, hbefore, hrest⟩
  · exact .inl (hothers.append hsilent)
  · refine .inr ⟨others ++ before, visit, later, device, p, r, ?_, hothers.append hbefore, hrest⟩
    rw [List.append_assoc, List.append_assoc, List.append_assoc]

theorem VisitedOnce.before_silent (h : VisitedOnce cfg key now q notes) (hothers : Silent key others)
    (hlatest : r.latest = q.latest) : VisitedOnce cfg key now r (notes ++ others) := by
  rcases h with hsilent | ⟨before, visit, later, device, p, s, rfl, hbefore, hlater, hkey, hcached, hvisit⟩
  · exact .inl (hsilent.append hothers)
  · refine .inr ⟨before, visit, later ++ others, device, p, s, ?_, hbefore, hlater.append hothers, hkey,
      hcached.trans hlatest.symm, hvisit⟩
    rw [List.append_assoc]

theorem Visits.once {device : DeviceSpec F} {a : NotedAct F} (h : Visits cfg device now a)
    (key : DeviceKey) (p : SinkPublisher F) : VisitedOnce cfg key now (a.state p) (a.events p) := by
  obtain ⟨-, hvisit⟩ := h p
  by_cases hk : deviceKey device = key
  · refine .inr ⟨[], _, [], device, p, _, ?_, ⟨rfl, rfl⟩, ⟨rfl, rfl⟩, hk, rfl, hvisit⟩
    rw [List.nil_append, List.append_nil]
  · exact .inl (hvisit.silent cfg hk)

/-- Visits of different devices visit each at most once. -/
theorem visitedOnce_forEach {f : Snapshot F → NotedAct F}
    (hf : ∀ snapshot, Visits cfg snapshot.device now (f snapshot)) {snapshots : List (Snapshot F)}
    (hn : (snapshots.map fun s => deviceKey s.device).Nodup) (p : SinkPublisher F) (key : DeviceKey) :
    let q := (Act.forEach f snapshots).state p
    q.latest = p.latest ∧ VisitedOnce cfg key now q ((Act.forEach f snapshots).events p) ∧
      (key ∉ snapshots.map (fun s => deviceKey s.device) → Silent key ((Act.forEach f snapshots).events p)) := by
  induction snapshots generalizing p with
  | nil => exact ⟨rfl, .inl ⟨rfl, rfl⟩, fun _ => ⟨rfl, rfl⟩⟩
  | cons snapshot snapshots ih =>
    obtain ⟨hnot, hn⟩ := List.nodup_cons.mp hn
    obtain ⟨hsame, hvisit⟩ := hf snapshot p
    obtain ⟨hlatest, honce, hsilent⟩ := ih hn ((f snapshot).state p)
    rw [Act.state_forEach_cons, Act.events_forEach_cons]
    refine ⟨hlatest.trans hsame.latest, ?_, fun hk => ?_⟩
    · by_cases hk : deviceKey snapshot.device = key
      · subst hk
        exact ((hf snapshot).once cfg _ p).before_silent cfg (hsilent hnot) hlatest
      · exact honce.after_silent cfg (hvisit.silent cfg hk)
    · rw [List.map_cons, List.mem_cons, not_or] at hk
      exact (hvisit.silent cfg (Ne.symm hk.1)).append (hsilent hk.2)

/-- A call visits each device at most once. -/
theorem visitedOnce_call (c : Call F) (key : DeviceKey) (p : SinkPublisher F) :
    VisitedOnce cfg key c.time ((notedCall cfg c).state p) ((notedCall cfg c).events p) := by
  cases c with
  | publishOnce result now sink =>
    rw [notedCall, notedPublishResult]
    split
    · exact ((visits_setDeviceStatus cfg sink _ _ _ _ _ _).once cfg key _).after_silent cfg
        (silent_outputs key _)
    · exact ((visits_setDeviceStatus cfg sink _ _ _ _ _ _).once cfg key _).after_silent cfg
        (silent_outputs key _)
  | publishCached now sink =>
    have hrefresh : VisitedOnce cfg key now ((notedRefreshStaleStatuses cfg sink now).state p)
        ((notedRefreshStaleStatuses cfg sink now).events p) := by
      rw [notedRefreshStaleStatuses]
      split
      · exact .inl ⟨rfl, rfl⟩
      · exact (visitedOnce_forEach cfg (visits_refreshStaleSnapshot cfg sink now) p.nodup_latest p key).2.1
    rw [notedCall, notedPublishCached, Act.events_seq]
    refine hrefresh.before_silent cfg (silent_outputs key _) ?_
    rw [Act.state_seq, Act.state_map, Act.state_seq, Act.state_look, state_publishSnapshots]
    exact (reports_publishSystemHeartbeats cfg sink now key _).sees.latest

-- ---------------------------------------------------------------------------
-- The cadence
-- ---------------------------------------------------------------------------

omit [PyRuntime F] in
theorem mem_changes {old : Option DeviceStatus} {new : DeviceStatus}
    (h : .changed key old new now ∈ notes) : new ∈ changes key notes :=
  List.mem_filterMap.mpr ⟨_, h, if_pos rfl⟩

/-- A change of a known status is followed by one publication of the device, which sends one
message for each output group; nothing else of the call is about the device. -/
def AnnouncedOnce (key : DeviceKey) (old new : DeviceStatus) (now : Datetime) (q : SinkPublisher F)
    (notes : List (Note F)) : Prop :=
  old ≠ new ∧ ∃ before updates device os later, deviceKey device = key ∧
    notes = before ++ (.changed key (some old) new now :: updates.map .output ++
      .executed device now :: os.map .output) ++ later ∧
    Silent key before ∧ Silent key later ∧ sents updates = [] ∧ StatusPerGroup q device os

omit [PyRuntime F] in
theorem StatusPerGroup.congr {device : DeviceSpec F} {os : List (Output F)} (h : StatusPerGroup p device os)
    (hlatest : p.latest = q.latest) : StatusPerGroup q device os := by
  refine ⟨h.groups.trans ?_, h.status⟩
  rw [cachedTags, cachedTags, hlatest]

theorem VisitedOnce.announced {old new : DeviceStatus} {t : Datetime}
    (h : VisitedOnce cfg key now q notes) (hchanged : .changed key (some old) new t ∈ notes) :
    AnnouncedOnce key old new t q notes := by
  have hin {notes : List (Note F)} (hsilent : Silent key notes) :
      Note.changed key (some old) new t ∉ notes := by
    intro hmem
    have hlisted := mem_changes hmem
    rw [hsilent.2] at hlisted
    cases hlisted
  rcases h with hsilent | ⟨before, visit, later, device, p, r, rfl, hbefore, hlater, rfl, hlatest, hvisit⟩
  · exact absurd hchanged (hin hsilent)
  · rw [List.mem_append, List.mem_append] at hchanged
    rcases hchanged with (hchanged | hchanged) | hchanged
    · exact absurd hchanged (hin hbefore)
    · cases hvisit with
      | quiet => cases hchanged
      | first => simp at hchanged
      | heartbeat => simp at hchanged
      | @announced status hnew hstatus hpublished updates os hupdates hos =>
        have hsame : some old = p.statusOf (deviceKey device) ∧ new = status ∧ t = now := by
          simpa using hchanged
        obtain ⟨hold, rfl, rfl⟩ := hsame
        rw [← hold] at hnew ⊢
        refine ⟨fun heq => hnew (congrArg some heq), before, updates, device, os, later, rfl, rfl, hbefore,
          hlater, hupdates, hos.congr hlatest⟩
    · exact absurd hchanged (hin hlater)

/-- How often status publications run in a run of the publisher: its trace shows the outputs and
every status; publications of a device keep the interval or announce a change; every change is
announced at once; and without an interval only changes are. -/
structure StatusCadence (routes : List (OutputRoute F)) (calls : List (Call F)) : Prop where
  outputs : (trace cfg routes calls).filterMap Note.output? =
    (Act.forEach (call cfg) calls).events (fresh routes)
  statuses : ∀ key, (changes key (trace cfg routes calls)).getLast? = (after cfg routes calls).statusOf key
  spaced : ∀ earlier first t₁ between second t₂ later,
    trace cfg routes calls = earlier ++ .executed first t₁ :: between ++ .executed second t₂ :: later →
    deviceKey second = deviceKey first → executions (deviceKey first) between = [] →
    PyRuntime.le cfg.statusPublishIntervalS (PyRuntime.totalSeconds (t₂ - t₁)) = true ∨
      ∃ (before : List (Note F)) (old new : DeviceStatus) (updates : List (Output F)), old ≠ new ∧
        between = before ++ .changed (deviceKey first) (some old) new t₂ :: updates.map .output
  announced : ∀ c key old new t,
    .changed key (some old) new t ∈ (notedCall cfg c).events (after cfg routes calls) →
    AnnouncedOnce key old new t (after cfg routes (calls ++ [c]))
      ((notedCall cfg c).events (after cfg routes calls))
  onlyChanges : PyRuntime.le cfg.statusPublishIntervalS (PyRuntime.lit 0) = true →
    ∀ earlier device t later, trace cfg routes calls = earlier ++ .executed device t :: later →
      JustChanged (deviceKey device) t earlier

omit [PyRuntime F] in
/-- A change after which only outputs come is later than any publication before them. -/
theorem changed_between {earlier between before updates : List (Note F)} {device : DeviceSpec F}
    {t : Datetime} {note : Note F} (hnote : note ≠ .executed device t)
    (hupdates : .executed device t ∉ updates)
    (h : earlier ++ .executed device t :: between = before ++ note :: updates) :
    ∃ rest, before = earlier ++ .executed device t :: rest ∧ between = rest ++ note :: updates := by
  rcases List.append_eq_append_iff.mp h with ⟨rest, rfl, hrest⟩ | ⟨rest, rfl, hrest⟩
  · cases rest with
    | nil => exact absurd (List.cons.inj hrest).1.symm hnote
    | cons x rest =>
      obtain ⟨rfl, rfl⟩ := List.cons.inj hrest
      exact ⟨rest, rfl, rfl⟩
  · cases rest with
    | nil => exact absurd (List.cons.inj hrest).1 hnote
    | cons x rest =>
      obtain ⟨-, rfl⟩ := List.cons.inj hrest
      exact absurd (List.mem_append_right rest List.mem_cons_self) hupdates

theorem status_cadence (routes : List (OutputRoute F)) (calls : List (Call F)) :
    StatusCadence cfg routes calls := by
  obtain ⟨⟨hpublished, hstatuses⟩, halong⟩ := cadenced_after cfg routes calls
  refine ⟨(trace_erased cfg routes calls).2, hstatuses, ?_, ?_, ?_⟩
  · intro earlier first t₁ between second t₂ later htrace hkey hnone
    rw [htrace] at halong
    have hearlier := (List.along_append.mp halong).1
    obtain ⟨-, hchanged | ⟨-, hdue⟩⟩ := halong.at
    · obtain ⟨before, old, new, updates, hsplit, -⟩ := hchanged
      rw [List.nil_append, hkey] at hsplit
      have hnote : Note.changed (deviceKey first) old new t₂ ≠ .executed first t₁ := nofun
      have hupdates : Note.executed first t₁ ∉ updates.map .output := by simp
      obtain ⟨rest, rfl, rfl⟩ := changed_between hnote hupdates hsplit
      have hknown : changes (deviceKey first) earlier ≠ [] := hearlier.at.1
      rw [hsplit] at hearlier
      obtain ⟨hold, hne⟩ := hearlier.at
      cases old with
      | none =>
        rw [List.nil_append, changes_append] at hold
        have hnil := List.getLast?_eq_none_iff.mp hold.symm
        exact absurd (List.append_eq_nil_iff.mp hnil).1 hknown
      | some old => exact .inr ⟨rest, old, new, updates, fun heq => hne (congrArg some heq), rfl⟩
    · refine .inl (hdue t₁ ?_)
      rw [hkey]
      simp [hnone]
  · intro c key old new t hchanged
    have honce := visitedOnce_call cfg c key (after cfg routes calls)
    rw [(erases_call cfg c).state, ← after_concat] at honce
    exact honce.announced cfg hchanged
  · intro hoff earlier device t later htrace
    rw [htrace] at halong
    obtain ⟨-, hchanged | ⟨hon, -⟩⟩ := halong.at
    · exact hchanged
    · rw [hoff] at hon
      cases hon

end Runs

end SinkPublisher

end IndustrialGateway
