import IndustrialGateway.Lib.WholeFloat
import IndustrialGateway.PublisherLaws

/-!
# The publication gate

Over every run of the publisher's calls, when a measurement or an entry that
reports a tag as on is sent. The condition is stated on the history alone: the
last result processed for the device. The invariant `Tracks` ties the stored
status to that result and to the refreshes since.
-/

namespace IndustrialGateway

namespace SinkPublisher

variable {F : Type}

-- ---------------------------------------------------------------------------
-- Histories
-- ---------------------------------------------------------------------------

/-- The result that the call consumes, when it is one of the device. -/
def Call.received (key : DeviceKey) : Call F → Option (ReadResult F × Datetime)
  | .publishOnce result now _ => if deviceKey result.device = key then some (result, now) else none
  | .publishCached _ _ => none

/-- The last result processed for the device, and when. -/
def lastReceived (key : DeviceKey) (calls : List (Call F)) : Option (ReadResult F × Datetime) :=
  (calls.filterMap (Call.received key)).getLast?

theorem lastReceived_concat (key : DeviceKey) (calls : List (Call F)) (c : Call F) :
    lastReceived key (calls ++ [c]) = (c.received key).or (lastReceived key calls) := by
  rw [lastReceived, List.filterMap_append]
  cases h : c.received key <;> simp [h, lastReceived]

def InTimeOrder (calls : List (Call F)) : Prop := (calls.map Call.time).Pairwise (· ≤ ·)

instance (calls : List (Call F)) : Decidable (InTimeOrder calls) :=
  inferInstanceAs (Decidable (List.Pairwise _ _))

theorem InTimeOrder.le {calls : List (Call F)} {c : Call F} (h : InTimeOrder (calls ++ [c])) :
    ∀ c' ∈ calls, c'.time ≤ c.time := by
  intro c' hc'
  rw [InTimeOrder, List.map_append, List.pairwise_append] at h
  exact h.2.2 _ (List.mem_map_of_mem hc') _ (by simp)

variable [PyRuntime F]

/-- The publisher after a run of calls. -/
def after (cfg : PublisherConfig F) (routes : List (OutputRoute F)) (calls : List (Call F)) :
    SinkPublisher F := Act.run (call cfg) (fresh routes) calls

theorem after_concat (cfg : PublisherConfig F) (routes : List (OutputRoute F))
    (calls : List (Call F)) (c : Call F) :
    after cfg routes (calls ++ [c]) = (call cfg c).state (after cfg routes calls) :=
  Act.run_concat _ _ _ _

/-- The last result processed for the device has no error, has a good tag or no
tags at all, and is not older than the timeout. -/
def GateOpen (cfg : PublisherConfig F) (key : DeviceKey) (calls : List (Call F)) (now : Datetime) :
    Prop :=
  ∃ result receivedAt, lastReceived key calls = some (result, receivedAt) ∧
    textTruthy result.error = false ∧
    (result.tags = [] ∨ ∃ tag ∈ result.tags, tag.isGood = true) ∧
    PyRuntime.lt (PyRuntime.totalSeconds (now - receivedAt)) cfg.staleTimeoutS = true

omit [PyRuntime F] in
theorem resultStatus_eq_good {tags : List (TagResult F)} :
    resultStatus tags = .good ↔ tags = [] ∨ ∃ tag ∈ tags, tag.isGood = true := by
  cases tags with
  | nil => simp [resultStatus]
  | cons tag tags =>
    have hbad : (tag :: tags).any TagResult.isGood = false →
        (tag :: tags).any (fun tag => !tag.isGood) = true := by
      intro h
      simp only [List.any_cons, Bool.or_eq_false_iff] at h
      simp [h.1]
    by_cases h : (tag :: tags).any TagResult.isGood = true
    · rw [resultStatus, if_pos h]
      simpa using h
    · rw [resultStatus, if_neg h, if_pos (hbad (eq_false_of_ne_true h))]
      simpa using h

-- ---------------------------------------------------------------------------
-- The invariant
-- ---------------------------------------------------------------------------

variable (cfg : PublisherConfig F)

/-- What the last result of a device says about the publisher's entries for it. -/
def DeviceTracks (calls : List (Call F)) (p : SinkPublisher F) (key : DeviceKey) :
    Option (ReadResult F × Datetime) → Prop
  | none => p.latest.get? key = none ∧ p.statusOf key = none
  | some (result, receivedAt) =>
    if textTruthy result.error then p.statusOf key = some .disconnected
    else (∃ snapshot, p.latest.get? key = some snapshot ∧ snapshot.lastReceivedAt = some receivedAt) ∧
      (p.statusOf key = some (resultStatus result.tags) ∨
        p.statusOf key = some .stale ∧ ∃ c ∈ calls,
          PyRuntime.le cfg.staleTimeoutS (PyRuntime.totalSeconds (c.time - receivedAt)) = true)

def Tracks (calls : List (Call F)) (p : SinkPublisher F) : Prop :=
  ∀ key, DeviceTracks cfg calls p key (lastReceived key calls)

/-- Entries that stay, stay tracked as the run goes on. -/
theorem DeviceTracks.mono {calls : List (Call F)} {c : Call F} {p q : SinkPublisher F}
    {key : DeviceKey} {last : Option (ReadResult F × Datetime)}
    (h : DeviceTracks cfg calls p key last) (hlatest : q.latest.get? key = p.latest.get? key)
    (hstatus : q.statusOf key = p.statusOf key) : DeviceTracks cfg (calls ++ [c]) q key last := by
  cases last with
  | none => simpa [DeviceTracks, hlatest, hstatus] using h
  | some last =>
    simp only [DeviceTracks, hlatest, hstatus] at h ⊢
    split
    · rwa [if_pos (by assumption)] at h
    · rw [if_neg (by assumption)] at h
      refine ⟨h.1, h.2.imp_right fun ⟨hs, c', hc', hle⟩ => ⟨hs, c', by simp [hc'], hle⟩⟩

theorem tracks_publishCached {calls : List (Call F)} {p : SinkPublisher F} {now : Datetime}
    {sink : Sink F} (h : Tracks cfg calls p) :
    Tracks cfg (calls ++ [.publishCached now sink]) ((publishCached cfg sink now).state p) := by
  intro key
  obtain ⟨hlatest, hstatus, -⟩ := publishCached_law cfg sink now p
  rw [lastReceived_concat]
  have hkey := h key
  simp only [Call.received, Option.none_or]
  by_cases hstale : (p.latest.get? key).any (timedOut cfg now) ∧ p.statusOf key = some .good
  · cases hs : p.latest.get? key with
    | none => simp [hs] at hstale
    | some snapshot =>
      have htimed : timedOut cfg now snapshot = true := by simpa [hs] using hstale.1
      have hnew : ((publishCached cfg sink now).state p).statusOf key = some .stale := by
        rw [hstatus, refreshed, hs]
        exact if_pos ⟨htimed, hstale.2⟩
      cases hlast : lastReceived key calls with
      | none => rw [hlast] at hkey; simp [DeviceTracks, hs] at hkey
      | some last =>
        obtain ⟨result, receivedAt⟩ := last
        rw [hlast] at hkey
        simp only [DeviceTracks] at hkey ⊢
        split at hkey
        · rw [hstale.2] at hkey; cases hkey
        · obtain ⟨⟨s, hs', ht⟩, -⟩ := hkey
          rw [hs] at hs'
          obtain rfl := Option.some.inj hs'
          rw [if_neg (by assumption)]
          refine ⟨⟨snapshot, by rw [hlatest, hs], ht⟩, .inr ⟨hnew, .publishCached now sink,
            by simp, ?_⟩⟩
          simp only [timedOut, ht, Option.any_some, Bool.and_eq_true] at htimed
          exact htimed.2
  · refine hkey.mono cfg (by rw [hlatest]) ?_
    rw [hstatus, refreshed]
    cases hs : p.latest.get? key with
    | none => rfl
    | some snapshot =>
      simp only [hs, Option.any_some] at hstale
      exact if_neg hstale

theorem tracks_publishOnce {calls : List (Call F)} {p : SinkPublisher F} {result : ReadResult F}
    {now : Datetime} {sink : Sink F} (h : Tracks cfg calls p) :
    Tracks cfg (calls ++ [.publishOnce result now sink])
      ((publishResult cfg sink result now).state p) := by
  intro key
  rw [lastReceived_concat]
  simp only [Call.received]
  by_cases hk : deviceKey result.device = key
  · subst hk
    simp only [↓reduceIte, Option.some_or, DeviceTracks]
    cases he : textTruthy result.error with
    | true =>
      obtain ⟨-, hstatus, -⟩ := publishResult_error cfg sink now p he
      simp [hstatus, withStatus]
    | false =>
      obtain ⟨hlatest, hstatus, -⟩ := publishResult_ok cfg sink now p he
      simp only [Bool.false_eq_true, ↓reduceIte]
      exact ⟨⟨_, by rw [hlatest, OrderedDict.get?_set_self], rfl⟩, .inl (by simp [hstatus, withStatus])⟩
  · simp only [hk, ↓reduceIte, Option.none_or]
    cases he : textTruthy result.error with
    | true =>
      obtain ⟨hlatest, hstatus, -⟩ := publishResult_error cfg sink now p he
      exact (h key).mono cfg (by rw [hlatest]) (by simp [hstatus, withStatus, hk])
    | false =>
      obtain ⟨hlatest, hstatus, -⟩ := publishResult_ok cfg sink now p he
      exact (h key).mono cfg (by rw [hlatest, OrderedDict.get?_set_of_ne hk])
        (by simp [hstatus, withStatus, hk])

theorem tracks_after (routes : List (OutputRoute F)) (calls : List (Call F)) :
    Tracks cfg calls (after cfg routes calls) := by
  refine Act.run_history (call cfg) (fun _ => True) (Tracks cfg) ?_ (fun _ _ h => h) ?_
    calls trivial
  · exact fun key => ⟨rfl, rfl⟩
  · intro calls c p _ h
    cases c with
    | publishOnce result now sink => exact tracks_publishOnce cfg h
    | publishCached now sink => exact tracks_publishCached cfg h

-- ---------------------------------------------------------------------------
-- The gate
-- ---------------------------------------------------------------------------

variable {cfg}

theorem le_zero_of_positive (h : PyRuntime.lt (PyRuntime.lit 0) cfg.staleTimeoutS = true) :
    PyRuntime.le cfg.staleTimeoutS (PyRuntime.lit 0) = false := by
  rw [← PyRuntime.totalSeconds_zero] at h ⊢
  exact (PyRuntime.lt_totalSeconds _ _ (PyRuntime.isNaN_of_lt _ _ h)).mp h

/-- At a time after the run, the refresh finds the device good exactly when the
gate is open. -/
theorem refreshed_eq_good {calls : List (Call F)} {p : SinkPublisher F} {key : DeviceKey}
    (htimeout : PyRuntime.lt (PyRuntime.lit 0) cfg.staleTimeoutS = true) (now : Datetime)
    (h : Tracks cfg calls p) (htime : ∀ c ∈ calls, c.time ≤ now) :
    p.refreshed cfg now key = some .good ↔ GateOpen cfg key calls now := by
  have hkey := h key
  have hnan := PyRuntime.isNaN_of_lt _ _ htimeout
  simp only [GateOpen]
  cases hlast : lastReceived key calls with
  | none =>
    rw [hlast] at hkey
    simp [refreshed, hkey.1, hkey.2]
  | some last =>
    obtain ⟨result, receivedAt⟩ := last
    rw [hlast] at hkey
    simp only [DeviceTracks] at hkey
    simp only [Option.some.injEq, Prod.mk.injEq, ← resultStatus_eq_good]
    have hexists : ∀ Q : ReadResult F → Datetime → Prop,
        (∃ r t, (result = r ∧ receivedAt = t) ∧ Q r t) ↔ Q result receivedAt := by simp
    rw [hexists fun r t => textTruthy r.error = false ∧ resultStatus r.tags = .good ∧
      PyRuntime.lt (PyRuntime.totalSeconds (now - t)) cfg.staleTimeoutS = true]
    cases he : textTruthy result.error with
    | true =>
      rw [he, if_pos rfl] at hkey
      simp only [Bool.true_eq_false, false_and, iff_false, refreshed]
      split
      · rw [hkey, if_neg (by simp)]
        simp
      · simp [hkey]
    | false =>
      rw [he, if_neg Bool.false_ne_true] at hkey
      obtain ⟨⟨snapshot, hs, ht⟩, hstatus⟩ := hkey
      have htimed : timedOut cfg now snapshot =
          PyRuntime.le cfg.staleTimeoutS (PyRuntime.totalSeconds (now - receivedAt)) := by
        simp [timedOut, ht, le_zero_of_positive htimeout]
      simp only [refreshed, hs, htimed, true_and]
      rw [PyRuntime.lt_totalSeconds _ _ hnan]
      rcases hstatus with hstatus | ⟨hstatus, c, hc, hle⟩
      · rw [hstatus]
        cases PyRuntime.le cfg.staleTimeoutS (PyRuntime.totalSeconds (now - receivedAt)) <;>
          cases resultStatus result.tags <;> simp
      · have hlater := PyRuntime.le_totalSeconds cfg.staleTimeoutS (c.time - receivedAt)
          (now - receivedAt) (Int.sub_le_sub_right (htime c hc) _) hle
        simp [hstatus, hlater]

/-- A measurement goes out for a group exactly when the gate of the device is
open and the group has a good cached tag; and every entry that reports a tag of a
device as on goes out while the gate is open, for a good cached tag. -/
theorem publication_gate (cfg : PublisherConfig F) (routes : List (OutputRoute F))
    (htimeout : PyRuntime.lt (PyRuntime.lit 0) cfg.staleTimeoutS = true)
    (calls : List (Call F)) (c : Call F) (horder : InTimeOrder (calls ++ [c])) :
    (∀ now sink, c = .publishCached now sink → ∀ key group,
      (∃ m ∈ measurements ((call cfg c).events (after cfg routes calls)),
          m.key = key ∧ m.group = group) ↔
        GateOpen cfg key calls now ∧ ∃ tag ∈ ((after cfg routes calls).cachedTags key).values,
          tagOutputGroup tag = group ∧ tag.isGood = true) ∧
    ∀ key entry, (key, entry) ∈ statusEntries ((call cfg c).events (after cfg routes calls)) →
      entry.connStatus = "on" →
        GateOpen cfg key (calls ++ [c]) c.time ∧
          ∃ tag ∈ ((after cfg routes (calls ++ [c])).cachedTags key).values,
            tag.isGood = true ∧ entry = sensorStatus "on" none c.time tag := by
  have htracks := tracks_after cfg routes calls
  constructor
  · rintro now sink rfl key group
    rw [← refreshed_eq_good htimeout now htracks horder.le]
    simp only [call]
    constructor
    · rintro ⟨m, hm, rfl, rfl⟩
      obtain ⟨hgood, hne, -⟩ := (mem_measurements_publishCached cfg sink).mp hm
      obtain ⟨tag, ht⟩ := List.exists_mem_of_ne_nil _ hne
      exact ⟨hgood, tag, mem_goodTagsOf.mp ht⟩
    · rintro ⟨hgood, tag, ht⟩
      let m : Measurement F := ⟨key, group,
        (goodTagsOf ((after cfg routes calls).cachedTags key) group).map TagResult.toPayload⟩
      exact ⟨m, (mem_measurements_publishCached cfg sink).mpr
        ⟨hgood, List.ne_nil_of_mem (mem_goodTagsOf.mpr ht), rfl⟩, rfl, rfl⟩
  · intro key entry hm hon
    rw [after_concat]
    cases c with
    | publishCached now sink =>
      obtain ⟨hlatest, hstatus, -, honly⟩ := publishCached_law cfg sink now
        (after cfg routes calls)
      obtain ⟨hgood, snapshot, tag, hs, ht, hg, he⟩ := honly key entry hm hon
      have hopen := (refreshed_eq_good htimeout now htracks horder.le).mp hgood
      refine ⟨?_, tag, mem_cachedTags.mpr ⟨snapshot, by rw [call, hlatest, hs], ht⟩, hg, he⟩
      simpa [GateOpen, lastReceived_concat, Call.received, Call.time] using hopen
    | publishOnce result now sink =>
      cases herr : textTruthy result.error with
      | true =>
        obtain ⟨-, -, -, habout, honly⟩ := publishResult_error cfg sink now
          (after cfg routes calls) herr
        obtain rfl := habout _ hm
        simpa [withStatus] using (honly _ _ hm hon).1
      | false =>
        obtain ⟨-, -, -, habout, honly⟩ := publishResult_ok cfg sink now
          (after cfg routes calls) herr
        obtain rfl := habout _ hm
        obtain ⟨hgood, snapshot, tag, hs, ht, hg, he⟩ := honly _ _ hm hon
        refine ⟨?_, tag, mem_cachedTags.mpr ⟨snapshot, hs, ht⟩, hg, he⟩
        have hstatus : resultStatus result.tags = .good := by simpa [withStatus] using hgood
        refine ⟨result, now, by simp [lastReceived_concat, Call.received], herr,
          resultStatus_eq_good.mp hstatus, ?_⟩
        rw [Call.time, Int.sub_self, PyRuntime.totalSeconds_zero]
        exact htimeout

/-- A device that was read a second ago. -/
theorem publication_gate_recent :
    let device : DeviceSpec WholeFloat := ⟨some 1, "d", "modbus_tcp", true, 1000, "", ∅⟩
    let tag : TagResult WholeFloat := ⟨"t", 0, .int 7, .good, none, 0, none, "g"⟩
    let cfg : PublisherConfig WholeFloat := ⟨{}, "mqtt", ⟨15⟩, ⟨60⟩⟩
    let calls : List (Call WholeFloat) := [.publishOnce ⟨device, 0, [tag], none⟩ 0 fun _ => none]
    ∃ m ∈ measurements ((call cfg (.publishCached 1000000 fun _ => none)).events
      (after cfg [] calls)), m.key = deviceKey device ∧ m.group = some "g" := by
  intro device tag cfg calls
  have h := publication_gate cfg [] (by decide) calls (.publishCached 1000000 fun _ => none)
    (by decide)
  refine (h.1 _ _ rfl (deviceKey device) (some "g")).mpr ⟨⟨_, _, rfl, by decide, ?_, by decide⟩, tag, ?_⟩
  · exact .inr ⟨tag, by simp, by decide⟩
  · decide

end SinkPublisher

end IndustrialGateway
