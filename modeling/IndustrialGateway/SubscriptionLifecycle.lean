import IndustrialGateway.Workers

/-!
# The life of a subscription driver

`run` of the subscription worker makes a driver in each of its attempts. Whatever
the driver's calls raise, it closes this driver before it makes the next one, and
it reports the exception that ended the attempt.
-/

namespace IndustrialGateway

variable {F : Type}

-- ---------------------------------------------------------------------------
-- Calls on a driver
-- ---------------------------------------------------------------------------

def WorkerEvent.call? : WorkerEvent F → Option DriverCall
  | .driver c => some c
  | _ => none

def driverCalls (es : List (WorkerEvent F)) : List DriverCall := es.filterMap WorkerEvent.call?

@[simp] theorem driverCalls_append (es es' : List (WorkerEvent F)) :
    driverCalls (es ++ es') = driverCalls es ++ driverCalls es' := List.filterMap_append

@[simp] theorem driverCalls_nil : driverCalls ([] : List (WorkerEvent F)) = [] := rfl

@[simp] theorem driverCalls_driver (c : DriverCall) (es : List (WorkerEvent F)) :
    driverCalls (.driver c :: es) = c :: driverCalls es := rfl

@[simp] theorem driverCalls_log (device : DeviceSpec F) (level message : String)
    (data : List (String × PyValue F)) (es : List (WorkerEvent F)) :
    driverCalls (driverLog device level message data :: es) = driverCalls es := rfl

/-- The last call on a driver parts the events. -/
theorem driverCalls_eq_concat {es : List (WorkerEvent F)} {cs : List DriverCall} {c : DriverCall}
    (h : driverCalls es = cs ++ [c]) :
    ∃ pre post, es = pre ++ .driver c :: post ∧ driverCalls pre = cs ∧ driverCalls post = [] := by
  obtain ⟨pre, rest, rfl, hpre, hrest⟩ := List.filterMap_eq_append_iff.mp h
  obtain ⟨quiet, e, post, rfl, hquiet, he, hpost⟩ := List.filterMap_eq_cons_iff.mp hrest
  have hcall : e = .driver c := by
    cases e with
    | driver c' => exact congrArg WorkerEvent.driver (Option.some.inj he)
    | put r => cases he
    | status e => cases he
    | log r => cases he
  have hnone : driverCalls quiet = [] := List.filterMap_eq_nil_iff.mpr hquiet
  refine ⟨pre ++ quiet, post, ?_, ?_, hpost⟩
  · rw [hcall, List.append_assoc]
  · rw [driverCalls_append, hnone, List.append_nil]
    exact hpre

@[simp] theorem puts_nil : puts ([] : List (WorkerEvent F)) = [] := rfl

@[simp] theorem puts_driver (c : DriverCall) (es : List (WorkerEvent F)) :
    puts (.driver c :: es) = puts es := rfl

@[simp] theorem puts_log (device : DeviceSpec F) (level message : String)
    (data : List (String × PyValue F)) (es : List (WorkerEvent F)) :
    puts (driverLog device level message data :: es) = puts es := rfl

/-- `start_subscription` returned. -/
def Attempt.subscribed (a : Attempt F) : Bool :=
  a.factory.isNone && a.connect.isNone && a.start.raised.isNone

namespace OpcUaSubscriptionWorker

variable (w : OpcUaSubscriptionWorker F) (a : Attempt F)

theorem driverCalls_emitResult (result : ReadResult F) : driverCalls (w.emitResult result) = [] := by
  unfold emitResult
  split <;> rfl

theorem puts_emitResult (result : ReadResult F) : puts (w.emitResult result) = [result] := by
  unfold emitResult
  split <;> rfl

@[simp] theorem driverCalls_driverStep (c : DriverCall) (s : DriverStep F) :
    driverCalls (w.driverStep c s) = [c] := by
  rw [driverStep, driverCalls_driver]
  induction s.emitted with
  | nil => rfl
  | cons result results ih =>
    rw [List.flatMap_cons, driverCalls_append, driverCalls_emitResult, List.nil_append, ih]

@[simp] theorem puts_driverStep (c : DriverCall) (s : DriverStep F) :
    puts (w.driverStep c s) = s.emitted := by
  rw [driverStep, puts_driver]
  induction s.emitted with
  | nil => rfl
  | cons result results ih => rw [List.flatMap_cons, puts_append, puts_emitResult, ih]; rfl

-- ---------------------------------------------------------------------------
-- Start and cleanup
-- ---------------------------------------------------------------------------

/-- The results that the driver hands over while the subscription starts. -/
def startEmitted : List (ReadResult F) :=
  if a.factory.isNone && a.connect.isNone then a.start.emitted else []

/-- The calls of a start that got a driver. -/
theorem driverCalls_startOnce (h : a.factory = none) :
    ∃ calls, driverCalls (w.startOnce a).events = .create :: calls ∧
      ∀ c ∈ calls, c = .connect ∨ c = .startSubscription := by
  unfold startOnce
  rw [h]
  cases hconnect : a.connect with
  | some exc => exact ⟨[.connect], rfl, by simp⟩
  | none =>
    refine ⟨[.connect, .startSubscription], ?_, by simp⟩
    cases hstart : a.start.raised <;> simp

theorem puts_startOnce : puts (w.startOnce a).events = startEmitted a := by
  unfold startOnce startEmitted
  cases a.factory with
  | some exc => rfl
  | none =>
    cases a.connect with
    | some exc => rfl
    | none => cases hstart : a.start.raised <;> simp

theorem startOnce_flags : (w.startOnce a).created = a.factory.isNone ∧
    (w.startOnce a).subscribed = a.subscribed ∧
    (w.startOnce a).raised.isNone = a.subscribed := by
  unfold startOnce Attempt.subscribed
  cases a.factory with
  | some exc => exact ⟨rfl, rfl, rfl⟩
  | none =>
    cases a.connect with
    | some exc => exact ⟨rfl, rfl, rfl⟩
    | none => cases h : a.start.raised <;> exact ⟨rfl, rfl, rfl⟩

/-- The results that the driver hands over while it is closed. -/
def cleanupEmitted : List (ReadResult F) :=
  (if a.subscribed then a.stopSubscription.emitted else []) ++
    if a.factory.isNone then a.disconnect.emitted else []

theorem driverCalls_cleanupDriver :
    driverCalls (w.cleanupDriver a true a.subscribed) =
      (if a.subscribed then [.stopSubscription] else []) ++ [.disconnect] := by
  unfold cleanupDriver
  cases a.subscribed with
  | false =>
    simp only [Bool.not_true, Bool.false_eq_true, if_false, driverCalls_append,
      driverCalls_driverStep]
    split <;> rfl
  | true =>
    simp only [Bool.not_true, Bool.false_eq_true, if_false, if_true, driverCalls_append,
      driverCalls_driverStep]
    split <;> split <;> rfl

theorem puts_cleanupDriver :
    puts (w.cleanupDriver a a.factory.isNone a.subscribed) = cleanupEmitted a := by
  unfold cleanupDriver cleanupEmitted
  cases hfactory : a.factory.isNone with
  | false =>
    have hsubscribed : a.subscribed = false := by rw [Attempt.subscribed, hfactory]; rfl
    rw [hsubscribed]
    rfl
  | true =>
    cases a.subscribed with
    | false =>
      simp only [Bool.not_true, Bool.false_eq_true, if_false, if_true, puts_append, puts_driverStep]
      split <;> simp
    | true =>
      simp only [Bool.not_true, Bool.false_eq_true, if_false, if_true, puts_append, puts_driverStep]
      split <;> split <;> simp

-- ---------------------------------------------------------------------------
-- The loop of a running subscription
-- ---------------------------------------------------------------------------

section

variable [PyRuntime F]

/-- The rounds up to the first that fails. -/
def performed (lastHealthCheck : F) : List (Round F) → List (Round F)
  | [] => []
  | round :: rounds =>
    let checked := checkServerStatus w.device w.healthIntervalS lastHealthCheck round.health
    round :: if round.run.raised.isSome || checked.raised.isSome then []
      else performed checked.lastHealthCheck rounds

/-- The results that the driver hands over while the subscription runs. -/
def loopEmitted : List (ReadResult F) :=
  if a.subscribed then (w.performed w.lastHealthCheck a.rounds).flatMap fun round => round.run.emitted
  else []

theorem driverCalls_checkServerStatus (last : F) (env : HealthEnv F) :
    ∀ c ∈ driverCalls (checkServerStatus w.device w.healthIntervalS last env).events,
      c = .readServerStatus := by
  unfold checkServerStatus
  split
  · exact fun c hc => nomatch hc
  · split
    · exact fun c hc => nomatch hc
    · exact fun c hc => List.mem_singleton.mp hc
    · exact fun c hc => List.mem_singleton.mp hc

theorem driverCalls_runRounds (last : F) (rounds : List (Round F)) :
    ∀ c ∈ driverCalls (w.runRounds last rounds).events,
      c = .runSubscriptionOnce ∨ c = .readServerStatus := by
  induction rounds generalizing last with
  | nil => exact fun c hc => nomatch hc
  | cons round rounds ih =>
    intro c hc
    have hcheck := w.driverCalls_checkServerStatus last round.health c
    simp only [runRounds] at hc
    cases hrun : round.run.raised with
    | some exc =>
      rw [hrun] at hc
      simp only [driverCalls_driverStep, List.mem_singleton] at hc
      exact .inl hc
    | none =>
      rw [hrun] at hc
      simp only [] at hc
      split at hc
      · simp only [driverCalls_append, driverCalls_driverStep, List.mem_append,
          List.mem_singleton] at hc
        exact hc.imp_right hcheck
      · simp only [driverCalls_append, driverCalls_driverStep, List.mem_append,
          List.mem_singleton] at hc
        rcases hc with (hc | hc) | hc
        · exact .inl hc
        · exact .inr (hcheck hc)
        · exact ih _ c hc

theorem puts_runRounds (last : F) (rounds : List (Round F)) :
    puts (w.runRounds last rounds).events =
      (w.performed last rounds).flatMap fun round => round.run.emitted := by
  induction rounds generalizing last with
  | nil => rfl
  | cons round rounds ih =>
    simp only [runRounds, performed]
    cases hrun : round.run.raised with
    | some exc => simp
    | none =>
      cases hcheck : (checkServerStatus w.device w.healthIntervalS last round.health).raised with
      | some exc => simp [puts_checkServerStatus]
      | none => simp [puts_checkServerStatus, ih]

-- ---------------------------------------------------------------------------
-- Attempts
-- ---------------------------------------------------------------------------

theorem retryOrStop_spec : driverCalls (w.retryOrStop a).1 = [] ∧ puts (w.retryOrStop a).1 = [] := by
  unfold retryOrStop
  split
  · exact ⟨rfl, rfl⟩
  · split <;> exact ⟨rfl, rfl⟩

/-- The parts of an attempt: the start, the loop with the report of a failure, the
cleanup, and what is logged after it. -/
theorem attempt_parts : ∃ middle last,
    (w.attempt a).2.1 = (w.startOnce a).events ++ middle ++
      w.cleanupDriver a a.factory.isNone a.subscribed ++ last ∧
    (∀ c ∈ driverCalls middle, c = .runSubscriptionOnce ∨ c = .readServerStatus) ∧
    puts middle = w.loopEmitted a ++
      (w.raised a).toList.map (failureResult w.device a.failedAt) ∧
    driverCalls last = [] ∧ puts last = [] := by
  obtain ⟨hcreated, hsubscribed, hraised⟩ := w.startOnce_flags a
  simp only [attempt, hcreated, hsubscribed, loopEmitted, raised]
  cases hstart : (w.startOnce a).raised with
  | some exc =>
    have hsubscribed : a.subscribed = false := by rw [← hraised, hstart]; rfl
    obtain ⟨hcalls, hputs⟩ := w.retryOrStop_spec a
    simp only [hsubscribed]
    cases subscriptionConnectionData w.device with
    | error exc' =>
      refine ⟨w.reportFailure a exc, [], ?_, (fun c hc => absurd hc List.not_mem_nil), rfl, rfl, rfl⟩
      simp only [List.append_nil]
    | ok data =>
      refine ⟨w.reportFailure a exc ++ [driverLog w.device "ERROR" "subscription start failed"
        (("device", .str w.device.name) :: data ++ exceptionData exc)], (w.retryOrStop a).1, ?_,
        (fun c hc => absurd hc List.not_mem_nil), rfl, hcalls, hputs⟩
      simp only [List.append_assoc]
  | none =>
    have hsubscribed : a.subscribed = true := by rw [← hraised, hstart]; rfl
    have hloop := w.driverCalls_runRounds w.lastHealthCheck a.rounds
    simp only [hsubscribed, if_true, ← puts_runRounds]
    cases hlooped : (w.runRounds w.lastHealthCheck a.rounds).raised with
    | some exc =>
      obtain ⟨hcalls, hputs⟩ := retryOrStop_spec { w with
        lastHealthCheck := (w.runRounds w.lastHealthCheck a.rounds).lastHealthCheck } a
      refine ⟨(w.runRounds w.lastHealthCheck a.rounds).events ++ (w.reportFailure a exc ++
        [driverLog w.device "ERROR" "subscription failed"
          (("device", .str w.device.name) :: exceptionData exc)]), _, ?_, ?_, ?_, hcalls, hputs⟩
      · simp only [List.append_assoc]
        rfl
      · intro c hc
        rw [driverCalls_append] at hc
        exact hloop c ((List.mem_append.mp hc).resolve_right List.not_mem_nil)
      · rw [puts_append]
        rfl
    | none =>
      refine ⟨(w.runRounds w.lastHealthCheck a.rounds).events, [], ?_, hloop, ?_, rfl, rfl⟩
      · simp only [List.append_nil]
      · exact (List.append_nil _).symm

/-- An attempt that gets a driver closes it with its last call, after it has ended
the subscription if there was one. -/
theorem driverCalls_attempt (h : a.factory = none) : ∃ calls,
    driverCalls (w.attempt a).2.1 = .create :: calls ++
      (if a.subscribed then [.stopSubscription] else []) ++ [.disconnect] ∧
    ∀ c ∈ calls, c ≠ .create ∧ c ≠ .stopSubscription ∧ c ≠ .disconnect := by
  obtain ⟨middle, last, hevents, hmiddle, -, hlast, -⟩ := w.attempt_parts a
  obtain ⟨calls, hstart, hcalls⟩ := w.driverCalls_startOnce a h
  refine ⟨calls ++ driverCalls middle, ?_, ?_⟩
  · have hfactory : a.factory.isNone = true := by rw [h]; rfl
    rw [hevents, hfactory]
    simp only [driverCalls_append, hstart, hlast, w.driverCalls_cleanupDriver a]
    simp
  · intro c hc
    rcases List.mem_append.mp hc with hc | hc
    · rcases hcalls c hc with rfl | rfl <;> decide
    · rcases hmiddle c hc with rfl | rfl <;> decide

/-- An attempt puts the results of its driver, and the failure that ended it. -/
theorem puts_attempt : puts (w.attempt a).2.1 = startEmitted a ++ w.loopEmitted a ++
    (w.raised a).toList.map (failureResult w.device a.failedAt) ++ cleanupEmitted a := by
  obtain ⟨middle, last, hevents, -, hmiddle, -, hlast⟩ := w.attempt_parts a
  rw [hevents]
  simp only [puts_append, puts_startOnce, hmiddle, puts_cleanupDriver, hlast, List.append_nil,
    List.append_assoc]

-- ---------------------------------------------------------------------------
-- Runs
-- ---------------------------------------------------------------------------

/-- The attempts that `run` makes, each with the worker at its beginning. -/
def attempts (w : OpcUaSubscriptionWorker F) :
    List (Attempt F) → List (OpcUaSubscriptionWorker F × Attempt F)
  | [] => []
  | a :: as => (w, a) :: if (w.attempt a).2.2 = .retry then (w.attempt a).1.attempts as else []

def numbered (n : Nat) :
    List (OpcUaSubscriptionWorker F × Attempt F) → List (Nat × WorkerEvent F)
  | [] => []
  | (w, a) :: rest => (w.attempt a).2.1.map (n, ·) ++ numbered (n + 1) rest

/-- The events of `run`, each with the number of its attempt. The driver instance of
an attempt has the attempt's number. -/
def trace (as : List (Attempt F)) : List (Nat × WorkerEvent F) := numbered 0 (w.attempts as)

theorem map_snd_trace (as : List (Attempt F)) : (w.trace as).map Prod.snd = w.run as := by
  have hnumbered : ∀ n, (numbered n (w.attempts as)).map Prod.snd = w.run as := by
    intro n
    induction as generalizing w n with
    | nil => rfl
    | cons a as ih =>
      simp only [attempts, numbered, run, List.map_append, List.map_map]
      congr 1
      · exact List.map_id _
      · split
        · exact ih _ _
        · rfl
  exact hnumbered 0

omit [PyRuntime F] in
/-- The calls on instance `i`. -/
def callsOf (i : Nat) (t : List (Nat × WorkerEvent F)) : List DriverCall :=
  driverCalls ((t.filter fun e => e.1 = i).map Prod.snd)

omit [PyRuntime F] in
theorem callsOf_append (i : Nat) (t t' : List (Nat × WorkerEvent F)) :
    callsOf i (t ++ t') = callsOf i t ++ callsOf i t' := by
  simp [callsOf]

omit [PyRuntime F] in
theorem callsOf_self (i : Nat) (es : List (WorkerEvent F)) :
    callsOf i (es.map (i, ·)) = driverCalls es := by
  simp [callsOf, List.filter_map, Function.comp_def]

omit [PyRuntime F] in
theorem callsOf_other {i : Nat} {t : List (Nat × WorkerEvent F)} (h : ∀ e ∈ t, e.1 ≠ i) :
    callsOf i t = [] := by
  have hnone : (t.filter fun e => e.1 = i) = [] :=
    List.filter_eq_nil_iff.mpr fun e he => by simpa using h e he
  rw [callsOf, hnone]
  rfl

/-- The events of an attempt stand together, those of earlier attempts before them
and those of later ones after them. -/
theorem numbered_split {n i : Nat} {l : List (OpcUaSubscriptionWorker F × Attempt F)}
    (h : l[i]? = some (w, a)) : ∃ before after,
      numbered n l = before ++ (w.attempt a).2.1.map (n + i, ·) ++ after ∧
        (∀ e ∈ before, e.1 < n + i) ∧ ∀ e ∈ after, n + i < e.1 := by
  have hfrom : ∀ (l : List (OpcUaSubscriptionWorker F × Attempt F)) n, ∀ e ∈ numbered n l, n ≤ e.1 := by
    intro l
    induction l with
    | nil => exact fun n e he => nomatch he
    | cons p rest ih =>
      intro n e he
      rcases List.mem_append.mp he with he | he
      · obtain ⟨e', -, rfl⟩ := List.mem_map.mp he
        exact Nat.le_refl n
      · exact Nat.le_of_succ_le (ih (n + 1) e he)
  induction l generalizing n i with
  | nil => cases h
  | cons p rest ih =>
    obtain ⟨w', a'⟩ := p
    cases i with
    | zero =>
      cases h
      exact ⟨[], numbered (n + 1) rest, rfl, (fun e he => nomatch he), hfrom rest (n + 1)⟩
    | succ i =>
      obtain ⟨before, after, hnumbered, hbefore, hafter⟩ := ih h (n := n + 1)
      have hn : n + 1 + i = n + (i + 1) := by omega
      rw [hn] at hnumbered hbefore hafter
      refine ⟨(w'.attempt a').2.1.map (n, ·) ++ before, after, ?_, ?_, hafter⟩
      · rw [numbered, hnumbered]
        simp only [List.append_assoc]
      · intro e he
        rcases List.mem_append.mp he with he | he
        · obtain ⟨e', -, rfl⟩ := List.mem_map.mp he
          exact Nat.lt_add_of_pos_right i.succ_pos
        · exact hbefore e he

-- ---------------------------------------------------------------------------
-- The law
-- ---------------------------------------------------------------------------

omit [PyRuntime F] in
/-- Instance `i` is disconnected once, after its subscription was stopped if it had
one, and before a later instance sees a call. -/
def Closed (t : List (Nat × WorkerEvent F)) (i : Nat) (subscribed : Bool) : Prop :=
  ∃ before after, t = before ++ (i, .driver .disconnect) :: after ∧ (∀ e ∈ before, e.1 ≤ i) ∧
    .disconnect ∉ callsOf i before ∧
    (callsOf i before).count .stopSubscription = (if subscribed then 1 else 0) ∧
    callsOf i after = []

/-- By the end of `t`, instance `i` was made and not disconnected. -/
def Undisconnected (as : List (Attempt F)) (t : List (Nat × WorkerEvent F)) (i : Nat) : Prop :=
  (∃ w' a, (w.attempts as)[i]? = some (w', a) ∧ a.factory = none) ∧
    .create ∈ callsOf i t ∧ .disconnect ∉ callsOf i t

theorem closed_trace {as : List (Attempt F)} {i : Nat} {w' : OpcUaSubscriptionWorker F}
    {a : Attempt F} (hi : (w.attempts as)[i]? = some (w', a)) (h : a.factory = none) :
    Closed (w.trace as) i a.subscribed := by
  obtain ⟨before, after, htrace, hbefore, hafter⟩ := numbered_split w' a (n := 0) hi
  rw [Nat.zero_add] at htrace hbefore hafter
  obtain ⟨calls, hcalls, hother⟩ := w'.driverCalls_attempt a h
  obtain ⟨pre, post, hevents, hpre, hpost⟩ := driverCalls_eq_concat hcalls
  have hbefore_none : callsOf i before = [] := callsOf_other fun e he => (hbefore e he).ne
  have hafter_none : callsOf i after = [] := callsOf_other fun e he => (hafter e he).ne'
  refine ⟨before ++ pre.map (i, ·), post.map (i, ·) ++ after, ?_, ?_, ?_, ?_, ?_⟩
  · rw [trace, htrace, hevents]
    simp only [List.map_append, List.map_cons, List.append_assoc, List.cons_append]
  · intro e he
    rcases List.mem_append.mp he with he | he
    · exact (hbefore e he).le
    · obtain ⟨e', -, rfl⟩ := List.mem_map.mp he
      exact Nat.le_refl i
  · rw [callsOf_append, hbefore_none, callsOf_self, hpre, List.nil_append]
    intro hmem
    rcases List.mem_append.mp hmem with hmem | hmem
    · rcases List.mem_cons.mp hmem with hmem | hmem
      · cases hmem
      · exact (hother _ hmem).2.2 rfl
    · split at hmem
      · cases List.mem_singleton.mp hmem
      · cases hmem
  · have hcount : calls.count .stopSubscription = 0 :=
      List.count_eq_zero.mpr fun hmem => (hother _ hmem).2.1 rfl
    rw [callsOf_append, hbefore_none, callsOf_self, hpre, List.nil_append, List.count_append,
      List.count_cons_of_ne (by decide), hcount, Nat.zero_add]
    split <;> rfl
  · rw [callsOf_append, callsOf_self, hpost, hafter_none]
    rfl

omit [PyRuntime F] in
theorem mem_callsOf {i : Nat} {c : DriverCall} {t : List (Nat × WorkerEvent F)} :
    c ∈ callsOf i t ↔ (i, .driver c) ∈ t := by
  simp only [callsOf, driverCalls, List.mem_filterMap, List.mem_map, List.mem_filter,
    decide_eq_true_eq]
  constructor
  · rintro ⟨e, ⟨⟨j, e⟩, ⟨hmem, rfl⟩, rfl⟩, he⟩
    cases e with
    | driver c' =>
      cases he
      exact hmem
    | put r => cases he
    | status e => cases he
    | log r => cases he
  · intro hmem
    exact ⟨.driver c, ⟨(i, .driver c), ⟨hmem, rfl⟩, rfl⟩, rfl⟩

/-- An instance was disconnected before a later one sees its first call. -/
theorem not_undisconnected_of_lt {as : List (Attempt F)} {t : List (Nat × WorkerEvent F)}
    (ht : t <+: w.trace as) {i j : Nat} (hij : i < j) (hi : w.Undisconnected as t i)
    (hj : w.Undisconnected as t j) : False := by
  obtain ⟨⟨w', a, hattempt, hfactory⟩, -, hopen⟩ := hi
  obtain ⟨before, after, htrace, hbefore, -⟩ := w.closed_trace hattempt hfactory
  have hcreate := mem_callsOf.mp hj.2.1
  have hdisconnect : before ++ [(i, .driver .disconnect)] <+: w.trace as :=
    ⟨after, by rw [htrace, List.append_assoc]; rfl⟩
  rcases List.prefix_or_prefix_of_prefix ht hdisconnect with hshort | hlong
  · rcases List.mem_append.mp (hshort.subset hcreate) with hmem | hmem
    · exact absurd (hbefore _ hmem) (Nat.not_le_of_lt hij)
    · cases List.mem_singleton.mp hmem
  · exact hopen (mem_callsOf.mpr (hlong.subset (List.mem_append_right _ (List.mem_singleton_self _))))

/-- Whatever the driver raises, each instance is disconnected once and before the
next one, its subscription is stopped once if it was started and never otherwise,
at most one instance is open, and an attempt puts one failure if it ended by an
exception and none otherwise. -/
theorem driver_lifecycle (as : List (Attempt F)) :
    (∀ i w' a, (w.attempts as)[i]? = some (w', a) →
      (a.factory = none → Closed (w.trace as) i a.subscribed) ∧
      puts (w'.attempt a).2.1 = startEmitted a ++ w'.loopEmitted a ++
        (w'.raised a).toList.map (failureResult w'.device a.failedAt) ++ cleanupEmitted a) ∧
    ∀ t, t <+: w.trace as → ∀ i j,
      w.Undisconnected as t i → w.Undisconnected as t j → i = j := by
  refine ⟨fun i w' a hi => ⟨w.closed_trace hi, w'.puts_attempt a⟩, ?_⟩
  intro t ht i j hi hj
  rcases Nat.lt_trichotomy i j with hij | rfl | hji
  · exact (w.not_undisconnected_of_lt ht hij hi hj).elim
  · rfl
  · exact (w.not_undisconnected_of_lt ht hji hj hi).elim

end

end OpcUaSubscriptionWorker

end IndustrialGateway
