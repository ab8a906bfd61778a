import IndustrialGateway.Sinks

/-!
# Transactions of the database sink

All batches of a `PostgresSink` share one connection. A rejected statement leaves
its transaction failed, and `publish_batch` never rolls back.
-/

namespace IndustrialGateway

variable {F : Type}

-- ---------------------------------------------------------------------------
-- The connection
-- ---------------------------------------------------------------------------

inductive Transaction where
  | running (pending : List Params)
  | failed
  deriving DecidableEq

/-- The database behind the connection; `verdicts` says of the statements to come
which ones the server rejects, on their own. -/
structure Database where
  committed : List Params
  transaction : Transaction := .running []
  verdicts : List (Option PyException) := []

def inFailedTransaction : PyException :=
  ⟨.other "InFailedSqlTransaction",
    "current transaction is aborted, commands ignored until end of transaction block"⟩

/-- A connection without autocommit. A failed transaction refuses statements until it
is rolled back; its `commit` ends it like a rollback, or raises `commitFailed`. -/
def psycopg (commitFailed : Option PyException) : Connection Database where
  execute _ params db :=
    match db.transaction, db.verdicts with
    | .failed, _ => (.error inFailedTransaction, db)
    | .running _, some exc :: verdicts =>
      (.error exc, { db with transaction := .failed, verdicts })
    | .running pending, verdicts =>
      (.ok (), { db with
        transaction := .running (pending ++ params.toList), verdicts := verdicts.drop 1 })
  commit db :=
    match db.transaction, commitFailed with
    | .running pending, _ =>
      (.ok (), { db with committed := db.committed ++ pending, transaction := .running [] })
    | .failed, none => (.ok (), { db with transaction := .running [] })
    | .failed, some exc => (.error exc, db)

/-- One call of `publish_batch`, with the server's verdicts on its statements. -/
structure Batch (F : Type) where
  message : BatchMessage F
  verdicts : List (Option PyException)

section

variable [PyRuntime F] (isAlnum : Char → Bool) (sink : PostgresSink F Database)

def Batch.publish (b : Batch F) (db : Database) : Except PyException Unit × Database :=
  sink.publishBatch isAlnum b.message { db with verdicts := b.verdicts }

/-- The rows that the batch inserts, unless it raises before the first statement. -/
def Batch.rows (b : Batch F) : Except PyException (List Params) := do
  let _ ← sink.tableName isAlnum
  paramsFromMessage b.message

/-- The server would accept each of the batch's statements. -/
def Batch.Acceptable (b : Batch F) (rows : List Params) : Prop :=
  b.rows isAlnum sink = .ok rows ∧ ∀ verdict ∈ b.verdicts.take rows.length, verdict = none

/-- The database after a sequence of batches. -/
def afterBatches (db : Database) (batches : List (Batch F)) : Database :=
  batches.foldl (fun db b => (b.publish isAlnum sink db).2) db

/-- The rows of the batches whose `publish_batch` returned. -/
def returnedRows (db : Database) : List (Batch F) → List Params
  | [] => []
  | b :: batches =>
    (match (b.publish isAlnum sink db).1, b.rows isAlnum sink with
      | .ok (), .ok rows => rows
      | _, _ => []) ++ returnedRows (b.publish isAlnum sink db).2 batches

/-- Only the rows of batches that returned are committed, and each batch that the
server would accept is committed in full. -/
def Isolated (db : Database) (batches : List (Batch F)) : Prop :=
  (afterBatches isAlnum sink db batches).committed =
      db.committed ++ returnedRows isAlnum sink db batches ∧
    ∀ before b after rows, batches = before ++ b :: after → b.Acceptable isAlnum sink rows →
      (afterBatches isAlnum sink db (before ++ [b])).committed =
        (afterBatches isAlnum sink db before).committed ++ rows

/-- Whether the transaction is failed after the batch: since a rejected statement no
batch without rows has ended it. -/
def Batch.aborts (commitFailed : Option PyException) (was : Bool) (b : Batch F) : Bool :=
  match b.rows isAlnum sink with
  | .error _ => was
  | .ok rows =>
    if rows.isEmpty then was && commitFailed.isSome
    else was || (b.verdicts.take rows.length).any Option.isSome

def aborted (commitFailed : Option PyException) (batches : List (Batch F)) : Bool :=
  batches.foldl (Batch.aborts isAlnum sink commitFailed) false

end

-- ---------------------------------------------------------------------------
-- One batch
-- ---------------------------------------------------------------------------

section

variable {commitFailed : Option PyException} {sql : String}

theorem insertRows_failed {rows : List Params} (hrows : rows ≠ []) {db : Database}
    (h : db.transaction = .failed) :
    PostgresSink.insertRows (psycopg commitFailed) sql rows db = (.error inFailedTransaction, db) := by
  cases rows with
  | nil => exact absurd rfl hrows
  | cons params rows =>
    rw [PostgresSink.insertRows, Fallible.bind_apply, psycopg]
    simp only [h]

/-- In a running transaction the rows go in up to the first rejected statement. -/
theorem insertRows_running (rows : List Params) {db : Database} {pending : List Params}
    (h : db.transaction = .running pending) :
    let result := PostgresSink.insertRows (psycopg commitFailed) sql rows db
    result.2.committed = db.committed ∧
      if (db.verdicts.take rows.length).any Option.isSome = true then
        (∃ exc, result.1 = .error exc) ∧ result.2.transaction = .failed
      else result.1 = .ok () ∧ result.2.transaction = .running (pending ++ rows) := by
  induction rows generalizing db pending with
  | nil =>
    refine ⟨rfl, ?_⟩
    rw [List.length_nil, List.take_zero, if_neg nofun, List.append_nil]
    exact ⟨rfl, h⟩
  | cons params rows ih =>
    obtain ⟨committed, transaction, verdicts⟩ := db
    cases h
    dsimp only
    rw [PostgresSink.insertRows, Fallible.bind_apply]
    cases verdicts with
    | nil =>
      have hrest := @ih ⟨committed, .running (pending ++ [params]), []⟩ _ rfl
      dsimp only at hrest
      rw [List.append_assoc, List.take_nil] at hrest
      rw [List.take_nil]
      exact hrest
    | cons verdict verdicts =>
      rw [List.length_cons, List.take_succ_cons, List.any_cons]
      cases verdict with
      | some exc => exact ⟨rfl, ⟨exc, rfl⟩, rfl⟩
      | none =>
        have hrest := @ih ⟨committed, .running (pending ++ [params]), verdicts⟩ _ rfl
        dsimp only at hrest
        rw [List.append_assoc] at hrest
        exact hrest

end

/-- Where a transaction stands between two batches. -/
def betweenBatches : Bool → Transaction
  | true => .failed
  | false => .running []

/-- Rows are committed together unless the transaction is failed or a statement rejected. -/
theorem insert_commit (commitFailed : Option PyException) (sql : String) {rows : List Params}
    (hrows : rows ≠ []) {db : Database} {was : Bool} (h : db.transaction = betweenBatches was) :
    let result := (do
      PostgresSink.insertRows (psycopg commitFailed) sql rows
      (psycopg commitFailed).commit : Fallible PyException Database Unit) db
    if was = true ∨ (db.verdicts.take rows.length).any Option.isSome = true then
      (∃ exc, result.1 = .error exc) ∧ result.2.committed = db.committed ∧
        result.2.transaction = .failed
    else result.1 = .ok () ∧ result.2.committed = db.committed ++ rows ∧
      result.2.transaction = .running [] := by
  dsimp only
  rw [Fallible.bind_apply]
  cases was with
  | true =>
    rw [insertRows_failed hrows h, if_pos (.inl rfl)]
    exact ⟨⟨_, rfl⟩, rfl, h⟩
  | false =>
    have hinsert := @insertRows_running commitFailed sql rows db [] h
    dsimp only at hinsert
    generalize PostgresSink.insertRows (psycopg commitFailed) sql rows db = result at hinsert ⊢
    obtain ⟨outcome, committed, transaction, verdicts⟩ := result
    obtain ⟨hcommitted, hinsert⟩ := hinsert
    split at hinsert
    · rename_i hrejected
      obtain ⟨⟨exc, rfl⟩, rfl⟩ := hinsert
      rw [if_pos (.inr hrejected)]
      exact ⟨⟨exc, rfl⟩, hcommitted, rfl⟩
    · rename_i haccepted
      obtain ⟨rfl, rfl⟩ := hinsert
      rw [if_neg (not_or.mpr ⟨nofun, haccepted⟩)]
      exact ⟨rfl, congrArg (· ++ rows) hcommitted, rfl⟩

/-- A batch without rows commits nothing, but can end a failed transaction. -/
theorem empty_commit (commitFailed : Option PyException) (sql : String) {db : Database} {was : Bool}
    (h : db.transaction = betweenBatches was) :
    let result := (do
      PostgresSink.insertRows (psycopg commitFailed) sql []
      (psycopg commitFailed).commit : Fallible PyException Database Unit) db
    result.2.committed = db.committed ∧
      result.2.transaction = betweenBatches (was && commitFailed.isSome) := by
  obtain ⟨committed, transaction, verdicts⟩ := db
  cases h
  cases was with
  | false => exact ⟨List.append_nil committed, rfl⟩
  | true => cases commitFailed <;> exact ⟨rfl, rfl⟩

variable [PyRuntime F] (isAlnum : Char → Bool) {commitFailed : Option PyException}
  {sink : PostgresSink F Database}

/-- The call raises and commits nothing, or its rows are the new committed ones. -/
theorem publish_law (hsink : sink.connection = some (psycopg commitFailed)) (b : Batch F)
    {db : Database} {was : Bool} (h : db.transaction = betweenBatches was) :
    let result := b.publish isAlnum sink db
    result.2.transaction = betweenBatches (b.aborts isAlnum sink commitFailed was) ∧
      match b.rows isAlnum sink with
      | .error exc => result.1 = .error exc ∧ result.2.committed = db.committed
      | .ok rows =>
        if rows ≠ [] ∧ (was = true ∨ (b.verdicts.take rows.length).any Option.isSome = true) then
          (∃ exc, result.1 = .error exc) ∧ result.2.committed = db.committed
        else result.2.committed = db.committed ++ rows ∧ (rows ≠ [] → result.1 = .ok ()) := by
  have hverdicts : ({ db with verdicts := b.verdicts } : Database).transaction = betweenBatches was := h
  dsimp only
  rw [Batch.publish, PostgresSink.publishBatch, hsink, Batch.aborts, Batch.rows]
  dsimp only
  cases sink.tableName isAlnum with
  | error exc => exact ⟨h, rfl, rfl⟩
  | ok table =>
    rw [Fallible.lift_ok_bind, ok_bind]
    cases paramsFromMessage b.message with
    | error exc => exact ⟨h, rfl, rfl⟩
    | ok rows =>
      rw [Fallible.lift_ok_bind]
      dsimp only
      by_cases hrows : rows = []
      · subst hrows
        obtain ⟨hcommitted, htransaction⟩ := empty_commit commitFailed (insertSql table "%s") hverdicts
        rw [if_pos List.isEmpty_nil, if_neg fun hne => hne.1 rfl, List.append_nil]
        exact ⟨htransaction, hcommitted, fun hne => absurd rfl hne⟩
      · have hlaw := insert_commit commitFailed (insertSql table "%s") hrows hverdicts
        rw [List.isEmpty_eq_false_iff.mpr hrows, if_neg Bool.false_ne_true]
        dsimp only at hlaw
        split at hlaw
        · rename_i hstopped
          rw [if_pos ⟨hrows, hstopped⟩]
          have hfailed : (was || (b.verdicts.take rows.length).any Option.isSome) = true := by
            rw [Bool.or_eq_true]
            exact hstopped
          rw [hfailed]
          exact ⟨hlaw.2.2, hlaw.1, hlaw.2.1⟩
        · rename_i hpassed
          rw [if_neg fun hboth => hpassed hboth.2]
          have hopen : (was || (b.verdicts.take rows.length).any Option.isSome) = false := by
            rw [← Bool.not_eq_true, Bool.or_eq_true]
            exact hpassed
          rw [hopen]
          exact ⟨hlaw.2.2, hlaw.2.1, fun _ => hlaw.1⟩

-- ---------------------------------------------------------------------------
-- Runs of batches
-- ---------------------------------------------------------------------------

theorem afterBatches_concat (db : Database) (batches : List (Batch F)) (b : Batch F) :
    afterBatches isAlnum sink db (batches ++ [b]) =
      (b.publish isAlnum sink (afterBatches isAlnum sink db batches)).2 := by
  rw [afterBatches, List.foldl_concat]
  rfl

/-- A run leaves the transaction as the batches' own statements say. -/
theorem transaction_afterBatches (hsink : sink.connection = some (psycopg commitFailed))
    {db : Database} (h : db.transaction = .running []) (batches : List (Batch F)) :
    (afterBatches isAlnum sink db batches).transaction =
      betweenBatches (aborted isAlnum sink commitFailed batches) := by
  induction batches using List.reverseRecOn with
  | nil => exact h
  | append_singleton batches b ih =>
    rw [afterBatches_concat, aborted, List.foldl_concat]
    exact (publish_law isAlnum hsink b ih).1

/-- Nothing but the rows of batches that returned is ever committed. -/
theorem committed_afterBatches (hsink : sink.connection = some (psycopg commitFailed))
    (batches : List (Batch F)) {db : Database} {was : Bool} (h : db.transaction = betweenBatches was) :
    (afterBatches isAlnum sink db batches).committed =
      db.committed ++ returnedRows isAlnum sink db batches := by
  induction batches generalizing db was with
  | nil => exact (List.append_nil _).symm
  | cons b batches ih =>
    obtain ⟨htransaction, hcommitted⟩ := publish_law isAlnum hsink b h
    have hrun := ih htransaction
    rw [returnedRows, ← List.append_assoc]
    refine hrun.trans (congrArg (· ++ _) ?_)
    cases hrows : b.rows isAlnum sink with
    | error exc =>
      rw [hrows] at hcommitted
      rw [hcommitted.1, hcommitted.2]
      exact (List.append_nil _).symm
    | ok rows =>
      rw [hrows] at hcommitted
      dsimp only at hcommitted
      split at hcommitted
      · obtain ⟨⟨exc, hraised⟩, hcommitted⟩ := hcommitted
        rw [hcommitted, hraised]
        exact (List.append_nil _).symm
      · rw [hcommitted.1]
        by_cases hempty : rows = []
        · subst hempty
          cases (b.publish isAlnum sink db).1 <;> rfl
        · rw [hcommitted.2 hempty]

/-- A start on a new connection leaves no transaction open. -/
theorem idle_of_start {made sink : PostgresSink F Database} {fresh db : Database}
    (hfresh : fresh.transaction = .running [])
    (h : PostgresSink.start isAlnum (fun _ => pure (psycopg commitFailed)) made fresh = (.ok sink, db)) :
    sink.connection = some (psycopg commitFailed) ∧ db.transaction = .running [] := by
  rw [PostgresSink.start, Fallible.bind_eq_ok] at h
  obtain ⟨connection, u, hconnect, h⟩ := h
  obtain ⟨rfl, rfl⟩ := Fallible.pure_eq_ok.mp hconnect
  dsimp only at h
  split at h
  · rw [Fallible.bind_eq_ok] at h
    obtain ⟨table, v, htable, h⟩ := h
    rw [Fallible.bind_eq_ok] at h
    obtain ⟨_, w, _, h⟩ := h
    rw [Fallible.bind_eq_ok] at h
    obtain ⟨_, x, hcommit, h⟩ := h
    cases h
    refine ⟨rfl, ?_⟩
    obtain ⟨committed, transaction, verdicts⟩ := w
    cases transaction with
    | running pending =>
      cases hcommit
      rfl
    | failed =>
      cases commitFailed with
      | none =>
        cases hcommit
        rfl
      | some exc => cases hcommit
  · cases h
    exact ⟨rfl, hfresh⟩

/-- An acceptable batch is committed exactly when it has no rows or the batches before it
have not left the transaction failed. -/
theorem acceptable_committed_iff (hsink : sink.connection = some (psycopg commitFailed))
    {db : Database} (h : db.transaction = .running []) (before : List (Batch F)) {b : Batch F}
    {rows : List Params} (hb : b.Acceptable isAlnum sink rows) :
    (afterBatches isAlnum sink db (before ++ [b])).committed =
        (afterBatches isAlnum sink db before).committed ++ rows ↔
      (rows ≠ [] → aborted isAlnum sink commitFailed before = false) := by
  obtain ⟨hrows, haccepted⟩ := hb
  have hbefore := transaction_afterBatches isAlnum hsink h before
  have hpublish := (publish_law isAlnum hsink b hbefore).2
  rw [hrows] at hpublish
  dsimp only at hpublish
  rw [afterBatches_concat]
  have hnone : (b.verdicts.take rows.length).any Option.isSome = false := by
    rw [List.any_eq_false]
    intro verdict hverdict
    rw [haccepted verdict hverdict]
    exact nofun
  rw [hnone] at hpublish
  split at hpublish
  · rename_i hstopped
    obtain ⟨hne, haborted | hnever⟩ := hstopped
    · rw [hpublish.2, haborted]
      constructor
      · intro hsame
        exact absurd (List.self_eq_append_right.mp hsame) hne
      · intro himpossible
        cases himpossible hne
    · cases hnever
  · rename_i hpassed
    refine ⟨fun _ hne => ?_, fun _ => hpublish.1⟩
    rw [← Bool.not_eq_true]
    exact fun haborted => hpassed ⟨hne, .inl haborted⟩

/-- A started database sink isolates the failures of a run exactly when no acceptable
batch with rows comes while the transaction is failed. -/
theorem isolated_iff (commitFailed : Option PyException) {made sink : PostgresSink F Database}
    {fresh db : Database} (hfresh : fresh.transaction = .running [])
    (hstart : PostgresSink.start isAlnum (fun _ => pure (psycopg commitFailed)) made fresh =
      (.ok sink, db)) (batches : List (Batch F)) :
    Isolated isAlnum sink db batches ↔
      ∀ before b after rows, batches = before ++ b :: after → b.Acceptable isAlnum sink rows →
        rows ≠ [] → aborted isAlnum sink commitFailed before = false := by
  obtain ⟨hsink, hidle⟩ := idle_of_start isAlnum hfresh hstart
  constructor
  · rintro ⟨-, hcommitted⟩ before b after rows hsplit hb
    exact (acceptable_committed_iff isAlnum hsink hidle before hb).mp
      (hcommitted before b after rows hsplit hb)
  · intro hcondition
    have hstart : db.transaction = betweenBatches false := hidle
    refine ⟨committed_afterBatches isAlnum hsink batches hstart, ?_⟩
    intro before b after rows hsplit hb
    exact (acceptable_committed_iff isAlnum hsink hidle before hb).mpr
      (hcondition before b after rows hsplit hb)

def reading (value : Int) (verdicts : List (Option PyException)) : Batch WholeFloat where
  message := ⟨"plant/press/data", .measurement (some 1) "press" "t"
    [⟨"temperature", 0, .int value, .good, none, "t", none, none⟩], 0, false⟩
  verdicts

/-- The row that the first reading inserts is rejected, the second one would be accepted. -/
def rejectedFirst : List (Batch WholeFloat) :=
  [reading 20 [some ⟨.other "DataError", "value too long"⟩], reading 21 []]

def openSink : PostgresSink WholeFloat Database := ⟨∅, some (psycopg none)⟩

theorem second_reading_lost :
    ¬ ∀ batches, Isolated Char.isAlphanum openSink ⟨[], .running [], []⟩ batches := by
  intro h
  obtain ⟨-, hcommitted⟩ := h rejectedFirst
  have hlost := hcommitted [reading 20 [some ⟨.other "DataError", "value too long"⟩]] (reading 21 []) []
    [⟨some 1, "press", "temperature", 0, "21", .good, none, "t"⟩] rfl ⟨by rfl, nofun⟩
  exact absurd hlost (by decide +kernel)

/-- A batch without rows ends the failed transaction before the next reading. -/
def clearedBetween : List (Batch WholeFloat) :=
  [reading 20 [some ⟨.other "DataError", "value too long"⟩],
    ⟨⟨"plant/press/data", .measurement (some 1) "press" "t" [], 0, false⟩, []⟩, reading 21 []]

theorem clearedBetween_isolated :
    Isolated Char.isAlphanum openSink ⟨[], .running [], []⟩ clearedBetween := by
  have hstart : PostgresSink.start Char.isAlphanum (fun _ => pure (psycopg none)) ⟨∅, none⟩
      ⟨[], .running [], []⟩ = (.ok openSink, ⟨[], .running [], []⟩) := rfl
  refine (isolated_iff Char.isAlphanum none rfl hstart clearedBetween).mpr ?_
  intro before b after rows hsplit hb hrows
  rcases before with _ | ⟨first, _ | ⟨second, before⟩⟩
  · rfl
  · -- the batch without rows
    cases hsplit
    cases hb.1
    exact absurd rfl hrows
  · cases before with
    | nil =>
      cases hsplit
      decide +kernel
    | cons third before =>
      have hlength := congrArg List.length hsplit
      simp [clearedBetween] at hlength

end IndustrialGateway
