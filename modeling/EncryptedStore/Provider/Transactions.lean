import EncryptedStore.Group.Runs

/-!
# Provider transactions

`transaction` and `transaction_async`: begin, run the closure, then commit on
`Ok` or roll back on `Err`.  The transaction manager is a savepoint stack, and
whether each of its calls succeeds is an input of the model.
-/

namespace EncryptedStore

/-- A caller's closure: group-store calls, each continued from its reply, ending
in `Ok` or `Err`. -/
inductive Work (α ε : Type) where
  | done (result : Except ε α)
  | call (op : GroupOp) (next : Except StorageError Reply → Work α ε)

namespace Work

variable {α ε : Type}

def run (engine : OrderByCreatedAt) : Work α ε → Table → Except ε α × Table
  | done result, table => (result, table)
  | call op next, table =>
      match op.apply engine table with
      | (reply, table) => (next reply).run engine table

/-- Make the calls `ops`, ignoring their replies, then continue with `work`. -/
def calls (ops : List GroupOp) (work : Work α ε) : Work α ε :=
  ops.foldr (fun op work => call op fun _ => work) work

/-- `op?`: make the call, and return its error converted by `lift` if it fails. -/
def tryCall (op : GroupOp) (lift : StorageError → ε) (next : Reply → Work α ε) : Work α ε :=
  call op fun
    | .ok reply => next reply
    | .error error => done (.error (lift error))

theorem run_calls (engine : OrderByCreatedAt) (ops : List GroupOp) (work : Work α ε)
    (table : Table) : (calls ops work).run engine table = work.run engine (GroupOp.run engine ops table) := by
  induction ops generalizing table with
  | nil => rfl
  | cons op ops ih => exact ih _

end Work

/-- What the connection was asked to do, in order. -/
inductive TransactionEvent where
  | begin
  | work
  | commit
  | rollback
  deriving DecidableEq, Repr

/-- One connection: its table, the tables saved by the open transaction and its
savepoints (innermost first), and the events so far. -/
structure Connection where
  table : Table
  savepoints : List Table
  events : List TransactionEvent

/-- How each call to the transaction manager ends: `none` for success, or the
error the engine reports. -/
structure ManagerOutcomes where
  begin : Option DieselError
  commit : Option DieselError
  rollback : Option DieselError

namespace Connection

def record (conn : Connection) (event : TransactionEvent) : Connection :=
  { conn with events := conn.events ++ [event] }

/-- `TransactionManager::begin_transaction`: `BEGIN`, or `SAVEPOINT` inside an
open transaction; either saves the table. -/
def beginTransaction (outcome : Option DieselError) (conn : Connection) :
    Except DieselError Unit × Connection :=
  let conn := conn.record .begin
  match outcome with
  | some error => (.error error, conn)
  | none => (.ok (), { conn with savepoints := conn.table :: conn.savepoints })

/-- `TransactionManager::commit_transaction`: `COMMIT`, or `RELEASE SAVEPOINT`;
the writes stay. -/
def commitTransaction (outcome : Option DieselError) (conn : Connection) :
    Except DieselError Unit × Connection :=
  let conn := conn.record .commit
  match outcome, conn.savepoints with
  | some error, _ => (.error error, conn)
  | none, [] => (.error .notInTransaction, conn)
  | none, _ :: savepoints => (.ok (), { conn with savepoints })

/-- `TransactionManager::rollback_transaction`: `ROLLBACK`, or `ROLLBACK TO
SAVEPOINT`; the saved table comes back. -/
def rollbackTransaction (outcome : Option DieselError) (conn : Connection) :
    Except DieselError Unit × Connection :=
  let conn := conn.record .rollback
  match outcome, conn.savepoints with
  | some error, _ => (.error error, conn)
  | none, [] => (.error .notInTransaction, conn)
  | none, saved :: savepoints => (.ok (), { conn with table := saved, savepoints })

end Connection

section Transactions

variable {α ε : Type} (engine : OrderByCreatedAt) (outcomes : ManagerOutcomes)
  (fromDiesel : DieselError → ε)

/-- The body both `transaction` and `transaction_async` run: `fromDiesel` is the
closure's `From<diesel::result::Error>`. -/
def runTransaction (work : Work α ε) (conn : Connection) : Except ε α × Connection :=
  match conn.beginTransaction outcomes.begin with
  | (.error error, conn) => (.error (fromDiesel error), conn)
  | (.ok (), conn) =>
      match work.run engine conn.table with
      | (result, table) =>
          let conn := { conn with table }.record .work
          match result with
          | .ok value =>
              match conn.commitTransaction outcomes.commit with
              | (.ok (), conn) => (.ok value, conn)
              | (.error error, conn) => (.error (fromDiesel error), conn)
          | .error err =>
              match conn.rollbackTransaction outcomes.rollback with
              | (.ok (), conn) => (.error err, conn)
              | (.error .brokenTransactionManager, conn) => (.error err, conn)
              | (.error rollback, conn) => (.error (fromDiesel rollback), conn)

/-- Start a new database transaction with the provider's connection. -/
def transaction (work : Work α ε) (conn : Connection) : Except ε α × Connection :=
  runTransaction engine outcomes fromDiesel work conn

/-- The async variant: the closure's future runs to completion, then the
provider commits or rolls back through a second handle on the same connection
(`DbConnectionPrivate::from_arc_mutex`).  The reference count is never checked,
and a second handle on one connection acts as the first would. -/
def transactionAsync (work : Work α ε) (conn : Connection) : Except ε α × Connection :=
  runTransaction engine outcomes fromDiesel work conn

/-! ## The three ways a transaction ends -/

theorem runTransaction_of_begin_error {error : DieselError} (hbegin : outcomes.begin = some error)
    (work : Work α ε) (conn : Connection) :
    runTransaction engine outcomes fromDiesel work conn =
      (.error (fromDiesel error), conn.record .begin) := by
  simp [runTransaction, Connection.beginTransaction, hbegin]

theorem runTransaction_of_ok (hbegin : outcomes.begin = none) {work : Work α ε}
    {conn : Connection} {value : α} {table : Table}
    (hwork : work.run engine conn.table = (.ok value, table)) :
    runTransaction engine outcomes fromDiesel work conn =
      match outcomes.commit with
      | none => (.ok value, ⟨table, conn.savepoints, conn.events ++ [.begin, .work, .commit]⟩)
      | some error => (.error (fromDiesel error),
          ⟨table, conn.table :: conn.savepoints, conn.events ++ [.begin, .work, .commit]⟩) := by
  cases hcommit : outcomes.commit <;>
    simp [runTransaction, Connection.beginTransaction, Connection.commitTransaction,
      Connection.record, hbegin, hwork, hcommit]

theorem runTransaction_of_error (hbegin : outcomes.begin = none) {work : Work α ε}
    {conn : Connection} {err : ε} {table : Table}
    (hwork : work.run engine conn.table = (.error err, table)) :
    runTransaction engine outcomes fromDiesel work conn =
      match outcomes.rollback with
      | none => (.error err, ⟨conn.table, conn.savepoints, conn.events ++ [.begin, .work, .rollback]⟩)
      | some .brokenTransactionManager => (.error err,
          ⟨table, conn.table :: conn.savepoints, conn.events ++ [.begin, .work, .rollback]⟩)
      | some error => (.error (fromDiesel error),
          ⟨table, conn.table :: conn.savepoints, conn.events ++ [.begin, .work, .rollback]⟩) := by
  cases hrollback : outcomes.rollback with
  | none =>
      simp [runTransaction, Connection.beginTransaction, Connection.rollbackTransaction,
        Connection.record, hbegin, hwork, hrollback]
  | some error =>
      cases error <;>
        simp [runTransaction, Connection.beginTransaction, Connection.rollbackTransaction,
          Connection.record, hbegin, hwork, hrollback]

/-- What a transaction runner `tx` must do with any closure from any connection:
run the closure once, and only after `begin` succeeded; commit an `Ok` once,
never roll it back, and keep its writes at the starting depth; roll an `Err`
back once, never commit it, and bring back the table `begin` saw; keep the
closure's error unless the rollback fails for a reason other than a broken
transaction manager. -/
def TransactionLaw (tx : Work α ε → Connection → Except ε α × Connection) : Prop :=
  ∀ work conn,
    (∀ error, outcomes.begin = some error →
      tx work conn = (.error (fromDiesel error), conn.record .begin)) ∧
    (outcomes.begin = none → ∀ value table, work.run engine conn.table = (.ok value, table) →
      (tx work conn).2.events = conn.events ++ [.begin, .work, .commit] ∧
      (outcomes.commit = none →
        (tx work conn).1 = .ok value ∧ (tx work conn).2.table = table ∧
          (tx work conn).2.savepoints = conn.savepoints) ∧
      ∀ error, outcomes.commit = some error → (tx work conn).1 = .error (fromDiesel error)) ∧
    (outcomes.begin = none → ∀ err table, work.run engine conn.table = (.error err, table) →
      (tx work conn).2.events = conn.events ++ [.begin, .work, .rollback] ∧
      (outcomes.rollback = none →
        (tx work conn).1 = .error err ∧ (tx work conn).2.table = conn.table ∧
          (tx work conn).2.savepoints = conn.savepoints) ∧
      (outcomes.rollback = some .brokenTransactionManager → (tx work conn).1 = .error err) ∧
      ∀ error, outcomes.rollback = some error → error ≠ .brokenTransactionManager →
        (tx work conn).1 = .error (fromDiesel error))

theorem runTransaction_law :
    @TransactionLaw α ε engine outcomes fromDiesel (runTransaction engine outcomes fromDiesel) := by
  intro work conn
  refine ⟨fun error hbegin => runTransaction_of_begin_error engine outcomes fromDiesel hbegin work conn,
    fun hbegin value table hwork => ?_, fun hbegin err table hwork => ?_⟩
  · rw [runTransaction_of_ok engine outcomes fromDiesel hbegin hwork]
    cases outcomes.commit <;> simp
  · rw [runTransaction_of_error engine outcomes fromDiesel hbegin hwork]
    rcases outcomes.rollback with _ | ⟨_ | _ | _ | _ | _⟩ <;> simp

/-- A closure that writes and then propagates the duplicate-welcome error of
`insert_or_replace_group` is rolled back with that error, and none of its writes
stays. -/
theorem runTransaction_duplicate_welcome (hbegin : outcomes.begin = none)
    (hrollback : outcomes.rollback = none) (writes : List GroupOp) {group existing : StoredGroup}
    (lift : StorageError → ε) (next : Reply → Work α ε) {conn : Connection}
    (hexisting : (GroupOp.run engine writes conn.table).find group.id = some existing)
    (hsame : existing.welcomeId = group.welcomeId) :
    runTransaction engine outcomes fromDiesel
        (Work.calls writes (Work.tryCall (.insertOrReplaceGroup group) lift next)) conn =
      (.error (lift (.duplicate (.welcomeId existing.welcomeId))),
        ⟨conn.table, conn.savepoints, conn.events ++ [.begin, .work, .rollback]⟩) := by
  have hwork : (Work.calls writes (Work.tryCall (.insertOrReplaceGroup group) lift next)).run engine
      conn.table = (.error (lift (.duplicate (.welcomeId existing.welcomeId))),
        GroupOp.run engine writes conn.table) := by
    rw [Work.run_calls]
    simp [Work.tryCall, Work.run, GroupOp.apply, mapReply,
      insertOrReplaceGroup_of_find_some hexisting, readBackExistingGroup_of_find hexisting, hsame]
  rw [runTransaction_of_error engine outcomes fromDiesel hbegin hwork, hrollback]

end Transactions

/-! ## Retrying -/

/-- Modelled from the spec: the policy `Retry` of `retry_async!`, both declared
outside `encrypted_store`: how many more attempts may follow a failed one.  The
backoff between attempts only delays them, so it is left out. -/
structure Retry where
  retries : Nat

/-- Modelled from the spec: `retry_async!` makes `attempt` again after an error
that `isRetryable` classifies as retryable, while retries are left, and
returns any other result.  `attempt n` is the `n`-th attempt, since the engine
may answer each one differently. -/
def retryAsync {α ε : Type} (isRetryable : ε → Bool)
    (attempt : Nat → Connection → Except ε α × Connection) (attemptNo : Nat) :
    Nat → Connection → Except ε α × Connection
  | 0, conn => attempt attemptNo conn
  | retries + 1, conn =>
      match attempt attemptNo conn with
      | (.error err, conn) =>
          if isRetryable err then retryAsync isRetryable attempt (attemptNo + 1) retries conn
          else (.error err, conn)
      | result => result

section Retrying

variable {α ε : Type} (engine : OrderByCreatedAt) (fromDiesel : DieselError → ε)
  (work : Work α ε)

/-- `retryable_transaction_async`: `transaction_async` under `retry_async!`, with
the caller's policy, or `defaultRetry` (`Retry::default()`) when it gives none;
`outcomes n` is how the manager answers the `n`-th attempt. -/
def retryableTransactionAsync (outcomes : Nat → ManagerOutcomes) (isRetryable : ε → Bool)
    (defaultRetry : Retry) (retry : Option Retry) (conn : Connection) : Except ε α × Connection :=
  retryAsync isRetryable (fun attemptNo => transactionAsync engine (outcomes attemptNo) fromDiesel work)
    0 (retry.getD defaultRetry).retries conn

/-- What at most `attempts` attempts of the closure leave: the savepoints as
they were, the closure's writes on the starting table after an `Ok`, the
starting table after an error, and at most `attempts` more `begin`s. -/
structure TransactionEffect (attempts : Nat) (conn : Connection) (result : Except ε α × Connection) :
    Prop where
  savepoints : result.2.savepoints = conn.savepoints
  ok : ∀ value, result.1 = .ok value → work.run engine conn.table = (.ok value, result.2.table)
  error : ∀ err, result.1 = .error err → result.2.table = conn.table
  begins : result.2.events.count .begin ≤ conn.events.count .begin + attempts

variable {engine work}

theorem TransactionEffect.mono {attempts more : Nat} {conn : Connection}
    {result : Except ε α × Connection} (h : TransactionEffect engine work attempts conn result)
    (hle : attempts ≤ more) : TransactionEffect engine work more conn result :=
  ⟨h.savepoints, h.ok, h.error, by have := h.begins; omega⟩

/-- An attempt that failed leaves the connection the next one starts from as it
found it, so what the next ones leave is what they all leave. -/
theorem TransactionEffect.after_error {attempts : Nat} {conn next : Connection} {err : ε}
    {result : Except ε α × Connection} (first : TransactionEffect engine work 1 conn (.error err, next))
    (rest : TransactionEffect engine work attempts next result) :
    TransactionEffect engine work (attempts + 1) conn result where
  savepoints := rest.savepoints.trans first.savepoints
  ok value h := first.error err rfl ▸ rest.ok value h
  error err' h := (rest.error err' h).trans (first.error err rfl)
  begins := by
    have hfirst : next.events.count .begin ≤ conn.events.count .begin + 1 := first.begins
    have := rest.begins; omega

variable (engine work)

/-- The step lemma: one attempt, when the manager commits and rolls back
successfully. -/
theorem runTransaction_effect {outcomes : ManagerOutcomes} (hcommit : outcomes.commit = none)
    (hrollback : outcomes.rollback = none) (conn : Connection) :
    TransactionEffect engine work 1 conn (runTransaction engine outcomes fromDiesel work conn) := by
  cases hbegin : outcomes.begin with
  | some error =>
      rw [runTransaction_of_begin_error engine outcomes fromDiesel hbegin]
      exact ⟨rfl, nofun, fun _ _ => rfl, by simp [Connection.record]⟩
  | none =>
      rcases hwork : work.run engine conn.table with ⟨result, table⟩
      cases result with
      | ok value =>
          rw [runTransaction_of_ok engine outcomes fromDiesel hbegin hwork, hcommit]
          exact ⟨rfl, fun _ h => by cases h; exact hwork, nofun, by simp⟩
      | error err =>
          rw [runTransaction_of_error engine outcomes fromDiesel hbegin hwork, hrollback]
          exact ⟨rfl, nofun, fun _ _ => rfl, by simp⟩

/-- Every attempt, however it ends, makes exactly one `begin`. -/
theorem runTransaction_begins (outcomes : ManagerOutcomes) (conn : Connection) :
    (runTransaction engine outcomes fromDiesel work conn).2.events.count .begin =
      conn.events.count .begin + 1 := by
  cases hbegin : outcomes.begin with
  | some error =>
      simp [runTransaction_of_begin_error engine outcomes fromDiesel hbegin, Connection.record]
  | none =>
      rcases hwork : work.run engine conn.table with ⟨_ | value, table⟩
      · rw [runTransaction_of_error engine outcomes fromDiesel hbegin hwork]
        split <;> simp
      · rw [runTransaction_of_ok engine outcomes fromDiesel hbegin hwork]
        split <;> simp

/-- The run lemma: the attempts from `attemptNo` on, with `retries` left. -/
theorem retryAsync_effect (isRetryable : ε → Bool) {outcomes : Nat → ManagerOutcomes}
    (hcommit : ∀ n, (outcomes n).commit = none) (hrollback : ∀ n, (outcomes n).rollback = none) :
    ∀ retries attemptNo conn, TransactionEffect engine work (retries + 1) conn
      (retryAsync isRetryable (fun n => transactionAsync engine (outcomes n) fromDiesel work)
        attemptNo retries conn)
  | 0, attemptNo, conn =>
      runTransaction_effect engine fromDiesel work (hcommit attemptNo) (hrollback attemptNo) conn
  | retries + 1, attemptNo, conn => by
      have first : TransactionEffect engine work 1 conn
          (transactionAsync engine (outcomes attemptNo) fromDiesel work conn) :=
        runTransaction_effect engine fromDiesel work (hcommit attemptNo) (hrollback attemptNo) conn
      simp only [retryAsync]
      split
      · next err next hattempt =>
          rw [hattempt] at first
          split
          · exact first.after_error
              (retryAsync_effect isRetryable hcommit hrollback retries (attemptNo + 1) next)
          · exact first.mono (by omega)
      · exact first.mono (by omega)

/-- When every attempt ends in an error classified as retryable, the attempts
from `attemptNo` on are all `retries + 1` of them. -/
theorem retryAsync_begins_of_retryable (isRetryable : ε → Bool) {outcomes : Nat → ManagerOutcomes}
    (hfail : ∀ n conn, ∃ err, (transactionAsync engine (outcomes n) fromDiesel work conn).1 =
      .error err ∧ isRetryable err = true) :
    ∀ retries attemptNo conn,
      (retryAsync isRetryable (fun n => transactionAsync engine (outcomes n) fromDiesel work)
        attemptNo retries conn).2.events.count .begin = conn.events.count .begin + retries + 1
  | 0, attemptNo, conn => runTransaction_begins engine fromDiesel work (outcomes attemptNo) conn
  | retries + 1, attemptNo, conn => by
      obtain ⟨err, herr, hretryable⟩ := hfail attemptNo conn
      have hfirst : (transactionAsync engine (outcomes attemptNo) fromDiesel work conn).2.events.count
          .begin = conn.events.count .begin + 1 :=
        runTransaction_begins engine fromDiesel work (outcomes attemptNo) conn
      rcases hattempt : transactionAsync engine (outcomes attemptNo) fromDiesel work conn with
        ⟨result, next⟩
      rw [hattempt] at herr hfirst
      subst herr
      simp only [retryAsync, hattempt, hretryable, if_true]
      rw [retryAsync_begins_of_retryable isRetryable hfail retries (attemptNo + 1) next, hfirst]
      omega

end Retrying

/-- `retryable_transaction_async`, when the manager's commits and rollbacks
succeed, makes at most `retries + 1` attempts and is atomic over all of them:
the savepoints end as they began, an `Ok` leaves exactly the closure's writes on
the starting table and an error the starting table.  An error that is not
retryable ends it after the first attempt, and when every attempt ends in a
retryable error it makes all `retries + 1` attempts. -/
theorem retryableTransactionAsync_atomic {α ε : Type} (engine : OrderByCreatedAt)
    (fromDiesel : DieselError → ε) (work : Work α ε) (outcomes : Nat → ManagerOutcomes)
    (isRetryable : ε → Bool) (defaultRetry : Retry) (retry : Option Retry)
    (hcommit : ∀ n, (outcomes n).commit = none) (hrollback : ∀ n, (outcomes n).rollback = none)
    (conn : Connection) :
    TransactionEffect engine work ((retry.getD defaultRetry).retries + 1) conn
        (retryableTransactionAsync engine fromDiesel work outcomes isRetryable defaultRetry retry
          conn) ∧
      (∀ err, (transactionAsync engine (outcomes 0) fromDiesel work conn).1 = .error err →
        isRetryable err = false →
        retryableTransactionAsync engine fromDiesel work outcomes isRetryable defaultRetry retry
          conn = transactionAsync engine (outcomes 0) fromDiesel work conn) ∧
      ((∀ n conn, ∃ err, (transactionAsync engine (outcomes n) fromDiesel work conn).1 =
          .error err ∧ isRetryable err = true) →
        (retryableTransactionAsync engine fromDiesel work outcomes isRetryable defaultRetry retry
          conn).2.events.count .begin =
          conn.events.count .begin + (retry.getD defaultRetry).retries + 1) := by
  refine ⟨retryAsync_effect engine fromDiesel work isRetryable hcommit hrollback _ 0 conn,
    fun err herr hfatal => ?_,
    fun hfail => retryAsync_begins_of_retryable engine fromDiesel work isRetryable hfail _ 0 conn⟩
  unfold retryableTransactionAsync
  cases (retry.getD defaultRetry).retries with
  | zero => rfl
  | succ retries =>
      rcases hattempt : transactionAsync engine (outcomes 0) fromDiesel work conn with ⟨result, next⟩
      rw [hattempt] at herr
      cases herr
      simp [retryAsync, hattempt, hfatal]

/-- A manager whose every `BEGIN` is refused for the lock. -/
def refusedBegins : Nat → ManagerOutcomes :=
  fun _ => ⟨some (.databaseError "database is locked"), none, none⟩

/-- A policy that retries exactly the refusal for the lock. -/
def lockedRetryable (err : StorageError) : Bool :=
  err == .dieselResult (.databaseError "database is locked")

/-- A closure that stores the welcomed group, retried once while every `BEGIN`
is refused: both attempts run. -/
theorem retryableTransactionAsync_atomic_refusedBegins :
    (∀ n, (refusedBegins n).commit = none) ∧ (∀ n, (refusedBegins n).rollback = none) ∧
      (∀ n conn, ∃ err, (transactionAsync .stable (refusedBegins n) StorageError.dieselResult
          (Work.tryCall (.store welcomedGroup) id fun _ => .done (.ok ())) conn).1 = .error err ∧
        lockedRetryable err = true) ∧
      TransactionEffect .stable (Work.tryCall (.store welcomedGroup) id fun _ => .done (.ok ()))
          2 ⟨.empty, [], []⟩
        (retryableTransactionAsync .stable StorageError.dieselResult
          (Work.tryCall (.store welcomedGroup) id fun _ => .done (.ok ())) refusedBegins
          lockedRetryable ⟨1⟩ none ⟨.empty, [], []⟩) ∧
      (∀ err, (transactionAsync .stable (refusedBegins 0) StorageError.dieselResult
          (Work.tryCall (.store welcomedGroup) id fun _ => .done (.ok ())) ⟨.empty, [], []⟩).1 =
            .error err →
        lockedRetryable err = false →
        retryableTransactionAsync .stable StorageError.dieselResult
            (Work.tryCall (.store welcomedGroup) id fun _ => .done (.ok ())) refusedBegins
            lockedRetryable ⟨1⟩ none ⟨.empty, [], []⟩ =
          transactionAsync .stable (refusedBegins 0) StorageError.dieselResult
            (Work.tryCall (.store welcomedGroup) id fun _ => .done (.ok ())) ⟨.empty, [], []⟩) ∧
      ((∀ n conn, ∃ err, (transactionAsync .stable (refusedBegins n) StorageError.dieselResult
          (Work.tryCall (.store welcomedGroup) id fun _ => .done (.ok ())) conn).1 = .error err ∧
          lockedRetryable err = true) →
        (retryableTransactionAsync .stable StorageError.dieselResult
            (Work.tryCall (.store welcomedGroup) id fun _ => .done (.ok ())) refusedBegins
            lockedRetryable ⟨1⟩ none ⟨.empty, [], []⟩).2.events.count .begin = 0 + 1 + 1) :=
  ⟨fun _ => rfl, fun _ => rfl, fun n conn =>
    ⟨.dieselResult (.databaseError "database is locked"),
      by rw [transactionAsync, runTransaction_of_begin_error .stable _ _ rfl], by decide⟩,
    retryableTransactionAsync_atomic .stable StorageError.dieselResult
      (Work.tryCall (.store welcomedGroup) id fun _ => .done (.ok ())) refusedBegins
      lockedRetryable ⟨1⟩ none (fun _ => rfl) (fun _ => rfl) ⟨.empty, [], []⟩⟩

/-- Both attempts are refused, and the call returns the refusal. -/
example : retryableTransactionAsync .stable StorageError.dieselResult
      (Work.tryCall (.store welcomedGroup) id fun _ => .done (.ok ())) refusedBegins
      lockedRetryable ⟨1⟩ none ⟨.empty, [], []⟩ =
    (.error (.dieselResult (.databaseError "database is locked")),
      ⟨.empty, [], [.begin, .begin]⟩) := rfl

/-- `transaction` and `transaction_async`, for every closure, every starting
connection and depth and every outcome of the manager, obey `TransactionLaw`; in
particular a closure that propagates the duplicate-welcome error of
`insert_or_replace_group` leaves none of its writes behind. -/
theorem transactions_commit_or_roll_back {α ε : Type} (engine : OrderByCreatedAt)
    (outcomes : ManagerOutcomes) (fromDiesel : DieselError → ε) :
    @TransactionLaw α ε engine outcomes fromDiesel (transaction engine outcomes fromDiesel) ∧
    @TransactionLaw α ε engine outcomes fromDiesel (transactionAsync engine outcomes fromDiesel) ∧
    ∀ (writes : List GroupOp) (group existing : StoredGroup) (lift : StorageError → ε)
      (next : Reply → Work α ε) (conn : Connection),
      outcomes.begin = none → outcomes.rollback = none →
      (GroupOp.run engine writes conn.table).find group.id = some existing →
      existing.welcomeId = group.welcomeId →
      transaction engine outcomes fromDiesel
          (Work.calls writes (Work.tryCall (.insertOrReplaceGroup group) lift next)) conn =
        (.error (lift (.duplicate (.welcomeId existing.welcomeId))),
          ⟨conn.table, conn.savepoints, conn.events ++ [.begin, .work, .rollback]⟩) ∧
      transactionAsync engine outcomes fromDiesel
          (Work.calls writes (Work.tryCall (.insertOrReplaceGroup group) lift next)) conn =
        (.error (lift (.duplicate (.welcomeId existing.welcomeId))),
          ⟨conn.table, conn.savepoints, conn.events ++ [.begin, .work, .rollback]⟩) :=
  ⟨runTransaction_law engine outcomes fromDiesel, runTransaction_law engine outcomes fromDiesel,
    fun writes _ _ lift next _ hbegin hrollback hexisting hsame =>
      ⟨runTransaction_duplicate_welcome engine outcomes fromDiesel hbegin hrollback writes lift next
          hexisting hsame,
        runTransaction_duplicate_welcome engine outcomes fromDiesel hbegin hrollback writes lift next
          hexisting hsame⟩⟩

end EncryptedStore
