import EncryptedStore.Provider.Transactions

/-!
# Transactions on concurrent connections

Connections run `transaction` on one SQLite database in the WAL mode `init_db`
sets: `BEGIN` is deferred, one connection at a time holds the write lock, and a
refused write gets `database is locked`.  Every run is serializable.
-/

namespace EncryptedStore

/-! ## Statements that write -/

namespace GroupOp

variable (engine : OrderByCreatedAt)

/-- Whether the call issues a write statement, which needs the write lock; a
`Vec` store of no groups issues no statement at all. -/
def writes : GroupOp → Bool
  | store _ => true
  | storeVec groups => !groups.isEmpty
  | insertOrReplaceGroup _ => true
  | updateGroupMembership _ _ => true
  | updateInstallationsTimeChecked _ _ => true
  | _ => false

variable {engine}

/-- A call that issues no write statement leaves the table as it was. -/
theorem apply_of_writes_false {op : GroupOp} (h : op.writes = false) (table : Table) :
    (op.apply engine table).2 = table := by
  cases op <;> simp_all [writes, apply, mapReply, EncryptedStore.storeVec]

theorem run_of_writes_false {ops : List GroupOp} (h : ∀ op ∈ ops, op.writes = false)
    (table : Table) : run engine ops table = table := by
  induction ops generalizing table with
  | nil => rfl
  | cons op ops ih =>
      simp only [List.mem_cons, forall_eq_or_imp] at h
      rw [run, List.foldl_cons, apply_of_writes_false h.1]
      exact ih h.2 table

end GroupOp

/-! ## Committed states -/

/-- The calls of one transaction, with their replies, in the order it made them. -/
abbrev Calls := List (GroupOp × Except StorageError Reply)

section Committed

variable (engine : OrderByCreatedAt) (initial : Table)

/-- The table once the first `n` transactions of `log` have committed. -/
def committedAt (log : List Calls) (n : Nat) : Table :=
  GroupOp.run engine ((log.take n).flatMap (List.map Prod.fst)) initial

/-- Each transaction of `log`, its calls made alone on the table the ones before
it left, starting from `table`, gets back the replies it got. -/
def SerialFrom : Table → List Calls → Prop
  | _, [] => True
  | table, calls :: log =>
      (GroupOp.replay engine (calls.map Prod.fst) table).1 = calls.map Prod.snd ∧
        SerialFrom (GroupOp.run engine (calls.map Prod.fst) table) log

variable {engine initial}

theorem committedAt_length (log : List Calls) :
    committedAt engine initial log log.length =
      GroupOp.run engine (log.flatMap (List.map Prod.fst)) initial := by
  rw [committedAt, List.take_length]

theorem committedAt_append_of_le {log : List Calls} {n : Nat} (calls : Calls)
    (hn : n ≤ log.length) :
    committedAt engine initial (log ++ [calls]) n = committedAt engine initial log n := by
  rw [committedAt, committedAt, List.take_append_of_le_length hn]

theorem committedAt_append_length (log : List Calls) (calls : Calls) :
    committedAt engine initial (log ++ [calls]) (log ++ [calls]).length =
      GroupOp.run engine (calls.map Prod.fst) (committedAt engine initial log log.length) := by
  rw [committedAt_length, committedAt_length, List.flatMap_append, GroupOp.run, GroupOp.run,
    GroupOp.run, List.foldl_append, List.flatMap_singleton]

theorem serialFrom_append {table : Table} {log : List Calls} {calls : Calls} :
    SerialFrom engine table (log ++ [calls]) ↔
      SerialFrom engine table log ∧
        (GroupOp.replay engine (calls.map Prod.fst)
          (GroupOp.run engine (log.flatMap (List.map Prod.fst)) table)).1 = calls.map Prod.snd := by
  induction log generalizing table with
  | nil => simp [SerialFrom, GroupOp.run]
  | cons first log ih =>
      rw [List.cons_append, SerialFrom, SerialFrom, ih]
      simp only [List.flatMap_cons, GroupOp.run, List.foldl_append, and_assoc]

end Committed

/-! ## Connections and the engine -/

/-- Where a connection is: between transactions, or inside one with the rest of
its closure, its snapshot (the commit count it read at and the table as its own
writes left it, none before its first statement), whether it holds the write
lock, and the calls it made. -/
inductive Session (α ε : Type) where
  | idle
  | active (work : Work α ε) (snapshot : Option (Nat × Table)) (writing : Bool) (calls : Calls)

/-- The database all connections share: the committed table, the connection
holding the write lock, each connection's session, and as ghost state the
committed writing transactions in order, the committed read-only ones with the
commit count they read at, and what each transaction returned. -/
structure Database (α ε : Type) where
  table : Table
  writer : Option Nat
  sessions : Nat → Session α ε
  log : List Calls
  reads : List (Nat × Calls)
  returns : List (Nat × Except ε α)

/-- One step of one connection: `BEGIN` a transaction running `work`, or the
next statement of its transaction. -/
inductive DbAction (α ε : Type) where
  | begin (conn : Nat) (work : Work α ε)
  | step (conn : Nat)

/-- SQLite's `SQLITE_BUSY`, as diesel reports it. -/
def busy : StorageError := .dieselResult (.databaseError "database is locked")

namespace Database

variable {α ε : Type} (engine : OrderByCreatedAt)

def init (table : Table) : Database α ε := ⟨table, none, fun _ => .idle, [], [], []⟩

def setSession (db : Database α ε) (conn : Nat) (session : Session α ε) : Database α ε :=
  { db with sessions := Function.update db.sessions conn session }

/-- `BEGIN`: deferred, so it takes neither a snapshot nor the lock. -/
def begin (db : Database α ε) (conn : Nat) (work : Work α ε) : Database α ε :=
  match db.sessions conn with
  | .idle => db.setSession conn (.active work none false [])
  | .active .. => db

/-- Whether a write by a transaction that read at commit count `n` and does not
hold the lock is refused. -/
def locked (db : Database α ε) (n : Nat) : Bool :=
  !(db.writer.isNone && n == db.log.length)

/-- The statement of one call, on the snapshot `read` its transaction has or
takes now.  A write refused for the lock leaves the transaction's snapshot as
it was: SQLite releases the read lock that a refused first write took.
Otherwise the statement runs on the transaction's own table. -/
def call (db : Database α ε) (conn : Nat) (op : GroupOp)
    (next : Except StorageError Reply → Work α ε) (snapshot : Option (Nat × Table))
    (writing : Bool) (calls : Calls) : Database α ε :=
  let read := snapshot.getD (db.log.length, db.table)
  if op.writes && !writing && db.locked read.1 then
    db.setSession conn (.active (next (.error busy)) snapshot writing calls)
  else
    { db.setSession conn (.active (next (op.apply engine read.2).1)
        (some (read.1, (op.apply engine read.2).2)) (writing || op.writes)
        (calls ++ [(op, (op.apply engine read.2).1)])) with
      writer := if writing || op.writes then some conn else db.writer }

/-- `COMMIT` after `Ok`, publishing the transaction's table when it wrote, and
`ROLLBACK` after `Err`, discarding it; either releases the lock. -/
def endTransaction (db : Database α ε) (conn : Nat) (result : Except ε α)
    (snapshot : Option (Nat × Table)) (writing : Bool) (calls : Calls) : Database α ε :=
  match result, snapshot, writing with
  | .ok _, some (_, view), true =>
      { db.setSession conn .idle with table := view, writer := none, log := db.log ++ [calls] }
  | .ok _, some (n, _), false => { db.setSession conn .idle with reads := db.reads ++ [(n, calls)] }
  | .ok _, none, _ => db.setSession conn .idle
  | .error _, _, true => { db.setSession conn .idle with writer := none }
  | .error _, _, false => db.setSession conn .idle

/-- What the coordinator returns: the closure's result, since in this engine
neither `COMMIT` nor `ROLLBACK` fails. -/
def returned (db : Database α ε) (conn : Nat) (result : Except ε α) : Database α ε :=
  { db with returns := db.returns ++ [(conn, result)] }

/-- The end of the closure: the transaction ends and the coordinator returns. -/
def finish (db : Database α ε) (conn : Nat) (result : Except ε α)
    (snapshot : Option (Nat × Table)) (writing : Bool) (calls : Calls) : Database α ε :=
  (db.returned conn result).endTransaction conn result snapshot writing calls

def step (db : Database α ε) : DbAction α ε → Database α ε
  | .begin conn work => db.begin conn work
  | .step conn =>
      match db.sessions conn with
      | .idle => db
      | .active (.call op next) snapshot writing calls =>
          db.call engine conn op next snapshot writing calls
      | .active (.done result) snapshot writing calls =>
          db.finish conn result snapshot writing calls

def run (db : Database α ε) (actions : List (DbAction α ε)) : Database α ε :=
  actions.foldl (step engine) db

@[simp] theorem setSession_table (db : Database α ε) (conn : Nat) (session : Session α ε) :
    (db.setSession conn session).table = db.table := rfl

@[simp] theorem setSession_writer (db : Database α ε) (conn : Nat) (session : Session α ε) :
    (db.setSession conn session).writer = db.writer := rfl

@[simp] theorem setSession_log (db : Database α ε) (conn : Nat) (session : Session α ε) :
    (db.setSession conn session).log = db.log := rfl

@[simp] theorem setSession_reads (db : Database α ε) (conn : Nat) (session : Session α ε) :
    (db.setSession conn session).reads = db.reads := rfl

@[simp] theorem setSession_returns (db : Database α ε) (conn : Nat) (session : Session α ε) :
    (db.setSession conn session).returns = db.returns := rfl

@[simp] theorem setSession_sessions (db : Database α ε) (conn : Nat) (session : Session α ε) :
    (db.setSession conn session).sessions = Function.update db.sessions conn session := rfl

/-- Whether the connection's transaction has written. -/
def writing (db : Database α ε) (conn : Nat) : Bool :=
  match db.sessions conn with
  | .active _ _ writing _ => writing
  | .idle => false

end Database

/-! ## Every run is serializable -/

section Invariant

variable {α ε : Type} (engine : OrderByCreatedAt) (initial : Table)

/-- What a session keeps, given the committed log and whether its connection
holds the write lock.  A transaction that has run a statement read at a commit
count no later than the log's, and its calls made alone on that committed state
give its replies and its table.  It has written exactly when it holds the lock,
and then nothing committed after its snapshot; one that has not written made
only reads. -/
def SessionInv (log : List Calls) (holdsLock : Bool) : Session α ε → Prop
  | .idle => holdsLock = false
  | .active _ none writing calls => calls = [] ∧ writing = false ∧ holdsLock = false
  | .active _ (some (n, view)) writing calls =>
      n ≤ log.length ∧
        GroupOp.replay engine (calls.map Prod.fst) (committedAt engine initial log n) =
          (calls.map Prod.snd, view) ∧
        writing = holdsLock ∧ (writing = true → n = log.length) ∧
        (writing = false → ∀ call ∈ calls, call.1.writes = false)

/-- The committed state of a database run from `initial`: the table is the
committed writing transactions' calls run one after another; each of them, made
alone on the table committed before it, gives the replies it got; and each
committed read-only transaction got the replies of its calls on one committed
state, which they leave as it is. -/
structure CommittedSerially (db : Database α ε) : Prop where
  committed : db.table = GroupOp.run engine (db.log.flatMap (List.map Prod.fst)) initial
  serial : SerialFrom engine initial db.log
  reads : ∀ n calls, (n, calls) ∈ db.reads → n ≤ db.log.length ∧
    GroupOp.replay engine (calls.map Prod.fst) (committedAt engine initial db.log n) =
      (calls.map Prod.snd, committedAt engine initial db.log n)

/-- The database is serializable: its committed state is as `CommittedSerially`
says, and a connection whose transaction has written holds the write lock, so
there is at most one. -/
structure Serializable (db : Database α ε) extends CommittedSerially engine initial db : Prop where
  one_writer : ∀ conn, db.writing conn = true → db.writer = some conn

/-- The invariant: the committed state so far, and every session keeps
`SessionInv`. -/
structure Database.Inv (db : Database α ε) extends CommittedSerially engine initial db : Prop where
  sessions : ∀ conn, SessionInv engine initial db.log (db.writer == some conn) (db.sessions conn)

variable {engine initial}

/-- A commit by another transaction leaves a session that does not hold the lock
as it was. -/
theorem SessionInv.append {log : List Calls} (calls : Calls) :
    ∀ {session : Session α ε}, SessionInv engine initial log false session →
      SessionInv engine initial (log ++ [calls]) false session
  | .idle, h => h
  | .active _ none _ _, h => h
  | .active _ (some (n, view)) writing calls', ⟨hn, hreplay, hwriting, _, hreads⟩ => by
      have hle : n ≤ (log ++ [calls]).length := by simp; omega
      refine ⟨hle, by rwa [committedAt_append_of_le calls hn], hwriting,
        fun h => absurd (hwriting ▸ h) Bool.false_ne_true, hreads⟩

/-- The snapshot a statement reads: the one its transaction has, or the latest
committed state at its first statement. -/
theorem SessionInv.snapshot {log : List Calls} {holdsLock : Bool} {work : Work α ε}
    {snapshot : Option (Nat × Table)} {writing : Bool} {calls : Calls} {table : Table}
    (htable : table = committedAt engine initial log log.length)
    (h : SessionInv engine initial log holdsLock (.active work snapshot writing calls)) :
    SessionInv engine initial log holdsLock
      (.active work (some (snapshot.getD (log.length, table))) writing calls) := by
  cases snapshot with
  | none =>
      obtain ⟨rfl, rfl, rfl⟩ := h
      exact ⟨le_rfl, by simp [GroupOp.replay, htable], rfl, nofun,
        fun _ _ hmem => absurd hmem (List.not_mem_nil _)⟩
  | some read => exact h

/-- A connection holds the lock exactly when its transaction has written. -/
theorem Database.Inv.writing_eq {db : Database α ε} (inv : db.Inv engine initial) (conn : Nat) :
    db.writing conn = (db.writer == some conn) := by
  have hsession := inv.sessions conn
  unfold Database.writing
  split
  · next work snapshot writing calls hconn =>
      rw [hconn] at hsession
      rcases snapshot with _ | ⟨n, view⟩
      · exact hsession.2.1.trans hsession.2.2.symm
      · exact hsession.2.2.1
  · next hconn =>
      rw [hconn] at hsession
      exact Eq.symm hsession

theorem Database.Inv.one_writer {db : Database α ε} (inv : db.Inv engine initial) (conn : Nat)
    (h : db.writing conn = true) : db.writer = some conn := by
  simpa [inv.writing_eq] using h

namespace Database.Inv

variable {db : Database α ε}

/-- A step that changes one session and the lock, and nothing committed, keeps
the invariant when the new session keeps `SessionInv` and no other connection
gains or loses the lock. -/
theorem setSession (inv : db.Inv engine initial) {conn : Nat} (session : Session α ε)
    (writer : Option Nat)
    (hwriter : ∀ other, other ≠ conn → (writer == some other) = (db.writer == some other))
    (hsession : SessionInv engine initial db.log (writer == some conn) session) :
    ({ db.setSession conn session with writer := writer } : Database α ε).Inv engine initial where
  toCommittedSerially := ⟨inv.committed, inv.serial, inv.reads⟩
  sessions other := by
    by_cases hother : other = conn
    · subst hother
      simpa using hsession
    · simpa [hother, hwriter other hother] using inv.sessions other

theorem begin (inv : db.Inv engine initial) (conn : Nat) (work : Work α ε) :
    (db.begin conn work).Inv engine initial := by
  unfold Database.begin
  split
  · next hidle =>
      have hfree := inv.sessions conn
      rw [hidle] at hfree
      exact inv.setSession _ db.writer (fun _ _ => rfl) ⟨rfl, rfl, hfree⟩
  · exact inv

/-- A statement, refused for the lock or made on the transaction's own table. -/
theorem call (inv : db.Inv engine initial) {conn : Nat} {work : Work α ε} {op : GroupOp}
    {next : Except StorageError Reply → Work α ε} {snapshot : Option (Nat × Table)}
    {writing : Bool} {calls : Calls}
    (hsession : SessionInv engine initial db.log (db.writer == some conn)
      (.active work snapshot writing calls)) :
    (db.call engine conn op next snapshot writing calls).Inv engine initial := by
  have hread := hsession.snapshot (inv.committed.trans (committedAt_length _).symm)
  dsimp only [Database.call]
  split
  · -- a refused write: the session keeps its snapshot
    cases snapshot <;> exact inv.setSession _ db.writer (fun _ _ => rfl) hsession
  · next hfree =>
    revert hfree hread
    generalize snapshot.getD (db.log.length, db.table) = read
    obtain ⟨n, view⟩ := read
    rintro ⟨hn, hreplay, hholds, hlatest, hreads⟩ hfree
    have hlock : op.writes = true → writing = false → db.writer = none ∧ n = db.log.length := by
      intro hw hnw
      simpa [hw, hnw, Database.locked] using hfree
    have hreplay' : GroupOp.replay engine ((calls ++ [(op, (op.apply engine view).1)]).map Prod.fst)
        (committedAt engine initial db.log n) =
        ((calls ++ [(op, (op.apply engine view).1)]).map Prod.snd, (op.apply engine view).2) := by
      simp [GroupOp.replay_append_singleton, hreplay]
    cases writing with
    | false =>
        cases hw : op.writes with
        | false =>
            -- a read by a transaction that has not written
            refine inv.setSession _ db.writer (fun _ _ => rfl) ⟨hn, hreplay', by simpa using hholds,
              nofun, fun _ call hcall => ?_⟩
            rcases List.mem_append.mp hcall with hcall | hcall
            · exact hreads rfl call hcall
            · simp only [List.mem_singleton] at hcall
              subst hcall
              exact hw
        | true =>
            -- its first write: the lock was free and nothing committed since its snapshot
            obtain ⟨hfreeLock, hfresh⟩ := hlock hw rfl
            refine inv.setSession _ (some conn) (fun other hother => ?_)
              ⟨hn, hreplay', by simp, fun _ => hfresh, nofun⟩
            simp [hfreeLock, Ne.symm hother]
    | true =>
        -- a statement of the transaction holding the lock
        have hwriter : db.writer = some conn := by simpa using hholds.symm
        refine inv.setSession _ (some conn) (fun other _ => by rw [hwriter])
          ⟨hn, hreplay', by simp, hlatest, nofun⟩

/-- `COMMIT` of a transaction that has not written publishes nothing, and it read
one committed state, which its reads leave as it is. -/
theorem commitRead (inv : db.Inv engine initial) {conn : Nat} {work : Work α ε} {n : Nat}
    {view : Table} {calls : Calls}
    (hsession : SessionInv engine initial db.log (db.writer == some conn)
      (.active work (some (n, view)) false calls)) :
    ({ db.setSession conn .idle with reads := db.reads ++ [(n, calls)] } : Database α ε).Inv
      engine initial := by
  obtain ⟨hn, hreplay, hholds, -, hreads⟩ := hsession
  have hview : view = committedAt engine initial db.log n := by
    have hlast := congrArg Prod.snd hreplay
    rw [GroupOp.replay_snd, GroupOp.run_of_writes_false fun op hop => ?_] at hlast
    · exact hlast.symm
    · obtain ⟨call, hcall, rfl⟩ := List.mem_map.mp hop
      exact hreads rfl call hcall
  refine ⟨⟨inv.committed, inv.serial, fun m reads hmem => ?_⟩, fun other => ?_⟩
  · rcases List.mem_append.mp hmem with hmem | hmem
    · exact inv.reads m reads hmem
    · obtain ⟨rfl, rfl⟩ : m = n ∧ reads = calls := by simpa using hmem
      exact ⟨hn, hview ▸ hreplay⟩
  · by_cases hother : other = conn
    · subst hother
      simpa [SessionInv] using hholds.symm
    · simpa [hother] using inv.sessions other

/-- `COMMIT` of the transaction holding the lock: its table becomes the committed
one, it joins the log, and the lock is released; the sessions of the others,
none of which has written, keep their snapshots. -/
theorem commitWrite (inv : db.Inv engine initial) {conn : Nat} {work : Work α ε} {n : Nat}
    {view : Table} {calls : Calls}
    (hsession : SessionInv engine initial db.log (db.writer == some conn)
      (.active work (some (n, view)) true calls)) :
    ({ db.setSession conn .idle with table := view, writer := none, log := db.log ++ [calls] } :
      Database α ε).Inv engine initial := by
  obtain ⟨-, hreplay, hholds, hlatest, -⟩ := hsession
  have hwriter : db.writer = some conn := by simpa using hholds.symm
  obtain rfl := hlatest rfl
  refine ⟨⟨?_, ?_, fun m reads hmem => ?_⟩, fun other => ?_⟩
  · rw [← committedAt_length, committedAt_append_length, ← GroupOp.replay_snd, hreplay]
  · exact serialFrom_append.mpr ⟨inv.serial, by rw [← committedAt_length, hreplay]⟩
  · obtain ⟨hm, hreplayRead⟩ := inv.reads m reads hmem
    rw [committedAt_append_of_le calls hm]
    exact ⟨by simp; omega, hreplayRead⟩
  · by_cases hother : other = conn
    · subst hother
      simp [SessionInv]
    · have hfree : (db.writer == some other) = false := by simp [hwriter, Ne.symm hother]
      have hkept := inv.sessions other
      rw [hfree] at hkept
      simpa [hother] using hkept.append calls

/-- `ROLLBACK`, or `COMMIT`. -/
theorem endTransaction (inv : db.Inv engine initial) {conn : Nat} {work : Work α ε}
    {result : Except ε α} {snapshot : Option (Nat × Table)} {writing : Bool} {calls : Calls}
    (hsession : SessionInv engine initial db.log (db.writer == some conn)
      (.active work snapshot writing calls)) :
    (db.endTransaction conn result snapshot writing calls).Inv engine initial := by
  have idle (hfree : (db.writer == some conn) = false) :
      (db.setSession conn .idle).Inv engine initial :=
    inv.setSession .idle db.writer (fun _ _ => rfl) hfree
  rcases snapshot with _ | ⟨n, view⟩
  · obtain ⟨-, rfl, hfree⟩ := hsession
    cases result <;> exact idle hfree
  · cases writing with
    | false =>
        cases result with
        | error => exact idle hsession.2.2.1.symm
        | ok => exact inv.commitRead hsession
    | true =>
        cases result with
        | error =>
            have hwriter : db.writer = some conn := by simpa using hsession.2.2.1.symm
            exact inv.setSession .idle none (fun other hother => by simp [hwriter, Ne.symm hother])
              rfl
        | ok => exact inv.commitWrite hsession

theorem returned (inv : db.Inv engine initial) (conn : Nat) (result : Except ε α) :
    (db.returned conn result).Inv engine initial :=
  ⟨⟨inv.committed, inv.serial, inv.reads⟩, inv.sessions⟩

theorem finish (inv : db.Inv engine initial) {conn : Nat} {work : Work α ε}
    {result : Except ε α} {snapshot : Option (Nat × Table)} {writing : Bool} {calls : Calls}
    (hsession : SessionInv engine initial db.log (db.writer == some conn)
      (.active work snapshot writing calls)) :
    (db.finish conn result snapshot writing calls).Inv engine initial :=
  (inv.returned conn result).endTransaction hsession

/-- The step lemma: every action of every connection keeps the invariant. -/
theorem step (inv : db.Inv engine initial) : ∀ action, (db.step engine action).Inv engine initial
  | .begin conn work => inv.begin conn work
  | .step conn => by
      simp only [Database.step]
      split
      · exact inv
      · next op next snapshot writing calls hconn =>
          have hsession := inv.sessions conn
          rw [hconn] at hsession
          exact inv.call hsession
      · next result snapshot writing calls hconn =>
          have hsession := inv.sessions conn
          rw [hconn] at hsession
          exact inv.finish hsession

/-- The run lemma. -/
theorem run (inv : db.Inv engine initial) (actions : List (DbAction α ε)) :
    (db.run engine actions).Inv engine initial := by
  induction actions generalizing db with
  | nil => exact inv
  | cons action actions ih => exact ih (inv.step action)

end Database.Inv

theorem Database.inv_init (initial : Table) :
    (Database.init initial : Database α ε).Inv engine initial where
  committed := rfl
  serial := trivial
  reads _ _ h := nomatch h
  sessions _ := rfl

end Invariant

/-- Connections running `transaction` concurrently on one SQLite database, with
their statements interleaved in any order, leave it serializable: the table is
what the committed writing transactions do one after another in commit order,
each of them got the replies of that serial run, each committed read-only
transaction read one committed state, and at most one connection has
uncommitted writes. -/
theorem transactions_serializable {α ε : Type} (engine : OrderByCreatedAt) (initial : Table)
    (actions : List (DbAction α ε)) :
    Serializable engine initial ((Database.init initial).run engine actions) := by
  have inv : ((Database.init initial).run engine actions).Inv engine initial :=
    (Database.inv_init initial).run actions
  exact ⟨inv.toCommittedSerially, inv.one_writer⟩

/-! ## The write lock and the committed table -/

/-- The calls of the committed writing transactions, in commit order. -/
def Database.committedOps {α ε : Type} (db : Database α ε) : List GroupOp :=
  db.log.flatMap (List.map Prod.fst)

section Committed

variable {α ε : Type} {engine : OrderByCreatedAt} {initial : Table} {db : Database α ε}

/-- A transaction that has written read at the latest commit, so its table is
its own calls made on the committed table, with the replies it got. -/
theorem Database.Inv.writer_current (inv : db.Inv engine initial) {conn : Nat}
    {work : Work α ε} {snapshot : Option (Nat × Table)} {calls : Calls}
    (h : db.sessions conn = .active work snapshot true calls) :
    ∃ view, snapshot = some (db.log.length, view) ∧
      GroupOp.replay engine (calls.map Prod.fst) db.table = (calls.map Prod.snd, view) := by
  have hsession := inv.sessions conn
  rw [h] at hsession
  rcases snapshot with _ | ⟨n, view⟩
  · exact absurd hsession.2.1 (by decide)
  · obtain ⟨-, hreplay, -, hcurrent, -⟩ := hsession
    obtain rfl := hcurrent rfl
    rw [committedAt_length, ← inv.committed] at hreplay
    exact ⟨view, rfl, hreplay⟩

end Committed

/-- In every run the write lock is held by exactly the connection whose open
transaction has written, so no commit, rollback or refused write leaves it
held; and that transaction read at the latest commit, so its table is its own
calls made on the committed table, with the replies it got, and its commit
loses no committed update. -/
theorem writeLock_held_by_writer {α ε : Type} (engine : OrderByCreatedAt) (initial : Table)
    (actions : List (DbAction α ε)) (conn : Nat) :
    (((Database.init initial).run engine actions).writer = some conn ↔
      ((Database.init initial).run engine actions).writing conn = true) ∧
    ∀ (work : Work α ε) snapshot calls,
      ((Database.init initial).run engine actions).sessions conn =
          .active work snapshot true calls →
        ∃ view, snapshot = some (((Database.init initial).run engine actions).log.length, view) ∧
          GroupOp.replay engine (calls.map Prod.fst)
              ((Database.init initial).run engine actions).table =
            (calls.map Prod.snd, view) := by
  have inv : ((Database.init initial).run engine actions).Inv engine initial :=
    (Database.inv_init initial).run actions
  exact ⟨by simp [inv.writing_eq], fun _ _ _ => inv.writer_current⟩

/-- In every run the committed table keeps every initial row, with the columns
written at insert and the state and clock reading of the last committed update
on it in commit order, and after them holds only rows that committed inserts
carried: a transaction that rolls back, and a write refused for the lock, leave
no row and no update behind. -/
theorem committedTable_history {α ε : Type} (engine : OrderByCreatedAt) (initial : Table)
    (actions : List (DbAction α ε)) :
    RunHistory initial ((Database.init initial).run engine actions).committedOps
      ((Database.init initial).run engine actions).table := by
  have inv : ((Database.init initial).run engine actions).Inv engine initial :=
    (Database.inv_init initial).run actions
  rw [inv.committed]
  exact GroupOp.run_history engine _ initial

/-! ## A transaction alone -/

namespace Work

variable {α ε : Type} (engine : OrderByCreatedAt)

/-- How many calls `work` makes when run alone from `table`. -/
def callCount : Work α ε → Table → Nat
  | done _, _ => 0
  | call op next, table =>
      (next (op.apply engine table).1).callCount (op.apply engine table).2 + 1

end Work

namespace Database

variable {α ε : Type} (engine : OrderByCreatedAt)

/-- How connection `conn` ends a transaction: the coordinator returned `result`,
the committed table is `table`, the connection is idle and the lock is free. -/
structure EndsAs (db after : Database α ε) (conn : Nat) (result : Except ε α) (table : Table) :
    Prop where
  returns : after.returns = db.returns ++ [(conn, result)]
  table : after.table = table
  idle : after.sessions conn = .idle
  unlocked : after.writer = none

/-- The rest of a transaction, stepped with no other connection in between:
from a snapshot at the latest commit, holding the lock if it has written and
with the lock free otherwise, it returns what its closure returns from its
table and commits that table after `Ok`. -/
theorem run_alone {conn : Nat} (work : Work α ε) : ∀ {db : Database α ε}
    {snapshot : Option (Nat × Table)} {writing : Bool} {calls : Calls} {view : Table},
    db.sessions conn = .active work snapshot writing calls →
    snapshot.getD (db.log.length, db.table) = (db.log.length, view) →
    (snapshot = none → writing = false) →
    (writing = true → db.writer = some conn) →
    (writing = false → db.writer = none ∧ view = db.table) →
    EndsAs db (db.run engine (List.replicate (work.callCount engine view + 1) (.step conn))) conn
      (work.run engine view).1
      (match (work.run engine view).1 with
        | .ok _ => (work.run engine view).2
        | .error _ => db.table) := by
  induction work with
  | done result =>
      intro db snapshot writing calls view hconn hread hnone _ hreading
      simp only [Work.callCount, List.replicate, run, List.foldl, step, hconn, Work.run]
      rcases snapshot with _ | ⟨n, snapshotView⟩
      · obtain rfl := hnone rfl
        obtain ⟨hfree, rfl⟩ := hreading rfl
        cases result <;> exact ⟨rfl, rfl, by simp [finish, endTransaction, returned], hfree⟩
      · obtain ⟨-, rfl⟩ : n = db.log.length ∧ snapshotView = view := by simpa using hread
        cases writing with
        | false =>
            obtain ⟨hfree, rfl⟩ := hreading rfl
            cases result <;> exact ⟨rfl, rfl, by simp [finish, endTransaction, returned], hfree⟩
        | true =>
            cases result <;> exact ⟨rfl, rfl, by simp [finish, endTransaction, returned], rfl⟩
  | call op next ih =>
      intro db snapshot writing calls view hconn hread _ hwriting hreading
      rcases hop : op.apply engine view with ⟨reply, after⟩
      -- the statement is not refused: the lock is ours or free, at the latest commit
      have hgranted : (op.writes && !writing && db.locked db.log.length) = false := by
        cases writing with
        | true => simp
        | false => simp [locked, (hreading rfl).1]
      set next₁ : Database α ε :=
        { db.setSession conn (.active (next reply) (some (db.log.length, after))
            (writing || op.writes) (calls ++ [(op, reply)])) with
          writer := if writing || op.writes then some conn else db.writer } with hnext₁
      have hstep : db.step engine (.step conn) = next₁ := by
        simp only [step, hconn, hread, call, hgranted, hop]
        rfl
      have hconn₁ : next₁.sessions conn = .active (next reply) (some (db.log.length, after))
          (writing || op.writes) (calls ++ [(op, reply)]) := by
        simp [hnext₁]
      have hafter := ih reply hconn₁ rfl nofun (fun hw => by simp [hnext₁, hw]) (fun hw => ?_)
      · have hcount : (Work.call op next).callCount engine view =
            (next reply).callCount engine after + 1 := by
          simp only [Work.callCount, hop]
        have hrun : (Work.call op next).run engine view = (next reply).run engine after := by
          rw [Work.run, hop]
        rw [hcount, hrun, List.replicate_succ, run, List.foldl_cons, hstep]
        exact ⟨hafter.returns, hafter.table, hafter.idle, hafter.unlocked⟩
      · simp only [Bool.or_eq_false_iff] at hw
        obtain ⟨hfree, rfl⟩ := hreading hw.1
        have hsame : (op.apply engine db.table).2 = db.table := GroupOp.apply_of_writes_false hw.2 _
        rw [hop] at hsame
        simp [hnext₁, hw.1, hw.2, hfree, ← hsame]

/-- A transaction that no other connection interleaves with, begun while no
other connection holds the write lock, ends as `transaction` does on a
connection of its own whose manager always succeeds: the coordinator returns
the same result, and the same table is committed. -/
theorem transaction_alone (fromDiesel : DieselError → ε) {db : Database α ε} {conn : Nat}
    (hidle : db.sessions conn = .idle) (hfree : db.writer = none) (work : Work α ε) :
    EndsAs db (db.run engine (.begin conn work ::
        List.replicate (work.callCount engine db.table + 1) (.step conn))) conn
      (runTransaction engine ⟨none, none, none⟩ fromDiesel work ⟨db.table, [], []⟩).1
      (runTransaction engine ⟨none, none, none⟩ fromDiesel work ⟨db.table, [], []⟩).2.table := by
  have hbegin : db.step engine (.begin conn work) =
      db.setSession conn (.active work none false []) := by
    simp [step, Database.begin, hidle]
  have hconn : (db.setSession conn (.active work none false [])).sessions conn =
      .active work none false [] := by
    simp
  have halone := run_alone engine work hconn rfl (fun _ => rfl) nofun (fun _ => ⟨hfree, rfl⟩)
  rw [run, List.foldl_cons, hbegin]
  rcases hwork : work.run engine db.table with ⟨_ | value, table⟩
  · rw [runTransaction_of_error engine _ fromDiesel rfl hwork]
    simp only [setSession_table, hwork] at halone
    exact ⟨halone.returns, halone.table, halone.idle, halone.unlocked⟩
  · rw [runTransaction_of_ok engine _ fromDiesel rfl hwork]
    simp only [setSession_table, hwork] at halone
    exact ⟨halone.returns, halone.table, halone.idle, halone.unlocked⟩

end Database

/-- A closure that stores the welcomed group and returns. -/
def storeWelcomed : Work Unit StorageError := .call (.store welcomedGroup) fun _ => .done (.ok ())

theorem transaction_alone_storeWelcomed :
    (Database.init .empty : Database Unit StorageError).sessions 0 = .idle ∧
      (Database.init .empty : Database Unit StorageError).writer = none ∧
      Database.EndsAs (Database.init .empty)
        ((Database.init .empty).run .stable
          (.begin 0 storeWelcomed :: List.replicate (storeWelcomed.callCount .stable .empty + 1) (.step 0)))
        0 (runTransaction .stable ⟨none, none, none⟩ StorageError.dieselResult storeWelcomed
            ⟨.empty, [], []⟩).1
          (runTransaction .stable ⟨none, none, none⟩ StorageError.dieselResult storeWelcomed
            ⟨.empty, [], []⟩).2.table :=
  ⟨rfl, rfl, Database.transaction_alone .stable StorageError.dieselResult rfl rfl storeWelcomed⟩

end EncryptedStore
