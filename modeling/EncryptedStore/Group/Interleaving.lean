import EncryptedStore.Group.Runs
import Mathlib.Logic.Function.Basic

/-!
# Connections interleaving the group store's statements

Outside a transaction each statement is atomic, so connections interleave
statements, not calls: `insert_or_replace_group` is its `INSERT … ON CONFLICT DO
NOTHING RETURNING` and then, when that was skipped, its `SELECT` by id, and a
`Vec` store is one `INSERT` per item.  Every run is linearizable.
-/

namespace EncryptedStore

/-- Where a connection is in its current call. -/
inductive Pending where
  | idle
  | readBack (group : StoredGroup)
  | storing (groups : List StoredGroup)

/-- All connections on one table: where each is, the calls completed so far
with their replies, and the rows the inserts added, in order. -/
structure System where
  table : Table
  pending : Nat → Pending
  history : List (GroupOp × Except StorageError Reply)
  inserted : List StoredGroup

/-- One atomic statement: connection `conn` starts a call, or makes the next
statement of the call it is in. -/
inductive Action where
  | start (conn : Nat) (op : GroupOp)
  | resume (conn : Nat)

/-- The rows a statement added: those after the rows it found. -/
def newRows (before after : Table) : List StoredGroup := after.rows.drop before.rows.length

theorem GroupOp.apply_newRows (engine : OrderByCreatedAt) (op : GroupOp) (table : Table) :
    (op.apply engine table).2.rows.map StoredGroup.identity =
      (table.rows ++ newRows table (op.apply engine table).2).map StoredGroup.identity := by
  obtain ⟨added, -, hrows⟩ := GroupOp.apply_identities engine op table
  rw [List.map_append, newRows, List.map_drop, hrows, List.map_append,
    List.drop_left' (List.length_map _ _)]

namespace System

variable (engine : OrderByCreatedAt)

def init (table : Table) : System := ⟨table, fun _ => .idle, [], []⟩

/-- A call completes with `result`: its reply goes into the history, the
connections are left at `pending`, and the rows its insert added at `added`. -/
def complete (sys : System) (op : GroupOp) (result : Except StorageError Reply × Table)
    (pending : Nat → Pending) (added : List StoredGroup) : System :=
  ⟨result.2, pending, sys.history ++ [(op, result.1)], sys.inserted ++ added⟩

/-- A call of one statement, made on the current table. -/
def completeAlone (sys : System) (op : GroupOp) (pending : Nat → Pending) : System :=
  sys.complete op (op.apply engine sys.table) pending
    (newRows sys.table (op.apply engine sys.table).2)

/-- The next `INSERT` of `Vec::store`: the loop goes on after `Ok` and returns
the first error. -/
def storeNext (sys : System) (conn : Nat) : List StoredGroup → System
  | [] => { sys with pending := Function.update sys.pending conn .idle }
  | group :: rest =>
      sys.completeAlone engine (.store group) (Function.update sys.pending conn
        (if ((GroupOp.store group).apply engine sys.table).1.toBool then .storing rest else .idle))

/-- The first statement of a call on an idle connection. -/
def startCall (sys : System) (conn : Nat) : GroupOp → System
  | .insertOrReplaceGroup group =>
      match sys.table.insertOnConflictDoNothing group with
      | (some inserted, table) =>
          sys.complete (.insertOrReplaceGroup group) (.ok (.group inserted), table) sys.pending
            [inserted]
      | (none, _) => { sys with pending := Function.update sys.pending conn (.readBack group) }
  | .storeVec groups => sys.storeNext engine conn groups
  | op => sys.completeAlone engine op sys.pending

def step (sys : System) : Action → System
  | .start conn op =>
      match sys.pending conn with
      | .idle => sys.startCall engine conn op
      | _ => sys
  | .resume conn =>
      match sys.pending conn with
      | .idle => sys
      | .readBack group =>
          sys.complete (.insertOrReplaceGroup group)
            ((readBackExistingGroup group sys.table).map .group, sys.table)
            (Function.update sys.pending conn .idle) []
      | .storing groups => sys.storeNext engine conn groups

def run (sys : System) (actions : List Action) : System := actions.foldl (step engine) sys

/-- The table the `i`-th completed call saw at its point in the history: the
replay from `initial` of the calls completed before it. -/
def tableAt (sys : System) (initial : Table) (i : Nat) : Table :=
  (GroupOp.replay engine ((sys.history.map Prod.fst).take i) initial).2

@[simp] theorem complete_table (sys : System) (op : GroupOp) result pending added :
    (sys.complete op result pending added).table = result.2 := rfl

@[simp] theorem complete_pending (sys : System) (op : GroupOp) result pending added :
    (sys.complete op result pending added).pending = pending := rfl

@[simp] theorem complete_history (sys : System) (op : GroupOp) result pending added :
    (sys.complete op result pending added).history = sys.history ++ [(op, result.1)] := rfl

@[simp] theorem complete_inserted (sys : System) (op : GroupOp) result pending added :
    (sys.complete op result pending added).inserted = sys.inserted ++ added := rfl

variable {engine}

theorem tableAt_complete {sys : System} {initial : Table} {i : Nat} (op : GroupOp) result pending
    added (hi : i ≤ sys.history.length) :
    (sys.complete op result pending added).tableAt engine initial i =
      sys.tableAt engine initial i := by
  simp [tableAt, List.take_append_of_le_length, hi]

end System

/-! ## What every run keeps -/

/-- What a completed `insert_or_replace_group` of `group` answered, given
`before`, the table at its point in the history, and `winner`, the row first
stored under its key: a fresh key makes the call the winner; otherwise the reply
is the duplicate-welcome error exactly when the welcome ids are equal, and the
stored row, with the winner's identity, when they are not. -/
structure AnsweredAs (before : Table) (winner group : StoredGroup)
    (response : Except StorageError Reply) : Prop where
  won : before.find group.id = none → winner = group ∧ response = .ok (.group group)
  lost : ∀ existing, before.find group.id = some existing →
    existing.identity = winner.identity ∧
      response = if winner.welcomeId = group.welcomeId then
        .error (.duplicate (.welcomeId winner.welcomeId))
      else .ok (.group existing)
  not_notFound : response ≠ .error (.dieselResult .notFound)

/-- The system after a run from `initial` is linearizable: the history replays
to the same replies and table; each key was inserted at most once, so the table
holds the initial and the inserted rows with their identities; and each
`insert_or_replace_group` answered as `AnsweredAs` says against the winner of
its key. -/
structure Linearizable (engine : OrderByCreatedAt) (initial : Table) (sys : System) : Prop where
  replay : GroupOp.replay engine (sys.history.map Prod.fst) initial =
    (sys.history.map Prod.snd, sys.table)
  inserted_once : (initial.ids ++ sys.inserted.map StoredGroup.id).Nodup
  identities :
    sys.table.rows.map StoredGroup.identity = (initial.rows ++ sys.inserted).map StoredGroup.identity
  answers : ∀ i group response,
    sys.history[i]? = some (.insertOrReplaceGroup group, response) →
      ∃ winner ∈ initial.rows ++ sys.inserted, winner.id = group.id ∧
        AnsweredAs (sys.tableAt engine initial i) winner group response

/-- The invariant: linearizable so far, and every `SELECT` still to run has its
row, since no statement deletes one. -/
structure System.Inv (engine : OrderByCreatedAt) (initial : Table) (sys : System)
    extends Linearizable engine initial sys : Prop where
  readBack_mem : ∀ conn group, sys.pending conn = .readBack group → group.id ∈ sys.table.ids

namespace System

variable {engine : OrderByCreatedAt} {initial : Table} {sys : System}

theorem inv_init (initial : Table) : Inv engine initial (init initial) where
  replay := rfl
  inserted_once := by simpa [Table.ids, init] using initial.ids_nodup
  identities := by simp [init]
  answers _ _ _ h := by simp [init] at h
  readBack_mem _ _ h := nomatch h

theorem Inv.tableAt_length (inv : Inv engine initial sys) :
    sys.tableAt engine initial sys.history.length = sys.table := by
  rw [tableAt, List.take_of_length_le (by simp), inv.replay]

/-- A change of where connections are that adds no `SELECT` to run. -/
theorem Inv.setPending (inv : Inv engine initial sys) {pending : Nat → Pending}
    (hpending : ∀ conn group, pending conn = .readBack group → sys.pending conn = .readBack group) :
    Inv engine initial { sys with pending := pending } :=
  ⟨⟨inv.replay, inv.inserted_once, inv.identities, inv.answers⟩,
    fun conn group h => inv.readBack_mem conn group (hpending conn group h)⟩

/-- A completing call keeps the invariant when it is the call made alone on the
current table, keeps the identities, and answers as `AnsweredAs` says. -/
theorem Inv.complete (inv : Inv engine initial sys) {op : GroupOp}
    {result : Except StorageError Reply × Table} (hresult : op.apply engine sys.table = result)
    {pending : Nat → Pending} {added : List StoredGroup}
    (hidentities : result.2.rows.map StoredGroup.identity =
      (initial.rows ++ (sys.inserted ++ added)).map StoredGroup.identity)
    (hanswer : ∀ group, op = .insertOrReplaceGroup group →
      ∃ winner ∈ initial.rows ++ (sys.inserted ++ added), winner.id = group.id ∧
        AnsweredAs sys.table winner group result.1)
    (hpending : ∀ conn group, pending conn = .readBack group → sys.pending conn = .readBack group) :
    Inv engine initial (sys.complete op result pending added) where
  replay := by simp [GroupOp.replay_append_singleton, inv.replay, hresult]
  inserted_once := by simpa using Table.nodup_of_identities hidentities
  identities := hidentities
  answers i group response hentry := by
    rcases Nat.lt_or_ge i sys.history.length with hi | hi
    · rw [complete_history, List.getElem?_append_left hi] at hentry
      obtain ⟨winner, hwinner, hid, hanswered⟩ := inv.answers i group response hentry
      refine ⟨winner, by
        rw [complete_inserted, ← List.append_assoc]; exact List.mem_append_left _ hwinner, hid, ?_⟩
      rwa [tableAt_complete op result pending added hi.le]
    · rw [complete_history, List.getElem?_append_right hi] at hentry
      obtain rfl : i = sys.history.length := by
        by_contra hne
        rw [List.getElem?_eq_none (by simp only [List.length_singleton]; omega)] at hentry
        cases hentry
      obtain ⟨rfl, rfl⟩ : op = .insertOrReplaceGroup group ∧ result.1 = response := by
        simpa using hentry
      rw [tableAt_complete _ _ _ _ le_rfl, inv.tableAt_length]
      exact hanswer group rfl
  readBack_mem conn group hreadBack := by
    have hmem := inv.readBack_mem conn group (hpending conn group hreadBack)
    rw [Table.ids_eq_of_identities inv.identities] at hmem
    rw [complete_table, Table.ids_eq_of_identities hidentities, ← List.append_assoc,
      List.map_append]
    exact List.mem_append_left _ hmem

/-- A call of one statement other than `insert_or_replace_group` keeps the
invariant: it adds only the rows it inserts. -/
theorem Inv.completeAlone (inv : Inv engine initial sys) {op : GroupOp}
    (hop : ∀ group, op ≠ .insertOrReplaceGroup group) {pending : Nat → Pending}
    (hpending : ∀ conn group, pending conn = .readBack group → sys.pending conn = .readBack group) :
    Inv engine initial (sys.completeAlone engine op pending) :=
  inv.complete rfl
    (by rw [GroupOp.apply_newRows, List.map_append, inv.identities, ← List.map_append,
      List.append_assoc])
    (fun group h => absurd h (hop group)) hpending

theorem Inv.storeNext (inv : Inv engine initial sys) (conn : Nat) :
    ∀ groups, Inv engine initial (sys.storeNext engine conn groups)
  | [] => inv.setPending fun other group h => by
      by_cases hother : other = conn
      · subst hother
        simp at h
      · simpa [hother] using h
  | group :: _ => inv.completeAlone (by intro _ h; cases h) fun other candidate h => by
      by_cases hother : other = conn
      · subst hother
        simp only [Function.update_same] at h
        split at h <;> cases h
      · simpa [hother] using h

/-- An insert that runs on a fresh key completes its call as the key's winner;
one that is skipped leaves its connection waiting on the `SELECT`, for a key
that is taken. -/
theorem Inv.startCall (inv : Inv engine initial sys) (conn : Nat) :
    ∀ op, Inv engine initial (sys.startCall engine conn op)
  | .insertOrReplaceGroup group => by
      by_cases taken : group.id ∈ sys.table.ids
      · have hskip : sys.startCall engine conn (.insertOrReplaceGroup group) =
            { sys with pending := Function.update sys.pending conn (.readBack group) } := by
          simp [System.startCall, Table.insertOnConflictDoNothing, taken]
        rw [hskip]
        refine ⟨⟨inv.replay, inv.inserted_once, inv.identities, inv.answers⟩,
          fun other candidate hreadBack => ?_⟩
        by_cases hother : other = conn
        · subst hother
          obtain rfl : group = candidate := by simpa using hreadBack
          exact taken
        · exact inv.readBack_mem other candidate (by simpa [hother] using hreadBack)
      · have hfind := Table.find_eq_none.mpr taken
        have hinsert : sys.startCall engine conn (.insertOrReplaceGroup group) =
            sys.complete (.insertOrReplaceGroup group)
              (.ok (.group group), sys.table.append group taken) sys.pending [group] := by
          simp [System.startCall, Table.insertOnConflictDoNothing, taken]
        rw [hinsert]
        refine inv.complete ?_ (by simp [inv.identities]) ?_ (fun _ _ h => h)
        · rw [GroupOp.apply, insertOrReplaceGroup_of_find_none hfind]; rfl
        · rintro _ ⟨⟩
          exact ⟨group, by simp, rfl, fun _ => ⟨rfl, rfl⟩, fun _ h => by simp [hfind] at h, nofun⟩
  | .storeVec groups => inv.storeNext conn groups
  | .store _ | .updateGroupMembership _ _ | .updateInstallationsTimeChecked _ _ | .findGroups .. |
    .findSyncGroups | .findGroup _ | .findGroupByWelcomeId _ | .fetch _ |
    .getInstallationsTimeChecked _ => inv.completeAlone (by intro _ h; cases h) fun _ _ h => h

/-- The `SELECT` of a skipped insert finds its row, since no statement deletes
one, and completes the call as if it were made alone at that point. -/
theorem Inv.readBack (inv : Inv engine initial sys) {conn : Nat} {group : StoredGroup}
    (hpending : sys.pending conn = .readBack group) :
    Inv engine initial (sys.complete (.insertOrReplaceGroup group)
      ((readBackExistingGroup group sys.table).map .group, sys.table)
      (Function.update sys.pending conn .idle) []) := by
  obtain ⟨existing, hfind⟩ : ∃ existing, sys.table.find group.id = some existing :=
    Option.ne_none_iff_exists'.mp
      (mt Table.find_eq_none.mp (not_not_intro (inv.readBack_mem conn group hpending)))
  have hstored := Table.find_eq_some.mp hfind
  have hmem : existing.identity ∈ (initial.rows ++ sys.inserted).map StoredGroup.identity :=
    inv.identities ▸ List.mem_map_of_mem _ hstored.1
  obtain ⟨winner, hwinner, hidentity⟩ := List.mem_map.mp hmem
  have hwelcome : winner.welcomeId = existing.welcomeId := by
    simpa using congrArg GroupIdentity.welcomeId hidentity
  refine inv.complete (by simp [GroupOp.apply, mapReply, insertOrReplaceGroup_of_find_some hfind])
    (by simpa using inv.identities) ?_ ?_
  · rintro _ ⟨⟩
    refine ⟨winner, by simpa using hwinner,
      by simpa [hstored.2] using congrArg GroupIdentity.id hidentity,
      fun hnone => by simp [hfind] at hnone, fun other hother => ?_, ?_⟩
    · obtain rfl : existing = other := by simpa [hfind] using hother
      refine ⟨hidentity.symm, ?_⟩
      rw [readBackExistingGroup_of_find hfind, hwelcome]
      split <;> rfl
    · rw [readBackExistingGroup_of_find hfind]
      split <;> nofun
  · intro other candidate hreadBack
    by_cases hother : other = conn
    · subst hother
      simp at hreadBack
    · simpa [hother] using hreadBack

/-- The step lemma: every action keeps the invariant. -/
theorem Inv.step (inv : Inv engine initial sys) : ∀ action, Inv engine initial (sys.step engine action)
  | .start conn op => by
      simp only [System.step]
      split
      · exact inv.startCall conn op
      · exact inv
  | .resume conn => by
      simp only [System.step]
      split
      · exact inv
      · next group hpending => exact inv.readBack hpending
      · exact inv.storeNext conn _

/-- The run lemma: every run keeps the invariant. -/
theorem Inv.run (inv : Inv engine initial sys) (actions : List Action) :
    Inv engine initial (sys.run engine actions) := by
  induction actions generalizing sys with
  | nil => exact inv
  | cons action actions ih => exact ih (inv.step action)

/-! ## What one statement does -/

variable (engine) (sys)

/-- The `INSERT` of `insert_or_replace_group` on a fresh key inserts the
candidate and completes the call with it. -/
theorem step_start_fresh {conn : Nat} {group : StoredGroup} (hidle : sys.pending conn = .idle)
    (fresh : group.id ∉ sys.table.ids) :
    (sys.step engine (.start conn (.insertOrReplaceGroup group))).history =
        sys.history ++ [(.insertOrReplaceGroup group, .ok (.group group))] ∧
      (sys.step engine (.start conn (.insertOrReplaceGroup group))).table.rows =
        sys.table.rows ++ [group] := by
  simp [System.step, hidle, System.startCall, Table.insertOnConflictDoNothing, fresh]

/-- On a taken key the `INSERT` is skipped: the call has not completed, and its
connection waits on the `SELECT`. -/
theorem step_start_taken {conn : Nat} {group : StoredGroup} (hidle : sys.pending conn = .idle)
    (taken : group.id ∈ sys.table.ids) :
    (sys.step engine (.start conn (.insertOrReplaceGroup group))).history = sys.history ∧
      (sys.step engine (.start conn (.insertOrReplaceGroup group))).pending conn =
        .readBack group := by
  simp [System.step, hidle, System.startCall, Table.insertOnConflictDoNothing, taken]

/-- The `SELECT` completes the call and frees its connection. -/
theorem step_resume_readBack {conn : Nat} {group : StoredGroup}
    (hpending : sys.pending conn = .readBack group) :
    (sys.step engine (.resume conn)).history = sys.history ++
        [(.insertOrReplaceGroup group, (readBackExistingGroup group sys.table).map .group)] ∧
      (sys.step engine (.resume conn)).pending conn = .idle := by
  simp [System.step, hpending]

/-- Each `INSERT` of a `Vec::store`, the first when the call starts and each
next one when its connection resumes, completes that item's `store` on the
current table. -/
theorem step_storeVec {conn : Nat} {group : StoredGroup} {rest : List StoredGroup} :
    (sys.pending conn = .idle →
      (sys.step engine (.start conn (.storeVec (group :: rest)))).history =
          sys.history ++ [(.store group, ((GroupOp.store group).apply engine sys.table).1)] ∧
        (sys.step engine (.start conn (.storeVec (group :: rest)))).table =
          ((GroupOp.store group).apply engine sys.table).2) ∧
    (sys.pending conn = .storing (group :: rest) →
      (sys.step engine (.resume conn)).history =
          sys.history ++ [(.store group, ((GroupOp.store group).apply engine sys.table).1)] ∧
        (sys.step engine (.resume conn)).table =
          ((GroupOp.store group).apply engine sys.table).2) :=
  ⟨fun hidle => by simp [System.step, hidle, System.startCall, System.storeNext,
      System.completeAlone],
    fun hstoring => by simp [System.step, hstoring, System.storeNext, System.completeAlone]⟩

/-- A call of one statement completes at once, made on the current table. -/
theorem step_start_alone {conn : Nat} {op : GroupOp} (hidle : sys.pending conn = .idle)
    (hinsert : ∀ group, op ≠ .insertOrReplaceGroup group)
    (hvec : ∀ groups, op ≠ .storeVec groups) :
    (sys.step engine (.start conn op)).history = sys.history ++ [(op, (op.apply engine sys.table).1)] ∧
      (sys.step engine (.start conn op)).table = (op.apply engine sys.table).2 := by
  have halone : sys.startCall engine conn op = sys.completeAlone engine op sys.pending := by
    cases op <;> first | rfl | exact absurd rfl (hinsert _) | exact absurd rfl (hvec _)
  simp [System.step, hidle, halone, System.completeAlone]

end System

end EncryptedStore
