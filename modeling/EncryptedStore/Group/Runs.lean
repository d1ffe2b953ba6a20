import EncryptedStore.Group.Writes

/-!
# Runs of the group store

A run is any sequence of the group store's calls on one connection.  What one
call does to a stored row is said once, by `GroupOp.touch`, so a row is never
lost, keeps its insert-time columns, and holds the last update of the others.
-/

namespace EncryptedStore

/-- One call of the group store's API. -/
inductive GroupOp where
  | store (group : StoredGroup)
  | storeVec (groups : List StoredGroup)
  | insertOrReplaceGroup (group : StoredGroup)
  | updateGroupMembership (groupId : ID) (state : GroupMembershipState)
  | updateInstallationsTimeChecked (groupId : ID) (now : Int)
  | findGroups (allowedStates : Option (List GroupMembershipState))
      (createdAfterNs createdBeforeNs limit : Option Int) (includeDmGroups : Bool)
  | findSyncGroups
  | findGroup (id : ID)
  | findGroupByWelcomeId (welcomeId : Int)
  | fetch (id : ID)
  | getInstallationsTimeChecked (groupId : ID)

/-- What a call returns. -/
inductive Reply where
  | unit
  | group (group : StoredGroup)
  | groups (groups : List StoredGroup)
  | maybeGroup (group : Option StoredGroup)
  | timestamp (ns : Int)

def mapReply {α : Type} (reply : α → Reply) (result : Except StorageError α × Table) :
    Except StorageError Reply × Table :=
  (result.1.map reply, result.2)

namespace GroupOp

def apply (engine : OrderByCreatedAt) : GroupOp → Table → Except StorageError Reply × Table
  | store group, table => mapReply (fun _ => .unit) (group.store table)
  | storeVec groups, table => mapReply (fun _ => .unit) (EncryptedStore.storeVec StoredGroup.store groups table)
  | insertOrReplaceGroup group, table => mapReply .group (EncryptedStore.insertOrReplaceGroup group table)
  | updateGroupMembership groupId state, table =>
      mapReply (fun _ => .unit) (EncryptedStore.updateGroupMembership groupId state table)
  | updateInstallationsTimeChecked groupId now, table =>
      mapReply (fun _ => .unit) (EncryptedStore.updateInstallationsTimeChecked now groupId table)
  | findGroups allowedStates createdAfterNs createdBeforeNs limit includeDmGroups, table =>
      (.ok (.groups (EncryptedStore.findGroups engine table allowedStates createdAfterNs
        createdBeforeNs limit includeDmGroups)), table)
  | findSyncGroups, table => (.ok (.groups (EncryptedStore.findSyncGroups engine table)), table)
  | findGroup id, table => (.ok (.maybeGroup (EncryptedStore.findGroup engine table id)), table)
  | findGroupByWelcomeId welcomeId, table =>
      (.ok (.maybeGroup (EncryptedStore.findGroupByWelcomeId engine table welcomeId)), table)
  | fetch id, table => (.ok (.maybeGroup (EncryptedStore.fetch table id)), table)
  | getInstallationsTimeChecked groupId, table =>
      ((EncryptedStore.getInstallationsTimeChecked groupId table).map .timestamp, table)

/-- The table after a run. -/
def run (engine : OrderByCreatedAt) (ops : List GroupOp) (table : Table) : Table :=
  ops.foldl (fun table op => (op.apply engine table).2) table

/-- Calls made one after another from `table`: their replies and the last table. -/
def replay (engine : OrderByCreatedAt) : List GroupOp → Table →
    List (Except StorageError Reply) × Table
  | [], table => ([], table)
  | op :: ops, table =>
      ((op.apply engine table).1 :: (replay engine ops (op.apply engine table).2).1,
        (replay engine ops (op.apply engine table).2).2)

theorem replay_snd (engine : OrderByCreatedAt) (ops : List GroupOp) (table : Table) :
    (replay engine ops table).2 = run engine ops table := by
  induction ops generalizing table with
  | nil => rfl
  | cons op ops ih => exact ih _

theorem replay_append_singleton (engine : OrderByCreatedAt) (ops : List GroupOp) (op : GroupOp)
    (table : Table) :
    replay engine (ops ++ [op]) table =
      ((replay engine ops table).1 ++ [(op.apply engine (replay engine ops table).2).1],
        (op.apply engine (replay engine ops table).2).2) := by
  induction ops generalizing table with
  | nil => rfl
  | cons first ops ih => simp [replay, ih]

/-- What a call does to a row already stored: the two updates assign their
column when the key is the row's, every other call leaves it alone. -/
def touch : GroupOp → StoredGroup → StoredGroup
  | updateGroupMembership groupId state => Table.assignRow groupId (.membershipState state)
  | updateInstallationsTimeChecked groupId now => Table.assignRow groupId (.installationsLastChecked now)
  | _ => id

/-- The state the call sets on the row with key `id`, if it sets one. -/
def membershipSetOn (id : ID) : GroupOp → Option GroupMembershipState
  | updateGroupMembership groupId state => if groupId = id then some state else none
  | _ => none

/-- The clock reading the call stores on the row with key `id`, if it stores one. -/
def installationsSetOn (id : ID) : GroupOp → Option Int
  | updateInstallationsTimeChecked groupId now => if groupId = id then some now else none
  | _ => none

end GroupOp

/-! ## One call -/

section Step

variable {engine : OrderByCreatedAt} {table : Table} {row : StoredGroup}

theorem Table.find_append_of_find {group : StoredGroup} (fresh : group.id ∉ table.ids)
    (h : table.find row.id = some row) : (table.append group fresh).find row.id = some row := by
  have hne : group.id ≠ row.id := fun hsame =>
    fresh (hsame ▸ List.mem_map_of_mem _ (Table.find_eq_some.mp h).1)
  rw [Table.find_append, if_neg hne, h]

theorem storeVec_find (groups : List StoredGroup) (h : table.find row.id = some row) :
    (storeVec StoredGroup.store groups table).2.find row.id = some row := by
  induction groups generalizing table with
  | nil => exact h
  | cons group groups ih =>
      by_cases taken : group.id ∈ table.ids
      · simpa [storeVec, store_of_mem taken] using h
      · simpa [storeVec, store_of_not_mem taken] using ih (Table.find_append_of_find taken h)

/-- The step lemma: every call keeps a stored row, changed only by `touch`. -/
theorem GroupOp.apply_find (op : GroupOp) (h : table.find row.id = some row) :
    (op.apply engine table).2.find row.id = some (op.touch row) := by
  cases op with
  | store group =>
      by_cases taken : group.id ∈ table.ids
      · simpa [apply, mapReply, store_of_mem taken, touch] using h
      · simpa [apply, mapReply, store_of_not_mem taken, touch] using
          Table.find_append_of_find taken h
  | storeVec groups => simpa [apply, mapReply, touch] using storeVec_find groups h
  | insertOrReplaceGroup group =>
      cases hfind : table.find group.id with
      | none =>
          simpa [apply, mapReply, insertOrReplaceGroup_of_find_none hfind, touch] using
            Table.find_append_of_find (Table.find_eq_none.mp hfind) h
      | some existing =>
          simpa [apply, mapReply, insertOrReplaceGroup_of_find_some hfind, touch] using h
  | updateGroupMembership groupId state =>
      simp [apply, mapReply, EncryptedStore.updateGroupMembership, Table.find_update, h, touch]
  | updateInstallationsTimeChecked groupId now =>
      simp [apply, mapReply, EncryptedStore.updateInstallationsTimeChecked, Table.find_update, h, touch]
  | findGroups => exact h
  | findSyncGroups => exact h
  | findGroup => exact h
  | findGroupByWelcomeId => exact h
  | fetch => exact h
  | getInstallationsTimeChecked => exact h

@[simp] theorem GroupOp.touch_id (op : GroupOp) (row : StoredGroup) : (op.touch row).id = row.id := by
  cases op <;> simp [GroupOp.touch]

/-- The run lemma: a run keeps every stored row, changed by each call in turn. -/
theorem GroupOp.run_find (ops : List GroupOp) (h : table.find row.id = some row) :
    (GroupOp.run engine ops table).find row.id =
      some (ops.foldl (fun row op => op.touch row) row) := by
  induction ops generalizing table row with
  | nil => exact h
  | cons op ops ih =>
      have hstep : (op.apply engine table).2.find row.id = some (op.touch row) :=
        GroupOp.apply_find op h
      rw [← GroupOp.touch_id op row] at hstep
      simpa [GroupOp.run] using ih hstep

end Step

/-! ## The columns of a stored row along a run -/

section Columns

/-- A column that a call either sets, through `setOn`, or leaves alone ends a run
with the value of the last call that set it. -/
theorem foldl_touch_column {α : Type} (column : StoredGroup → α) (setOn : ID → GroupOp → Option α)
    (hstep : ∀ op row, column (op.touch row) = (setOn row.id op).getD (column row))
    (ops : List GroupOp) (row : StoredGroup) :
    column (ops.foldl (fun row op => op.touch row) row) =
      ((ops.filterMap (setOn row.id)).getLast?).getD (column row) := by
  induction ops generalizing row with
  | nil => rfl
  | cons op ops ih =>
      rw [List.foldl_cons, ih, GroupOp.touch_id, hstep, List.filterMap_cons]
      cases setOn row.id op <;> simp [List.getLast?_cons]

theorem GroupOp.touch_identity (op : GroupOp) (row : StoredGroup) :
    (op.touch row).identity = row.identity := by
  cases op <;> simp [GroupOp.touch]

theorem foldl_touch_identity (ops : List GroupOp) (row : StoredGroup) :
    (ops.foldl (fun row op => op.touch row) row).identity = row.identity := by
  induction ops generalizing row with
  | nil => rfl
  | cons op ops ih => rw [List.foldl_cons, ih, GroupOp.touch_identity]

theorem GroupOp.touch_membershipState (op : GroupOp) (row : StoredGroup) :
    (op.touch row).membershipState = (op.membershipSetOn row.id).getD row.membershipState := by
  cases op <;> simp only [GroupOp.touch, GroupOp.membershipSetOn, Table.assignRow, id,
    Option.getD_none] <;> split_ifs <;> simp_all [Table.Assignment.apply, eq_comm]

theorem GroupOp.touch_installationsLastChecked (op : GroupOp) (row : StoredGroup) :
    (op.touch row).installationsLastChecked =
      (op.installationsSetOn row.id).getD row.installationsLastChecked := by
  cases op <;> simp only [GroupOp.touch, GroupOp.installationsSetOn, Table.assignRow, id,
    Option.getD_none] <;> split_ifs <;> simp_all [Table.Assignment.apply, eq_comm]

end Columns

/-! ## Whole runs -/

section Runs

variable (engine : OrderByCreatedAt)

/-- Along any run from any table a stored row stays stored, keeps the columns
written at insert, has the state of the last `update_group_membership` on it
and the reading of the last `update_installations_time_checked` on it (the
inserted values when there is none); an update on a key with no row succeeds
and writes nothing. -/
theorem groupOps_row_history :
    (∀ (ops : List GroupOp) (table : Table), ∀ row ∈ table.rows,
      ∃ later, (GroupOp.run engine ops table).find row.id = some later ∧
        later.identity = row.identity ∧
        later.membershipState =
          ((ops.filterMap (GroupOp.membershipSetOn row.id)).getLast?).getD row.membershipState ∧
        later.installationsLastChecked =
          ((ops.filterMap (GroupOp.installationsSetOn row.id)).getLast?).getD
            row.installationsLastChecked) ∧
    ∀ (table : Table) (groupId : ID), groupId ∉ table.ids →
      (∀ state, updateGroupMembership groupId state table = (.ok (), table)) ∧
      ∀ now, updateInstallationsTimeChecked now groupId table = (.ok (), table) := by
  refine ⟨fun ops table row hrow => ⟨_, GroupOp.run_find ops (Table.find_of_mem hrow), ?_, ?_, ?_⟩,
    fun table groupId hmissing => ⟨fun state => ?_, fun now => ?_⟩⟩
  · exact foldl_touch_identity ops row
  · exact foldl_touch_column _ _ GroupOp.touch_membershipState ops row
  · exact foldl_touch_column _ _ GroupOp.touch_installationsLastChecked ops row
  · simp [updateGroupMembership, Table.update_of_not_mem _ hmissing]
  · simp [updateInstallationsTimeChecked, Table.update_of_not_mem _ hmissing]

/-- A call of `insert_or_replace_group` that returned its own candidate stored it. -/
theorem insertOrReplaceGroup_stored_of_ok {table : Table} {group : StoredGroup}
    (h : (insertOrReplaceGroup group table).1 = .ok group) :
    (insertOrReplaceGroup group table).2.find group.id = some group := by
  cases hfind : table.find group.id with
  | none => rw [insertOrReplaceGroup_of_find_none hfind, Table.find_append, if_pos rfl]
  | some existing =>
      rw [insertOrReplaceGroup_of_find_some hfind, readBackExistingGroup_of_find hfind] at h
      split at h
      · cases h
      · next hne => cases h; exact absurd rfl hne

/-- Applying a welcome is idempotent: once `insert_or_replace_group` has stored
its candidate, a later candidate with the same id and welcome id fails with the
duplicate-welcome error and writes nothing, whatever calls ran in between. -/
theorem insertOrReplaceGroup_welcome_idempotent (ops : List GroupOp) {table : Table}
    {group candidate : StoredGroup} (hfirst : (insertOrReplaceGroup group table).1 = .ok group)
    (hid : candidate.id = group.id) (hwelcome : candidate.welcomeId = group.welcomeId) :
    insertOrReplaceGroup candidate (GroupOp.run engine ops (insertOrReplaceGroup group table).2) =
      (.error (.duplicate (.welcomeId group.welcomeId)),
        GroupOp.run engine ops (insertOrReplaceGroup group table).2) := by
  have hlater : (GroupOp.run engine ops (insertOrReplaceGroup group table).2).find candidate.id =
      some (ops.foldl (fun row op => op.touch row) group) :=
    hid ▸ GroupOp.run_find ops (insertOrReplaceGroup_stored_of_ok hfirst)
  have hsame : (ops.foldl (fun row op => op.touch row) group).welcomeId = group.welcomeId :=
    congrArg GroupIdentity.welcomeId (foldl_touch_identity ops group)
  rw [insertOrReplaceGroup_of_find_some hlater, readBackExistingGroup_of_find hlater, hsame,
    hwelcome, if_pos rfl]

end Runs

/-- A group built from welcome `7`, still pending. -/
def welcomedGroup : StoredGroup := StoredGroup.newFromWelcome [1] 100 .pending "" 7 .conversation none

/-- The welcome applied to an empty store, the group accepted, and the same welcome
delivered again. -/
theorem insertOrReplaceGroup_welcome_idempotent_redelivered :
    (insertOrReplaceGroup welcomedGroup .empty).1 = .ok welcomedGroup ∧
      insertOrReplaceGroup welcomedGroup
          (GroupOp.run .stable [.updateGroupMembership [1] .allowed]
            (insertOrReplaceGroup welcomedGroup .empty).2) =
        (.error (.duplicate (.welcomeId welcomedGroup.welcomeId)),
          GroupOp.run .stable [.updateGroupMembership [1] .allowed]
            (insertOrReplaceGroup welcomedGroup .empty).2) :=
  ⟨rfl, insertOrReplaceGroup_welcome_idempotent .stable _ rfl rfl rfl⟩

/-! ## Where rows come from -/

/-- The groups a call may insert. -/
def GroupOp.candidates : GroupOp → List StoredGroup
  | .store group => [group]
  | .storeVec groups => groups
  | .insertOrReplaceGroup group => [group]
  | _ => []

section Origins

variable (engine : OrderByCreatedAt)

theorem storeVec_rows (groups : List StoredGroup) (table : Table) :
    ∃ added, added.Sublist groups ∧
      (storeVec StoredGroup.store groups table).2.rows = table.rows ++ added := by
  induction groups generalizing table with
  | nil => exact ⟨[], List.Sublist.slnil, by simp [storeVec]⟩
  | cons group groups ih =>
      by_cases taken : group.id ∈ table.ids
      · exact ⟨[], List.nil_sublist _, by simp [storeVec, store_of_mem taken]⟩
      · obtain ⟨added, hsub, hrows⟩ := ih (table.append group taken)
        exact ⟨group :: added, hsub.cons₂ group, by simpa [storeVec, store_of_not_mem taken] using hrows⟩

/-- The step lemma: a call keeps the identities of the rows it finds and adds
rows only from its own candidates, in their order. -/
theorem GroupOp.apply_identities (op : GroupOp) (table : Table) :
    ∃ added, added.Sublist op.candidates ∧
      (op.apply engine table).2.rows.map StoredGroup.identity =
        (table.rows ++ added).map StoredGroup.identity := by
  cases op
  case store group =>
    by_cases taken : group.id ∈ table.ids
    · exact ⟨[], List.nil_sublist _, by simp [apply, mapReply, store_of_mem taken]⟩
    · exact ⟨[group], List.Sublist.refl _, by simp [apply, mapReply, store_of_not_mem taken]⟩
  case storeVec groups =>
    obtain ⟨added, hsub, hrows⟩ := storeVec_rows groups table
    exact ⟨added, hsub, by simp [apply, mapReply, hrows]⟩
  case insertOrReplaceGroup group =>
    cases hfind : table.find group.id with
    | none =>
        exact ⟨[group], List.Sublist.refl _,
          by simp [apply, mapReply, insertOrReplaceGroup_of_find_none hfind]⟩
    | some existing =>
        exact ⟨[], List.nil_sublist _,
          by simp [apply, mapReply, insertOrReplaceGroup_of_find_some hfind]⟩
  -- the two updates assign columns outside the identity, and the reads write nothing
  all_goals exact ⟨[], List.nil_sublist _, by
    simp [apply, mapReply, EncryptedStore.updateGroupMembership,
      EncryptedStore.updateInstallationsTimeChecked, Function.comp_def]⟩

end Origins

/-- No call deletes a row, changes a column written at insert, or stores a row
out of nothing: after any run from any table, the table holds the initial rows,
each with its identity, then rows with the identities of some of the candidates
the run's inserts carried, in the order of the calls. -/
theorem groupOps_rows_from_inserts (engine : OrderByCreatedAt) (ops : List GroupOp)
    (table : Table) :
    ∃ added, added.Sublist (ops.flatMap GroupOp.candidates) ∧
      (GroupOp.run engine ops table).rows.map StoredGroup.identity =
        (table.rows ++ added).map StoredGroup.identity := by
  induction ops generalizing table with
  | nil => exact ⟨[], List.Sublist.slnil, by simp [GroupOp.run]⟩
  | cons op ops ih =>
      obtain ⟨first, hfirst, hstep⟩ := GroupOp.apply_identities engine op table
      obtain ⟨rest, hrest, hrun⟩ := ih (op.apply engine table).2
      refine ⟨first ++ rest, hfirst.append hrest, ?_⟩
      rw [GroupOp.run, List.foldl_cons, ← GroupOp.run, hrun, List.map_append, hstep]
      simp

/-- What a run of calls from `initial` leaves in `table`: every initial row, with
the columns written at insert, the state of the last `update_group_membership`
on it and the reading of the last `update_installations_time_checked` on it;
and after them only rows carried by the run's inserts, in the order of the calls. -/
structure RunHistory (initial : Table) (ops : List GroupOp) (table : Table) : Prop where
  kept : ∀ row ∈ initial.rows, ∃ later, table.find row.id = some later ∧
    later.identity = row.identity ∧
    later.membershipState =
      ((ops.filterMap (GroupOp.membershipSetOn row.id)).getLast?).getD row.membershipState ∧
    later.installationsLastChecked =
      ((ops.filterMap (GroupOp.installationsSetOn row.id)).getLast?).getD
        row.installationsLastChecked
  added : ∃ added, added.Sublist (ops.flatMap GroupOp.candidates) ∧
    table.rows.map StoredGroup.identity = (initial.rows ++ added).map StoredGroup.identity

theorem GroupOp.run_history (engine : OrderByCreatedAt) (ops : List GroupOp) (initial : Table) :
    RunHistory initial ops (GroupOp.run engine ops initial) where
  kept row hrow := ⟨_, GroupOp.run_find ops (Table.find_of_mem hrow),
    foldl_touch_identity ops row,
    foldl_touch_column _ _ GroupOp.touch_membershipState ops row,
    foldl_touch_column _ _ GroupOp.touch_installationsLastChecked ops row⟩
  added := groupOps_rows_from_inserts engine ops initial

/-! ## The installation clock -/

theorem getLast?_getD_mem {α : Type} (values : List α) (initial : α) :
    (values.getLast?).getD initial ∈ initial :: values := by
  cases hlast : values.getLast? with
  | none => exact List.mem_cons_self _ _
  | some last => exact List.mem_cons_of_mem _ (List.mem_of_getLast?_eq_some hlast)

/-- In a non-decreasing sequence the last value of a prefix is at most the last
value of the whole. -/
theorem getLast?_getD_le_append {initial : Int} {first second : List Int}
    (hsorted : (initial :: (first ++ second)).Sorted (· ≤ ·)) :
    (first.getLast?).getD initial ≤ ((first ++ second).getLast?).getD initial := by
  rw [List.getLast?_append]
  cases hlast : second.getLast? with
  | none => exact le_refl _
  | some last =>
      rw [← List.cons_append, List.Sorted, List.pairwise_append] at hsorted
      exact hsorted.2.2 _ (getLast?_getD_mem first initial) last
        (List.mem_of_getLast?_eq_some hlast)

section Clock

variable (engine : OrderByCreatedAt)

/-- `installations_last_checked` is the clock reading of the last
`update_installations_time_checked` on the group; so it does not decrease along a
run whose readings for the group never go back, and once set it is at least
`created_at_ns` when those readings are. -/
theorem installationsLastChecked_follows_clock (ops₁ ops₂ : List GroupOp) (table : Table)
    (row : StoredGroup) (hrow : row ∈ table.rows) :
    ∃ earlier later, (GroupOp.run engine ops₁ table).find row.id = some earlier ∧
      (GroupOp.run engine (ops₁ ++ ops₂) table).find row.id = some later ∧
      later.installationsLastChecked =
        (((ops₁ ++ ops₂).filterMap (GroupOp.installationsSetOn row.id)).getLast?).getD
          row.installationsLastChecked ∧
      ((row.installationsLastChecked ::
          (ops₁ ++ ops₂).filterMap (GroupOp.installationsSetOn row.id)).Sorted (· ≤ ·) →
        earlier.installationsLastChecked ≤ later.installationsLastChecked) ∧
      ((ops₁ ++ ops₂).filterMap (GroupOp.installationsSetOn row.id) ≠ [] →
        (∀ now ∈ (ops₁ ++ ops₂).filterMap (GroupOp.installationsSetOn row.id),
          row.createdAtNs ≤ now) →
        later.createdAtNs ≤ later.installationsLastChecked) := by
  have hfind := Table.find_of_mem hrow
  have hlater := foldl_touch_column _ _ GroupOp.touch_installationsLastChecked (ops₁ ++ ops₂) row
  refine ⟨_, _, GroupOp.run_find ops₁ hfind, GroupOp.run_find (ops₁ ++ ops₂) hfind, hlater,
    fun hsorted => ?_, fun hset hreadings => ?_⟩
  · rw [hlater, foldl_touch_column _ _ GroupOp.touch_installationsLastChecked ops₁ row]
    rw [List.filterMap_append] at hsorted ⊢
    exact getLast?_getD_le_append hsorted
  · have hcreated : (List.foldl (fun row op => op.touch row) row (ops₁ ++ ops₂)).createdAtNs =
        row.createdAtNs :=
      congrArg GroupIdentity.createdAtNs (foldl_touch_identity (ops₁ ++ ops₂) row)
    obtain ⟨last, hlast⟩ := Option.ne_none_iff_exists'.mp
      (mt List.getLast?_eq_none_iff.mp hset)
    rw [hcreated, hlater, hlast]
    exact hreadings last (List.mem_of_getLast?_eq_some hlast)

end Clock

/-- One group, created at `100`. -/
def groupCreatedAt100 : Table := ⟨[StoredGroup.new [1] 100 .allowed "" none], by decide⟩

/-- Two installation checks on that group, reading `150` and then `200`. -/
def checksAt150 : List GroupOp := [.updateInstallationsTimeChecked [1] 150]

def checksAt200 : List GroupOp := [.updateInstallationsTimeChecked [1] 200]

theorem installationsLastChecked_follows_clock_at100 :
    StoredGroup.new [1] 100 .allowed "" none ∈ groupCreatedAt100.rows ∧
      ∃ earlier later,
        (GroupOp.run .stable checksAt150 groupCreatedAt100).find [1] = some earlier ∧
        (GroupOp.run .stable (checksAt150 ++ checksAt200) groupCreatedAt100).find [1] =
          some later ∧
        later.installationsLastChecked =
          (((checksAt150 ++ checksAt200).filterMap (GroupOp.installationsSetOn [1])).getLast?).getD 0 ∧
        (((0 : Int) :: (checksAt150 ++ checksAt200).filterMap
            (GroupOp.installationsSetOn [1])).Sorted (· ≤ ·) →
          earlier.installationsLastChecked ≤ later.installationsLastChecked) ∧
        ((checksAt150 ++ checksAt200).filterMap (GroupOp.installationsSetOn [1]) ≠ [] →
          (∀ now ∈ (checksAt150 ++ checksAt200).filterMap (GroupOp.installationsSetOn [1]),
            (100 : Int) ≤ now) →
          later.createdAtNs ≤ later.installationsLastChecked) :=
  ⟨by decide, installationsLastChecked_follows_clock .stable _ _ groupCreatedAt100
    (StoredGroup.new [1] 100 .allowed "" none) (by decide)⟩

/-- With a clock that reads `50` and then `40` on a group created at `100`,
`installations_last_checked` falls below `created_at_ns` and then decreases. -/
theorem installationsLastChecked_can_decrease :
    ¬ ∀ (engine : OrderByCreatedAt) (table : Table) (ops₁ ops₂ : List GroupOp) (id : ID)
        (earlier later : StoredGroup),
      (GroupOp.run engine ops₁ table).find id = some earlier →
      (GroupOp.run engine (ops₁ ++ ops₂) table).find id = some later →
      earlier.installationsLastChecked ≤ later.installationsLastChecked ∧
        ((ops₁ ++ ops₂).filterMap (GroupOp.installationsSetOn id) ≠ [] →
          later.createdAtNs ≤ later.installationsLastChecked) := by
  intro h
  have hrun := h .stable groupCreatedAt100 [.updateInstallationsTimeChecked [1] 50]
    [.updateInstallationsTimeChecked [1] 40] [1] _ _ rfl rfl
  exact absurd hrun (by decide)

end EncryptedStore
