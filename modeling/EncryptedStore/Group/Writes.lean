import EncryptedStore.Group.Queries

/-!
# The group store's writes

`Store::store` from `impl_store!`, its `Vec` extension, the two updates and the
installation-time read, and `insert_or_replace_group`, the idempotent
application of a welcome.  Each takes the table and returns its result with
the table it leaves; a failed statement leaves the table as it found it, but a
`Vec` store keeps the items written before the one that failed.
-/

namespace EncryptedStore

/-- `hex::encode`: two lowercase hex digits per byte. -/
def hexEncode (bytes : List UInt8) : String :=
  String.mk (bytes.flatMap fun byte => [Nat.digitChar (byte.toNat / 16), Nat.digitChar (byte.toNat % 16)])

/-- `Store::store` of `impl_store!(StoredGroup, groups)`. -/
def StoredGroup.store (group : StoredGroup) (into : Table) : Except StorageError Unit × Table :=
  match into.insert group with
  | .ok table => (.ok (), table)
  | .error error => (.error (.dieselResult error), into)

/-- `Store::store` for `Vec<T>`: `for item in self { item.store(into)?; }`. -/
def storeVec {α : Type} (store : α → Table → Except StorageError Unit × Table) :
    List α → Table → Except StorageError Unit × Table
  | [], into => (.ok (), into)
  | item :: items, into =>
      match store item into with
      | (.ok (), into) => storeVec store items into
      | (.error error, into) => (.error error, into)

/-- Updates group membership state. -/
def updateGroupMembership (groupId : ID) (state : GroupMembershipState) (conn : Table) :
    Except StorageError Unit × Table :=
  (.ok (), conn.update groupId (.membershipState state))

def getInstallationsTimeChecked (groupId : ID) (conn : Table) : Except StorageError Int :=
  match (conn.find groupId).map StoredGroup.installationsLastChecked with
  | some lastTs => .ok lastTs
  | none => .error (.notFound ("installation time for group " ++ hexEncode groupId))

/-- Updates the 'last time checked' we checked for new installations, to the
clock reading `now` of `now_ns()`. -/
def updateInstallationsTimeChecked (now : Int) (groupId : ID) (conn : Table) :
    Except StorageError Unit × Table :=
  (.ok (), conn.update groupId (.installationsLastChecked now))

/-- The read-back of `insert_or_replace_group` once its insert was skipped:
the existing row, or the duplicate-welcome error when it has the candidate's
welcome id. -/
def readBackExistingGroup (group : StoredGroup) (conn : Table) : Except StorageError StoredGroup :=
  match conn.first group.id with
  | .error error => .error (.dieselResult error)
  | .ok existingGroup =>
      if existingGroup.welcomeId = group.welcomeId then
        .error (.duplicate (.welcomeId existingGroup.welcomeId))
      else .ok existingGroup

def insertOrReplaceGroup (group : StoredGroup) (conn : Table) :
    Except StorageError StoredGroup × Table :=
  match conn.insertOnConflictDoNothing group with
  | (maybeInsertedGroup, conn) =>
      if maybeInsertedGroup.isNone then (readBackExistingGroup group conn, conn)
      else
        match maybeInsertedGroup with
        | some group => (.ok group, conn)
        | none =>
            match conn.first group.id with
            | .ok group => (.ok group, conn)
            | .error error => (.error (.dieselResult error), conn)

/-! ## Single statements -/

section Statements

variable {table : Table}

theorem store_of_not_mem {group : StoredGroup} (fresh : group.id ∉ table.ids) :
    group.store table = (.ok (), table.append group fresh) := by
  simp [StoredGroup.store, Table.insert, fresh]

theorem store_of_mem {group : StoredGroup} (taken : group.id ∈ table.ids) :
    group.store table = (.error (.dieselResult .uniqueViolation), table) := by
  simp [StoredGroup.store, Table.insert, taken]

theorem getInstallationsTimeChecked_eq (groupId : ID) :
    getInstallationsTimeChecked groupId table =
      match table.find groupId with
      | some row => .ok row.installationsLastChecked
      | none => .error (.notFound ("installation time for group " ++ hexEncode groupId)) := by
  unfold getInstallationsTimeChecked
  cases table.find groupId <;> rfl

/-- The read-back finds the row whenever the key is taken. -/
theorem readBackExistingGroup_of_find {group existing : StoredGroup}
    (h : table.find group.id = some existing) :
    readBackExistingGroup group table =
      if existing.welcomeId = group.welcomeId then
        .error (.duplicate (.welcomeId existing.welcomeId))
      else .ok existing := by
  simp [readBackExistingGroup, Table.first, h]

theorem insertOrReplaceGroup_of_find_none {group : StoredGroup} (h : table.find group.id = none) :
    insertOrReplaceGroup group table =
      (.ok group, table.append group (Table.find_eq_none.mp h)) := by
  simp [insertOrReplaceGroup, Table.insertOnConflictDoNothing, Table.find_eq_none.mp h]

theorem insertOrReplaceGroup_of_find_some {group existing : StoredGroup}
    (h : table.find group.id = some existing) :
    insertOrReplaceGroup group table = (readBackExistingGroup group table, table) := by
  have taken : group.id ∈ table.ids := by
    simpa [Table.find_eq_none] using (Option.ne_none_iff_isSome.mpr (by simp [h]) :
      table.find group.id ≠ none)
  simp [insertOrReplaceGroup, Table.insertOnConflictDoNothing, taken]

/-- `insert_or_replace_group` on a fresh key stores and returns the candidate;
on a taken key it writes nothing and returns the existing row, or the
duplicate-welcome error when the two welcome ids are equal as options (two
absent ones included); it never fails with `NotFound`. -/
theorem insertOrReplaceGroup_contract (group : StoredGroup) (table : Table) :
    (table.find group.id = none →
      (insertOrReplaceGroup group table).1 = .ok group ∧
        (insertOrReplaceGroup group table).2.rows = table.rows ++ [group]) ∧
    (∀ existing, table.find group.id = some existing →
      (insertOrReplaceGroup group table).2 = table ∧
      (insertOrReplaceGroup group table).1 =
        if existing.welcomeId = group.welcomeId then
          .error (.duplicate (.welcomeId existing.welcomeId))
        else .ok existing) ∧
    (insertOrReplaceGroup group table).1 ≠ .error (.dieselResult .notFound) := by
  refine ⟨fun hfresh => by simp [insertOrReplaceGroup_of_find_none hfresh],
    fun existing hfind => by
      simp [insertOrReplaceGroup_of_find_some hfind, readBackExistingGroup_of_find hfind], ?_⟩
  cases hfind : table.find group.id with
  | none => simp [insertOrReplaceGroup_of_find_none hfind]
  | some existing =>
      rw [insertOrReplaceGroup_of_find_some hfind, readBackExistingGroup_of_find hfind]
      split <;> simp

end Statements

/-! ## Storing a list -/

/-- The position of the first group whose key is already taken, by the table or
by an earlier group of the list. -/
def firstTakenKey (taken : List ID) : List StoredGroup → Option Nat
  | [] => none
  | group :: groups =>
      if group.id ∈ taken then some 0
      else (firstTakenKey (taken ++ [group.id]) groups).map (· + 1)

/-- `Vec::store` writes the groups in order up to the first taken key, fails
there with that insert's error, and keeps what it wrote before it. -/
theorem storeVec_store_contract (groups : List StoredGroup) (table : Table) :
    (firstTakenKey table.ids groups = none →
      (storeVec StoredGroup.store groups table).1 = .ok () ∧
        (storeVec StoredGroup.store groups table).2.rows = table.rows ++ groups) ∧
    ∀ k, firstTakenKey table.ids groups = some k →
      (storeVec StoredGroup.store groups table).1 = .error (.dieselResult .uniqueViolation) ∧
        (storeVec StoredGroup.store groups table).2.rows = table.rows ++ groups.take k := by
  induction groups generalizing table with
  | nil => simp [firstTakenKey, storeVec]
  | cons group groups ih =>
      by_cases taken : group.id ∈ table.ids
      · simp [firstTakenKey, storeVec, store_of_mem taken, taken]
      · have step := ih (table.append group taken)
        simp only [Table.append_ids, Table.append_rows, List.append_assoc, List.singleton_append]
          at step
        refine ⟨fun hnone => ?_, fun k hk => ?_⟩
        · simp only [firstTakenKey, taken, if_false, Option.map_eq_none'] at hnone
          simpa [storeVec, store_of_not_mem taken] using step.1 hnone
        · simp only [firstTakenKey, taken, if_false, Option.map_eq_some'] at hk
          obtain ⟨k, hk, rfl⟩ := hk
          simpa [storeVec, store_of_not_mem taken] using step.2 k hk

end EncryptedStore
