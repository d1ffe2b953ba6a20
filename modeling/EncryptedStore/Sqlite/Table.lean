import EncryptedStore.Group.StoredGroup
import Mathlib.Data.List.Sort

/-!
# The `groups` table and the engine statements on it

The table is its list of rows in storage order; the primary key `id` is
unique, and `Table` carries that as a field, so no statement can build a
table that breaks it.  Each statement the group store issues through diesel is
one atomic function here: the strict `INSERT`, the `INSERT … ON CONFLICT DO
NOTHING RETURNING`, the lookup by primary key, and `UPDATE … SET … WHERE id`.
-/

namespace EncryptedStore

/-- The `diesel::result::Error` cases the group store can meet. -/
inductive DieselError where
  | notFound
  | uniqueViolation
  | notInTransaction
  | brokenTransactionManager
  | databaseError (message : String)
  deriving DecidableEq, Repr

/-- Modelled from the spec: `DuplicateItem` is declared outside the files of
`encrypted_store`; this is the case `insert_or_replace_group` builds. -/
inductive DuplicateItem where
  | welcomeId (welcomeId : Option Int)
  deriving DecidableEq, Repr

/-- Modelled from the spec: `StorageError` is declared outside the files of
`encrypted_store`; these are the cases the group store builds, `dieselResult`
being its `From<diesel::result::Error>` conversion. -/
inductive StorageError where
  | dieselResult (error : DieselError)
  | notFound (message : String)
  | duplicate (item : DuplicateItem)
  deriving DecidableEq, Repr

/-- The rows of `groups` in storage order, with its primary key unique. -/
@[ext]
structure Table where
  rows : List StoredGroup
  ids_nodup : (rows.map StoredGroup.id).Nodup

namespace Table

def ids (table : Table) : List ID := table.rows.map StoredGroup.id

instance : DecidableEq Table := fun left right =>
  decidable_of_iff (left.rows = right.rows) Table.ext_iff.symm

def empty : Table := ⟨[], List.nodup_nil⟩

theorem rows_nodup (table : Table) : table.rows.Nodup :=
  List.Nodup.of_map _ table.ids_nodup

/-- `dsl::groups.find(id).first(conn).optional()`. -/
def find (table : Table) (id : ID) : Option StoredGroup :=
  table.rows.find? (fun row => decide (row.id = id))

/-- `dsl::groups.find(id).first(conn)`: `NotFound` when no row has the key. -/
def first (table : Table) (id : ID) : Except DieselError StoredGroup :=
  match table.find id with
  | some row => .ok row
  | none => .error .notFound

/-- A row with a fresh key, stored after the others. -/
def append (table : Table) (group : StoredGroup) (fresh : group.id ∉ table.ids) : Table :=
  ⟨table.rows ++ [group], by
    simpa [List.nodup_append, ids] using And.intro table.ids_nodup fresh⟩

/-- `diesel::insert_into(groups).values(group).execute(conn)`. -/
def insert (table : Table) (group : StoredGroup) : Except DieselError Table :=
  if fresh : group.id ∈ table.ids then .error .uniqueViolation
  else .ok (table.append group fresh)

/-- `diesel::insert_into(groups).values(group).on_conflict_do_nothing()
.get_result(conn).optional()`: the inserted row, or `None` when the key is
taken and nothing is written. -/
def insertOnConflictDoNothing (table : Table) (group : StoredGroup) :
    Option StoredGroup × Table :=
  if fresh : group.id ∈ table.ids then (none, table)
  else (some group, table.append group fresh)

/-- The `SET` clauses the group store issues. -/
inductive Assignment where
  | membershipState (state : GroupMembershipState)
  | installationsLastChecked (value : Int)

def Assignment.apply : Assignment → StoredGroup → StoredGroup
  | .membershipState state, row => { row with membershipState := state }
  | .installationsLastChecked value, row => { row with installationsLastChecked := value }

@[simp] theorem Assignment.apply_identity (assignment : Assignment) (row : StoredGroup) :
    (assignment.apply row).identity = row.identity := by
  cases assignment <;> rfl

@[simp] theorem Assignment.apply_id (assignment : Assignment) (row : StoredGroup) :
    (assignment.apply row).id = row.id := by
  cases assignment <;> rfl

def assignRow (id : ID) (assignment : Assignment) (row : StoredGroup) : StoredGroup :=
  if row.id = id then assignment.apply row else row

@[simp] theorem assignRow_id (id : ID) (assignment : Assignment) (row : StoredGroup) :
    (assignRow id assignment row).id = row.id := by
  unfold assignRow; split <;> simp

@[simp] theorem assignRow_identity (id : ID) (assignment : Assignment) (row : StoredGroup) :
    (assignRow id assignment row).identity = row.identity := by
  unfold assignRow; split <;> simp

/-- `diesel::update(dsl::groups.find(id)).set(assignment).execute(conn)`. -/
def update (table : Table) (id : ID) (assignment : Assignment) : Table :=
  ⟨table.rows.map (assignRow id assignment), by
    simpa [Function.comp_def] using table.ids_nodup⟩

/-! ## Lookup by primary key -/

theorem find_eq_some {table : Table} {id : ID} {row : StoredGroup} :
    table.find id = some row ↔ row ∈ table.rows ∧ row.id = id := by
  constructor
  · intro h
    exact ⟨List.mem_of_find?_eq_some h, by simpa using List.find?_some h⟩
  · rintro ⟨hmem, rfl⟩
    have hsome : (table.find row.id).isSome := by
      simpa [find, List.find?_isSome] using ⟨row, hmem, rfl⟩
    obtain ⟨other, hother⟩ := Option.isSome_iff_exists.mp hsome
    have hsame : other.id = row.id := by simpa using List.find?_some hother
    have hotherMem := List.mem_of_find?_eq_some hother
    rw [hother, List.inj_on_of_nodup_map table.ids_nodup hotherMem hmem hsame]

theorem find_eq_none {table : Table} {id : ID} : table.find id = none ↔ id ∉ table.ids := by
  simp [find, ids]

theorem find_of_mem {table : Table} {row : StoredGroup} (h : row ∈ table.rows) :
    table.find row.id = some row :=
  find_eq_some.mpr ⟨h, rfl⟩

@[simp] theorem first_eq_ok {table : Table} {id : ID} {row : StoredGroup} :
    table.first id = .ok row ↔ table.find id = some row := by
  unfold first
  split <;> simp_all

/-! ## Statements and the rows they leave -/

@[simp] theorem append_rows (table : Table) (group : StoredGroup) (fresh : group.id ∉ table.ids) :
    (table.append group fresh).rows = table.rows ++ [group] := rfl

@[simp] theorem append_ids (table : Table) (group : StoredGroup) (fresh : group.id ∉ table.ids) :
    (table.append group fresh).ids = table.ids ++ [group.id] := by
  simp [ids]

theorem find_append (table : Table) (group : StoredGroup) (fresh : group.id ∉ table.ids)
    (id : ID) :
    (table.append group fresh).find id =
      if group.id = id then some group else table.find id := by
  by_cases hid : group.id = id
  · subst hid
    simpa using @find_of_mem (table.append group fresh) group (by simp)
  · cases hfind : table.find id with
    | none => simp [find, List.find?_append, hid, ← hfind]
    | some row => simp [find, List.find?_append, hid, ← hfind]

@[simp] theorem update_rows (table : Table) (id : ID) (assignment : Assignment) :
    (table.update id assignment).rows = table.rows.map (assignRow id assignment) := rfl

@[simp] theorem update_ids (table : Table) (id : ID) (assignment : Assignment) :
    (table.update id assignment).ids = table.ids := by
  simp [ids, Function.comp_def]

@[simp] theorem update_identities (table : Table) (id : ID) (assignment : Assignment) :
    (table.update id assignment).rows.map StoredGroup.identity =
      table.rows.map StoredGroup.identity := by
  simp [Function.comp_def]

theorem ids_eq_of_identities {table : Table} {rows : List StoredGroup}
    (h : table.rows.map StoredGroup.identity = rows.map StoredGroup.identity) :
    table.ids = rows.map StoredGroup.id := by
  simpa [ids, Function.comp_def] using congrArg (List.map GroupIdentity.id) h

theorem nodup_of_identities {table : Table} {rows : List StoredGroup}
    (h : table.rows.map StoredGroup.identity = rows.map StoredGroup.identity) :
    (rows.map StoredGroup.id).Nodup :=
  ids_eq_of_identities h ▸ table.ids_nodup

theorem find_update (table : Table) (id : ID) (assignment : Assignment) (key : ID) :
    (table.update id assignment).find key = (table.find key).map (assignRow id assignment) := by
  cases hfind : table.find key with
  | none =>
      rw [find_eq_none] at hfind
      simpa [find_eq_none] using hfind
  | some row =>
      obtain ⟨hmem, rfl⟩ := find_eq_some.mp hfind
      simpa using @find_of_mem (table.update id assignment) _
        (List.mem_map_of_mem (assignRow id assignment) hmem)

/-- An update whose key has no row leaves the table as it was. -/
theorem update_of_not_mem {table : Table} {id : ID} (assignment : Assignment)
    (h : id ∉ table.ids) : table.update id assignment = table := by
  ext1
  conv_rhs => rw [← List.map_id table.rows]
  refine List.map_congr_left (fun row hmem => ?_)
  have hne : row.id ≠ id := fun hid => h (hid ▸ List.mem_map_of_mem _ hmem)
  simp [assignRow, hne]

end Table

end EncryptedStore
