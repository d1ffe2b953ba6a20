import EncryptedStore.Sqlite.Table

/-!
# Boxed `SELECT` queries on `groups`

Diesel renders a boxed query as one `SELECT … WHERE … ORDER BY created_at_ns
ASC LIMIT …`, so a query is its `WHERE` conjuncts and its limit.  The engine's
sort is any permutation into non-decreasing `created_at_ns`: SQLite fixes no
order among ties.
-/

namespace EncryptedStore

def CreatedNoLater (first second : StoredGroup) : Prop :=
  first.createdAtNs ≤ second.createdAtNs

instance : DecidableRel CreatedNoLater := fun first second =>
  inferInstanceAs (Decidable (first.createdAtNs ≤ second.createdAtNs))

instance : IsTotal StoredGroup CreatedNoLater := ⟨fun _ _ => Int.le_total _ _⟩

instance : IsTrans StoredGroup CreatedNoLater := ⟨fun _ _ _ => Int.le_trans⟩

/-- The engine's `ORDER BY created_at_ns ASC`. -/
structure OrderByCreatedAt where
  sort : List StoredGroup → List StoredGroup
  sort_perm : ∀ rows, (sort rows).Perm rows
  sort_sorted : ∀ rows, (sort rows).Sorted CreatedNoLater

namespace OrderByCreatedAt

/-- One admissible engine: insertion sort, which keeps storage order among
equal keys. -/
def stable : OrderByCreatedAt :=
  ⟨List.insertionSort CreatedNoLater, List.perm_insertionSort _, List.sorted_insertionSort _⟩

theorem sort_eq_self {engine : OrderByCreatedAt} {rows : List StoredGroup}
    (h : rows.length ≤ 1) : engine.sort rows = rows := by
  rcases rows with _ | ⟨row, _ | ⟨other, rows⟩⟩
  · exact List.perm_nil.mp (engine.sort_perm [])
  · exact List.perm_singleton.mp (engine.sort_perm [row])
  · simp at h

theorem sort_eq_nil {engine : OrderByCreatedAt} {rows : List StoredGroup} :
    engine.sort rows = [] ↔ rows = [] := by
  rw [← List.length_eq_zero, (engine.sort_perm rows).length_eq, List.length_eq_zero]

theorem mem_sort {engine : OrderByCreatedAt} {rows : List StoredGroup} {row : StoredGroup} :
    row ∈ engine.sort rows ↔ row ∈ rows :=
  (engine.sort_perm rows).mem_iff

end OrderByCreatedAt

/-- SQLite's `LIMIT n`: the first `n` rows, and every row when `n` is negative. -/
def applyLimit (limit : Option Int) (rows : List StoredGroup) : List StoredGroup :=
  match limit with
  | none => rows
  | some n => if n < 0 then rows else rows.take n.toNat

theorem applyLimit_sublist (limit : Option Int) (rows : List StoredGroup) :
    (applyLimit limit rows).Sublist rows := by
  unfold applyLimit
  split
  · exact List.Sublist.refl _
  · split
    · exact List.Sublist.refl _
    · exact List.take_sublist _ _

/-- A boxed query under construction: its `WHERE` conjuncts, in the order the
calls added them, and its `LIMIT`. -/
structure GroupsQuery where
  filters : List (StoredGroup → Bool)
  limit : Option Int

namespace GroupsQuery

/-- `dsl::groups.order(dsl::created_at_ns.asc()).into_boxed()`. -/
def orderByCreatedAtAsc : GroupsQuery := ⟨[], none⟩

/-- `query.filter(predicate)`: one more `AND` conjunct. -/
def filter (query : GroupsQuery) (predicate : StoredGroup → Bool) : GroupsQuery :=
  { query with filters := query.filters ++ [predicate] }

/-- `query.limit(n)`. -/
def setLimit (query : GroupsQuery) (n : Int) : GroupsQuery :=
  { query with limit := some n }

def selects (query : GroupsQuery) (row : StoredGroup) : Bool :=
  query.filters.all fun predicate => predicate row

/-- `query.load(conn)`: `WHERE`, then `ORDER BY`, then `LIMIT`. -/
def load (engine : OrderByCreatedAt) (query : GroupsQuery) (table : Table) :
    List StoredGroup :=
  applyLimit query.limit (engine.sort (table.rows.filter query.selects))

@[simp] theorem orderByCreatedAtAsc_limit : orderByCreatedAtAsc.limit = none := rfl

@[simp] theorem filter_limit (query : GroupsQuery) (predicate : StoredGroup → Bool) :
    (query.filter predicate).limit = query.limit := rfl

@[simp] theorem setLimit_limit (query : GroupsQuery) (n : Int) :
    (query.setLimit n).limit = some n := rfl

@[simp] theorem selects_orderByCreatedAtAsc (row : StoredGroup) :
    orderByCreatedAtAsc.selects row = true := rfl

@[simp] theorem selects_filter (query : GroupsQuery) (predicate : StoredGroup → Bool)
    (row : StoredGroup) :
    (query.filter predicate).selects row = (query.selects row && predicate row) := by
  simp [selects, filter]

@[simp] theorem selects_setLimit (query : GroupsQuery) (n : Int) (row : StoredGroup) :
    (query.setLimit n).selects row = query.selects row := rfl

theorem mem_load {engine : OrderByCreatedAt} {query : GroupsQuery} {table : Table}
    {row : StoredGroup} (h : row ∈ query.load engine table) :
    row ∈ table.rows ∧ query.selects row = true := by
  have hsorted := (applyLimit_sublist _ _).subset h
  simpa [OrderByCreatedAt.mem_sort] using hsorted

end GroupsQuery

/-! ## Column expressions -/

/-- `dsl::membership_state.eq_any(states)`. -/
def membershipStateEqAny (states : List GroupMembershipState) (row : StoredGroup) : Bool :=
  decide (row.membershipState ∈ states)

/-- `dsl::created_at_ns.gt(bound)`. -/
def createdAtNsGt (bound : Int) (row : StoredGroup) : Bool := decide (bound < row.createdAtNs)

/-- `dsl::created_at_ns.lt(bound)`. -/
def createdAtNsLt (bound : Int) (row : StoredGroup) : Bool := decide (row.createdAtNs < bound)

/-- `dsl::dm_inbox_id.is_null()`. -/
def dmInboxIdIsNull (row : StoredGroup) : Bool := row.dmInboxId.isNone

/-- `dsl::purpose.eq(purpose)`. -/
def purposeEq (purpose : Purpose) (row : StoredGroup) : Bool := decide (row.purpose = purpose)

/-- `dsl::id.eq(id)`. -/
def idEq (id : ID) (row : StoredGroup) : Bool := decide (row.id = id)

/-- `dsl::welcome_id.eq(welcomeId)`: a `NULL` welcome id is never equal. -/
def welcomeIdEq (welcomeId : Int) (row : StoredGroup) : Bool :=
  decide (row.welcomeId = some welcomeId)

/-- Selecting by primary key finds the one row `Table.find` finds. -/
theorem Table.filter_idEq (table : Table) (id : ID) :
    table.rows.filter (idEq id) = (table.find id).toList := by
  obtain ⟨rows, hnodup⟩ := table
  simp only [Table.find]
  induction rows with
  | nil => rfl
  | cons row rest ih =>
      simp only [List.map_cons, List.nodup_cons, List.mem_map] at hnodup
      by_cases hid : row.id = id
      · have hrest : rest.filter (idEq id) = [] :=
          List.filter_eq_nil_iff.mpr fun other hmem hsame =>
            hnodup.1 ⟨other, hmem, by simpa [idEq, hid] using hsame⟩
        simp [idEq, hid, hrest]
      · simpa [idEq, hid] using ih hnodup.2

/-! ## What the engine's order leaves open

A query's rows are fixed by its `WHERE` clause and its limit; the engine only
picks the order among rows sharing a `created_at_ns`.  So two engines return
the same creation times, position by position, and the same rows when no two
selected rows tie.
-/

def CreatedBefore (first second : StoredGroup) : Prop :=
  first.createdAtNs < second.createdAtNs

instance : IsAntisymm StoredGroup CreatedBefore :=
  ⟨fun _ _ hbefore hafter => absurd (Int.lt_trans hbefore hafter) (Int.lt_irrefl _)⟩

/-- Two sorted listings of the same rows agree when no two of those rows share
a creation time. -/
theorem eq_of_perm_of_distinct {first second : List StoredGroup} (hperm : first.Perm second)
    (hfirst : first.Sorted CreatedNoLater) (hsecond : second.Sorted CreatedNoLater)
    (hnodup : first.Nodup)
    (hdistinct : ∀ a ∈ first, ∀ b ∈ first, a.createdAtNs = b.createdAtNs → a = b) :
    first = second := by
  have strict : ∀ {rows : List StoredGroup}, rows.Sorted CreatedNoLater → rows.Nodup →
      (∀ a ∈ rows, a ∈ first) → rows.Sorted CreatedBefore := fun hsorted hrows hsub =>
    (hsorted.and hrows).imp_of_mem fun ha hb hab =>
      lt_of_le_of_ne hab.1 fun hsame => hab.2 (hdistinct _ (hsub _ ha) _ (hsub _ hb) hsame)
  exact List.eq_of_perm_of_sorted hperm (strict hfirst hnodup fun _ => id)
    (strict hsecond (hperm.nodup_iff.mp hnodup) fun _ => hperm.mem_iff.mpr)

/-- Two sorted listings of the same rows have the same creation times, position
by position. -/
theorem createdAts_eq_of_perm {first second : List StoredGroup} (hperm : first.Perm second)
    (hfirst : first.Sorted CreatedNoLater) (hsecond : second.Sorted CreatedNoLater) :
    first.map StoredGroup.createdAtNs = second.map StoredGroup.createdAtNs := by
  have sorted : ∀ {rows : List StoredGroup}, rows.Sorted CreatedNoLater →
      (rows.map StoredGroup.createdAtNs).Sorted (· ≤ ·) := List.Pairwise.map _ fun _ _ => id
  exact List.eq_of_perm_of_sorted (hperm.map _) (sorted hfirst) (sorted hsecond)

theorem applyLimit_map_congr {β : Type} {f : StoredGroup → β} {first second : List StoredGroup}
    (h : first.map f = second.map f) (limit : Option Int) :
    (applyLimit limit first).map f = (applyLimit limit second).map f := by
  unfold applyLimit
  split
  · exact h
  · split
    · exact h
    · rw [List.map_take, List.map_take, h]

namespace GroupsQuery

section Engines

variable (first second : OrderByCreatedAt) (query : GroupsQuery) (table : Table)

theorem sort_filter_perm :
    (first.sort (table.rows.filter query.selects)).Perm
      (second.sort (table.rows.filter query.selects)) :=
  (first.sort_perm _).trans (second.sort_perm _).symm

/-- Whatever the limit, two engines return rows with the same creation times. -/
theorem load_createdAts :
    (query.load first table).map StoredGroup.createdAtNs =
      (query.load second table).map StoredGroup.createdAtNs :=
  applyLimit_map_congr (createdAts_eq_of_perm (sort_filter_perm first second query table)
    (first.sort_sorted _) (second.sort_sorted _)) query.limit

/-- Without a limit, two engines return the same rows. -/
theorem load_perm_of_limit_none (h : query.limit = none) :
    (query.load first table).Perm (query.load second table) := by
  simpa only [load, h, applyLimit] using sort_filter_perm first second query table

/-- When no two selected rows share a creation time, every engine returns the
same list. -/
theorem load_eq_of_distinct
    (hdistinct : ∀ a ∈ table.rows, ∀ b ∈ table.rows, query.selects a = true →
      query.selects b = true → a.createdAtNs = b.createdAtNs → a = b) :
    query.load first table = query.load second table := by
  have hselected : ∀ {row}, row ∈ first.sort (table.rows.filter query.selects) →
      row ∈ table.rows ∧ query.selects row = true := fun hrow => by
    simpa [OrderByCreatedAt.mem_sort] using hrow
  refine congrArg (applyLimit query.limit) (eq_of_perm_of_distinct
    (sort_filter_perm first second query table) (first.sort_sorted _) (second.sort_sorted _)
    ((first.sort_perm _).nodup_iff.mpr (table.rows_nodup.filter _)) fun a ha b hb => ?_)
  exact hdistinct a (hselected ha).1 b (hselected hb).1 (hselected ha).2 (hselected hb).2

end Engines

end GroupsQuery

end EncryptedStore
