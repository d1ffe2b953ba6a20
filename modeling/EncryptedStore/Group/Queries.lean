import EncryptedStore.Sqlite.Query

/-!
# The group store's reads

`find_groups`, `find_sync_groups`, `find_group`, `find_group_by_welcome_id` and
the keyed `fetch` of `impl_fetch!`, each building its query as the source does.
Failures of the engine itself are outside the model, so each read returns its
rows.
-/

namespace EncryptedStore

namespace GroupsQuery

/-- `if let Some(value) = value { query = query.filter(predicate(value)) }`. -/
def filterSome {β : Type} (query : GroupsQuery) (value : Option β)
    (predicate : β → StoredGroup → Bool) : GroupsQuery :=
  match value with
  | some value => query.filter (predicate value)
  | none => query

/-- `if let Some(limit) = limit { query = query.limit(limit) }`. -/
def limitSome (query : GroupsQuery) (limit : Option Int) : GroupsQuery :=
  match limit with
  | some limit => query.setLimit limit
  | none => query

@[simp] theorem filterSome_limit {β : Type} (query : GroupsQuery) (value : Option β)
    (predicate : β → StoredGroup → Bool) : (query.filterSome value predicate).limit = query.limit := by
  cases value <;> rfl

@[simp] theorem selects_filterSome {β : Type} (query : GroupsQuery) (value : Option β)
    (predicate : β → StoredGroup → Bool) (row : StoredGroup) :
    (query.filterSome value predicate).selects row = true ↔
      query.selects row = true ∧ ∀ bound ∈ value, predicate bound row = true := by
  cases value <;> simp [filterSome]

@[simp] theorem selects_limitSome (query : GroupsQuery) (limit : Option Int) (row : StoredGroup) :
    (query.limitSome limit).selects row = query.selects row := by
  cases limit <;> rfl

@[simp] theorem limitSome_limit (query : GroupsQuery) (limit : Option Int) :
    (query.limitSome limit).limit = limit.or query.limit := by
  cases limit <;> rfl

/-- What every load returns: the selected rows in some order the engine
chooses, sorted by creation time, cut by the limit. -/
theorem load_spec (engine : OrderByCreatedAt) (query : GroupsQuery) (table : Table) :
    ∃ listed : List StoredGroup,
      (∀ row, row ∈ listed ↔ row ∈ table.rows ∧ query.selects row = true) ∧
      listed.Nodup ∧ listed.Sorted CreatedNoLater ∧
      query.load engine table = applyLimit query.limit listed := by
  refine ⟨engine.sort (table.rows.filter query.selects), fun row => ?_, ?_,
    engine.sort_sorted _, rfl⟩
  · simp [OrderByCreatedAt.mem_sort]
  · exact (engine.sort_perm _).nodup_iff.mpr (table.rows_nodup.filter _)

end GroupsQuery

/-- The rows `find_groups` is meant to list: conversation groups passing
each filter that is given, DMs only when asked for. -/
def FindGroupsFilter (allowedStates : Option (List GroupMembershipState))
    (createdAfterNs createdBeforeNs : Option Int) (includeDmGroups : Bool)
    (row : StoredGroup) : Prop :=
  row.purpose = .conversation ∧
    (∀ states ∈ allowedStates, row.membershipState ∈ states) ∧
    (∀ bound ∈ createdAfterNs, bound < row.createdAtNs) ∧
    (∀ bound ∈ createdBeforeNs, row.createdAtNs < bound) ∧
    (includeDmGroups = false → row.dmInboxId = none)

theorem findGroupsFilter_iff (allowedStates : Option (List GroupMembershipState))
    (createdAfterNs createdBeforeNs : Option Int) (includeDmGroups : Bool) (row : StoredGroup) :
    FindGroupsFilter allowedStates createdAfterNs createdBeforeNs includeDmGroups row ↔
      FindGroupsFilter allowedStates none createdBeforeNs includeDmGroups row ∧
        ∀ bound ∈ createdAfterNs, bound < row.createdAtNs := by
  simp only [FindGroupsFilter, Option.mem_def, reduceCtorEq, false_implies, implies_true,
    true_and]
  tauto

/-- The query `find_groups` builds. -/
def findGroupsQuery (allowedStates : Option (List GroupMembershipState))
    (createdAfterNs createdBeforeNs limit : Option Int) (includeDmGroups : Bool) :
    GroupsQuery :=
  let query := GroupsQuery.orderByCreatedAtAsc
  let query := query.filterSome allowedStates membershipStateEqAny
  let query := query.filterSome createdAfterNs createdAtNsGt
  let query := query.filterSome createdBeforeNs createdAtNsLt
  let query := query.limitSome limit
  let query := if !includeDmGroups then query.filter dmInboxIdIsNull else query
  query.filter (purposeEq .conversation)

theorem findGroupsQuery_limit (allowedStates : Option (List GroupMembershipState))
    (createdAfterNs createdBeforeNs limit : Option Int) (includeDmGroups : Bool) :
    (findGroupsQuery allowedStates createdAfterNs createdBeforeNs limit includeDmGroups).limit =
      limit := by
  cases includeDmGroups <;> simp [findGroupsQuery]

/-- The `WHERE` clause of `find_groups` is the conjunction of all its filters,
whether they were added before or after the limit. -/
theorem findGroupsQuery_selects (allowedStates : Option (List GroupMembershipState))
    (createdAfterNs createdBeforeNs limit : Option Int) (includeDmGroups : Bool)
    (row : StoredGroup) :
    (findGroupsQuery allowedStates createdAfterNs createdBeforeNs limit includeDmGroups).selects
        row = true ↔
      FindGroupsFilter allowedStates createdAfterNs createdBeforeNs includeDmGroups row := by
  cases includeDmGroups <;>
    simp [findGroupsQuery, FindGroupsFilter, membershipStateEqAny, createdAtNsGt,
      createdAtNsLt, dmInboxIdIsNull, purposeEq, Option.isNone_iff_eq_none] <;> tauto

section Reads

variable (engine : OrderByCreatedAt)

/-- Return regular `Purpose::Conversation` groups with additional optional
filters. -/
def findGroups (table : Table) (allowedStates : Option (List GroupMembershipState))
    (createdAfterNs createdBeforeNs limit : Option Int) (includeDmGroups : Bool) :
    List StoredGroup :=
  (findGroupsQuery allowedStates createdAfterNs createdBeforeNs limit includeDmGroups).load
    engine table

/-- Return only the `Purpose::Sync` groups. -/
def findSyncGroups (table : Table) : List StoredGroup :=
  (GroupsQuery.orderByCreatedAtAsc.filter (purposeEq .sync)).load engine table

/-- Return a single group that matches the given ID. -/
def findGroup (table : Table) (id : ID) : Option StoredGroup :=
  (((GroupsQuery.orderByCreatedAtAsc.setLimit 1).filter (idEq id)).load engine table).head?

/-- Return a single group that matches the given welcome ID. -/
def findGroupByWelcomeId (table : Table) (welcomeId : Int) : Option StoredGroup :=
  ((GroupsQuery.orderByCreatedAtAsc.filter (welcomeIdEq welcomeId)).load engine table).head?

end Reads

/-- `Fetch::fetch` of `impl_fetch!(StoredGroup, groups, Vec<u8>)`. -/
def fetch (table : Table) (key : ID) : Option StoredGroup := table.find key

/-! ## `find_groups` and `find_sync_groups` -/

section Listings

variable {engine : OrderByCreatedAt} {table : Table}

theorem findGroups_spec (allowedStates : Option (List GroupMembershipState))
    (createdAfterNs createdBeforeNs limit : Option Int) (includeDmGroups : Bool) :
    ∃ listed : List StoredGroup,
      (∀ row, row ∈ listed ↔ row ∈ table.rows ∧
        FindGroupsFilter allowedStates createdAfterNs createdBeforeNs includeDmGroups row) ∧
      listed.Nodup ∧ listed.Sorted CreatedNoLater ∧
      findGroups engine table allowedStates createdAfterNs createdBeforeNs limit
        includeDmGroups = applyLimit limit listed := by
  obtain ⟨listed, hmem, hnodup, hsorted, hload⟩ := GroupsQuery.load_spec engine
    (findGroupsQuery allowedStates createdAfterNs createdBeforeNs limit includeDmGroups) table
  refine ⟨listed, fun row => ?_, hnodup, hsorted, ?_⟩
  · rw [hmem, findGroupsQuery_selects]
  · rw [findGroups, hload, findGroupsQuery_limit]

theorem findGroups_conversation (allowedStates : Option (List GroupMembershipState))
    (createdAfterNs createdBeforeNs limit : Option Int) (includeDmGroups : Bool)
    {row : StoredGroup}
    (h : row ∈ findGroups engine table allowedStates createdAfterNs createdBeforeNs limit
      includeDmGroups) :
    row.purpose = .conversation :=
  ((findGroupsQuery_selects _ _ _ _ _ row).mp (GroupsQuery.mem_load h).2).1

theorem findSyncGroups_spec :
    (∀ row, row ∈ findSyncGroups engine table ↔ row ∈ table.rows ∧ row.purpose = .sync) ∧
      (findSyncGroups engine table).Sorted CreatedNoLater := by
  refine ⟨fun row => ?_, engine.sort_sorted _⟩
  simp [findSyncGroups, GroupsQuery.load, applyLimit, OrderByCreatedAt.mem_sort, purposeEq]

/-- With DMs included and no other filter, the two listings split the table. -/
theorem findGroups_append_findSyncGroups_perm :
    (findGroups engine table none none none none true ++ findSyncGroups engine table).Perm
      table.rows := by
  have hsync : table.rows.filter (GroupsQuery.orderByCreatedAtAsc.filter (purposeEq .sync)).selects =
      table.rows.filter fun row =>
        !(findGroupsQuery none none none none true).selects row := by
    refine List.filter_congr fun row _ => ?_
    cases hpurpose : row.purpose <;>
      simp [findGroupsQuery, GroupsQuery.filterSome, purposeEq, hpurpose]
  have hsplit := List.filter_append_perm (findGroupsQuery none none none none true).selects
    table.rows
  rw [← hsync] at hsplit
  exact ((engine.sort_perm _).append (engine.sort_perm _)).trans hsplit

/-- `find_groups` lists exactly the conversation groups that pass every given
filter, sorted by creation time and cut by the limit after all filters;
`find_sync_groups` lists exactly the sync groups; with DMs included and no other
filter the two listings split the table. -/
theorem findGroups_listing_contract :
    (∀ (allowedStates : Option (List GroupMembershipState))
      (createdAfterNs createdBeforeNs limit : Option Int) (includeDmGroups : Bool),
      (∃ listed : List StoredGroup,
        (∀ row, row ∈ listed ↔ row ∈ table.rows ∧
          FindGroupsFilter allowedStates createdAfterNs createdBeforeNs includeDmGroups row) ∧
        listed.Nodup ∧ listed.Sorted CreatedNoLater ∧
        findGroups engine table allowedStates createdAfterNs createdBeforeNs limit
          includeDmGroups = applyLimit limit listed) ∧
      ∀ row ∈ findGroups engine table allowedStates createdAfterNs createdBeforeNs limit
        includeDmGroups, row.purpose = .conversation) ∧
    ((∀ row, row ∈ findSyncGroups engine table ↔ row ∈ table.rows ∧ row.purpose = .sync) ∧
      (findSyncGroups engine table).Sorted CreatedNoLater) ∧
    (findGroups engine table none none none none true ++ findSyncGroups engine table).Perm
      table.rows :=
  ⟨fun allowedStates createdAfterNs createdBeforeNs limit includeDmGroups =>
    ⟨findGroups_spec allowedStates createdAfterNs createdBeforeNs limit includeDmGroups,
      fun _ hrow => findGroups_conversation _ _ _ _ _ hrow⟩,
    findSyncGroups_spec, findGroups_append_findSyncGroups_perm⟩

end Listings

/-! ## Point lookups -/

section Lookups

variable {engine : OrderByCreatedAt} {table : Table}

/-- `limit(1)` before the key filter still selects the keyed row: the key
leaves at most one row to sort and cut. -/
theorem findGroup_eq_fetch (id : ID) : findGroup engine table id = fetch table id := by
  have hselects : ((GroupsQuery.orderByCreatedAtAsc.setLimit 1).filter (idEq id)).selects =
      idEq id := by
    funext row
    simp
  have hshort : ((table.find id).toList).length ≤ 1 := by
    cases table.find id <;> simp
  simp only [findGroup, GroupsQuery.load, hselects, Table.filter_idEq,
    OrderByCreatedAt.sort_eq_self hshort, GroupsQuery.filter_limit, GroupsQuery.setLimit_limit]
  cases hfind : table.find id <;> simp [fetch, hfind, applyLimit]

/-- The welcome-id query with its limit of none: the sorted matching rows. -/
theorem findGroupByWelcomeId_eq_head (welcomeId : Int) :
    findGroupByWelcomeId engine table welcomeId =
      (engine.sort (table.rows.filter (welcomeIdEq welcomeId))).head? := by
  have hselects : (GroupsQuery.orderByCreatedAtAsc.filter (welcomeIdEq welcomeId)).selects =
      welcomeIdEq welcomeId := by
    funext row
    simp
  simp [findGroupByWelcomeId, GroupsQuery.load, hselects, applyLimit]

theorem findGroupByWelcomeId_eq_none (welcomeId : Int) :
    findGroupByWelcomeId engine table welcomeId = none ↔
      ∀ row ∈ table.rows, row.welcomeId ≠ some welcomeId := by
  simp [findGroupByWelcomeId_eq_head, OrderByCreatedAt.sort_eq_nil, List.filter_eq_nil_iff,
    welcomeIdEq]

/-- When several rows share the welcome id, the one returned is created no
later than any of them. -/
theorem findGroupByWelcomeId_eq_some (welcomeId : Int) {row : StoredGroup}
    (h : findGroupByWelcomeId engine table welcomeId = some row) :
    row ∈ table.rows ∧ row.welcomeId = some welcomeId ∧
      ∀ other ∈ table.rows, other.welcomeId = some welcomeId →
        row.createdAtNs ≤ other.createdAtNs := by
  rw [findGroupByWelcomeId_eq_head] at h
  obtain ⟨rest, hsort⟩ : ∃ rest, engine.sort (table.rows.filter (welcomeIdEq welcomeId)) =
      row :: rest := by
    cases hlist : engine.sort (table.rows.filter (welcomeIdEq welcomeId)) with
    | nil => simp [hlist] at h
    | cons first rest => simp only [hlist, List.head?_cons, Option.some.injEq] at h; exact ⟨rest, h ▸ rfl⟩
  have hmem : ∀ other, other ∈ row :: rest ↔ other ∈ table.rows ∧ other.welcomeId = some welcomeId := by
    intro other
    simp [← hsort, OrderByCreatedAt.mem_sort, welcomeIdEq]
  have hsorted := engine.sort_sorted (table.rows.filter (welcomeIdEq welcomeId))
  rw [hsort, List.sorted_cons] at hsorted
  obtain ⟨hrow, hwelcome⟩ := (hmem row).mp (List.mem_cons_self _ _)
  refine ⟨hrow, hwelcome, fun other hother hotherWelcome => ?_⟩
  rcases List.mem_cons.mp ((hmem other).mpr ⟨hother, hotherWelcome⟩) with rfl | hrest
  · exact le_refl _
  · exact hsorted.1 other hrest

/-- `find_group` agrees with `fetch` on every table and key, and
`find_group_by_welcome_id` returns a row with the welcome id and the least
creation time among such rows, or nothing when no row has it. -/
theorem findGroup_lookups_contract :
    (∀ id, findGroup engine table id = fetch table id ∧
      ∀ row, fetch table id = some row ↔ row ∈ table.rows ∧ row.id = id) ∧
    ∀ welcomeId : Int,
      (findGroupByWelcomeId engine table welcomeId = none ↔
        ∀ row ∈ table.rows, row.welcomeId ≠ some welcomeId) ∧
      ∀ row, findGroupByWelcomeId engine table welcomeId = some row →
        row ∈ table.rows ∧ row.welcomeId = some welcomeId ∧
          ∀ other ∈ table.rows, other.welcomeId = some welcomeId →
            row.createdAtNs ≤ other.createdAtNs :=
  ⟨fun id => ⟨findGroup_eq_fetch id, fun _ => Table.find_eq_some⟩,
    fun welcomeId => ⟨findGroupByWelcomeId_eq_none welcomeId,
      fun _ => findGroupByWelcomeId_eq_some welcomeId⟩⟩

end Lookups

/-! ## What the engine's order leaves open -/

section Engines

variable (first second : OrderByCreatedAt) (table : Table)

theorem findGroups_createdAts (allowedStates : Option (List GroupMembershipState))
    (createdAfterNs createdBeforeNs limit : Option Int) (includeDmGroups : Bool) :
    (findGroups first table allowedStates createdAfterNs createdBeforeNs limit
        includeDmGroups).map StoredGroup.createdAtNs =
      (findGroups second table allowedStates createdAfterNs createdBeforeNs limit
        includeDmGroups).map StoredGroup.createdAtNs :=
  GroupsQuery.load_createdAts first second _ table

theorem findGroups_eq_of_distinct (allowedStates : Option (List GroupMembershipState))
    (createdAfterNs createdBeforeNs limit : Option Int) (includeDmGroups : Bool)
    (hdistinct : ∀ a ∈ table.rows, ∀ b ∈ table.rows,
      FindGroupsFilter allowedStates createdAfterNs createdBeforeNs includeDmGroups a →
      FindGroupsFilter allowedStates createdAfterNs createdBeforeNs includeDmGroups b →
      a.createdAtNs = b.createdAtNs → a = b) :
    findGroups first table allowedStates createdAfterNs createdBeforeNs limit includeDmGroups =
      findGroups second table allowedStates createdAfterNs createdBeforeNs limit
        includeDmGroups :=
  GroupsQuery.load_eq_of_distinct first second _ table fun a ha b hb hsa hsb =>
    hdistinct a ha b hb ((findGroupsQuery_selects _ _ _ _ _ a).mp hsa)
      ((findGroupsQuery_selects _ _ _ _ _ b).mp hsb)

theorem findGroups_perm_of_no_limit (allowedStates : Option (List GroupMembershipState))
    (createdAfterNs createdBeforeNs : Option Int) (includeDmGroups : Bool) :
    (findGroups first table allowedStates createdAfterNs createdBeforeNs none
        includeDmGroups).Perm
      (findGroups second table allowedStates createdAfterNs createdBeforeNs none
        includeDmGroups) :=
  GroupsQuery.load_perm_of_limit_none first second _ table (findGroupsQuery_limit _ _ _ _ _)

theorem findSyncGroups_perm : (findSyncGroups first table).Perm (findSyncGroups second table) :=
  GroupsQuery.load_perm_of_limit_none first second _ table rfl

theorem findGroupByWelcomeId_createdAt (welcomeId : Int) :
    (findGroupByWelcomeId first table welcomeId).map StoredGroup.createdAtNs =
      (findGroupByWelcomeId second table welcomeId).map StoredGroup.createdAtNs := by
  simp only [findGroupByWelcomeId, ← List.head?_map, GroupsQuery.load_createdAts first second]

theorem findGroupByWelcomeId_eq_of_distinct (welcomeId : Int)
    (hdistinct : ∀ a ∈ table.rows, ∀ b ∈ table.rows, a.welcomeId = some welcomeId →
      b.welcomeId = some welcomeId → a.createdAtNs = b.createdAtNs → a = b) :
    findGroupByWelcomeId first table welcomeId = findGroupByWelcomeId second table welcomeId :=
  congrArg List.head? (GroupsQuery.load_eq_of_distinct first second _ table
    fun a ha b hb hsa hsb => hdistinct a ha b hb (by simpa [welcomeIdEq] using hsa)
      (by simpa [welcomeIdEq] using hsb))

/-- Every read of the group store is fixed by the table, up to the order the
engine picks among rows that share a `created_at_ns`: `find_groups` returns the
same creation times, position by position, under every limit, the same rows
when it has no limit, and the same list when no two rows it selects tie;
`find_sync_groups` and `find_group` return the same rows; and
`find_group_by_welcome_id` returns a row of the same creation time, the same
row when no two rows with the welcome id tie. -/
theorem groupReads_engine_independent :
    (∀ (allowedStates : Option (List GroupMembershipState))
      (createdAfterNs createdBeforeNs limit : Option Int) (includeDmGroups : Bool),
      (findGroups first table allowedStates createdAfterNs createdBeforeNs limit
          includeDmGroups).map StoredGroup.createdAtNs =
        (findGroups second table allowedStates createdAfterNs createdBeforeNs limit
          includeDmGroups).map StoredGroup.createdAtNs ∧
      ((∀ a ∈ table.rows, ∀ b ∈ table.rows,
        FindGroupsFilter allowedStates createdAfterNs createdBeforeNs includeDmGroups a →
        FindGroupsFilter allowedStates createdAfterNs createdBeforeNs includeDmGroups b →
        a.createdAtNs = b.createdAtNs → a = b) →
        findGroups first table allowedStates createdAfterNs createdBeforeNs limit
            includeDmGroups =
          findGroups second table allowedStates createdAfterNs createdBeforeNs limit
            includeDmGroups)) ∧
    (∀ (allowedStates : Option (List GroupMembershipState))
      (createdAfterNs createdBeforeNs : Option Int) (includeDmGroups : Bool),
      (findGroups first table allowedStates createdAfterNs createdBeforeNs none
          includeDmGroups).Perm
        (findGroups second table allowedStates createdAfterNs createdBeforeNs none
          includeDmGroups)) ∧
    (findSyncGroups first table).Perm (findSyncGroups second table) ∧
    (∀ id, findGroup first table id = findGroup second table id) ∧
    ∀ welcomeId : Int,
      (findGroupByWelcomeId first table welcomeId).map StoredGroup.createdAtNs =
        (findGroupByWelcomeId second table welcomeId).map StoredGroup.createdAtNs ∧
      ((∀ a ∈ table.rows, ∀ b ∈ table.rows, a.welcomeId = some welcomeId →
        b.welcomeId = some welcomeId → a.createdAtNs = b.createdAtNs → a = b) →
        findGroupByWelcomeId first table welcomeId =
          findGroupByWelcomeId second table welcomeId) :=
  ⟨fun allowedStates createdAfterNs createdBeforeNs limit includeDmGroups =>
    ⟨findGroups_createdAts first second table allowedStates createdAfterNs createdBeforeNs limit
      includeDmGroups, findGroups_eq_of_distinct first second table allowedStates createdAfterNs
      createdBeforeNs limit includeDmGroups⟩,
    findGroups_perm_of_no_limit first second table, findSyncGroups_perm first second table,
    fun id => by rw [findGroup_eq_fetch, findGroup_eq_fetch],
    fun welcomeId => ⟨findGroupByWelcomeId_createdAt first second table welcomeId,
      findGroupByWelcomeId_eq_of_distinct first second table welcomeId⟩⟩

end Engines

end EncryptedStore
