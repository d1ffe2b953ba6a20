import EncryptedStore.Group.Queries

/-!
# Keyset paging over `find_groups`

Each page asks for the groups created after the last row of the page before,
and paging stops at a short page.  The bound is strict and the order has no
tie-breaker, so paging loses exactly the groups tied with a page's last row.
-/

namespace EncryptedStore

theorem applyLimit_natCast (pageSize : Nat) (rows : List StoredGroup) :
    applyLimit (some (pageSize : Int)) rows = rows.take pageSize := by
  have hsize : ¬ (pageSize : Int) < 0 := by omega
  simp [applyLimit, hsize]

/-- In a sorted list cut after `n` rows, the last row kept is created no earlier
than every kept row and no later than every dropped one. -/
theorem sorted_take_getLast {rows : List StoredGroup} (hsorted : rows.Sorted CreatedNoLater)
    {n : Nat} {last : StoredGroup} (hlast : (rows.take n).getLast? = some last) :
    (∀ row ∈ rows.take n, row.createdAtNs ≤ last.createdAtNs) ∧
      ∀ row ∈ rows.drop n, last.createdAtNs ≤ row.createdAtNs := by
  rw [← List.take_append_drop n rows, List.Sorted, List.pairwise_append] at hsorted
  obtain ⟨init, hinit⟩ := List.getLast?_eq_some_iff.mp hlast
  have hkept := hsorted.1
  rw [hinit, List.pairwise_append] at hkept
  refine ⟨fun row hrow => ?_, hsorted.2.2 last (List.mem_of_getLast?_eq_some hlast)⟩
  rw [hinit, List.mem_append, List.mem_singleton] at hrow
  rcases hrow with hrow | rfl
  · exact hkept.2.2 row hrow last (List.mem_singleton_self _)
  · exact le_refl _

section Paging

variable (engine : OrderByCreatedAt) (table : Table)
  (allowedStates : Option (List GroupMembershipState)) (createdBeforeNs : Option Int)
  (includeDmGroups : Bool) (pageSize : Nat)

/-- Keyset paging over `find_groups`, as a caller pages, with at most `fuel`
pages. -/
def pageFindGroups : Nat → Option Int → Option (List (List StoredGroup))
  | 0, _ => none
  | fuel + 1, createdAfterNs =>
      let page := findGroups engine table allowedStates createdAfterNs createdBeforeNs
        (some pageSize) includeDmGroups
      if page.length < pageSize then some [page]
      else
        match page.getLast? with
        | none => some [page]
        | some last => (pageFindGroups fuel (some last.createdAtNs)).map (page :: ·)

/-- The rows the unpaged `find_groups` lists. -/
def Listed (row : StoredGroup) : Prop :=
  row ∈ table.rows ∧ FindGroupsFilter allowedStates none createdBeforeNs includeDmGroups row

/-- The rows still to come when the lower bound is `createdAfterNs`. -/
def remaining (createdAfterNs : Option Int) : Nat :=
  (table.rows.filter
    (findGroupsQuery allowedStates createdAfterNs createdBeforeNs none includeDmGroups).selects).length

/-- What paging from the bound `createdAfterNs` returns: listed rows above the
bound, each once, in order; every listed row above the bound that is left out
shares its creation time with the last row of a full page; and a row sharing
the creation time of the last row of a full page, and not on that page, is on
no page. -/
structure PagesFrom (createdAfterNs : Option Int) (pages : List (List StoredGroup)) : Prop where
  listed : ∀ row ∈ pages.flatten, Listed table allowedStates createdBeforeNs includeDmGroups row ∧
    ∀ bound ∈ createdAfterNs, bound < row.createdAtNs
  nodup : pages.flatten.Nodup
  sorted : pages.flatten.Sorted CreatedNoLater
  missed : ∀ row, Listed table allowedStates createdBeforeNs includeDmGroups row →
    (∀ bound ∈ createdAfterNs, bound < row.createdAtNs) → row ∉ pages.flatten →
      ∃ page ∈ pages, page.length = pageSize ∧
        ∃ last, page.getLast? = some last ∧ last.createdAtNs = row.createdAtNs
  tied : ∀ page ∈ pages, page.length = pageSize → ∀ last, page.getLast? = some last →
    ∀ row, row.createdAtNs = last.createdAtNs → row ∉ page → row ∉ pages.flatten

/-- One page: the first `pageSize` of the listed rows above the bound, in an
order the engine picks. -/
theorem page_spec (createdAfterNs : Option Int) :
    ∃ listed : List StoredGroup,
      (∀ row, row ∈ listed ↔ Listed table allowedStates createdBeforeNs includeDmGroups row ∧
        ∀ bound ∈ createdAfterNs, bound < row.createdAtNs) ∧
      listed.Nodup ∧ listed.Sorted CreatedNoLater ∧
      findGroups engine table allowedStates createdAfterNs createdBeforeNs (some pageSize)
        includeDmGroups = listed.take pageSize := by
  obtain ⟨listed, hmem, hnodup, hsorted, hpage⟩ :=
    @findGroups_spec engine table allowedStates createdAfterNs createdBeforeNs (some pageSize)
      includeDmGroups
  refine ⟨listed, fun row => ?_, hnodup, hsorted, by rw [hpage, applyLimit_natCast]⟩
  rw [hmem, findGroupsFilter_iff, Listed, and_assoc]

variable {engine table allowedStates createdBeforeNs includeDmGroups pageSize}

/-- After a full page, fewer rows remain above the new bound. -/
theorem remaining_lt {createdAfterNs : Option Int} {last : StoredGroup}
    (hlast : Listed table allowedStates createdBeforeNs includeDmGroups last)
    (habove : ∀ bound ∈ createdAfterNs, bound < last.createdAtNs) :
    remaining table allowedStates createdBeforeNs includeDmGroups (some last.createdAtNs) <
      remaining table allowedStates createdBeforeNs includeDmGroups createdAfterNs := by
  have hsub : (table.rows.filter (findGroupsQuery allowedStates (some last.createdAtNs)
      createdBeforeNs none includeDmGroups).selects).Sublist (table.rows.filter
        (findGroupsQuery allowedStates createdAfterNs createdBeforeNs none includeDmGroups).selects) :=
    List.monotone_filter_right table.rows (fun row hrow => by
      rw [findGroupsQuery_selects, findGroupsFilter_iff] at hrow ⊢
      exact ⟨hrow.1, fun bound hbound => (habove bound hbound).trans (hrow.2 _ rfl)⟩)
  refine lt_of_le_of_ne hsub.length_le fun hlength => ?_
  have hmem : last ∈ table.rows.filter
      (findGroupsQuery allowedStates createdAfterNs createdBeforeNs none includeDmGroups).selects := by
    rw [List.mem_filter, findGroupsQuery_selects, findGroupsFilter_iff]
    exact ⟨hlast.1, hlast.2, habove⟩
  rw [← hsub.eq_of_length hlength, List.mem_filter, findGroupsQuery_selects,
    findGroupsFilter_iff] at hmem
  exact lt_irrefl _ (hmem.2.2 _ rfl)

/-- Paging stops once the fuel exceeds the rows still to come. -/
theorem pageFindGroups_isSome {fuel : Nat} {createdAfterNs : Option Int}
    (hfuel : remaining table allowedStates createdBeforeNs includeDmGroups createdAfterNs < fuel) :
    (pageFindGroups engine table allowedStates createdBeforeNs includeDmGroups pageSize fuel
      createdAfterNs).isSome := by
  induction fuel generalizing createdAfterNs with
  | zero => omega
  | succ fuel ih =>
      obtain ⟨listed, hmem, -, -, hpage⟩ :=
        page_spec engine table allowedStates createdBeforeNs includeDmGroups pageSize createdAfterNs
      simp only [pageFindGroups, hpage]
      split
      · rfl
      · split
        · rfl
        · rename_i last hlast
          have hlisted := (hmem last).mp (List.mem_of_mem_take (List.mem_of_getLast?_eq_some hlast))
          have hnext := remaining_lt hlisted.1 hlisted.2
          simpa using ih (by omega)

section Pages

variable {createdAfterNs : Option Int} {listed : List StoredGroup}
  (hmem : ∀ row, row ∈ listed ↔ Listed table allowedStates createdBeforeNs includeDmGroups row ∧
    ∀ bound ∈ createdAfterNs, bound < row.createdAtNs)
  (hnodup : listed.Nodup) (hsorted : listed.Sorted CreatedNoLater)
include hmem hnodup hsorted

/-- A page that holds every listed row above the bound is all of paging. -/
theorem PagesFrom.single :
    PagesFrom table allowedStates createdBeforeNs includeDmGroups pageSize createdAfterNs
      [listed] :=
  ⟨fun row hrow => (hmem row).mp (by simpa using hrow), by simpa using hnodup,
    by simpa using hsorted,
    fun row hrow habove hout => absurd (by simpa using (hmem row).mpr ⟨hrow, habove⟩) hout,
    fun page hpage _ _ _ _ _ hout => by
      obtain rfl : page = listed := by simpa using hpage
      simpa using hout⟩

/-- A full page, then the pages above its last row: the rows after the page are
all created after its last row, and a row left out either is left out by those
pages or shares its creation time with that last row. -/
theorem PagesFrom.cons {last : StoredGroup} (hlast : (listed.take pageSize).getLast? = some last)
    (hlength : (listed.take pageSize).length = pageSize) {rest : List (List StoredGroup)}
    (next : PagesFrom table allowedStates createdBeforeNs includeDmGroups pageSize
      (some last.createdAtNs) rest) :
    PagesFrom table allowedStates createdBeforeNs includeDmGroups pageSize createdAfterNs
      (listed.take pageSize :: rest) := by
  have hlastListed := (hmem last).mp (List.mem_of_mem_take (List.mem_of_getLast?_eq_some hlast))
  obtain ⟨hkept, hdropped⟩ := sorted_take_getLast hsorted hlast
  have hrestAbove : ∀ row ∈ rest.flatten, last.createdAtNs < row.createdAtNs :=
    fun row hrow => (next.listed row hrow).2 _ rfl
  refine ⟨fun row hrow => ?_, ?_, ?_, fun row hrow habove hout => ?_,
    fun page hpage hfull pageLast hpageLast row hsame hout => ?_⟩
  · rw [List.flatten_cons, List.mem_append] at hrow
    rcases hrow with hrow | hrow
    · exact (hmem row).mp (List.mem_of_mem_take hrow)
    · exact ⟨(next.listed row hrow).1, fun bound hbound =>
        (hlastListed.2 bound hbound).trans (hrestAbove row hrow)⟩
  · rw [List.flatten_cons, List.nodup_append]
    exact ⟨hnodup.sublist (List.take_sublist _ _), next.nodup, fun row hkeep hnext =>
      absurd (hkept row hkeep) (not_le.mpr (hrestAbove row hnext))⟩
  · rw [List.flatten_cons, List.Sorted, List.pairwise_append]
    exact ⟨hsorted.sublist (List.take_sublist _ _), next.sorted,
      fun first hfirst second hsecond => (hkept first hfirst).trans (hrestAbove second hsecond).le⟩
  · rw [List.flatten_cons, List.mem_append, not_or] at hout
    by_cases hlater : last.createdAtNs < row.createdAtNs
    · obtain ⟨page, hpageMem, hpage⟩ :=
        next.missed row hrow (fun _ hbound => (Option.some.inj hbound) ▸ hlater) hout.2
      exact ⟨page, List.mem_cons_of_mem _ hpageMem, hpage⟩
    · have hinListed := (hmem row).mpr ⟨hrow, habove⟩
      rw [← List.take_append_drop pageSize listed, List.mem_append] at hinListed
      exact ⟨_, List.mem_cons_self _ _, hlength, last, hlast,
        le_antisymm (hdropped row (hinListed.resolve_left hout.1)) (not_lt.mp hlater)⟩
  · rw [List.flatten_cons, List.mem_append, not_or]
    rcases List.mem_cons.mp hpage with rfl | hpage
    · -- the first page: every later row is created after its last row
      obtain rfl : pageLast = last := Option.some.inj (hpageLast.symm.trans hlast)
      exact ⟨hout, fun hrest => lt_irrefl _ (hsame ▸ hrestAbove row hrest)⟩
    · -- a later page: its last row, and so the row, is created after the first page
      have hafter := hrestAbove pageLast
        (List.mem_flatten.mpr ⟨page, hpage, List.mem_of_getLast?_eq_some hpageLast⟩)
      exact ⟨fun hfirst => absurd (hkept row hfirst) (not_le.mpr (hsame ▸ hafter)),
        next.tied page hpage hfull pageLast hpageLast row hsame hout⟩

end Pages

/-- Paging from any bound returns what `PagesFrom` says, for pages of at least
one row. -/
theorem pageFindGroups_pagesFrom (hsize : 0 < pageSize) {fuel : Nat}
    {createdAfterNs : Option Int} {pages : List (List StoredGroup)}
    (h : pageFindGroups engine table allowedStates createdBeforeNs includeDmGroups pageSize fuel
      createdAfterNs = some pages) :
    PagesFrom table allowedStates createdBeforeNs includeDmGroups pageSize createdAfterNs pages := by
  induction fuel generalizing createdAfterNs pages with
  | zero => cases h
  | succ fuel ih =>
      obtain ⟨listed, hmem, hnodup, hsorted, hpage⟩ :=
        page_spec engine table allowedStates createdBeforeNs includeDmGroups pageSize createdAfterNs
      simp only [pageFindGroups, hpage] at h
      split at h
      · next hshort =>
          cases h
          rw [List.take_of_length_le (by simp at hshort; omega)]
          exact .single hmem hnodup hsorted
      · next hfull =>
          split at h
          · next hempty =>
              rw [List.getLast?_eq_none_iff] at hempty
              simp [hempty] at hfull
              omega
          · next last hlast =>
              obtain ⟨rest, hrest, rfl⟩ := Option.map_eq_some'.mp h
              have hlength : (listed.take pageSize).length = pageSize := by
                have := List.length_take_le pageSize listed
                omega
              exact .cons hmem hnodup hsorted hlast hlength (ih hrest)

theorem remaining_le_length (createdAfterNs : Option Int) :
    remaining table allowedStates createdBeforeNs includeDmGroups createdAfterNs ≤
      table.rows.length :=
  List.length_filter_le _ _

/-- Paging with `fuel` returns at most `fuel` pages. -/
theorem pageFindGroups_length {fuel : Nat} {createdAfterNs : Option Int}
    {pages : List (List StoredGroup)}
    (h : pageFindGroups engine table allowedStates createdBeforeNs includeDmGroups pageSize fuel
      createdAfterNs = some pages) :
    pages.length ≤ fuel := by
  induction fuel generalizing createdAfterNs pages with
  | zero => cases h
  | succ fuel ih =>
      simp only [pageFindGroups] at h
      split at h
      · cases h
        simp
      · split at h
        · cases h
          simp
        · obtain ⟨rest, hrest, rfl⟩ := Option.map_eq_some'.mp h
          simpa using ih hrest

/-- Keyset paging with pages of at least one row stops after at most one page
per row of the table and one more; its pages list only rows the unpaged
`find_groups` lists, each once and in order; a listed row is left out exactly
when it shares its creation time with the last row of a full page that does
not hold it, so two listed rows of one creation time on either side of a page
boundary lose the later one; and when listed rows have distinct creation times
the pages add up to the unpaged listing. -/
theorem pageFindGroups_keyset_contract (hsize : 0 < pageSize) :
    ∃ pages, pageFindGroups engine table allowedStates createdBeforeNs includeDmGroups pageSize
        (table.rows.length + 1) none = some pages ∧
      pages.length ≤ table.rows.length + 1 ∧
      PagesFrom table allowedStates createdBeforeNs includeDmGroups pageSize none pages ∧
      (∀ row, Listed table allowedStates createdBeforeNs includeDmGroups row →
        (row ∉ pages.flatten ↔ ∃ page ∈ pages, page.length = pageSize ∧
          ∃ last, page.getLast? = some last ∧ last.createdAtNs = row.createdAtNs ∧ row ∉ page)) ∧
      ((∀ first second, Listed table allowedStates createdBeforeNs includeDmGroups first →
          Listed table allowedStates createdBeforeNs includeDmGroups second →
          first.createdAtNs = second.createdAtNs → first = second) →
        pages.flatten = findGroups engine table allowedStates none createdBeforeNs none
          includeDmGroups) := by
  have hsome : (pageFindGroups engine table allowedStates createdBeforeNs includeDmGroups
      pageSize (table.rows.length + 1) none).isSome :=
    pageFindGroups_isSome (Nat.lt_succ_of_le (remaining_le_length _))
  obtain ⟨pages, hpages⟩ := Option.isSome_iff_exists.mp hsome
  have hfrom := pageFindGroups_pagesFrom hsize hpages
  have hleft : ∀ row, Listed table allowedStates createdBeforeNs includeDmGroups row →
      (row ∉ pages.flatten ↔ ∃ page ∈ pages, page.length = pageSize ∧
        ∃ last, page.getLast? = some last ∧ last.createdAtNs = row.createdAtNs ∧ row ∉ page) := by
    refine fun row hrow => ⟨fun hout => ?_, ?_⟩
    · obtain ⟨page, hpage, hfull, last, hlast, hsame⟩ := hfrom.missed row hrow nofun hout
      exact ⟨page, hpage, hfull, last, hlast, hsame,
        fun hin => hout (List.mem_flatten.mpr ⟨page, hpage, hin⟩)⟩
    · rintro ⟨page, hpage, hfull, last, hlast, hsame, hout⟩
      exact hfrom.tied page hpage hfull last hlast row hsame.symm hout
  refine ⟨pages, hpages, pageFindGroups_length hpages, hfrom, hleft, fun hdistinct => ?_⟩
  obtain ⟨unpaged, hunpaged, hnodup, hsorted, hload⟩ :=
    @findGroups_spec engine table allowedStates none createdBeforeNs none includeDmGroups
  have hall : ∀ row, row ∈ pages.flatten ↔ row ∈ unpaged := by
    intro row
    rw [hunpaged, ← Listed]
    refine ⟨fun hrow => (hfrom.listed row hrow).1, fun hrow => by_contra fun hout => ?_⟩
    obtain ⟨page, hpage, -, last, hlast, hsame, -⟩ := (hleft row hrow).mp hout
    have hlastIn : last ∈ pages.flatten :=
      List.mem_flatten.mpr ⟨page, hpage, List.mem_of_getLast?_eq_some hlast⟩
    exact hout (hdistinct last row (hfrom.listed last hlastIn).1 hrow hsame ▸ hlastIn)
  rw [hload]
  exact eq_of_perm_of_distinct ((List.perm_ext_iff_of_nodup hfrom.nodup hnodup).mpr hall)
    hfrom.sorted hsorted hfrom.nodup fun first hfirst second hsecond =>
      hdistinct first second (hfrom.listed first hfirst).1 (hfrom.listed second hsecond).1

end Paging

/-- Three conversation groups created at distinct instants. -/
def distinctGroups : Table :=
  ⟨[StoredGroup.new [1] 5 .allowed "" none, StoredGroup.new [2] 6 .allowed "" none,
    StoredGroup.new [3] 7 .allowed "" none], by decide⟩

theorem pageFindGroups_keyset_contract_distinctGroups :
    0 < 1 ∧
    (∀ first second, Listed distinctGroups none none false first →
      Listed distinctGroups none none false second →
      first.createdAtNs = second.createdAtNs → first = second) ∧
    ∃ pages, pageFindGroups .stable distinctGroups none none false 1
        (distinctGroups.rows.length + 1) none = some pages ∧
      pages.length ≤ distinctGroups.rows.length + 1 ∧
      PagesFrom distinctGroups none none false 1 none pages ∧
      (∀ row, Listed distinctGroups none none false row →
        (row ∉ pages.flatten ↔ ∃ page ∈ pages, page.length = 1 ∧
          ∃ last, page.getLast? = some last ∧ last.createdAtNs = row.createdAtNs ∧ row ∉ page)) ∧
      ((∀ first second, Listed distinctGroups none none false first →
          Listed distinctGroups none none false second →
          first.createdAtNs = second.createdAtNs → first = second) →
        pages.flatten = findGroups .stable distinctGroups none none none none false) :=
  ⟨Nat.one_pos, by
    rintro first second ⟨hfirst, -⟩ ⟨hsecond, -⟩ hsame
    simp only [distinctGroups, List.mem_cons, List.not_mem_nil, or_false] at hfirst hsecond
    rcases hfirst with rfl | rfl | rfl <;> rcases hsecond with rfl | rfl | rfl <;>
      first | rfl | simp [StoredGroup.new] at hsame,
    pageFindGroups_keyset_contract Nat.one_pos⟩

/-- One row a page over three rows takes a fourth, empty page to stop. -/
example : pageFindGroups .stable distinctGroups none none false 1 4 none =
    some [[StoredGroup.new [1] 5 .allowed "" none], [StoredGroup.new [2] 6 .allowed "" none],
      [StoredGroup.new [3] 7 .allowed "" none], []] := rfl

example : pageFindGroups .stable distinctGroups none none false 1 3 none = none := rfl

/-- Two conversation groups created at the same instant. -/
def tiedGroups : Table :=
  ⟨[StoredGroup.new [1] 5 .allowed "" none, StoredGroup.new [2] 5 .allowed "" none], by decide⟩

theorem pageFindGroups_tiedGroups (fuel : Nat) :
    pageFindGroups .stable tiedGroups none none false 1 (fuel + 2) none =
      some [[StoredGroup.new [1] 5 .allowed "" none], []] := rfl

/-- Paging one row at a time over two groups created at the same instant returns
only one of them, however much fuel it gets. -/
theorem pageFindGroups_loses_tied_group :
    ¬ ∀ (engine : OrderByCreatedAt) (table : Table)
        (allowedStates : Option (List GroupMembershipState)) (createdBeforeNs : Option Int)
        (includeDmGroups : Bool) (pageSize : Nat), 1 ≤ pageSize →
      ∃ fuel pages, pageFindGroups engine table allowedStates createdBeforeNs includeDmGroups
          pageSize fuel none = some pages ∧
        pages.flatten = findGroups engine table allowedStates none createdBeforeNs none
          includeDmGroups := by
  intro h
  obtain ⟨fuel, pages, hpages, hflat⟩ := h .stable tiedGroups none none false 1 le_rfl
  match fuel, hpages with
  | fuel + 2, hpages =>
      rw [pageFindGroups_tiedGroups] at hpages
      cases hpages
      revert hflat
      decide

end EncryptedStore
