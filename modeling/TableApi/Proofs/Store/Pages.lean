/-
Searching page by page.

A page is cut out of the rows that a search without limit and offset would
return, after they were sorted. Pages of one size lie behind one another
without gap or overlap as long as every search sorts the same rows the
same way; a page that comes back empty is behind the last row. So nothing
is lost and nothing is repeated as long as the store is left alone in
between, also among rows that the order does not tell apart.

This asks that the rows can be sorted at all (`Sortable`). Of other rows a
sort promises no order, and it may stop the program; a search that is
answered all the same returns some of the rows that meet its condition, as
many as its limit and its offset leave (`search_eq_ok`).
-/
import TableApi.Proofs.Store.Shared

namespace TableApi

open Json

-- ============================================================== cutting

namespace Selection

/-- The rows that meet a condition, sorted, all of them. -/
def whole (condition : Option Condition) (order : List SortKey) : Selection :=
  ⟨condition, order, none, none⟩

/-- The n-th page of a size, the first one being the page 0. -/
def page (condition : Option Condition) (order : List SortKey) (size n : Nat) : Selection :=
  ⟨condition, order, some size, some (n * size)⟩

/-- How many of `total` rows a selection returns that skips and limits. -/
def cut (selection : Selection) (total : Nat) : Nat :=
  let rest := total - min (selection.offset.getD 0) total
  selection.limit.elim rest (min · rest)

variable {selection : Selection} {sorted : List Row} {row : Row}

/-- The rows of a window are as many as the limit and the offset leave. -/
theorem length_window : (selection.window sorted).length = selection.cut sorted.length := by
  have hrest : (sorted.drop (selection.offset.getD 0)).length
      = sorted.length - min (selection.offset.getD 0) sorted.length := by
    rw [List.length_drop]
    omega
  unfold window cut
  cases hlimit : selection.limit with
  | none => exact hrest
  | some n => simp only [List.length_take, hrest, Option.elim_some]

/-- A window shows rows of what it is cut from. -/
theorem mem_of_mem_window (h : row ∈ selection.window sorted) : row ∈ sorted := by
  unfold window at h
  split at h
  · exact List.mem_of_mem_drop (List.mem_of_mem_take h)
  · exact List.mem_of_mem_drop h

end Selection

-- ============================================================= one search

namespace Table

variable {t : Table} {supply : Supply} {selection : Selection} {stored rows : List Row}

/-- Rows that can be sorted are sorted before they are cut. -/
theorem search_of_sortable (t : Table) (supply : Supply)
    (h : Sortable selection.order (stored.filter (keepsRow selection.condition))) :
    t.search supply selection stored
      = .ok ((selection.window (sortRows selection.order
          (stored.filter (keepsRow selection.condition)))).map t.project) := by
  rw [search, Selection.select?, h.sort?_eq]
  rfl

/-- A search that is answered returns, of the rows that meet its condition in
some arrangement, those behind its offset and up to its limit. -/
theorem search_eq_ok (h : t.search supply selection stored = .ok rows) :
    ∃ sorted, sorted.Perm (stored.filter (keepsRow selection.condition))
      ∧ rows = (selection.window sorted).map t.project := by
  rw [search, Selection.select?] at h
  cases hsort : sort? supply selection.order (stored.filter (keepsRow selection.condition)) with
  | none =>
      rw [hsort] at h
      cases h
  | some sorted =>
      rw [hsort] at h
      exact ⟨sorted, perm_sort? hsort, (Except.ok.inj h).symm⟩

end Table

namespace Store

variable {supply : Supply} {s : Store} {t : Table} {condition : Option Condition}
variable {order : List SortKey}

/-- What a search without limit and offset finds. -/
def found (s : Store) (t : Table) (condition : Option Condition) (order : List SortKey) :
    List Row :=
  (sortRows order (s.matching t condition)).map t.project

/-- How many rows meet a condition. -/
def total (s : Store) (t : Table) (condition : Option Condition) : Nat :=
  (s.rows t).countP (keepsRow condition)

/-- The total counts the matching rows. -/
theorem length_matching : (s.matching t condition).length = s.total t condition :=
  List.countP_eq_length_filter.symm

/-- As many rows are found as the total says. -/
theorem length_found : (s.found t condition order).length = s.total t condition := by
  rw [found, List.length_map, (perm_sortRows _ _).length_eq, length_matching]

/-- A search finds the matching rows, in some order. -/
theorem perm_found : (s.found t condition order).Perm ((s.matching t condition).map t.project) :=
  (perm_sortRows order _).map t.project

/-- A search without a limit answers all that is found. -/
theorem execute_whole (hready : s.failure = none)
    (hsort : Sortable order (s.matching t condition)) :
    (s.execute supply (.select t (.whole condition order))).1
      = .ok (s.found t condition order) := by
  rw [Repository.execute_of_ready hready]
  exact Table.search_of_sortable t supply hsort

/-- A search for a page answers what stands there. -/
theorem execute_page (hready : s.failure = none)
    (hsort : Sortable order (s.matching t condition)) (size n : Nat) :
    (s.execute supply (.select t (.page condition order size n))).1
      = .ok (((s.found t condition order).drop (n * size)).take size) := by
  rw [Repository.execute_of_ready hready, found, ← List.map_drop, ← List.map_take]
  exact Table.search_of_sortable t supply hsort

/-- A count answers the total. -/
theorem execute_count (hready : s.failure = none) :
    (s.execute supply (.count t condition)).1 = .ok [countRow (s.total t condition)] := by
  rw [Repository.execute_of_ready hready]
  rfl

end Store

-- ======================================================== page after page

namespace SharedStore

open Store

variable {supply : Supply} {c c' : SharedStore} {t : Table} {condition : Option Condition}
variable {order : List SortKey} {size : Nat}

/-- A search stops, or it returns as many of the rows that meet its condition as
its offset and its limit leave. -/
theorem query_select_cases (h : c.poisoned = false) (hready : c.store.failure = none)
    (supply : Supply) (t : Table) (selection : Selection) :
    (c.query supply (.select t selection)).1 = .stopped
      ∨ ∃ rows, (c.query supply (.select t selection)).1 = .answered (.ok rows)
        ∧ rows.length = selection.cut (c.store.total t selection.condition) := by
  cases hsearch : t.search supply selection (c.store.rows t) with
  | error e =>
      have herror : (c.store.execute supply (.select t selection)).1 = .error e := by
        rw [Repository.execute_of_ready hready]
        exact hsearch
      obtain ⟨rfl, -⟩ := Table.search_eq_error_iff.1 hsearch
      refine .inl (query_stopped_iff.2 ⟨h, stops_execute_iff.1 ?_⟩)
      rw [herror]
      rfl
  | ok rows =>
      have hok : (c.store.execute supply (.select t selection)).1 = .ok rows := by
        rw [Repository.execute_of_ready hready]
        exact hsearch
      obtain ⟨sorted, hperm, rfl⟩ := Table.search_eq_ok hsearch
      refine .inr ⟨_, by rw [query_of_ok h hok], ?_⟩
      rw [List.length_map, Selection.length_window, hperm.length_eq]
      exact congrArg selection.cut length_matching

/-- The searches for the pages from the n-th one on, each in the store that
the one before has left, until one returns no row. -/
inductive Pages (supply : Supply) (t : Table) (condition : Option Condition)
    (order : List SortKey) (size : Nat) : Nat → SharedStore → List (List Row) → SharedStore → Prop
  | last {n : Nat} {c c' : SharedStore} :
      c.query supply (.select t (.page condition order size n)) = (.answered (.ok []), c') →
        Pages supply t condition order size n c [] c'
  | next {n : Nat} {c between c' : SharedStore} {rows : List Row} {pages : List (List Row)} :
      c.query supply (.select t (.page condition order size n)) = (.answered (.ok rows), between) →
        rows ≠ [] → Pages supply t condition order size (n + 1) between pages c' →
          Pages supply t condition order size n c (rows :: pages) c'

/-- A search is answered: the lock is whole, no failure is pending, and the rows
that meet the condition can be sorted. -/
structure Searchable (c : SharedStore) (t : Table) (condition : Option Condition)
    (order : List SortKey) : Prop where
  whole : c.poisoned = false
  ready : c.store.failure = none
  sortable : Sortable order (c.store.matching t condition)

/-- A store that can be searched stays as it is but for the log. -/
theorem Searchable.query_page (h : c.Searchable t condition order) (supply : Supply)
    (size n : Nat) :
    c.query supply (.select t (.page condition order size n))
      = (.answered (.ok (((c.store.found t condition order).drop (n * size)).take size)),
          ⟨Repository.received c.store (.select t (.page condition order size n)), false⟩) := by
  rw [query_of_ok h.whole (execute_page h.ready h.sortable size n),
    Repository.execute_of_ready h.ready]
  rfl

/-- A search leaves the store searchable. -/
theorem Searchable.received (h : c.Searchable t condition order) (statement : Statement) :
    Searchable ⟨Repository.received c.store statement, false⟩ t condition order :=
  ⟨rfl, h.ready, h.sortable⟩

/-- The pages from the n-th one on are what a search finds behind the pages
before it. -/
theorem flatten_of_pages (hsize : 0 < size) {n : Nat} {pages : List (List Row)}
    (h : Pages supply t condition order size n c pages c')
    (hsearch : c.Searchable t condition order) :
    pages.flatten = (c.store.found t condition order).drop (n * size)
      ∧ c'.store.rows t = c.store.rows t := by
  induction h with
  | last hpage =>
      rw [hsearch.query_page] at hpage
      obtain ⟨hrows, rfl⟩ := Prod.mk.inj hpage
      have hnil := List.take_eq_nil_iff.1 (Except.ok.inj (Reply.answered.inj hrows))
      exact ⟨(hnil.resolve_left (by omega)).symm, rfl⟩
  | @next n c between c' rows pages hpage hrows hpages ih =>
      rw [hsearch.query_page] at hpage
      obtain ⟨hrows, rfl⟩ := Prod.mk.inj hpage
      obtain ⟨hrest, hsame⟩ := ih (hsearch.received _)
      have hbetween : (Repository.received c.store
          (.select t (.page condition order size n))).found t condition order
            = c.store.found t condition order := rfl
      refine ⟨?_, hsame⟩
      calc (rows :: pages).flatten
          = rows ++ pages.flatten := List.flatten_cons
        _ = ((c.store.found t condition order).drop (n * size)).take size
              ++ ((c.store.found t condition order).drop (n * size)).drop size := by
            rw [← Except.ok.inj (Reply.answered.inj hrows), hrest, hbetween, List.drop_drop,
              Nat.succ_mul]
        _ = (c.store.found t condition order).drop (n * size) := List.take_append_drop _ _

/-- Asking for page after page ends, as every page but the last brings the
end of the rows nearer. -/
theorem exists_pages (supply : Supply) (hsize : 0 < size) (n : Nat)
    (hsearch : c.Searchable t condition order) :
    ∃ pages c', Pages supply t condition order size n c pages c' := by
  induction hleft : (c.store.found t condition order).length - n * size using Nat.strongRecOn
    generalizing n c with
  | _ left ih =>
      have hpage := hsearch.query_page supply size n
      by_cases hend : (c.store.found t condition order).length ≤ n * size
      · rw [List.drop_eq_nil_of_le hend, List.take_nil] at hpage
        exact ⟨[], _, .last hpage⟩
      · have hnonempty : ((c.store.found t condition order).drop (n * size)).take size ≠ [] := by
          intro hnil
          have hlength := congrArg List.length hnil
          rw [List.length_take, List.length_drop, List.length_nil] at hlength
          omega
        have hnearer : (c.store.found t condition order).length - (n + 1) * size < left := by
          rw [Nat.succ_mul]
          omega
        obtain ⟨pages, c', hpages⟩ := ih _ hnearer (n + 1) (hsearch.received _) rfl
        exact ⟨_, c', .next hpage hnonempty hpages⟩

/-- Searching page after page comes to an end, and the pages behind one
another are what one search for all of them returns: each row that meets
the condition, as many times as it is stored, and as many as are counted. -/
structure FoundInPages (supply : Supply) (c : SharedStore) (t : Table)
    (condition : Option Condition) (order : List SortKey) (size : Nat) : Prop where
  ends : ∃ pages c', Pages supply t condition order size 0 c pages c'
  flatten : ∀ pages c', Pages supply t condition order size 0 c pages c' →
    (c.query supply (.select t (.whole condition order))).1 = .answered (.ok pages.flatten)
      ∧ c'.store.rows t = c.store.rows t
  counted : ∀ rows, (c.query supply (.select t (.whole condition order))).1 = .answered (.ok rows) →
    rows.Perm ((c.store.matching t condition).map t.project)
      ∧ (c.query supply (.count t condition)).1 = .answered (.ok [countRow rows.length])
      ∧ rows.length = c.store.total t condition

/-- Its pages come to an end, and together they are the search without a
limit. -/
theorem Searchable.foundInPages (supply : Supply) (h : c.Searchable t condition order)
    (hsize : 0 < size) : FoundInPages supply c t condition order size where
  ends := exists_pages supply hsize 0 h
  flatten := fun pages c' hpages => by
    obtain ⟨hflatten, hrows⟩ := flatten_of_pages hsize hpages h
    rw [Nat.zero_mul, List.drop_zero] at hflatten
    rw [query_of_ok h.whole (execute_whole h.ready h.sortable), hflatten]
    exact ⟨rfl, hrows⟩
  counted := fun rows hrows => by
    rw [query_of_ok h.whole (execute_whole h.ready h.sortable)] at hrows
    obtain rfl := Except.ok.inj (Reply.answered.inj hrows)
    rw [query_of_ok h.whole (execute_count h.ready), length_found]
    exact ⟨perm_found, rfl, rfl⟩

end SharedStore

end TableApi
