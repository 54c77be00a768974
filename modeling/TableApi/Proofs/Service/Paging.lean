/-
Pages and their totals.

The number of matching rows is taken by another statement than the rows,
which neither sorts nor projects. That it is the length of the unpaged
search is what makes the total of a page, and the test whether a row
exists, agree with what a search would find.
-/
import TableApi.Proofs.Repository.Run
import TableApi.Proofs.Store.Comparator
import TableApi.Proofs.Store.Pages
import TableApi.Service

namespace TableApi

open Json

/-- A client that does not say how many rows it wants gets a page of the
default size, from the first row on. -/
theorem FindOptions.cut_of_compile {o : FindOptions} {t : Table} {selection : Selection}
    (h : o.compile t = .ok selection) (total : Nat) :
    selection.cut total
      = min (o.limit.getD defaultLimit) (total - min (o.offset.getD defaultOffset) total) := by
  obtain ⟨condition, -, rfl⟩ := compile_eq_ok h
  rfl

-- ================================================================ totals

namespace Repository

variable {α β ε δ : Type} {supply : Supply} {s : Store} {r : Resource}

/-- An attempt with another name for its failure. -/
theorem runOn_adapt (a : Attempt ε α) (f : ε → δ) :
    runOn supply s (a.adapt f) = ((runOn supply s a).1.mapError f, (runOn supply s a).2) := by
  have hrun := Session.run_bind (Store.execute supply)
    (fun result : Except ε α => Session.done (result.mapError f)) a s
  have hadapt : ExceptT.run (a.adapt f)
      = Session.bind a fun result : Except ε α => Session.done (result.mapError f) := rfl
  simp only [runOn, hadapt, hrun, Session.run_done]
  rfl

/-- All rows that meet the condition can be read as records. -/
def Readable (r : Resource) (s : Store) (condition : Option Condition) : Prop :=
  ∀ row ∈ s.rows r.table, keepsRow condition row = true →
    (r.record? (r.table.project row)).isSome = true

theorem exists_records {rows : List Row} (h : ∀ row ∈ rows, (r.record? row).isSome = true) :
    ∃ records, r.records? rows = some records ∧ records.length = rows.length := by
  induction rows with
  | nil => exact ⟨[], rfl, rfl⟩
  | cons row rows ih =>
      obtain ⟨hrow, hrest⟩ := List.forall_mem_cons.1 h
      obtain ⟨record, hrecord⟩ := Option.isSome_iff_exists.1 hrow
      obtain ⟨records, hrecords, hlength⟩ := ih hrest
      refine ⟨record :: records, ?_, congrArg Nat.succ hlength⟩
      rw [Resource.records?] at hrecords ⊢
      rw [List.mapM_cons, hrecord, hrecords]
      rfl

/-- The rows of a search are those that its selection leaves of the rows that
meet its condition, sorted. -/
theorem runOn_findAll (hready : s.failure = none) {selection : Selection}
    (hsort : Sortable selection.order (s.matching r.table selection.condition)) :
    runOn supply s (findAll r selection)
      = (outcome .findAll (r.records? ((selection.window (sortRows selection.order
            (s.matching r.table selection.condition))).map r.table.project)),
          received s (.select r.table selection)) := by
  rw [findAll, runOn_ask hready, Store.perform, rows_received,
    Table.search_of_sortable r.table supply hsort]
  rfl

theorem runOn_count (hready : s.failure = none) (condition : Option Condition)
    (hfits : (s.rows r.table).length ≤ nat64Max) :
    runOn supply s (count r condition)
      = (.ok (s.total r.table condition), received s (.count r.table condition)) := by
  have htotal : s.total r.table condition ≤ nat64Max := Nat.le_trans List.countP_le_length hfits
  rw [count, runOn_ask hready]
  simp only [Store.perform, rows_received]
  rw [Store.total] at htotal ⊢
  rw [countOf?_countRow htotal]
  rfl

/-- A page and the number of rows on all pages. -/
theorem runOn_findAndCount (hready : s.failure = none) {selection : Selection}
    (hsort : Sortable selection.order (s.matching r.table selection.condition))
    (hfits : (s.rows r.table).length ≤ nat64Max) (hreadable : Readable r s selection.condition) :
    ∃ records, r.records? ((selection.window (sortRows selection.order
          (s.matching r.table selection.condition))).map r.table.project) = some records
      ∧ (runOn supply s (findAndCount r selection)).1
        = .ok (records, s.total r.table selection.condition)
      ∧ records.length = selection.cut (s.total r.table selection.condition) := by
  have hread : ∀ row ∈ (selection.window (sortRows selection.order
      (s.matching r.table selection.condition))).map r.table.project,
        (r.record? row).isSome = true := by
    refine List.forall_mem_map.2 fun row hrow => ?_
    have hmem := (perm_sortRows _ _).mem_iff.1 (Selection.mem_of_mem_window hrow)
    obtain ⟨hstored, hkeeps⟩ := List.mem_filter.1 hmem
    exact hreadable row hstored hkeeps
  obtain ⟨records, hrecords, hlength⟩ := exists_records hread
  refine ⟨records, hrecords, ?_, ?_⟩
  · rw [findAndCount, runOn_bind, runOn_findAll hready hsort, hrecords]
    simp only [outcome]
    rw [runOn_bind, runOn_count (s := received s _) hready selection.condition hfits]
    rfl
  · rw [hlength, List.length_map, Selection.length_window, (perm_sortRows _ _).length_eq,
      Store.length_matching]

theorem runOn_checkExists (hready : s.failure = none) (condition : Condition)
    (hfits : (s.rows r.table).length ≤ nat64Max) :
    (runOn supply s (checkExists r condition)).1
      = .ok (decide (0 < s.total r.table (some condition))) := by
  rw [checkExists, runOn_bind, runOn_count hready _ hfits]
  rfl

theorem runOn_findOne (hready : s.failure = none) (condition : Condition) :
    (runOn supply s (findOne r condition)).1
      = outcome .findOne (r.firstRecord?
          (((s.rows r.table).find? condition.keeps).toList.map r.table.project)) := by
  rw [findOne, runOn_ask hready]
  simp only [Store.perform, rows_received, search_first]

/-- A row exists exactly if a search for one returns one. -/
theorem checkExists_eq_findOne (hready : s.failure = none) (condition : Condition)
    (hfits : (s.rows r.table).length ≤ nat64Max) (hreadable : Readable r s (some condition)) :
    ∃ record : Option Value, (runOn supply s (findOne r condition)).1 = .ok record
      ∧ (runOn supply s (checkExists r condition)).1 = .ok record.isSome := by
  rw [runOn_findOne hready, runOn_checkExists hready condition hfits]
  have hpositive : 0 < s.total r.table (some condition)
      ↔ ∃ row ∈ s.rows r.table, condition.keeps row = true := List.countP_pos_iff
  cases hfind : (s.rows r.table).find? condition.keeps with
  | none =>
      have hnone : ¬ 0 < s.total r.table (some condition) := fun h => by
        obtain ⟨row, hrow, hkeeps⟩ := hpositive.1 h
        exact absurd hkeeps (List.find?_eq_none.1 hfind row hrow)
      exact ⟨none, rfl, congrArg Except.ok (decide_eq_false hnone)⟩
  | some row =>
      have hrow := List.mem_of_find?_eq_some hfind
      have hkeeps : condition.keeps row = true := List.find?_some hfind
      obtain ⟨record, hrecord⟩ := Option.isSome_iff_exists.1 (hreadable row hrow hkeeps)
      have hsome := hpositive.2 ⟨row, hrow, hkeeps⟩
      refine ⟨some record, ?_, congrArg Except.ok (decide_eq_true hsome)⟩
      simp only [Option.toList_some, List.map_cons, List.map_nil, Resource.firstRecord?, hrecord,
        Option.map_some, outcome]

end Repository

namespace Service

open Repository

variable {supply : Supply} {s : Store} {r : Resource}

theorem runOn_run {α : Type} (a : Attempt QueryError α) :
    (runOn supply s (run a)).1 = (runOn supply s a).1.mapError .query := by
  rw [run, runOn_adapt]

/-- What compiles goes on to the repository. -/
theorem runOn_compiled {α β : Type} {c : Except Filter.FilterError α} {a : α} (hc : c = .ok a)
    (f : α → Attempt QueryError β) :
    (runOn supply s (do run (f (← compiled c)))).1 = (runOn supply s (f a)).1.mapError .query := by
  subst hc
  exact runOn_run (f a)

/-- What a search and a count say of the same rows. `page`, `pageOf`: a
page comes with the number of rows on all pages, and has the rows that the
limit and the offset leave of that number. `existing`, `existingOf`: a row
exists exactly if a search for one returns one. -/
structure TotalsAgree (supply : Supply) (s : Store) (r : Resource) : Prop where
  page : ∀ selection : Selection,
    Sortable selection.order (s.matching r.table selection.condition) →
      Readable r s selection.condition →
      ∃ rows records, (s.execute supply (.select r.table selection)).1 = .ok rows
        ∧ r.records? rows = some records
        ∧ (runOn supply s (Repository.findAndCount r selection)).1
          = .ok (records, s.total r.table selection.condition)
        ∧ records.length = selection.cut (s.total r.table selection.condition)
  pageOf : ∀ (o : FindOptions) (selection : Selection), o.compile r.table = .ok selection →
    Sortable selection.order (s.matching r.table selection.condition) →
      Readable r s selection.condition →
      let total := s.total r.table selection.condition
      ∃ records, (runOn supply s (findAndCount r o)).1 = .ok (records, total)
        ∧ records.length = min (o.limit.getD FindOptions.defaultLimit)
            (total - min (o.offset.getD FindOptions.defaultOffset) total)
  existing : ∀ condition : Condition, Readable r s (some condition) →
    ∃ record : Option Value, (runOn supply s (Repository.findOne r condition)).1 = .ok record
      ∧ (runOn supply s (Repository.checkExists r condition)).1 = .ok record.isSome
  existingOf : ∀ (g : Filter.Group) (condition : Condition), g.compile = .ok condition →
    Readable r s (some condition) →
      ∃ record : Option Value, (runOn supply s (findOne r g)).1 = .ok record
        ∧ (runOn supply s (checkExists r g)).1 = .ok record.isSome

theorem totalsAgree (supply : Supply) (hready : s.failure = none)
    (hfits : (s.rows r.table).length ≤ nat64Max) : TotalsAgree supply s r where
  page := fun selection hsort hreadable => by
    obtain ⟨records, hrecords, hpage, hlength⟩ := runOn_findAndCount hready hsort hfits hreadable
    refine ⟨_, records, ?_, hrecords, hpage, hlength⟩
    rw [execute_of_ready hready]
    exact Table.search_of_sortable r.table supply hsort
  pageOf := fun o selection hcompile hsort hreadable => by
    obtain ⟨records, -, hpage, hlength⟩ := runOn_findAndCount hready hsort hfits hreadable
    rw [FindOptions.cut_of_compile hcompile] at hlength
    refine ⟨records, ?_, hlength⟩
    rw [findAndCount, runOn_compiled hcompile (Repository.findAndCount r), hpage]
    rfl
  existing := fun condition => checkExists_eq_findOne hready condition hfits
  existingOf := fun g condition hcompile hreadable => by
    obtain ⟨record, hfound, hexists⟩ := checkExists_eq_findOne hready condition hfits hreadable
    refine ⟨record, ?_, ?_⟩
    · rw [findOne, runOn_compiled hcompile (Repository.findOne r), hfound]
      rfl
    · rw [checkExists, runOn_compiled hcompile (Repository.checkExists r), hexists]
      rfl

/-- In any state of a shared store: if its lock is poisoned every statement is
refused; if a failure is due the next one is, and leaves the rows and no
failure. Else the pages of a search are the whole search, which has as many
rows as are counted, and the totals that come with pages agree with it, as long
as its rows can be sorted and 64 bits can count them. A search whose rows
cannot be sorted stops, or returns as many of them in some arrangement. The
tests for existence, which do not sort, agree with what is found in any case. -/
theorem pages_are_whole_and_totals_agree (supply : Supply) (c : SharedStore) :
    (c.poisoned = true → ∀ statement,
      c.query supply statement = (.answered (.error .lockPoisoned), c))
    ∧ (c.poisoned = false → ∀ message, c.store.failure = some message → ∀ statement,
      (c.query supply statement).1 = .answered (.error (.refused message))
        ∧ (c.query supply statement).2.store.failure = none
        ∧ ∀ t, (c.query supply statement).2.store.rows t = c.store.rows t)
    ∧ (c.poisoned = false → c.store.failure = none →
      (∀ (t : Table) (condition : Option Condition) (order : List SortKey) (size : Nat),
        0 < size → Sortable order (c.store.matching t condition) →
          SharedStore.FoundInPages supply c t condition order size)
      ∧ (∀ (t : Table) (selection : Selection),
        ¬ Sortable selection.order (c.store.matching t selection.condition) →
          (c.query supply (.select t selection)).1 = .stopped
            ∨ ∃ rows, (c.query supply (.select t selection)).1 = .answered (.ok rows)
              ∧ rows.length = selection.cut (c.store.total t selection.condition))
      ∧ ∀ r : Resource, (c.store.rows r.table).length ≤ nat64Max →
        TotalsAgree supply c.store r) := by
  refine ⟨fun hpoisoned statement => SharedStore.query_of_poisoned hpoisoned,
    fun hwhole message hfailure statement => ?_, fun hwhole hready => ⟨?_, ?_, ?_⟩⟩
  · rw [SharedStore.query_of_failure hwhole hfailure]
    exact ⟨rfl, rfl, fun t => rfl⟩
  · exact fun t condition order size hsize hsort =>
      SharedStore.Searchable.foundInPages supply ⟨hwhole, hready, hsort⟩ hsize
  · exact fun t selection _ => SharedStore.query_select_cases hwhole hready supply t selection
  · exact fun r hfits => totalsAgree supply hready hfits

/-- A table of notes, whose records have an integer key. -/
def notes : Resource :=
  { table := ⟨none, "notes", "id", [⟨"id", "int8", true⟩, ⟨"text", "text", false⟩]⟩
    row := .record [⟨"id", .int64, .required⟩, ⟨"text", .text, .nullable⟩]
    insert := .any
    patch := .any }

/-- Notes of which one has no text, two have the same, and one has a key
that no record can have. -/
def heldNotes : Store :=
  Store.empty.setRows notes.table
    [(Row.empty.set "id" (.int 1)).set "text" (.string "b"), Row.empty.set "id" (.int 2),
      Row.empty.set "id" (.string "x"), (Row.empty.set "id" (.int 3)).set "text" (.string "b"),
      (Row.empty.set "id" (.int 4)).set "text" (.string "a")]

/-- Four notes are searched by pages of three, the texts from the last one
down, and the second page has the one that is left. -/
theorem pages_of_notes_are_whole :
    let supply := Supply.constant
    let c : SharedStore := ⟨heldNotes, false⟩
    let positive : Condition := .compare "id" .gt (.int 0)
    let order : List SortKey := [⟨"text", .descending⟩]
    heldNotes.failure = none ∧ (heldNotes.rows notes.table).length ≤ nat64Max
      ∧ Readable notes heldNotes (some positive)
      ∧ Sortable order (heldNotes.matching notes.table (some positive))
      ∧ (heldNotes.found notes.table (some positive) order).filterMap notes.table.integerKey?
        = [2, 1, 3, 4]
      ∧ SharedStore.FoundInPages supply c notes.table (some positive) order 3
      ∧ (∃ record, (runOn supply heldNotes
          (Repository.findAndCount notes ⟨some positive, order, some 3, some 3⟩)).1
            = .ok ([record], 4))
      ∧ (runOn supply heldNotes (Repository.checkExists notes positive)).1 = .ok true
      ∧ ∃ record, (runOn supply heldNotes (Repository.findOne notes positive)).1
        = .ok (some record) := by
  intro supply c positive order
  have hreadable : Readable notes heldNotes (some positive) := by
    unfold Readable
    decide +kernel
  have hfits : (heldNotes.rows notes.table).length ≤ nat64Max := by decide
  have htexts : ∀ row ∈ heldNotes.rows notes.table,
      row.cell "text" = .null ∨ ∃ text, row.cell "text" = .string text := by
    rw [heldNotes, Store.rows_setRows_self]
    simp only [List.forall_mem_cons]
    exact ⟨.inr ⟨"b", rfl⟩, .inl rfl, .inl rfl, .inr ⟨"b", rfl⟩, .inr ⟨"a", rfl⟩,
      List.forall_mem_nil _⟩
  have hsort : Sortable order (heldNotes.matching notes.table (some positive)) := by
    refine sortable_of_aligned (fun _ => Kind.string.Holds) (fun _ _ => aligned_kind .string) ?_
    intro row hrow
    exact List.forall_mem_singleton.2 (.inr (htexts row (List.mem_filter.1 hrow).1))
  have htotal : heldNotes.total notes.table (some positive) = 4 := by decide +kernel
  have hexists : (runOn supply heldNotes (Repository.checkExists notes positive)).1 = .ok true := by
    rw [runOn_checkExists rfl positive hfits, htotal]
    rfl
  obtain ⟨hpages, -, htotals⟩ := (pages_are_whole_and_totals_agree supply c).2.2 rfl rfl
  have hagree := htotals notes hfits
  have hwhole := hpages notes.table (some positive) order 3 (by decide) hsort
  refine ⟨rfl, hfits, hreadable, hsort, by decide +kernel, hwhole, ?_, hexists, ?_⟩
  · obtain ⟨rows, records, -, -, hpage, hlength⟩ :=
      hagree.page ⟨some positive, order, some 3, some 3⟩ hsort hreadable
    rw [htotal] at hpage hlength
    obtain ⟨record, rfl⟩ := List.length_eq_one_iff.1 hlength
    exact ⟨record, hpage⟩
  · obtain ⟨record, hfound, hsame⟩ := hagree.existing positive hreadable
    have hsome : record.isSome = true := Except.ok.inj (hsame.symm.trans hexists)
    obtain ⟨value, rfl⟩ := Option.isSome_iff_exists.1 hsome
    exact ⟨value, hfound⟩

/-- Twenty-one rows, numbered from one. All ranks but one are numbers, which
the one that is none stands level with. -/
def tangled : List Row :=
  (((List.map Value.int [2, 3, 5, 2, 6, 9, 7, 9, 4, 5, 5, 8, 9, 7, 1, 8, 4]) ++ [Value.bool true]
    ++ List.map Value.int [7, 3, 6]).zipIdx 1).map fun (rank, id) => ranked id rank

/-- The rows are counted, but no search can sort them by rank. -/
theorem tangled_rows_stop_search :
    let t : Table := ⟨none, "notes", "id", [⟨"id", "int8", true⟩, ⟨"rank", "jsonb", false⟩]⟩
    let c : SharedStore := ⟨Store.empty.setRows t tangled, false⟩
    let order : List SortKey := [⟨"rank", .ascending⟩]
    (c.query .constant (.count t none)).1 = .answered (.ok [Store.countRow 21])
      ∧ (c.query .constant (.select t (.whole none order))).1 = .stopped
      ∧ ¬ ∀ (supply : Supply) (c : SharedStore) (t : Table) (condition : Option Condition)
          (order : List SortKey) (size : Nat), c.poisoned = false → c.store.failure = none →
        0 < size → SharedStore.FoundInPages supply c t condition order size := by
  intro t c order
  have hrows : c.store.matching t none = tangled := by
    rw [Store.matching, Store.rows_setRows_self]
    exact List.filter_eq_self.2 fun _ _ => rfl
  have hunsortable : ¬ Sortable order tangled := by
    intro h
    rcases h with hfew | harranged
    · exact absurd hfew (by decide)
    · -- Five and three stand level with the truth value, and not with each other.
      have hthree : tangled[1]? = some (ranked 2 (.int 3)) := rfl
      have hfive : tangled[2]? = some (ranked 3 (.int 5)) := rfl
      have htruth : tangled[17]? = some (ranked 18 (.bool true)) := rfl
      have hle := harranged.trans (List.mem_of_getElem? hfive) (List.mem_of_getElem? htruth)
        (List.mem_of_getElem? hthree) (by decide +kernel) (by decide +kernel)
      exact absurd hle (by decide +kernel)
  have hstops : ∀ selection : Selection, selection.condition = none → selection.order = order →
      (c.query .constant (.select t selection)).1 = .stopped := by
    intro selection hcondition horder
    refine SharedStore.query_stopped_iff.2 ⟨rfl, .inr ⟨rfl, t, selection, rfl, ?_, rfl⟩⟩
    rw [hcondition, horder, hrows]
    exact hunsortable
  refine ⟨rfl, hstops _ rfl rfl, fun h => ?_⟩
  obtain ⟨pages, c', hpages⟩ := (h .constant c t none order 1 rfl rfl Nat.one_pos).ends
  have hfirst := hstops (.page none order 1 0) rfl rfl
  cases hpages with
  | last hpage =>
      rw [hpage] at hfirst
      cases hfirst
  | next hpage =>
      rw [hpage] at hfirst
      cases hfirst

end Service

end TableApi
