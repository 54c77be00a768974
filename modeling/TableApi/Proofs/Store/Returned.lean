/-
What writes return, beside what a search returns.

An insert and an update return the rows that they have stored, as they
are stored; a search returns what is stored projected to the columns of
the table. The two agree on a row that has the columns of the table and
no others (`project_eq_self`).

An insert projects what it is given, so its rows have them. An update
writes into a row that is there already, and how that row came to the
store is not its concern: one that was seeded, or stored through a table
of the same name with other columns, may lack a column or have one too
many. What an update leaves is complete exactly if the row had no other
columns and lacked none but those that are written (`CompletedBy`). Where
only complete rows are seeded and every statement knows the table as it
is, all rows are complete after any run, and every update returns what is
selected.
-/
import TableApi.Proofs.Store.Keys
import TableApi.Proofs.Store.Update

namespace TableApi

open Json

-- ============================================================== complete rows

namespace Table

variable {t : Table} {values row : Row}

/-- The row has no columns but those of the table, and those that it
lacks are given values. -/
structure CompletedBy (t : Table) (values row : Row) : Prop where
  known : ∀ name, (row.get? name).isSome = true → name ∈ t.columns.map (·.name)
  given : ∀ name ∈ t.columns.map (·.name), row.get? name = none →
    name ≠ t.primaryKey ∧ (values.get? name).isSome = true

theorem HasColumns.completedBy (h : t.HasColumns row) : t.CompletedBy values row where
  known := fun name hname => (h name).1 hname
  given := fun name hname hnone => by
    have hsome := (h name).2 hname
    rw [hnone] at hsome
    cases hsome

/-- An update completes a row exactly if it gives what is missing. -/
theorem hasColumns_overwrite_iff :
    t.HasColumns (t.overwrite values row) ↔ t.CompletedBy values row := by
  constructor
  · intro h
    refine ⟨fun name hname => ?_, fun name hname hnone => ?_⟩
    · by_contra hother
      have hget : (t.overwrite values row).get? name = row.get? name := by
        rw [get?_overwrite, if_neg fun hmem => hother hmem.1]
      exact hother ((h name).1 (hget ▸ hname))
    · have hsome := (h name).2 hname
      rw [get?_overwrite] at hsome
      split at hsome
      · next hwritten =>
        rw [hnone, Option.or_none] at hsome
        exact ⟨hwritten.2, hsome⟩
      · rw [hnone] at hsome
        cases hsome
  · intro h name
    rw [get?_overwrite]
    constructor
    · intro hsome
      split at hsome
      · next hwritten => exact hwritten.1
      · exact h.known name hsome
    · intro hname
      cases hget : row.get? name with
      | none =>
          obtain ⟨hkey, hvalue⟩ := h.given name hname hget
          rw [if_pos ⟨hname, hkey⟩, Option.or_none]
          exact hvalue
      | some v =>
          split
          · rw [Option.isSome_or, Option.isSome_some, Bool.or_true]
          · rfl

theorem hasColumns_newRows (ht : t.Proper) {supply : Supply} {n : Nat}
    {known inputs new : List Row} (h : t.newRows supply n known inputs = .ok new) :
    new.length = inputs.length ∧ ∀ row ∈ new, t.HasColumns row := by
  induction inputs generalizing n known new with
  | nil =>
      obtain rfl : [] = new := Except.ok.inj h
      exact ⟨rfl, List.forall_mem_nil _⟩
  | cons input inputs ih =>
      obtain ⟨row, rest, hrow, hrest, rfl⟩ := newRows_cons_eq_ok h
      obtain ⟨hlength, hall⟩ := ih hrest
      refine ⟨congrArg Nat.succ hlength, ?_⟩
      exact List.forall_mem_cons.2 ⟨hasColumns_newRow ht hrow, hall⟩

end Table

-- ================================================== what a write has written

/-- The rows in the places that are marked. -/
def marked : List Bool → List Row → List Row
  | true :: places, row :: rows => row :: marked places rows
  | false :: places, _ :: rows => marked places rows
  | _, _ => []

theorem marked_map (p : Row → Bool) (f : Row → Row) (rows : List Row) :
    marked (rows.map p) (rows.map f) = (rows.filter p).map f := by
  induction rows with
  | nil => rfl
  | cons row rows ih =>
      rw [List.map_cons, List.map_cons, List.filter_cons]
      cases p row with
      | false => exact ih
      | true => exact congrArg (f row :: ·) ih

/-- Rows in places that are not marked are left out. -/
theorem marked_behind (f : Row → Row) (places : List Bool) (rows : List Row) :
    ∀ before : List Row,
      marked (before.map (fun _ => false) ++ places) (before.map f ++ rows) = marked places rows
  | [] => rfl
  | _ :: before => marked_behind f places rows before

/-- Where all places are marked, all rows are in marked ones. -/
theorem marked_all :
    ∀ {inputs rows : List Row}, rows.length = inputs.length →
      marked (inputs.map fun _ => true) rows = rows
  | [], [], _ => rfl
  | _ :: _, row :: _, h => congrArg (row :: ·) (marked_all (Nat.succ.inj h))

namespace Store

variable {supply : Supply} {s : Store} {t : Table}

/-- Which of the rows that are stored behind a write it has written: an
insert the last ones, an update those that met its condition before. -/
def written (s : Store) : Statement → List Bool
  | .insert t inputs => (s.rows t).map (fun _ => false) ++ inputs.map fun _ => true
  | .update t condition _ => (s.rows t).map condition.keeps
  | _ => []

/-- If the statement succeeds, a search of the whole table directly behind
it returns the rows that it has written as it has returned them, with the
columns of the table and nothing else. -/
def ReturnsSelected (supply : Supply) (s : Store) (statement : Statement) : Prop :=
  ∀ returned, (s.execute supply statement).1 = .ok returned →
    ∃ selected, ((s.execute supply statement).2.execute supply
        (.select statement.table .all)).1 = .ok selected
      ∧ marked (s.written statement) selected = returned
      ∧ ∀ row ∈ returned, statement.table.HasColumns row

/-- A search without condition and order finds all rows as they are stored. -/
theorem search_all (t : Table) (supply : Supply) (rows : List Row) :
    t.search supply .all rows = .ok (rows.map t.project) := by
  have hall : rows.filter (keepsRow none) = rows := List.filter_eq_self.2 fun _ _ => rfl
  simp only [Table.search, Selection.select?, Selection.all, hall, sort?_nil, Option.map_some,
    Selection.window, Option.getD_none, List.drop_zero]

/-- A search of a whole table returns the projections of its rows. -/
theorem execute_select_all (hready : s.failure = none) (t : Table) :
    (s.execute supply (.select t .all)).1 = .ok ((s.rows t).map t.project) := by
  rw [Repository.execute_of_ready hready]
  simp only [perform, search_all, Repository.rows_received]

/-- A statement that succeeds met no failure. -/
theorem ready_of_execute {statement : Statement} {returned : List Row}
    (h : (s.execute supply statement).1 = .ok returned) : s.failure = none := by
  cases hfailure : s.failure with
  | none => rfl
  | some message =>
      rw [Repository.execute_of_failure hfailure] at h
      cases h

/-- An insert that succeeds has stored new rows behind those there were. -/
theorem execute_insert {inputs returned : List Row}
    (h : (s.execute supply (.insert t inputs)).1 = .ok returned) :
    t.newRows supply s.inserted (s.rows t) inputs = .ok returned
      ∧ (s.execute supply (.insert t inputs)).2.rows t = s.rows t ++ returned := by
  obtain ⟨-, hnew⟩ := execute_insert_eq_ok_iff.1 h
  rw [execute_insert_of_ok h, rows_appended_self, Repository.rows_received]
  exact ⟨hnew, rfl⟩

/-- An update that no failure stops is carried out. -/
theorem execute_update_of_ready (hready : s.failure = none) (condition : Condition)
    (values : Row) :
    s.execute supply (.update t condition values)
      = (.ok (((s.rows t).filter condition.keeps).map (t.overwrite values)),
          (Repository.received s (.update t condition values)).setRows t
            ((s.rows t).map fun row =>
              if condition.keeps row then t.overwrite values row else row)) := by
  rw [Repository.execute_of_ready hready]
  rfl

/-- An update that succeeds has written into the rows that met its
condition, and returns them. -/
theorem execute_update {condition : Condition} {values : Row} {returned : List Row}
    (h : (s.execute supply (.update t condition values)).1 = .ok returned) :
    returned = ((s.rows t).filter condition.keeps).map (t.overwrite values)
      ∧ (s.execute supply (.update t condition values)).2.rows t
        = (s.rows t).map fun row =>
            if condition.keeps row then t.overwrite values row else row := by
  have hready := ready_of_execute h
  rw [execute_update_of_ready hready] at h
  rw [execute_update_of_ready hready]
  exact ⟨(Except.ok.inj h).symm, rows_setRows_self _ _ _⟩

-- ================================================ returned and selected rows

theorem returnsSelected_insert (ht : t.Proper) (inputs : List Row) :
    ReturnsSelected supply s (.insert t inputs) := by
  intro returned h
  obtain ⟨hnew, hrows⟩ := execute_insert h
  obtain ⟨hlength, hcolumns⟩ := Table.hasColumns_newRows ht hnew
  have hproject : returned.map t.project = returned.map id :=
    List.map_congr_left fun row hrow => Table.project_eq_self ht (hcolumns row hrow)
  refine ⟨_, execute_select_all failure_execute _, ?_, hcolumns⟩
  simp only [Statement.table, written]
  rw [hrows, List.map_append, hproject, List.map_id, marked_behind, marked_all hlength]

/-- The rows that an update has written are selected as projections of the
rows that it returns. -/
theorem selected_update {condition : Condition} {values : Row} {returned : List Row}
    (h : (s.execute supply (.update t condition values)).1 = .ok returned) :
    marked (s.written (.update t condition values))
        (((s.execute supply (.update t condition values)).2.rows t).map t.project)
      = returned.map t.project := by
  obtain ⟨rfl, hrows⟩ := execute_update h
  rw [hrows, List.map_map, written, marked_map, List.map_map]
  refine List.map_congr_left fun row hrow => ?_
  have hkeeps : condition.keeps row = true := (List.mem_filter.1 hrow).2
  rw [Function.comp_apply, Function.comp_apply, if_pos hkeeps]

/-- An update that leaves the rows complete returns what is selected. -/
theorem returnsSelected_update (ht : t.Proper) {condition : Condition} {values : Row}
    (h : ∀ row ∈ s.rows t, condition.keeps row = true → t.CompletedBy values row) :
    ReturnsSelected supply s (.update t condition values) := by
  intro returned hreturned
  have hcolumns : ∀ row ∈ returned, t.HasColumns row := by
    rw [(execute_update hreturned).1]
    refine List.forall_mem_map.2 fun row hrow => ?_
    obtain ⟨hmem, hkeeps⟩ := List.mem_filter.1 hrow
    exact Table.hasColumns_overwrite_iff.2 (h row hmem hkeeps)
  refine ⟨_, execute_select_all failure_execute _, ?_, hcolumns⟩
  calc marked (s.written (.update t condition values))
        (((s.execute supply (.update t condition values)).2.rows t).map t.project)
      = returned.map t.project := selected_update hreturned
    _ = returned.map id :=
        List.map_congr_left fun row hrow => Table.project_eq_self ht (hcolumns row hrow)
    _ = returned := List.map_id returned

/-- An update returns what is selected exactly if it leaves the rows that
meet its condition complete. -/
theorem returnsSelected_update_iff (ht : t.Proper) (hready : s.failure = none)
    (condition : Condition) (values : Row) :
    ReturnsSelected supply s (.update t condition values)
      ↔ ∀ row ∈ s.rows t, condition.keeps row = true → t.CompletedBy values row := by
  refine ⟨fun h row hrow hkeeps => ?_, returnsSelected_update ht⟩
  have hok : (s.execute supply (.update t condition values)).1
      = .ok (((s.rows t).filter condition.keeps).map (t.overwrite values)) := by
    rw [execute_update_of_ready hready]
  obtain ⟨-, -, -, hcolumns⟩ := h _ hok
  exact Table.hasColumns_overwrite_iff.1
    (hcolumns _ (List.mem_map_of_mem (List.mem_filter.2 ⟨hrow, hkeeps⟩)))

-- ============================================================== over a run

/-- The call stores complete rows in the table: seeded rows are complete,
and statements know the table as it is. -/
def Call.Completes (t : Table) : Call → Prop
  | .seed u values => u.fullName = t.fullName →
      ∀ row ∈ values.filterMap Row.ofValue?, t.HasColumns row
  | .failNext _ => True
  | .query statement => statement.table.fullName = t.fullName → statement.table = t

/-- A statement on the table keeps its rows complete. -/
theorem hasColumns_perform (ht : t.Proper) {statement : Statement}
    (h : ∀ row ∈ s.rows t, t.HasColumns row) (htable : statement.table = t) :
    ∀ row ∈ (s.perform supply statement).2.rows t, t.HasColumns row := by
  subst htable
  cases statement with
  | select u selection => exact h
  | count u condition => exact h
  | insert u inputs =>
      simp only [perform, Statement.table] at h ⊢
      cases hnew : u.newRows supply s.inserted (s.rows u) inputs with
      | error e => exact h
      | ok new =>
          show ∀ row ∈ (s.appended u new).rows u, u.HasColumns row
          rw [rows_appended_self]
          intro row hrow
          rcases List.mem_append.1 hrow with hold | hrow
          · exact h row hold
          · exact (Table.hasColumns_newRows ht hnew).2 row hrow
  | update u condition values =>
      simp only [perform, Statement.table, rows_setRows_self] at h ⊢
      refine List.forall_mem_map.2 fun row hrow => ?_
      split
      · exact Table.hasColumns_overwrite_iff.2 (h row hrow).completedBy
      · exact h row hrow
  | delete u condition =>
      simp only [perform, Statement.table, rows_setRows_self] at h ⊢
      exact fun row hrow => h row (List.mem_filter.1 hrow).1

theorem hasColumns_call (ht : t.Proper) {call : Call} (h : ∀ row ∈ s.rows t, t.HasColumns row)
    (hcall : call.Completes t) : ∀ row ∈ (s.call supply call).rows t, t.HasColumns row := by
  cases call with
  | seed u values =>
      rw [Store.call, rows_seed]
      split
      · next hname =>
        rw [rows_congr hname.symm]
        intro row hrow
        rcases List.mem_append.1 hrow with hold | hrow
        · exact h row hold
        · exact hcall hname.symm row hrow
      · exact h
  | failNext message => exact h
  | query statement =>
      rw [Store.call]
      cases hfailure : s.failure with
      | some message => rw [Repository.execute_of_failure hfailure]; exact h
      | none =>
          rw [Repository.execute_of_ready hfailure]
          by_cases hname : statement.table.fullName = t.fullName
          · exact hasColumns_perform ht h (hcall hname)
          · rw [rows_perform_of_ne hname]
            exact h

theorem hasColumns_run (ht : t.Proper) {calls : List Call}
    (hcalls : ∀ call ∈ calls, call.Completes t) :
    ∀ row ∈ (Store.empty.run supply calls).rows t, t.HasColumns row := by
  induction calls using List.reverseRecOn with
  | nil => exact List.forall_mem_nil _
  | append_singleton calls last ih =>
      rw [run_concat]
      refine hasColumns_call ht (ih fun call hcall => ?_) (hcalls last (by simp))
      exact hcalls call (List.mem_append_left _ hcall)

/-- After any calls, an insert returns what a search then returns of the
rows that it has stored. An update does so exactly if it leaves complete
the rows that meet its condition, and always if no call has stored a row
that is not. -/
theorem writes_return_selected_iff_completed (supply : Supply) {t : Table} (ht : t.Proper)
    (calls : List Call) :
    let s := Store.empty.run supply calls
    (∀ inputs, ReturnsSelected supply s (.insert t inputs))
      ∧ (s.failure = none → ∀ condition values,
        (ReturnsSelected supply s (.update t condition values)
          ↔ ∀ row ∈ s.rows t, condition.keeps row = true → t.CompletedBy values row))
      ∧ ((∀ call ∈ calls, call.Completes t) → ∀ condition values,
        ReturnsSelected supply s (.update t condition values)) := by
  intro s
  refine ⟨returnsSelected_insert ht, fun hready => returnsSelected_update_iff ht hready, ?_⟩
  intro hcalls condition values
  exact returnsSelected_update ht fun row hrow _ => (hasColumns_run ht hcalls row hrow).completedBy

theorem members_proper : members.Proper := ⟨by decide, by decide⟩

/-- A complete row is seeded, one without a key is inserted, and a failure
comes in between; what an update of both returns is what is selected. -/
theorem writes_return_selected_of_complete_rows :
    let supply := Supply.constant
    let calls : List Call :=
      [.seed members [.object [("id", .int 7), ("name", .null)]], .failNext "down",
        .query (.delete members .always), .query (.insert members [.empty])]
    let s := Store.empty.run supply calls
    let change : Statement := .update members .always (Row.empty.set "name" (.string "new"))
    members.Proper ∧ (∀ call ∈ calls, call.Completes members)
      ∧ ReturnsSelected supply s change
      ∧ ((s.execute supply change).2.rows members).filterMap members.integerKey? = [7, 8] := by
  intro supply calls s change
  have hseed :
      (Call.seed members [.object [("id", .int 7), ("name", .null)]]).Completes members := by
    intro _ row hrow
    obtain rfl : row = members.project (Row.empty.set "id" (.int 7)) := List.mem_singleton.1 hrow
    exact Table.hasColumns_project members _
  have hcalls : ∀ call ∈ calls, call.Completes members := by
    simp only [calls, List.forall_mem_cons]
    exact ⟨hseed, trivial, fun _ => rfl, fun _ => rfl, List.forall_mem_nil _⟩
  obtain ⟨-, -, hupdate⟩ := writes_return_selected_iff_completed supply members_proper calls
  exact ⟨members_proper, hcalls, hupdate hcalls _ _, by decide +kernel⟩

/-- A row is seeded with a column that the table does not have: an update
returns it with the column, and no search does. -/
theorem update_returns_unknown_column :
    let supply := Supply.constant
    let s := Store.empty.run supply
      [.seed members [.object [("id", .int 1), ("nick", .string "ada")]]]
    let change : Statement :=
      .update members (.equals "id" (.int 1)) (Row.empty.set "name" (.string "Bob"))
    members.Proper ∧ (∃ row, (s.execute supply change).1 = .ok [row] ∧ row.has "nick" = true)
      ∧ ¬ ReturnsSelected supply s change := by
  intro supply s change
  let row : Row := (Row.empty.set "id" (.int 1)).set "nick" (.string "ada")
  have hrows : s.rows members = [row] := rfl
  have hkeeps : (Condition.equals "id" (.int 1)).keeps row = true := by decide +kernel
  let changed := members.overwrite (Row.empty.set "name" (.string "Bob")) row
  refine ⟨members_proper, ⟨changed, ?_, ?_⟩, ?_⟩
  · rw [Repository.execute_of_ready rfl]
    simp only [change, perform, Repository.rows_received, hrows, List.filter_cons_of_pos hkeeps,
      List.filter_nil, List.map_cons, List.map_nil]
    rfl
  · rfl
  · intro h
    have hcompleted := (returnsSelected_update_iff members_proper rfl _ _).1 h row
      (hrows ▸ List.mem_singleton_self row) hkeeps
    have hknown : "nick" ∈ members.columns.map (·.name) := hcompleted.known "nick" rfl
    exact absurd hknown (by decide)

end Store

end TableApi
