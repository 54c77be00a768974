/-
Calls on a store, and what a failed one leaves behind.

A statement touches three things before its outcome is known: the log,
the failure that was asked for, and, if it is an insert, the rows that it
builds one by one. So each is settled on its own. The log grows by the
kind of the statement whatever comes of it. The failure is taken out by
the next statement, so one is pending exactly if the last call other than
a seed asked for it (`Pending`). And an insert builds its rows beside the
store and not in it: one that fails at any of its rows (`FailsWith`)
leaves the store alone. So does a search whose sort gives up (`GivesUp`),
which has sorted rows of its own.
-/
import Mathlib.Data.List.Induction
import TableApi.Proofs.Repository.Run

namespace TableApi

open Json

-- ========================================================= failed inserts

namespace Table

variable {t : Table} {supply : Supply} {n : Nat} {known inputs : List Row} {e : StoreError}

/-- A row that cannot be built ends the insert. -/
theorem newRows_cons_of_error {input : Row} (h : t.newRow supply n known input = .error e) :
    t.newRows supply n known (input :: inputs) = .error e := by
  rw [newRows, h]

/-- A row that is built is known to those behind it. -/
theorem newRows_cons_of_ok {input row : Row} (h : t.newRow supply n known input = .ok row) :
    t.newRows supply n known (input :: inputs)
      = (t.newRows supply (n + 1) (known ++ [row]) inputs).map (row :: ·) := by
  rw [newRows, h]

/-- An insert that succeeds has built its first row, and the others beside
it. -/
theorem newRows_cons_eq_ok {input : Row} {new : List Row}
    (h : t.newRows supply n known (input :: inputs) = .ok new) :
    ∃ row rest, t.newRow supply n known input = .ok row
      ∧ t.newRows supply (n + 1) (known ++ [row]) inputs = .ok rest ∧ new = row :: rest := by
  cases hrow : t.newRow supply n known input with
  | error e => rw [newRows_cons_of_error hrow] at h; cases h
  | ok row =>
      rw [newRows_cons_of_ok hrow] at h
      cases hrest : t.newRows supply (n + 1) (known ++ [row]) inputs with
      | error e => rw [hrest] at h; cases h
      | ok rest =>
          rw [hrest] at h
          exact ⟨row, rest, rfl, hrest, (Except.ok.inj h).symm⟩

/-- The later rows of an insert are built beside the earlier ones, as if
these were stored already. -/
theorem newRows_append (inputs others : List Row) :
    t.newRows supply n known (inputs ++ others) =
      match t.newRows supply n known inputs with
      | .error e => .error e
      | .ok new => (t.newRows supply (n + new.length) (known ++ new) others).map (new ++ ·) := by
  induction inputs generalizing n known with
  | nil =>
      simp only [List.nil_append, newRows, List.length_nil, Nat.add_zero, List.append_nil]
      cases t.newRows supply n known others <;> rfl
  | cons input inputs ih =>
      rw [List.cons_append]
      cases hrow : t.newRow supply n known input with
      | error e => rw [newRows_cons_of_error hrow, newRows_cons_of_error hrow]
      | ok row =>
          rw [newRows_cons_of_ok hrow, newRows_cons_of_ok hrow, ih]
          cases t.newRows supply (n + 1) (known ++ [row]) inputs with
          | error e => rfl
          | ok new =>
              simp only [Except.map, List.length_cons, List.append_assoc,
                List.singleton_append]
              rw [Nat.add_right_comm, Nat.add_assoc]
              cases t.newRows supply (n + (new.length + 1)) (known ++ row :: new) others <;> rfl

/-- Inputs are built in two parts, the second beside the rows of the first.
-/
theorem newRows_append_eq_ok_iff {others new : List Row} :
    t.newRows supply n known (inputs ++ others) = .ok new
      ↔ ∃ x y, t.newRows supply n known inputs = .ok x
          ∧ t.newRows supply (n + x.length) (known ++ x) others = .ok y ∧ new = x ++ y := by
  rw [newRows_append]
  cases t.newRows supply n known inputs with
  | error e => simp
  | ok x =>
      simp only [Except.ok.injEq, exists_and_left, exists_eq_left']
      cases t.newRows supply (n + x.length) (known ++ x) others with
      | error e => simp [Except.map]
      | ok y => simp [Except.map, eq_comm]

/-- An insert fails at one of its rows: those before it would be stored,
and beside them and the known ones there is no place for this one. -/
def FailsWith (t : Table) (supply : Supply) (n : Nat) (known inputs : List Row)
    (e : StoreError) : Prop :=
  ∃ before input after new, inputs = before ++ input :: after
    ∧ t.newRows supply n known before = .ok new
    ∧ t.newRow supply (n + new.length) (known ++ new) input = .error e

/-- An insert stores none of its rows exactly if it fails at one of
them. -/
theorem newRows_eq_error_iff :
    t.newRows supply n known inputs = .error e ↔ t.FailsWith supply n known inputs e := by
  constructor
  · intro h
    induction inputs generalizing n known with
    | nil => cases h
    | cons input inputs ih =>
        cases hrow : t.newRow supply n known input with
        | error e' =>
            rw [newRows_cons_of_error hrow] at h
            obtain rfl := Except.error.inj h
            refine ⟨[], input, inputs, [], rfl, rfl, ?_⟩
            rw [List.append_nil]
            exact hrow
        | ok row =>
            rw [newRows_cons_of_ok hrow] at h
            cases hrest : t.newRows supply (n + 1) (known ++ [row]) inputs with
            | ok rest => rw [hrest] at h; cases h
            | error e' =>
                rw [hrest] at h
                obtain rfl := Except.error.inj h
                obtain ⟨before, other, after, new, rfl, hnew, herror⟩ := ih hrest
                refine ⟨input :: before, other, after, row :: new, rfl, ?_, ?_⟩
                · rw [newRows_cons_of_ok hrow, hnew]
                  rfl
                · rw [List.length_cons, ← Nat.add_assoc, Nat.add_right_comm]
                  rw [List.append_assoc, List.singleton_append] at herror
                  exact herror
  · rintro ⟨before, input, after, new, rfl, hnew, herror⟩
    rw [newRows_append, hnew]
    simp only
    rw [newRows_cons_of_error herror]
    rfl

/-- A row has no place because its key is taken, or because there is no
key left for it. -/
theorem error_of_newRow {input : Row} (h : t.newRow supply n known input = .error e) :
    e = .duplicateKey t.name t.primaryKey ∨ e = .keysExhausted t.name := by
  unfold newRow at h
  split at h
  · next e' hkey =>
    obtain rfl := Except.error.inj h
    unfold withKey nextKey at hkey
    split at hkey
    · split at hkey
      · simp only at hkey
        split at hkey
        · cases hkey
        · exact .inr (Except.error.inj hkey).symm
      · cases hkey
    · cases hkey
  · simp only at h
    split at h
    · exact .inl (Except.error.inj h).symm
    · cases h

/-- A search fails exactly if its sort gives up. -/
theorem search_eq_error_iff {selection : Selection} {stored : List Row} :
    t.search supply selection stored = .error e
      ↔ e = .unsorted t.name
        ∧ sort? supply selection.order (stored.filter (keepsRow selection.condition)) = none := by
  rw [search, Selection.select?]
  cases sort? supply selection.order (stored.filter (keepsRow selection.condition)) with
  | none => simp [eq_comm]
  | some sorted => simp

end Table

namespace Store

variable {supply : Supply} {s : Store} {statement : Statement}

-- ========================================================== one statement

/-- The rows that meet a condition, as they are stored. -/
def matching (s : Store) (t : Table) (condition : Option Condition) : List Row :=
  (s.rows t).filter (keepsRow condition)

/-- The statement is a search whose sort gives up. -/
def GivesUp (supply : Supply) (s : Store) (statement : Statement) : Prop :=
  s.failure = none ∧ ∃ t selection, statement = .select t selection
    ∧ ¬ Sortable selection.order (s.matching t selection.condition)
    ∧ supply.scramble selection.order (s.matching t selection.condition) = none

/-- An insert has nothing to sort. -/
theorem not_givesUp_insert {t : Table} {inputs : List Row} :
    ¬ s.GivesUp supply (.insert t inputs) := by
  intro h
  obtain ⟨-, u, selection, heq, -⟩ := h
  cases heq

/-- Performing a statement fails exactly if it is an insert that fails at
one of its rows, or a search whose sort gives up. -/
theorem perform_eq_error_iff {e : StoreError} :
    (s.perform supply statement).1 = .error e
      ↔ (∃ t inputs, statement = .insert t inputs
          ∧ t.FailsWith supply s.inserted (s.rows t) inputs e)
        ∨ ∃ t selection, statement = .select t selection
          ∧ t.search supply selection (s.rows t) = .error e := by
  simp only [← Table.newRows_eq_error_iff]
  constructor
  · intro h
    cases statement with
    | insert t inputs =>
        refine .inl ⟨t, inputs, rfl, ?_⟩
        simp only [perform] at h
        split at h
        · next e' herror => rw [herror, Except.error.inj h]
        · cases h
    | select t selection => exact .inr ⟨t, selection, rfl, h⟩
    | count t condition => cases h
    | update t condition values => cases h
    | delete t condition => cases h
  · intro h
    rcases h with ⟨t, inputs, rfl, herror⟩ | ⟨t, selection, rfl, herror⟩
    · simp only [perform, herror]
    · exact herror

/-- A statement that fails when it is performed leaves the store alone. -/
theorem perform_of_error {e : StoreError} (h : (s.perform supply statement).1 = .error e) :
    (s.perform supply statement).2 = s := by
  rcases perform_eq_error_iff.1 h with ⟨t, inputs, rfl, hfails⟩ | ⟨t, selection, rfl, -⟩
  · simp only [perform, Table.newRows_eq_error_iff.2 hfails]
  · rfl

@[simp] theorem failure_perform : (s.perform supply statement).2.failure = s.failure := by
  cases statement with
  | insert t inputs => simp only [perform]; split <;> rfl
  | select t selection => rfl
  | count t condition => rfl
  | update t condition values => rfl
  | delete t condition => rfl

@[simp] theorem received_perform : (s.perform supply statement).2.received = s.received := by
  cases statement with
  | insert t inputs => simp only [perform]; split <;> rfl
  | select t selection => rfl
  | count t condition => rfl
  | update t condition values => rfl
  | delete t condition => rfl

/-- No failure is pending behind a statement. -/
@[simp] theorem failure_execute : (s.execute supply statement).2.failure = none := by
  cases hfailure : s.failure with
  | none => rw [Repository.execute_of_ready hfailure, failure_perform]; exact hfailure
  | some message => rw [Repository.execute_of_failure hfailure]

/-- A statement is recorded, whatever comes of it. -/
@[simp] theorem received_execute :
    (s.execute supply statement).2.received = s.received ++ [statement.kind] := by
  cases hfailure : s.failure with
  | none => rw [Repository.execute_of_ready hfailure, received_perform]; rfl
  | some message => rw [Repository.execute_of_failure hfailure]; rfl

/-- A failed statement changes no row of any table. -/
theorem rows_execute_of_error {e : StoreError} (h : (s.execute supply statement).1 = .error e)
    (t : Table) : (s.execute supply statement).2.rows t = s.rows t := by
  cases hfailure : s.failure with
  | none =>
      rw [Repository.execute_of_ready hfailure] at h ⊢
      rw [perform_of_error h]
      rfl
  | some message => rw [Repository.execute_of_failure hfailure]; rfl

/-- A statement that does not write leaves the rows of a store. -/
theorem rows_execute_of_read (h : statement.kind.isWrite = false) (t : Table) :
    (s.execute supply statement).2.rows t = s.rows t := by
  cases hfailure : s.failure with
  | some message => rw [Repository.execute_of_failure hfailure]; rfl
  | none =>
      rw [Repository.execute_of_ready hfailure]
      cases statement with
      | select | count => rfl
      | insert | update | delete => cases h

/-- A statement is refused exactly if a failure was pending. -/
theorem execute_eq_refused_iff {message : String} :
    (s.execute supply statement).1 = .error (.refused message) ↔ s.failure = some message := by
  cases hfailure : s.failure with
  | none =>
      rw [Repository.execute_of_ready hfailure]
      constructor
      · intro h
        rcases perform_eq_error_iff.1 h with
          ⟨t, inputs, -, before, input, after, new, -, -, herror⟩ | ⟨t, selection, -, herror⟩
        · rcases Table.error_of_newRow herror with heq | heq
          · cases heq
          · cases heq
        · cases (Table.search_eq_error_iff.1 herror).1
      · intro h
        cases h
  | some pending =>
      rw [Repository.execute_of_failure hfailure]
      constructor
      · intro h
        cases h
        rfl
      · intro h
        cases h
        rfl

/-- A statement comes to the error of a sort that gives up exactly if its
sort does. -/
theorem execute_unsorted_iff :
    (∃ name, (s.execute supply statement).1 = .error (.unsorted name))
      ↔ s.GivesUp supply statement := by
  cases hfailure : s.failure with
  | some message =>
      rw [Repository.execute_of_failure hfailure, GivesUp, hfailure]
      simp
  | none =>
      rw [Repository.execute_of_ready hfailure]
      constructor
      · intro h
        obtain ⟨name, h⟩ := h
        rcases perform_eq_error_iff.1 h with
          ⟨t, inputs, -, before, input, after, new, -, -, herror⟩ | ⟨t, selection, rfl, herror⟩
        · rcases Table.error_of_newRow herror with heq | heq
          · cases heq
          · cases heq
        · have hsearch := (Table.search_eq_error_iff.1 herror).2
          exact ⟨hfailure, t, selection, rfl, sort?_eq_none_iff.1 hsearch⟩
      · intro h
        obtain ⟨-, t, selection, rfl, hsort⟩ := h
        exact ⟨t.name, Table.search_eq_error_iff.2 ⟨rfl, sort?_eq_none_iff.2 hsort⟩⟩

-- ============================================================ two tables

/-- Tables of one full name have the same rows. -/
theorem rows_congr {t u : Table} (h : t.fullName = u.fullName) (s : Store) :
    s.rows t = s.rows u := by
  rw [rows, rows, h]

/-- Seeding appends to the tables of one full name. -/
theorem rows_seed (s : Store) (t : Table) (values : List Value) (u : Table) :
    (s.seed t values).rows u
      = if u.fullName = t.fullName then s.rows t ++ values.filterMap Row.ofValue?
        else s.rows u :=
  rows_setRows s t _ u

-- ============================================================ one insert

/-- The store with rows appended to a table, as an insert leaves it. -/
def appended (s : Store) (t : Table) (new : List Row) : Store :=
  { s.setRows t (s.rows t ++ new) with inserted := s.inserted + new.length }

/-- Rows are appended to the tables of one full name. -/
theorem rows_appended (s : Store) (t : Table) (new : List Row) (u : Table) :
    (s.appended t new).rows u = if u.fullName = t.fullName then s.rows t ++ new else s.rows u :=
  rows_setRows s t (s.rows t ++ new) u

@[simp] theorem rows_appended_self (s : Store) (t : Table) (new : List Row) :
    (s.appended t new).rows t = s.rows t ++ new := by
  rw [rows_appended, if_pos rfl]

/-- An insert that is not refused stores its rows if all of them can be
built. -/
theorem execute_insert_of_ready (hready : s.failure = none) (t : Table) (inputs : List Row) :
    s.execute supply (.insert t inputs) =
      match t.newRows supply s.inserted (s.rows t) inputs with
      | .error e => (.error e, Repository.received s (.insert t inputs))
      | .ok new => (.ok new, (Repository.received s (.insert t inputs)).appended t new) := by
  rw [Repository.execute_of_ready hready]
  rfl

/-- An insert succeeds where no failure is pending and every row can be
built. -/
theorem execute_insert_eq_ok_iff {t : Table} {inputs new : List Row} :
    (s.execute supply (.insert t inputs)).1 = .ok new
      ↔ s.failure = none ∧ t.newRows supply s.inserted (s.rows t) inputs = .ok new := by
  cases hfailure : s.failure with
  | some message => simp [Repository.execute_of_failure hfailure]
  | none =>
      rw [execute_insert_of_ready hfailure]
      cases t.newRows supply s.inserted (s.rows t) inputs <;> simp

/-- An insert that succeeds stores its rows behind the others. -/
theorem execute_insert_of_ok {t : Table} {inputs new : List Row}
    (h : (s.execute supply (.insert t inputs)).1 = .ok new) :
    (s.execute supply (.insert t inputs)).2
      = (Repository.received s (.insert t inputs)).appended t new := by
  obtain ⟨hready, hnew⟩ := execute_insert_eq_ok_iff.1 h
  rw [execute_insert_of_ready hready, hnew]

-- ================================================================== calls

/-- What is asked of a store. -/
inductive Call where
  | seed (table : Table) (values : List Value)
  | failNext (message : String)
  | query (statement : Statement)

namespace Call

/-- The kind of the statement that a call sends. -/
def kind? : Call → Option StatementKind
  | query statement => some statement.kind
  | _ => none

/-- Whether a call sends a statement that inserts, updates or deletes. -/
def isWrite : Call → Bool
  | query (.insert _ _) | query (.update _ _ _) | query (.delete _ _) => true
  | _ => false

/-- A failure is pending behind calls: the last of them that is no seed
asks for it. -/
def Pending (message : String) (calls : List Call) : Prop :=
  ∃ earlier later, calls = earlier ++ .failNext message :: later
    ∧ ∀ call ∈ later, ∃ t values, call = .seed t values

/-- A failure is pending behind a call that asks for it, and a seed leaves
it so. -/
theorem pending_concat {message : String} {calls : List Call} {last : Call} :
    Pending message (calls ++ [last])
      ↔ last = .failNext message ∨ (∃ t values, last = .seed t values) ∧ Pending message calls := by
  constructor
  · rintro ⟨earlier, later, heq, hlater⟩
    rcases List.eq_nil_or_concat later with rfl | ⟨later, call, rfl⟩
    · obtain ⟨-, hlast⟩ := List.append_inj' heq rfl
      exact .inl (List.cons.inj hlast).1
    · rw [List.concat_eq_append, ← List.cons_append, ← List.append_assoc] at heq
      obtain ⟨rfl, hlast⟩ := List.append_inj' heq rfl
      obtain rfl := (List.cons.inj hlast).1
      rw [List.concat_eq_append] at hlater
      refine .inr ⟨hlater last (by simp), earlier, later, rfl, fun call hcall => ?_⟩
      exact hlater call (List.mem_append_left _ hcall)
  · rintro (rfl | ⟨hseed, earlier, later, rfl, hlater⟩)
    · exact ⟨calls, [], rfl, List.forall_mem_nil _⟩
    · refine ⟨earlier, later ++ [last], by simp, fun call hcall => ?_⟩
      rcases List.mem_append.1 hcall with hcall | hcall
      · exact hlater call hcall
      · rw [List.mem_singleton.1 hcall]
        exact hseed

/-- None is pending at the start. -/
theorem not_pending_nil {message : String} : ¬ Pending message [] := by
  rintro ⟨earlier, later, heq, -⟩
  cases earlier <;> cases heq

end Call

/-- The store behind a call. -/
def call (supply : Supply) (s : Store) : Call → Store
  | .seed t values => s.seed t values
  | .failNext message => s.failNext message
  | .query statement => (s.execute supply statement).2

/-- The store behind calls, one after another. -/
def run (supply : Supply) (s : Store) (calls : List Call) : Store :=
  calls.foldl (Store.call supply) s

/-- The last call comes behind all others. -/
theorem run_concat (calls : List Call) (last : Call) :
    s.run supply (calls ++ [last]) = (s.run supply calls).call supply last := by
  unfold run
  rw [List.foldl_append]
  rfl

/-- Some statement of a run, in the store that it comes to, is as `p` says. -/
def Meets (supply : Supply) (p : Store → Statement → Prop) (calls : List Call) : Prop :=
  ∃ earlier statement later, calls = earlier ++ .query statement :: later
    ∧ p (Store.empty.run supply earlier) statement

/-- Calls meet a statement of a kind if the earlier ones do, or the last is
one. -/
theorem meets_concat {p : Store → Statement → Prop} {calls : List Call} {last : Call} :
    Meets supply p (calls ++ [last]) ↔ Meets supply p calls
      ∨ ∃ statement, last = .query statement ∧ p (Store.empty.run supply calls) statement := by
  constructor
  · intro h
    obtain ⟨earlier, statement, later, heq, hmet⟩ := h
    rcases List.eq_nil_or_concat later with rfl | ⟨later, call, rfl⟩
    · obtain ⟨rfl, hlast⟩ := List.append_inj' heq rfl
      exact .inr ⟨statement, (List.cons.inj hlast).1, hmet⟩
    · rw [List.concat_eq_append, ← List.cons_append, ← List.append_assoc] at heq
      obtain ⟨rfl, -⟩ := List.append_inj' heq rfl
      exact .inl ⟨earlier, statement, later, rfl, hmet⟩
  · intro h
    rcases h with ⟨earlier, statement, later, rfl, hmet⟩ | ⟨statement, rfl, hmet⟩
    · exact ⟨earlier, statement, later ++ [last], by simp, hmet⟩
    · exact ⟨calls, statement, [], rfl, hmet⟩

/-- No calls meet nothing. -/
theorem not_meets_nil {p : Store → Statement → Prop} : ¬ Meets supply p [] := by
  intro h
  obtain ⟨earlier, statement, later, heq, -⟩ := h
  cases earlier <;> cases heq

/-- To meet a statement of one kind or another is to meet one of the first
or one of the second. -/
theorem meets_or {p q : Store → Statement → Prop} {calls : List Call} :
    Meets supply (fun s statement => p s statement ∨ q s statement) calls
      ↔ Meets supply p calls ∨ Meets supply q calls := by
  constructor
  · intro h
    obtain ⟨earlier, statement, later, heq, hmet⟩ := h
    exact hmet.imp (fun hp => ⟨earlier, statement, later, heq, hp⟩)
      fun hq => ⟨earlier, statement, later, heq, hq⟩
  · intro h
    rcases h with ⟨earlier, statement, later, heq, hp⟩ | ⟨earlier, statement, later, heq, hq⟩
    · exact ⟨earlier, statement, later, heq, .inl hp⟩
    · exact ⟨earlier, statement, later, heq, .inr hq⟩

/-- The sort of some search of a run gives up. -/
def GaveUp (supply : Supply) (calls : List Call) : Prop := Meets supply (GivesUp supply) calls

/-- The log of a new store holds the kinds of all statements sent. -/
theorem received_run (calls : List Call) :
    (Store.empty.run supply calls).received = calls.filterMap Call.kind? := by
  induction calls using List.reverseRecOn with
  | nil => rfl
  | append_singleton calls last ih =>
      rw [run_concat, List.filterMap_append, ← ih]
      cases last with
      | seed t values => simp [Store.call, seed, Call.kind?]
      | failNext message => simp [Store.call, failNext, Call.kind?]
      | query statement => simp [Store.call, Call.kind?]

/-- A store is told to fail with what is pending behind its calls. -/
theorem failure_run {message : String} (calls : List Call) :
    (Store.empty.run supply calls).failure = some message ↔ Call.Pending message calls := by
  induction calls using List.reverseRecOn with
  | nil =>
      constructor
      · intro h
        cases h
      · intro h
        exact absurd h Call.not_pending_nil
  | append_singleton calls last ih =>
      rw [run_concat, Call.pending_concat, ← ih]
      cases last with
      | seed t values => simp [Store.call, seed, setRows]
      | failNext other => simp [Store.call, failNext]
      | query statement => simp [Store.call]

/-- The writes among the statements that calls have sent. -/
theorem countP_isWrite_kind? (calls : List Call) :
    (calls.filterMap Call.kind?).countP StatementKind.isWrite = calls.countP Call.isWrite := by
  rw [List.countP_filterMap]
  refine List.countP_congr fun call _ => ?_
  rcases call with ⟨t, values⟩ | message | statement
  · rfl
  · rfl
  · cases statement <;> rfl

end Store

end TableApi
