/-
What an attempt does to a store.

An attempt is a session, so it is run statement by statement; here a run
is reduced to its result and the store it ends in. One equation for every
construct of an attempt is all that the operations need: a failure stops
it, a sequence goes on with the first result in the first store, and a
statement is the store's `perform`, unless a failure was asked for. From
these the operations by key are read off, with the condition on the key
left as it is.
-/
import TableApi.Proofs.Numeric.Decimal
import TableApi.Proofs.Store.RowOrder
import TableApi.Repository.Read
import TableApi.Repository.Write
import TableApi.Store.Execute

namespace TableApi

open Json

namespace Session

variable {α β σ : Type}

/-- A sequence runs its first part and then, in the state that it ends in,
the rest. -/
theorem run_bind (respond : σ → Statement → Answer × σ) (f : α → Session β) :
    ∀ (a : Session α) (s : σ),
      run respond s (a.bind f) =
        let first := run respond s a
        let rest := run respond first.2.2 (f first.1)
        (rest.1, first.2.1 ++ rest.2.1, rest.2.2)
  | done x, s => rfl
  | send statement next, s => by
      have ih := run_bind respond f (next (respond s statement).1) (respond s statement).2
      simp only [bind_send, run, ih]
      rfl

end Session

namespace Repository

variable {α β ε : Type} {supply : Supply} {s : Store}

/-- The result of an attempt on a store, and the store it leaves. -/
def runOn (supply : Supply) (s : Store) (a : Attempt ε α) : Except ε α × Store :=
  let run := Session.run (Store.execute supply) s (ExceptT.run a)
  (run.1, run.2.2)

/-- The store that has recorded a statement. -/
def received (s : Store) (statement : Statement) : Store :=
  { s with received := s.received ++ [statement.kind] }

/-- What an operation makes of what it could read, or could not. -/
def outcome (operation : Operation) : Option α → Except QueryError α
  | some a => .ok a
  | none => .error ⟨operation⟩

@[simp] theorem rows_received (s : Store) (statement : Statement) (t : Table) :
    (received s statement).rows t = s.rows t := rfl

@[simp] theorem failure_received (s : Store) (statement : Statement) :
    (received s statement).failure = s.failure := rfl

@[simp] theorem runOn_pure (a : α) :
    runOn supply s (pure a : Attempt ε α) = (.ok a, s) := rfl

@[simp] theorem runOn_fail (operation : Operation) :
    runOn supply s (fail operation : Attempt QueryError α) = (.error ⟨operation⟩, s) :=
  rfl

@[simp] theorem runOn_require (operation : Operation) (a : Option α) :
    runOn supply s (require operation a) = (outcome operation a, s) := by
  cases a <;> rfl

/-- An attempt goes on with the store that the first part leaves, unless
this fails. -/
theorem runOn_bind (a : Attempt ε α) (f : α → Attempt ε β) :
    runOn supply s (a >>= f) =
      match runOn supply s a with
      | (.ok x, s') => runOn supply s' (f x)
      | (.error e, s') => (.error e, s') := by
  have hrun := Session.run_bind (Store.execute supply) (ExceptT.bindCont f) a s
  have hbind : ExceptT.run (a >>= f) = Session.bind a (ExceptT.bindCont f) := rfl
  simp only [runOn, hbind, hrun]
  show _ = match ((Session.run (Store.execute supply) s a).1,
      (Session.run (Store.execute supply) s a).2.2) with
    | (.ok x, s') => runOn supply s' (f x)
    | (.error e, s') => (.error e, s')
  cases (Session.run (Store.execute supply) s a).1 <;> rfl

/-- Behind an attempt that succeeds the next one runs in the store that it
leaves. -/
theorem runOn_bind_of_ok {a : Attempt ε α} {x : α} (h : (runOn supply s a).1 = .ok x)
    (f : α → Attempt ε β) : runOn supply s (a >>= f) = runOn supply (runOn supply s a).2 (f x) := by
  rw [runOn_bind]
  generalize runOn supply s a = run at h ⊢
  obtain ⟨_, s'⟩ := run
  obtain rfl := h
  rfl

/-- Where no failure is pending a statement is recorded and runs. -/
theorem execute_of_ready {statement : Statement} (h : s.failure = none) :
    s.execute supply statement = (received s statement).perform supply statement := by
  unfold Store.execute
  simp only [received, h]

/-- A pending failure is answered, and is spent. -/
theorem execute_of_failure {statement : Statement} {message : String}
    (h : s.failure = some message) :
    s.execute supply statement
      = (.error (.refused message), { received s statement with failure := none }) := by
  unfold Store.execute
  simp only [received, h]

/-- A statement that no failure stops is performed. -/
theorem runOn_ask (hready : s.failure = none) (operation : Operation)
    (statement : Statement) (read : List Row → Option α) :
    runOn supply s (ask operation statement read) =
      match (received s statement).perform supply statement with
      | (.ok rows, s') => (outcome operation (read rows), s')
      | (.error _, s') => (.error ⟨operation⟩, s') := by
  unfold runOn ask
  simp only [ExceptT.run, Session.run, execute_of_ready hready]
  obtain ⟨answer, s'⟩ := (received s statement).perform supply statement
  cases answer with
  | error e => rfl
  | ok rows =>
      simp only
      cases read rows <;> rfl

/-- A failure that was asked for fails the statement. -/
theorem runOn_ask_of_failure {message : String} (hfailure : s.failure = some message)
    (operation : Operation) (statement : Statement) (read : List Row → Option α) :
    (runOn supply s (ask operation statement read)).1 = .error ⟨operation⟩ := by
  unfold runOn ask
  simp only [ExceptT.run, Session.run, execute_of_failure hfailure]
  rfl

-- ========================================================== operations

/-- A condition that is given keeps what it keeps. -/
theorem keepsRow_some (c : Condition) : keepsRow (some c) = c.keeps := rfl

/-- A search for one row finds the first that meets the condition. -/
theorem search_first (t : Table) (supply : Supply) (c : Condition) (rows : List Row) :
    t.search supply (.first c) rows = .ok ((rows.find? c.keeps).toList.map t.project) := by
  simp only [Table.search, Selection.select?, Selection.first, sort?_nil, keepsRow_some,
    Option.map_some, Selection.window, Option.getD_none, List.drop_zero]
  rw [← List.head?_filter]
  cases rows.filter c.keeps <;> rfl

variable {r : Resource}

/-- What a search by key makes of the row that it found, or did not
find. -/
def found (r : Resource) : Option Row → Except QueryError (Option Value)
  | some row => (outcome .findById (r.record? (r.table.project row))).map some
  | none => .ok none

/-- A search by key finds the first row that the key keeps. -/
theorem runOn_findById (hready : s.failure = none) (key : Key) :
    (runOn supply s (findById r key)).1
      = found r ((s.rows r.table).find? (r.hasKey key).keeps) := by
  rw [findById, runOn_ask hready]
  simp only [Store.perform, rows_received, search_first]
  cases (s.rows r.table).find? (r.hasKey key).keeps with
  | none => rfl
  | some row =>
      simp only [Option.toList_some, List.map_cons, List.map_nil, Resource.firstRecord?,
        found]
      cases r.record? (r.table.project row) <;> rfl

/-- A deletion by key leaves the rows with other keys. -/
theorem runOn_delete (hready : s.failure = none) (key : Key) :
    (runOn supply s (delete r key)).2.rows r.table
      = (s.rows r.table).filter fun row => !(r.hasKey key).keeps row := by
  rw [delete, runOn_ask hready]
  simp [Store.perform]

/-- An update by key changes the rows with the key, if its patch is an
object. -/
theorem runOn_update (hready : s.failure = none) (key : Key) (patch : Value) :
    (runOn supply s (update r key patch)).2.rows r.table
      = match Row.ofValue? patch with
        | some values => (s.rows r.table).map fun row =>
            if (r.hasKey key).keeps row then r.table.overwrite values row else row
        | none => s.rows r.table := by
  rw [update, runOn_bind, runOn_require]
  cases Row.ofValue? patch with
  | none => rfl
  | some values =>
      simp only [outcome]
      rw [runOn_ask hready]
      simp [Store.perform, updateStatement]

/-- The repository reads the count that the store reports. -/
theorem countOf?_countRow {n : Nat} (h : n ≤ nat64Max) : countOf? [Store.countRow n] = some n := by
  simp only [countOf?, Store.countRow, List.head?_cons, Option.bind_some, Row.get?_set,
    if_true, Value.nat]
  exact Json.Number.toNat64?_eq_some_iff.2 ⟨rfl, h⟩

/-- There is a row with a key if the store has one. -/
theorem runOn_checkExistsById (hready : s.failure = none) (key : Key)
    (hcount : (s.rows r.table).countP (r.hasKey key).keeps ≤ nat64Max) :
    (runOn supply s (checkExistsById r key)).1
      = .ok ((s.rows r.table).any (r.hasKey key).keeps) := by
  rw [checkExistsById, checkExists, runOn_bind, count, runOn_ask hready]
  simp only [Store.perform, rows_received, keepsRow_some, countOf?_countRow hcount, outcome,
    runOn_pure]
  congr 1
  rw [Bool.eq_iff_iff, List.any_eq_true, decide_eq_true_eq, List.countP_pos_iff]

/-- A deletion by keys leaves the rows with none of them. -/
theorem runOn_deleteMany (hready : s.failure = none) (keys : List Key) :
    (runOn supply s (deleteMany r keys)).2.rows r.table
      = (s.rows r.table).filter fun row =>
          !(Condition.inList r.table.primaryKey (keys.map Key.toValue) false).keeps row := by
  cases keys with
  | nil =>
      have hnone : ∀ row, (Condition.inList r.table.primaryKey [] false).keeps row = false := by
        intro row
        rfl
      simp only [List.map_nil, hnone, Bool.not_false]
      rw [List.filter_eq_self.2 fun _ _ => rfl]
      rfl
  | cons key keys =>
      rw [deleteMany, if_neg (by simp)]
      simp only
      rw [runOn_ask hready]
      simp [Store.perform]

end Repository

end TableApi
