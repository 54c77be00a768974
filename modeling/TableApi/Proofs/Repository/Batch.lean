/-
Rows stored all at once, and the same rows one after another.

A batch builds its rows beside those stored and those that it has built
itself, and numbers them on from the rows inserted so far. A second insert
finds just these rows stored and just this number. So a batch may be cut
anywhere: both parts succeed if it does, and store the same rows with the
same keys and times (`newRows_append`). Only where it fails is there a
difference, for then the first part has been stored.

Records follow their rows. A creation of many and as many creations ask
the same of their payloads: they are objects, their rows can be stored,
and what is stored reads as records (`Creatable`). The creation of many
asks each of these of all payloads before it comes to the next, the others
ask all of them of one payload at a time; the induction over the payloads
carries the store along, with the rows that have been appended to it.
-/
import TableApi.Proofs.Store.Call

namespace TableApi

open Json

-- ================================================================ inserts

namespace Store

variable {supply : Supply} {s : Store} {t : Table}

/-- To append nothing changes nothing. -/
@[simp] theorem rows_appended_nil (s : Store) (t u : Table) :
    (s.appended t []).rows u = s.rows u := by
  rw [rows_appended, List.append_nil]
  split
  · next hname => rw [Store.rows, Store.rows, hname]
  · rfl

/-- To append twice is to append all at once. -/
theorem rows_appended_append (s : Store) (t : Table) (new more : List Row) (u : Table) :
    ((s.appended t new).appended t more).rows u = (s.appended t (new ++ more)).rows u := by
  simp only [rows_appended, if_true, List.append_assoc]
  split <;> rfl

/-- Two lists of rows are inserted at once as the one is inserted and then
the other: that succeeds if both inserts do, and then it returns the rows
of both and leaves the same rows in every table. -/
structure InsertsInTurn (supply : Supply) (s : Store) (t : Table) (a b : List Row) : Prop where
  answer : ∀ rows, (s.execute supply (.insert t (a ++ b))).1 = .ok rows
    ↔ ∃ x y, (s.execute supply (.insert t a)).1 = .ok x
        ∧ ((s.execute supply (.insert t a)).2.execute supply (.insert t b)).1 = .ok y
        ∧ rows = x ++ y
  stored : ∀ rows, (s.execute supply (.insert t (a ++ b))).1 = .ok rows →
    ∀ u, (s.execute supply (.insert t (a ++ b))).2.rows u
      = ((s.execute supply (.insert t a)).2.execute supply (.insert t b)).2.rows u

/-- Behind an insert another one succeeds as it would beside the rows that
were appended. -/
theorem execute_insert_behind {a b x y : List Row}
    (h : (s.execute supply (.insert t a)).1 = .ok x) :
    ((s.execute supply (.insert t a)).2.execute supply (.insert t b)).1 = .ok y
      ↔ t.newRows supply (s.inserted + x.length) (s.rows t ++ x) b = .ok y := by
  obtain ⟨hready, -⟩ := execute_insert_eq_ok_iff.1 h
  rw [execute_insert_of_ok h, execute_insert_eq_ok_iff, rows_appended_self]
  exact and_iff_right hready

/-- Every two lists of rows are inserted at once as they are one after the
other. -/
theorem insertsInTurn (supply : Supply) (s : Store) (t : Table) (a b : List Row) :
    InsertsInTurn supply s t a b := by
  have hanswer : ∀ rows, (s.execute supply (.insert t (a ++ b))).1 = .ok rows
      ↔ ∃ x y, (s.execute supply (.insert t a)).1 = .ok x
          ∧ ((s.execute supply (.insert t a)).2.execute supply (.insert t b)).1 = .ok y
          ∧ rows = x ++ y := by
    intro rows
    rw [execute_insert_eq_ok_iff, Table.newRows_append_eq_ok_iff]
    constructor
    · intro ⟨hready, x, y, hx, hy, hrows⟩
      have hfirst := execute_insert_eq_ok_iff.2 ⟨hready, hx⟩
      exact ⟨x, y, hfirst, (execute_insert_behind hfirst).2 hy, hrows⟩
    · intro ⟨x, y, hfirst, hsecond, hrows⟩
      obtain ⟨hready, hx⟩ := execute_insert_eq_ok_iff.1 hfirst
      exact ⟨hready, x, y, hx, (execute_insert_behind hfirst).1 hsecond, hrows⟩
  refine ⟨hanswer, fun rows h u => ?_⟩
  obtain ⟨x, y, hfirst, hsecond, rfl⟩ := (hanswer rows).1 h
  rw [execute_insert_of_ok h, execute_insert_of_ok hsecond, execute_insert_of_ok hfirst]
  exact (rows_appended_append s t x y u).symm

end Store

-- =============================================================== creations

namespace Session

/-- Sessions are a lawful monad, so a list of them runs from its head. -/
instance : LawfulMonad Session := LawfulMonad.mk' Session bind_to_done (fun _ _ => rfl)
  fun a f g => bind_assoc f g a

end Session

namespace Repository

variable {α β ε : Type} {supply : Supply} {s : Store} {r : Resource}

/-- Attempts one after another succeed if the first does and, in the store
that it leaves, the others. -/
theorem runOn_mapM_cons_eq_ok_iff {f : α → Attempt ε β} {a : α} {as : List α} {results : List β} :
    (runOn supply s ((a :: as).mapM f)).1 = .ok results
      ↔ ∃ b bs, (runOn supply s (f a)).1 = .ok b
          ∧ (runOn supply (runOn supply s (f a)).2 (as.mapM f)).1 = .ok bs
          ∧ results = b :: bs := by
  rw [List.mapM_cons, runOn_bind]
  rcases runOn supply s (f a) with ⟨e | b, s'⟩
  · simp
  · simp only [runOn_bind]
    rcases runOn supply s' (as.mapM f) with ⟨e | bs, s''⟩
    · simp
    · simp [eq_comm]

/-- An attempt on each of a list leaves the store that the last one leaves.
-/
theorem store_runOn_mapM_cons {f : α → Attempt ε β} {a : α} {as : List α} {b : β} {bs : List β}
    (hb : (runOn supply s (f a)).1 = .ok b)
    (hbs : (runOn supply (runOn supply s (f a)).2 (as.mapM f)).1 = .ok bs) :
    (runOn supply s ((a :: as).mapM f)).2
      = (runOn supply (runOn supply s (f a)).2 (as.mapM f)).2 := by
  rw [List.mapM_cons, runOn_bind_of_ok hb, runOn_bind_of_ok hbs, runOn_pure]

/-- What is required has to be there for the rest to succeed. -/
theorem runOn_require_bind_eq_ok_iff {operation : Operation} {a : Option α}
    {f : α → Attempt QueryError β} {result : β} :
    (runOn supply s (require operation a >>= f)).1 = .ok result
      ↔ ∃ x, a = some x ∧ (runOn supply s (f x)).1 = .ok result := by
  rw [runOn_bind, runOn_require]
  cases a <;> simp [outcome]

/-- A statement that is answered met no failure. -/
theorem ready_of_ask {operation : Operation} {statement : Statement} {read : List Row → Option α}
    {result : α} (h : (runOn supply s (ask operation statement read)).1 = .ok result) :
    s.failure = none := by
  cases hfailure : s.failure with
  | none => rfl
  | some message => rw [runOn_ask_of_failure hfailure] at h; cases h

/-- An insert that is asked for is answered by the rows that can be built,
and stores them. -/
theorem runOn_ask_insert (hready : s.failure = none) (operation : Operation) (t : Table)
    (inputs : List Row) (read : List Row → Option α) :
    runOn supply s (ask operation (.insert t inputs) read) =
      match t.newRows supply s.inserted (s.rows t) inputs with
      | .error _ => (.error ⟨operation⟩, received s (.insert t inputs))
      | .ok new =>
          (outcome operation (read new), (received s (.insert t inputs)).appended t new) := by
  rw [runOn_ask hready, ← execute_of_ready hready, Store.execute_insert_of_ready hready]
  cases t.newRows supply s.inserted (s.rows t) inputs <;> rfl

/-- An insert that is asked for succeeds if its rows can be built and what
it returns can be read from them. -/
theorem runOn_ask_insert_eq_ok_iff (hready : s.failure = none) {operation : Operation} {t : Table}
    {inputs : List Row} {read : List Row → Option α} {result : α} :
    (runOn supply s (ask operation (.insert t inputs) read)).1 = .ok result
      ↔ ∃ new, t.newRows supply s.inserted (s.rows t) inputs = .ok new
          ∧ read new = some result := by
  rw [runOn_ask_insert hready]
  cases t.newRows supply s.inserted (s.rows t) inputs with
  | error e => simp
  | ok new => cases hread : read new <;> simp [outcome, hread]

-- ------------------------------------------------------------ one creation

/-- A creation that succeeds has met no pending failure. -/
theorem ready_of_create {payload record : Value}
    (h : (runOn supply s (create r payload)).1 = .ok record) : s.failure = none := by
  obtain ⟨input, -, hask⟩ := runOn_require_bind_eq_ok_iff.1 h
  exact ready_of_ask hask

/-- A creation succeeds if its payload is an object, there is a place for
its row, and the row reads as a record. -/
theorem runOn_create_eq_ok_iff (hready : s.failure = none) {payload record : Value} :
    (runOn supply s (create r payload)).1 = .ok record
      ↔ ∃ input row, Row.ofValue? payload = some input
          ∧ r.table.newRow supply s.inserted (s.rows r.table) input = .ok row
          ∧ r.record? row = some record := by
  rw [create, runOn_require_bind_eq_ok_iff]
  refine exists_congr fun input => ?_
  rw [exists_and_left, runOn_ask_insert_eq_ok_iff hready]
  refine and_congr_right fun _ => ?_
  cases hrow : r.table.newRow supply s.inserted (s.rows r.table) input with
  | error e => simp [Table.newRows_cons_of_error hrow]
  | ok row =>
      rw [Table.newRows_cons_of_ok hrow]
      cases hrecord : r.record? row <;>
        simp [Table.newRows, Except.map, Resource.firstRecord?, hrecord]

/-- A creation leaves the row that it has built behind the others. -/
theorem store_create (hready : s.failure = none) {payload : Value} {input row : Row}
    (hinput : Row.ofValue? payload = some input)
    (hrow : r.table.newRow supply s.inserted (s.rows r.table) input = .ok row) :
    (runOn supply s (create r payload)).2
      = (received s (.insert r.table [input])).appended r.table [row] := by
  rw [create, runOn_bind, runOn_require, hinput]
  simp only [outcome]
  rw [runOn_ask_insert hready, Table.newRows_cons_of_ok hrow]
  rfl

-- ---------------------------------------------------------- many creations

/-- Payloads that are objects, for whose rows there is a place one behind
another, and the rows read as records. -/
inductive Creatable (supply : Supply) (r : Resource) :
    Nat → List Row → List Value → List Row → List Value → Prop where
  | nil {n known} : Creatable supply r n known [] [] []
  | cons {n known payload payloads input row new record records} :
      Row.ofValue? payload = some input →
      r.table.newRow supply n known input = .ok row →
      r.record? row = some record →
      Creatable supply r (n + 1) (known ++ [row]) payloads new records →
      Creatable supply r n known (payload :: payloads) (row :: new) (record :: records)

variable {n : Nat} {known new : List Row} {payloads records : List Value}

/-- A list is read if its first member is and the others are. -/
theorem mapM_cons_eq_some_iff {f : α → Option β} {a : α} {as : List α} {bs : List β} :
    (a :: as).mapM f = some bs
      ↔ ∃ b rest, f a = some b ∧ as.mapM f = some rest ∧ bs = b :: rest := by
  rw [List.mapM_cons]
  cases f a with
  | none => simp
  | some b => cases as.mapM f <;> simp [eq_comm]

/-- All payloads may be read before the first row is built, and all rows
built before the first record is read. -/
theorem creatable_iff :
    Creatable supply r n known payloads new records
      ↔ ∃ inputs, payloads? payloads = some inputs
          ∧ r.table.newRows supply n known inputs = .ok new
          ∧ r.records? new = some records := by
  constructor
  · intro h
    induction h with
    | nil => exact ⟨[], rfl, rfl, rfl⟩
    | cons hinput hrow hrecord _ ih =>
        obtain ⟨inputs, hinputs, hnew, hrecords⟩ := ih
        refine ⟨_ :: inputs, mapM_cons_eq_some_iff.2 ⟨_, _, hinput, hinputs, rfl⟩, ?_,
          mapM_cons_eq_some_iff.2 ⟨_, _, hrecord, hrecords, rfl⟩⟩
        rw [Table.newRows_cons_of_ok hrow, hnew]
        rfl
  · intro ⟨inputs, hinputs, hnew, hrecords⟩
    induction payloads generalizing n known inputs new records with
    | nil =>
        obtain rfl := Option.some.inj hinputs
        obtain rfl := Except.ok.inj hnew
        obtain rfl := Option.some.inj hrecords
        exact .nil
    | cons payload payloads ih =>
        obtain ⟨input, rest, hinput, hrest, rfl⟩ := mapM_cons_eq_some_iff.1 hinputs
        obtain ⟨row, later, hrow, hlater, rfl⟩ := Table.newRows_cons_eq_ok hnew
        obtain ⟨record, others, hrecord, hothers, rfl⟩ := mapM_cons_eq_some_iff.1 hrecords
        exact .cons hinput hrow hrecord (ih rest hrest hlater hothers)

/-- An attempt on a store returned records and appended rows. -/
structure Appends (s : Store) (t : Table) (new : List Row) (records : List Value)
    (run : Except QueryError (List Value) × Store) : Prop where
  records : run.1 = .ok records
  rows : ∀ u, run.2.rows u = (s.appended t new).rows u

/-- Nothing is appended by doing nothing. -/
theorem appends_nil (s : Store) (t : Table) : Appends s t [] [] (.ok [], s) :=
  ⟨rfl, fun u => (Store.rows_appended_nil s t u).symm⟩

/-- The creation of many returns the records of creatable payloads, and
appends their rows. -/
theorem createMany_appends (hready : s.failure = none)
    (h : Creatable supply r s.inserted (s.rows r.table) payloads new records) :
    Appends s r.table new records (runOn supply s (createMany r payloads)) := by
  obtain ⟨inputs, hinputs, hnew, hrecords⟩ := creatable_iff.1 h
  cases payloads with
  | nil =>
      cases h
      exact appends_nil s r.table
  | cons payload payloads =>
      rw [createMany, if_neg (by simp), runOn_bind, runOn_require, hinputs]
      simp only [outcome]
      refine ⟨(runOn_ask_insert_eq_ok_iff hready).2 ⟨new, hnew, hrecords⟩, fun u => ?_⟩
      rw [runOn_ask_insert hready, hnew]
      simp only [Store.rows_appended, rows_received]

/-- Creations one after another append the rows that can be built. -/
theorem createEach_appends (hready : s.failure = none)
    (h : Creatable supply r s.inserted (s.rows r.table) payloads new records) :
    Appends s r.table new records (runOn supply s (payloads.mapM (create r))) := by
  induction payloads generalizing s new records with
  | nil =>
      cases h
      exact appends_nil s r.table
  | cons payload payloads ih =>
      cases h with
      | cons hinput hrow hrecord hothers =>
          next input row new record records =>
          have hfirst := (runOn_create_eq_ok_iff hready).2 ⟨input, row, hinput, hrow, hrecord⟩
          have hstore := store_create hready hinput hrow
          -- what the other payloads find behind the first creation
          have hrest : Appends ((received s (.insert r.table [input])).appended r.table [row])
              r.table new records (runOn supply (runOn supply s (create r payload)).2
                (payloads.mapM (create r))) := by
            rw [hstore]
            refine ih hready ?_
            rw [Store.rows_appended_self]
            exact hothers
          refine ⟨runOn_mapM_cons_eq_ok_iff.2 ⟨record, records, hfirst, hrest.records, rfl⟩,
            fun u => ?_⟩
          rw [store_runOn_mapM_cons hfirst hrest.records, hrest.rows,
            Store.rows_appended_append]
          simp only [Store.rows_appended, rows_received, List.singleton_append]

/-- What is created at once could be built row by row. -/
theorem creatable_of_createMany (hready : s.failure = none)
    (h : (runOn supply s (createMany r payloads)).1 = .ok records) :
    ∃ new, Creatable supply r s.inserted (s.rows r.table) payloads new records := by
  cases payloads with
  | nil =>
      obtain rfl := Except.ok.inj h
      exact ⟨[], .nil⟩
  | cons payload payloads =>
      rw [createMany, if_neg (by simp)] at h
      obtain ⟨inputs, hinputs, hask⟩ := runOn_require_bind_eq_ok_iff.1 h
      obtain ⟨new, hnew, hrecords⟩ := (runOn_ask_insert_eq_ok_iff hready).1 hask
      exact ⟨new, creatable_iff.2 ⟨inputs, hinputs, hnew, hrecords⟩⟩

/-- What is created one after another could be built row by row. -/
theorem creatable_of_createEach (hready : s.failure = none)
    (h : (runOn supply s (payloads.mapM (create r))).1 = .ok records) :
    ∃ new, Creatable supply r s.inserted (s.rows r.table) payloads new records := by
  induction payloads generalizing s records with
  | nil =>
      obtain rfl := Except.ok.inj h
      exact ⟨[], .nil⟩
  | cons payload payloads ih =>
      obtain ⟨record, others, hfirst, hothers, rfl⟩ := runOn_mapM_cons_eq_ok_iff.1 h
      obtain ⟨input, row, hinput, hrow, hrecord⟩ := (runOn_create_eq_ok_iff hready).1 hfirst
      rw [store_create hready hinput hrow] at hothers
      have hready' : ((received s (.insert r.table [input])).appended r.table [row]).failure
          = none := hready
      obtain ⟨new, hnew⟩ := ih hready' hothers
      rw [Store.rows_appended_self] at hnew
      exact ⟨row :: new, .cons hinput hrow hrecord hnew⟩

/-- Records are created at once as they are created one after another: the
same are returned, and the same rows are left in every table. -/
structure CreatesInTurn (supply : Supply) (s : Store) (r : Resource) (payloads : List Value) :
    Prop where
  answer : ∀ records, (runOn supply s (createMany r payloads)).1 = .ok records
    ↔ (runOn supply s (payloads.mapM (create r))).1 = .ok records
  stored : ∀ records, (runOn supply s (createMany r payloads)).1 = .ok records →
    ∀ u, (runOn supply s (createMany r payloads)).2.rows u
      = (runOn supply s (payloads.mapM (create r))).2.rows u

/-- Where no failure is pending the same rows are built either way. -/
theorem createsInTurn_of_ready (hready : s.failure = none) (r : Resource)
    (payloads : List Value) : CreatesInTurn supply s r payloads := by
  constructor
  · intro records
    constructor
    · intro h
      obtain ⟨new, hnew⟩ := creatable_of_createMany hready h
      exact (createEach_appends hready hnew).records
    · intro h
      obtain ⟨new, hnew⟩ := creatable_of_createEach hready h
      exact (createMany_appends hready hnew).records
  · intro records h u
    obtain ⟨new, hnew⟩ := creatable_of_createMany hready h
    rw [(createMany_appends hready hnew).rows, (createEach_appends hready hnew).rows]

/-- Records are created at once as in turn on every store; a pending failure
hits the first statement of either. -/
theorem createsInTurn (supply : Supply) (s : Store) (r : Resource) (payloads : List Value) :
    CreatesInTurn supply s r payloads := by
  cases payloads with
  | nil => exact ⟨fun _ => Iff.rfl, fun _ _ _ => rfl⟩
  | cons payload payloads =>
      by_cases hready : s.failure = none
      · exact createsInTurn_of_ready hready r _
      · -- both fail, at their first statement or before it
        have hmany : ∀ records,
            (runOn supply s (createMany r (payload :: payloads))).1 ≠ .ok records := by
          intro records h
          rw [createMany, if_neg (by simp)] at h
          obtain ⟨inputs, -, hask⟩ := runOn_require_bind_eq_ok_iff.1 h
          exact hready (ready_of_ask hask)
        have heach : ∀ records,
            (runOn supply s ((payload :: payloads).mapM (create r))).1 ≠ .ok records := by
          intro records h
          obtain ⟨record, others, hfirst, -⟩ := runOn_mapM_cons_eq_ok_iff.1 h
          exact hready (ready_of_create hfirst)
        exact ⟨fun records => iff_of_false (hmany records) (heach records),
          fun records h => absurd h (hmany records)⟩

end Repository

/-- A list of rows is inserted at once as its two parts are inserted one
after another. So records are created at once as they are created one by
one. -/
theorem batch_equals_single_inserts (supply : Supply) (s : Store) :
    (∀ t a b, s.InsertsInTurn supply t a b)
      ∧ ∀ r payloads, Repository.CreatesInTurn supply s r payloads :=
  ⟨s.insertsInTurn supply, Repository.createsInTurn supply s⟩

end TableApi
