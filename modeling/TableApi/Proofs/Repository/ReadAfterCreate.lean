/-
Reading what was created.

A create that succeeds appends one row and returns its record. A search
by the key that the row's own key text spells goes through the rows in
their order and stops at the first that compares as equal with the key.
So the record comes back if no earlier row stops the search and the new
row does. An earlier row may, for the store tells keys apart by their
form and a search only by their place in the order of values; and the
new row may not, where a key text does not spell the cell that it was
taken from (`Key.KeepsOwn`).
-/
import TableApi.Proofs.Key
import TableApi.Proofs.Repository.Batch
import TableApi.Proofs.Repository.ByKey
import TableApi.Proofs.Store.Insert

namespace TableApi

open Json

-- ================================================================ create

namespace Repository

variable {supply : Supply} {r : Resource} {s s' : Store} {payload record : Value}

/-- A create that succeeds appends one new row and returns its record. -/
theorem runOn_create (h : runOn supply s (create r payload) = (.ok record, s')) :
    ∃ input new, r.table.newRow supply s.inserted (s.rows r.table) input = .ok new
      ∧ s'.failure = none
      ∧ s'.rows r.table = s.rows r.table ++ [new]
      ∧ r.record? new = some record := by
  have hfirst : (runOn supply s (create r payload)).1 = .ok record := congrArg Prod.fst h
  have hready := ready_of_create hfirst
  obtain ⟨input, new, hinput, hnew, hrecord⟩ := (runOn_create_eq_ok_iff hready).1 hfirst
  obtain rfl := (store_create hready hinput hnew).symm.trans (congrArg Prod.snd h)
  exact ⟨input, new, hnew, hready, Store.rows_appended_self _ _ _, hrecord⟩

-- ====================================================== read after create

theorem found_some_iff {row : Row} :
    found r (some row) = .ok (some record) ↔ r.record? (r.table.project row) = some record := by
  rw [found]
  cases hrecord : r.record? (r.table.project row) with
  | none => simp [outcome, Except.map]
  | some v => simp [outcome, Except.map]

/-- A search by the key ends at a row that reads as the record: at an
earlier row, or at the new one if it passes all the others. -/
def EndsAtRecord (r : Resource) (rows : List Row) (new : Row) (record : Value) (key : Key) :
    Prop :=
  match rows.find? (r.hasKey key).keeps with
  | some row => r.record? (r.table.project row) = some record
  | none => (r.hasKey key).keeps new = true ∧ r.record? (r.table.project new) = some record

theorem runOn_findById_of_append (hready : s'.failure = none) {new : Row}
    (hrows : s'.rows r.table = s.rows r.table ++ [new]) (key : Key) :
    (runOn supply s' (findById r key)).1 = .ok (some record)
      ↔ EndsAtRecord r (s.rows r.table) new record key := by
  rw [runOn_findById hready, hrows, List.find?_append, EndsAtRecord]
  cases (s.rows r.table).find? (r.hasKey key).keeps with
  | some row => exact found_some_iff
  | none =>
      rw [Option.none_or, List.find?_singleton]
      cases hnew : (r.hasKey key).keeps new with
      | false => simp [found]
      | true => simpa using found_some_iff

/-- Of rows that all have strings as keys, none stops a search by the
string of a new one. -/
theorem find?_of_strings {rows : List Row} {new : Row} {text : String}
    (hheld : r.table.holdsKeyOf rows new = false)
    (hnew : new.cell r.table.primaryKey = .string text)
    (hrows : ∀ row ∈ rows, ∃ other, row.cell r.table.primaryKey = .string other) :
    rows.find? (r.hasKey (.text text)).keeps = none := by
  rw [List.find?_eq_none]
  intro row hrow hkeeps
  obtain ⟨other, hother⟩ := hrows row hrow
  rw [Resource.keeps_hasKey, hother] at hkeeps
  obtain rfl := (Value.compare?_string other text).1 hkeeps
  have hsame := Table.not_same_of_holdsKeyOf hheld hrow hother (by simp)
  rw [hnew] at hsame
  simp [Value.same] at hsame

/-- Of rows that all have integers as keys, none stops a search by the
integer of a new one, unless its key is confused with it. -/
theorem find?_of_integers {new : Row} {n : Int}
    (hheld : r.table.holdsKeyOf (s.rows r.table) new = false)
    (hnew : r.table.integerKey? new = some n)
    (hrows : ∀ row ∈ s.rows r.table, (r.table.integerKey? row).isSome)
    (hn : Unconfused r s (.int n)) :
    (s.rows r.table).find? (r.hasKey (.int n)).keeps = none := by
  rw [List.find?_eq_none]
  intro row hrow hkeeps
  obtain ⟨k, hk⟩ := Option.isSome_iff_exists.1 (hrows row hrow)
  rcases (Resource.keeps_hasKey_of_integer hk _).1 hkeeps with heq | hconfused
  · obtain rfl := Key.int.inj heq
    have hsame := Table.not_same_of_holdsKeyOf hheld hrow (Table.cell_of_integerKey? hk)
      (by simp [Value.int])
    rw [Table.cell_of_integerKey? hnew] at hsame
    simp [Value.int, Value.same, Number.same] at hsame
  · exact hn row hrow k hk hconfused

/-- What can be read back behind a create that appended a row and
returned its record. -/
structure ReadsBack (supply : Supply) (r : Resource) (s s' : Store) (record : Value)
    (new : Row) : Prop where
  appended : s'.rows r.table = s.rows r.table ++ [new]
  returned : r.record? new = some record
  project : r.table.Proper → r.table.project new = new
  byKey : ∀ key, (runOn supply s' (findById r key)).1 = .ok (some record)
    ↔ EndsAtRecord r (s.rows r.table) new record key
  /-- The key that the new cell spells keeps the new row or not by the
  type of the key column. -/
  byOwnKey : ∀ raw key, (new.cell r.table.primaryKey).plainText? = some raw →
    Key.parseFor r.table.keyColumn? raw = .ok key →
      Key.KeepsOwn r.table.keyColumn? (new.cell r.table.primaryKey) key
        ((r.hasKey key).keeps new)
  /-- Among strings the new one is found. -/
  byString : r.table.Proper →
    (∀ row ∈ s.rows r.table, ∃ other, row.cell r.table.primaryKey = .string other) →
      ∀ text, new.cell r.table.primaryKey = .string text →
        (runOn supply s' (findById r (.text text))).1 = .ok (some record)
  /-- Among integers the new one is found if none is confused with it. -/
  byInteger : r.table.Proper →
    (∀ row ∈ s.rows r.table, (r.table.integerKey? row).isSome) →
      ∀ n, r.table.integerKey? new = some n → Unconfused r s (.int n) →
        (runOn supply s' (findById r (.int n))).1 = .ok (some record)

/-- Behind a create that returned a record, a search by a key returns
that record if it ends at the new row, or at an earlier row that reads
alike. By the key that its own cell spells the new row is found in an
integer column, in a UUID column if the key was given in the canonical
spelling, and in any other column if it is a string or an integer. No
earlier row stops the search where all keys are strings, or where all are
integers and none is confused with the new one. -/
theorem read_after_create_iff (supply : Supply) (r : Resource) (s s' : Store)
    (payload record : Value)
    (hcreate : runOn supply s (create r payload) = (.ok record, s')) :
    ∃ new, ReadsBack supply r s s' record new := by
  obtain ⟨input, new, hnew, hready', hrows, hrecord⟩ := runOn_create hcreate
  have hheld := Table.holdsKeyOf_newRow hnew
  have hproject : r.table.Proper → r.table.project new = new :=
    fun ht => Table.project_eq_self ht (Table.hasColumns_newRow ht hnew)
  have hbyKey : ∀ key, (runOn supply s' (findById r key)).1 = .ok (some record)
      ↔ EndsAtRecord r (s.rows r.table) new record key :=
    runOn_findById_of_append hready' hrows
  have hfirst : ∀ key, r.table.Proper →
      (s.rows r.table).find? (r.hasKey key).keeps = none →
        (r.hasKey key).keeps new = true →
          (runOn supply s' (findById r key)).1 = .ok (some record) := by
    intro key ht hnone hkeeps
    rw [hbyKey, EndsAtRecord, hnone, hproject ht]
    exact ⟨hkeeps, hrecord⟩
  refine ⟨new, hrows, hrecord, hproject, hbyKey, fun raw key => Key.keepsOwn, ?_, ?_⟩
  · intro ht hstrings text htext
    refine hfirst _ ht (find?_of_strings hheld htext hstrings) ?_
    rw [Resource.keeps_hasKey, htext]
    exact (Value.compare?_string text text).2 rfl
  · intro ht hintegers n hn hunconfused
    exact hfirst _ ht (find?_of_integers hheld hn hintegers hunconfused)
      ((Resource.keeps_hasKey_of_integer hn _).2 (.inl rfl))

/-- A counter is read back by its key, from behind one whose key is long. -/
theorem read_after_create_counter :
    let record : Value := .object [("id", .int 5)]
    let created := runOn Supply.constant longKeyStore (create counters record)
    created.1 = .ok record
      ∧ (∀ row ∈ longKeyStore.rows counters.table, (counters.table.integerKey? row).isSome)
      ∧ Unconfused counters longKeyStore (.int 5)
      ∧ (runOn Supply.constant created.2 (findById counters (.int 5))).1
        = .ok (some record) := by
  intro record created
  have hcreate : runOn Supply.constant longKeyStore (create counters record)
      = (.ok record, created.2) := rfl
  obtain ⟨new, hread⟩ :=
    read_after_create_iff Supply.constant counters longKeyStore created.2 record record hcreate
  have hproper : counters.table.Proper := ⟨by decide, by decide⟩
  obtain rfl : Row.empty.set "id" (.int 5) = new := by
    have hstored : created.2.rows counters.table
        = longKeyStore.rows counters.table ++ [Row.empty.set "id" (.int 5)] := rfl
    have hrows := hread.appended
    rw [hstored] at hrows
    exact (List.cons.inj (List.append_cancel_left hrows)).1
  have hintegers : ∀ row ∈ longKeyStore.rows counters.table,
      (counters.table.integerKey? row).isSome := longKeyStore_holds.integer
  have hunconfused : Unconfused counters longKeyStore (.int 5) :=
    fun _ _ _ _ => Key.not_confused_of_lt (by decide)
  exact ⟨rfl, hintegers, hunconfused, hread.byInteger hproper hintegers 5 rfl hunconfused⟩

/-- A table whose keys are UUIDs. -/
def documents : Resource :=
  ⟨⟨none, "documents", "id", [⟨"id", "uuid", true⟩]⟩, .any, .any, .any⟩

/-- A row created under a UUID in upper case is not found by the key that
its own text spells. -/
theorem read_after_create_misses_upper_case :
    let upper := "A0EEBC99-9C0B-4EF8-BB6D-6BB9BD380A11"
    let key : Key := .text "a0eebc99-9c0b-4ef8-bb6d-6bb9bd380a11"
    let record : Value := .object [("id", .string upper)]
    let created := runOn Supply.constant .empty (create documents record)
    created.1 = .ok record
      ∧ Key.parseFor documents.table.keyColumn? upper = .ok key
      ∧ (runOn Supply.constant created.2 (findById documents key)).1 = .ok none := by
  intro upper key record created
  have hrows : created.2.rows documents.table = [Row.empty.set "id" (.string upper)] := rfl
  have hmissed : (documents.hasKey key).keeps (Row.empty.set "id" (.string upper)) = false := by
    rw [← Bool.not_eq_true, Resource.keeps_hasKey]
    exact fun h => absurd ((Value.compare?_string _ _).1 h) (by decide)
  refine ⟨rfl, by decide +kernel, ?_⟩
  rw [runOn_findById rfl, hrows, List.find?_singleton, hmissed]
  rfl

end Repository

end TableApi
