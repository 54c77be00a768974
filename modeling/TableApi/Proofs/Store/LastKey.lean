/-
Where key generation ends.

A key is generated one above the largest integer key of the rows that are
known, so there is none where the largest integer of 64 bits is a key already:
the sum would be no such integer. An insert that comes to a row without a key
there overflows (`Overflows`). Rows in front of that row count as well as those
stored, and a row in front of it that cannot be stored ends the insert first.

# How far keys go

The largest key of a table need not have been given by anyone: generated keys
count up to it. So what is given is counted together with what is generated
(`Spared`). The key of a stored row was given for the key column by some call
(`Call.given`), or was generated one above such keys, so it is at most the
largest that was given plus the number of rows that brought none
(`keysUpTo_run`). As long as this sum is an integer of 64 bits nothing
overflows. The bound is sharp: rows without keys overflow exactly if the
largest key and their number go beyond it (`overflows_of_keyless_iff`).

An update does not write the key of its table, but statements may differ about
what that is: one that takes another column for the key writes into this one.
-/
import TableApi.Proofs.Store.GeneratedKeys

namespace TableApi

open Json

namespace Table

variable {t u : Table} {supply : Supply} {n : Nat} {m k : Int}
variable {known inputs new : List Row} {input row : Row}

-- ============================================================ the last key

/-- No key is above the largest integer. -/
theorem LargestKey.le_max (h : t.LargestKey known m) : m ≤ int64Max := by
  cases h with
  | absent => decide
  | held hexists =>
      obtain ⟨row, -, hk⟩ := hexists
      exact (integerKey?_eq_some_iff.1 hk).2.2

/-- The largest integer is the largest key exactly if it is a key. -/
theorem largestKey_max_iff :
    t.LargestKey known int64Max ↔ ∃ row ∈ known, t.integerKey? row = some int64Max := by
  constructor
  · intro h
    cases h with
    | held hexists => exact hexists
  · intro hexists
    exact .held hexists fun row _ k hk => (integerKey?_eq_some_iff.1 hk).2.2

/-- Rows that are inserted come to one without a key while the largest integer
is a key, of a known row or of a row in front of it. -/
def Overflows (t : Table) (supply : Supply) (n : Nat) (known inputs : List Row) : Prop :=
  t.keyColumn?.any Column.isInteger = true ∧ ∃ before input after new,
    inputs = before ++ input :: after ∧ t.newRows supply n known before = .ok new
      ∧ t.Keyless input ∧ ∃ row ∈ known ++ new, t.integerKey? row = some int64Max

/-- No key is left in an integer column exactly if the largest integer is
one. -/
theorem nextKey_exhausts_iff (text : String) :
    (∃ name, t.nextKey text known = .error (.keysExhausted name))
      ↔ t.keyColumn?.any Column.isInteger = true
        ∧ ∃ row ∈ known, t.integerKey? row = some int64Max := by
  by_cases hinteger : t.keyColumn?.any Column.isInteger = true
  · obtain ⟨m, hlargest⟩ := exists_largestKey t known
    rw [nextKey_of_largestKey hinteger hlargest, ← largestKey_max_iff, and_iff_right hinteger]
    by_cases hroom : m < int64Max
    · rw [if_pos hroom]
      constructor
      · intro h
        obtain ⟨name, h⟩ := h
        cases h
      · intro hmax
        have hle : int64Max ≤ m := by
          rw [← largestKey_iff.1 hlargest, largestKey_iff.1 hmax]
        omega
    · rw [if_neg hroom]
      have hmax : m = int64Max := Int.le_antisymm hlargest.le_max (Int.not_lt.1 hroom)
      exact ⟨fun _ => hmax ▸ hlargest, fun _ => ⟨t.name, rfl⟩⟩
  · rw [nextKey, if_neg hinteger]
    simp [hinteger]

/-- No key is left for a row exactly if it needs one and the largest integer is
taken. -/
theorem newRow_exhausts_iff :
    (∃ name, t.newRow supply n known input = .error (.keysExhausted name))
      ↔ t.Keyless input ∧ t.keyColumn?.any Column.isInteger = true
        ∧ ∃ row ∈ known, t.integerKey? row = some int64Max := by
  rw [← nextKey_exhausts_iff (supply.key n), newRow, withKey]
  by_cases hkeyless : t.Keyless input
  · have hnull : ((t.project input).cell t.primaryKey).isNull = true := by
      rw [hkeyless]
      rfl
    rw [if_pos hnull, and_iff_right hkeyless]
    cases t.nextKey (supply.key n) known with
    | error e => simp [Except.map]
    | ok v =>
        simp only [Except.map]
        split <;> simp
  · have hkey : ¬ ((t.project input).cell t.primaryKey).isNull = true :=
      fun h => hkeyless (Value.eq_null_of_isNull h)
    rw [if_neg hkey]
    simp only [hkeyless, false_and, iff_false]
    split <;> simp

/-- An insert runs out of keys exactly if it comes to a row without a key
then. -/
theorem newRows_exhausts_iff :
    (∃ name, t.newRows supply n known inputs = .error (.keysExhausted name))
      ↔ t.Overflows supply n known inputs := by
  constructor
  · intro h
    obtain ⟨name, h⟩ := h
    obtain ⟨before, input, after, new, hinputs, hnew, herror⟩ := newRows_eq_error_iff.1 h
    obtain ⟨hkeyless, hinteger, hmax⟩ := newRow_exhausts_iff.1 ⟨name, herror⟩
    exact ⟨hinteger, before, input, after, new, hinputs, hnew, hkeyless, hmax⟩
  · intro h
    obtain ⟨hinteger, before, input, after, new, hinputs, hnew, hkeyless, hmax⟩ := h
    obtain ⟨name, herror⟩ := newRow_exhausts_iff.2 ⟨hkeyless, hinteger, hmax⟩
    exact ⟨name, newRows_eq_error_iff.2 ⟨before, input, after, new, hinputs, hnew, herror⟩⟩

/-- Rows without keys run out of keys exactly if there are more of them than
integers above the largest key. -/
theorem newRows_of_keyless_exhausts_iff (supply : Supply) (n : Nat)
    (hinteger : t.keyColumn?.any Column.isInteger = true)
    (hkeyless : ∀ input ∈ inputs, t.Keyless input) (h : t.LargestKey known m) :
    (∃ name, t.newRows supply n known inputs = .error (.keysExhausted name))
      ↔ int64Max < m + inputs.length := by
  induction inputs generalizing n known m with
  | nil =>
      have hmax := h.le_max
      constructor
      · intro herror
        obtain ⟨name, herror⟩ := herror
        cases herror
      · intro hover
        rw [List.length_nil] at hover
        omega
  | cons input inputs ih =>
      have hfirst := newRow_of_keyless supply n hinteger (hkeyless input List.mem_cons_self) h
      rw [List.length_cons, Int.natCast_add, Int.natCast_one]
      by_cases hroom : m < int64Max
      · rw [if_pos hroom] at hfirst
        have hrest := ih (n + 1)
          (fun other hother => hkeyless other (List.mem_cons_of_mem _ hother))
          (h.concat_keyedBy hroom (supply.time n) input)
        have hlength : m + (inputs.length + 1 : Int) = m + 1 + inputs.length := by omega
        rw [newRows_cons_of_ok hfirst, hlength, ← hrest]
        cases t.newRows supply (n + 1) _ inputs with
        | error e => simp [Except.map]
        | ok new => simp [Except.map]
      · rw [if_neg hroom] at hfirst
        rw [newRows_cons_of_error hfirst]
        constructor
        · intro _
          omega
        · intro _
          exact ⟨t.name, rfl⟩

-- ======================================================== how far keys go

/-- The integer keys of the rows go no further. -/
def KeysUpTo (t : Table) (m : Int) (rows : List Row) : Prop :=
  ∀ row ∈ rows, ∀ k, t.integerKey? row = some k → k ≤ m

/-- What is below a bound is below a greater one. -/
theorem KeysUpTo.mono (h : t.KeysUpTo m known) (hk : m ≤ k) : t.KeysUpTo k known :=
  fun row hrow j hj => (h row hrow j hj).trans hk

/-- Rows behind rows are below a bound if both are. -/
theorem keysUpTo_append :
    t.KeysUpTo m (known ++ new) ↔ t.KeysUpTo m known ∧ t.KeysUpTo m new :=
  List.forall_mem_append

theorem keysUpTo_nil : t.KeysUpTo m [] := List.forall_mem_nil _

/-- A key is read the same in all tables with one key column. -/
theorem integerKey?_congr (h : t.primaryKey = u.primaryKey) (row : Row) :
    t.integerKey? row = u.integerKey? row := by
  rw [integerKey?, integerKey?, h]

/-- The rows that bring no key. -/
def keylessAmong (u : Table) (inputs : List Row) : List Row :=
  inputs.filter fun input => ((u.project input).cell u.primaryKey).isNull

/-- Rows without a key are counted in two parts. -/
theorem keylessAmong_append (u : Table) (inputs others : List Row) :
    u.keylessAmong (inputs ++ others) = u.keylessAmong inputs ++ u.keylessAmong others :=
  List.filter_append inputs others

theorem keylessAmong_cons (u : Table) (input : Row) (inputs : List Row) :
    u.keylessAmong (input :: inputs) = u.keylessAmong [input] ++ u.keylessAmong inputs :=
  keylessAmong_append u [input] inputs

/-- A row without a key is one of them. -/
theorem keylessAmong_of_keyless (h : u.Keyless input) : u.keylessAmong [input] = [input] := by
  rw [keylessAmong, List.filter_singleton, h]
  rfl

/-- The cells of a projected row come from the row. -/
theorem int_of_project {name : String} (h : (u.project input).get? name = some (.int k)) :
    input.get? name = some (.int k) := by
  rw [get?_project] at h
  split at h
  · split at h
    · rw [Row.cell] at h
      cases hinput : input.get? name with
      | none => rw [hinput] at h; cases h
      | some v => rw [hinput] at h; exact h
    · cases h
  · cases h

/-- An integer in a row that is stored was given in its place, or is the key
that was generated for it. -/
theorem int_of_newRow {name : String} (h : u.newRow supply n known input = .ok row)
    (hrow : row.get? name = some (.int k)) :
    input.get? name = some (.int k)
      ∨ name = u.primaryKey ∧ u.Keyless input ∧ u.GeneratedKey (supply.key n) known (.int k) := by
  obtain ⟨keyed, hkeyed, rfl, -⟩ := newRow_eq_ok_iff.1 h
  have hget : keyed.get? name = some (.int k) := by
    rw [get?_withTimes] at hrow
    split at hrow
    · cases hrow
    · exact hrow
  rcases withKey_cases hkeyed with ⟨-, rfl⟩ | ⟨hkeyless, v, hgenerated, rfl⟩
  · exact .inl (int_of_project hget)
  · rw [Row.get?_set] at hget
    split at hget
    · next hname =>
      obtain rfl := Option.some.inj hget
      exact .inr ⟨hname, hkeyless, hgenerated⟩
    · exact .inl (int_of_project hget)

/-- A generated key is at most one above the keys that are known. -/
theorem GeneratedKey.le {text : String} (h : u.GeneratedKey text known (.int k))
    (hname : t.primaryKey = u.primaryKey) (hm : 0 ≤ m) (hknown : t.KeysUpTo m known) :
    k ≤ m + 1 := by
  cases h with
  | first => omega
  | next _ hexists =>
      obtain ⟨row, hrow, hk⟩ := hexists
      have hle := hknown row hrow _ ((integerKey?_congr hname row).trans hk)
      omega

/-- A new row goes beyond the bound by one at most, and only if it brings no
key. -/
theorem keysUpTo_newRow (hm : 0 ≤ m) (hknown : t.KeysUpTo m known) (hinput : t.KeysUpTo m [input])
    (h : u.newRow supply n known input = .ok row) :
    t.KeysUpTo (m + (u.keylessAmong [input]).length) [row] := by
  intro other hother k hk
  rw [List.mem_singleton.1 hother] at hk
  obtain ⟨hget, hrange⟩ := integerKey?_eq_some_iff.1 hk
  rcases int_of_newRow h hget with hgiven | ⟨hname, hkeyless, hgenerated⟩
  · have hle := hinput input List.mem_cons_self k (integerKey?_eq_some_iff.2 ⟨hgiven, hrange⟩)
    omega
  · have hle := hgenerated.le hname hm hknown
    rw [keylessAmong_of_keyless hkeyless, List.length_singleton]
    omega

/-- The keys of a batch go no further than those known and given, and one for
each row without a key. -/
theorem keysUpTo_newRows (hm : 0 ≤ m) (hknown : t.KeysUpTo m known)
    (hinputs : t.KeysUpTo m inputs) (hnew : u.newRows supply n known inputs = .ok new) :
    t.KeysUpTo (m + (u.keylessAmong inputs).length) (known ++ new) := by
  induction inputs generalizing n known m new with
  | nil =>
      obtain rfl : [] = new := Except.ok.inj hnew
      rw [List.append_nil]
      exact hknown.mono (by omega)
  | cons input inputs ih =>
      obtain ⟨row, rest, hrow, hrest, rfl⟩ := newRows_cons_eq_ok hnew
      obtain ⟨hinput, hinputs⟩ := keysUpTo_append.1 (inputs.singleton_append ▸ hinputs)
      have hfirst : t.KeysUpTo (m + (u.keylessAmong [input]).length) (known ++ [row]) :=
        keysUpTo_append.2 ⟨hknown.mono (by omega), keysUpTo_newRow hm hknown hinput hrow⟩
      -- The rest is built beside the first row, so what that adds is known there.
      have hall := ih (by omega) hfirst (hinputs.mono (by omega)) hrest
      rw [List.append_assoc, List.singleton_append] at hall
      rw [keylessAmong_cons, List.length_append]
      exact hall.mono (by omega)

/-- Nothing overflows as long as the keys known and given, and one more for
each row without a key, are integers of 64 bits. -/
theorem not_overflows_of_keysUpTo (hm : 0 ≤ m) (hknown : t.KeysUpTo m known)
    (hinputs : t.KeysUpTo m inputs) (hroom : m + (t.keylessAmong inputs).length ≤ int64Max) :
    ¬ t.Overflows supply n known inputs := by
  intro h
  obtain ⟨-, before, input, after, new, rfl, hnew, hkeyless, row, hrow, hmax⟩ := h
  have hle := keysUpTo_newRows hm hknown (keysUpTo_append.1 hinputs).1 hnew row hrow _ hmax
  rw [keylessAmong_append, keylessAmong_cons, keylessAmong_of_keyless hkeyless,
    List.length_append, List.length_append, List.length_singleton] at hroom
  omega

/-- An integer key behind an update was there, or was written by one that takes
another column for the key. -/
theorem integerKey?_overwrite {values : Row} (h : t.integerKey? (u.overwrite values row) = some k) :
    t.integerKey? row = some k ∨ u.primaryKey ≠ t.primaryKey ∧ t.integerKey? values = some k := by
  obtain ⟨hget, hrange⟩ := integerKey?_eq_some_iff.1 h
  rw [get?_overwrite] at hget
  split at hget
  · next hwritten =>
    rcases Option.or_eq_some_iff.1 hget with hvalue | ⟨-, hold⟩
    · exact .inr ⟨Ne.symm hwritten.2, integerKey?_eq_some_iff.2 ⟨hvalue, hrange⟩⟩
    · exact .inl (integerKey?_eq_some_iff.2 ⟨hold, hrange⟩)
  · exact .inl (integerKey?_eq_some_iff.2 ⟨hget, hrange⟩)

end Table

namespace Store

variable {supply : Supply} {s : Store} {t : Table} {m : Int}

-- ================================================================ a store

/-- The statement inserts rows that come to one without a key while the largest
integer is a key of the table. -/
def Overflows (supply : Supply) (s : Store) (statement : Statement) : Prop :=
  s.failure = none ∧ ∃ t inputs, statement = .insert t inputs
    ∧ t.Overflows supply s.inserted (s.rows t) inputs

/-- A statement runs out of keys exactly if it overflows. -/
theorem execute_exhausts_iff {statement : Statement} :
    (∃ name, (s.execute supply statement).1 = .error (.keysExhausted name))
      ↔ s.Overflows supply statement := by
  cases hfailure : s.failure with
  | some message =>
      rw [Repository.execute_of_failure hfailure, Overflows, hfailure]
      simp
  | none =>
      constructor
      · intro h
        obtain ⟨name, h⟩ := h
        rw [Repository.execute_of_ready hfailure] at h
        rcases perform_eq_error_iff.1 h with ⟨t, inputs, rfl, hfails⟩ | ⟨t, selection, -, hsearch⟩
        · refine ⟨hfailure, t, inputs, rfl, ?_⟩
          exact Table.newRows_exhausts_iff.1 ⟨name, Table.newRows_eq_error_iff.2 hfails⟩
        · cases (Table.search_eq_error_iff.1 hsearch).1
      · intro h
        obtain ⟨-, t, inputs, rfl, hover⟩ := h
        obtain ⟨name, herror⟩ := Table.newRows_exhausts_iff.2 hover
        refine ⟨name, ?_⟩
        rw [execute_insert_of_ready hfailure, herror]

/-- An insert of rows without keys overflows exactly if there are more of them
than integers above the largest key. -/
theorem overflows_of_keyless_iff {inputs : List Row} (hready : s.failure = none)
    (hinteger : t.keyColumn?.any Column.isInteger = true)
    (hkeyless : ∀ input ∈ inputs, t.Keyless input) (h : t.LargestKey (s.rows t) m) :
    s.Overflows supply (.insert t inputs) ↔ int64Max < m + inputs.length := by
  rw [← Table.newRows_of_keyless_exhausts_iff supply s.inserted hinteger hkeyless h,
    Table.newRows_exhausts_iff]
  constructor
  · intro hover
    obtain ⟨-, u, others, heq, hover⟩ := hover
    cases heq
    exact hover
  · intro hover
    exact ⟨hready, t, inputs, rfl, hover⟩

-- ================================================================== a run

/-- The rows that a call writes into the key column of a table: what it seeds
or inserts, and what it updates if it takes another column for the key. -/
def Call.given (t : Table) : Call → List Row
  | seed u values => if t.fullName = u.fullName then values.filterMap Row.ofValue? else []
  | failNext _ => []
  | query (.insert u inputs) => if t.fullName = u.fullName then inputs else []
  | query (.update u _ values) =>
      if t.fullName = u.fullName ∧ u.primaryKey ≠ t.primaryKey then [values] else []
  | query _ => []

/-- The rows without a key that a call inserts into a table. -/
def Call.keyless (t : Table) : Call → List Row
  | query (.insert u inputs) => if t.fullName = u.fullName then u.keylessAmong inputs else []
  | _ => []

/-- What a statement on a table of the same name adds to its keys. -/
theorem keysUpTo_perform {statement : Statement} (hname : t.fullName = statement.table.fullName)
    (hm : 0 ≤ m) (h : t.KeysUpTo m (s.rows t))
    (hgiven : t.KeysUpTo m ((Call.query statement).given t)) :
    t.KeysUpTo (m + ((Call.query statement).keyless t).length)
      ((s.perform supply statement).2.rows t) := by
  have hrows : s.rows t = s.rows statement.table := rows_congr hname s
  have hsame : t.KeysUpTo (m + ((Call.query statement).keyless t).length)
      (s.rows statement.table) := by
    rw [← hrows]
    exact h.mono (by omega)
  cases statement with
  | select u selection => exact h.mono (by omega)
  | count u condition => exact h.mono (by omega)
  | insert u inputs =>
      rw [Statement.table] at hname hrows
      rw [Call.given, if_pos hname] at hgiven
      simp only [perform]
      split
      · exact h.mono (by omega)
      · next new hnew =>
        show t.KeysUpTo _ ((s.appended u new).rows t)
        rw [rows_appended, if_pos hname, Call.keyless, if_pos hname]
        rw [hrows] at h
        exact Table.keysUpTo_newRows hm h hgiven hnew
  | update u condition values =>
      rw [Statement.table] at hname hsame
      rw [Call.given] at hgiven
      simp only [perform, rows_setRows, if_pos hname]
      intro row hrow k hk
      obtain ⟨old, hold, rfl⟩ := List.mem_map.1 hrow
      split at hk
      · rcases Table.integerKey?_overwrite hk with hkey | ⟨hother, hvalue⟩
        · exact hsame old hold k hkey
        · rw [if_pos ⟨hname, hother⟩] at hgiven
          have hle := hgiven values List.mem_cons_self k hvalue
          omega
      · exact hsame old hold k hk
  | delete u condition =>
      rw [Statement.table] at hname hsame
      simp only [perform, rows_setRows, if_pos hname]
      intro row hrow
      exact hsame row (List.mem_of_mem_filter hrow)

/-- What one call adds to the keys of a table. -/
theorem keysUpTo_call {call : Call} (hm : 0 ≤ m) (h : t.KeysUpTo m (s.rows t))
    (hgiven : t.KeysUpTo m (call.given t)) :
    t.KeysUpTo (m + (call.keyless t).length) ((s.call supply call).rows t) := by
  have hsame : t.KeysUpTo (m + (call.keyless t).length) (s.rows t) := h.mono (by omega)
  cases call with
  | failNext message => exact hsame
  | seed u values =>
      rw [Store.call, rows_seed]
      rw [Call.given] at hgiven
      by_cases hname : t.fullName = u.fullName
      · rw [if_pos hname] at hgiven ⊢
        rw [rows_congr hname] at hsame
        exact Table.keysUpTo_append.2 ⟨hsame, hgiven.mono (by omega)⟩
      · rw [if_neg hname]
        exact hsame
  | query statement =>
      rw [Store.call]
      cases hfailure : s.failure with
      | some message =>
          rw [Repository.execute_of_failure hfailure]
          exact hsame
      | none =>
          rw [Repository.execute_of_ready hfailure]
          by_cases hname : t.fullName = statement.table.fullName
          · exact keysUpTo_perform hname hm h hgiven
          · rw [rows_perform_of_ne (Ne.symm hname)]
            exact hsame

/-- The keys behind a run go no further than those given, and one for each row
without a key. -/
theorem keysUpTo_run (supply : Supply) {calls : List Call} (hm : 0 ≤ m)
    (hgiven : t.KeysUpTo m (calls.flatMap (Call.given t))) :
    t.KeysUpTo (m + (calls.flatMap (Call.keyless t)).length)
      ((Store.empty.run supply calls).rows t) := by
  induction calls using List.reverseRecOn with
  | nil => exact Table.keysUpTo_nil
  | append_singleton calls last ih =>
      rw [List.flatMap_append, Table.keysUpTo_append, List.flatMap_singleton] at hgiven
      obtain ⟨hgiven, hlast⟩ := hgiven
      rw [run_concat, List.flatMap_append, List.flatMap_singleton, List.length_append,
        Int.natCast_add, ← Int.add_assoc]
      exact keysUpTo_call (by omega) (ih hgiven) (hlast.mono (by omega))

/-- The keys that are given to a table by calls, and one more for each row
without a key, are integers of 64 bits. -/
structure Spared (t : Table) (m : Int) (calls : List Call) : Prop where
  nonneg : 0 ≤ m
  given : t.KeysUpTo m (calls.flatMap (Call.given t))
  room : m + (calls.flatMap (Call.keyless t)).length ≤ int64Max

/-- What is spared was spared before. -/
theorem Spared.of_append {calls later : List Call} (h : Spared t m (calls ++ later)) :
    Spared t m calls where
  nonneg := h.nonneg
  given := by
    have hgiven := h.given
    rw [List.flatMap_append] at hgiven
    exact (Table.keysUpTo_append.1 hgiven).1
  room := by
    have hroom := h.room
    rw [List.flatMap_append, List.length_append] at hroom
    omega

/-- A statement does not overflow where its table is spared. -/
theorem Spared.not_overflows {calls : List Call} {statement : Statement}
    (h : Spared statement.table m (calls ++ [.query statement])) :
    ¬ (Store.empty.run supply calls).Overflows supply statement := by
  intro hover
  obtain ⟨-, t, inputs, rfl, hover⟩ := hover
  rw [Statement.table] at h
  have hgiven := h.given
  rw [List.flatMap_append, Table.keysUpTo_append, List.flatMap_singleton, Call.given, if_pos rfl]
    at hgiven
  have hroom := h.room
  rw [List.flatMap_append, List.length_append, List.flatMap_singleton, Call.keyless, if_pos rfl,
    Int.natCast_add, ← Int.add_assoc] at hroom
  have hm := h.nonneg
  have hrows := keysUpTo_run supply hm hgiven.1
  exact Table.not_overflows_of_keysUpTo (by omega) hrows (hgiven.2.mono (by omega)) hroom hover

/-- Some statement of a run goes beyond the last key. -/
def Overran (supply : Supply) (calls : List Call) : Prop := Meets supply (Overflows supply) calls

/-- No statement overflows in a run that spares every table. -/
theorem not_overran_of_spared {calls : List Call} (h : ∀ t, ∃ m, Spared t m calls) :
    ¬ Overran supply calls := by
  intro hover
  obtain ⟨earlier, statement, later, rfl, hover⟩ := hover
  obtain ⟨m, hspared⟩ := h statement.table
  rw [List.append_cons] at hspared
  exact hspared.of_append.not_overflows hover

end Store

end TableApi
