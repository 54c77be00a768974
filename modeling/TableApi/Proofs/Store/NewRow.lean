/-
What an insert makes of the rows that it is given.

Three things are done to a row one after another: it is cut to the columns
of the table, it is given a key if it has none, and its empty timestamp
columns that have a default are given a time each. They meet in the key
column, which may itself be such a timestamp or no column at all. It is
the key that comes first there: what has been generated is not null, so
no time is written over it, and where the key is no column the cut has
taken away whatever was given for it.

So every cell of a stored row has one of four origins (`StoredFrom`): the
value that was given, the generated key, a time, or null. Which rows are
known when a key is generated depends on the place in the batch: those
stored before and those in front of it (`newRow_of_newRows`).
-/
import TableApi.Proofs.Store.Returned

namespace TableApi

open Json

namespace Table

variable {t : Table} {supply : Supply} {n : Nat} {text : String}
variable {known inputs new : List Row} {input row keyed : Row}

-- ======================================================= the three steps

/-- A value is null or is not. -/
theorem isNull_eq_false_iff {v : Value} : v.isNull = false ↔ v ≠ .null := by
  cases v <;> simp [Value.isNull]

/-- The largest integer key among rows, or zero if they have none. -/
inductive LargestKey (t : Table) (rows : List Row) : Int → Prop where
  | absent : (∀ row ∈ rows, t.integerKey? row = none) → LargestKey t rows 0
  | held {m : Int} : (∃ row ∈ rows, t.integerKey? row = some m) →
      (∀ row ∈ rows, ∀ k, t.integerKey? row = some k → k ≤ m) → LargestKey t rows m

/-- The largest key is the maximum of the integer keys, or zero. -/
theorem largestKey_iff {rows : List Row} {m : Int} :
    t.LargestKey rows m ↔ (rows.filterMap t.integerKey?).max?.getD 0 = m := by
  constructor
  · intro h
    cases h with
    | absent hnone => rw [List.filterMap_eq_nil_iff.2 hnone]; rfl
    | held hexists hle =>
        have hmax : (rows.filterMap t.integerKey?).max? = some m := by
          refine List.max?_eq_some_iff.2 ⟨List.mem_filterMap.2 hexists, fun k hk => ?_⟩
          obtain ⟨row, hrow, hkey⟩ := List.mem_filterMap.1 hk
          exact hle row hrow k hkey
        rw [hmax, Option.getD_some]
  · rintro rfl
    cases hmax : (rows.filterMap t.integerKey?).max? with
    | none =>
        rw [List.max?_eq_none_iff, List.filterMap_eq_nil_iff] at hmax
        exact .absent hmax
    | some m =>
        obtain ⟨hmem, hle⟩ := List.max?_eq_some_iff.1 hmax
        refine .held (List.mem_filterMap.1 hmem) fun row hrow k hk => ?_
        exact hle k (List.mem_filterMap.2 ⟨row, hrow, hk⟩)

/-- There is always one. -/
theorem exists_largestKey (t : Table) (rows : List Row) : ∃ m, t.LargestKey rows m :=
  ⟨_, largestKey_iff.2 rfl⟩

/-- In an integer column the next key is one above it, as long as there is
an integer. -/
theorem nextKey_of_largestKey {m : Int} (hinteger : t.keyColumn?.any Column.isInteger = true)
    (h : t.LargestKey known m) :
    t.nextKey text known
      = if m < int64Max then .ok (.int (m + 1)) else .error (.keysExhausted t.name) := by
  rw [nextKey, if_pos hinteger]
  simp only [largestKey_iff.1 h]

/-- The value is a key that the table generates beside the rows that are
known: in an integer column one above the largest integer key, or above
zero if there is none; in any other column, and where the key is no
column, the generated text. -/
inductive GeneratedKey (t : Table) (text : String) (known : List Row) : Value → Prop where
  | first : t.keyColumn?.any Column.isInteger = true →
      (∀ row ∈ known, t.integerKey? row = none) → GeneratedKey t text known (.int 1)
  | next {k : Int} : t.keyColumn?.any Column.isInteger = true →
      (∃ row ∈ known, t.integerKey? row = some k) →
      (∀ row ∈ known, ∀ j, t.integerKey? row = some j → j ≤ k) →
        GeneratedKey t text known (.int (k + 1))
  | text : t.keyColumn?.any Column.isInteger = false → GeneratedKey t text known (.string text)

/-- A key that is generated is the next integer, or the text supplied. -/
theorem generatedKey_of_nextKey {v : Value} (h : t.nextKey text known = .ok v) :
    t.GeneratedKey text known v := by
  cases hinteger : t.keyColumn?.any Column.isInteger with
  | true =>
      obtain ⟨m, hlargest⟩ := exists_largestKey t known
      rw [nextKey_of_largestKey hinteger hlargest] at h
      split at h
      · obtain rfl := Except.ok.inj h
        cases hlargest with
        | absent hnone => exact .first hinteger hnone
        | held hexists hle => exact .next hinteger hexists hle
      · cases h
  | false =>
      rw [nextKey, if_neg (Bool.eq_false_iff.1 hinteger)] at h
      obtain rfl := Except.ok.inj h
      exact .text hinteger

/-- A row that brings a key keeps it, and one that brings none is given a
generated one. -/
theorem withKey_cases (h : t.withKey text known row = .ok keyed) :
    (row.cell t.primaryKey ≠ .null ∧ keyed = row)
      ∨ row.cell t.primaryKey = .null
        ∧ ∃ v, t.GeneratedKey text known v ∧ keyed = row.set t.primaryKey v := by
  unfold withKey at h
  split at h
  · next hnull =>
    cases hkey : t.nextKey text known with
    | error e => rw [hkey] at h; cases h
    | ok v =>
        rw [hkey] at h
        refine .inr ⟨Value.eq_null_of_isNull hnull, v, generatedKey_of_nextKey hkey, ?_⟩
        exact (Except.ok.inj h).symm
  · next hnull =>
    refine .inl ⟨isNull_eq_false_iff.1 (Bool.eq_false_iff.2 hnull), ?_⟩
    exact (Except.ok.inj h).symm

/-- Only the key column is given a key. -/
theorem get?_withKey_of_ne (h : t.withKey text known row = .ok keyed) {name : String}
    (hname : name ≠ t.primaryKey) : keyed.get? name = row.get? name := by
  rcases withKey_cases h with ⟨-, rfl⟩ | ⟨-, v, -, rfl⟩
  · rfl
  · rw [Row.get?_set, if_neg hname]

/-- Whether a timestamp column of this name has a default. -/
def stamps (t : Table) (name : String) : Bool :=
  t.columns.any fun c => c.name == name && (c.hasDefault && c.isTimestamp)

/-- A time goes where a timestamp with a default is null, and nowhere
else. -/
theorem get?_withTimes (t : Table) (time : String → String) (row : Row) (name : String) :
    (t.withTimes time row).get? name
      = if t.stamps name && (row.cell name).isNull then some (.string (time name))
        else row.get? name := by
  unfold withTimes stamps
  generalize t.columns = cs
  induction cs generalizing row with
  | nil => rfl
  | cons c cs ih =>
      rw [List.foldl_cons, ih, List.any_cons]
      by_cases hstamped : (c.hasDefault && c.isTimestamp && (row.cell c.name).isNull) = true
      · rw [if_pos hstamped]
        obtain ⟨hkind, hnull⟩ := Bool.and_eq_true_iff.1 hstamped
        by_cases hname : c.name = name
        · -- The time that has been written is not written over.
          subst hname
          simp [Row.cell, Value.isNull, hkind] at hnull ⊢
          simp [hnull]
        · have hother : ¬ name = c.name := fun h => hname h.symm
          simp [Row.cell, hname, hother]
      · rw [if_neg hstamped]
        by_cases hname : c.name = name
        · subst hname
          rw [beq_self_eq_true, Bool.true_and]
          cases hnull : (row.cell c.name).isNull with
          | false => simp
          | true =>
              rw [hnull, Bool.and_true, Bool.not_eq_true] at hstamped
              rw [hstamped, Bool.false_or]
        · simp [hname]

-- ============================================================= all at once

/-- What an insert has stored for `input`, as the n-th row, beside the
rows that were known. -/
structure StoredFrom (t : Table) (supply : Supply) (n : Nat) (known : List Row)
    (input row : Row) : Prop where
  /-- A column holds the value that was given for it, -/
  given : ∀ c ∈ t.columns, input.cell c.name ≠ .null →
    row.get? c.name = some (input.cell c.name)
  /-- or a time of its own, -/
  stamped : ∀ c ∈ t.columns, c.name ≠ t.primaryKey → input.cell c.name = .null →
    c.hasDefault = true → c.isTimestamp = true →
      row.get? c.name = some (.string (supply.time n c.name))
  /-- or null. -/
  empty : ∀ c ∈ t.columns, c.name ≠ t.primaryKey → input.cell c.name = .null →
    ¬ (c.hasDefault = true ∧ c.isTimestamp = true) → row.get? c.name = some .null
  /-- The key is generated if none was given, or if it is no column. -/
  generated : (t.primaryKey ∈ t.columns.map (·.name) → input.cell t.primaryKey = .null) →
    ∃ v, row.get? t.primaryKey = some v ∧ t.GeneratedKey (supply.key n) known v
  keyed : row.cell t.primaryKey ≠ .null
  /-- What else was given is dropped. -/
  dropped : ∀ name, name ∉ t.columns.map (·.name) → name ≠ t.primaryKey →
    row.get? name = none

/-- A column is given a time if it is a timestamp with a default. -/
theorem stamps_iff (ht : (t.columns.map (·.name)).Nodup) {c : Column} (hc : c ∈ t.columns) :
    t.stamps c.name = true ↔ c.hasDefault = true ∧ c.isTimestamp = true := by
  simp only [stamps, List.any_eq_true, Bool.and_eq_true, beq_iff_eq]
  constructor
  · intro ⟨d, hd, hname, hkind⟩
    rw [← List.inj_on_of_nodup_map ht hd hc hname]
    exact hkind
  · exact fun hkind => ⟨c, hc, rfl, hkind⟩

/-- What is no column is given none. -/
theorem stamps_eq_false {name : String} (h : name ∉ t.columns.map (·.name)) :
    t.stamps name = false := by
  rw [stamps, List.any_eq_false]
  intro c hc hstamps
  have hname : c.name = name := beq_iff_eq.1 (Bool.and_eq_true_iff.1 hstamps).1
  exact h (List.mem_map.2 ⟨c, hc, hname⟩)

/-- A row that is built holds what its input gives, and what is generated
for the rest. -/
theorem storedFrom_newRow (ht : (t.columns.map (·.name)).Nodup)
    (h : t.newRow supply n known input = .ok row) : t.StoredFrom supply n known input row := by
  obtain ⟨keyed, hkeyed, rfl, -⟩ := newRow_eq_ok_iff.1 h
  have hpresent : keyed.cell t.primaryKey ≠ .null := ne_null_of_withKey hkeyed
  -- The key column is left alone by the time.
  have hkey : (t.withTimes (supply.time n) keyed).get? t.primaryKey = keyed.get? t.primaryKey := by
    rw [get?_withTimes, isNull_eq_false_iff.2 hpresent, Bool.and_false, if_neg Bool.false_ne_true]
  have hcolumn : ∀ c ∈ t.columns, c.name ≠ t.primaryKey →
      keyed.get? c.name = some (input.cell c.name) := by
    intro c hc hname
    rw [get?_withKey_of_ne hkeyed hname, get?_project_of_distinct ht,
      if_pos (List.mem_map_of_mem hc)]
  have hcell : ∀ c ∈ t.columns, c.name ≠ t.primaryKey →
      keyed.cell c.name = input.cell c.name := by
    intro c hc hname
    rw [Row.cell, hcolumn c hc hname, Option.getD_some]
  have hproject : (t.project input).cell t.primaryKey
      = if t.primaryKey ∈ t.columns.map (·.name) then input.cell t.primaryKey else .null := by
    rw [Row.cell, get?_project_of_distinct ht]
    split <;> rfl
  constructor
  case given =>
    intro c hc hgiven
    by_cases hname : c.name = t.primaryKey
    · rw [hname] at hgiven ⊢
      have hmem : t.primaryKey ∈ t.columns.map (·.name) := hname ▸ List.mem_map_of_mem hc
      rcases withKey_cases hkeyed with ⟨-, rfl⟩ | ⟨hnull, -⟩
      · rw [hkey, get?_project_of_distinct ht, if_pos hmem]
      · rw [hproject, if_pos hmem] at hnull
        exact absurd hnull hgiven
    · rw [get?_withTimes, hcell c hc hname, isNull_eq_false_iff.2 hgiven, Bool.and_false,
        if_neg Bool.false_ne_true, hcolumn c hc hname]
  case stamped =>
    intro c hc hname hnull hdefault htimestamp
    rw [get?_withTimes, (stamps_iff ht hc).2 ⟨hdefault, htimestamp⟩, hcell c hc hname, hnull]
    rfl
  case empty =>
    intro c hc hname hnull hkind
    rw [get?_withTimes, Bool.eq_false_iff.2 fun h => hkind ((stamps_iff ht hc).1 h),
      Bool.false_and, if_neg Bool.false_ne_true, hcolumn c hc hname, hnull]
  case generated =>
    intro hmissing
    rcases withKey_cases hkeyed with ⟨hpresent, -⟩ | ⟨-, v, hgenerated, rfl⟩
    · have hnull : (t.project input).cell t.primaryKey = .null := by
        rw [hproject]
        split
        · next hmem => exact hmissing hmem
        · rfl
      exact absurd hnull hpresent
    · refine ⟨v, ?_, hgenerated⟩
      rw [hkey, Row.get?_set, if_pos rfl]
  case keyed =>
    rw [Row.cell, hkey]
    exact hpresent
  case dropped =>
    intro name hname hother
    rw [get?_withTimes, stamps_eq_false hname, Bool.false_and, if_neg Bool.false_ne_true,
      get?_withKey_of_ne hkeyed hother, get?_project_of_distinct ht, if_neg hname]

-- ================================================================ a batch

/-- The rows of a batch are built in their order, each beside the rows
stored before and the rows in front of it. -/
theorem newRow_of_newRows (h : t.newRows supply n known inputs = .ok new) :
    new.length = inputs.length
      ∧ ∀ i input row, inputs[i]? = some input → new[i]? = some row →
        t.newRow supply (n + i) (known ++ new.take i) input = .ok row := by
  induction inputs generalizing n known new with
  | nil =>
      obtain rfl : [] = new := Except.ok.inj h
      exact ⟨rfl, fun i input row hinput => by simp at hinput⟩
  | cons first inputs ih =>
      obtain ⟨head, rest, hhead, hrest, rfl⟩ := newRows_cons_eq_ok h
      obtain ⟨hlength, hrows⟩ := ih hrest
      refine ⟨congrArg Nat.succ hlength, fun i input row hinput hrow => ?_⟩
      cases i with
      | zero =>
          obtain rfl := Option.some.inj hinput
          obtain rfl := Option.some.inj hrow
          rw [List.take_zero, List.append_nil]
          exact hhead
      | succ i =>
          have hnext := hrows i input row hinput hrow
          rw [List.append_assoc, List.singleton_append] at hnext
          rw [List.take_succ_cons, ← Nat.add_assoc, Nat.add_right_comm]
          exact hnext

end Table

namespace Store

/-- An insert that succeeds puts the rows that it returns behind those of
the table, one for each row that it was given and in their order. Each
holds what was given for the columns of the table, a generated key or a
time where nothing was given, and otherwise null. -/
theorem inserted_rows_hold_what_was_given (supply : Supply) (s : Store) {t : Table}
    (ht : (t.columns.map (·.name)).Nodup) (inputs : List Row) {returned : List Row}
    (h : (s.execute supply (.insert t inputs)).1 = .ok returned) :
    (s.execute supply (.insert t inputs)).2.rows t = s.rows t ++ returned
      ∧ returned.length = inputs.length
      ∧ ∀ i input row, inputs[i]? = some input → returned[i]? = some row →
        t.StoredFrom supply (s.inserted + i) (s.rows t ++ returned.take i) input row := by
  obtain ⟨hnew, hrows⟩ := execute_insert h
  obtain ⟨hlength, hbuilt⟩ := Table.newRow_of_newRows hnew
  refine ⟨hrows, hlength, fun i input row hinput hrow => ?_⟩
  exact Table.storedFrom_newRow ht (hbuilt i input row hinput hrow)

/-- A table of readings, whose key is a timestamp with a default. -/
def readings : Table :=
  ⟨none, "readings", "taken",
    [⟨"taken", "timestamptz", true⟩, ⟨"value", "float8", false⟩, ⟨"noted", "timestamp", true⟩]⟩

/-- A reading without a key is given one, and not the time; what is no
column is dropped. Behind it comes one with a key and a time of its own,
and without a value. -/
theorem readings_hold_what_was_given :
    let supply : Supply :=
      { Supply.constant with time := fun _ column => "time of " ++ column }
    let s := Store.empty.seed readings [.object [("taken", .string "dawn")]]
    let bare := ((Row.empty.set "value" (.int 1)).set "noted" .null).set "unit" (.string "C")
    let dated := (Row.empty.set "taken" (.string "noon")).set "noted" (.string "late")
    let first :=
      ((Row.empty.set "taken" (.string "key")).set "value" (.int 1)).set "noted"
        (.string "time of noted")
    let second :=
      ((Row.empty.set "taken" (.string "noon")).set "value" .null).set "noted" (.string "late")
    let inserted := s.execute supply (.insert readings [bare, dated])
    (readings.columns.map (·.name)).Nodup ∧ inserted.1 = .ok [first, second]
      ∧ inserted.2.rows readings = s.rows readings ++ [first, second]
      ∧ readings.StoredFrom supply 0 (s.rows readings) bare first
      ∧ readings.StoredFrom supply 1 (s.rows readings ++ [first]) dated second := by
  intro supply s bare dated first second inserted
  have hdistinct : (readings.columns.map (·.name)).Nodup := by decide
  have hok : inserted.1 = .ok [first, second] := rfl
  obtain ⟨hrows, -, hstored⟩ :=
    inserted_rows_hold_what_was_given supply s hdistinct [bare, dated] hok
  exact ⟨hdistinct, hok, hrows, hstored 0 bare first rfl rfl, hstored 1 dated second rfl rfl⟩

end Store

end TableApi
