/-
Primary keys that tell rows apart.

A table holds no two rows with the same key and none without one, as long
as it is left to its statements. An insert is the only statement that
brings keys: each of its rows is given one if it has none, and is let in
only if no row has that key, neither among those stored nor among those
that the insert has built before it; so the rows that are known at any
moment, stored or not yet, are told apart by their keys. An update passes
over the key column, whatever its values name, and a deletion leaves a
part of the rows. What fails leaves all of them.

Keys are the same here if they are equal as JSON values, numbers by their
form and value; that a search may take two such keys for one is another
matter (`Key.Confused`).
-/
import TableApi.Proofs.Store.Call
import TableApi.Proofs.Store.Insert
import TableApi.Proofs.Store.Update

namespace TableApi

open Json

-- ============================================================== same keys

namespace Json

theorem Number.same_comm (m n : Number) : m.same n = n.same m := by
  cases m with
  | int i =>
      cases n with
      | int j => exact Bool.beq_comm
      | float y => rfl
  | float x =>
      cases n with
      | int j => rfl
      | float y =>
          simp only [Number.same, Double.same, Double.compare?, Bool.or_comm]
          split
          · rfl
          · rw [Bool.eq_iff_iff]
            simp only [beq_iff_eq, Option.some.injEq, Std.compare_eq_iff_eq]
            exact eq_comm

namespace Value

mutual

/-- Being the same value is mutual. -/
theorem same_comm : ∀ v w : Value, v.same w = w.same v
  | null, w => by cases w <;> rfl
  | bool a, w => by
      cases w with
      | bool b => exact Bool.beq_comm
      | _ => rfl
  | number m, w => by
      cases w with
      | number n => exact Number.same_comm m n
      | _ => rfl
  | string s, w => by
      cases w with
      | string t => exact Bool.beq_comm
      | _ => rfl
  | array vs, w => by
      cases w with
      | array ws => exact sameItems_comm vs ws
      | _ => rfl
  | object fs, w => by
      cases w with
      | object gs => exact sameFields_comm fs gs
      | _ => rfl

theorem sameItems_comm : ∀ vs ws : List Value, sameItems vs ws = sameItems ws vs
  | [], ws => by cases ws <;> rfl
  | v :: vs, [] => rfl
  | v :: vs, w :: ws => by rw [sameItems, sameItems, same_comm v w, sameItems_comm vs ws]

theorem sameFields_comm : ∀ fs gs : List (String × Value), sameFields fs gs = sameFields gs fs
  | [], gs => by cases gs <;> rfl
  | (k, v) :: fs, [] => rfl
  | (k, v) :: fs, (l, w) :: gs => by
      rw [sameFields, sameFields, same_comm v w, sameFields_comm fs gs, Bool.beq_comm]

end

end Value

end Json

-- ========================================================= keys of new rows

namespace Table

variable {t : Table} {supply : Supply} {n : Nat} {known inputs new : List Row} {row : Row}

/-- The primary key tells the rows apart: every row has one, and no two
rows have the same. -/
structure Identifies (t : Table) (rows : List Row) : Prop where
  present : ∀ row ∈ rows, row.cell t.primaryKey ≠ .null
  distinct : ∀ i j (hi : i < rows.length) (hj : j < rows.length), i ≠ j →
    (rows[i].cell t.primaryKey).same (rows[j].cell t.primaryKey) = false

/-- The two rows have different keys. -/
def Differ (t : Table) (a b : Row) : Prop :=
  (a.cell t.primaryKey).same (b.cell t.primaryKey) = false

theorem Differ.symm {a b : Row} (h : t.Differ a b) : t.Differ b a := by
  rw [Differ, Value.same_comm]
  exact h

/-- To tell rows apart it is enough to compare every row with those after
it. -/
theorem identifies_iff {rows : List Row} :
    t.Identifies rows
      ↔ (∀ row ∈ rows, row.cell t.primaryKey ≠ .null) ∧ rows.Pairwise t.Differ := by
  rw [List.pairwise_iff_getElem]
  constructor
  · intro h
    exact ⟨h.present, fun i j hi hj hij => h.distinct i j hi hj (by omega)⟩
  · rintro ⟨hpresent, hpairs⟩
    refine ⟨hpresent, fun i j hi hj hne => ?_⟩
    rcases Nat.lt_or_gt_of_ne hne with hij | hij
    · exact hpairs i j hi hj hij
    · exact (hpairs j i hj hi hij).symm

theorem identifies_nil : t.Identifies [] :=
  identifies_iff.2 ⟨List.forall_mem_nil _, .nil⟩

/-- A part of the rows is told apart too. -/
theorem Identifies.filter {rows : List Row} (h : t.Identifies rows) (p : Row → Bool) :
    t.Identifies (rows.filter p) := by
  obtain ⟨hpresent, hpairs⟩ := identifies_iff.1 h
  exact identifies_iff.2
    ⟨fun row hrow => hpresent row (List.mem_of_mem_filter hrow), hpairs.filter p⟩

/-- Rows that keep their keys stay told apart. -/
theorem Identifies.map {rows : List Row} (h : t.Identifies rows) {f : Row → Row}
    (hf : ∀ row, (f row).cell t.primaryKey = row.cell t.primaryKey) :
    t.Identifies (rows.map f) := by
  obtain ⟨hpresent, hpairs⟩ := identifies_iff.1 h
  refine identifies_iff.2 ⟨fun row hrow => ?_, List.pairwise_map.2 (hpairs.imp ?_)⟩
  · obtain ⟨old, hold, rfl⟩ := List.mem_map.1 hrow
    rw [hf]
    exact hpresent old hold
  · intro a b hab
    rw [Differ, hf, hf]
    exact hab

/-- A row with another key than all the others may join them. -/
theorem Identifies.concat {rows : List Row} (h : t.Identifies rows)
    (hkey : row.cell t.primaryKey ≠ .null) (hnew : t.holdsKeyOf rows row = false) :
    t.Identifies (rows ++ [row]) := by
  obtain ⟨hpresent, hpairs⟩ := identifies_iff.1 h
  refine identifies_iff.2 ⟨fun other hother => ?_, ?_⟩
  · rcases List.mem_append.1 hother with hother | hother
    · exact hpresent other hother
    · rw [List.mem_singleton.1 hother]
      exact hkey
  · refine List.pairwise_append.2 ⟨hpairs, List.pairwise_singleton _ _, fun other hother b hb => ?_⟩
    rw [List.mem_singleton.1 hb]
    exact not_same_of_holdsKeyOf hnew hother rfl (hpresent other hother)

/-- A key that is generated is not null. -/
theorem ne_null_of_nextKey {generated : String} {v : Value}
    (h : t.nextKey generated known = .ok v) : v ≠ .null := by
  unfold nextKey at h
  split at h
  · simp only at h
    split at h
    · obtain rfl := Except.ok.inj h
      exact fun h => nomatch h
    · cases h
  · obtain rfl := Except.ok.inj h
    exact fun h => nomatch h

/-- A cell that is set is the one that is shown. -/
theorem cell_set_self (row : Row) (column : String) (v : Value) :
    (row.set column v).cell column = v := by
  rw [Row.cell, Row.get?_set, if_pos rfl, Option.getD_some]

/-- A row that brings no key is given one. -/
theorem ne_null_of_withKey {generated : String} {keyed : Row}
    (h : t.withKey generated known row = .ok keyed) : keyed.cell t.primaryKey ≠ .null := by
  unfold withKey at h
  split at h
  · cases hkey : t.nextKey generated known with
    | error e => rw [hkey] at h; cases h
    | ok v =>
        rw [hkey] at h
        obtain rfl : row.set t.primaryKey v = keyed := Except.ok.inj h
        rw [cell_set_self]
        exact ne_null_of_nextKey hkey
  · next hcell =>
    obtain rfl : row = keyed := Except.ok.inj h
    intro hnull
    rw [hnull] at hcell
    exact hcell rfl

/-- Filling in times leaves a key a key. -/
theorem ne_null_withTimes {time : String → String} (h : row.cell t.primaryKey ≠ .null) :
    (t.withTimes time row).cell t.primaryKey ≠ .null := by
  unfold withTimes
  refine List.foldlRecOn (motive := fun row : Row => row.cell t.primaryKey ≠ .null)
    t.columns _ h fun row hrow c _ => ?_
  split
  · rw [Row.cell, Row.get?_set]
    split
    · intro h
      cases h
    · exact hrow
  · exact hrow

/-- A new row has a key. -/
theorem ne_null_of_newRow {input : Row} (h : t.newRow supply n known input = .ok row) :
    row.cell t.primaryKey ≠ .null := by
  obtain ⟨keyed, hkeyed, rfl, -⟩ := newRow_eq_ok_iff.1 h
  exact ne_null_withTimes (ne_null_of_withKey hkeyed)

/-- The rows of an insert are told apart from those stored and from one
another. -/
theorem Identifies.newRows (h : t.Identifies known)
    (hnew : t.newRows supply n known inputs = .ok new) : t.Identifies (known ++ new) := by
  induction inputs generalizing n known new with
  | nil =>
      obtain rfl : [] = new := Except.ok.inj hnew
      rw [List.append_nil]
      exact h
  | cons input inputs ih =>
      obtain ⟨row, rest, hrow, hrest, rfl⟩ := newRows_cons_eq_ok hnew
      have hrow' := h.concat (ne_null_of_newRow hrow) (holdsKeyOf_newRow hrow)
      have hrest' := ih hrow' hrest
      rw [List.append_assoc, List.singleton_append] at hrest'
      exact hrest'

end Table

-- ============================================================= over a run

namespace Store

variable {supply : Supply} {s : Store} {t : Table}

/-- A statement on the table keeps its rows told apart. -/
theorem identifies_perform {statement : Statement} (h : t.Identifies (s.rows t))
    (htable : statement.table = t) : t.Identifies ((s.perform supply statement).2.rows t) := by
  subst htable
  cases statement with
  | select u selection => exact h
  | count u condition => exact h
  | insert u inputs =>
      simp only [perform]
      split
      · exact h
      · next new hnew =>
        show u.Identifies ((s.appended u new).rows u)
        rw [rows_appended_self]
        exact h.newRows hnew
  | update u condition values =>
      simp only [perform, Statement.table, rows_setRows_self]
      refine h.map fun row => ?_
      split
      · exact Table.cell_overwrite_key
      · rfl
  | delete u condition =>
      simp only [perform, Statement.table, rows_setRows_self]
      exact h.filter _

/-- A statement on a table of another name changes nothing here. -/
theorem rows_perform_of_ne {statement : Statement} (hname : statement.table.fullName ≠ t.fullName) :
    (s.perform supply statement).2.rows t = s.rows t := by
  have hother : ∀ rows, (s.setRows statement.table rows).rows t = s.rows t := by
    intro rows
    rw [rows_setRows, if_neg (Ne.symm hname)]
  cases statement with
  | select u selection => rfl
  | count u condition => rfl
  | insert u inputs =>
      simp only [perform]
      split
      · rfl
      · exact hother _
  | update u condition values => exact hother _
  | delete u condition => exact hother _

/-- The call leaves the rows of the table to statements: those that go to
the table know it as it is, with its columns and its key, and rows are
seeded elsewhere. -/
def Call.Respects (t : Table) : Call → Prop
  | .seed u _ => u.fullName ≠ t.fullName
  | .failNext _ => True
  | .query statement => statement.table.fullName = t.fullName → statement.table = t

/-- A call that respects the keys of a table leaves them telling its rows
apart. -/
theorem identifies_call {call : Call} (h : t.Identifies (s.rows t)) (hcall : call.Respects t) :
    t.Identifies ((s.call supply call).rows t) := by
  cases call with
  | seed u values =>
      rw [Store.call, rows_seed, if_neg (Ne.symm hcall)]
      exact h
  | failNext message => exact h
  | query statement =>
      rw [Store.call]
      cases hfailure : s.failure with
      | some message => rw [Repository.execute_of_failure hfailure]; exact h
      | none =>
          rw [Repository.execute_of_ready hfailure]
          by_cases hname : statement.table.fullName = t.fullName
          · exact identifies_perform h (hcall hname)
          · rw [rows_perform_of_ne hname]
            exact h

/-- Starting from rows that are told apart by their keys, as no rows are
and any seeded rows with different keys, every run of statements keeps
them so: on success and on error, with keys given, null or missing, and
with failures in between. -/
theorem keys_tell_rows_apart (supply : Supply) (t : Table) (s : Store) (calls : List Call)
    (hs : t.Identifies (s.rows t)) (hcalls : ∀ call ∈ calls, call.Respects t) :
    t.Identifies ((s.run supply calls).rows t) := by
  induction calls generalizing s with
  | nil => exact hs
  | cons call calls ih =>
      refine ih _ (identifies_call hs (hcalls call List.mem_cons_self)) fun other hother => ?_
      exact hcalls other (List.mem_cons_of_mem _ hother)

/-- A table of members with integer keys. -/
def members : Table :=
  ⟨none, "members", "id", [⟨"id", "int8", true⟩, ⟨"name", "text", false⟩]⟩

/-- Keys given, null and missing in one insert, a deletion that is
refused, an insert that fails at its second row, and an update that names
the key. -/
def mixedCalls : List Call :=
  [.query (.insert members [Row.empty.set "id" (.int 9), Row.empty.set "id" .null, .empty]),
    .failNext "down",
    .query (.delete members .always),
    .query (.insert members [.empty, Row.empty.set "id" (.int 7)]),
    .query (.update members .always (Row.empty.set "id" (.int 1)))]

theorem keys_tell_rows_apart_after_mixed_calls :
    let supply := Supply.constant
    let s := Store.empty.seed members [.object [("id", .int 7)]]
    members.Identifies (s.rows members)
      ∧ (∀ call ∈ mixedCalls, call.Respects members)
      ∧ members.Identifies ((s.run supply mixedCalls).rows members)
      ∧ ((s.run supply mixedCalls).rows members).filterMap members.integerKey?
        = [7, 9, 10, 11] := by
  intro supply s
  have hs : members.Identifies (s.rows members) := by
    have hrows : s.rows members = [] ++ [Row.empty.set "id" (.int 7)] := rfl
    rw [hrows]
    exact Table.identifies_nil.concat (fun h => nomatch h) rfl
  have hcalls : ∀ call ∈ mixedCalls, call.Respects members := by
    simp [mixedCalls, Call.Respects, Statement.table]
  exact ⟨hs, hcalls, keys_tell_rows_apart supply members s mixedCalls hs hcalls, by decide +kernel⟩

end Store

end TableApi
