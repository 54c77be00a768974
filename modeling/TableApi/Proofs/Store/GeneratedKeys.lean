/-
The keys that an insert generates in an integer column.

A key is generated one above the largest integer key among the rows that are
known, or above zero if there is none (`LargestKey`). Strings, floats and
integers beyond 64 bits are passed over for this. They are no obstacle
either: what is generated is an integer of 64 bits, and a key that is the same
would be one and not above the largest (`not_same_of_largestKey`). So a row
that brings no key is let in unless the largest key is the largest integer
there is (`newRow_of_keyless`), and the key that it is given is the largest
from then on (`LargestKey.concat`). Over a batch of such rows the keys count
up.
-/
import TableApi.Proofs.Store.NewRow

namespace TableApi

open Json

namespace Table

variable {t : Table} {m k : Int}
variable {known inputs new : List Row} {input row : Row}

-- ========================================================= the largest key

theorem LargestKey.le (h : t.LargestKey known m) (hrow : row ∈ known)
    (hk : t.integerKey? row = some k) : k ≤ m := by
  cases h with
  | absent hnone => rw [hnone row hrow] at hk; cases hk
  | held _ hle => exact hle row hrow k hk

theorem LargestKey.min_le (h : t.LargestKey known m) : int64Min ≤ m := by
  cases h with
  | absent => decide
  | held hexists =>
      obtain ⟨row, -, hk⟩ := hexists
      exact (integerKey?_eq_some_iff.1 hk).2.1

/-- The key that is generated is the largest from then on. -/
theorem LargestKey.concat (h : t.LargestKey known m) (hrow : t.integerKey? row = some (m + 1)) :
    t.LargestKey (known ++ [row]) (m + 1) := by
  refine .held ⟨row, by simp, hrow⟩ fun other hother k hk => ?_
  rcases List.mem_append.1 hother with hother | hother
  · exact Int.le_add_one (h.le hother hk)
  · rw [List.mem_singleton.1 hother, hrow] at hk
    exact (Option.some.inj hk).ge

theorem eq_of_same_int {v : Value} (h : v.same (.int k) = true) : v = .int k := by
  cases v with
  | number number =>
      cases number with
      | int i =>
          obtain rfl : i = k := beq_iff_eq.1 h
          rfl
      | float x => cases h
  | _ => cases h

/-- No known row has the key that is generated: it would have an integer key
above the largest. -/
theorem not_same_of_largestKey (h : t.LargestKey known m) (hroom : m < int64Max) {other : Row}
    (hother : other ∈ known) {v : Value} (hv : other.get? t.primaryKey = some v) :
    v.same (.int (m + 1)) = false := by
  by_contra hsame
  rw [Bool.not_eq_false] at hsame
  obtain rfl := eq_of_same_int hsame
  have hkey : t.integerKey? other = some (m + 1) :=
    integerKey?_eq_some_iff.2 ⟨hv, Int.le_add_one h.min_le, Int.add_one_le_of_lt hroom⟩
  exact absurd (h.le hother hkey) (Int.not_le.2 (Int.lt_succ m))

-- ============================================================= one new row

/-- The row brings no key: it has none, or null, or the key column is given
twice and the row is cut to null there. -/
def Keyless (t : Table) (input : Row) : Prop := (t.project input).cell t.primaryKey = .null

theorem keyless_of_null (h : input.cell t.primaryKey = .null) : t.Keyless input := by
  rw [Keyless, Row.cell, get?_project]
  split
  · rw [h, ite_self, Option.getD_some]
  · rfl

/-- The row that is stored for one without a key. -/
def keyedBy (t : Table) (time : String → String) (k : Int) (input : Row) : Row :=
  t.withTimes time ((t.project input).set t.primaryKey (.int k))

theorem get?_keyedBy (t : Table) (time : String → String) (k : Int) (input : Row) :
    (t.keyedBy time k input).get? t.primaryKey = some (.int k) := by
  have hcell := cell_set_self (t.project input) t.primaryKey (.int k)
  rw [keyedBy, get?_withTimes, hcell, Row.get?_set, if_pos rfl]
  exact if_neg (by simp [Value.int, Value.isNull])

/-- The key that is given to a row is the largest from then on. -/
theorem LargestKey.concat_keyedBy (h : t.LargestKey known m) (hroom : m < int64Max)
    (time : String → String) (input : Row) :
    t.LargestKey (known ++ [t.keyedBy time (m + 1) input]) (m + 1) :=
  h.concat (integerKey?_eq_some_iff.2
    ⟨get?_keyedBy t time (m + 1) input, Int.le_add_one h.min_le, Int.add_one_le_of_lt hroom⟩)

/-- A row without a key is let in, with the next key, unless there is none. -/
theorem newRow_of_keyless (supply : Supply) (n : Nat)
    (hinteger : t.keyColumn?.any Column.isInteger = true)
    (hkeyless : t.Keyless input) (h : t.LargestKey known m) :
    t.newRow supply n known input
      = if m < int64Max then .ok (t.keyedBy (supply.time n) (m + 1) input)
        else .error (.keysExhausted t.name) := by
  have hnull : ((t.project input).cell t.primaryKey).isNull = true := by
    rw [hkeyless]
    rfl
  rw [newRow, withKey, if_pos hnull, nextKey_of_largestKey hinteger h]
  by_cases hroom : m < int64Max
  · have hheld : t.holdsKeyOf known (t.keyedBy (supply.time n) (m + 1) input) = false := by
      rw [holdsKeyOf, List.any_eq_false]
      intro other hother
      rw [Row.cell, get?_keyedBy, Option.getD_some]
      cases hv : other.get? t.primaryKey with
      | none => exact Bool.false_ne_true
      | some v => exact Bool.eq_false_iff.1 (not_same_of_largestKey h hroom hother hv)
    rw [if_pos hroom, if_pos hroom]
    exact if_neg (Bool.eq_false_iff.1 hheld)
  · rw [if_neg hroom, if_neg hroom]
    rfl

-- ================================================================= a batch

/-- Rows without keys are let in as long as there are keys for them, which
count up. -/
theorem newRows_of_keyless (supply : Supply) (n : Nat)
    (hinteger : t.keyColumn?.any Column.isInteger = true)
    (hkeyless : ∀ input ∈ inputs, t.Keyless input) (h : t.LargestKey known m)
    (hroom : m + inputs.length ≤ int64Max) :
    ∃ new, t.newRows supply n known inputs = .ok new
      ∧ new.map (·.get? t.primaryKey)
        = (List.range inputs.length).map fun i => some (.int (m + i + 1)) := by
  induction inputs generalizing n known m with
  | nil => exact ⟨[], rfl, rfl⟩
  | cons input inputs ih =>
      rw [List.length_cons, Int.natCast_add, Int.natCast_one] at hroom
      have hfirst := newRow_of_keyless supply n hinteger (hkeyless input List.mem_cons_self) h
      rw [if_pos (by omega)] at hfirst
      have hkey := get?_keyedBy t (supply.time n) (m + 1) input
      obtain ⟨new, hnew, hkeys⟩ := ih (n + 1)
        (fun other hother => hkeyless other (List.mem_cons_of_mem _ hother))
        (h.concat_keyedBy (by omega) (supply.time n) input) (by omega)
      refine ⟨_, (newRows_cons_of_ok hfirst).trans (congrArg _ hnew), ?_⟩
      rw [List.map_cons, hkey, hkeys, List.length_cons, List.range_succ_eq_map, List.map_cons,
        List.map_map]
      refine congrArg₂ List.cons (by simp) (List.map_congr_left fun i _ => ?_)
      show some (Value.int (m + 1 + i + 1)) = some (.int (m + (i + 1 : Nat) + 1))
      rw [Int.natCast_add, Int.natCast_one, Int.add_assoc m, Int.add_comm 1]

end Table

namespace Store

/-- In a table with integer keys, rows without keys are given the integers
above the largest key, in their order, and the insert succeeds as long as
there are such integers. In every insert that succeeds, also among rows that
bring keys of any kind, a row that brings none is given the integer above
the largest key of the rows stored and of those in front of it; none of these
has that key. -/
theorem generated_keys_count_up (supply : Supply) (s : Store) {t : Table}
    (hinteger : t.keyColumn?.any Column.isInteger = true) :
    (∀ (inputs : List Row) (m : Int), s.failure = none → (∀ input ∈ inputs, t.Keyless input) →
        t.LargestKey (s.rows t) m → m + inputs.length ≤ int64Max →
          ∃ new, (s.execute supply (.insert t inputs)).1 = .ok new
            ∧ (s.execute supply (.insert t inputs)).2.rows t = s.rows t ++ new
            ∧ new.map (·.get? t.primaryKey)
              = (List.range inputs.length).map fun i => some (.int (m + i + 1)))
      ∧ ∀ inputs new, (s.execute supply (.insert t inputs)).1 = .ok new →
          ∀ i input row, inputs[i]? = some input → new[i]? = some row → t.Keyless input →
            ∃ m, t.LargestKey (s.rows t ++ new.take i) m ∧ m + 1 ≤ int64Max
              ∧ row.get? t.primaryKey = some (.int (m + 1))
              ∧ ∀ other ∈ s.rows t ++ new.take i, ∀ v, other.get? t.primaryKey = some v →
                v.same (.int (m + 1)) = false := by
  constructor
  · intro inputs m hready hkeyless hlargest hroom
    obtain ⟨new, hnew, hkeys⟩ :=
      Table.newRows_of_keyless supply s.inserted hinteger hkeyless hlargest hroom
    have hok := execute_insert_eq_ok_iff.2 ⟨hready, hnew⟩
    exact ⟨new, hok, (execute_insert hok).2, hkeys⟩
  · intro inputs new hok i input row hinput hrow hkeyless
    obtain ⟨-, hbuilt⟩ := Table.newRow_of_newRows (execute_insert_eq_ok_iff.1 hok).2
    have hstored := hbuilt i input row hinput hrow
    obtain ⟨m, hlargest⟩ := Table.exists_largestKey t (s.rows t ++ new.take i)
    rw [Table.newRow_of_keyless supply _ hinteger hkeyless hlargest] at hstored
    split at hstored
    · next hroom =>
      obtain rfl := Except.ok.inj hstored
      refine ⟨m, hlargest, Int.add_one_le_of_lt hroom, Table.get?_keyedBy _ _ _ _, ?_⟩
      exact fun other hother v hv => Table.not_same_of_largestKey hlargest hroom hother hv
    · cases hstored

/-- Members with keys of many kinds; the largest that counts is 7. -/
def keysOfManyKinds : List Value :=
  [.int 7, .string "8", .number (.float (.ofInt 8)), .int (-3), .nat nat64Max].map fun key =>
    .object [("id", key)]

/-- Two rows without keys; and two with one between them that brings a key. -/
theorem generated_keys_count_up_among_many_kinds :
    let supply := Supply.constant
    let s := Store.empty.seed members keysOfManyKinds
    let bare : List Row := [.empty, Row.empty.set "id" .null]
    let mixed : List Row := [.empty, Row.empty.set "id" (.int 20), Row.empty.set "id" .null]
    let stored (k : Int) : Row := (Row.empty.set "id" (.int k)).set "name" .null
    members.keyColumn?.any Column.isInteger = true
      ∧ (∀ input ∈ bare, members.Keyless input) ∧ members.LargestKey (s.rows members) 7
      ∧ (∃ new, (s.execute supply (.insert members bare)).1 = .ok new
          ∧ new.map (·.get? "id") = [some (.int 8), some (.int 9)])
      ∧ (s.execute supply (.insert members mixed)).1 = .ok [stored 8, stored 20, stored 21]
      ∧ members.LargestKey (s.rows members ++ [stored 8, stored 20]) 20 := by
  intro supply s bare mixed stored
  have hinteger : members.keyColumn?.any Column.isInteger = true := by decide
  have hnull : members.Keyless (Row.empty.set "id" .null) := Table.keyless_of_null rfl
  have hkeyless : ∀ input ∈ bare, members.Keyless input :=
    List.forall_mem_cons.2 ⟨Table.keyless_of_null rfl, List.forall_mem_singleton.2 hnull⟩
  have hlargest : members.LargestKey (s.rows members) 7 :=
    Table.largestKey_iff.2 (by decide +kernel)
  have hmixed : (s.execute supply (.insert members mixed)).1
      = .ok [stored 8, stored 20, stored 21] := by rfl
  obtain ⟨new, hnew, -, hkeys⟩ :=
    (generated_keys_count_up supply s hinteger).1 bare 7 rfl hkeyless hlargest (by decide)
  obtain ⟨m, hm, -, hkey, -⟩ := (generated_keys_count_up supply s hinteger).2 mixed _ hmixed 2 _ _
    rfl rfl hnull
  have heq : (21 : Int) = m + 1 :=
    Number.int.inj (Value.number.inj (Option.some.inj hkey))
  obtain rfl : m = 20 := by omega
  exact ⟨hinteger, hkeyless, hlargest, ⟨new, hnew, hkeys⟩, hmixed, hm⟩

end Store

end TableApi
