/-
Operations by key on a table with integer keys.

An operation by an integer key is exact as long as the store holds no key
that is confused with it, and not otherwise: of two confused keys the one
finds, changes and deletes the row of the other. A deletion by several
keys is exact if every row that one of them is confused with has one of
them itself.
-/
import Mathlib.Data.List.Find
import Mathlib.Data.List.Forall2
import Mathlib.Data.List.Nodup
import TableApi.Proofs.Key
import TableApi.Proofs.Repository.Run

namespace TableApi

open Json

-- ============================================================== the keys

/-- Every row of the table has an integer key, and no two the same. -/
structure Store.HoldsIntegerKeys (s : Store) (t : Table) : Prop where
  integer : ∀ row ∈ s.rows t, (t.integerKey? row).isSome
  distinct : ((s.rows t).filterMap t.integerKey?).Nodup

-- ========================================================== operations

namespace Repository

/-- The row has the integer key. -/
def hasInteger (t : Table) (n : Int) (row : Row) : Bool := t.integerKey? row == some n

/-- The row has one of the keys. -/
def hasKeyIn (t : Table) (keys : List Key) (row : Row) : Bool :=
  (t.integerKey? row).any fun k => keys.contains (.int k)

/-- The operations by an integer key find, report, change and delete the
row that has the key, and touch no other. -/
structure ExactAt (supply : Supply) (r : Resource) (s : Store) (n : Int) : Prop where
  find : (runOn supply s (findById r (.int n))).1
    = found r ((s.rows r.table).find? (hasInteger r.table n))
  checkExists : (runOn supply s (checkExistsById r (.int n))).1
    = .ok ((s.rows r.table).any (hasInteger r.table n))
  update : ∀ patch, List.Forall₂
    (fun row row' => hasInteger r.table n row = false → row' = row)
    (s.rows r.table) ((runOn supply s (update r (.int n) patch)).2.rows r.table)
  delete : (runOn supply s (delete r (.int n))).2.rows r.table
    = (s.rows r.table).filter fun row => !hasInteger r.table n row

/-- A deletion by several keys deletes the rows that have one of them. -/
def DeletesExactly (supply : Supply) (r : Resource) (s : Store) (keys : List Key) : Prop :=
  (runOn supply s (deleteMany r keys)).2.rows r.table
    = (s.rows r.table).filter fun row => !hasKeyIn r.table keys row

/-- No key in the store is confused with the key. -/
def Unconfused (r : Resource) (s : Store) (key : Key) : Prop :=
  ∀ row ∈ s.rows r.table, ∀ k, r.table.integerKey? row = some k → ¬ key.Confused k

variable {supply : Supply} {r : Resource} {s : Store}

/-- In a store without a confused key, the condition on the key keeps
the row that has it. -/
theorem keeps_eq_hasInteger (hs : s.HoldsIntegerKeys r.table) {n : Int}
    (hn : Unconfused r s (.int n)) {row : Row} (hrow : row ∈ s.rows r.table) :
    (r.hasKey (.int n)).keeps row = hasInteger r.table n row := by
  obtain ⟨k, hk⟩ := Option.isSome_iff_exists.1 (hs.integer row hrow)
  rw [Bool.eq_iff_iff, Resource.keeps_hasKey_of_integer hk, hasInteger, hk, beq_iff_eq,
    Option.some.injEq, Key.int.injEq]
  constructor
  · rintro (h | h)
    · exact h.symm
    · exact absurd h (hn row hrow k hk)
  · exact fun h => .inl h.symm

/-- Rows with distinct integer keys are counted at most once under one
key. -/
theorem countP_hasInteger_le_one (hs : s.HoldsIntegerKeys r.table) (n : Int) :
    (s.rows r.table).countP (hasInteger r.table n) ≤ 1 := by
  have hcount : (s.rows r.table).countP (hasInteger r.table n)
      = ((s.rows r.table).filterMap r.table.integerKey?).count n := by
    rw [List.count_filterMap]
    rfl
  rw [hcount]
  exact List.nodup_iff_count_le_one.1 hs.distinct n

/-- Without a confused key in the store, every operation by the key is
exact. -/
theorem exactAt_of_unconfused (supply : Supply) (hready : s.failure = none)
    (hs : s.HoldsIntegerKeys r.table) {n : Int} (hn : Unconfused r s (.int n)) :
    ExactAt supply r s n := by
  have hkeeps : ∀ row ∈ s.rows r.table,
      (r.hasKey (.int n)).keeps row = hasInteger r.table n row :=
    fun row hrow => keeps_eq_hasInteger hs hn hrow
  have hcount : (s.rows r.table).countP (r.hasKey (.int n)).keeps
      = (s.rows r.table).countP (hasInteger r.table n) :=
    List.countP_congr fun row hrow => by rw [hkeeps row hrow]
  refine ⟨?_, ?_, fun patch => ?_, ?_⟩
  · rw [runOn_findById hready, List.find?_congr hkeeps]
  · have hany : (s.rows r.table).any (r.hasKey (.int n)).keeps
        = (s.rows r.table).any (hasInteger r.table n) := by
      rw [Bool.eq_iff_iff, List.any_eq_true, List.any_eq_true]
      exact exists_congr fun row =>
        and_congr_right fun hrow => by rw [hkeeps row hrow]
    have hone := countP_hasInteger_le_one hs n
    have hmax : 1 ≤ nat64Max := by decide
    rw [runOn_checkExistsById hready _ (by omega), hany]
  · rw [runOn_update hready]
    cases Row.ofValue? patch with
    | none => exact List.forall₂_same.2 fun _ _ _ => rfl
    | some values =>
        simp only
        rw [List.forall₂_map_right_iff, List.forall₂_same]
        intro row hrow hother
        rw [hkeeps row hrow, hother]
        rfl
  · rw [runOn_delete hready]
    exact List.filter_congr fun row hrow => by rw [hkeeps row hrow]

/-- A deletion is not exact if the store holds a confused key: the row
that has it is deleted too. -/
theorem unconfused_of_exactAt {supply : Supply} (hready : s.failure = none) {n : Int}
    (h : ExactAt supply r s n) : Unconfused r s (.int n) := by
  intro row hrow k hk hconfused
  have hkeeps : (r.hasKey (.int n)).keeps row = true :=
    (Resource.keeps_hasKey_of_integer hk _).2 (.inr hconfused)
  have hother : hasInteger r.table n row = false := by
    simp only [hasInteger, hk, beq_eq_false_iff_ne, ne_eq, Option.some.injEq]
    exact hconfused.1
  have hleft : row ∈ (s.rows r.table).filter fun row => !hasInteger r.table n row :=
    List.mem_filter.2 ⟨hrow, by rw [hother]; rfl⟩
  rw [← h.delete, runOn_delete hready] at hleft
  have hgone := (List.mem_filter.1 hleft).2
  rw [hkeeps] at hgone
  cases hgone

/-- Several keys are deleted exactly if every row that is confused with
one of them has one of them. -/
theorem deletesExactly_iff (supply : Supply) (hready : s.failure = none)
    (hs : s.HoldsIntegerKeys r.table) (keys : List Key) :
    DeletesExactly supply r s keys
      ↔ ∀ row ∈ s.rows r.table, ∀ k, r.table.integerKey? row = some k →
          .int k ∉ keys → ∀ key ∈ keys, ¬ key.Confused k := by
  have hkeep : ∀ (row : Row) (k : Int), r.table.integerKey? row = some k →
      (hasKeyIn r.table keys row = true ↔ Key.int k ∈ keys) := by
    intro row k hk
    simp [hasKeyIn, hk]
  rw [DeletesExactly, runOn_deleteMany hready]
  constructor
  · intro h row hrow k hk hnot key hkey hconfused
    have hin := (Resource.keeps_inList_of_integer hk keys).2 ⟨key, hkey, .inr hconfused⟩
    have hleft : row ∈ (s.rows r.table).filter fun row => !hasKeyIn r.table keys row := by
      refine List.mem_filter.2 ⟨hrow, ?_⟩
      rw [Bool.not_eq_true', ← Bool.not_eq_true, hkeep row k hk]
      exact hnot
    rw [← h] at hleft
    have hgone := (List.mem_filter.1 hleft).2
    rw [hin] at hgone
    cases hgone
  · intro h
    refine List.filter_congr fun row hrow => ?_
    obtain ⟨k, hk⟩ := Option.isSome_iff_exists.1 (hs.integer row hrow)
    congr 1
    rw [Bool.eq_iff_iff, Resource.keeps_inList_of_integer hk, hkeep row k hk]
    constructor
    · rintro ⟨key, hkey, rfl | hconfused⟩
      · exact hkey
      · by_contra hnot
        exact h row hrow k hk hnot key hkey hconfused
    · exact fun hmem => ⟨_, hmem, .inl rfl⟩

/-- By-key operations are exact where no stored key is confused with a
key of theirs, and only there; integer keys of at most 53 bits are never
confused. -/
theorem by_key_exact_iff_unconfused (supply : Supply) (r : Resource) (s : Store)
    (hready : s.failure = none) (hs : s.HoldsIntegerKeys r.table) :
    (∀ n : Int, ExactAt supply r s n
        ↔ ∀ row ∈ s.rows r.table, ∀ k, r.table.integerKey? row = some k → k ≠ n →
            Double.ofInt k ≠ Double.ofInt n)
      ∧ (∀ keys : List Key, DeletesExactly supply r s keys
        ↔ ∀ row ∈ s.rows r.table, ∀ k, r.table.integerKey? row = some k →
            .int k ∉ keys → ∀ key ∈ keys, ¬ key.Confused k)
      ∧ (∀ n : Int, n.natAbs < 2 ^ 53 → ExactAt supply r s n)
      ∧ ∀ ns : List Int, (∀ n ∈ ns, n.natAbs < 2 ^ 53) →
          DeletesExactly supply r s (ns.map .int) := by
  refine ⟨fun n => ?_, deletesExactly_iff supply hready hs, fun n hn => ?_, fun ns hns => ?_⟩
  · constructor
    · intro h row hrow k hk hne heq
      exact unconfused_of_exactAt hready h row hrow k hk ⟨hne, heq⟩
    · intro h
      exact exactAt_of_unconfused supply hready hs
        fun row hrow k hk hconfused => h row hrow k hk hconfused.1 hconfused.2
  · exact exactAt_of_unconfused supply hready hs
      fun _ _ _ _ => Key.not_confused_of_lt hn
  · refine (deletesExactly_iff supply hready hs _).2 fun row _ k _ _ key hkey => ?_
    obtain ⟨n, hn, rfl⟩ := List.mem_map.1 hkey
    exact Key.not_confused_of_lt (hns n hn)

-- =========================================================== a long key

/-- A table with nothing but an integer key. -/
def counters : Resource :=
  ⟨⟨none, "counters", "id", [⟨"id", "int8", false⟩]⟩, .any, .any, .any⟩

/-- A store with one counter, whose key has 54 bits. -/
def longKeyStore : Store :=
  Store.empty.setRows counters.table [Row.empty.set "id" (.int 9007199254740992)]

theorem longKeyStore_holds : longKeyStore.HoldsIntegerKeys counters.table := by
  have hrows : longKeyStore.rows counters.table
      = [Row.empty.set "id" (.int 9007199254740992)] := Store.rows_setRows_self _ _ _
  constructor
  · rw [hrows]
    decide
  · rw [hrows]
    decide

/-- Short keys are exact next to a long one. -/
theorem by_key_exact_next_to_long_key :
    longKeyStore.failure = none ∧ longKeyStore.HoldsIntegerKeys counters.table
      ∧ ExactAt Supply.constant counters longKeyStore 7
      ∧ DeletesExactly Supply.constant counters longKeyStore [.int 7, .int (-7)] := by
  have h := by_key_exact_iff_unconfused Supply.constant counters longKeyStore rfl longKeyStore_holds
  exact ⟨rfl, longKeyStore_holds, h.2.2.1 7 (by decide),
    h.2.2.2 [7, -7] (by decide)⟩

/-- The key one above the stored one is found, reported and deleted
although no row has it. -/
theorem by_key_not_exact_at_neighbour :
    longKeyStore.HoldsIntegerKeys counters.table
      ∧ (longKeyStore.rows counters.table).any (hasInteger counters.table 9007199254740993)
        = false
      ∧ (runOn Supply.constant longKeyStore (checkExistsById counters (.int 9007199254740993))).1
        = .ok true
      ∧ (runOn Supply.constant longKeyStore (delete counters (.int 9007199254740993))).2.rows
          counters.table = []
      ∧ ¬ ExactAt Supply.constant counters longKeyStore 9007199254740993 := by
  have hrows : longKeyStore.rows counters.table
      = [Row.empty.set "id" (.int 9007199254740992)] := Store.rows_setRows_self _ _ _
  have hsame : Double.ofInt 9007199254740992 = Double.ofInt 9007199254740993 := by
    decide +kernel
  have hkey : counters.table.integerKey? (Row.empty.set "id" (.int 9007199254740992))
      = some 9007199254740992 := by rfl
  have hkeeps : (counters.hasKey (.int 9007199254740993)).keeps
      (Row.empty.set "id" (.int 9007199254740992)) = true :=
    (Resource.keeps_hasKey_of_integer hkey _).2 (.inr ⟨by decide, hsame⟩)
  refine ⟨longKeyStore_holds, ?_, ?_, ?_, fun hexact => ?_⟩
  · rw [hrows]
    decide
  · rw [runOn_checkExistsById rfl, hrows, List.any_cons, hkeeps]
    · rfl
    · rw [hrows]
      exact Nat.le_trans List.countP_le_length (by decide)
  · rw [runOn_delete rfl, hrows]
    simp [hkeeps]
  · refine unconfused_of_exactAt rfl hexact _ ?_ _ hkey ⟨by decide, hsame⟩
    rw [hrows]
    exact List.mem_singleton_self _

end Repository

end TableApi
