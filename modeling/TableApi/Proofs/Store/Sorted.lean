/-
What a search returns, and in which order.

The rows that meet the condition are numbered as they are stored, and what
a search returns is told by the numbers: each row once, and of two rows
the one in front that the sort columns put in front, or, if they tell
nothing, the one that was stored first (`Arranged`). So sorting is
settled for rows that look alike as well.

# The order of the doubles and the order of the values

The store arranges rows by the doubles of numbers. Two rows whose numbers
have one double are not told apart by them: they stay as they were stored
or are left to the next column, while their values may ask for the
opposite. The rows come in the order of their values exactly if this does
not happen to any two of them (`arranged_iff_agree`), and it happens to none
if no sort column holds different numbers with one double.
-/
import Mathlib.Data.List.Pairwise
import TableApi.Proofs.Store.Insert
import TableApi.Proofs.Store.Pages
import TableApi.Proofs.Store.RowOrder

namespace TableApi

open Json

-- ======================================================= numbered rows

/-- Of two numbered rows the one that comes in front: by the order of the
rows, and by the numbers if that does not tell them apart. -/
def Precedes (order : Row → Row → Ordering) (a b : Row × Nat) : Prop :=
  order a.1 b.1 = .lt ∨ (order a.1 b.1 = .eq ∧ a.2 < b.2)

/-- Numbered rows in the order of rows. -/
def Arranged (order : Row → Row → Ordering) (numbered : List (Row × Nat)) : Prop :=
  numbered.Pairwise (Precedes order)

section Sorting

variable {keys : List SortKey} {rows : List Row} {numbered : List (Row × Nat)} {row : Row}

theorem isLE_of_precedes {order : Row → Row → Ordering} {a b : Row × Nat}
    (h : Precedes order a b) : (order a.1 b.1).isLE = true :=
  Ordering.isLE_iff_eq_lt_or_eq_eq.2 (h.imp_right And.left)

/-- A row that is placed among numbered rows, held last first, keeps them
in order if its number is the highest. -/
theorem exists_place (hkeys : Arranges (rowOrder keys) (· ∈ rows)) (hrow : row ∈ rows) {n : Nat}
    (hrows : ∀ a ∈ numbered, a.1 ∈ rows) (hnumbers : ∀ a ∈ numbered, a.2 < n)
    (hsorted : numbered.Pairwise fun a b => Precedes (rowOrder keys) b a) :
    ∃ placed : List (Row × Nat), placed.map Prod.fst = place keys row (numbered.map Prod.fst)
      ∧ placed.Perm ((row, n) :: numbered)
      ∧ placed.Pairwise fun a b => Precedes (rowOrder keys) b a := by
  induction numbered with
  | nil => exact ⟨[(row, n)], rfl, .refl _, List.pairwise_singleton _ _⟩
  | cons last rest ih =>
      obtain ⟨hlast, hrest⟩ := List.forall_mem_cons.1 hrows
      obtain ⟨hnumber, hbelow⟩ := List.forall_mem_cons.1 hnumbers
      obtain ⟨hbehind, hsorted'⟩ := List.pairwise_cons.1 hsorted
      rw [List.map_cons, place]
      split
      case isTrue hlt =>
        obtain ⟨placed, hmap, hperm, hplaced⟩ := ih hrest hbelow hsorted'
        refine ⟨last :: placed, by rw [List.map_cons, hmap],
          (hperm.cons last).trans (.swap _ _ _), List.pairwise_cons.2 ⟨fun a ha => ?_, hplaced⟩⟩
        rcases List.mem_cons.1 (hperm.mem_iff.1 ha) with rfl | ha
        · exact .inl hlt
        · exact hbehind a ha
      case isFalse hlt =>
        refine ⟨(row, n) :: last :: rest, by rw [List.map_cons, List.map_cons], .refl _,
          List.pairwise_cons.2 ⟨fun a ha => ?_, hsorted⟩⟩
        -- The last row does not come behind the new one, nor does any before it.
        have hle : (rowOrder keys last.1 row).isLE = true := by
          rw [hkeys.swap hrow hlast]
          cases horder : rowOrder keys row last.1 with
          | lt => exact absurd horder hlt
          | eq | gt => rfl
        have hmem := hrows a ha
        have hle' : (rowOrder keys a.1 row).isLE = true := by
          rcases List.mem_cons.1 ha with rfl | ha
          · exact hle
          · exact hkeys.trans hmem hlast hrow (isLE_of_precedes (hbehind a ha)) hle
        exact (Ordering.isLE_iff_eq_lt_or_eq_eq.1 hle').imp_right fun heq => ⟨heq, hnumbers a ha⟩

/-- Placing rows one after the other keeps them in order. -/
theorem exists_foldl_place (hkeys : Arranges (rowOrder keys) (· ∈ rows)) (new : List Row) {n : Nat}
    (hnew : ∀ row ∈ new, row ∈ rows) (hrows : ∀ a ∈ numbered, a.1 ∈ rows)
    (hnumbers : ∀ a ∈ numbered, a.2 < n)
    (hsorted : numbered.Pairwise fun a b => Precedes (rowOrder keys) b a) :
    ∃ placed : List (Row × Nat),
      placed.map Prod.fst
          = new.foldl (fun sorted row => place keys row sorted) (numbered.map Prod.fst)
      ∧ placed.Perm (new.zipIdx n ++ numbered)
      ∧ placed.Pairwise fun a b => Precedes (rowOrder keys) b a := by
  induction new generalizing numbered n with
  | nil => exact ⟨numbered, rfl, .refl _, hsorted⟩
  | cons row new ih =>
      obtain ⟨hrow, hnew⟩ := List.forall_mem_cons.1 hnew
      obtain ⟨placed, hmap, hperm, hplaced⟩ := exists_place hkeys hrow hrows hnumbers hsorted
      have hmem : ∀ a ∈ placed, a = (row, n) ∨ a ∈ numbered := fun a ha =>
        List.mem_cons.1 (hperm.mem_iff.1 ha)
      have hrows' : ∀ a ∈ placed, a.1 ∈ rows := by
        intro a ha
        rcases hmem a ha with rfl | ha
        · exact hrow
        · exact hrows a ha
      have hnumbers' : ∀ a ∈ placed, a.2 < n + 1 := by
        intro a ha
        rcases hmem a ha with rfl | ha
        · exact Nat.lt_succ_self n
        · exact Nat.lt_succ_of_lt (hnumbers a ha)
      obtain ⟨all, hall, hperm', hsorted'⟩ := ih hnew hrows' hnumbers' hplaced
      refine ⟨all, by rw [hall, hmap, List.foldl_cons], ?_, hsorted'⟩
      rw [List.zipIdx_cons, List.cons_append]
      exact (hperm'.trans (hperm.append_left _)).trans List.perm_middle

/-- Sorting rows arranges them, each with its number. -/
theorem exists_sorted (h : OfOneKind keys rows) :
    ∃ numbered : List (Row × Nat), numbered.map Prod.fst = sortRows keys rows
      ∧ numbered.Perm rows.zipIdx ∧ Arranged (rowOrderBy Number.place keys) numbered := by
  have hkeys := arranges_rowOrder h
  obtain ⟨placed, hmap, hperm, hplaced⟩ :=
    @exists_foldl_place keys rows [] hkeys rows 0 (fun _ h => h) (by simp) (by simp) .nil
  rw [List.append_nil] at hperm
  have hrows : ∀ {a}, a ∈ placed.reverse → a.1 ∈ rows := by
    intro a ha
    exact List.fst_mem_of_mem_zipIdx (hperm.mem_iff.1 (List.mem_reverse.1 ha))
  refine ⟨placed.reverse, ?_, (List.reverse_perm _).trans hperm, ?_⟩
  · rw [List.map_reverse, hmap]
    rfl
  · refine (List.pairwise_reverse.2 hplaced).imp_of_mem fun ha hb hprecedes => ?_
    rwa [Precedes, rowOrder_eq h (hrows ha) (hrows hb)] at hprecedes

end Sorting

-- ==================================================== one order or another

section Orders

variable {order order' : Row → Row → Ordering} {rows : List Row} {numbered : List (Row × Nat)}
variable {a b : Row × Nat}

theorem precedes_of_lt (h : a.2 < b.2) : Precedes order a b ↔ order a.1 b.1 ≠ .gt := by
  unfold Precedes
  cases order a.1 b.1 <;> simp [h]

theorem precedes_of_gt (hswap : order b.1 a.1 = (order a.1 b.1).swap) (h : b.2 < a.2) :
    Precedes order a b ↔ order b.1 a.1 = .gt := by
  have hlt : ¬ a.2 < b.2 := by omega
  rw [hswap, Precedes]
  cases order a.1 b.1 <;> simp [hlt]

/-- If the first row has the lower number, it comes behind the second one in
both orders or in neither. -/
def AgreeOn (order order' : Row → Row → Ordering) (a b : Row × Nat) : Prop :=
  a.2 < b.2 → (order a.1 b.1 = .gt ↔ order' a.1 b.1 = .gt)

/-- The two orders have the same rows change places. -/
def Agree (order order' : Row → Row → Ordering) (numbered : List (Row × Nat)) : Prop :=
  ∀ a ∈ numbered, ∀ b ∈ numbered, AgreeOn order order' a b

/-- What is arranged in one order is arranged in the other exactly if they
agree. -/
theorem arranged_iff_agree (h : Arranges order (· ∈ rows)) (h' : Arranges order' (· ∈ rows))
    (hrows : ∀ a ∈ numbered, a.1 ∈ rows) (hnumbers : (numbered.map Prod.snd).Nodup)
    (harranged : Arranged order numbered) :
    Arranged order' numbered ↔ Agree order order' numbered := by
  constructor
  · intro harranged'
    have hboth := harranged.and harranged'
    have hself : ∀ a ∈ numbered, AgreeOn order order' a a := fun a _ hlt => by omega
    have hbefore : numbered.Pairwise (AgreeOn order order') := by
      refine hboth.imp fun hab hlt => ?_
      obtain ⟨hab, hab'⟩ := hab
      rw [precedes_of_lt hlt] at hab hab'
      exact iff_of_false hab hab'
    have hbehind : numbered.Pairwise (flip (AgreeOn order order')) := by
      refine hboth.imp_of_mem fun ha hb hab hlt => ?_
      obtain ⟨hab, hab'⟩ := hab
      rw [precedes_of_gt (h.swap (hrows _ ha) (hrows _ hb)) hlt] at hab
      rw [precedes_of_gt (h'.swap (hrows _ ha) (hrows _ hb)) hlt] at hab'
      exact iff_of_true hab hab'
    exact fun a ha b hb => List.Pairwise.forall_of_forall_of_flip hself hbefore hbehind ha hb
  · intro hagree
    have hne : numbered.Pairwise fun a b => a.2 ≠ b.2 := List.pairwise_map.1 hnumbers
    refine (harranged.and hne).imp_of_mem fun {a b} ha hb hab => ?_
    obtain ⟨hab, hne⟩ := hab
    rcases Nat.lt_or_gt_of_ne hne with hlt | hgt
    · rw [precedes_of_lt hlt] at hab ⊢
      exact mt (hagree a ha b hb hlt).2 hab
    · rw [precedes_of_gt (h.swap (hrows a ha) (hrows b hb)) hgt] at hab
      rw [precedes_of_gt (h'.swap (hrows a ha) (hrows b hb)) hgt]
      exact (hagree b hb a ha hgt).1 hab

end Orders

-- ================================================================ searches

namespace Store

variable {supply : Supply} {s : Store} {t : Table} {condition : Option Condition}
variable {keys : List SortKey}

/-- A search without limit and offset returns the numbered rows in their
order, and they are the rows that meet the condition, each once and with
the number under which it is stored. -/
structure Returns (supply : Supply) (s : Store) (t : Table) (condition : Option Condition)
    (keys : List SortKey) (numbered : List (Row × Nat)) : Prop where
  rows : numbered.Perm (s.matching t condition).zipIdx
  answer : (s.execute supply (.select t (.whole condition keys))).1
    = .ok (numbered.map fun a => t.project a.1)

/-- Unless the store was told to refuse the statement, a search returns the
rows that meet its condition, each once, cut to the columns of the table,
and arranged by the sort columns with numbers placed among the doubles.
That is the order of their values exactly if both orders have the same
rows change places, and always if no sort column holds different numbers
with one double. -/
theorem select_arranged_by_value_iff (supply : Supply) (s : Store) (t : Table)
    (condition : Option Condition) (keys : List SortKey)
    (hkinds : OfOneKind keys (s.matching t condition)) :
    (∀ message, s.failure = some message →
        (s.execute supply (.select t (.whole condition keys))).1 = .error (.refused message))
      ∧ (s.failure = none → ∃ numbered, Returns supply s t condition keys numbered
        ∧ Arranged (rowOrderBy Number.place keys) numbered
        ∧ (Arranged (rowOrderBy Number.exact keys) numbered
          ↔ Agree (rowOrderBy Number.place keys) (rowOrderBy Number.exact keys) numbered)
        ∧ ((∀ key ∈ keys, ∀ a ∈ s.matching t condition, ∀ b ∈ s.matching t condition,
              ¬ (a.cell key.column).Confused (b.cell key.column)) →
            Arranged (rowOrderBy Number.exact keys) numbered))
      ∧ ((t.columns.map (·.name)).Nodup → ∀ (row : Row) (name : String),
        (t.project row).get? name
          = if name ∈ t.columns.map (·.name) then some (row.cell name) else none) := by
  refine ⟨fun message hfailure => ?_, fun hready => ?_, fun hdistinct row name => ?_⟩
  · rw [Repository.execute_of_failure hfailure]
  · obtain ⟨numbered, hmap, hperm, harranged⟩ := exists_sorted hkinds
    have hrows : ∀ a ∈ numbered, a.1 ∈ s.matching t condition := fun a ha =>
      List.fst_mem_of_mem_zipIdx (hperm.mem_iff.1 ha)
    have hnumbers : (numbered.map Prod.snd).Nodup := by
      rw [(hperm.map Prod.snd).nodup_iff, List.zipIdx_map_snd]
      exact List.nodup_range'
    have hiff := arranged_iff_agree (arranges_rowOrderBy Number.place hkinds)
      (arranges_rowOrderBy Number.exact hkinds) hrows hnumbers harranged
    refine ⟨numbered, ⟨hperm, ?_⟩, harranged, hiff, fun hclear => hiff.2 fun a ha b hb _ => ?_⟩
    · rw [execute_whole hready (.inr (arranges_rowOrder hkinds)), found, ← hmap, List.map_map]
      rfl
    · rw [rowOrderBy_exact hkinds (hrows a ha) (hrows b hb)
        fun key hkey => hclear key hkey a.1 (hrows a ha) b.1 (hrows b hb)]
  · exact Table.get?_project_of_distinct hdistinct row name

/-- Four members: two share a name, and two have none. -/
def namesakes : List Row :=
  [(Row.empty.set "id" (.int 3)).set "name" (.string "b"),
    (Row.empty.set "id" (.int 1)).set "name" .null,
    (Row.empty.set "id" (.int 2)).set "name" (.string "b"),
    Row.empty.set "id" (.int 4)]

/-- Nulls come first in a descending column, and the second column decides
where the first does not. -/
theorem select_arranged_behind_nulls :
    let supply := Supply.constant
    let s : Store := Store.empty.setRows members namesakes
    let keys : List SortKey := [⟨"name", .descending⟩, ⟨"id", .ascending⟩]
    OfOneKind keys (s.matching members none) ∧ s.failure = none
      ∧ (∃ numbered, Returns supply s members none keys numbered
        ∧ Arranged (rowOrderBy Number.exact keys) numbered)
      ∧ (s.found members none keys).filterMap members.integerKey? = [1, 4, 2, 3] := by
  intro supply s keys
  have hmatching : s.matching members none = namesakes := rfl
  have hid : ∀ row ∈ namesakes,
      ∃ i : Int, i.natAbs < 2 ^ 53 ∧ row.cell "id" = .number (.int i) := by
    simp only [namesakes, List.forall_mem_cons]
    exact ⟨⟨3, by decide, rfl⟩, ⟨1, by decide, rfl⟩, ⟨2, by decide, rfl⟩, ⟨4, by decide, rfl⟩,
      List.forall_mem_nil _⟩
  have hname : ∀ row ∈ namesakes,
      row.cell "name" = .null ∨ ∃ name, row.cell "name" = .string name := by
    simp only [namesakes, List.forall_mem_cons]
    exact ⟨.inr ⟨"b", rfl⟩, .inl rfl, .inr ⟨"b", rfl⟩, .inl rfl, List.forall_mem_nil _⟩
  have hkinds : OfOneKind keys (s.matching members none) := by
    refine List.forall_mem_cons.2 ⟨⟨.string, hname⟩, List.forall_mem_singleton.2 ⟨.number, ?_⟩⟩
    intro row hrow
    obtain ⟨i, -, hi⟩ := hid row hrow
    exact .inr ⟨.int i, Number.isNumeric_int i, hi⟩
  obtain ⟨-, hready, -⟩ := select_arranged_by_value_iff supply s members none keys hkinds
  obtain ⟨numbered, hreturns, -, -, hclear⟩ := hready rfl
  refine ⟨hkinds, rfl, ⟨numbered, hreturns, hclear ?_⟩, by decide +kernel⟩
  rw [hmatching]
  refine List.forall_mem_cons.2 ⟨?_, List.forall_mem_singleton.2 ?_⟩
  · rintro a ha b - ⟨m, n, hm, -⟩
    rcases hname a ha with h | ⟨name, h⟩ <;> rw [h] at hm <;> cases hm
  · rintro a ha b hb ⟨m, n, hm, hn, hconfused⟩
    obtain ⟨i, -, hi⟩ := hid a ha
    obtain ⟨j, hj, hj'⟩ := hid b hb
    obtain rfl := Value.number.inj (hi.symm.trans hm)
    obtain rfl := Value.number.inj (hj'.symm.trans hn)
    exact Number.not_confused_int hj hconfused

/-- Two members whose keys have one double, the larger key in front. -/
def largerInFront : List Row :=
  [Row.empty.set "id" (.int 9007199254740993), Row.empty.set "id" (.int 9007199254740992)]

/-- Sorted by their keys they stay as they were stored. -/
theorem select_leaves_larger_in_front :
    ¬ ∀ (supply : Supply) (s : Store) (t : Table) (condition : Option Condition)
        (keys : List SortKey), s.failure = none → OfOneKind keys (s.matching t condition) →
      ∃ numbered, Returns supply s t condition keys numbered
        ∧ Arranged (rowOrderBy Number.exact keys) numbered := by
  intro h
  let s : Store := Store.empty.setRows members largerInFront
  have hmatching : s.matching members none = largerInFront := rfl
  have hkinds : OfOneKind [⟨"id", .ascending⟩] (s.matching members none) := by
    rw [hmatching]
    refine List.forall_mem_singleton.2 ⟨.number, List.forall_mem_cons.2 ⟨?_, ?_⟩⟩
    · exact .inr ⟨_, Number.isNumeric_int 9007199254740993, rfl⟩
    · exact List.forall_mem_singleton.2 (.inr ⟨_, Number.isNumeric_int 9007199254740992, rfl⟩)
  obtain ⟨numbered, hreturns, harranged⟩ :=
    h .constant s members none _ rfl hkinds
  have hsort : Sortable [⟨"id", .ascending⟩] (s.matching members none) := .inl (by decide)
  have hanswer := hreturns.answer
  rw [execute_whole rfl hsort] at hanswer
  have hkeys : (numbered.map fun a => members.project a.1).filterMap members.integerKey?
      = [9007199254740993, 9007199254740992] := by
    rw [← Except.ok.inj hanswer]
    decide +kernel
  have hperm : numbered.Perm largerInFront.zipIdx := hreturns.rows
  obtain ⟨a, b, rfl⟩ := List.length_eq_two.1 hperm.length_eq
  have ha := hperm.mem_iff.1 List.mem_cons_self
  have hb := hperm.mem_iff.1 (List.mem_cons_of_mem a (List.mem_singleton_self b))
  have hprecedes := (List.pairwise_cons.1 harranged).1 b (List.mem_singleton_self b)
  simp only [largerInFront, List.zipIdx_cons, List.zipIdx_nil, List.mem_cons, List.not_mem_nil,
    or_false] at ha hb
  rcases ha with rfl | rfl <;> rcases hb with rfl | rfl
  · exact absurd hkeys (by decide +kernel)
  · revert hprecedes
    unfold Precedes
    decide +kernel
  · exact absurd hkeys (by decide +kernel)
  · exact absurd hkeys (by decide +kernel)

end Store

end TableApi
