/-
The order of rows.

Rows are put in order by the cells of the sort columns. Here the order is
given for any way of placing numbers: two strings by code points, false
before true, two numbers by their places, and null behind them all
(`cellOrderBy`); a descending column turns this round, and the first
column that tells two rows apart decides (`rowOrderBy`). With the numbers
placed by their values this is the order that a reader of the rows
expects (`Number.exact`). The store places them by their doubles
(`Number.place`), and on columns that hold values of one kind that is all
that sets it apart (`rowOrder_eq`).

# What makes it an order

A sort relies on two laws: comparing the other way round gives the
opposite result, and what does not come behind is transitive. Both hold
for the cells of one kind, since these are placed in a line, and each step
from cells to rows keeps them.

Rows for which both laws hold can be counted off: one comes in front of
another exactly if fewer rows come in front of it. This is what the store
is sure to sort by (`inLine_iff`); a sort of other rows loses none and
repeats none, if it comes to an end (`perm_sort?`).
-/
import TableApi.Proofs.Numeric.Rounding
import TableApi.Store.Order

namespace TableApi

open Json

-- ================================================================ orders

/-- A comparison that puts the members of a class in a line, some of them
perhaps in one place. -/
structure Arranges {α : Type} (order : α → α → Ordering) (p : α → Prop) : Prop where
  swap : ∀ {a b}, p a → p b → order b a = (order a b).swap
  trans : ∀ {a b c}, p a → p b → p c →
    (order a b).isLE = true → (order b c).isLE = true → (order a c).isLE = true

namespace Arranges

variable {α β : Type} {order order' : α → α → Ordering} {p : α → Prop} {a b c : α}

/-- Members are arranged by what a function makes of them. -/
theorem comap (h : Arranges order p) {q : β → Prop} (f : β → α) (hf : ∀ b, q b → p (f b)) :
    Arranges (fun a b => order (f a) (f b)) q where
  swap := fun ha hb => h.swap (hf _ ha) (hf _ hb)
  trans := fun ha hb hc => h.trans (hf _ ha) (hf _ hb) (hf _ hc)

/-- What compares members alike arranges them alike. -/
theorem congr (h : Arranges order p) (heq : ∀ {a b}, p a → p b → order' a b = order a b) :
    Arranges order' p where
  swap := fun ha hb => by rw [heq ha hb, heq hb ha, h.swap ha hb]
  trans := fun ha hb hc => by
    rw [heq ha hb, heq hb hc, heq ha hc]
    exact h.trans ha hb hc

/-- Turned round, a line is a line. -/
theorem reversed (h : Arranges order p) : Arranges (fun a b => (order a b).swap) p where
  swap := fun ha hb => by rw [h.swap ha hb]
  trans := fun ha hb hc hab hbc => by
    rw [← h.swap ha hb] at hab
    rw [← h.swap hb hc] at hbc
    rw [← h.swap ha hc]
    exact h.trans hc hb ha hbc hab

/-- Where a comparison finds no difference, another one may go on. -/
theorem followed (h : Arranges order p) (h' : Arranges order' p) :
    Arranges (fun a b => (order a b).then (order' a b)) p where
  swap := fun ha hb => by rw [h.swap ha hb, h'.swap ha hb, Ordering.swap_then]
  trans := by
    intro a b c ha hb hc hab hbc
    have hle := h.trans ha hb hc (Ordering.isLE_left_of_isLE_then hab)
      (Ordering.isLE_left_of_isLE_then hbc)
    rw [Ordering.isLE_then_iff_and] at hab hbc ⊢
    refine ⟨hle, ?_⟩
    rcases Ordering.isLE_iff_eq_lt_or_eq_eq.1 hle with hlt | heq
    · exact .inl hlt
    · -- If the ends are in one place, then so is all between them.
      have hca : (order c a).isLE = true := by
        rw [h.swap ha hc, heq]
        rfl
      have hba := h.trans hb hc ha hbc.1 hca
      have hcb := h.trans hc ha hb hca hab.1
      rw [h.swap ha hb] at hba
      rw [h.swap hb hc] at hcb
      have hab' := hab.2.resolve_left fun hlt => by
        rw [hlt] at hba
        cases hba
      have hbc' := hbc.2.resolve_left fun hlt => by
        rw [hlt] at hcb
        cases hcb
      exact .inr (h'.trans ha hb hc hab' hbc')

/-- Numbers arrange what they are given to. -/
theorem of_number (f : α → Nat) : Arranges (fun a b => compare (f a) (f b)) p where
  swap := fun _ _ => Std.OrientedOrd.eq_swap
  trans := fun _ _ _ => Std.TransCmp.isLE_trans

/-- What does not come in front does not come behind the other way round. -/
theorem isLE_of_ne_lt (h : Arranges order p) (ha : p a) (hb : p b) (hab : order a b ≠ .lt) :
    (order b a).isLE = true := by
  rw [h.swap ha hb]
  cases horder : order a b with
  | lt => exact absurd horder hab
  | eq | gt => rfl

/-- In a line, what is below a member is below all that this does not come
behind. -/
theorem lt_of_lt_of_isLE (h : Arranges order p) (ha : p a) (hb : p b) (hc : p c)
    (hab : order a b = .lt) (hbc : (order b c).isLE = true) : order a c = .lt := by
  by_contra hac
  have hba := h.trans hb hc ha hbc (h.isLE_of_ne_lt ha hc hac)
  rw [h.swap ha hb, hab] at hba
  cases hba

/-- What is told apart from one another is told apart from one of them by any
third member. -/
theorem lt_or_lt (h : Arranges order p) (ha : p a) (hb : p b) (hc : p c)
    (hab : order a b = .lt) : order a c = .lt ∨ order c b = .lt := by
  by_cases hcb : order c b = .lt
  · exact .inr hcb
  · exact .inl (h.lt_of_lt_of_isLE ha hb hc hab (h.isLE_of_ne_lt hc hb hcb))

end Arranges

-- ================================================================= cells

/-- The order of two cells, with null last and numbers by their places. -/
def cellOrderBy (place : Number → Int) : Value → Value → Ordering
  | .null, .null => .eq
  | .null, _ => .gt
  | _, .null => .lt
  | .string s, .string t => compare s t
  | .bool a, .bool b => compare a b
  | .number m, .number n => compare (place m) (place n)
  | _, _ => .eq

/-- The kinds of values that have an order. -/
inductive Kind where
  | string
  | bool
  | number

/-- A null, or a value of the kind. -/
def Kind.Holds : Kind → Value → Prop
  | string, v => v = .null ∨ ∃ s, v = .string s
  | bool, v => v = .null ∨ ∃ b, v = .bool b
  | number, v => v = .null ∨ ∃ n, n.IsNumeric ∧ v = .number n

section Cells

variable {place : Number → Int} {kind : Kind} {v w : Value}

/-- Null can be put behind the values of any kind. -/
theorem Arranges.of_kind {α : Type} (order : α → α → Ordering) [Std.TransCmp order]
    {value : α → Value} {cells : Value → Value → Ordering} (hnull : cells .null .null = .eq)
    (hlast : ∀ x, cells .null (value x) = .gt) (hfirst : ∀ x, cells (value x) .null = .lt)
    (hvalues : ∀ x y, cells (value x) (value y) = order x y) :
    Arranges cells fun v => v = .null ∨ ∃ x, v = value x where
  swap := by
    rintro a b (rfl | ⟨x, rfl⟩) (rfl | ⟨y, rfl⟩)
    · rw [hnull]
      rfl
    · rw [hlast, hfirst]
      rfl
    · rw [hlast, hfirst]
      rfl
    · rw [hvalues, hvalues]
      exact Std.OrientedCmp.eq_swap
  trans := by
    rintro a b c (rfl | ⟨x, rfl⟩) (rfl | ⟨y, rfl⟩) (rfl | ⟨z, rfl⟩) hab hbc
    · rw [hnull]
      rfl
    · exact hbc
    · rw [hnull]
      rfl
    · rw [hlast] at hab
      cases hab
    · rw [hfirst]
      rfl
    · rw [hlast] at hbc
      cases hbc
    · rw [hfirst]
      rfl
    · rw [hvalues] at hab hbc ⊢
      exact Std.TransCmp.isLE_trans hab hbc

/-- Cells of one kind are arranged, by whatever places numbers have. -/
theorem arranges_cellOrderBy (place : Number → Int) (kind : Kind) :
    Arranges (cellOrderBy place) kind.Holds := by
  cases kind with
  | string => exact .of_kind compare rfl (fun _ => rfl) (fun _ => rfl) fun _ _ => rfl
  | bool => exact .of_kind compare rfl (fun _ => rfl) (fun _ => rfl) fun _ _ => rfl
  | number =>
      have h : Arranges (cellOrderBy place) fun v => v = .null ∨ ∃ n, v = .number n :=
        .of_kind (compareOn place) rfl (fun _ => rfl) (fun _ => rfl) fun _ _ => rfl
      exact h.comap id fun v hv => hv.imp_right fun ⟨n, _, hn⟩ => ⟨n, hn⟩

/-- On values of one kind the store goes by the doubles of numbers. -/
theorem cellOrder_eq (hv : kind.Holds v) (hw : kind.Holds w) :
    cellOrder v w = cellOrderBy Number.place v w := by
  cases kind with
  | string => rcases hv with rfl | ⟨s, rfl⟩ <;> rcases hw with rfl | ⟨t, rfl⟩ <;> rfl
  | bool =>
      rcases hv with rfl | ⟨a, rfl⟩ <;> rcases hw with rfl | ⟨b, rfl⟩
      · rfl
      · rfl
      · rfl
      · cases a <;> cases b <;> rfl
  | number =>
      rcases hv with rfl | ⟨m, hm, rfl⟩ <;> rcases hw with rfl | ⟨n, hn, rfl⟩
      · rfl
      · rfl
      · rfl
      · show (m.toDouble.compare? n.toDouble).getD .eq = compare m.place n.place
        rw [Number.compare?_toDouble hm hn, Option.getD_some]

/-- Two cells hold numbers of different values that are compared as equal. -/
def Json.Value.Confused (v w : Value) : Prop :=
  ∃ m n, v = .number m ∧ w = .number n ∧ m.Confused n

/-- Cells that are not confused come in the order of their values. -/
theorem cellOrderBy_exact (hv : kind.Holds v) (hw : kind.Holds w) (h : ¬ v.Confused w) :
    cellOrderBy Number.place v w = cellOrderBy Number.exact v w := by
  cases kind with
  | string => rcases hv with rfl | ⟨s, rfl⟩ <;> rcases hw with rfl | ⟨t, rfl⟩ <;> rfl
  | bool => rcases hv with rfl | ⟨a, rfl⟩ <;> rcases hw with rfl | ⟨b, rfl⟩ <;> rfl
  | number =>
      rcases hv with rfl | ⟨m, hm, rfl⟩ <;> rcases hw with rfl | ⟨n, hn, rfl⟩
      · rfl
      · rfl
      · rfl
      · exact Number.compare_place hm hn fun hmn => h ⟨m, n, rfl, rfl, hmn⟩

end Cells

-- ================================================================== rows

/-- The order of two rows by one column. -/
def SortKey.orderBy (place : Number → Int) (key : SortKey) (a b : Row) : Ordering :=
  match key.direction with
  | .ascending => cellOrderBy place (a.cell key.column) (b.cell key.column)
  | .descending => (cellOrderBy place (a.cell key.column) (b.cell key.column)).swap

/-- The order of two rows: that of the first column that tells them
apart. -/
def rowOrderBy (place : Number → Int) : List SortKey → Row → Row → Ordering
  | [], _, _ => .eq
  | key :: keys, a, b => (key.orderBy place a b).then (rowOrderBy place keys a b)

/-- Every sort column holds values of one kind, beside nulls. -/
def OfOneKind (keys : List SortKey) (rows : List Row) : Prop :=
  ∀ key ∈ keys, ∃ kind : Kind, ∀ row ∈ rows, kind.Holds (row.cell key.column)

section Rows

variable {keys : List SortKey} {rows : List Row} {a b : Row}

/-- Rows whose sort columns are of one kind each are arranged, whatever the
keys are. -/
theorem arranges_rowOrderBy (place : Number → Int) (h : OfOneKind keys rows) :
    Arranges (rowOrderBy place keys) (· ∈ rows) := by
  induction keys with
  | nil =>
      exact ⟨fun _ _ => rfl, fun _ _ _ _ _ => rfl⟩
  | cons key keys ih =>
      obtain ⟨⟨kind, hkind⟩, hrest⟩ := List.forall_mem_cons.1 h
      have hcells :=
        (arranges_cellOrderBy place kind).comap (fun row : Row => row.cell key.column) hkind
      have hkey : Arranges (key.orderBy place) (· ∈ rows) := by
        unfold SortKey.orderBy
        cases key.direction with
        | ascending => exact hcells
        | descending => exact hcells.reversed
      exact hkey.followed (ih hrest)

/-- Where columns hold values of one kind, rows are compared by the places
of numbers among the doubles. -/
theorem rowOrder_eq (h : OfOneKind keys rows) (ha : a ∈ rows) (hb : b ∈ rows) :
    rowOrder keys a b = rowOrderBy Number.place keys a b := by
  induction keys with
  | nil => rfl
  | cons key keys ih =>
      obtain ⟨⟨kind, hkind⟩, hrest⟩ := List.forall_mem_cons.1 h
      have hcells := cellOrder_eq (hkind a ha) (hkind b hb)
      have hkey : key.order a b = key.orderBy Number.place a b := by
        unfold SortKey.order SortKey.orderBy
        cases key.direction with
        | ascending => exact hcells
        | descending => exact congrArg Ordering.swap hcells
      rw [rowOrder, rowOrderBy, ih hrest, hkey]

/-- Rows with sort columns of one kind are put in a line. -/
theorem arranges_rowOrder (h : OfOneKind keys rows) : Arranges (rowOrder keys) (· ∈ rows) :=
  (arranges_rowOrderBy Number.place h).congr (rowOrder_eq h)

/-- Rows without confused cells in the sort columns come in the order of
their values. -/
theorem rowOrderBy_exact (h : OfOneKind keys rows) (ha : a ∈ rows) (hb : b ∈ rows)
    (hdistinct : ∀ key ∈ keys, ¬ (a.cell key.column).Confused (b.cell key.column)) :
    rowOrderBy Number.place keys a b = rowOrderBy Number.exact keys a b := by
  induction keys with
  | nil => rfl
  | cons key keys ih =>
      obtain ⟨⟨kind, hkind⟩, hrest⟩ := List.forall_mem_cons.1 h
      obtain ⟨hkey, hkeys⟩ := List.forall_mem_cons.1 hdistinct
      rw [rowOrderBy, rowOrderBy, ih hrest hkeys, SortKey.orderBy, SortKey.orderBy,
        cellOrderBy_exact (hkind a ha) (hkind b hb) hkey]

end Rows

-- ============================================================== in a line

section Line

variable {keys : List SortKey} {rows : List Row} {a b : Row}

/-- Of two tests the one that more elements pass, if all that pass the
other pass it. -/
theorem countP_lt_countP {α : Type} {p q : α → Bool} {xs : List α} {x : α}
    (himp : ∀ y ∈ xs, p y = true → q y = true) (hx : x ∈ xs) (hp : p x = false)
    (hq : q x = true) : xs.countP p < xs.countP q := by
  induction xs with
  | nil => cases hx
  | cons y ys ih =>
      obtain ⟨hy, hys⟩ := List.forall_mem_cons.1 himp
      have hle : ys.countP p ≤ ys.countP q := List.countP_mono_left hys
      rw [List.countP_cons, List.countP_cons]
      rcases List.mem_cons.1 hx with rfl | hx
      · rw [hp, hq]
        simp
        omega
      · have hlt := ih hys hx
        by_cases hpy : p y = true
        · rw [if_pos hpy, if_pos (hy hpy)]
          omega
        · rw [if_neg hpy]
          omega

/-- A row below another comes behind fewer. -/
theorem rank_lt (h : Arranges (rowOrder keys) (· ∈ rows)) (ha : a ∈ rows) (hb : b ∈ rows)
    (hab : rowOrder keys a b = .lt) : rank keys rows a < rank keys rows b := by
  refine countP_lt_countP (fun other hother hbefore => ?_) ha ?_ (decide_eq_true hab)
  · have hle : (rowOrder keys a b).isLE = true := by
      rw [hab]
      rfl
    exact decide_eq_true (h.lt_of_lt_of_isLE hother ha hb (of_decide_eq_true hbefore) hle)
  · have hself : rowOrder keys a a ≠ .lt := by
      intro hlt
      have hswap := h.swap ha ha
      rw [hlt] at hswap
      cases hswap
    exact decide_eq_false hself

/-- Rows that are level come behind the same number. -/
theorem rank_eq (h : Arranges (rowOrder keys) (· ∈ rows)) (ha : a ∈ rows) (hb : b ∈ rows)
    (hab : rowOrder keys a b = .eq) : rank keys rows a = rank keys rows b := by
  have hle : (rowOrder keys a b).isLE = true := by
    rw [hab]
    rfl
  have hge : (rowOrder keys b a).isLE = true := by
    rw [h.swap ha hb, hab]
    rfl
  refine List.countP_congr fun other hother => ?_
  rw [decide_eq_true_iff, decide_eq_true_iff]
  constructor
  · exact fun hlt => h.lt_of_lt_of_isLE hother ha hb hlt hle
  · exact fun hlt => h.lt_of_lt_of_isLE hother hb ha hlt hge

/-- Rows in a line come in the order of their ranks. -/
theorem rowOrder_eq_compare_rank (h : Arranges (rowOrder keys) (· ∈ rows)) (ha : a ∈ rows)
    (hb : b ∈ rows) :
    rowOrder keys a b = compare (rank keys rows a) (rank keys rows b) := by
  cases hab : rowOrder keys a b with
  | lt => exact (Nat.compare_eq_lt.2 (rank_lt h ha hb hab)).symm
  | eq => exact (Nat.compare_eq_eq.2 (rank_eq h ha hb hab)).symm
  | gt =>
      have hba : rowOrder keys b a = .lt := by
        rw [h.swap ha hb, hab]
        rfl
      exact (Nat.compare_eq_gt.2 (rank_lt h hb ha hba)).symm

/-- The keys put rows in a line exactly if they arrange them. -/
theorem inLine_iff : inLine keys rows = true ↔ Arranges (rowOrder keys) (· ∈ rows) := by
  have hranks : inLine keys rows = true ↔ ∀ a ∈ rows, ∀ b ∈ rows,
      rowOrder keys a b = compare (rank keys rows a) (rank keys rows b) := by
    simp [inLine, List.all_map, List.all_eq_true]
  rw [hranks]
  constructor
  · intro h
    exact (Arranges.of_number (rank keys rows)).congr fun ha hb => h _ ha _ hb
  · exact fun h a ha b hb => rowOrder_eq_compare_rank h ha hb

end Line

-- ================================================================ sorting

section Sorting

variable {supply : Supply} {keys : List SortKey} {rows sorted : List Row}

/-- To place a row among others adds it and nothing else. -/
theorem perm_place (keys : List SortKey) (row : Row) (sorted : List Row) :
    (place keys row sorted).Perm (row :: sorted) := by
  induction sorted with
  | nil => exact .refl _
  | cons last rest ih =>
      rw [place]
      split
      · exact (ih.cons last).trans (.swap row last rest)
      · exact .refl _

/-- Placing rows loses none and repeats none. -/
theorem perm_sortRows (keys : List SortKey) (rows : List Row) :
    (sortRows keys rows).Perm rows := by
  have hfold : ∀ rows sorted : List Row,
      (rows.foldl (fun sorted row => place keys row sorted) sorted).Perm (rows ++ sorted) := by
    intro rows
    induction rows with
    | nil => exact fun sorted => .refl sorted
    | cons row rows ih =>
        intro sorted
        refine (ih (place keys row sorted)).trans ?_
        exact ((perm_place keys row sorted).append_left rows).trans List.perm_middle
  refine (List.reverse_perm _).trans ?_
  simpa using hfold rows []

/-- Rows that are sorted by nothing stay as they are. -/
theorem sortRows_nil (rows : List Row) : sortRows [] rows = rows := by
  have hplace : ∀ (row : Row) (sorted : List Row), place [] row sorted = row :: sorted := by
    intro row sorted
    cases sorted with
    | nil => rfl
    | cons last rest => simp [place, rowOrder]
  have hfold : ∀ (rows sorted : List Row),
      rows.foldl (fun sorted row => place [] row sorted) sorted = rows.reverse ++ sorted := by
    intro rows
    induction rows with
    | nil => intro sorted; rfl
    | cons row rows ih =>
        intro sorted
        rw [List.foldl_cons, hplace, ih]
        simp
  rw [sortRows, hfold, List.append_nil, List.reverse_reverse]

/-- Rows that a sort is sure to sort: few of them, or any number in a
line. -/
def Sortable (keys : List SortKey) (rows : List Row) : Prop :=
  rows.length ≤ placedLimit ∨ Arranges (rowOrder keys) (· ∈ rows)

/-- What is sorted for sure can be seen from the rows. -/
theorem sortable_iff :
    (decide (rows.length ≤ placedLimit) || inLine keys rows) = true ↔ Sortable keys rows := by
  rw [Bool.or_eq_true, decide_eq_true_iff, inLine_iff, Sortable]

/-- Such rows are placed one by one. -/
theorem Sortable.sort?_eq (h : Sortable keys rows) (supply : Supply) :
    sort? supply keys rows = some (sortRows keys rows) := by
  rw [sort?, if_pos (sortable_iff.2 h)]

/-- Without keys all rows are level. -/
theorem sortable_nil (rows : List Row) : Sortable [] rows :=
  .inr ⟨fun _ _ => rfl, fun _ _ _ _ _ => rfl⟩

/-- Without keys they stay as they are. -/
theorem sort?_nil (supply : Supply) (rows : List Row) : sort? supply [] rows = some rows := by
  rw [(sortable_nil rows).sort?_eq, sortRows_nil]

/-- A sort that comes to an end loses no row and repeats none. -/
theorem perm_sort? (h : sort? supply keys rows = some sorted) : sorted.Perm rows := by
  unfold sort? at h
  split at h
  · obtain rfl := Option.some.inj h
    exact perm_sortRows keys rows
  · obtain ⟨scrambled, -, rfl⟩ := Option.map_eq_some_iff.1 h
    exact scrambled.2

/-- A sort gives up only on many rows that are not in a line, and if it is
supplied with no arrangement. -/
theorem sort?_eq_none_iff :
    sort? supply keys rows = none ↔ ¬ Sortable keys rows ∧ supply.scramble keys rows = none := by
  by_cases h : Sortable keys rows
  · rw [h.sort?_eq]
    simp [h]
  · rw [sort?, if_neg (mt sortable_iff.1 h), Option.map_eq_none_iff, and_iff_right h]

end Sorting

end TableApi
