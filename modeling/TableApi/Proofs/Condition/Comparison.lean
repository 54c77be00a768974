/-
Ranges and lists, read as the comparisons they stand for.

SQL defines a range as two comparisons joined by `and`, and membership in
a list as comparisons for equality joined by `or`. A condition is said of
a row without taking it apart in this way, and the two readings do not
always meet.

# Where they part

Both readings ask how the cell compares with the bounds, or with the
values of the list, so they can only differ where it does not compare
with one of them.

* A cell below the low bound is outside the range, whatever the high bound
  is, and likewise the other way round. A condition leaves it unknown as
  soon as one of the bounds does not compare with the cell.
* A cell that equals no value of a list, and does not compare with one of
  them, may or may not be in the list. A condition leaves it unknown only
  if null is that one; otherwise it says that the cell is not in the list.

A row that is selected by the one reading is selected by the other: they
differ in what is false and what is unknown, and that shows where the
condition is negated.
-/
import TableApi.Condition.Eval
import TableApi.Filter.Compile
import TableApi.Proofs.Truth

namespace TableApi

open Json

-- ========================================================= comparisons

namespace Json.Value

/-- Nothing compares with null. -/
theorem compare?_null (v : Value) : v.compare? .null = none := by
  cases v <;> rfl

/-- There is one null. -/
theorem eq_null_of_isNull {v : Value} (h : v.isNull = true) : v = .null := by
  cases v <;> first | rfl | cases h

/-- Outside one of two bounds, while the other does not compare. -/
def OutsideOneBound (v low high : Value) : Prop :=
  (v.compare? low = some .lt ∧ v.compare? high = none)
    ∨ (v.compare? low = none ∧ v.compare? high = some .gt)

/-- Not in a list, as far as it compares with the values of the list; one
of them does not compare with it, and there is no null to be the reason. -/
def OverlookedIn (v : Value) (values : List Value) : Prop :=
  v.isNull = false ∧ (∀ w ∈ values, w.isNull = false ∧ v.compare? w ≠ some .eq)
    ∧ ∃ w ∈ values, v.compare? w = none

end Json.Value

/-- The operator that accepts just what the other one does not. -/
def CompareOp.opposite : CompareOp → CompareOp
  | eq => ne
  | ne => eq
  | gt => le
  | ge => lt
  | lt => ge
  | le => gt

namespace Condition

/-- The opposite operator gives the opposite truth value. -/
theorem compareTruth_opposite (op : CompareOp) (v w : Value) :
    compareTruth op.opposite v w = (compareTruth op v w).not := by
  unfold compareTruth
  cases v.compare? w with
  | none => rfl
  | some o => cases op <;> cases o <;> rfl

/-- Values are equal if they compare as equal. -/
theorem compareTruth_eq_yes_iff {v w : Value} :
    compareTruth .eq v w = .yes ↔ v.compare? w = some .eq := by
  unfold compareTruth
  cases v.compare? w with
  | none => simp
  | some o => cases o <;> decide

/-- Values are unequal if they compare as anything else. -/
theorem compareTruth_eq_no_iff {v w : Value} :
    compareTruth .eq v w = .no ↔ v.compare? w ≠ none ∧ v.compare? w ≠ some .eq := by
  unfold compareTruth
  cases v.compare? w with
  | none => simp
  | some o => cases o <;> decide

-- ============================================================== ranges

/-- A range as two comparisons: at or above the low bound, and at or below
the high one. -/
def boundsTruth (row : Row) (column : String) (low high : Value) : Truth :=
  ((compare column .ge low).eval row).and ((compare column .le high).eval row)

/-- A range is unknown if one of its bounds does not compare, and the other
comparison alone rules it out. -/
theorem bounds_of_outsideOneBound {v low high : Value} (h : v.OutsideOneBound low high) :
    betweenTruth v low high = .unknown
      ∧ (compareTruth .ge v low).and (compareTruth .le v high) = .no := by
  unfold betweenTruth compareTruth
  rcases h with ⟨hlow, hhigh⟩ | ⟨hlow, hhigh⟩
  · rw [hlow, hhigh]
    decide
  · rw [hlow, hhigh]
    decide

/-- Wherever else a bound does not compare, the comparisons are unknown as
well. -/
theorem bounds_of_not_outsideOneBound {v low high : Value} (h : ¬ v.OutsideOneBound low high) :
    betweenTruth v low high = (compareTruth .ge v low).and (compareTruth .le v high) := by
  unfold Value.OutsideOneBound at h
  unfold betweenTruth compareTruth
  cases hlow : v.compare? low with
  | none =>
      cases hhigh : v.compare? high with
      | none => rfl
      | some o =>
          rw [hlow, hhigh] at h
          cases o with
          | gt => exact absurd (.inr ⟨rfl, rfl⟩) h
          | lt | eq => rfl
  | some o =>
      cases hhigh : v.compare? high with
      | none =>
          rw [hlow, hhigh] at h
          cases o with
          | lt => exact absurd (.inl ⟨rfl, rfl⟩) h
          | gt | eq => rfl
      | some o' => cases o <;> cases o' <;> rfl

/-- A range has the truth value of its two comparisons exactly if the cell
is not outside one bound while it does not compare with the other. If it
is, the range is unknown, negated or not, while the comparisons are
false. Unnegated, both select the same rows. -/
theorem range_is_two_comparisons_iff (column : String) (low high : Value) (negated : Bool)
    (row : Row) :
    ((between column low high negated).eval row
        = (boundsTruth row column low high).negateIf negated
      ↔ ¬ (row.cell column).OutsideOneBound low high)
      ∧ ((row.cell column).OutsideOneBound low high →
          (between column low high negated).eval row = .unknown
            ∧ boundsTruth row column low high = .no)
      ∧ (between column low high false).keeps row = (boundsTruth row column low high).holds := by
  have hbounds : boundsTruth row column low high
      = (compareTruth .ge (row.cell column) low).and (compareTruth .le (row.cell column) high) :=
    rfl
  rw [keeps, eval, eval, hbounds]
  by_cases h : (row.cell column).OutsideOneBound low high
  · obtain ⟨hrange, hcomparisons⟩ := bounds_of_outsideOneBound h
    rw [hrange, hcomparisons]
    cases negated <;> simp [h, Truth.negateIf, Truth.not, Truth.holds]
  · rw [bounds_of_not_outsideOneBound h]
    exact ⟨iff_of_true rfl h, fun h' => absurd h' h, rfl⟩

/-- Five is above a range that ends at three and has null for its low
bound. -/
theorem range_without_low_bound :
    let row := Row.empty.set "age" (.int 5)
    (row.cell "age").OutsideOneBound .null (.int 3)
      ∧ (between "age" .null (.int 3) true).eval row = .unknown
      ∧ boundsTruth row "age" .null (.int 3) = .no := by
  intro row
  have h : (row.cell "age").OutsideOneBound .null (.int 3) := .inr ⟨rfl, by decide +kernel⟩
  obtain ⟨hrange, hcomparisons⟩ :=
    (range_is_two_comparisons_iff "age" .null (.int 3) true row).2.1 h
  exact ⟨h, hrange, hcomparisons⟩

/-- A search for what is not in that range does not find the five. -/
theorem negated_range_misses_row :
    ¬ ∀ (column : String) (low high : Value) (negated : Bool) (row : Row),
      (between column low high negated).eval row
        = (boundsTruth row column low high).negateIf negated := by
  intro h
  have hrow := h "age" .null (.int 3) true (Row.empty.set "age" (.int 5))
  revert hrow
  decide +kernel

-- =============================================================== lists

/-- Membership in a list as comparisons: equal to one of its values. -/
def equalitiesTruth (row : Row) (column : String) (values : List Value) : Truth :=
  .any (values.map fun v => (compare column .eq v).eval row)

section Membership

variable {v : Value} {values : List Value}

/-- A value equals one of a list if it compares as equal with it. -/
theorem equalities_eq_yes_iff :
    Truth.any (values.map (compareTruth .eq v)) = .yes
      ↔ ∃ w ∈ values, v.compare? w = some .eq := by
  rw [Truth.any_eq_yes_iff, List.mem_map]
  simp only [compareTruth_eq_yes_iff]

/-- A value equals none of a list if it compares with all as something else.
-/
theorem equalities_eq_no_iff :
    Truth.any (values.map (compareTruth .eq v)) = .no
      ↔ ∀ w ∈ values, v.compare? w ≠ none ∧ v.compare? w ≠ some .eq := by
  rw [Truth.any_eq_no_iff, List.forall_mem_map]
  simp only [compareTruth_eq_no_iff]

/-- A value is a member if it compares as equal with one. -/
theorem memberTruth_eq_yes_iff :
    memberTruth v values = .yes ↔ ∃ w ∈ values, v.compare? w = some .eq := by
  unfold memberTruth
  cases values with
  | nil => simp
  | cons w ws =>
      rw [List.isEmpty_cons, if_neg Bool.false_ne_true]
      split
      case isTrue hnull =>
        rw [Value.eq_null_of_isNull hnull]
        refine iff_of_false (by decide) ?_
        rintro ⟨u, -, hu⟩
        cases hu
      case isFalse =>
        split
        case isTrue hequal => exact iff_of_true rfl (by simpa using hequal)
        case isFalse hequal =>
          refine iff_of_false ?_ (by simpa using hequal)
          split <;> decide

/-- A value is no member if the list is empty, or nothing is null and
nothing compares as equal. -/
theorem memberTruth_eq_no_iff :
    memberTruth v values = .no
      ↔ values = [] ∨ (v.isNull = false
          ∧ ∀ w ∈ values, w.isNull = false ∧ v.compare? w ≠ some .eq) := by
  unfold memberTruth
  cases values with
  | nil => simp
  | cons w ws =>
      rw [List.isEmpty_cons, if_neg Bool.false_ne_true]
      split
      case isTrue hnull => simp [hnull]
      case isFalse hvalue =>
        split
        case isTrue hequal =>
          obtain ⟨u, hu, hcompare⟩ := List.any_eq_true.1 hequal
          refine iff_of_false (by decide) ?_
          rintro (h | ⟨-, h⟩)
          · cases h
          · exact (h u hu).2 (beq_iff_eq.1 hcompare)
        case isFalse hequal =>
          split
          case isTrue hnull =>
            obtain ⟨u, hu, hnull⟩ := List.any_eq_true.1 hnull
            refine iff_of_false (by decide) ?_
            rintro (h | ⟨-, h⟩)
            · cases h
            · exact absurd hnull (by simp [(h u hu).1])
          case isFalse hnull =>
            refine iff_of_true rfl (.inr ⟨by simpa using hvalue, fun u hu => ⟨?_, ?_⟩⟩)
            · simpa using mt (fun h => List.any_eq_true.2 ⟨u, hu, h⟩) hnull
            · simpa using mt (fun h => List.any_eq_true.2 ⟨u, hu, h⟩) hequal

/-- A value that is overlooked is said not to be in the list, though some
comparison leaves it unknown. -/
theorem equalities_of_overlookedIn (h : v.OverlookedIn values) :
    memberTruth v values = .no
      ∧ Truth.any (values.map (compareTruth .eq v)) = .unknown := by
  obtain ⟨hvalue, hothers, w, hw, hnone⟩ := h
  refine ⟨memberTruth_eq_no_iff.2 (.inr ⟨hvalue, hothers⟩), Truth.eq_unknown_of_ne ?_ ?_⟩
  · intro hyes
    obtain ⟨u, hu, hequal⟩ := equalities_eq_yes_iff.1 hyes
    exact (hothers u hu).2 hequal
  · intro hno
    exact (equalities_eq_no_iff.1 hno w hw).1 hnone

/-- Any other value is in the list as far as one of the comparisons says. -/
theorem equalities_of_not_overlookedIn (h : ¬ v.OverlookedIn values) :
    memberTruth v values = Truth.any (values.map (compareTruth .eq v)) := by
  refine Truth.eq_of_iff ?_ ?_
  · rw [memberTruth_eq_yes_iff, equalities_eq_yes_iff]
  · rw [memberTruth_eq_no_iff, equalities_eq_no_iff]
    constructor
    · rintro (rfl | ⟨hvalue, hothers⟩) w hw
      · cases hw
      · exact ⟨fun hnone => h ⟨hvalue, hothers, w, hw, hnone⟩, (hothers w hw).2⟩
    · intro hall
      cases values with
      | nil => exact .inl rfl
      | cons w ws =>
          -- A value that compares with another is not null, nor is the other.
          have hnull : ∀ u ∈ w :: ws, v.isNull = false ∧ u.isNull = false := by
            intro u hu
            refine ⟨Bool.eq_false_iff.2 fun hv => ?_, Bool.eq_false_iff.2 fun hv => ?_⟩
            · exact (hall u hu).1 (by rw [Value.eq_null_of_isNull hv]; rfl)
            · exact (hall u hu).1 (by rw [Value.eq_null_of_isNull hv, Value.compare?_null])
          exact .inr ⟨(hnull w List.mem_cons_self).1,
            fun u hu => ⟨(hnull u hu).2, (hall u hu).2⟩⟩

end Membership

variable {row : Row} {column : String}

/-- A list has the truth value of its equalities exactly if it does not
overlook the cell. -/
theorem eval_inList_eq_iff {values : List Value} {negated : Bool} :
    (inList column values negated).eval row = (equalitiesTruth row column values).negateIf negated
      ↔ ¬ (row.cell column).OverlookedIn values := by
  have hequalities : equalitiesTruth row column values
      = .any (values.map (compareTruth .eq (row.cell column))) := rfl
  rw [eval, hequalities]
  by_cases h : (row.cell column).OverlookedIn values
  · obtain ⟨hlist, hchain⟩ := equalities_of_overlookedIn h
    rw [hlist, hchain]
    exact iff_of_false (by cases negated <;> decide) (not_not_intro h)
  · rw [equalities_of_not_overlookedIn h]
    exact iff_of_true rfl h

-- ================================================= lists of one value

open TableApi.Filter

/-- The operators of list rules, each with the comparison that it stands
for where the list is one value. -/
def scalarOperators : List (Operator × Operator) :=
  [(.oneOf, .equals), (.notOneOf, .notEquals)]

/-- A list of one value is tested as the value is, unless the test overlooks
it. -/
theorem eval_inList_singleton_iff {v : Value} {negated : Bool} :
    (inList column [v] negated).eval row = ((compare column .eq v).eval row).negateIf negated
      ↔ ¬ (row.cell column).OverlookedIn [v] := by
  have hequalities : equalitiesTruth row column [v] = (compare column .eq v).eval row :=
    Truth.or_no _
  rw [← hequalities]
  exact eval_inList_eq_iff

/-- A list rule with one value is accepted with the comparison, and has its
truth value exactly if it does not overlook the cell. -/
theorem eval_scalar_list_iff (hcolumn : isIdentifier column = true) {value : Option Value}
    (hscalar : ∀ items, value ≠ some (.array items)) {list comparison : Operator}
    (hmem : (list, comparison) ∈ scalarOperators) :
    ∃ c d, (Rule.mk column list value).compile = .ok c
      ∧ (Rule.mk column comparison value).compile = .ok d
      ∧ (c.eval row = d.eval row
          ↔ ¬ (row.cell column).OverlookedIn [value.getD .null]) := by
  have hlisted : listed (value.getD .null) = [value.getD .null] := by
    cases value with
    | none => rfl
    | some v =>
        cases v with
        | array items => exact absurd rfl (hscalar items)
        | _ => rfl
  have hcompile : ∀ op, (Rule.mk column op value).compile = (Rule.mk column op value).condition :=
    fun _ => Rule.compile_of_isIdentifier hcolumn
  simp only [scalarOperators, List.mem_cons, List.not_mem_nil, or_false, Prod.mk.injEq] at hmem
  rcases hmem with ⟨rfl, rfl⟩ | ⟨rfl, rfl⟩
  · refine ⟨_, _, hcompile _, hcompile _, ?_⟩
    rw [hlisted]
    exact eval_inList_singleton_iff
  · refine ⟨_, _, hcompile _, hcompile _, ?_⟩
    have hne : (compare column .ne (value.getD .null)).eval row
        = ((compare column .eq (value.getD .null)).eval row).negateIf true :=
      compareTruth_opposite .eq _ _
    rw [hlisted, hne]
    exact eval_inList_singleton_iff

/-- Membership in a list has the truth value of the equalities with its
values exactly if the list does not overlook the cell. If it does, the
cell is said not to be in the list, while the equalities are unknown.
Unnegated, both select the same rows. And what is said of a list with one
value, and of the comparison with it, is the same on the same terms. -/
theorem list_is_equalities_iff (column : String) (values : List Value) (negated : Bool)
    (row : Row) :
    ((inList column values negated).eval row
        = (equalitiesTruth row column values).negateIf negated
      ↔ ¬ (row.cell column).OverlookedIn values)
      ∧ ((row.cell column).OverlookedIn values →
          (inList column values negated).eval row = Truth.no.negateIf negated
            ∧ equalitiesTruth row column values = .unknown)
      ∧ (inList column values false).keeps row = (equalitiesTruth row column values).holds
      ∧ ∀ value : Option Value, isIdentifier column = true →
          (∀ items, value ≠ some (.array items)) → ∀ p ∈ scalarOperators,
            ∃ c d, (Rule.mk column p.1 value).compile = .ok c
              ∧ (Rule.mk column p.2 value).compile = .ok d
              ∧ (c.eval row = d.eval row
                  ↔ ¬ (row.cell column).OverlookedIn [value.getD .null]) := by
  refine ⟨eval_inList_eq_iff, fun h => ?_, ?_,
    fun value hcolumn hscalar p hp => eval_scalar_list_iff hcolumn hscalar hp⟩
  · obtain ⟨hlist, hchain⟩ := equalities_of_overlookedIn h
    rw [eval, hlist]
    exact ⟨rfl, hchain⟩
  · by_cases h : (row.cell column).OverlookedIn values
    · obtain ⟨hlist, hchain⟩ := equalities_of_overlookedIn h
      have hunknown : equalitiesTruth row column values = .unknown := hchain
      rw [keeps, eval, hlist, hunknown]
      rfl
    · rw [keeps, eval_inList_eq_iff.2 h]
      rfl

/-- A flag in a list of its own text: the two do not compare, and the list
overlooks it. -/
theorem list_overlooks_flag :
    let row := Row.empty.set "active" (.bool true)
    (row.cell "active").OverlookedIn [.string "true"]
      ∧ (inList "active" [.string "true"] true).eval row = .yes
      ∧ equalitiesTruth row "active" [.string "true"] = .unknown
      ∧ ∃ c d, (Rule.mk "active" .notOneOf (some (.string "true"))).compile = .ok c
          ∧ (Rule.mk "active" .notEquals (some (.string "true"))).compile = .ok d
          ∧ c.eval row ≠ d.eval row := by
  intro row
  have hnone : (row.cell "active").compare? (.string "true") = none := rfl
  have h : (row.cell "active").OverlookedIn [.string "true"] := by
    refine ⟨rfl, List.forall_mem_singleton.2 ⟨rfl, ?_⟩, _, List.mem_singleton_self _, hnone⟩
    rw [hnone]
    decide
  obtain ⟨-, hsplit, -, hscalar⟩ := list_is_equalities_iff "active" [.string "true"] true row
  obtain ⟨c, d, hc, hd, hiff⟩ := hscalar (some (.string "true")) (by decide +kernel)
    (fun items hitems => by cases hitems) (.notOneOf, .notEquals) (by decide)
  exact ⟨h, (hsplit h).1, (hsplit h).2, c, d, hc, hd, fun heq => hiff.1 heq h⟩

/-- A search for what is not in that list finds the flag, while a search
for what differs from its one value does not. -/
theorem negated_list_finds_flag :
    ¬ ∀ (column : String) (values : List Value) (negated : Bool) (row : Row), values ≠ [] →
      (inList column values negated).eval row
        = (equalitiesTruth row column values).negateIf negated := by
  intro h
  have hrow := h "active" [.string "true"] true (Row.empty.set "active" (.bool true)) (by simp)
  revert hrow
  decide

end Condition

end TableApi
