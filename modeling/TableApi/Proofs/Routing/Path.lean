/-
Paths that no router can hold together.

Two paths conflict where parameters of different names meet behind
segments that are alike. So what stands before both does not matter:
below one base path the full paths conflict just where the paths below
it do. A base path itself, with a slash behind it or without, conflicts
with nothing below it.
-/
import TableApi.Proofs.Text.Split
import TableApi.Routing.Registration

namespace TableApi

namespace Routing.Path

-- ============================================================== segments

/-- The path begins with a slash. -/
def IsRooted (path : String) : Prop := path.toList.head? = some '/'

theorem isRooted_of_isRoutePath {path : String} (h : isRoutePath path = true) :
    IsRooted path := by
  rw [isRoutePath, Bool.and_eq_true, beq_iff_eq] at h
  exact h.1

theorem ne_empty_of_isRooted {path : String} (h : IsRooted path) : path ≠ "" := by
  rintro rfl
  cases h

/-- Behind the slash that it begins with, a path has the segments `ss`. -/
theorem IsRooted.segments {path : String} (h : IsRooted path) :
    ∃ ss, Path.segments path = [] :: ss
      ∧ ∀ base : String, Path.segments (base ++ path) = Path.segments base ++ ss := by
  unfold IsRooted at h
  unfold Path.segments
  cases hpath : path.toList with
  | nil => rw [hpath] at h; cases h
  | cons c cs =>
      rw [hpath] at h
      obtain rfl := Option.some.inj h
      refine ⟨cs.splitOn '/', Text.splitOn_cons_self '/' cs, fun base => ?_⟩
      rw [String.toList_append, hpath, List.splitOn_append_cons_self]

-- ============================================================= conflicts

theorem segmentsConflict_nil_right (ss : List (List Char)) :
    segmentsConflict ss [] = false := by
  cases ss <;> rfl

theorem segmentsConflict_comm :
    ∀ ss ts : List (List Char), segmentsConflict ss ts = segmentsConflict ts ss
  | [], ts => (segmentsConflict_nil_right ts).symm
  | ss, [] => segmentsConflict_nil_right ss
  | s :: ss, t :: ts => by
      have ih := segmentsConflict_comm ss ts
      cases hs : parameter? s with
      | none =>
          cases ht : parameter? t with
          | none => simp only [segmentsConflict, hs, ht, ih, eq_comm (a := s)]
          | some n => simp only [segmentsConflict, hs, ht]
      | some m =>
          cases ht : parameter? t with
          | none => simp only [segmentsConflict, hs, ht]
          | some n => simp only [segmentsConflict, hs, ht, ih, eq_comm (a := m)]

/-- Segments that both begin with do not matter. -/
theorem segmentsConflict_append (ss ts : List (List Char)) :
    ∀ common : List (List Char),
      segmentsConflict (common ++ ss) (common ++ ts) = segmentsConflict ss ts
  | [] => rfl
  | s :: common => by
      have ih := segmentsConflict_append ss ts common
      cases hs : parameter? s <;> simp [segmentsConflict, hs, ih]

theorem conflict_comm (p q : String) : conflict p q = conflict q p :=
  segmentsConflict_comm _ _

theorem conflict_self (p : String) : conflict p p = false := by
  have h := segmentsConflict_append [] [] (segments p)
  rwa [List.append_nil] at h

variable {base p q : String}

/-- A common base path does not matter. -/
theorem conflict_append (base : String) (hp : IsRooted p) (hq : IsRooted q) :
    conflict (base ++ p) (base ++ q) = conflict p q := by
  obtain ⟨ss, hp, hbelow⟩ := hp.segments
  obtain ⟨ts, hq, hbelow'⟩ := hq.segments
  -- In front of their first slash both paths have an empty segment.
  rw [conflict, conflict, hbelow, hbelow', hp, hq, segmentsConflict_append]
  exact (segmentsConflict_append ss ts [[]]).symm

/-- A path does not conflict with one below it. -/
theorem conflict_below (base : String) (hp : IsRooted p) : conflict (base ++ p) base = false := by
  obtain ⟨ss, -, hbelow⟩ := hp.segments
  have h := segmentsConflict_append ss [] (segments base)
  rw [List.append_nil, segmentsConflict_nil_right] at h
  rwa [conflict, hbelow]

-- =========================================================== served forms

theorem mem_servedForms {form path : String} :
    form ∈ servedForms base path
      ↔ (base = "/" ∧ form = path) ∨ (base ≠ "/" ∧ form = base ++ path)
        ∨ (base ≠ "/" ∧ path = "/" ∧ form = base) := by
  unfold servedForms join
  by_cases hbase : base = "/" <;> by_cases hpath : path = "/" <;> simp [hbase, hpath]

/-- Below one base path, the forms of paths that do not conflict do not
conflict. -/
theorem conflict_servedForms {a b : String} (hp : IsRooted p) (hq : IsRooted q)
    (h : conflict p q = false) (ha : a ∈ servedForms base p) (hb : b ∈ servedForms base q) :
    conflict a b = false := by
  rcases mem_servedForms.1 ha with ⟨hroot, rfl⟩ | ⟨hbase, rfl⟩ | ⟨hbase, -, rfl⟩
  · rcases mem_servedForms.1 hb with ⟨-, rfl⟩ | ⟨hbase, -⟩ | ⟨hbase, -⟩
    · exact h
    · exact absurd hroot hbase
    · exact absurd hroot hbase
  · rcases mem_servedForms.1 hb with ⟨hroot, -⟩ | ⟨-, rfl⟩ | ⟨-, -, rfl⟩
    · exact absurd hroot hbase
    · exact (conflict_append base hp hq).trans h
    · exact conflict_below _ hp
  · rcases mem_servedForms.1 hb with ⟨hroot, -⟩ | ⟨-, rfl⟩ | ⟨-, -, rfl⟩
    · exact absurd hroot hbase
    · exact (conflict_comm _ _).trans (conflict_below _ hq)
    · exact conflict_self _

end Routing.Path

end TableApi
