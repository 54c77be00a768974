/-
What is found of a record in an object.

The fields of an object are taken one by one, and each goes to the field of
the record that its key names. So a record is found exactly if every key is
text, everything under a foreign key may be skipped, and no field of the
record is given twice, under one of its names or under two of them; what is
found is what stands under these names (`ofObject_eq_ok_iff`).
-/
import Mathlib.Data.List.Basic
import TableApi.Json.Record

namespace TableApi.Json.Record

variable {β γ : Type} {names : List (List String)} {skippable : β → Bool}
variable {fields : List (FieldKey × β)} {found found' : List (Option β)}

/-- What stands under any of the names, in the order of the text. -/
def under (names : List String) (fields : List (FieldKey × β)) : List β :=
  fields.filterMap fun field => if field.1.any names.contains then some field.2 else none

theorem under_cons (group : List String) (key : String) (source : β)
    (rest : List (FieldKey × β)) :
    under group ((some key, source) :: rest)
      = if key ∈ group then source :: under group rest else under group rest := by
  simp only [under, List.filterMap_cons, Option.any_some, List.contains_iff_mem]
  split
  · next h => split at h <;> simp_all
  · next h => split at h <;> simp_all

theorem under_map (f : β → γ) (group : List String) (fields : List (FieldKey × β)) :
    under group (fields.map fun field => (field.1, f field.2)) = (under group fields).map f := by
  induction fields with
  | nil => rfl
  | cons field rest ih =>
      obtain ⟨_ | key, source⟩ := field
      · exact ih
      · rw [List.map_cons, under_cons, under_cons, ih]
        split <;> rfl

-- ============================================================== positions

theorem position?_eq_none_iff {key : String} :
    position? names key = none ↔ ∀ group ∈ names, key ∉ group := by
  simp [position?, List.findIdx?_eq_none_iff]

/-- No name stands for two fields. -/
theorem position?_eq_some_iff (hnames : names.Pairwise List.Disjoint) {key : String} {i : Nat} :
    position? names key = some i ↔ ∃ h : i < names.length, key ∈ names[i] := by
  rw [position?, List.findIdx?_eq_some_iff_getElem]
  constructor
  · rintro ⟨h, hmem, -⟩
    exact ⟨h, List.contains_iff_mem.1 hmem⟩
  · rintro ⟨h, hmem⟩
    refine ⟨h, List.contains_iff_mem.2 hmem, fun j hj hmem' => ?_⟩
    exact List.pairwise_iff_getElem.1 hnames j i (by omega) h hj
      (List.contains_iff_mem.1 hmem') hmem

-- ================================================================= objects

/-- Every key is text, and what stands under a foreign key may be skipped. -/
def Passable (names : List (List String)) (skippable : β → Bool)
    (fields : List (FieldKey × β)) : Prop :=
  ∀ field ∈ fields, ∃ key, field.1 = some key
    ∧ ((∀ group ∈ names, key ∉ group) → skippable field.2 = true)

/-- What was found before and what the fields bring make up what is found
in the end, at most one for each field of the record. -/
def Completes (names : List (List String)) (fields : List (FieldKey × β))
    (found found' : List (Option β)) : Prop :=
  ∀ i (h : i < names.length),
    found[i]?.join.toList ++ under names[i] fields = found'[i]?.join.toList

/-- A foreign field brings nothing. -/
theorem completes_cons_foreign {key : String} {source : β} {rest : List (FieldKey × β)}
    (hforeign : ∀ group ∈ names, key ∉ group) :
    Completes names ((some key, source) :: rest) found found'
      ↔ Completes names rest found found' := by
  unfold Completes
  refine forall₂_congr fun i h => ?_
  rw [under_cons, if_neg (hforeign _ (List.getElem_mem h))]

/-- A field that is found takes its place, which has to be free. -/
theorem completes_cons_found (hnames : names.Pairwise List.Disjoint)
    (hlength : found.length = names.length) {key : String} {source : β}
    {rest : List (FieldKey × β)} {i : Nat} (hi : position? names key = some i) :
    Completes names ((some key, source) :: rest) found found'
      ↔ found[i]?.join = none ∧ Completes names rest (found.set i (some source)) found' := by
  obtain ⟨hbound, hmem⟩ := (position?_eq_some_iff hnames).1 hi
  have hothers : ∀ j (h : j < names.length), j ≠ i → key ∉ names[j] := by
    intro j h hne hmem'
    have hj := (position?_eq_some_iff hnames).2 ⟨h, hmem'⟩
    exact hne (Option.some.inj (hj.symm.trans hi))
  have hself : (found.set i (some source))[i]?.join = some source := by
    rw [List.getElem?_set_self (by omega)]
    rfl
  constructor
  · intro h
    have hfree : found[i]?.join = none := by
      have hparts := h i hbound
      rw [under_cons, if_pos hmem] at hparts
      cases hfound : found[i]?.join with
      | none => rfl
      | some a =>
          rw [hfound] at hparts
          cases hfound' : found'[i]?.join with
          | none => rw [hfound'] at hparts; cases hparts
          | some a' => rw [hfound'] at hparts; cases hparts
    refine ⟨hfree, fun j hj => ?_⟩
    have hparts := h j hj
    rw [under_cons] at hparts
    by_cases hji : j = i
    · subst hji
      rw [if_pos hmem, hfree] at hparts
      rw [hself]
      exact hparts
    · rw [if_neg (hothers j hj hji)] at hparts
      rw [List.getElem?_set_ne (Ne.symm hji)]
      exact hparts
  · rintro ⟨hfree, h⟩ j hj
    have hparts := h j hj
    rw [under_cons]
    by_cases hji : j = i
    · subst hji
      rw [hself] at hparts
      rw [if_pos hmem, hfree]
      exact hparts
    · rw [List.getElem?_set_ne (Ne.symm hji)] at hparts
      rw [if_neg (hothers j hj hji)]
      exact hparts

/-- Without fields nothing is found. -/
theorem completes_nil (hlength : found.length = names.length) :
    found'.length = names.length ∧ Completes names [] found found' ↔ found = found' := by
  constructor
  · rintro ⟨hlength', h⟩
    refine List.ext_getElem (by omega) fun i hi hi' => ?_
    have hparts := h i (by omega)
    rw [List.getElem?_eq_getElem hi, List.getElem?_eq_getElem hi'] at hparts
    have hlists : found[i].toList = found'[i].toList := by simpa [under] using hparts
    simpa using congrArg List.head? hlists
  · rintro rfl
    exact ⟨hlength, fun _ _ => List.append_nil _⟩

theorem passable_cons {key : String} {source : β} {rest : List (FieldKey × β)} :
    Passable names skippable ((some key, source) :: rest)
      ↔ (position? names key = none → skippable source = true)
        ∧ Passable names skippable rest := by
  rw [position?_eq_none_iff, Passable, List.forall_mem_cons]
  simp [Passable]

theorem collect_eq_ok_iff (hnames : names.Pairwise List.Disjoint)
    (hlength : found.length = names.length) :
    collect names skippable (fun _ source => .ok source) found fields = .ok found'
      ↔ Passable names skippable fields ∧ found'.length = names.length
        ∧ Completes names fields found found' := by
  induction fields generalizing found with
  | nil =>
      rw [completes_nil hlength, collect, Except.ok.injEq]
      exact ⟨fun h => ⟨List.forall_mem_nil _, h⟩, And.right⟩
  | cons field rest ih =>
      obtain ⟨_ | key, source⟩ := field
      · refine iff_of_false (fun h => nomatch h) ?_
        rintro ⟨hpassable, -⟩
        obtain ⟨key, hkey, -⟩ := hpassable _ List.mem_cons_self
        cases hkey
      · rw [passable_cons, collect]
        cases hposition : position? names key with
        | none =>
          simp only
          rw [completes_cons_foreign (position?_eq_none_iff.1 hposition)]
          cases skippable source with
          | false => simp
          | true => simpa using ih hlength
        | some i =>
          simp only
          rw [completes_cons_found hnames hlength hposition]
          cases hfound : found[i]?.join with
          | some a => simp
          | none =>
              have hlength' : (found.set i (some source)).length = names.length := by
                rwa [List.length_set]
              simpa using ih hlength'

/-- The fields of a record that an object holds: what stands under the names
of each, which is at most one. -/
theorem ofObject_eq_ok_iff (hnames : names.Pairwise List.Disjoint) {closed : Bool} :
    ofObject names skippable (fun _ source => .ok source) fields closed = .ok found
      ↔ closed = true ∧ Passable names skippable fields ∧ found.length = names.length
        ∧ ∀ i (h : i < names.length), under names[i] fields = found[i]?.join.toList := by
  have hnone : (names.map fun _ => (none : Option β)).length = names.length := List.length_map _
  have hempty : ∀ i : Nat, ((names.map fun _ => (none : Option β))[i]?).join = none := by
    intro i
    rw [List.getElem?_map]
    cases names[i]? <;> rfl
  have hcollect : ∀ found', collect names skippable (fun _ source => .ok source)
      (names.map fun _ => none) fields = .ok found' ↔ Passable names skippable fields
        ∧ found'.length = names.length
        ∧ ∀ i (h : i < names.length), under names[i] fields = found'[i]?.join.toList := by
    intro found'
    rw [collect_eq_ok_iff hnames hnone]
    unfold Completes
    simp only [hempty, Option.toList_none, List.nil_append]
  rw [ofObject, ← hcollect found]
  cases collect names skippable (fun _ source => .ok source) (names.map fun _ => none) fields with
  | error fault => simp
  | ok found' => cases closed <;> simp

/-- The same of a record with three fields. -/
theorem ofObject_three_eq_ok_iff {first second third : List String}
    (hnames : [first, second, third].Pairwise List.Disjoint) {closed : Bool}
    {a b c : Option β} :
    ofObject [first, second, third] skippable (fun _ source => .ok source) fields closed
        = .ok [a, b, c]
      ↔ closed = true ∧ Passable [first, second, third] skippable fields
        ∧ under first fields = a.toList ∧ under second fields = b.toList
        ∧ under third fields = c.toList := by
  rw [ofObject_eq_ok_iff hnames]
  refine and_congr_right fun _ => and_congr_right fun _ => ?_
  constructor
  · rintro ⟨-, h⟩
    exact ⟨h 0 (by simp), h 1 (by simp), h 2 (by simp)⟩
  · rintro ⟨ha, hb, hc⟩
    refine ⟨rfl, fun i hi => ?_⟩
    match i with
    | 0 => exact ha
    | 1 => exact hb
    | 2 => exact hc

-- ================================================================== arrays

theorem collectItems_eq {n i : Nat} (items : List β) (hi : i ≤ n) :
    collectItems n (fun _ source => .ok source) i items
      = if i + items.length ≤ n then .ok items else .error .syntactic := by
  induction items generalizing i with
  | nil => rw [collectItems, List.length_nil, Nat.add_zero, if_pos hi]
  | cons source rest ih =>
      rw [collectItems, List.length_cons]
      by_cases hfull : n ≤ i
      · rw [if_pos hfull, if_neg (by omega)]
      · simp only [if_neg hfull, ih (show i + 1 ≤ n by omega)]
        have hlength : i + 1 + rest.length = i + (rest.length + 1) := by omega
        rw [hlength]
        split <;> rfl

/-- The fields of a record that an array holds: its items, in their
order. -/
theorem ofArray_eq_ok_iff {items : List β} {closed : Bool} :
    ofArray names (fun _ source => .ok source) items closed = .ok found
      ↔ closed = true ∧ items.length ≤ names.length
        ∧ found = items.map some ++ List.replicate (names.length - items.length) none := by
  rw [ofArray, collectItems_eq items (Nat.zero_le _), Nat.zero_add]
  by_cases hlength : items.length ≤ names.length
  · cases closed <;> simp [hlength, eq_comm]
  · simp [hlength]

end TableApi.Json.Record
