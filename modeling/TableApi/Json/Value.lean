/-
JSON values, and rows: the JSON objects that tables hold.

A number keeps the form it was written in: `1` is an integer and `1.0`
a float, two different values. An object keeps its fields in ascending
order of the keys, each key once. `Row` is an object with that order as
part of the type, so two rows with the same cells are equal
(`Row.ext`); the nested objects inside a `Value` get it from the
functions that build them.
-/
import TableApi.Numeric.Double
import TableApi.Numeric.Range

namespace TableApi

namespace Json

-- ============================================================== numbers

/-- A number: an integer of at most 64 bits, or a double. -/
inductive Number where
  | int (n : Int)
  | float (x : Double)
deriving DecidableEq

namespace Number

/-- The nearest double. -/
def toDouble : Number → Double
  | int n => .ofInt n
  | float x => x

/-- The number if it is an integer that a signed 64-bit word holds. -/
def toInt64? : Number → Option Int
  | int n => if int64Min ≤ n ∧ n ≤ int64Max then some n else none
  | float _ => none

/-- The number if it is an integer that an unsigned 64-bit word holds. -/
def toNat64? : Number → Option Nat
  | int n => if 0 ≤ n ∧ n ≤ nat64Max then some n.toNat else none
  | float _ => none

/-- Equality of form and value: an integer never equals a float, and the
two zeros of the floats are equal. -/
def same : Number → Number → Bool
  | int m, int n => m == n
  | float x, float y => x.same y
  | _, _ => false

end Number

-- =============================================================== values

inductive Value where
  | null
  | bool (b : Bool)
  | number (n : Number)
  | string (s : String)
  | array (items : List Value)
  | object (fields : List (String × Value))

namespace Value

instance : Inhabited Value := ⟨.null⟩

/-- An integer as a value. -/
def int (n : Int) : Value := .number (.int n)

/-- A natural number as a value. -/
def nat (n : Nat) : Value := .number (.int n)

def isNull : Value → Bool
  | null => true
  | _ => false

mutual

/-- Structural equality, with numbers compared by `Number.same`. -/
def same : Value → Value → Bool
  | null, null => true
  | bool a, bool b => a == b
  | number m, number n => m.same n
  | string s, string t => s == t
  | array xs, array ys => sameItems xs ys
  | object fs, object gs => sameFields fs gs
  | _, _ => false

def sameItems : List Value → List Value → Bool
  | [], [] => true
  | x :: xs, y :: ys => same x y && sameItems xs ys
  | _, _ => false

def sameFields : List (String × Value) → List (String × Value) → Bool
  | [], [] => true
  | (k, x) :: xs, (l, y) :: ys => k == l && same x y && sameFields xs ys
  | _, _ => false

end

end Value

-- =============================================================== fields

/-- Fields in ascending order of their keys. -/
abbrev Ascending (fields : List (String × Value)) : Prop :=
  fields.Pairwise fun a b => a.1 < b.1

/-- Sets the field `key`, keeping the order. -/
def setField (key : String) (value : Value) :
    List (String × Value) → List (String × Value)
  | [] => [(key, value)]
  | (k, v) :: rest =>
      if key < k then (key, value) :: (k, v) :: rest
      else if key = k then (key, value) :: rest
      else (k, v) :: setField key value rest

/-- The value of the field `key`. -/
def getField? (key : String) : List (String × Value) → Option Value
  | [] => none
  | (k, v) :: rest => if key = k then some v else getField? key rest

/-- Fields put in order; of two with one key the later is kept. -/
def orderFields (fields : List (String × Value)) : List (String × Value) :=
  fields.foldl (fun acc field => setField field.1 field.2 acc) []

/-- An object from fields in any order. -/
def Value.ofFields (fields : List (String × Value)) : Value :=
  .object (orderFields fields)

/-- The field `key` of an object. -/
def Value.field? (key : String) : Value → Option Value
  | .object fields => getField? key fields
  | _ => none

end Json

open Json

-- ================================================================= rows

/-- A row of a table: its cells by column name. -/
structure Row where
  fields : List (String × Value)
  ascending : Ascending fields

namespace Row

private theorem mem_setField {key : String} {value : Value} {a : String × Value} :
    ∀ {fields : List (String × Value)}, a ∈ setField key value fields →
      a = (key, value) ∨ a ∈ fields
  | [], h => by simpa [setField] using h
  | (k, v) :: rest, h => by
      unfold setField at h
      split at h
      · simpa using h
      · split at h
        · rcases List.mem_cons.1 h with h | h
          · exact .inl h
          · exact .inr (List.mem_cons_of_mem _ h)
        · rcases List.mem_cons.1 h with h | h
          · exact .inr (h ▸ List.mem_cons_self)
          · exact (mem_setField h).imp_right (List.mem_cons_of_mem _)

private theorem lt_of_not_le {key k : String} (hlt : ¬ key < k) (hne : key ≠ k) :
    k < key := by
  rcases Std.lt_trichotomy key k with h | h | h
  · exact absurd h hlt
  · exact absurd h hne
  · exact h

theorem ascending_setField {key : String} {value : Value} :
    ∀ {fields : List (String × Value)}, Ascending fields →
      Ascending (setField key value fields)
  | [], _ => by simp [setField, Ascending]
  | (k, v) :: rest, h => by
      have hrest := List.pairwise_cons.1 h
      unfold setField
      split
      · rename_i hlt
        refine List.pairwise_cons.2 ⟨fun a ha => ?_, h⟩
        rcases List.mem_cons.1 ha with rfl | ha
        · exact hlt
        · exact String.lt_trans hlt (hrest.1 a ha)
      · split
        · rename_i _ heq
          subst heq
          exact List.pairwise_cons.2 ⟨hrest.1, hrest.2⟩
        · rename_i hlt hne
          refine List.pairwise_cons.2 ⟨fun a ha => ?_, ascending_setField hrest.2⟩
          rcases mem_setField ha with rfl | ha
          · exact lt_of_not_le hlt hne
          · exact hrest.1 a ha

/-- The row without cells. -/
def empty : Row := ⟨[], .nil⟩

/-- The cell in `column`, if the row has one. -/
def get? (row : Row) (column : String) : Option Value :=
  getField? column row.fields

/-- The cell in `column`; a missing cell reads as null. -/
def cell (row : Row) (column : String) : Value :=
  (row.get? column).getD .null

/-- The row with `value` in `column`. -/
def set (row : Row) (column : String) (value : Value) : Row :=
  ⟨setField column value row.fields, ascending_setField row.ascending⟩

/-- Whether the row has a cell in `column`, null or not. -/
def has (row : Row) (column : String) : Bool := (row.get? column).isSome

/-- A row from cells in any order; of two in one column the later is
kept. -/
def ofFields (fields : List (String × Value)) : Row :=
  fields.foldl (fun row field => row.set field.1 field.2) empty

/-- The row of a JSON object; other values are no rows. -/
def ofValue? : Value → Option Row
  | .object fields => some (ofFields fields)
  | _ => none

/-- The row as a JSON object. -/
def toValue (row : Row) : Value := .object row.fields

-- ---------------------------------------------------------------- laws

private theorem getField?_setField (key : String) (value : Value) (k' : String) :
    ∀ fields : List (String × Value), Ascending fields →
      getField? k' (setField key value fields)
        = if k' = key then some value else getField? k' fields
  | [], _ => by simp [setField, getField?]
  | (k, v) :: rest, h => by
      have hrest := List.pairwise_cons.1 h
      unfold setField
      split
      · simp [getField?]
      · split
        · rename_i _ heq
          subst heq
          by_cases hk : k' = key <;> simp [getField?, hk]
        · rename_i hlt hne
          by_cases hk : k' = k
          · have : ¬ k' = key := fun h' => hne (h'.symm.trans hk)
            simp [getField?, hk]
            intro h'
            exact absurd h' fun h'' => this (hk.trans h'')
          · simp [getField?, hk, getField?_setField key value k' rest hrest.2]

/-- Setting a cell changes that cell and no other. -/
@[simp] theorem get?_set (row : Row) (column : String) (value : Value) (c : String) :
    (row.set column value).get? c = if c = column then some value else row.get? c :=
  getField?_setField column value c row.fields row.ascending

@[simp] theorem get?_empty (c : String) : empty.get? c = none := rfl

private theorem getField?_eq_none_of_lt {key : String} :
    ∀ {fields : List (String × Value)}, (∀ a ∈ fields, key < a.1) →
      getField? key fields = none
  | [], _ => rfl
  | (k, v) :: rest, h => by
      have hk : key ≠ k := fun heq =>
        String.lt_irrefl k (heq ▸ h (k, v) List.mem_cons_self)
      simp [getField?, hk,
        getField?_eq_none_of_lt fun a ha => h a (List.mem_cons_of_mem _ ha)]

private theorem fields_ext :
    ∀ {fs gs : List (String × Value)}, Ascending fs → Ascending gs →
      (∀ key, getField? key fs = getField? key gs) → fs = gs
  | [], [], _, _, _ => rfl
  | [], (k, v) :: gs, _, _, h => by simpa [getField?] using h k
  | (k, v) :: fs, [], _, _, h => by simpa [getField?] using h k
  | (k, v) :: fs, (l, w) :: gs, hf, hg, h => by
      have hf' := List.pairwise_cons.1 hf
      have hg' := List.pairwise_cons.1 hg
      have hkl : k = l := by
        rcases Std.lt_trichotomy k l with hlt | heq | hlt
        · have hnone := @getField?_eq_none_of_lt k ((l, w) :: gs)
            fun a ha => by
              rcases List.mem_cons.1 ha with rfl | ha
              · exact hlt
              · exact String.lt_trans hlt (hg'.1 a ha)
          have := h k
          rw [hnone] at this
          simp [getField?] at this
        · exact heq
        · have hnone := @getField?_eq_none_of_lt l ((k, v) :: fs)
            fun a ha => by
              rcases List.mem_cons.1 ha with rfl | ha
              · exact hlt
              · exact String.lt_trans hlt (hf'.1 a ha)
          have := h l
          rw [hnone] at this
          simp [getField?] at this
      subst hkl
      have hvw : v = w := by simpa [getField?] using h k
      subst hvw
      congr 1
      refine fields_ext hf'.2 hg'.2 fun key => ?_
      by_cases hk : key = k
      · subst hk
        rw [getField?_eq_none_of_lt hf'.1, getField?_eq_none_of_lt hg'.1]
      · simpa [getField?, hk] using h key

/-- Rows with the same cells are the same row. -/
theorem ext {r s : Row} (h : ∀ c, r.get? c = s.get? c) : r = s := by
  obtain ⟨fs, hf⟩ := r
  obtain ⟨gs, hg⟩ := s
  have : fs = gs := fields_ext hf hg h
  subst this
  rfl

end Row

end TableApi
