/-
Lists of values by key, each key once.
-/

namespace TableApi.Keyed

variable {κ α : Type} [DecidableEq κ]

/-- The value under a key. -/
def get? (key : κ) : List (κ × α) → Option α
  | [] => none
  | (k, a) :: rest => if k = key then some a else get? key rest

/-- Puts a value under a key, in place of the one there. -/
def put (key : κ) (value : α) : List (κ × α) → List (κ × α)
  | [] => [(key, value)]
  | (k, a) :: rest =>
      if k = key then (k, value) :: rest else (k, a) :: put key value rest

/-- A value shows under its key and under no other. -/
@[simp] theorem get?_put (key : κ) (value : α) (other : κ) :
    ∀ entries : List (κ × α),
      get? other (put key value entries)
        = if other = key then some value else get? other entries
  | [] => by
      by_cases h : other = key
      · simp [put, get?, h]
      · simp [put, get?, h, Ne.symm h]
  | (k, a) :: rest => by
      by_cases hk : k = key
      · by_cases h : other = key
        · simp [put, get?, hk, h]
        · simp [put, get?, hk, h, Ne.symm h]
      · by_cases ho : k = other
        · have : ¬ other = key := fun h => hk (ho.trans h)
          simp [put, get?, ho, this]
        · simp [put, get?, hk, ho, get?_put key value other rest]

end TableApi.Keyed
