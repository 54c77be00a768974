/-
The JSON form of find options.
-/
import TableApi.Filter.Wire
import TableApi.Find.Options

namespace TableApi

open Json TableApi.Filter

namespace Direction

def tag : Direction → String
  | ascending => "asc"
  | descending => "desc"

/-- The direction of a tag: lower case or upper case throughout. -/
def ofTag? : String → Option Direction
  | "asc" | "ASC" => some ascending
  | "desc" | "DESC" => some descending
  | _ => none

end Direction

namespace OrderField

def names : List (List String) := [["field", "fieldName", "column"], ["direction"]]

/-- Reads a field to sort by; ascending unless it says otherwise. -/
def ofDocument? (d : Document) : Option OrderField := do
  match ← d.parts? names with
  | [some field, direction] =>
      let field ← field.string?
      let direction ← optional? .ascending (·.tag?.bind Direction.ofTag?) direction
      return ⟨field, direction⟩
  | _ => none

/-- Reads a list of fields to sort by. -/
def listOfDocument? : Document → Option (List OrderField)
  | .array items true => items.mapM ofDocument?
  | _ => none

def toValue (o : OrderField) : Value :=
  Value.ofFields [("field", .string o.field), ("direction", .string o.direction.tag)]

end OrderField

namespace FindOptions

def names : List (List String) :=
  [["filter", "where"], ["limit"], ["offset"], ["orderBy", "order_by"]]

/-- Reads a value that may be null. -/
def nullable? {α : Type} (read : Document → Option α) : Document → Option (Option α)
  | .null => some none
  | d => (read d).map some

/-- The options that a document is, nested no deeper than `nesting`. -/
def ofDocument? (nesting : Nat) (d : Document) : Option FindOptions := do
  match ← d.parts? names with
  | [filter, limit, offset, order] =>
      let filter ← optional? none (nullable? (Group.ofDocument? (nesting - 1))) filter
      let limit ← optional? none (nullable? Document.nat64?) limit
      let offset ← optional? none (nullable? Document.nat64?) offset
      let order ← optional? [] OrderField.listOfDocument? order
      return ⟨filter, limit, offset, order⟩
  | _ => none

/-- The options in a JSON text. -/
def read? (text : String) : Option FindOptions :=
  (Document.readOnly? text).bind (ofDocument? Document.maxDepth)

/-- The options that a JSON value is. -/
def ofValue? (v : Value) : Option FindOptions :=
  let d := Document.ofValue v
  ofDocument? d.depth d

/-- A number or null. -/
def numberValue : Option Nat → Value
  | some n => .nat n
  | none => .null

/-- The JSON form of the options; a missing filter is left out. -/
def toValue (o : FindOptions) : Value :=
  Value.ofFields <|
    (match o.filter with
      | some g => [("filter", g.toValue)]
      | none => [])
    ++ [("limit", numberValue o.limit), ("offset", numberValue o.offset),
      ("orderBy", .array (o.order.map OrderField.toValue))]

end FindOptions

end TableApi
