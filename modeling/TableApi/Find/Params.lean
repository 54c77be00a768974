/-
Find options as parameters of a query string.

`filter` (or `where`) holds a filter in JSON, `limit` and `offset` hold
numbers, and `orderBy` (or `order_by`) holds a JSON list of fields or the
short form `name:asc,age:desc`. Other parameters are ignored. Of several
faults the one reported is that of the filter, then of the order, then of
the limit.
-/
import TableApi.Error
import TableApi.Find.Wire
import TableApi.Text.Blank
import TableApi.Text.Split

namespace TableApi.FindOptions

open Json TableApi.Filter

/-- Parameters by name. -/
abbrev Params := String → Option String

/-- Reads the filter parameter; blank text is no filter. -/
def filterOfParam : Option String → Except ApiError (Option Group)
  | none => .ok none
  | some raw =>
      if Text.isAllBlank raw.toList then .ok none
      else match Group.read? raw with
        | some g => .ok (some g)
        | none => .error (.filter .malformed)

/-- Reads a number that a 64-bit signed word holds. -/
def numberOfParam (params : Params) (name : String) : Except ApiError (Option Nat) :=
  match params name with
  | none => .ok none
  | some raw =>
      match Decimal.boundedNat? int64Max.toNat (Text.trim raw.toList) with
      | some n => .ok (some n)
      | none => .error (.badRequest (.pageNumber name raw))

/-- A direction in the short form, in letters of any case. -/
def directionOfWord? (word : List Char) : Option Direction :=
  if word = "asc".toList then some .ascending
  else if word = "desc".toList then some .descending
  else none

/-- One field of the short form: a name, and behind a colon the
direction. -/
def orderFieldOfText (item : List Char) : Except ApiError OrderField :=
  let (field, direction) := (Text.splitOnce? ':' item).getD (item, "asc".toList)
  let word := Text.asciiLower (Text.trim direction)
  match directionOfWord? word with
  | some d => .ok ⟨String.ofList (Text.trim field), d⟩
  | none => .error (.badRequest (.orderDirection (String.ofList word) (String.ofList field)))

/-- The items of the short form: trimmed, empty ones left out. -/
def orderItems (text : List Char) : List (List Char) :=
  ((text.splitOn ',').map Text.trim).filter (!·.isEmpty)

/-- Reads the fields to sort by; the first wrong item is reported. -/
def orderOfText (raw : String) : Except ApiError (List OrderField) :=
  let text := Text.trim raw.toList
  if text.head? = some '[' then
    match (Document.readOnly? (String.ofList text)).bind OrderField.listOfDocument? with
    | some fields => .ok fields
    | none => .error (.badRequest .orderList)
  else (orderItems text).mapM orderFieldOfText

/-- Reads the order parameter. -/
def orderOfParam : Option String → Except ApiError (List OrderField)
  | none => .ok []
  | some raw => orderOfText raw

/-- The options in the parameters of a query string. -/
def ofParams (params : Params) : Except ApiError FindOptions := do
  let filter ← filterOfParam ((params "filter").or (params "where"))
  let order ← orderOfParam ((params "orderBy").or (params "order_by"))
  let limit ← numberOfParam params "limit"
  let offset ← numberOfParam params "offset"
  return ⟨filter, limit, offset, order⟩

end TableApi.FindOptions
