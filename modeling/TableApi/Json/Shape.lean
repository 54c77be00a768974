/-
Shapes of rows and payloads.

A table accepts any JSON value, or records with typed fields. Reading a
value through a shape yields the value as the shape writes it: only the
known fields, each of its type, an optional field that is null or absent
either written as null or left out.
-/
import TableApi.Json.Record

namespace TableApi

open Json

/-- The type of a field. -/
inductive FieldType where
  | int64
  | text

/-- What becomes of a field. -/
inductive Presence where
  | required
  /-- Null or absent, and then written as null. -/
  | nullable
  /-- Null or absent, and then left out. -/
  | omittable
deriving DecidableEq

structure Field where
  name : String
  type : FieldType
  presence : Presence

inductive Shape where
  | any
  | record (fields : List Field)

namespace FieldType

/-- Reads a value of the type. -/
def read : FieldType → Document → Except Fault Value
  | int64, .number (some n) =>
      match n.toInt64? with
      | some i => .ok (.int i)
      | none => .error .shape
  | text, .string (some s) => .ok (.string s)
  | _, other => .error other.misfit

end FieldType

namespace Field

/-- Reads the value of a field; null counts as absent where the field may
be absent. -/
def read (field : Field) (d : Document) : Except Fault (Option Value) :=
  match field.presence, d with
  | .required, d => (field.type.read d).map some
  | _, .null => .ok none
  | _, d => (field.type.read d).map some

/-- What is written for a field: `none` if a required one is absent. -/
def write? (field : Field) (found : Option Value) : Option (List (String × Value)) :=
  match found, field.presence with
  | some v, _ => some [(field.name, v)]
  | none, .required => none
  | none, .nullable => some [(field.name, .null)]
  | none, .omittable => some []

end Field

namespace Shape

/-- The fields of a record as they are written, in the order of the
record; `none` if a required field is absent. -/
def writeFields? : List Field → List (Option (Option Value)) →
    Option (List (String × Value))
  | [], _ => some []
  | field :: fields, found =>
      match field.write? (found.head?.join.join), writeFields? fields found.tail with
      | some written, some rest => some (written ++ rest)
      | _, _ => none

/-- Reads a value of the shape. -/
def read : Shape → Document → Except Fault Value
  | any, d => d.read Document.maxDepth
  | record fields, d =>
      let readField (i : Nat) (part : Document) : Except Fault (Option Value) :=
        match fields[i]? with
        | some field => field.read part
        | none => .error .shape
      match d.record (fields.map ([·.name])) readField with
      | .ok found =>
          match writeFields? fields found with
          | some written => .ok (Value.ofFields written)
          | none => .error .shape
      | .error fault => .error fault

/-- A value that fits the shape, as the shape writes it. Unlike a text, a
value may be nested as deep as it likes. -/
def readValue? : Shape → Value → Option Value
  | any, v => (Document.ofValue v).value?
  | record fields, v => ((record fields).read (Document.ofValue v)).toOption

end Shape

end TableApi
