/-
Reading records from JSON text.

A record is an object with known fields, or an array of the fields in
their order. Unknown fields are skipped; a field given twice is a fault,
and an alias counts as the field it stands for. Fields are read in the
order of the text and the first fault is reported, so the kind of the
fault tells whether the text fitted the record up to the point where it
ceased to be JSON.
-/
import TableApi.Json.Document

namespace TableApi.Json

namespace Record

/-- The position of the field that a key names. Each field has one or
more names. -/
def position? (names : List (List String)) (key : String) : Option Nat :=
  names.findIdx? (·.contains key)

variable {α β : Type}

/-- Reads the fields of an object in their order into `found`, which
holds a place for each field of the record. -/
def collect (names : List (List String)) (skippable : β → Bool)
    (read : Nat → β → Except Fault α) :
    List (Option α) → List (FieldKey × β) → Except Fault (List (Option α))
  | found, [] => .ok found
  | found, (key, source) :: rest =>
      match key with
      | none => .error .syntactic
      | some key =>
          match position? names key with
          | none =>
              if skippable source then collect names skippable read found rest
              else .error .syntactic
          | some i =>
              if (found[i]?).join.isSome then .error .shape
              else match read i source with
                | .ok a => collect names skippable read (found.set i (some a)) rest
                | .error fault => .error fault

/-- Reads the items of an array as the fields of a record with `n`
fields, from field `i` on. -/
def collectItems (n : Nat) (read : Nat → β → Except Fault α) :
    Nat → List β → Except Fault (List α)
  | _, [] => .ok []
  | i, source :: rest =>
      if n ≤ i then .error .syntactic
      else match read i source with
        | .ok a => (collectItems n read (i + 1) rest).map (a :: ·)
        | .error fault => .error fault

/-- The fields found in an object, a place for each field of the
record. -/
def ofObject (names : List (List String)) (skippable : β → Bool)
    (read : Nat → β → Except Fault α) (fields : List (FieldKey × β)) (closed : Bool) :
    Except Fault (List (Option α)) :=
  match collect names skippable read (names.map fun _ => none) fields with
  | .ok found => if closed then .ok found else .error .syntactic
  | .error fault => .error fault

/-- The fields found in an array, a place for each field of the
record. -/
def ofArray (names : List (List String)) (read : Nat → β → Except Fault α)
    (items : List β) (closed : Bool) : Except Fault (List (Option α)) :=
  match collectItems names.length read 0 items with
  | .ok found =>
      if closed then
        .ok (found.map some ++ List.replicate (names.length - found.length) none)
      else .error .syntactic
  | .error fault => .error fault

end Record

namespace Document

/-- Reads the fields of a record. -/
def record {α : Type} (names : List (List String))
    (read : Nat → Document → Except Fault α) :
    Document → Except Fault (List (Option α))
  | .object fields closed => Record.ofObject names isWhole read fields closed
  | .array items closed => Record.ofArray names read items closed
  | other => .error other.misfit

/-- The documents of a record's fields, not yet read. -/
def parts? (names : List (List String)) (d : Document) :
    Option (List (Option Document)) :=
  (d.record names fun _ part => .ok part).toOption

def string? : Document → Option String
  | .string s => s
  | _ => none

def bool? : Document → Option Bool
  | .bool b => some b
  | _ => none

/-- A natural number of at most 64 bits. -/
def nat64? : Document → Option Nat
  | .number (some n) => n.toNat64?
  | _ => none

/-- A name from a closed set: a string, or an object with that one key
and the value null. -/
def tag? : Document → Option String
  | .string s => s
  | .object [(key, .null)] true => key
  | _ => none

end Document

end TableApi.Json
