/-
Sorting rows.

Rows are compared by the sort keys in turn. Null and missing cells come
last in ascending and first in descending order, and two values that do
not compare count as equal. The sort is stable: it takes the rows one by
one and puts each behind the last row that it does not precede.

Values of different kinds may all count as equal while others do not, and
then the keys do not put the rows in a line. A sort by such keys is not
held to anything but the rows: beyond a small number of rows it may leave
them in any arrangement, and it may give up.
-/
import TableApi.Condition.Order
import TableApi.Store.Basic

namespace TableApi

open Json

/-- The ascending order of two cells. -/
def cellOrder (x y : Value) : Ordering :=
  match x.isNull, y.isNull with
  | true, true => .eq
  | true, false => .gt
  | false, true => .lt
  | false, false => (x.compare? y).getD .eq

namespace SortKey

/-- The order of two rows by one key. -/
def order (key : SortKey) (a b : Row) : Ordering :=
  let o := cellOrder (a.cell key.column) (b.cell key.column)
  match key.direction with
  | .ascending => o
  | .descending => o.swap

end SortKey

/-- The order of two rows: that of the first key that tells them
apart. -/
def rowOrder : List SortKey → Row → Row → Ordering
  | [], _, _ => .eq
  | key :: keys, a, b => (key.order a b).then (rowOrder keys a b)

/-- Puts a row into rows held last first, behind the last row that it
does not precede. -/
def place (keys : List SortKey) (row : Row) : List Row → List Row
  | [] => [row]
  | last :: rest =>
      if rowOrder keys row last = .lt then last :: place keys row rest
      else row :: last :: rest

/-- The rows, each placed among those before it. -/
def sortRows (keys : List SortKey) (rows : List Row) : List Row :=
  (rows.foldl (fun sorted row => place keys row sorted) []).reverse

/-- How many rows a row comes behind. -/
def rank (keys : List SortKey) (rows : List Row) (row : Row) : Nat :=
  rows.countP fun other => rowOrder keys other row = .lt

/-- Whether the keys put the rows in a line: they come in the order of
their ranks. -/
def inLine (keys : List SortKey) (rows : List Row) : Bool :=
  let ranked := rows.map fun row => (row, rank keys rows row)
  ranked.all fun a => ranked.all fun b => rowOrder keys a.1 b.1 = compare a.2 b.2

/-- Up to this number of rows a sort places them one by one, whatever the
keys are. -/
def placedLimit : Nat := 20

/-- The rows sorted by the keys, unless the sort gives up. -/
def sort? (supply : Supply) (keys : List SortKey) (rows : List Row) : Option (List Row) :=
  if rows.length ≤ placedLimit || inLine keys rows then some (sortRows keys rows)
  else (supply.scramble keys rows).map Subtype.val

end TableApi
