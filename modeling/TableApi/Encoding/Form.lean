/-
Form-encoded parameters, as query strings hold them.

Parameters are separated by `&`, empty ones skipped; a name ends at the
first `=`. A plus sign is a blank, and bytes that are not UTF-8 become
U+FFFD. Of several parameters with one name the last counts.
-/
import TableApi.Encoding.Percent
import TableApi.Text.Split

namespace TableApi.Form

/-- The text of a name or a value. -/
def component (cs : List Char) : String :=
  let blanks := cs.map fun c => if c = '+' then ' ' else c
  String.ofList (Utf8.lossyText (Percent.decode blanks))

/-- One parameter; without `=` its value is empty. -/
def parameter (cs : List Char) : String × String :=
  let (name, value) := (Text.splitOnce? '=' cs).getD (cs, [])
  (component name, component value)

/-- The parameters of a query string, in their order. -/
def parameters (query : List Char) : List (String × String) :=
  ((query.splitOn '&').filter (!·.isEmpty)).map parameter

/-- The value of a parameter. -/
def value? (parameters : List (String × String)) (name : String) : Option String :=
  (parameters.reverse.find? (·.1 == name)).map (·.2)

end TableApi.Form
