/-
Cutting text in two at a separator character.
-/

namespace TableApi.Text

/-- Cuts at the first separator; `none` if there is none. -/
def splitOnce? (sep : Char) : List Char → Option (List Char × List Char)
  | [] => none
  | c :: cs =>
      if c = sep then some ([], cs)
      else (splitOnce? sep cs).map fun (before, after) => (c :: before, after)

end TableApi.Text
