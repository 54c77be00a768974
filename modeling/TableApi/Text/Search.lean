/-
Finding one text inside another.
-/

namespace TableApi.Text

/-- Whether `piece` occurs in a text as a run of characters. -/
def occursIn (piece : List Char) : List Char → Bool
  | [] => piece.isEmpty
  | c :: cs => piece.isPrefixOf (c :: cs) || occursIn piece cs

end TableApi.Text
