/-
Routes on paths without parameters.

A path without a colon is read as the pattern of its own characters, and no
other path is read as that (`Pattern.ofPath?_literal_iff`). Of the patterns
that a search goes through it is found first: at every character the search
goes on behind it before it tries a parameter, and nothing else ends where
it ends (`Search.follow_of_sole`). So a route is found on its path whatever
other routes there are (`Router.find?_of_mem`).
-/
import TableApi.Proofs.Routing.Order

namespace TableApi.Routing

-- =============================================================== patterns

/-- The characters that a piece is read from. -/
def Piece.text : Piece → List Char
  | char c => [c]
  | parameter name => ':' :: name

namespace Pattern

/-- A pattern is read from its text; within a parameter, colon and name
have been read before. -/
theorem text_of_parse? {state : Option (List Char)} {cs : List Char} {ps : Pattern}
    (h : parse? state cs = some ps) :
    ps.flatMap Piece.text = (state.elim [] fun name => ':' :: name.reverse) ++ cs := by
  fun_induction parse? state cs generalizing ps
  case case1 =>
    obtain rfl := Option.some.inj h
    rfl
  case case2 cs ih => exact ih h
  case case3 => cases h
  case case4 c cs hcolon hstar ih =>
    obtain ⟨rest, hrest, rfl⟩ := Option.map_eq_some_iff.1 h
    exact congrArg (c :: ·) (ih hrest)
  case case5 => cases h
  case case6 name hname =>
    obtain rfl := Option.some.inj h
    rfl
  case case7 => cases h
  case case8 name cs hname ih =>
    obtain ⟨rest, hrest, rfl⟩ := Option.map_eq_some_iff.1 h
    simp [Piece.text, ih hrest]
  case case9 => cases h
  case case10 name c cs hslash hother ih =>
    rw [ih h]
    simp

theorem text_map_char (cs : List Char) : (cs.map Piece.char).flatMap Piece.text = cs := by
  induction cs with
  | nil => rfl
  | cons c cs ih => exact congrArg (c :: ·) ih

/-- A parameter has a colon in its text. -/
theorem eq_map_char : ∀ {ps : Pattern}, ':' ∉ ps.flatMap Piece.text →
    ps = (ps.flatMap Piece.text).map .char
  | [], _ => rfl
  | .char c :: _, h => congrArg (.char c :: ·) (eq_map_char fun hmem => h (.tail c hmem))
  | .parameter _ :: _, h => absurd (.head _) h

/-- A path without a colon is its own pattern, and that is the pattern of
no other path. -/
theorem ofPath?_literal_iff {path : String} {pattern : Pattern}
    (h : ofPath? path = some pattern) {cs : List Char} (hcolon : ':' ∉ cs) :
    pattern = cs.map .char ↔ path.toList = cs := by
  have htext : pattern.flatMap Piece.text = path.toList := text_of_parse? h
  constructor
  · intro hliteral
    rw [← htext, hliteral, text_map_char]
  · intro hpath
    have htext := htext.trans hpath
    rw [← htext] at hcolon ⊢
    exact eq_map_char hcolon

end Pattern

-- ================================================================= search

namespace Search

variable {α : Type} {ks : List (Candidate α)} {k : Candidate α}

/-- Of candidates one has the literal pattern of these characters. -/
def Sole (ks : List (Candidate α)) (k : Candidate α) (cs : List Char) : Prop :=
  k ∈ ks ∧ k.rest = cs.map .char ∧ ∀ j ∈ ks, j.rest = cs.map .char → j = k

theorem Sole.not_isEmpty {cs : List Char} (h : Sole ks k cs) : ¬ ks.isEmpty = true :=
  fun hempty => List.ne_nil_of_mem h.1 (List.isEmpty_iff.1 hempty)

theorem Sole.find?_isComplete (h : Sole ks k []) : ks.find? (·.isComplete) = some k := by
  obtain ⟨hmem, hrest, hsole⟩ := h
  cases hfind : ks.find? (·.isComplete) with
  | none =>
      have hnot := List.find?_eq_none.1 hfind k hmem
      rw [Candidate.isComplete, hrest] at hnot
      exact absurd rfl hnot
  | some j =>
      have hcomplete : j.isComplete = true := List.find?_some hfind
      rw [hsole j (List.mem_of_find?_eq_some hfind) (List.isEmpty_iff.1 hcomplete)]

/-- Behind its first character it is so still. -/
theorem Sole.behindChar {c : Char} {cs : List Char} (h : Sole ks k (c :: cs)) :
    Sole (behindChar c ks) { k with rest := cs.map .char } cs := by
  obtain ⟨hmem, hrest, hsole⟩ := h
  refine ⟨List.mem_filterMap.2 ⟨k, hmem, ?_⟩, rfl, fun j hj hjrest => ?_⟩
  · simp [Candidate.afterChar?, hrest]
  · obtain ⟨i, hi, hstep⟩ := List.mem_filterMap.1 hj
    unfold Candidate.afterChar? at hstep
    split at hstep
    case h_2 => cases hstep
    case h_1 d rest hirest =>
      split at hstep
      case isFalse => cases hstep
      case isTrue hd =>
        obtain rfl := Option.some.inj hstep
        obtain rfl : rest = cs.map .char := hjrest
        rw [hsole i hi (by rw [hirest, hd, List.map_cons])]

/-- A literal pattern is found, whatever others there are: at every
character the search goes on behind it first. -/
theorem follow_of_sole :
    ∀ {cs : List Char} {ks : List (Candidate α)} {k : Candidate α}, Sole ks k cs →
      follow ks cs = .found { k with rest := [] }
  | [], ks, k, h => by
      have hrest : k.rest = [] := h.2.1
      rw [follow, if_neg h.not_isEmpty]
      show atEnd ks = _
      rw [atEnd, h.find?_isComplete, ← hrest]
  | c :: cs, ks, k, h => by
      rw [follow, if_neg h.not_isEmpty]
      by_cases hlast : c = '/' ∧ cs = [] ∧ isFork ks = true
      · obtain ⟨rfl, rfl, hfork⟩ := hlast
        rw [if_pos ⟨rfl, rfl, hfork⟩]
        unfold atLastSlash
        dsimp only
        rw [if_neg h.behindChar.not_isEmpty, h.behindChar.find?_isComplete]
        rfl
      · rw [if_neg hlast, follow_of_sole h.behindChar]

end Search

/-- A route is found on its path, where that has no parameter. -/
theorem Router.find?_of_mem {router : Router} (hread : Route.Read router.routes) {r : Route}
    (hr : r ∈ router.routes) (hcolon : ':' ∉ r.path.toList) :
    router.find? r.path = some (r, []) := by
  have hliteral : ∀ s ∈ router.routes,
      s.pattern = r.path.toList.map .char ↔ s.path.toList = r.path.toList :=
    fun s hs => Pattern.ofPath?_literal_iff (hread s hs) hcolon
  have hsole : Search.Sole ((router.routes.map fun s => (s.pattern, s)).map
      fun (pattern, item) => (⟨pattern, [], item⟩ : Candidate Route))
      ⟨r.pattern, [], r⟩ r.path.toList := by
    rw [List.map_map]
    refine ⟨List.mem_map_of_mem hr, (hliteral r hr).2 rfl, fun j hj hrest => ?_⟩
    obtain ⟨s, hs, rfl⟩ := List.mem_map.1 hj
    obtain rfl := router.route_unique hs hr (String.toList_inj.1 ((hliteral s hs).1 hrest))
    rfl
  unfold Router.find? Search.find?
  rw [Search.follow_of_sole hsole]
  rfl

end TableApi.Routing
