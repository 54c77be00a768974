/-
Searching for a text.

A rule that searches looks for its text in the text of a cell, both in
lower case: anywhere, at the start or at the end. Whatever special
characters the text has, it is found where it literally stands
(`search_text_is_literal`).

# Searching for what was copied

That a text contains a piece does not mean that its lower case contains
the lower case of the piece. A capital sigma ends a word in the one and
not in the other where the piece was cut out of the middle of a word, and
the two then differ in that letter. Apart from this a piece that is
copied out of a text is found in it (`copied_piece_found_iff`). At the
start and at the end there is only one place to look, so a search for a
piece with another sigma always fails; anywhere, the piece may still
occur at some other place by chance.
-/
import TableApi.Api.ResourceController
import TableApi.Proofs.Condition.Comparison
import TableApi.Proofs.Filter.Meaning
import TableApi.Proofs.Like.Literal

namespace TableApi.Filter

open Json Text

-- ============================================================== searches

/-- The operators that search, each with where it wants the text that it
searches for in the text of the cell. -/
def searches : List (Operator × (List Char → List Char → Prop)) :=
  [(.contains, fun sought text => sought <:+: text),
    (.startsWith, fun sought text => sought <+: text),
    (.endsWith, fun sought text => sought <:+ text)]

/-- A rule with a string for its value. -/
def searchRule (field : String) (operator : Operator) (sought : String) : Rule :=
  ⟨field, operator, some (.string sought)⟩

section Searches

variable {field sought : String} {row : Row}
variable {operator : Operator} {found : List Char → List Char → Prop}

theorem contains_searches :
    (Operator.contains, fun sought text : List Char => sought <:+: text) ∈ searches :=
  List.mem_cons_self

theorem startsWith_searches :
    (Operator.startsWith, fun sought text : List Char => sought <+: text) ∈ searches :=
  List.mem_cons_of_mem _ List.mem_cons_self

theorem endsWith_searches :
    (Operator.endsWith, fun sought text : List Char => sought <:+ text) ∈ searches :=
  List.mem_cons_of_mem _ (List.mem_cons_of_mem _ List.mem_cons_self)

theorem exists_plainText {v : Value} (h : v.isNull = false) :
    ∃ text, v.plainText? = some text := by
  cases v with
  | null => cases h
  | string s => exact ⟨s, rfl⟩
  | bool _ | number _ | array _ | object _ => exact ⟨_, rfl⟩

/-- The condition of a search matches a pattern, and the pattern finds the
text in lower case. -/
theorem compile_searchRule (hfield : isIdentifier field = true) (sought : String)
    (hmem : (operator, found) ∈ searches) :
    ∃ pattern, (searchRule field operator sought).compile = .ok (.like field pattern true false)
      ∧ ∀ text, Like.isMatch text pattern.toList true = true
          ↔ found (lower sought.toList) (lower text) := by
  have hcompile : (searchRule field operator sought).compile
      = (searchRule field operator sought).condition := Rule.compile_of_isIdentifier hfield
  simp only [searches, List.mem_cons, List.not_mem_nil, or_false, Prod.mk.injEq] at hmem
  rcases hmem with ⟨rfl, rfl⟩ | ⟨rfl, rfl⟩ | ⟨rfl, rfl⟩
  · refine ⟨_, hcompile, fun text => ?_⟩
    rw [around, String.toList_ofList]
    exact Like.isMatch_infix_iff
  · refine ⟨_, hcompile, fun text => ?_⟩
    rw [around, String.toList_ofList]
    exact Like.isMatch_prefix_iff
  · refine ⟨_, hcompile, fun text => ?_⟩
    rw [around, String.toList_ofList]
    exact Like.isMatch_suffix_iff

/-- A search on a row whose cell has a text is decided, by whether the text
sought is found in it. -/
theorem eval_search {text : String} (htext : (row.cell field).plainText? = some text)
    {pattern : String} {p : Prop}
    (hmatch : Like.isMatch text.toList pattern.toList true = true ↔ p) :
    ((Condition.like field pattern true false).eval row = .yes ↔ p)
      ∧ ((Condition.like field pattern true false).eval row = .no ↔ ¬ p) := by
  have heval : (Condition.like field pattern true false).eval row
      = .ofBool (Like.isMatch text.toList pattern.toList true) := by
    rw [Condition.eval, Condition.likeTruth, htext]
    rfl
  rw [← hmatch, heval]
  cases Like.isMatch text.toList pattern.toList true <;> decide

/-- A search is accepted on every field that is an identifier. On a row
with a text in the field it is true exactly if the lower case of the text
contains that of the text sought, starts with it or ends with it, and
false if not; on a null it is unknown. The search for what does not
contain a text is the negation of the one for what does. -/
theorem search_text_is_literal (hfield : isIdentifier field = true) (sought : String)
    (row : Row) :
    (∀ p ∈ searches, ∃ c, (searchRule field p.1 sought).compile = .ok c
      ∧ ((row.cell field).isNull = false → ∃ text, (row.cell field).plainText? = some text
        ∧ (c.eval row = .yes ↔ p.2 (lower sought.toList) (lower text.toList))
        ∧ (c.eval row = .no ↔ ¬ p.2 (lower sought.toList) (lower text.toList)))
      ∧ ((row.cell field).isNull = true → c.eval row = .unknown))
      ∧ ∃ c d, (searchRule field .contains sought).compile = .ok c
        ∧ (searchRule field .notContains sought).compile = .ok d
        ∧ d.eval row = (c.eval row).not := by
  constructor
  · rintro ⟨operator, found⟩ hmem
    obtain ⟨pattern, hcompile, hmatch⟩ := compile_searchRule hfield sought hmem
    refine ⟨_, hcompile, fun hcell => ?_, fun hcell => ?_⟩
    · obtain ⟨text, htext⟩ := exists_plainText hcell
      exact ⟨text, htext, eval_search htext (hmatch text.toList)⟩
    · rw [Condition.eval, Condition.likeTruth, Value.eq_null_of_isNull hcell]
      rfl
  · have hcompile : ∀ operator, (searchRule field operator sought).compile
        = (searchRule field operator sought).condition :=
      fun _ => Rule.compile_of_isIdentifier hfield
    exact ⟨_, _, hcompile _, hcompile _, rfl⟩

/-- Wildcards and a backslash in the text sought are found as they stand. -/
theorem search_text_with_wildcards :
    let row := Row.empty.set "note" (.string "SAVE 50%_OFF\\DAY")
    isIdentifier "note" = true
      ∧ (∃ c, (searchRule "note" .contains "0%_off\\").compile = .ok c ∧ c.eval row = .yes)
      ∧ ∃ c, (searchRule "note" .contains "0_off%").compile = .ok c ∧ c.eval row = .no := by
  intro row
  have hfield : isIdentifier "note" = true := by decide +kernel
  obtain ⟨c, hc, hcell, -⟩ := (search_text_is_literal hfield "0%_off\\" row).1 _ contains_searches
  obtain ⟨d, hd, hcell', -⟩ := (search_text_is_literal hfield "0_off%" row).1 _ contains_searches
  obtain ⟨text, htext, hyes, -⟩ := hcell rfl
  obtain ⟨text', htext', -, hno⟩ := hcell' rfl
  obtain rfl := Option.some.inj htext
  obtain rfl := Option.some.inj htext'
  exact ⟨hfield, ⟨c, hc, hyes.2 (by decide +kernel)⟩, d, hd, hno.2 (by decide +kernel)⟩

end Searches

-- ========================================================== copied pieces

/-- The rule is accepted, and its condition keeps the row. -/
def Rule.Keeps (r : Rule) (row : Row) : Prop :=
  ∃ c, r.compile = .ok c ∧ c.keeps row = true

section Copied

variable {field : String} {row : Row} {operator : Operator}
variable {found : List Char → List Char → Prop}

/-- A search keeps a row exactly if it finds its text in the cell. -/
theorem keeps_searchRule_iff (hfield : isIdentifier field = true)
    (hmem : (operator, found) ∈ searches) (sought : String) {text : String}
    (hcell : row.cell field = .string text) :
    (searchRule field operator sought).Keeps row
      ↔ found (lower sought.toList) (lower text.toList) := by
  obtain ⟨pattern, hcompile, hmatch⟩ := compile_searchRule hfield sought hmem
  have htext : (row.cell field).plainText? = some text := by rw [hcell]; rfl
  rw [← (eval_search htext (hmatch text.toList)).1, ← Condition.keeps_iff]
  constructor
  · rintro ⟨c, hc, hkeeps⟩
    obtain rfl := Except.ok.inj (hcompile.symm.trans hc)
    exact hkeeps
  · intro hkeeps
    exact ⟨_, hcompile, hkeeps⟩

theorem exists_mem_of_compileAll {nodes : List Node} {cs : List Condition} {node : Node}
    (h : compileAll nodes = .ok cs) (hnode : node ∈ nodes) : ∃ c ∈ cs, node.compile = .ok c := by
  induction nodes generalizing cs with
  | nil => cases hnode
  | cons n ns ih =>
      obtain ⟨d, ds, hd, hds, rfl⟩ := compileAll_cons_eq_ok h
      rcases List.mem_cons.1 hnode with rfl | hnode
      · exact ⟨d, List.mem_cons_self, hd⟩
      · obtain ⟨c, hc, hcompile⟩ := ih hds hnode
        exact ⟨c, List.mem_cons_of_mem d hc, hcompile⟩

/-- A disjunction keeps what one of its rules keeps. -/
theorem keeps_of_anyOf {nodes : List Node} {c : Condition} {r : Rule}
    (hc : (Group.anyOf nodes).compile = .ok c) (hr : Node.rule r ∈ nodes) (hkeeps : r.Keeps row) :
    c.keeps row = true := by
  obtain ⟨members, hmembers, rfl⟩ := Node.compile_group_eq_ok hc
  obtain ⟨d, hd, hcompile⟩ := exists_mem_of_compileAll hmembers hr
  obtain ⟨e, he, hyes⟩ := hkeeps
  obtain rfl := Except.ok.inj (he.symm.trans hcompile)
  have hmem : Truth.yes ∈ members.map (Condition.eval row) :=
    List.mem_map.2 ⟨e, hd, Condition.keeps_iff.1 hyes⟩
  rw [Condition.keeps_iff, eval_join, groupTruth_of_ne_nil (List.ne_nil_of_mem hmem)]
  exact Truth.any_eq_yes_iff.2 hmem

/-- A piece that is copied out of a text is found at the start or at the
end of the text exactly if its capital sigmas have the same form there
as in the piece alone; anywhere, it is also found if it occurs elsewhere.
So it is found if it has no capital sigma. A search over several fields
keeps the row if one of them finds the piece. -/
theorem copied_piece_found_iff (hfield : isIdentifier field = true) (front piece back : String) :
    (∀ row : Row, row.cell field = .string (front ++ piece ++ back) →
      ((searchRule field .contains piece).Keeps row
        ↔ KeepsSigmas front.toList piece.toList back.toList
          ∨ OccursElsewhere front.toList piece.toList back.toList))
      ∧ (∀ row : Row, row.cell field = .string (piece ++ back) →
        ((searchRule field .startsWith piece).Keeps row
          ↔ KeepsSigmas [] piece.toList back.toList))
      ∧ (∀ row : Row, row.cell field = .string (front ++ piece) →
        ((searchRule field .endsWith piece).Keeps row
          ↔ KeepsSigmas front.toList piece.toList []))
      ∧ ('Σ' ∉ piece.toList → ∀ before after, KeepsSigmas before piece.toList after)
      ∧ ∀ (r : Resource) (fields : List String) (c : Condition) (row : Row), field ∈ fields →
        (Api.searchFilter r fields piece).compile = .ok c →
        (searchRule field .contains piece).Keeps row → c.keeps row = true := by
  refine ⟨fun row hcell => ?_, fun row hcell => ?_, fun row hcell => ?_, ?_, ?_⟩
  · rw [keeps_searchRule_iff hfield contains_searches piece hcell, String.toList_append,
      String.toList_append]
    exact lower_infix_iff
  · rw [keeps_searchRule_iff hfield startsWith_searches piece hcell, String.toList_append]
    exact lower_prefix_iff
  · rw [keeps_searchRule_iff hfield endsWith_searches piece hcell, String.toList_append]
    exact lower_suffix_iff
  · exact keepsSigmas_of_not_mem
  · intro r fields c row hmem hc hkeeps
    refine keeps_of_anyOf hc ?_ hkeeps
    exact List.mem_append_left _ (List.mem_map_of_mem hmem)

/-- A whole word is found between other words, with the sigma at its end. -/
theorem copied_word_is_found :
    let row := Row.empty.set "name" (.string ("Ο " ++ "ΣΙΣΥΦΟΣ" ++ " ΖΕΙ"))
    isIdentifier "name" = true
      ∧ KeepsSigmas "Ο ".toList "ΣΙΣΥΦΟΣ".toList " ΖΕΙ".toList
      ∧ (searchRule "name" .contains "ΣΙΣΥΦΟΣ").Keeps row := by
  intro row
  have hfield : isIdentifier "name" = true := by decide +kernel
  have hsigmas : KeepsSigmas "Ο ".toList "ΣΙΣΥΦΟΣ".toList " ΖΕΙ".toList :=
    lowerWithin_eq_lower_iff.1 (by decide +kernel)
  obtain ⟨hcontains, -⟩ := copied_piece_found_iff hfield "Ο " "ΣΙΣΥΦΟΣ" " ΖΕΙ"
  exact ⟨hfield, hsigmas, (hcontains row rfl).2 (.inl hsigmas)⟩

/-- The first letters of a word are not found in it: alone they are a word
that ends in a sigma. -/
theorem copied_letters_are_missed :
    ¬ ∀ (field front piece back : String) (row : Row), isIdentifier field = true →
      row.cell field = .string (front ++ piece ++ back) →
        (searchRule field .contains piece).Keeps row
          ∧ (front = "" → (searchRule field .startsWith piece).Keeps row)
          ∧ (back = "" → (searchRule field .endsWith piece).Keeps row) := by
  intro h
  have hfield : isIdentifier "name" = true := by decide +kernel
  have hcell : (Row.empty.set "name" (.string "ΣΙΣΥΦΟΣ")).cell "name"
      = .string ("" ++ "ΣΙΣ" ++ "ΥΦΟΣ") := rfl
  obtain ⟨hkeeps, -⟩ := h "name" "" "ΣΙΣ" "ΥΦΟΣ" _ hfield hcell
  have hfound := (keeps_searchRule_iff hfield contains_searches "ΣΙΣ" hcell).1 hkeeps
  revert hfound
  decide +kernel

end Copied

end TableApi.Filter
