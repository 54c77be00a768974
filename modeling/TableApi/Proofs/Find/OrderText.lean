/-
The short form of an order.

An order is sent as items between commas, each a field with a colon and a
direction behind it. The writer is left some freedom: white space around
fields, directions and items, letters of any case in a direction, no
direction where it is ascending, and items that are empty (`SpelledItem`,
`SpelledItems`). However it is spelled, the order comes back.

# How an item is read

An item is trimmed first, and then cut at its first colon. The other way
round it would come to the same: the trimmed item is cut where the item is,
and both parts are trimmed again (`orderFieldOfText_trim_append`). So an
item is wrong just if what stands behind its first colon, trimmed and in
lower case, is no direction (`Misdirected`), and one wrong item is enough to
refuse the whole text.

# Where the short form ends

The text as a whole is trimmed before anything else, so a text is JSON if
its first character that is no white space is a bracket. A text that begins
with white space does not begin with a bracket, and may be JSON all the same
(`json_order_behind_space`).
-/
import TableApi.Find.Params
import TableApi.Proofs.Text.Split

namespace TableApi.FindOptions

open Text

variable {o : OrderField} {order : List OrderField} {item name rest : List Char}
variable {pieces : List (List Char)}

-- ============================================================== one item

/-- A field that the short form can hold. -/
structure PlainField (field : List Char) : Prop where
  nonempty : field ≠ []
  noComma : ',' ∉ field
  noColon : ':' ∉ field
  first : ∀ c ∈ field.head?, isBlank c = false
  last : ∀ c ∈ field.getLast?, isBlank c = false

/-- The item is a spelling of the field to sort by. -/
inductive SpelledItem (o : OrderField) : List Char → Prop where
  | field {item : List Char} : o.direction = .ascending → Pads o.field.toList item →
      SpelledItem o item
  | directed {name word direction : List Char} : Pads o.field.toList name →
      asciiLower word = o.direction.tag.toList → Pads word direction →
        SpelledItem o (name ++ ':' :: direction)

/-- The item is cut at its first colon, and what stands behind it is no
direction. -/
structure Misdirected (name rest : List Char) : Prop where
  first : ':' ∉ name
  notAscending : asciiLower (trim rest) ≠ "asc".toList
  notDescending : asciiLower (trim rest) ≠ "desc".toList

/-- What is said of an item that is misdirected. -/
def misdirection (name rest : List Char) : ApiError :=
  .badRequest (.orderDirection (String.ofList (asciiLower (trim rest)))
    (String.ofList (name.dropWhile isBlank)))

theorem PlainField.trim_eq {field : List Char} (h : PlainField field) : trim field = field :=
  trim_eq_self h.first h.last

theorem directionOfWord?_tag (d : Direction) : directionOfWord? d.tag.toList = some d := by
  cases d <;> rfl

theorem directionOfWord?_eq_none_iff {word : List Char} :
    directionOfWord? word = none ↔ word ≠ "asc".toList ∧ word ≠ "desc".toList := by
  unfold directionOfWord?
  split
  · next h => simp [h]
  · next h =>
    split
    · next h' => simp [h']
    · next h' => exact iff_of_true rfl ⟨h, h'⟩

/-- A direction is a direction in letters of any case, with white space
around it. -/
theorem asciiLower_trim_direction {d : Direction} {word direction : List Char}
    (hword : asciiLower word = d.tag.toList) (hpads : Pads word direction) :
    asciiLower (trim direction) = d.tag.toList := by
  have htag : trim d.tag.toList = d.tag.toList := by cases d <;> decide
  rw [hpads.trim_eq, ← trim_asciiLower, hword, htag]

/-- An item without a colon is a field, ascending. -/
theorem orderFieldOfText_trim_of_not_mem (h : ':' ∉ item) :
    orderFieldOfText (trim item) = .ok ⟨String.ofList (trim item), .ascending⟩ := by
  have hcut : splitOnce? ':' (trim item) = none :=
    splitOnce?_eq_none fun hmem => h (mem_of_mem_trim hmem)
  unfold orderFieldOfText
  rw [hcut, Option.getD_none]
  simp only [trim_trim]
  rfl

/-- The first colon of an item is that of the trimmed item. -/
theorem orderFieldOfText_trim_append (h : ':' ∉ name) (rest : List Char) :
    orderFieldOfText (trim (name ++ ':' :: rest)) =
      match directionOfWord? (asciiLower (trim rest)) with
      | some d => .ok ⟨String.ofList (trim name), d⟩
      | none => .error (misdirection name rest) := by
  have hname : ':' ∉ name.dropWhile isBlank := fun hmem =>
    h ((List.dropWhile_sublist isBlank).subset hmem)
  unfold orderFieldOfText
  rw [trim_around rfl, splitOnce?_append hname, Option.getD_some]
  simp only [← (pads_dropWhile name).trim_eq, ← (pads_dropWhile_reverse rest).trim_eq]
  cases directionOfWord? (asciiLower (trim rest)) <;> rfl

theorem Misdirected.refused (h : Misdirected name rest) :
    orderFieldOfText (trim (name ++ ':' :: rest)) = .error (misdirection name rest) := by
  rw [orderFieldOfText_trim_append h.first,
    directionOfWord?_eq_none_iff.2 ⟨h.notAscending, h.notDescending⟩]

/-- Nothing else is wrong with an item. -/
theorem misdirected_of_error {e : ApiError} (h : orderFieldOfText (trim item) = .error e) :
    ∃ name rest, item = name ++ ':' :: rest ∧ Misdirected name rest
      ∧ e = misdirection name rest := by
  by_cases hmem : ':' ∈ item
  · obtain ⟨name, rest, rfl, hname⟩ := List.eq_append_cons_of_mem hmem
    rw [orderFieldOfText_trim_append hname] at h
    cases hword : directionOfWord? (asciiLower (trim rest)) with
    | some d => rw [hword] at h; cases h
    | none =>
        rw [hword] at h
        obtain ⟨hasc, hdesc⟩ := directionOfWord?_eq_none_iff.1 hword
        exact ⟨name, rest, rfl, ⟨hname, hasc, hdesc⟩, (Except.error.inj h).symm⟩
  · rw [orderFieldOfText_trim_of_not_mem hmem] at h
    cases h

theorem SpelledItem.read (hplain : PlainField o.field.toList) (h : SpelledItem o item) :
    orderFieldOfText (trim item) = .ok o := by
  have hfield : String.ofList o.field.toList = o.field := String.ofList_toList
  cases h with
  | field hascending hpads =>
      rw [orderFieldOfText_trim_of_not_mem (hpads.not_mem rfl hplain.noColon), hpads.trim_eq,
        hplain.trim_eq, hfield, ← hascending]
  | directed hname hword hdirection =>
      rw [orderFieldOfText_trim_append (hname.not_mem rfl hplain.noColon),
        asciiLower_trim_direction hword hdirection, directionOfWord?_tag, hname.trim_eq,
        hplain.trim_eq, hfield]

/-- An item of a field has no comma and is not empty. -/
theorem SpelledItem.noComma (hplain : PlainField o.field.toList) (h : SpelledItem o item) :
    ',' ∉ item := by
  cases h with
  | field _ hpads => exact hpads.not_mem rfl hplain.noComma
  | @directed name word direction hname hword hdirection =>
      have hfree : ',' ∉ word := by
        intro hmem
        have hlower : ','.toLower ∈ asciiLower word := List.mem_map_of_mem hmem
        rw [hword] at hlower
        revert hlower
        cases o.direction <;> decide
      intro hmem
      rcases List.mem_append.1 hmem with hmem | hmem
      · exact hname.not_mem rfl hplain.noComma hmem
      · rcases List.mem_cons.1 hmem with heq | hmem
        · exact absurd heq (by decide)
        · exact hdirection.not_mem rfl hfree hmem

theorem SpelledItem.trim_ne_nil (hplain : PlainField o.field.toList) (h : SpelledItem o item) :
    trim item ≠ [] := by
  cases h with
  | field _ hpads =>
      rw [hpads.trim_eq, hplain.trim_eq]
      exact hplain.nonempty
  | directed _ _ _ =>
      rw [trim_around rfl]
      simp

-- ============================================================== all items

/-- The pieces are spellings of the fields to sort by, in their order, and
blank pieces anywhere. -/
inductive SpelledItems : List OrderField → List (List Char) → Prop where
  | nil : SpelledItems [] []
  | blank {order : List OrderField} {piece : List Char} {pieces : List (List Char)} :
      isAllBlank piece = true → SpelledItems order pieces →
        SpelledItems order (piece :: pieces)
  | item {o : OrderField} {order : List OrderField} {item : List Char}
      {pieces : List (List Char)} : SpelledItem o item → SpelledItems order pieces →
        SpelledItems (o :: order) (item :: pieces)

theorem SpelledItems.noComma (h : SpelledItems order pieces)
    (hplain : ∀ o ∈ order, PlainField o.field.toList) : ∀ piece ∈ pieces, ',' ∉ piece := by
  induction h with
  | nil => exact List.forall_mem_nil _
  | blank hblank _ ih =>
      refine List.forall_mem_cons.2 ⟨fun hmem => ?_, ih hplain⟩
      exact absurd (isAllBlank_iff.1 hblank _ hmem) (by decide)
  | item hitem _ ih =>
      obtain ⟨ho, horder⟩ := List.forall_mem_cons.1 hplain
      exact List.forall_mem_cons.2 ⟨hitem.noComma ho, ih horder⟩

theorem isEmpty_trim (h : trim item ≠ []) : (!(trim item).isEmpty) = true := by
  rw [Bool.not_eq_true', List.isEmpty_eq_false_iff]
  exact h

/-- Blank pieces are left out, and the others are read one by one. -/
theorem SpelledItems.read (h : SpelledItems order pieces)
    (hplain : ∀ o ∈ order, PlainField o.field.toList) :
    ((pieces.map trim).filter (!·.isEmpty)).mapM orderFieldOfText = .ok order := by
  induction h with
  | nil => rfl
  | blank hblank _ ih =>
      rw [List.map_cons, trim_of_isAllBlank hblank]
      exact ih hplain
  | item hitem _ ih =>
      obtain ⟨ho, horder⟩ := List.forall_mem_cons.1 hplain
      have hkept := isEmpty_trim (hitem.trim_ne_nil ho)
      rw [List.map_cons, List.filter_cons, if_pos hkept, List.mapM_cons, hitem.read ho, ih horder]
      rfl

/-- An item begins, behind white space, with the first character of its
field. -/
theorem SpelledItem.begins (hplain : PlainField o.field.toList) (h : SpelledItem o item) :
    ∃ before c after, item = before ++ c :: after ∧ isAllBlank before = true
      ∧ isBlank c = false ∧ o.field.toList.head? = some c := by
  obtain ⟨c, field, hfield⟩ := List.exists_cons_of_ne_nil hplain.nonempty
  have hc : isBlank c = false := hplain.first c (by rw [hfield]; rfl)
  have hhead : o.field.toList.head? = some c := by rw [hfield]; rfl
  cases h with
  | field _ hpads =>
      obtain ⟨before, after, hbefore, -, rfl⟩ := hpads
      exact ⟨before, c, field ++ after, by simp [hfield], hbefore, hc, hhead⟩
  | @directed name word direction hname _ _ =>
      obtain ⟨before, after, hbefore, -, rfl⟩ := hname
      exact ⟨before, c, field ++ after ++ ':' :: direction, by simp [hfield], hbefore, hc, hhead⟩

/-- Behind the first of joined pieces there is a separator or nothing. -/
theorem exists_intercalate_cons (sep : Char) (piece : List Char) (pieces : List (List Char)) :
    ∃ more, [sep].intercalate (piece :: pieces) = piece ++ more ∧ ∀ c ∈ more.head?, c = sep := by
  cases pieces with
  | nil =>
      refine ⟨[], by rw [List.intercalate_singleton, List.append_nil], fun c hc => ?_⟩
      cases hc
  | cons next pieces =>
      refine ⟨sep :: [sep].intercalate (next :: pieces), ?_, fun c hc => (Option.some.inj hc).symm⟩
      rw [List.intercalate_cons_cons, List.append_assoc, List.singleton_append]

/-- The first character of the spelling that is no white space is a comma or
belongs to the first field. -/
theorem SpelledItems.head?_ne (h : SpelledItems order pieces)
    (hplain : ∀ o ∈ order, PlainField o.field.toList)
    (hfirst : ∀ o ∈ order.head?, o.field.toList.head? ≠ some '[') :
    (([','].intercalate pieces).dropWhile isBlank).head? ≠ some '[' := by
  cases h with
  | nil => exact fun h => nomatch h
  | @blank _ piece pieces hblank _ =>
      obtain ⟨more, hmore, hcomma⟩ := exists_intercalate_cons ',' piece pieces
      rw [hmore, List.dropWhile_append_of_pos (isAllBlank_iff.1 hblank)]
      cases more with
      | nil => exact fun h => nomatch h
      | cons c more =>
          obtain rfl : c = ',' := hcomma c rfl
          exact fun h => nomatch h
  | @item o order item pieces hitem _ =>
      obtain ⟨more, hmore, -⟩ := exists_intercalate_cons ',' item pieces
      obtain ⟨before, c, after, rfl, hbefore, hc, hhead⟩ :=
        hitem.begins (hplain o List.mem_cons_self)
      have hdropped : before.dropWhile isBlank = [] :=
        List.dropWhile_eq_nil_iff.2 (isAllBlank_iff.1 hbefore)
      rw [hmore, List.append_assoc, List.cons_append, dropWhile_around hc, hdropped]
      exact fun h => hfirst o rfl (hhead.trans h)

-- ========================================================== a whole text

/-- A text whose first character that is no white space is no bracket is
read item by item. -/
theorem orderOfText_of_short {text : String}
    (h : (text.toList.dropWhile isBlank).head? ≠ some '[') :
    orderOfText text
      = (((text.toList.splitOn ',').map trim).filter (!·.isEmpty)).mapM orderFieldOfText := by
  unfold orderOfText
  rw [if_neg (by rwa [head?_trim]), orderItems, (pads_trim text.toList).map_trim_splitOn rfl]

/-- Reading items one by one ends at the first that is refused, if one
is. -/
theorem mapM_orderFieldOfText_cases (items : List (List Char)) :
    (∃ fields, items.mapM orderFieldOfText = .ok fields
        ∧ ∀ item ∈ items, ∃ o, orderFieldOfText item = .ok o)
      ∨ ∃ item ∈ items, ∃ e, orderFieldOfText item = .error e
          ∧ items.mapM orderFieldOfText = .error e := by
  induction items with
  | nil => exact .inl ⟨[], rfl, List.forall_mem_nil _⟩
  | cons item items ih =>
      cases hitem : orderFieldOfText item with
      | error e =>
          refine .inr ⟨item, List.mem_cons_self, e, hitem, ?_⟩
          rw [List.mapM_cons, hitem]
          rfl
      | ok o =>
          rcases ih with ⟨fields, hfields, hall⟩ | ⟨other, hmem, e, hother, herror⟩
          · refine .inl ⟨o :: fields, ?_, List.forall_mem_cons.2 ⟨⟨o, hitem⟩, hall⟩⟩
            rw [List.mapM_cons, hitem, hfields]
            rfl
          · refine .inr ⟨other, List.mem_cons_of_mem _ hmem, e, hother, ?_⟩
            rw [List.mapM_cons, hitem, herror]
            rfl

/-- However an order is spelled in the short form, with fields that the form
can hold, it is read back. A text whose first character that is no white
space is no bracket is refused as a whole, for one of its items, exactly if
it has an item that is misdirected. -/
theorem short_order_read_back :
    (∀ order pieces, (∀ o ∈ order, PlainField o.field.toList) →
      (∀ o ∈ order.head?, o.field.toList.head? ≠ some '[') → SpelledItems order pieces →
        orderOfText (String.ofList ([','].intercalate pieces)) = .ok order)
      ∧ ∀ text : String, (text.toList.dropWhile isBlank).head? ≠ some '[' →
        ((∃ name rest, IsPiece ',' text.toList (name ++ ':' :: rest) ∧ Misdirected name rest) →
            ∃ name rest, IsPiece ',' text.toList (name ++ ':' :: rest) ∧ Misdirected name rest
              ∧ orderOfText text = .error (misdirection name rest))
          ∧ ((∀ name rest, IsPiece ',' text.toList (name ++ ':' :: rest) →
              ¬ Misdirected name rest) → ∃ fields, orderOfText text = .ok fields) := by
  constructor
  · intro order pieces hplain hfirst hspelled
    rw [orderOfText_of_short (by rw [String.toList_ofList]; exact hspelled.head?_ne hplain hfirst),
      String.toList_ofList]
    by_cases hne : pieces = []
    · subst hne
      cases hspelled
      rfl
    · rw [List.splitOn_intercalate ',' (hspelled.noComma hplain) hne]
      exact hspelled.read hplain
  · intro text hshort
    rw [orderOfText_of_short hshort]
    rcases mapM_orderFieldOfText_cases
      (((text.toList.splitOn ',').map trim).filter (!·.isEmpty)) with
      ⟨fields, hfields, hall⟩ | ⟨trimmed, hmem, e, hrefused, herror⟩
    · refine ⟨?_, fun _ => ⟨fields, hfields⟩⟩
      rintro ⟨name, rest, hpiece, hwrong⟩
      -- an item with a colon is not left out
      have hkept : trim (name ++ ':' :: rest) ≠ [] := by
        rw [trim_around rfl]
        simp
      obtain ⟨o, ho⟩ := hall _ (List.mem_filter.2
        ⟨List.mem_map_of_mem (mem_splitOn_iff.2 hpiece), isEmpty_trim hkept⟩)
      rw [hwrong.refused] at ho
      cases ho
    · obtain ⟨item, hitem, rfl⟩ := List.mem_map.1 (List.mem_of_mem_filter hmem)
      obtain ⟨name, rest, rfl, hwrong, rfl⟩ := misdirected_of_error hrefused
      have hpiece := mem_splitOn_iff.1 hitem
      refine ⟨fun _ => ⟨name, rest, hpiece, hwrong, herror⟩, fun hnone => ?_⟩
      exact absurd hwrong (hnone name rest hpiece)

/-- An order with an empty item in front and one inside, white space, and
letters of both cases; and a text that is refused for its second item. -/
theorem short_order_read_back_loosely :
    let order : List OrderField := [⟨"name", .descending⟩, ⟨"first name", .ascending⟩]
    let pieces := [" ".toList, " name : DeSC\t".toList, [], "first name ".toList]
    (∀ o ∈ order, PlainField o.field.toList)
      ∧ (∀ o ∈ order.head?, o.field.toList.head? ≠ some '[') ∧ SpelledItems order pieces
      ∧ orderOfText " , name : DeSC\t,,first name " = .ok order
      ∧ ("name, age:up".toList.dropWhile isBlank).head? ≠ some '['
      ∧ ∃ name rest, IsPiece ',' "name, age:up".toList (name ++ ':' :: rest)
          ∧ Misdirected name rest
          ∧ orderOfText "name, age:up" = .error (misdirection name rest) := by
  intro order pieces
  have hend : ∀ d, isBlank d = false → ∀ c ∈ some d, isBlank c = false := by
    rintro d hd c hc
    obtain rfl := Option.some.inj hc
    exact hd
  have hplain : ∀ o ∈ order, PlainField o.field.toList := by
    refine List.forall_mem_cons.2 ⟨?_, List.forall_mem_singleton.2 ?_⟩
    · exact ⟨by decide, by decide, by decide, hend 'n' rfl, hend 'e' rfl⟩
    · exact ⟨by decide, by decide, by decide, hend 'f' rfl, hend 'e' rfl⟩
  have hfirst : ∀ o ∈ order.head?, o.field.toList.head? ≠ some '[' := by
    intro o ho
    obtain rfl := Option.some.inj ho
    decide
  have hname : SpelledItem ⟨"name", .descending⟩ " name : DeSC\t".toList :=
    .directed ⟨[' '], [' '], rfl, rfl, rfl⟩ (by decide : asciiLower "DeSC".toList = _)
      ⟨[' '], ['\t'], rfl, rfl, rfl⟩
  have hlast : SpelledItem ⟨"first name", .ascending⟩ "first name ".toList :=
    .field rfl ⟨[], [' '], rfl, rfl, rfl⟩
  have hspelled : SpelledItems order pieces :=
    .blank rfl (.item hname (.blank rfl (.item hlast .nil)))
  have hshort : ("name, age:up".toList.dropWhile isBlank).head? ≠ some '[' := by decide
  refine ⟨hplain, hfirst, hspelled,
    short_order_read_back.1 order pieces hplain hfirst hspelled, hshort,
    (short_order_read_back.2 "name, age:up" hshort).1 ⟨" age".toList, "up".toList, ?_, ?_⟩⟩
  · exact ⟨by decide, "name,".toList, [], rfl, .inr rfl, .inl rfl⟩
  · exact ⟨by decide, by decide, by decide⟩

/-- A JSON list behind a space: the text does not begin with a bracket, what
stands behind its first colon is no direction, and it is read. -/
theorem json_order_behind_space :
    let text := " [\x7b\"field\":\"age\"\x7d]"
    text.toList.head? ≠ some '['
      ∧ (∃ name rest, IsPiece ',' text.toList (name ++ ':' :: rest) ∧ Misdirected name rest)
      ∧ orderOfText text = .ok [⟨"age", .ascending⟩] := by
  refine ⟨by decide, ⟨" [\x7b\"field\"".toList, "\"age\"\x7d]".toList, ?_, ?_⟩, ?_⟩
  · exact ⟨by decide, [], [], rfl, .inl rfl, .inl rfl⟩
  · exact ⟨by decide, by decide, by decide⟩
  · rfl

end TableApi.FindOptions
