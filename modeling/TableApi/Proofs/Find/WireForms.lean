/-
The two forms in which find options are sent.

Options are one JSON text, or parameters of a query string that hold the
text of the filter, limit and offset in decimal, and the text of the order.
The text of a filter is read the same on its own and inside the text of the
options, except for how deep it may be nested: the options are one level
around it, and the deepest filter that is read on its own is too deep for
the JSON library in there (`Group.ofDocument?_inside`). What else is sent
comes back as it was sent, so that nothing but the filter decides whether
options are accepted, and then the two forms give the same options
(`forms_agree`).

Limits beyond a signed word of 64 bits are refused as parameters
(`ofParams_toOption`).
-/
import TableApi.Find.Params
import TableApi.Proofs.Filter.ReadBack
import TableApi.Proofs.Json.Text
import TableApi.Proofs.Numeric.Decimal
import TableApi.Proofs.Result
import TableApi.Proofs.Text.Blank

namespace TableApi

open Json TableApi.Filter

-- ================================================================= filter

namespace Filter

variable {nesting : Nat}

/-- Members are read unless one is no JSON or the deepest is too deep. -/
theorem all_sound_within (items : List Document) :
    (items.all fun item => item.isSound && item.depth ≤ nesting)
      = (items.all Document.isSound && decide (Document.depthOfItems items ≤ nesting)) := by
  induction items with
  | nil => rfl
  | cons item items ih =>
      have hmax : decide (max item.depth (Document.depthOfItems items) ≤ nesting)
          = (decide (item.depth ≤ nesting)
            && decide (Document.depthOfItems items ≤ nesting)) := by
        rw [← Bool.decide_and, decide_eq_decide]
        exact Nat.max_le
      rw [List.all_cons, List.all_cons, ih, Document.depthOfItems, hmax]
      ac_rfl

/-- One level less of nesting makes a difference only to members that are
nested to the last level. -/
theorem outermostRules?_succ (items : List Document) :
    outermostRules? nesting (.array items true)
      = if Document.depthOfItems items = nesting + 1 then none
        else outermostRules? (nesting + 1) (.array items true) := by
  have hlast : decide (Document.depthOfItems items ≤ nesting + 1)
      = (decide (Document.depthOfItems items ≤ nesting)
        || decide (Document.depthOfItems items = nesting + 1)) := by
    rw [← Bool.decide_or, decide_eq_decide]
    exact Nat.le_add_one_iff
  rw [outermostRules?, outermostRules?, all_sound_within, all_sound_within, hlast]
  by_cases hdeep : Document.depthOfItems items = nesting + 1
  · have hbeyond : decide (Document.depthOfItems items ≤ nesting) = false :=
      decide_eq_false (by omega)
    rw [if_pos hdeep, hbeyond, Bool.and_false, if_neg Bool.false_ne_true]
  · rw [if_neg hdeep, decide_eq_false hdeep, Bool.or_false]

namespace Group

/-- All that is read of the text of a group is its members. -/
theorem ofDocument?_written (nesting : Nat) (g : Group) :
    ofDocument? nesting (Document.written g.toValue)
      = (outermostRules? (nesting - 2)
          (.array (Document.writtenItems (nodeValues g.rules)) true)).map
        fun rules => { g with rules } := by
  have hparts : (Document.written g.toValue).parts? groupNames
      = some [some (.string (some g.combinator.tag)), some (.bool g.negate),
          some (.array (Document.writtenItems (nodeValues g.rules)) true)] := by
    rw [toValue, toNode, toValue_group]
    rfl
  have hcombinator := Combinator.ofDocument?_tag g.combinator
  unfold ofDocument?
  rw [hparts]
  simp only [Option.bind_eq_bind, Option.bind_some, hcombinator, optional?, Document.bool?]
  cases outermostRules? (nesting - 2)
    (.array (Document.writtenItems (nodeValues g.rules)) true) <;> rfl

/-- A group is two levels around its members: the object and the list. -/
theorem depth_toValue (g : Group) :
    (Document.ofValue g.toValue).depth
      = Document.depthOfItems (Document.writtenItems (nodeValues g.rules)) + 2 := by
  rw [ofValue_toValue, Document.depthOfItems_written]
  simp [groupFields, Document.ofFields, Document.ofValue, Document.depth, Document.depthOfFields]

/-- A group is read alike with one level of nesting less, unless it needs
the last one. -/
theorem ofDocument?_succ (nesting : Nat) (g : Group) :
    ofDocument? (nesting + 2) (Document.written g.toValue)
      = if (Document.ofValue g.toValue).depth = nesting + 3 then none
        else ofDocument? (nesting + 3) (Document.written g.toValue) := by
  rw [ofDocument?_written, ofDocument?_written, depth_toValue]
  show Option.map _ (outermostRules? nesting _) = _
  rw [outermostRules?_succ]
  simp only [Nat.add_right_cancel_iff]
  split <;> rfl

/-- The text of a filter is read as the document that is written. -/
theorem read?_text (g : Group) :
    read? g.toValue.text = ofDocument? Document.maxDepth (Document.written g.toValue) := by
  rw [read?, Document.readOnly?_text, Option.bind_some]

/-- A group is read inside an object as its text is read alone, unless that
is nested as deep as may be. -/
theorem ofDocument?_inside (g : Group) :
    ofDocument? (Document.maxDepth - 1) (Document.written g.toValue)
      = if (Document.ofValue g.toValue).depth = Document.maxDepth then none
        else read? g.toValue.text := by
  rw [read?_text]
  exact ofDocument?_succ 124 g

end Group

end Filter

-- ================================================================== texts

namespace OrderField

/-- The JSON form of a field to sort by with its fields in the order they
are declared in, as a text has them. -/
def declared (o : OrderField) : Value :=
  .object [("field", .string o.field), ("direction", .string o.direction.tag)]

/-- The JSON text of fields to sort by. -/
def listText (order : List OrderField) : String := (Value.array (order.map declared)).text

/-- A field of an order is read back from its form, -/
theorem ofDocument?_written (o : OrderField) :
    ofDocument? (Document.written o.declared) = some o := by
  obtain ⟨field, direction⟩ := o
  cases direction <;> rfl

/-- An order is read back from its list form. -/
theorem listOfDocument?_written (order : List OrderField) :
    listOfDocument? (Document.written (.array (order.map declared))) = some order := by
  have hitems : (Document.writtenItems (order.map declared)).mapM ofDocument? = some order := by
    induction order with
    | nil => rfl
    | cons o order ih =>
        rw [List.map_cons, Document.writtenItems, List.mapM_cons, ofDocument?_written, ih]
        rfl
  exact hitems

end OrderField

namespace FindOptions

/-- The fields of options in the order they are declared in. -/
def declared (o : FindOptions) : List (String × Value) :=
  (o.filter.map fun g => ("filter", g.toValue)).toList
    ++ [("limit", numberValue o.limit), ("offset", numberValue o.offset),
      ("orderBy", .array (o.order.map OrderField.declared))]

/-- The JSON text of options. -/
def text (o : FindOptions) : String := (Value.object o.declared).text

/-- A number in decimal. -/
def decimalText (n : Nat) : String := String.ofList (Decimal.digits n)

/-- Parameters of a query string hold the options, with the keys present
that are set. -/
structure Carries (params : Params) (o : FindOptions) : Prop where
  filter : (params "filter").or (params "where") = o.filter.map fun g => g.toValue.text
  limit : params "limit" = o.limit.map decimalText
  offset : params "offset" = o.offset.map decimalText
  order : (params "orderBy").or (params "order_by") = some (OrderField.listText o.order)
    ∨ o.order = [] ∧ (params "orderBy").or (params "order_by") = none

/-- Limit and offset are numbers that a signed word of 64 bits holds. -/
structure InRange (o : FindOptions) : Prop where
  limit : ∀ n ∈ o.limit, (n : Int) ≤ int64Max
  offset : ∀ n ∈ o.offset, (n : Int) ≤ int64Max

instance (o : FindOptions) : Decidable o.InRange :=
  decidable_of_iff ((∀ n ∈ o.limit, (n : Int) ≤ int64Max) ∧ ∀ n ∈ o.offset, (n : Int) ≤ int64Max)
    ⟨fun h => ⟨h.1, h.2⟩, fun h => ⟨h.limit, h.offset⟩⟩

/-- How deep the text of the filter is nested. -/
def nesting (o : FindOptions) : Nat :=
  (o.filter.map fun g => (Document.ofValue g.toValue).depth).getD 0

/-- What an optional filter is read as from its text. -/
def filterOfText? : Option Group → Option (Option Group)
  | none => some none
  | some g => (Group.read? g.toValue.text).map some

/-- The options with the filter that is read from the text of theirs. -/
def rereadText? (o : FindOptions) : Option FindOptions :=
  (filterOfText? o.filter).map fun filter => { o with filter }

-- =============================================================== one text

/-- A signed word holds less than an unsigned one. -/
theorem nat64_of_int64 {n : Nat} (h : (n : Int) ≤ int64Max) : n ≤ nat64Max := by
  have hmax : int64Max ≤ (nat64Max : Int) := by decide
  omega

/-- A number that a signed word holds is read back, or the lack of one. -/
theorem nullable?_written {number : Option Nat} (h : ∀ n ∈ number, (n : Int) ≤ int64Max) :
    nullable? Document.nat64? (Document.written (numberValue number)) = some number := by
  cases number with
  | none => rfl
  | some n =>
      have hbound := nat64_of_int64 (h n rfl)
      have hread := Number.toNat64?_eq_some_iff.2 ⟨rfl, hbound⟩
      rw [numberValue, Value.nat, Document.written, Number.reread?_natCast hbound]
      exact congrArg (Option.map some) hread

/-- The filter in the text of options is read as it is read alone, unless
it is nested to the last level. -/
theorem optional?_filter (o : FindOptions) :
    optional? none (nullable? (Group.ofDocument? (Document.maxDepth - 1)))
        (o.filter.map fun g => Document.written g.toValue)
      = if o.nesting = Document.maxDepth then none else filterOfText? o.filter := by
  obtain ⟨filter, limit, offset, order⟩ := o
  cases filter with
  | none => rfl
  | some g =>
      have hnullable : nullable? (Group.ofDocument? (Document.maxDepth - 1))
            (Document.written g.toValue)
          = (Group.ofDocument? (Document.maxDepth - 1) (Document.written g.toValue)).map some := by
        rw [Group.toValue, Group.toNode, toValue_group, Document.written, nullable?]
        exact nofun
      have hnesting : nesting ⟨some g, limit, offset, order⟩
          = (Document.ofValue g.toValue).depth := rfl
      rw [Option.map_some, optional?, hnullable, Group.ofDocument?_inside, hnesting, filterOfText?]
      split <;> rfl

/-- The four parts of options are found under their names, each as it was
written. -/
theorem parts?_declared (o : FindOptions) :
    (Document.written (.object o.declared)).parts? names
      = some [o.filter.map fun g => Document.written g.toValue,
          some (Document.written (numberValue o.limit)),
          some (Document.written (numberValue o.offset)),
          some (Document.written (.array (o.order.map OrderField.declared)))] := by
  obtain ⟨filter, limit, offset, order⟩ := o
  cases filter <;> rfl

/-- The options in the text of options come back with the filter that is
read. -/
theorem read?_text {o : FindOptions} (h : o.InRange) :
    read? o.text = if o.nesting = Document.maxDepth then none else o.rereadText? := by
  have hlimit := nullable?_written h.limit
  have hoffset := nullable?_written h.offset
  have horder := OrderField.listOfDocument?_written o.order
  have hfilter := optional?_filter o
  rw [read?, text, Document.readOnly?_text, Option.bind_some]
  unfold ofDocument?
  rw [parts?_declared]
  simp only [Option.bind_eq_bind, Option.bind_some, hfilter]
  simp only [optional?, hlimit, hoffset, horder, Option.bind_some, rereadText?]
  split
  · rfl
  · cases filterOfText? o.filter <;> rfl

-- ============================================================= parameters

/-- A filter in a parameter is read from its text, and no parameter is no
filter. -/
theorem filterOfParam_toOption (filter : Option Group) :
    (filterOfParam (filter.map fun g => g.toValue.text)).toOption = filterOfText? filter := by
  cases filter with
  | none => rfl
  | some g =>
      have hvisible : Text.isAllBlank g.toValue.text.toList = false := by
        rw [Value.text, String.toList_ofList, Group.toValue, Group.toNode, toValue_group,
          Value.chars]
        rfl
      rw [Option.map_some, filterOfParam, hvisible, if_neg Bool.false_ne_true, filterOfText?]
      generalize Group.read? g.toValue.text = found
      cases found <;> rfl

/-- A number in decimal is accepted if a signed word of 64 bits holds it. -/
theorem numberOfParam_toOption {params : Params} {name : String} {number : Option Nat}
    (h : params name = number.map decimalText) :
    (numberOfParam params name).toOption
      = if ∀ n ∈ number, (n : Int) ≤ int64Max then some number else none := by
  rw [numberOfParam, h]
  cases number with
  | none => rfl
  | some n =>
      have htrim : Text.trim (Decimal.digits n) = Decimal.digits n :=
        Text.trim_eq_self
          (fun c hc => Text.isBlank_of_isDigit
            (Decimal.isDigit_of_mem_digits (List.mem_of_mem_head? hc)))
          (fun c hc => Text.isBlank_of_isDigit
            (Decimal.isDigit_of_mem_digits (List.mem_of_mem_getLast? hc)))
      have hbound : (∀ m ∈ some n, (m : Int) ≤ int64Max) ↔ n ≤ int64Max.toNat := by
        have hmax : 0 ≤ int64Max := by decide
        simp only [Option.mem_some_iff, forall_eq']
        omega
      simp only [Option.map_some, decimalText, String.toList_ofList, htrim,
        Decimal.boundedNat?_digits, hbound]
      by_cases hle : n ≤ int64Max.toNat
      · rw [if_pos hle, if_pos hle]
        rfl
      · rw [if_neg hle, if_neg hle]
        rfl

/-- An order in list form is read back from its text. -/
theorem orderOfText_listText (order : List OrderField) :
    orderOfText (OrderField.listText order) = .ok order := by
  have hchars : (OrderField.listText order).toList
      = '[' :: (commaSeparated (itemTexts (order.map OrderField.declared)) ++ [']']) := by
    rw [OrderField.listText, Value.text, String.toList_ofList, Value.chars, List.cons_append]
  have htrim : Text.trim (OrderField.listText order).toList
      = (OrderField.listText order).toList := by
    refine Text.trim_eq_self ?_ ?_
    · rw [hchars]
      intro c hc
      obtain rfl : '[' = c := Option.some.inj hc
      decide
    · rw [hchars, ← List.cons_append, List.getLast?_concat]
      intro c hc
      obtain rfl : ']' = c := Option.some.inj hc
      decide
  have hread : Document.readOnly? (String.ofList (OrderField.listText order).toList)
      = some (Document.written (.array (order.map OrderField.declared))) := by
    rw [String.ofList_toList]
    exact Document.readOnly?_text _
  unfold orderOfText
  simp only [htrim, hread, Option.bind_some, OrderField.listOfDocument?_written]
  rw [hchars]
  rfl

/-- An order is read back from a parameter, where an empty one may be left
out. -/
theorem orderOfParam_listText {order : List OrderField} {found : Option String}
    (h : found = some (OrderField.listText order) ∨ order = [] ∧ found = none) :
    orderOfParam found = .ok order := by
  rcases h with rfl | ⟨rfl, rfl⟩
  · exact orderOfText_listText order
  · rfl

/-- The options in parameters that carry options: limit and offset are
checked, the filter is read, and the rest is as it was. -/
theorem ofParams_toOption {params : Params} {o : FindOptions} (h : Carries params o) :
    (ofParams params).toOption = if o.InRange then o.rereadText? else none := by
  have hlimit := numberOfParam_toOption h.limit
  have hoffset := numberOfParam_toOption h.offset
  have hfilter := filterOfParam_toOption o.filter
  unfold ofParams
  simp only [toOption_bind, orderOfParam_listText h.order, hlimit, hoffset, h.filter, hfilter]
  by_cases hrange : o.InRange
  · rw [if_pos hrange, if_pos hrange.limit, if_pos hrange.offset, rereadText?]
    cases filterOfText? o.filter <;> rfl
  · rw [if_neg hrange]
    by_cases hlow : ∀ n ∈ o.limit, (n : Int) ≤ int64Max
    · rw [if_neg fun hhigh => hrange ⟨hlow, hhigh⟩, if_pos hlow]
      cases filterOfText? o.filter <;> rfl
    · rw [if_neg hlow]
      cases filterOfText? o.filter <;> rfl

/-- A number that is read from parameters is one that a signed word of 64
bits holds. -/
theorem numberOfParam_le {params : Params} {name : String} {number : Option Nat}
    (h : (numberOfParam params name).toOption = some number) :
    ∀ n ∈ number, (n : Int) ≤ int64Max := by
  unfold numberOfParam at h
  split at h
  · obtain rfl := Option.some.inj h
    exact fun n hn => absurd hn (Option.not_mem_none n)
  · split at h
    next n hread =>
      obtain rfl := Option.some.inj h
      intro m hm
      obtain rfl : n = m := Option.some.inj hm
      have hle := (Decimal.boundedNat?_eq_some_iff.1 hread).2
      have hmax : 0 ≤ int64Max := by decide
      omega
    · cases h

/-- What is accepted is in range. -/
theorem inRange_of_ofParams {params : Params} {o : FindOptions} (h : ofParams params = .ok o) :
    o.InRange := by
  have hsome : (ofParams params).toOption = some o := congrArg Except.toOption h
  unfold ofParams at hsome
  simp only [toOption_bind] at hsome
  obtain ⟨filter, -, hsome⟩ := Option.bind_eq_some_iff.1 hsome
  obtain ⟨order, -, hsome⟩ := Option.bind_eq_some_iff.1 hsome
  obtain ⟨limit, hlimit, hsome⟩ := Option.bind_eq_some_iff.1 hsome
  obtain ⟨offset, hoffset, hsome⟩ := Option.bind_eq_some_iff.1 hsome
  obtain rfl := Option.some.inj hsome
  exact ⟨numberOfParam_le hlimit, numberOfParam_le hoffset⟩

-- ============================================================== both forms

/-- Options with limit and offset in range are accepted as one text exactly
if they are accepted as parameters, and come back the same, but for a
filter nested as deep as the JSON library reads: with the options around it
that one is too deep. The parameters refuse a limit or an offset out of
range, and none out of range is ever read from parameters. -/
theorem forms_agree {params : Params} {o : FindOptions} (h : Carries params o) :
    (o.InRange → read? o.text
        = if o.nesting = Document.maxDepth then none else (ofParams params).toOption)
      ∧ (ofParams params).toOption = (if o.InRange then o.rereadText? else none)
      ∧ ∀ (params : Params) (other : FindOptions), ofParams params = .ok other → other.InRange := by
  refine ⟨fun hrange => ?_, ofParams_toOption h, fun _ _ => inRange_of_ofParams⟩
  rw [read?_text hrange, ofParams_toOption h, if_pos hrange]

/-- A filter under its other name, a limit at the end of the range, no
offset. -/
theorem nested_filter_in_both_forms :
    let filter : Group := ⟨.and, false, [.rule ⟨"age", .greater, some (.int (-7))⟩,
      .group .or true [.rule ⟨"name", .isNull, none⟩]]⟩
    let o : FindOptions := ⟨some filter, some 9223372036854775807, none, [⟨"id", .descending⟩]⟩
    let params : Params := fun name =>
      if name = "where" then some filter.toValue.text
      else if name = "limit" then some "9223372036854775807"
      else if name = "orderBy" then some (OrderField.listText o.order) else none
    Carries params o ∧ o.InRange ∧ read? o.text = some o ∧ (ofParams params).toOption = some o := by
  intro filter o params
  have hcarries : Carries params o := ⟨rfl, by decide, rfl, .inl rfl⟩
  have hrange : o.InRange := by decide
  have hfilter : Group.read? filter.toValue.text = some filter := by
    rw [Group.read?_text]
    unfold filter
    rfl
  have hreread : o.rereadText? = some o := by
    rw [rereadText?, filterOfText?, hfilter]
    rfl
  obtain ⟨htext, hparams, -⟩ := forms_agree hcarries
  rw [if_pos hrange, hreread] at hparams
  refine ⟨hcarries, hrange, ?_, hparams⟩
  rw [htext hrange, if_neg (by decide), hparams]

/-- A rule in groups within groups. -/
def nestedRule : Nat → Node
  | 0 => .rule ⟨"a", .isNull, none⟩
  | n + 1 => .group .and false [nestedRule n]

set_option maxRecDepth 4000 in
/-- A limit beyond the range is accepted as one text and refused as a
parameter, and a filter nested as deep as is read is accepted as a parameter
and refused as one text. -/
theorem forms_told_apart :
    let large : FindOptions := ⟨none, some 9223372036854775808, none, []⟩
    let byLimit : Params := fun name => if name = "limit" then some "9223372036854775808" else none
    let filter : Group := ⟨.and, false, [nestedRule 62]⟩
    let deep : FindOptions := ⟨some filter, none, none, []⟩
    let byFilter : Params := fun name => if name = "filter" then some filter.toValue.text else none
    (Carries byLimit large ∧ read? large.text = some large
        ∧ (ofParams byLimit).toOption = none)
      ∧ Carries byFilter deep ∧ read? deep.text = none
        ∧ (ofParams byFilter).toOption = some deep := by
  intro large byLimit filter deep byFilter
  have hlarge : Carries byLimit large := ⟨rfl, by decide, rfl, .inr ⟨rfl, rfl⟩⟩
  have hdeep : Carries byFilter deep := ⟨rfl, rfl, rfl, .inr ⟨rfl, rfl⟩⟩
  have hrange : deep.InRange := by decide
  have hnesting : deep.nesting = Document.maxDepth := by
    unfold deep filter
    rfl
  have hread : Group.read? filter.toValue.text = some filter := by
    rw [Group.read?_text]
    unfold filter
    rfl
  have hreread : deep.rereadText? = some deep := by
    rw [rereadText?, filterOfText?, hread]
    rfl
  refine ⟨⟨hlarge, ?_, ?_⟩, hdeep, ?_, ?_⟩
  · rw [read?, text, Document.readOnly?_text, Option.bind_some]
    unfold large
    rfl
  · rw [ofParams_toOption hlarge]
    exact if_neg (by decide)
  · rw [read?_text hrange, if_pos hnesting]
  · rw [ofParams_toOption hdeep, if_pos hrange, hreread]

end FindOptions

end TableApi
