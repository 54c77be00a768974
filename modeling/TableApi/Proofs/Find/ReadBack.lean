/-
Reading find options back from their own JSON form.

Reading takes the options apart as they were written, so limit, offset,
order and the tree of the filter come back as they were; of the values in
the filter each comes back as the JSON library reads it. Null comes back as
no value, which compiles to the same condition. What else may come back
changed, or not at all, are values in which an object begins with the key
of an embedded text: the options are read back exactly if the filter has
none (`read_back_iff_plain`).
-/
import TableApi.Find.Wire
import TableApi.Proofs.Filter.ReadBack
import TableApi.Proofs.Numeric.Decimal

namespace TableApi

open Json TableApi.Filter

-- ================================================================== order

namespace OrderField

/-- The direction is written first. -/
theorem toValue_eq (o : OrderField) :
    o.toValue = .object [("direction", .string o.direction.tag), ("field", .string o.field)] := by
  have hlt : "direction" < "field" := by decide
  exact congrArg Value.object (if_pos hlt)

/-- A field of an order is read back from its form. -/
theorem ofDocument?_toValue (o : OrderField) :
    ofDocument? (Document.ofValue o.toValue) = some o := by
  rw [toValue_eq]
  obtain ⟨field, direction⟩ := o
  cases direction <;> rfl

/-- An order is read back field by field. -/
theorem mapM_ofDocument? (order : List OrderField) :
    (Document.ofItems (order.map toValue)).mapM ofDocument? = some order := by
  induction order with
  | nil => rfl
  | cons o order ih =>
      rw [List.map_cons, Document.ofItems, List.mapM_cons, ofDocument?_toValue, ih]
      rfl

end OrderField

-- ================================================================ options

namespace FindOptions

/-- The values in the rules of the filter. -/
def values (o : FindOptions) : List (Option Value) := (o.filter.map Group.values).getD []

/-- The options with other values in the rules of the filter. -/
def mapValues (f : Option Value → Option Value) (o : FindOptions) : FindOptions :=
  { o with filter := o.filter.map (Group.mapValues f) }

/-- The options with null values left out of the filter. -/
def withoutNulls (o : FindOptions) : FindOptions := o.mapValues withoutNull

/-- The options without the values in the filter. -/
def frame (o : FindOptions) : FindOptions := o.mapValues fun _ => none

/-- The options are made of what numbers of 64 bits and JSON objects can
be. -/
structure Representable (o : FindOptions) : Prop where
  limit : ∀ n ∈ o.limit, n ≤ nat64Max
  offset : ∀ n ∈ o.offset, n ≤ nat64Max
  ordered : ∀ value ∈ o.values, ∀ v ∈ value, v.Ordered

/-- No value in the filter has an object that begins with the key of an
embedded text. -/
def Plain (o : FindOptions) : Prop := ∀ value ∈ o.values, ∀ v ∈ value, v.Plain

/-- What the filter is read back as. -/
def reread? (o : FindOptions) : Option FindOptions :=
  match o.filter with
  | none => some o
  | some g => (g.traverse? Filter.reread?).map fun g => { o with filter := some g }

/-- The fields of options that are written, in the order of their keys. -/
def fields (o : FindOptions) : List (String × Value) :=
  (o.filter.map fun g => ("filter", g.toValue)).toList
    ++ [("limit", numberValue o.limit), ("offset", numberValue o.offset),
      ("orderBy", .array (o.order.map OrderField.toValue))]

/-- Options are written with these fields. -/
theorem toValue_eq (o : FindOptions) : o.toValue = .object o.fields := by
  obtain ⟨filter, limit, offset, order⟩ := o
  have hascending : Ascending (fields ⟨filter, limit, offset, order⟩) := by
    rw [Ascending, ← List.pairwise_map (f := Prod.fst)]
    cases filter with
    | none =>
        show ["limit", "offset", "orderBy"].Pairwise (· < ·)
        decide
    | some g =>
        show ["filter", "limit", "offset", "orderBy"].Pairwise (· < ·)
        decide
  refine Eq.trans ?_ (congrArg Value.object (orderFields_of_ascending hascending))
  cases filter <;> rfl

/-- The four parts of options are found under their names. -/
theorem parts?_fields (o : FindOptions) :
    (Document.object (Document.ofFields o.fields) true).parts? names
      = some [o.filter.map fun g => Document.ofValue g.toValue,
          some (Document.ofValue (numberValue o.limit)),
          some (Document.ofValue (numberValue o.offset)),
          some (.array (Document.ofItems (o.order.map OrderField.toValue)) true)] := by
  obtain ⟨filter, limit, offset, order⟩ := o
  cases filter <;> rfl

/-- A number that a word holds is read back, or the lack of one. -/
theorem nullable?_numberValue {number : Option Nat} (h : ∀ n ∈ number, n ≤ nat64Max) :
    nullable? Document.nat64? (Document.ofValue (numberValue number)) = some number := by
  cases number with
  | none => rfl
  | some n =>
      have hread := Number.toNat64?_eq_some_iff.2 ⟨rfl, h n rfl⟩
      exact congrArg (Option.map some) hread

/-- A filter is read as it is read alone. -/
theorem nullable?_group {nesting : Nat} (g : Group) :
    nullable? (Group.ofDocument? nesting) (Document.ofValue g.toValue)
      = (Group.ofDocument? nesting (Document.ofValue g.toValue)).map some := by
  rw [Group.ofValue_toValue, nullable?]
  exact nofun

/-- Reading written options rereads the values in the filter, and nothing
else can fail. -/
theorem ofValue?_toValue {o : FindOptions} (h : o.Representable) :
    ofValue? o.toValue = o.reread? := by
  have hparts := parts?_fields o
  have hlimit := nullable?_numberValue h.limit
  have hoffset := nullable?_numberValue h.offset
  have horder : OrderField.listOfDocument?
      (.array (Document.ofItems (o.order.map OrderField.toValue)) true) = some o.order :=
    OrderField.mapM_ofDocument? o.order
  have hfilter : ∀ g ∈ o.filter, (Document.ofValue g.toValue).depth
      ≤ (Document.object (Document.ofFields o.fields) true).depth - 1 := by
    intro g hg
    rw [Document.depth, fields, Option.mem_def.1 hg]
    exact Nat.le_max_left _ _
  rw [ofValue?, toValue_eq, Document.ofValue]
  unfold ofDocument?
  rw [hparts]
  simp only [Option.bind_eq_bind, Option.bind_some, optional?, hlimit, hoffset, horder]
  obtain ⟨filter, limit, offset, order⟩ := o
  cases filter with
  | none => rfl
  | some g =>
      have hread := Group.ofDocument?_toValue g (hfilter g rfl)
      simp only [Option.map_some, nullable?_group, hread, reread?]
      cases g.traverse? Filter.reread? <;> rfl

/-- Options are read back exactly if they are plain. -/
theorem reread?_eq_some_iff {o : FindOptions} (h : o.Representable) :
    o.reread? = some o.withoutNulls ↔ o.Plain := by
  obtain ⟨filter, limit, offset, order⟩ := o
  cases filter with
  | none => exact ⟨fun _ => List.forall_mem_nil _, fun _ => rfl⟩
  | some g =>
      have hvalues : g.traverse? Filter.reread? = some (g.mapValues withoutNull)
          ↔ ∀ value ∈ g.values, ∀ v ∈ value, v.Plain :=
        (Group.traverse?_eq_some_mapValues_iff g).trans
          (forall₂_congr fun value hvalue => Filter.reread?_eq_some_iff (h.ordered value hvalue))
      refine Iff.trans ?_ hvalues
      simp only [reread?, withoutNulls, mapValues, Option.map_some]
      cases g.traverse? Filter.reread? with
      | none => exact ⟨nofun, nofun⟩
      | some other => simp

/-- Whatever is read back has the same frame. -/
theorem frame_of_reread? {o other : FindOptions} (h : o.reread? = some other) :
    other.frame = o.frame := by
  obtain ⟨filter, limit, offset, order⟩ := o
  cases filter with
  | none =>
      obtain rfl := Option.some.inj h
      rfl
  | some g =>
      obtain ⟨group, hgroup, rfl⟩ := Option.map_eq_some_iff.1 h
      have hsame := Group.mapValues_of_traverse? none hgroup
      simp only [frame, mapValues, Option.map_some, hsame]

/-- A value that is null and none at all are compiled alike. -/
theorem compile_withoutNulls (t : Table) (o : FindOptions) :
    o.withoutNulls.compile t = o.compile t := by
  obtain ⟨filter, limit, offset, order⟩ := o
  cases filter with
  | none => rfl
  | some g =>
      have hcompile := Group.compile_mapValues getD_withoutNull g
      simp only [compile, withoutNulls, mapValues, Option.map_some, compileFilter, hcompile]

/-- Options are read back from their JSON form, null values as none,
exactly if no value in the filter has an object that begins with the key
of an embedded text. Such options compile to what they compiled to before.
Whatever is read back of others, limit, offset and order are the same and
so is the tree of the filter, rule by rule and group by group. -/
theorem read_back_iff_plain {o : FindOptions} (h : o.Representable) :
    (ofValue? o.toValue = some o.withoutNulls ↔ o.Plain)
      ∧ (∀ t, o.withoutNulls.compile t = o.compile t)
      ∧ ∀ other, ofValue? o.toValue = some other → other.frame = o.frame := by
  rw [ofValue?_toValue h]
  exact ⟨reread?_eq_some_iff h, fun t => compile_withoutNulls t o, fun _ => frame_of_reread?⟩

/-- A null, a rule without a value, a group in a group, and an object with
the key of an embedded text behind another one. -/
theorem read_back_of_nested_filter :
    let payload : Value := .object [("!", .int 1), (Document.textKey, .int 2)]
    let isNull : Rule := ⟨"a", .equals, some .null⟩
    let among : Rule := ⟨"rules", .oneOf, some (.array [.int (-7), payload])⟩
    let filter : Group :=
      ⟨.and, false, [.rule isNull, .group .or true [.rule among, .group .and false []],
        .rule ⟨"b", .isNull, none⟩]⟩
    let o : FindOptions := ⟨some filter, some 5, none, [⟨"id", .descending⟩]⟩
    o.Representable ∧ o.Plain
      ∧ ofValue? o.toValue = some ⟨some ⟨.and, false, [.rule { isNull with value := none },
          .group .or true [.rule among, .group .and false []], .rule ⟨"b", .isNull, none⟩]⟩,
        some 5, none, [⟨"id", .descending⟩]⟩ := by
  intro payload isNull among filter o
  have hvalues : o.values = [some .null, some (.array [.int (-7), payload]), none] := rfl
  have hordered : payload.Ordered := by
    refine ⟨?_, trivial, trivial, trivial⟩
    rw [Ascending, List.pairwise_pair]
    decide
  have hplain : payload.Plain := by
    refine ⟨fun heq => ?_, trivial, trivial, trivial⟩
    exact absurd (Option.some.inj heq) (by decide)
  have hrepresentable : o.Representable := by
    refine ⟨fun n hn => ?_, fun n hn => absurd hn (Option.not_mem_none n), ?_⟩
    · obtain rfl : 5 = n := Option.some.inj hn
      decide
    · rw [hvalues]
      simp [Value.Ordered, Value.OrderedItems, hordered, Value.int]
  have hall : o.Plain := by
    rw [Plain, hvalues]
    simp [Value.Plain, Value.PlainItems, hplain, Value.int]
  exact ⟨hrepresentable, hall, (read_back_iff_plain hrepresentable).1.2 hall⟩

/-- An object that begins with the key of an embedded text, and holds no
text there, cannot be read back. -/
theorem embedded_text_is_not_read_back :
    let payload : Value := .object [(Document.textKey, .int 2), ("a", .int 1)]
    let o : FindOptions :=
      ⟨some ⟨.and, false, [.rule ⟨"a", .equals, some payload⟩]⟩, none, none, []⟩
    o.Representable ∧ ofValue? o.toValue = none := by
  intro payload o
  have hordered : payload.Ordered := by
    refine ⟨?_, trivial, trivial, trivial⟩
    rw [Ascending, List.pairwise_pair]
    decide
  have hrepresentable : o.Representable := by
    have hnone : ∀ n ∈ (none : Option Nat), n ≤ nat64Max := fun n hn =>
      absurd hn (Option.not_mem_none n)
    refine ⟨hnone, hnone, ?_⟩
    have hvalues : o.values = [some payload] := rfl
    rw [hvalues]
    simp [hordered]
  refine ⟨hrepresentable, ?_⟩
  rw [ofValue?_toValue hrepresentable]
  rfl

end FindOptions

end TableApi
