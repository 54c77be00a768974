/-
When the comparison of rows is an order.

A sort asks two things of its comparison: rows that change places turn the
result round, and what does not come behind is transitive. The comparison
of rows always does the first. The second is a matter of the values in the
sort columns, since two values that do not compare count as equal: such a
value stands level with all those it does not compare with, which need not
stand level with each other. A column is aligned if this does no harm
(`Aligned`). The rows of aligned columns are arranged by any list of sort
keys over them (`arranges_of_aligned`), and the rows of others are not
(`aligned_of_arranges_rows`).

# What an aligned column holds

As soon as two values are told apart, all the others have to compare with
them, so they are booleans, or numbers and strings. Numbers and strings
are two lines, which are tied together where strings are read as numbers.
A string that is not so read holds on to nothing, and then the numbers
have to be in one place; a string that is read has to have the place in
its own line that it has among the numbers.
-/
import TableApi.Proofs.Store.Keys
import TableApi.Proofs.Store.RowOrder

namespace TableApi

open Json

-- ========================================================= turning round

/-- Exchanging two doubles turns their order round. -/
theorem Double.compare?_swap (x y : Double) :
    y.compare? x = (x.compare? y).map Ordering.swap := by
  unfold compare?
  rw [Bool.or_comm]
  split
  · rfl
  · rw [Option.map_some, ← Std.OrientedOrd.eq_swap]

/-- Exchanging two values turns their order round, where they compare. -/
theorem Json.Value.compare?_swap (v w : Value) :
    w.compare? v = (v.compare? w).map Ordering.swap := by
  cases v <;> cases w
  case bool.bool a b => cases a <;> cases b <;> rfl
  case number.number m n => exact Double.compare?_swap _ _
  case string.string s t => exact congrArg some (Std.OrientedOrd.eq_swap (a := t) (b := s))
  case number.string n s =>
    rw [compare?, compare?]
    cases Double.read? s.toList with
    | none => rfl
    | some x => exact Double.compare?_swap _ _
  case string.number s n =>
    rw [compare?, compare?]
    cases Double.read? s.toList with
    | none => rfl
    | some x => exact Double.compare?_swap _ _
  case array.array vs ws =>
    simp only [compare?]
    rw [same_comm]
    split <;> rfl
  case object.object fs gs =>
    simp only [compare?]
    rw [same_comm]
    split <;> rfl
  all_goals rfl

/-- Exchanging two cells turns their order round, whether they are null,
compare or not. -/
theorem cellOrder_swap (v w : Value) : cellOrder w v = (cellOrder v w).swap := by
  unfold cellOrder
  cases v.isNull <;> cases w.isNull
  · rw [Value.compare?_swap v w]
    cases v.compare? w <;> rfl
  all_goals rfl

/-- Exchanging two rows turns their order round, whatever the keys are. -/
theorem rowOrder_swap (keys : List SortKey) (a b : Row) :
    rowOrder keys b a = (rowOrder keys a b).swap := by
  induction keys with
  | nil => rfl
  | cons key keys ih =>
      have hkey : key.order b a = (key.order a b).swap := by
        unfold SortKey.order
        cases key.direction with
        | ascending => exact cellOrder_swap _ _
        | descending => exact congrArg Ordering.swap (cellOrder_swap _ _)
      rw [rowOrder, rowOrder, hkey, ih, Ordering.swap_then]

-- ====================================================== numbers and texts

/-- The place among the doubles of the number that a string is read as. -/
def readPlace? (s : String) : Option Int :=
  (Double.read? s.toList).bind fun x => if x.isNaN then none else some x.rank

/-- A number, or a string. -/
def IsNumberOrText (v : Value) : Prop :=
  (∃ n : Number, n.IsNumeric ∧ v = .number n) ∨ ∃ s, v = .string s

/-- A boolean is neither a number nor a string. -/
theorem not_isNumberOrText_bool (b : Bool) : ¬ IsNumberOrText (.bool b) := by
  rintro (⟨n, -, h⟩ | ⟨s, h⟩)
  · cases h
  · cases h

section Cells

variable {m n : Number} {s t : String} {v w : Value}

/-- One cell is below another just if the other is not below it or level
with it. -/
theorem cellOrder_lt_iff : cellOrder v w = .lt ↔ ¬ (cellOrder w v).isLE = true := by
  rw [cellOrder_swap v w]
  cases cellOrder v w <;> decide

/-- Numbers are in the order of their places among the doubles. -/
theorem number_le_number (hm : m.IsNumeric) (hn : n.IsNumeric) :
    (cellOrder (.number m) (.number n)).isLE = true ↔ m.place ≤ n.place := by
  have h : cellOrder (.number m) (.number n) = compare m.place n.place := by
    show (m.toDouble.compare? n.toDouble).getD .eq = _
    rw [Number.compare?_toDouble hm hn, Option.getD_some]
  rw [h, Std.isLE_compare]

/-- A number and a string that is read as no number stand level. -/
theorem cellOrder_number_string (hn : n.IsNumeric) :
    cellOrder (.number n) (.string s) = ((readPlace? s).map (compare n.place)).getD .eq := by
  show ((Double.read? s.toList).bind fun y => n.toDouble.compare? y).getD .eq = _
  unfold readPlace?
  cases Double.read? s.toList with
  | none => rfl
  | some y =>
      unfold Number.IsNumeric at hn
      rw [Option.bind_some, Option.bind_some, Double.compare?, hn, Bool.false_or]
      split <;> rfl

/-- A number is below a string, or level with it, unless the string reads as
a lesser number. -/
theorem number_le_string (hn : n.IsNumeric) :
    (cellOrder (.number n) (.string s)).isLE = true ↔ ∀ k ∈ readPlace? s, n.place ≤ k := by
  rw [cellOrder_number_string hn]
  cases readPlace? s with
  | none => simp
  | some k => simp [Std.isLE_compare]

/-- A string is below a number, or level with it, unless it reads as a
greater one. -/
theorem string_le_number (hn : n.IsNumeric) :
    (cellOrder (.string s) (.number n)).isLE = true ↔ ∀ k ∈ readPlace? s, k ≤ n.place := by
  rw [cellOrder_swap (.number n), cellOrder_number_string hn]
  cases readPlace? s with
  | none => simp
  | some k => simp [← Std.OrientedOrd.eq_swap, Std.isLE_compare]

/-- Strings are in the order of their characters. -/
theorem string_lt_string : cellOrder (.string s) (.string t) = .lt ↔ s < t := by
  show Value.compareText s t = .lt ↔ s < t
  unfold Value.compareText
  split
  · exact iff_of_true rfl ‹_›
  · split
    · exact iff_of_false (by decide) ‹_›
    · exact iff_of_false (by decide) ‹_›

/-- Of two strings that are in order the first is the lesser, or they are
the same. -/
theorem eq_or_lt_of_isLE (h : (cellOrder (.string s) (.string t)).isLE = true) :
    s = t ∨ s < t := by
  rcases Ordering.isLE_iff_eq_lt_or_eq_eq.1 h with hlt | heq
  · exact .inr (string_lt_string.1 hlt)
  · exact .inl (Value.compareText_eq_iff.1 heq)

/-- Only doubles that are numbers compare. -/
theorem isNumeric_of_compare? {x y : Double} {o : Ordering} (h : x.compare? y = some o) :
    x.isNaN = false ∧ y.isNaN = false := by
  unfold Double.compare? at h
  split at h
  · cases h
  · next hnan => simpa using hnan

/-- Cells that are not null are in the order of their values, or level. -/
theorem cellOrder_of_ne_null (hv : v ≠ .null) (hw : w ≠ .null) :
    cellOrder v w = (v.compare? w).getD .eq := by
  have hnull : ∀ x : Value, x ≠ .null → x.isNull = false := fun x hx =>
    Bool.eq_false_iff.2 (mt Value.eq_null_of_isNull hx)
  rw [cellOrder, hnull v hv, hnull w hw]

/-- Values are told apart only within a kind, or as numbers and strings. -/
theorem kinds_of_lt (h : cellOrder v w = .lt) (hv : v ≠ .null) (hw : w ≠ .null) :
    ((∃ a, v = .bool a) ∧ ∃ b, w = .bool b) ∨ (IsNumberOrText v ∧ IsNumberOrText w) := by
  rw [cellOrder_of_ne_null hv hw] at h
  have hcompare : v.compare? w = some .lt := by
    cases ho : v.compare? w with
    | none =>
        rw [ho] at h
        cases h
    | some o =>
        rw [ho] at h
        exact congrArg some h
  cases v <;> cases w
  case bool.bool a b => exact .inl ⟨⟨a, rfl⟩, b, rfl⟩
  case number.number m n =>
    obtain ⟨hm, hn⟩ := isNumeric_of_compare? hcompare
    exact .inr ⟨.inl ⟨m, hm, rfl⟩, .inl ⟨n, hn, rfl⟩⟩
  case string.string s t => exact .inr ⟨.inr ⟨s, rfl⟩, .inr ⟨t, rfl⟩⟩
  case number.string m t =>
    obtain ⟨y, -, hy⟩ := Option.bind_eq_some_iff.1 hcompare
    exact .inr ⟨.inl ⟨m, (isNumeric_of_compare? hy).1, rfl⟩, .inr ⟨t, rfl⟩⟩
  case string.number s n =>
    obtain ⟨x, -, hx⟩ := Option.bind_eq_some_iff.1 hcompare
    exact .inr ⟨.inr ⟨s, rfl⟩, .inl ⟨n, (isNumeric_of_compare? hx).2, rfl⟩⟩
  case array.array vs ws =>
    simp only [Value.compare?] at hcompare
    split at hcompare <;> cases hcompare
  case object.object fs gs =>
    simp only [Value.compare?] at hcompare
    split at hcompare <;> cases hcompare
  all_goals cases hcompare

/-- What is taken for a number is one. -/
theorem isNumeric_of_isNumberOrText (h : IsNumberOrText (.number n)) : n.IsNumeric := by
  rcases h with ⟨n', hn, heq⟩ | ⟨s, heq⟩
  · rwa [Value.number.inj heq]
  · cases heq

/-- A number below a string is below what the string reads as. -/
theorem exists_place_of_number_lt (h : cellOrder (.number n) (.string s) = .lt) :
    ∃ k ∈ readPlace? s, n.place < k := by
  have hkind := kinds_of_lt h (fun h => nomatch h) fun h => nomatch h
  have hn := isNumeric_of_isNumberOrText (hkind.resolve_left fun hbools => nomatch hbools.1).1
  rw [cellOrder_lt_iff, string_le_number hn] at h
  push Not at h
  exact h

/-- A string below a number reads as something below it. -/
theorem exists_place_of_string_lt (h : cellOrder (.string s) (.number n) = .lt) :
    ∃ k ∈ readPlace? s, k < n.place := by
  have hkind := kinds_of_lt h (fun h => nomatch h) fun h => nomatch h
  have hn := isNumeric_of_isNumberOrText (hkind.resolve_left fun hbools => nomatch hbools.1).2
  rw [cellOrder_lt_iff, number_le_string hn] at h
  push Not at h
  exact h

end Cells

-- ======================================================== aligned columns

/-- Values that can stand in one line, nulls aside. -/
structure Aligned (holds : Value → Prop) : Prop where
  /-- If any two values are told apart, there are only booleans, or only
  numbers and strings. -/
  kinds : ∀ v w, holds v → holds w → v ≠ .null → w ≠ .null → cellOrder v w = .lt →
    (∀ x, holds x → x ≠ .null → ∃ b, x = .bool b)
      ∨ (∀ x, holds x → x ≠ .null → IsNumberOrText x)
  /-- If any two numbers are told apart, every string is read as a number. -/
  texts : ∀ m n s, holds (.number m) → holds (.number n) → holds (.string s) →
    cellOrder (.number m) (.number n) = .lt → ∃ k, readPlace? s = some k
  /-- Of two strings and a number, the number is below the string behind or
  above the one in front, as these are read. -/
  strings : ∀ s t n, holds (.string s) → holds (.string t) → holds (.number n) → s < t →
    (∃ k ∈ readPlace? t, n.place < k) ∨ ∃ k ∈ readPlace? s, k < n.place

section Columns

variable {holds : Value → Prop} {a b c : Value}

/-- Values of one kind are arranged. -/
theorem arranges_cellOrder (kind : Kind) : Arranges cellOrder kind.Holds :=
  (arranges_cellOrderBy Number.place kind).congr cellOrder_eq

/-- Three aligned numbers or strings that are in order one after another are
in order, by cases on which of them are strings. -/
theorem Aligned.trans_of_numbers_and_texts (h : Aligned holds)
    (ha : holds a) (hb : holds b) (hc : holds c)
    (ha' : IsNumberOrText a) (hb' : IsNumberOrText b) (hc' : IsNumberOrText c)
    (hab : (cellOrder a b).isLE = true) (hbc : (cellOrder b c).isLE = true) :
    (cellOrder a c).isLE = true := by
  rcases ha' with ⟨l, hl, rfl⟩ | ⟨r, rfl⟩ <;> rcases hb' with ⟨m, hm, rfl⟩ | ⟨s, rfl⟩
    <;> rcases hc' with ⟨n, hn, rfl⟩ | ⟨t, rfl⟩
  · exact (arranges_cellOrder .number).trans (.inr ⟨l, hl, rfl⟩) (.inr ⟨m, hm, rfl⟩)
      (.inr ⟨n, hn, rfl⟩) hab hbc
  · rw [number_le_number hl hm] at hab
    rw [number_le_string hm] at hbc
    rw [number_le_string hl]
    exact fun k hk => Int.le_trans hab (hbc k hk)
  · -- A string that is not read as a number would tie the two numbers.
    rw [number_le_string hl] at hab
    rw [string_le_number hn] at hbc
    by_contra hac
    obtain ⟨k, hk⟩ := h.texts n l s hc ha hb (cellOrder_lt_iff.2 hac)
    rw [number_le_number hl hn] at hac
    exact hac (Int.le_trans (hab k hk) (hbc k hk))
  · rw [number_le_string hl] at hab ⊢
    rcases eq_or_lt_of_isLE hbc with rfl | hst
    · exact hab
    · intro k hk
      rcases h.strings s t l hb hc ha hst with ⟨k', hk', hlt⟩ | ⟨j, hj, hlt⟩
      · obtain rfl := Option.mem_unique hk hk'
        exact Int.le_of_lt hlt
      · exact absurd (hab j hj) (Int.not_le.2 hlt)
  · rw [string_le_number hm] at hab
    rw [number_le_number hm hn] at hbc
    rw [string_le_number hn]
    exact fun k hk => Int.le_trans (hab k hk) hbc
  · -- The number would turn the two strings round.
    rw [string_le_number hm] at hab
    rw [number_le_string hm] at hbc
    by_contra hac
    have htr := string_lt_string.1 (cellOrder_lt_iff.2 hac)
    rcases h.strings t r m hc ha hb htr with ⟨k, hk, hlt⟩ | ⟨k, hk, hlt⟩
    · exact absurd (hab k hk) (Int.not_le.2 hlt)
    · exact absurd (hbc k hk) (Int.not_le.2 hlt)
  · rw [string_le_number hn] at hbc ⊢
    rcases eq_or_lt_of_isLE hab with rfl | hrs
    · exact hbc
    · intro k hk
      rcases h.strings r s n ha hb hc hrs with ⟨j, hj, hlt⟩ | ⟨k', hk', hlt⟩
      · exact absurd (hbc j hj) (Int.not_le.2 hlt)
      · obtain rfl := Option.mem_unique hk hk'
        exact Int.le_of_lt hlt
  · exact (arranges_cellOrder .string).trans (.inr ⟨r, rfl⟩) (.inr ⟨s, rfl⟩) (.inr ⟨t, rfl⟩)
      hab hbc

/-- Nothing comes behind null. -/
theorem isLE_null (v : Value) : (cellOrder v .null).isLE = true := by
  cases v <;> rfl

/-- Behind null there is only null. -/
theorem eq_null_of_null_isLE (h : (cellOrder .null v).isLE = true) : v = .null := by
  cases v
  case null => rfl
  all_goals cases h

/-- The values of an aligned column are arranged, with nulls behind them. -/
theorem Aligned.arranges (h : Aligned holds) :
    Arranges cellOrder fun v => v = .null ∨ holds v where
  swap := fun _ _ => cellOrder_swap _ _
  trans := by
    intro a b c ha hb hc hab hbc
    by_cases hc' : c = .null
    · rw [hc']
      exact isLE_null a
    have hb' : b ≠ .null := by
      rintro rfl
      exact hc' (eq_null_of_null_isLE hbc)
    have ha' : a ≠ .null := by
      rintro rfl
      exact hb' (eq_null_of_null_isLE hab)
    replace ha := ha.resolve_left ha'
    replace hb := hb.resolve_left hb'
    replace hc := hc.resolve_left hc'
    by_contra hac
    -- The ends are told apart, so the column is of one of the two kinds.
    rcases h.kinds c a hc ha hc' ha' (cellOrder_lt_iff.2 hac) with hbools | htexts
    · exact hac ((arranges_cellOrder .bool).trans (.inr (hbools a ha ha'))
        (.inr (hbools b hb hb')) (.inr (hbools c hc hc')) hab hbc)
    · exact hac (h.trans_of_numbers_and_texts ha hb hc (htexts a ha ha') (htexts b hb hb')
        (htexts c hc hc') hab hbc)

/-- With two values that are told apart, all others are of their kind. -/
theorem kinds_of_arranges (h : Arranges cellOrder fun v => v = .null ∨ holds v)
    (ha : holds a) (hb : holds b) (ha' : a ≠ .null) (hb' : b ≠ .null)
    (hlt : cellOrder a b = .lt) :
    (∀ x, holds x → x ≠ .null → ∃ b, x = .bool b)
      ∨ (∀ x, holds x → x ≠ .null → IsNumberOrText x) := by
  rcases kinds_of_lt hlt ha' hb' with ⟨⟨l, rfl⟩, r, rfl⟩ | ⟨hatext, hbtext⟩
  · refine .inl fun x hx hx' => ?_
    rcases h.lt_or_lt (.inr ha) (.inr hb) (.inr hx) hlt with hax | hxb
    · exact ((kinds_of_lt hax ha' hx').resolve_right fun htext =>
        not_isNumberOrText_bool l htext.1).2
    · exact ((kinds_of_lt hxb hx' hb').resolve_right fun htext =>
        not_isNumberOrText_bool r htext.2).1
  · refine .inr fun x hx hx' => ?_
    rcases h.lt_or_lt (.inr ha) (.inr hb) (.inr hx) hlt with hax | hxb
    · refine ((kinds_of_lt hax ha' hx').resolve_left ?_).2
      rintro ⟨⟨l, rfl⟩, -⟩
      exact not_isNumberOrText_bool l hatext
    · refine ((kinds_of_lt hxb hx' hb').resolve_left ?_).1
      rintro ⟨-, r, rfl⟩
      exact not_isNumberOrText_bool r hbtext

/-- Only the values of an aligned column are arranged. -/
theorem aligned_of_arranges (h : Arranges cellOrder fun v => v = .null ∨ holds v) :
    Aligned holds where
  kinds := fun _ _ hv hw hv' hw' hlt => kinds_of_arranges h hv hw hv' hw' hlt
  texts := by
    intro m n s hm hn hs hlt
    rcases h.lt_or_lt (.inr hm) (.inr hn) (.inr hs) hlt with hms | hsn
    · obtain ⟨k, hk, -⟩ := exists_place_of_number_lt hms
      exact ⟨k, hk⟩
    · obtain ⟨k, hk, -⟩ := exists_place_of_string_lt hsn
      exact ⟨k, hk⟩
  strings := by
    intro s t n hs ht hn hlt
    rcases h.lt_or_lt (.inr hs) (.inr ht) (.inr hn) (string_lt_string.2 hlt) with hsn | hnt
    · exact .inr (exists_place_of_string_lt hsn)
    · exact .inl (exists_place_of_number_lt hnt)

/-- A column of one kind is aligned. -/
theorem aligned_kind (kind : Kind) : Aligned kind.Holds := by
  refine aligned_of_arranges ((arranges_cellOrder kind).comap id fun v hv => ?_)
  rcases hv with rfl | hv
  · cases kind with
    | string | bool | number => exact .inl rfl
  · exact hv

end Columns

-- ================================================================== rows

section Rows

variable {keys : List SortKey} {column : String} {holds : String → Value → Prop} {v w : Value}

/-- A row with one cell. -/
def single (column : String) (v : Value) : Row := Row.empty.set column v

/-- A row with one cell has nulls elsewhere. -/
theorem cell_single (column : String) (v : Value) (other : String) :
    (single column v).cell other = if other = column then v else .null := by
  rw [single, Row.cell, Row.get?_set]
  split
  · rfl
  · rw [Row.get?_empty]
    rfl

/-- Rows with one cell each are level by every key if their cells are. -/
theorem order_single_of_level (h : cellOrder v w = .eq) (key : SortKey) :
    key.order (single column v) (single column w) = .eq := by
  have hcells : cellOrder ((single column v).cell key.column) ((single column w).cell key.column)
      = .eq := by
    rw [cell_single, cell_single]
    split
    · exact h
    · rfl
  unfold SortKey.order
  rw [hcells]
  cases key.direction <;> rfl

/-- Rows with one cell each are level by any list of keys if their cells
are. -/
theorem rowOrder_single_of_level (h : cellOrder v w = .eq) (keys : List SortKey) :
    rowOrder keys (single column v) (single column w) = .eq := by
  induction keys with
  | nil => rfl
  | cons key keys ih =>
      rw [rowOrder, order_single_of_level h, ih]
      rfl

/-- Rows with one cell are ordered by the first key for its column. -/
theorem exists_rowOrder_single (h : ∃ key ∈ keys, key.column = column) :
    ∃ key : SortKey, key.column = column
      ∧ ∀ v w, rowOrder keys (single column v) (single column w)
        = key.order (single column v) (single column w) := by
  induction keys with
  | nil =>
      obtain ⟨key, hmem, -⟩ := h
      cases hmem
  | cons key keys ih =>
      by_cases hcolumn : key.column = column
      · refine ⟨key, hcolumn, fun v w => ?_⟩
        rw [rowOrder]
        cases hcells : cellOrder v w with
        | eq =>
          rw [order_single_of_level hcells, rowOrder_single_of_level hcells]
          rfl
        | lt | gt =>
          unfold SortKey.order
          rw [cell_single, cell_single, if_pos hcolumn, if_pos hcolumn, hcells]
          cases key.direction <;> rfl
      · obtain ⟨first, hfirst, hrest⟩ := ih <| by
          obtain ⟨other, hmem, heq⟩ := h
          rcases List.mem_cons.1 hmem with rfl | hmem
          · exact absurd heq hcolumn
          · exact ⟨other, hmem, heq⟩
        refine ⟨first, hfirst, fun v w => ?_⟩
        have hkey : key.order (single column v) (single column w) = .eq := by
          unfold SortKey.order
          rw [cell_single, cell_single, if_neg hcolumn, if_neg hcolumn]
          cases key.direction <;> rfl
        rw [rowOrder, hkey, hrest]
        rfl

/-- In the sort columns the row has values of the given ones, or nulls. -/
def HasCells (holds : String → Value → Prop) (keys : List SortKey) (row : Row) : Prop :=
  ∀ key ∈ keys, row.cell key.column = .null ∨ holds key.column (row.cell key.column)

/-- Where every sort column is aligned the keys arrange the rows. -/
theorem arranges_of_aligned (h : ∀ key ∈ keys, Aligned (holds key.column)) :
    Arranges (rowOrder keys) (HasCells holds keys) := by
  induction keys with
  | nil => exact ⟨fun _ _ => rfl, fun _ _ _ _ _ => rfl⟩
  | cons key keys ih =>
      obtain ⟨hkey, hkeys⟩ := List.forall_mem_cons.1 h
      have hcells := hkey.arranges.comap (q := HasCells holds (key :: keys))
        (fun row : Row => row.cell key.column) fun row hrow => hrow key List.mem_cons_self
      have horder : Arranges key.order (HasCells holds (key :: keys)) := by
        unfold SortKey.order
        cases key.direction with
        | ascending => exact hcells
        | descending => exact hcells.reversed
      exact horder.followed <| (ih hkeys).comap id fun row hrow other hmem =>
        hrow other (List.mem_cons_of_mem key hmem)

/-- Rows whose sort columns hold aligned values can be sorted, however many they
are. -/
theorem sortable_of_aligned (holds : String → Value → Prop)
    (h : ∀ key ∈ keys, Aligned (holds key.column)) {rows : List Row}
    (hrows : ∀ row ∈ rows, HasCells holds keys row) : Sortable keys rows :=
  .inr ((arranges_of_aligned h).comap id hrows)

/-- Where the keys arrange the rows every sort column is aligned, as rows
with one cell show. -/
theorem aligned_of_arranges_rows (h : Arranges (rowOrder keys) (HasCells holds keys))
    (hcolumn : ∃ key ∈ keys, key.column = column) : Aligned (holds column) := by
  obtain ⟨key, hkey, hsingle⟩ := exists_rowOrder_single hcolumn
  have hcells : Arranges (fun v w => key.order (single column v) (single column w))
      fun v => v = .null ∨ holds column v := by
    refine (h.comap (single column) fun v hv other _ => ?_).congr fun _ _ => (hsingle _ _).symm
    rw [cell_single]
    split
    · next heq => rwa [heq]
    · exact .inl rfl
  refine aligned_of_arranges ?_
  unfold SortKey.order at hcells
  simp only [cell_single, if_pos hkey] at hcells
  cases hdirection : key.direction with
  | ascending =>
    rw [hdirection] at hcells
    exact hcells
  | descending =>
    rw [hdirection] at hcells
    exact hcells.reversed.congr fun _ _ => Ordering.swap_swap.symm

/-- The comparison of rows by any sort keys is turned round when the rows
change places. Rows with given values in the sort columns, nulls among
them, are put in a line by it exactly if the values of each sort column
are aligned. -/
theorem rowOrder_arranges_iff (keys : List SortKey) (holds : String → Value → Prop) :
    (∀ a b, rowOrder keys b a = (rowOrder keys a b).swap)
      ∧ (Arranges (rowOrder keys) (HasCells holds keys)
        ↔ ∀ key ∈ keys, Aligned (holds key.column)) :=
  ⟨rowOrder_swap keys, fun h key hmem => aligned_of_arranges_rows h ⟨key, hmem, rfl⟩,
    arranges_of_aligned⟩

/-- A row with a key and a rank. -/
def ranked (id : Int) (rank : Value) : Row := (single "id" (.int id)).set "rank" rank

/-- A truth value stands level with every number, so a later sort key may
put it behind one number and before a lower one. These three rows come
before each other in a circle, and each of two arrangements of them stays
as it is when it is sorted. -/
theorem rowOrder_goes_round :
    let keys : List SortKey := [⟨"rank", .ascending⟩, ⟨"id", .ascending⟩]
    let five := ranked 1 (.int 5)
    let truth := ranked 2 (.bool true)
    let three := ranked 3 (.int 3)
    (rowOrder keys five truth = .lt ∧ rowOrder keys truth three = .lt
        ∧ rowOrder keys three five = .lt)
      ∧ sortRows keys [five, truth, three] = [five, truth, three]
      ∧ sortRows keys [three, five, truth] = [three, five, truth]
      ∧ ¬ ∀ keys, Arranges (rowOrder keys) fun _ => True := by
  intro keys five truth three
  have hround : rowOrder keys five truth = .lt ∧ rowOrder keys truth three = .lt
      ∧ rowOrder keys three five = .lt := by decide +kernel
  obtain ⟨hfive, htruth, hthree⟩ := hround
  have hback : ∀ {a b}, rowOrder keys a b = .lt → rowOrder keys b a ≠ .lt := by
    intro a b hlt
    rw [rowOrder_swap, hlt]
    decide
  refine ⟨⟨hfive, htruth, hthree⟩, ?_, ?_, fun h => ?_⟩
  · simp [sortRows, place, hback hfive, hback htruth]
  · simp [sortRows, place, hback hthree, hback hfive]
  have hle := (h keys).trans trivial trivial trivial (congrArg Ordering.isLE hfive)
    (congrArg Ordering.isLE htruth)
  rw [(h keys).swap trivial trivial, hthree] at hle
  cases hle

end Rows

end TableApi
