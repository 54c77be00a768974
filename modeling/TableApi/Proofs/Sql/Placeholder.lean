/-
Placeholders and the values bound to them.

The text of a statement is read here by nothing but its quotes and its
dollar signs: outside delimited identifiers a dollar sign begins a
placeholder, and the digits behind it are its number. Read so, the
placeholders of a statement are numbered 1, 2, … from left to right, and
there are as many as values. Putting the values in for the placeholders
gives the statement with its values in place: every column that is set,
every cell of a tuple and every leaf of a condition has its own value,
cast to the type of its column if the table knows the column.

# What has to be shown of the pieces

Two things could go wrong in a text. A dollar sign or a quote could come
from elsewhere than from a placeholder or a name: so words and types must
have none. And a number could run on into what follows it, or a cast
belong to a placeholder that has none: so what follows a bare placeholder
must begin with neither a digit nor a colon. `Fragment.Binds` says both,
and lists what the placeholders of a fragment are bound to; it is built
up construct by construct, and all that is said of texts is read off it.
-/
import Mathlib.Data.List.Basic
import TableApi.Proofs.Sql.Rendering

namespace TableApi

open Json Sql

namespace Sql

-- ======================================================= reading a text

/-- The text with its placeholders found: each of its characters, or the
number of a placeholder. Inside quotes nothing is one. -/
def marks (quoted : Bool) : List Char → List (Char ⊕ Nat)
  | [] => []
  | c :: cs =>
      if c = '"' then .inl c :: marks (!quoted) cs
      else if c = '$' ∧ quoted = false then
        .inr ((Decimal.nat? (cs.takeWhile Char.isDigit)).getD 0)
          :: marks quoted (cs.dropWhile Char.isDigit)
      else .inl c :: marks quoted cs
termination_by cs => cs.length
decreasing_by
  · simp
  · have := (cs.dropWhile_sublist Char.isDigit).length_le
    simp only [List.length_cons]
    omega
  · simp

/-- The numbers of the placeholders of a text, from left to right. -/
def placeholders (text : List Char) : List Nat :=
  (marks false text).filterMap Sum.getRight?

/-- What stands in the text when values are put in for its placeholders;
the first value goes by the number one. -/
def fill? (values : List Value) : Char ⊕ Nat → Option (Char ⊕ Value)
  | .inl c => some (.inl c)
  | .inr 0 => none
  | .inr (n + 1) => (values[n]?).map .inr

/-- The text of a query with its values in place. -/
def Query.filled? (q : Query) : Option (List (Char ⊕ Value)) :=
  (marks false q.sql.toList).mapM (fill? q.params)

variable {quoted : Bool} {cs text : List Char}

/-- Text without quotes and dollar signs has its characters as marks, in
quotes and out of them. -/
theorem marks_of_plain (hquote : '"' ∉ text) (hdollar : '$' ∉ text) (rest : List Char) :
    marks quoted (text ++ rest) = text.map .inl ++ marks quoted rest := by
  induction text with
  | nil => rfl
  | cons c text ih =>
      have hc : c ≠ '"' := fun h => hquote (h ▸ List.mem_cons_self)
      have hc' : c ≠ '$' := fun h => hdollar (h ▸ List.mem_cons_self)
      rw [List.cons_append, marks, if_neg hc, if_neg fun h => hc' h.1,
        ih (fun h => hquote (List.mem_cons_of_mem _ h))
          fun h => hdollar (List.mem_cons_of_mem _ h)]
      rfl

/-- Inside a name nothing is a placeholder, and no quote ends it but the
last one. -/
theorem marks_inside (s : List Char) (rest : List Char) :
    marks true (s.flatMap (fun c => if c = '"' then ['"', '"'] else [c]) ++ '"' :: rest)
      = (s.flatMap (fun c => if c = '"' then ['"', '"'] else [c]) ++ ['"']).map .inl
        ++ marks false rest := by
  induction s with
  | nil =>
      rw [List.flatMap_nil, List.nil_append, marks, if_pos rfl]
      rfl
  | cons c s ih =>
      by_cases hc : c = '"'
      · simp [hc, marks, ih]
      · simp [hc, marks, ih]

/-- A delimited name, whatever it is, hides no placeholder and ends outside
quotes. -/
theorem marks_delimited (name : String) (rest : List Char) :
    marks false (delimited name ++ rest) = (delimited name).map .inl ++ marks false rest := by
  have hinside := marks_inside name.toList rest
  simp only [delimited, List.cons_append, List.append_assoc, List.nil_append, List.map_cons]
  rw [marks, if_pos rfl, Bool.not_false, hinside]

/-- The digits of a number end where no digit follows. -/
theorem marks_placeholder (n : Nat) {rest : List Char}
    (hrest : ∀ c ∈ rest.head?, c.isDigit = false) :
    marks false ('$' :: Decimal.digits n ++ rest) = .inr n :: marks false rest := by
  have hdigits : ∀ c ∈ Decimal.digits n, c.isDigit = true := fun c =>
    Decimal.isDigit_of_mem_digits
  have htake : (Decimal.digits n ++ rest).takeWhile Char.isDigit = Decimal.digits n := by
    rw [List.takeWhile_append_of_pos hdigits]
    cases rest with
    | nil => simp
    | cons c cs => simp [hrest c rfl]
  have hdrop : (Decimal.digits n ++ rest).dropWhile Char.isDigit = rest := by
    rw [List.dropWhile_append_of_pos hdigits]
    cases rest with
    | nil => rfl
    | cons c cs => simp [hrest c rfl]
  rw [List.cons_append, marks, if_neg (by decide), if_pos ⟨rfl, rfl⟩, htake, hdrop,
    Decimal.nat?_digits]
  rfl

theorem filterMap_inl (cs : List Char) :
    (cs.map (.inl : Char → Char ⊕ Nat)).filterMap Sum.getRight? = [] := by
  simp [List.filterMap_map, Function.comp_def]

/-- Plain text in front adds no placeholder. -/
theorem placeholders_of_plain (hquote : '"' ∉ text) (hdollar : '$' ∉ text)
    (rest : List Char) : placeholders (text ++ rest) = placeholders rest := by
  rw [placeholders, marks_of_plain hquote hdollar, List.filterMap_append, filterMap_inl]
  rfl

/-- A delimited name in front adds no placeholder. -/
theorem placeholders_delimited (name : String) (rest : List Char) :
    placeholders (delimited name ++ rest) = placeholders rest := by
  rw [placeholders, marks_delimited, List.filterMap_append, filterMap_inl]
  rfl

/-- A dollar sign and digits are a placeholder, up to the first character
that is no digit. -/
theorem placeholders_placeholder (n : Nat) {rest : List Char}
    (hrest : ∀ c ∈ rest.head?, c.isDigit = false) :
    placeholders ('$' :: Decimal.digits n ++ rest) = n :: placeholders rest := by
  rw [placeholders, marks_placeholder n hrest]
  exact List.filterMap_cons_some rfl

-- ============================================================ fragments

/-- A text with neither quotes nor dollar signs. -/
def IsPlain (text : String) : Prop := '"' ∉ text.toList ∧ '$' ∉ text.toList

instance (text : String) : Decidable (IsPlain text) :=
  inferInstanceAs (Decidable (_ ∧ _))

/-- A value that a placeholder is bound to, and the type that it is cast
to there. -/
structure Binding where
  value : Value
  cast : Option String

/-- What stands behind the placeholder. -/
def Binding.castText (b : Binding) : List Char :=
  match b.cast with
  | some type => "::".toList ++ type.toList
  | none => []

/-- Whether the piece begins with a character that neither goes on with a
number nor begins a cast. -/
def Piece.isApart : Piece → Bool
  | word text => text.toList.head?.any fun c => !c.isDigit && c != ':'
  | name _ | param _ => true
  | type _ | number _ => false

/-- The characters of a piece, or its value. -/
def Piece.inPlace : Piece → List (Char ⊕ Value)
  | param v => [.inr v]
  | p => (p.chars 0).map .inl

namespace Fragment

/-- The text with its values in place. -/
def inPlace (f : Fragment) : List (Char ⊕ Value) := f.flatMap Piece.inPlace

/-- The fragment may stand behind a placeholder. -/
def IsApart (f : Fragment) : Prop := ∀ p ∈ f.head?, p.isApart = true

/-- The placeholders of the fragment are bound to these values, with
these casts, to types that have the property `P`; and nothing else in it
looks like a placeholder, types apart. -/
inductive Binds (P : String → Prop) : Fragment → List Binding → Prop where
  | nil : Binds P [] []
  | word {f : Fragment} {bs : List Binding} {text : String} (htext : IsPlain text) :
      Binds P f bs → Binds P (.word text :: f) bs
  | name {f : Fragment} {bs : List Binding} (text : String) :
      Binds P f bs → Binds P (.name text :: f) bs
  | number {f : Fragment} {bs : List Binding} (n : Nat) :
      Binds P f bs → Binds P (.number n :: f) bs
  | cast {f : Fragment} {bs : List Binding} (v : Value) {type : String} (htype : P type) :
      Binds P f bs → Binds P (.param v :: .word "::" :: .type type :: f) (⟨v, some type⟩ :: bs)
  | bare {f : Fragment} {bs : List Binding} (v : Value) (hapart : f.IsApart) :
      Binds P f bs → Binds P (.param v :: f) (⟨v, none⟩ :: bs)

variable {P : String → Prop} {f g : Fragment} {bs cs : List Binding}

/-- Two fragments that may stand behind a placeholder may do so together. -/
theorem IsApart.append (hf : f.IsApart) (hg : g.IsApart) : (f ++ g).IsApart := by
  cases f with
  | nil => exact hg
  | cons p f => exact hf

theorem isApart_nil : IsApart [] := by intro p hp; cases hp

theorem isApart_cons {p : Piece} (hp : p.isApart = true) : IsApart (p :: f) := by
  intro q hq
  obtain rfl := Option.some.inj hq
  exact hp

/-- Plain text in front of a fragment binds nothing. -/
theorem Binds.behind (h : f.Binds P bs) (text : String) (htext : IsPlain text) :
    Binds P (.word text :: f) bs :=
  .word htext h

/-- What is bound is bound from left to right. -/
theorem Binds.append (hf : f.Binds P bs) (hg : g.Binds P cs) (hapart : g.IsApart) :
    (f ++ g).Binds P (bs ++ cs) := by
  induction hf with
  | nil => exact hg
  | word htext _ ih => exact .word htext ih
  | name text _ ih => exact .name text ih
  | number n _ ih => exact .number n ih
  | cast v htype _ ih => exact .cast v htype ih
  | bare v hf _ ih => exact .bare v (hf.append hapart) ih

/-- Members with a separator between them bind what the members bind. -/
theorem Binds.separated {α : Type} {member : α → Fragment} {bound : α → List Binding}
    {separator : String} (hseparator : IsPlain separator)
    (hapart : (Piece.word separator).isApart = true) :
    ∀ xs : List α, (∀ x ∈ xs, (member x).Binds P (bound x)) →
      (separated (.word separator) (xs.map member)).Binds P (xs.flatMap bound)
  | [], _ => .nil
  | [x], h => by
      rw [List.flatMap_singleton]
      exact h x List.mem_cons_self
  | x :: y :: xs, h => by
      have hrest := Binds.separated hseparator hapart (y :: xs)
        fun z hz => h z (List.mem_cons_of_mem _ hz)
      rw [List.map_cons, List.map_cons, separated_cons_cons, List.flatMap_cons]
      exact (h x List.mem_cons_self).append (.word hseparator hrest) (isApart_cons hapart)

/-- What binds nothing may stand behind. -/
theorem Binds.append_nothing (hf : f.Binds P bs) (hg : g.Binds P []) (hapart : g.IsApart) :
    (f ++ g).Binds P bs := by
  rw [← List.append_nil bs]
  exact hf.append hg hapart

/-- A list binds what its members bind, one after the other. -/
theorem Binds.listed {α : Type} {member : α → Fragment} {bound : α → List Binding}
    (xs : List α) (h : ∀ x ∈ xs, (member x).Binds P (bound x)) :
    (Fragment.listed (xs.map member)).Binds P (xs.flatMap bound) :=
  Binds.separated (by decide) (by decide) xs h

-- ======================================================= texts of fragments

/-- The parameters are the values of what is bound. -/
theorem Binds.params_eq (h : f.Binds P bs) : f.params = bs.map Binding.value := by
  induction h with
  | nil => rfl
  | word _ _ ih | name _ _ ih | number _ _ ih => exact ih
  | cast v _ _ ih | bare v _ _ ih => exact congrArg (v :: ·) ih

/-- What stands behind a placeholder begins with neither a digit nor a
colon. -/
theorem IsApart.head (hf : f.IsApart) (n : Nat) :
    ∀ c ∈ (f.charsFrom n).head?, c.isDigit = false ∧ c ≠ ':' := by
  intro c hc
  cases f with
  | nil => cases hc
  | cons p f =>
      have hp := hf p rfl
      cases p with
      | word text =>
          rw [Piece.isApart, Option.any_eq_true] at hp
          obtain ⟨d, hd, hchar⟩ := hp
          have hhead : (charsFrom n (.word text :: f)).head? = some d := by
            rw [charsFrom, Piece.chars, List.head?_append, hd]
            rfl
          obtain rfl : d = c := Option.some.inj (hhead.symm.trans hc)
          simpa using hchar
      | name text =>
          obtain rfl : '"' = c := Option.some.inj hc
          decide
      | param v =>
          obtain rfl : '$' = c := Option.some.inj hc
          decide
      | type | number => cases hp

/-- Digits are plain text. -/
theorem isPlain_digits (n : Nat) : '"' ∉ Decimal.digits n ∧ '$' ∉ Decimal.digits n :=
  ⟨fun h => absurd (Decimal.isDigit_of_mem_digits h) (by decide),
    fun h => absurd (Decimal.isDigit_of_mem_digits h) (by decide)⟩

/-- The marks of a fragment whose first placeholder has the number
`n`. -/
def marksFrom (n : Nat) : Fragment → List (Char ⊕ Nat)
  | [] => []
  | .param _ :: f => .inr n :: marksFrom (n + 1) f
  | p :: f => (p.chars n).map .inl ++ marksFrom n f

/-- Of a fragment that binds, every placeholder is found, and no other. -/
theorem Binds.marks_eq (h : f.Binds IsPlain bs) :
    ∀ n, marks false (f.charsFrom n) = f.marksFrom n := by
  induction h with
  | nil => intro n; rw [charsFrom, marks, marksFrom]
  | word htext _ ih =>
      intro n
      exact (marks_of_plain htext.1 htext.2 _).trans (congrArg _ (ih n))
  | name text _ ih =>
      intro n
      exact (marks_delimited text _).trans (congrArg _ (ih n))
  | number m _ ih =>
      intro n
      exact (marks_of_plain (isPlain_digits m).1 (isPlain_digits m).2 _).trans
        (congrArg _ (ih n))
  | @cast f bs v type htype _ ih =>
      intro n
      have hcast : marks false ("::".toList ++ (type.toList ++ f.charsFrom (n + 1)))
          = "::".toList.map .inl ++ (type.toList.map .inl ++ f.marksFrom (n + 1)) := by
        rw [marks_of_plain (by decide) (by decide), marks_of_plain htype.1 htype.2, ih]
      exact (marks_placeholder n fun c hc => by obtain rfl := Option.some.inj hc; decide).trans
        (congrArg (.inr n :: ·) hcast)
  | bare v hapart _ ih =>
      intro n
      exact (marks_placeholder n fun c hc => (hapart.head (n + 1) c hc).1).trans
        (congrArg (.inr n :: ·) (ih (n + 1)))

/-- The placeholders among the marks are numbered on from `n`, one for each
parameter. -/
theorem filterMap_marksFrom :
    ∀ (f : Fragment) (n : Nat),
      (f.marksFrom n).filterMap Sum.getRight? = List.range' n f.params.length
  | [], _ => rfl
  | p :: f, n => by
      cases p with
      | param v =>
          rw [marksFrom, params_param, List.length_cons, List.range'_succ,
            ← filterMap_marksFrom f (n + 1)]
          exact List.filterMap_cons_some rfl
      | word | name | type | number =>
          rw [marksFrom, List.filterMap_append, filterMap_inl, filterMap_marksFrom f n]
          · rfl
          · simp

/-- Where a fragment stands behind others, the values behind those of
the others fill it in. -/
theorem mapM_marksFrom (after : List Value) :
    ∀ (f : Fragment) (before : List Value),
      (f.marksFrom (before.length + 1)).mapM (fill? (before ++ f.params ++ after))
        = some f.inPlace
  | [], _ => rfl
  | p :: f, before => by
      have hchars : ∀ (values : List Value) (cs : List Char),
          (cs.map .inl).mapM (fill? values) = some (cs.map .inl) := by
        intro values cs
        induction cs with
        | nil => rfl
        | cons c cs ih => simp [fill?, ih]
      cases p with
      | param v =>
          have hf := mapM_marksFrom after f (before ++ [v])
          have hvalues : before ++ [v] ++ params f ++ after
              = before ++ (Fragment.params (.param v :: f)) ++ after := by simp
          have hv : fill? (before ++ (Fragment.params (.param v :: f)) ++ after)
              (.inr (before.length + 1)) = some (.inr v) := by
            simp [fill?]
          rw [hvalues, List.length_append, List.length_singleton] at hf
          simp only [marksFrom, List.mapM_cons, hv, hf]
          rfl
      | word | name | type | number =>
          have hf := mapM_marksFrom after f before
          rw [marksFrom, List.mapM_append, hchars]
          · simp only [params_word, params_name, params_type, params_number, hf]
            rfl
          · simp

/-- The text of a fragment that is numbered from `n` has these placeholders.
-/
theorem Binds.placeholders_eq (h : f.Binds IsPlain bs) (n : Nat) :
    placeholders (f.charsFrom n) = List.range' n bs.length := by
  rw [placeholders, h.marks_eq, filterMap_marksFrom, h.params_eq, List.length_map]

/-- Filling the placeholders puts every parameter where its piece stands. -/
theorem Binds.filled?_eq (h : f.Binds IsPlain bs) :
    (Query.ofFragment f).filled? = some f.inPlace := by
  have hfilled := mapM_marksFrom [] f []
  rw [List.nil_append, List.append_nil] at hfilled
  unfold Query.filled? Query.ofFragment
  rw [String.toList_ofList, h.marks_eq 1]
  exact hfilled

/-- Among placeholders numbered from `n` on, the one behind `i` others
stands in the text, outside names, with the cast of what it is bound to
and no other. -/
def Stands (text : List Char) (n i : Nat) (b : Binding) : Prop :=
  ∃ before after, text = before ++ ('$' :: Decimal.digits (n + i) ++ b.castText) ++ after
    ∧ placeholders before = List.range' n i
    ∧ placeholders (before ++ '$' :: Decimal.digits (n + i)) = List.range' n (i + 1)
    ∧ (b.cast = none → after.head? ≠ some ':')

/-- A placeholder at the front, with its cast, is the first binding. -/
theorem Stands.first {text : List Char} {n : Nat} {b : Binding}
    (htext : b.cast = none → text.head? ≠ some ':') :
    Stands ('$' :: Decimal.digits n ++ (b.castText ++ text)) n 0 b := by
  have hone : placeholders ('$' :: Decimal.digits n) = [n] := by
    have hmarks : placeholders ('$' :: Decimal.digits n ++ []) = n :: placeholders [] :=
      placeholders_placeholder n fun c hc => by cases hc
    rw [List.append_nil] at hmarks
    exact hmarks.trans (by rw [placeholders, marks]; rfl)
  refine ⟨[], text, by simp, ?_, hone, htext⟩
  rw [placeholders, marks]
  rfl

/-- What has no placeholder may stand before. -/
theorem Stands.behind {text before : List Char} {n i : Nat} {b : Binding}
    (hbefore : ∀ rest, placeholders (before ++ rest) = placeholders rest)
    (h : Stands text n i b) : Stands (before ++ text) n i b := by
  obtain ⟨cut, after, hcut, hnumbers, hnumber, hafter⟩ := h
  refine ⟨before ++ cut, after, ?_, (hbefore _).trans hnumbers, ?_, hafter⟩
  · rw [hcut]
    simp only [List.append_assoc]
  · rw [List.append_assoc, hbefore, hnumber]

/-- Behind a placeholder the bindings are counted from one more. -/
theorem Stands.behind_placeholder {text : List Char} {n i : Nat} {b : Binding}
    (htext : ∀ c ∈ text.head?, c.isDigit = false) (h : Stands text (n + 1) i b) :
    Stands ('$' :: Decimal.digits n ++ text) n (i + 1) b := by
  obtain ⟨before, after, hcut, hnumbers, hnumber, hafter⟩ := h
  have hplace : n + 1 + i = n + (i + 1) := by omega
  rw [hplace] at hcut hnumber
  -- What is cut off begins as the text does.
  have hhead : ∀ c ∈ (before ++ '$' :: Decimal.digits (n + (i + 1))).head?,
      c.isDigit = false := fun c hc => htext c <| by
    rw [hcut, List.append_assoc, List.cons_append, List.cons_append, List.head?_append]
    rwa [List.head?_append] at hc
  have hbefore : ∀ c ∈ before.head?, c.isDigit = false := fun c hc => hhead c <| by
    rw [List.head?_append, Option.mem_def.1 hc]
    rfl
  refine ⟨'$' :: Decimal.digits n ++ before, after, ?_, ?_, ?_, hafter⟩
  · rw [hcut]
    simp
  · rw [placeholders_placeholder n hbefore, hnumbers, List.range'_succ]
  · rw [List.append_assoc, placeholders_placeholder n hhead, hnumber]
    exact List.range'_succ.symm

/-- What a fragment binds stands in its text in this order. -/
theorem Binds.stands (h : f.Binds IsPlain bs) :
    ∀ (n i : Nat) (b : Binding), bs[i]? = some b → Stands (f.charsFrom n) n i b := by
  induction h with
  | nil => intro n i b hb; cases hb
  | word htext _ ih =>
      intro n i b hb
      exact (ih n i b hb).behind (placeholders_of_plain htext.1 htext.2)
  | name text _ ih =>
      intro n i b hb
      exact (ih n i b hb).behind (placeholders_delimited text)
  | number m _ ih =>
      intro n i b hb
      exact (ih n i b hb).behind (placeholders_of_plain (isPlain_digits m).1 (isPlain_digits m).2)
  | @cast f bs v type htype _ ih =>
      intro n i b hb
      have htext : Fragment.charsFrom n (.param v :: .word "::" :: .type type :: f)
          = '$' :: Decimal.digits n ++ ("::".toList ++ (type.toList ++ f.charsFrom (n + 1))) :=
        rfl
      rw [htext]
      cases i with
      | zero =>
          obtain rfl := Option.some.inj hb
          rw [← List.append_assoc "::".toList]
          exact .first (b := ⟨v, some type⟩) fun h => by cases h
      | succ i =>
          have hcolons : ∀ rest, placeholders ("::".toList ++ rest) = placeholders rest :=
            placeholders_of_plain (by decide) (by decide)
          have hrest := (ih (n + 1) i b hb).behind (placeholders_of_plain htype.1 htype.2)
          exact (hrest.behind hcolons).behind_placeholder fun c hc => by
            obtain rfl := Option.some.inj hc
            decide
  | @bare f bs v hapart _ ih =>
      intro n i b hb
      have hhead := hapart.head (n + 1)
      have htext : Fragment.charsFrom n (.param v :: f)
          = '$' :: Decimal.digits n ++ f.charsFrom (n + 1) := rfl
      rw [htext]
      cases i with
      | zero =>
          obtain rfl := Option.some.inj hb
          exact .first (b := ⟨v, none⟩) fun _ h => (hhead ':' h).2 rfl
      | succ i =>
          exact (ih (n + 1) i b hb).behind_placeholder fun c hc => (hhead c hc).1

end Fragment

end Sql

-- ============================================= what a statement binds

/-- The types of the columns have a property. -/
def Table.HasTypes (P : String → Prop) (t : Table) : Prop := ∀ c ∈ t.columns, P c.type

namespace Sql

/-- A value for a column of the table. -/
def Binding.of (c : Column) (v : Value) : Binding := ⟨v, some c.type⟩

/-- A value in a condition on a column, cast if the table has the
column. -/
def Binding.on (t : Table) (column : String) (v : Value) : Binding :=
  ⟨v, (t.column? column).map Column.type⟩

end Sql

namespace Condition

mutual

/-- What a condition binds: a leaf its value, its bounds or the members
of its list, for its column, or its pattern as it is. -/
def bindings (t : Table) : Condition → List Binding
  | always | never | isNull _ _ => []
  | compare column _ value => [.on t column value]
  | like _ pattern _ _ => [⟨.string pattern, none⟩]
  | inList column values _ => values.map (.on t column)
  | between column low high _ => [.on t column low, .on t column high]
  | and conditions | or conditions => bindingsAll t conditions
  | not condition => bindings t condition

def bindingsAll (t : Table) : List Condition → List Binding
  | [] => []
  | c :: cs => bindings t c ++ bindingsAll t cs

end

end Condition

namespace Statement

/-- What a statement binds: the cells of its rows that are in columns of
the table, row by row, or the values of the columns it sets, all but the
primary key; and behind them what its condition binds. -/
def bindings : Statement → List Binding
  | select t s => s.condition.elim [] (Condition.bindings t)
  | count t condition => condition.elim [] (Condition.bindings t)
  | insert t rows =>
      rows.flatMap fun row => t.columns.filterMap fun c => (row.get? c.name).map (.of c)
  | update t condition row =>
      (t.columns.filterMap fun c =>
          if c.name = t.primaryKey then none else (row.get? c.name).map (.of c))
        ++ condition.bindings t
  | delete t condition => condition.bindings t

end Statement

-- ============================================================ conditions

namespace Condition

open Fragment

variable {P : String → Prop} {t : Table}

/-- A parameter binds its value, with the cast of its column. -/
theorem paramSql_binds (ht : t.HasTypes P) (column : String) (v : Value) :
    (paramSql t column v).Binds P [.on t column v] := by
  unfold paramSql Binding.on
  cases hc : t.column? column with
  | none => exact .bare v isApart_nil .nil
  | some c => exact .cast v (ht c (List.mem_of_find?_eq_some hc)) .nil

/-- A negation binds nothing of its own. -/
theorem notSql_binds (negated : Bool) {f : Fragment} {bs : List Binding} (hf : f.Binds P bs) :
    (notSql negated ++ f).Binds P bs := by
  cases negated with
  | false => exact hf
  | true => exact .word (by decide) hf

/-- A constant condition binds nothing. -/
theorem constantSql_binds (b : Bool) : (constantSql b).Binds P [] := by
  cases b <;> exact .word (by decide) .nil

/-- The signs of comparisons are plain text. -/
theorem isPlain_sql (op : CompareOp) : IsPlain op.sql := by
  cases op <;> decide

/-- Members in parentheses bind what the members bind. -/
theorem joinSql_binds {connective : String} (hconnective : IsPlain connective)
    (hapart : (Piece.word connective).isApart = true) (empty : Bool) {cs : List Condition}
    (h : ∀ c ∈ cs, (c.sql t).Binds P (c.bindings t)) :
    (joinSql connective empty (sqlAll t cs)).Binds P (bindingsAll t cs) := by
  have hsql : sqlAll t cs = cs.map (sql t) := by
    clear h
    induction cs with
    | nil => rfl
    | cons c cs ih => rw [sqlAll, ih, List.map_cons]
  have hbindings : bindingsAll t cs = cs.flatMap (bindings t) := by
    clear h hsql
    induction cs with
    | nil => rfl
    | cons c cs ih => rw [bindingsAll, ih, List.flatMap_cons]
  rw [hsql, hbindings]
  cases cs with
  | nil => exact constantSql_binds empty
  | cons c cs =>
      exact ((Binds.separated hconnective hapart (c :: cs) h).word (by decide)).append_nothing
        (.word (by decide) .nil) (isApart_cons (by decide))

mutual

/-- The text of a condition binds what the condition binds. -/
theorem sql_binds (ht : t.HasTypes P) : ∀ c : Condition, (c.sql t).Binds P (c.bindings t)
  | always => constantSql_binds true
  | never => constantSql_binds false
  | compare column op v =>
      .name column (.word (by decide) (.word (isPlain_sql op) (.word (by decide)
        (paramSql_binds ht column v))))
  | like column pattern ignoreCase negated => by
      have hlike : IsPlain (if ignoreCase then "ILIKE " else "LIKE ") := by
        cases ignoreCase <;> decide
      have hpattern : Fragment.Binds P
          [.word (if ignoreCase then "ILIKE " else "LIKE "), .param (.string pattern)]
          [⟨.string pattern, none⟩] := .word hlike (.bare _ isApart_nil .nil)
      rw [sql, List.append_assoc]
      exact .name column (.word (by decide) (notSql_binds negated hpattern))
  | isNull column negated => by
      rw [sql, List.append_assoc]
      exact .name column (.word (by decide) (notSql_binds negated (.word (by decide) .nil)))
  | inList column vs negated => by
      have hlist : (Fragment.listed (vs.map (paramSql t column))).Binds P
          (vs.flatMap fun v => [.on t column v]) :=
        .listed vs fun v _ => paramSql_binds ht column v
      rw [← List.map_eq_flatMap] at hlist
      rw [sql, bindings]
      split
      case isTrue hvs =>
        obtain rfl := List.isEmpty_iff.1 hvs
        exact constantSql_binds negated
      case isFalse =>
        rw [List.append_assoc, List.append_assoc, List.append_assoc]
        refine .name column (.word (by decide) (notSql_binds negated (.word (by decide) ?_)))
        exact hlist.append_nothing (.word (by decide) .nil) (isApart_cons (by decide))
  | between column low high negated => by
      have hbounds := (paramSql_binds ht column low).append
        ((paramSql_binds ht column high).behind " AND " (by decide))
        (isApart_cons (by decide))
      rw [sql]
      simp only [List.append_assoc]
      exact .name column (.word (by decide) (notSql_binds negated (.word (by decide) hbounds)))
  | and cs => joinSql_binds (by decide) (by decide) true (sqlAll_binds ht cs)
  | or cs => joinSql_binds (by decide) (by decide) false (sqlAll_binds ht cs)
  | not c =>
      ((sql_binds ht c).word (by decide)).append_nothing (.word (by decide) .nil)
        (isApart_cons (by decide))

/-- The members of a list bind what they bind alone. -/
theorem sqlAll_binds (ht : t.HasTypes P) :
    ∀ cs : List Condition, ∀ c ∈ cs, (c.sql t).Binds P (c.bindings t)
  | [], c, hc => by cases hc
  | d :: cs, c, hc => by
      rcases List.mem_cons.1 hc with heq | hc
      · exact heq ▸ sql_binds ht d
      · exact sqlAll_binds ht cs c hc

end

end Condition

-- ============================================================ statements

namespace Sql

open Fragment

variable {P : String → Prop} {t : Table}

/-- The name of a table binds nothing. -/
theorem sqlName_binds (P : String → Prop) (t : Table) : t.sqlName.Binds P [] := by
  unfold Table.sqlName
  cases t.schema with
  | none => exact .name _ .nil
  | some schema => exact .name _ (.word (by decide) (.name _ .nil))

/-- The names of its columns bind nothing. -/
theorem sqlColumns_binds (P : String → Prop) (t : Table) : t.sqlColumns.Binds P [] := by
  have hcolumns : t.sqlColumns.Binds P (t.columns.flatMap fun _ => []) := by
    refine .listed t.columns fun c _ => ?_
    split
    · exact .name _ (.word (by decide) (.name _ .nil))
    · exact .name _ .nil
  rwa [List.flatMap_eq_nil_iff.2 fun _ _ => rfl] at hcolumns

/-- An order binds nothing. -/
theorem orderSql_binds (order : List SortKey) : (orderSql order).Binds P [] := by
  have hkeys : (Fragment.listed (order.map fun key =>
      [.name key.column, .word (directionSql key.direction)])).Binds P
        (order.flatMap fun _ => []) := by
    refine .listed order fun key _ => .name _ (.word ?_ .nil)
    cases key.direction <;> decide
  rw [List.flatMap_eq_nil_iff.2 fun _ _ => rfl] at hkeys
  unfold orderSql
  split
  · exact .nil
  · exact .word (by decide) hkeys

theorem isApart_orderSql (order : List SortKey) : (orderSql order).IsApart := by
  unfold orderSql
  split
  · exact isApart_nil
  · exact isApart_cons (by decide)

/-- A limit or an offset binds nothing: the number is in the text. -/
theorem numberSql_binds {clause : String} (hclause : IsPlain clause) (n : Option Nat) :
    (numberSql clause n).Binds P [] := by
  cases n with
  | none => exact .nil
  | some n => exact .word hclause (.number n .nil)

theorem isApart_numberSql {clause : String} (hclause : (Piece.word clause).isApart = true)
    (n : Option Nat) : (numberSql clause n).IsApart := by
  cases n with
  | none => exact isApart_nil
  | some n => exact isApart_cons hclause

/-- A condition behind WHERE binds what it binds alone. -/
theorem whereSql_binds (ht : t.HasTypes P) (condition : Option Condition) :
    (whereSql t condition).Binds P (condition.elim [] (Condition.bindings t)) := by
  cases condition with
  | none => exact .nil
  | some c => exact .word (by decide) (c.sql_binds ht)

theorem isApart_whereSql (condition : Option Condition) :
    (whereSql t condition).IsApart := by
  cases condition with
  | none => exact isApart_nil
  | some c => exact isApart_cons (by decide)

/-- A search binds what its condition binds. -/
theorem selectSql_binds (ht : t.HasTypes P) (s : Selection) :
    (selectSql t s).Binds P (s.condition.elim [] (Condition.bindings t)) := by
  have hfrom := ((sqlColumns_binds P t).behind "SELECT " (by decide)).append_nothing
    ((sqlName_binds P t).behind " FROM " (by decide)) (isApart_cons (by decide))
  have hwhere := hfrom.append (whereSql_binds ht s.condition) (isApart_whereSql s.condition)
  exact ((hwhere.append_nothing (orderSql_binds s.order) (isApart_orderSql s.order)).append_nothing
    (numberSql_binds (by decide) s.offset) (isApart_numberSql (by decide) s.offset)).append_nothing
    (numberSql_binds (by decide) s.limit) (isApart_numberSql (by decide) s.limit)

/-- A count binds what its condition binds. -/
theorem countSql_binds (ht : t.HasTypes P) (condition : Option Condition) :
    (countSql t condition).Binds P (condition.elim [] (Condition.bindings t)) := by
  have hfrom : Fragment.Binds P ([.word "SELECT COUNT(*) AS ", .name "count", .word " FROM "]
      ++ t.sqlName) [] :=
    .word (by decide) (.name _ (.word (by decide) (sqlName_binds P t)))
  exact hfrom.append (whereSql_binds ht condition) (isApart_whereSql condition)

/-- A deletion binds what its condition binds. -/
theorem deleteSql_binds (ht : t.HasTypes P) (condition : Condition) :
    (deleteSql t condition).Binds P (condition.bindings t) :=
  ((sqlName_binds P t).word (by decide)).append ((condition.sql_binds ht).word (by decide))
    (isApart_cons (by decide))

/-- A tuple binds the cells that its row has in the columns. -/
theorem tupleSql_binds (ht : t.HasTypes P) {columns : List Column}
    (hcolumns : ∀ c ∈ columns, c ∈ t.columns) (row : Row) :
    (tupleSql columns row).Binds P
      (columns.filterMap fun c => (row.get? c.name).map (.of c)) := by
  have hentries : (Fragment.listed (columns.map (entrySql row))).Binds P
      (columns.flatMap fun c => ((row.get? c.name).map (.of c)).toList) := by
    refine .listed columns fun c hc => ?_
    unfold entrySql
    cases row.get? c.name with
    | none => exact .word (by decide) .nil
    | some v => exact .cast v (ht c (hcolumns c hc)) .nil
  rw [← List.filterMap_eq_flatMap_toList] at hentries
  exact (hentries.word (by decide)).append_nothing (.word (by decide) .nil)
    (isApart_cons (by decide))

/-- A column that is not inserted has no cell in any row. -/
theorem filterMap_insertColumns (t : Table) {rows : List Row} {row : Row} (hrow : row ∈ rows) :
    ((insertColumns t rows).filterMap fun c => (row.get? c.name).map (Binding.of c))
      = t.columns.filterMap fun c => (row.get? c.name).map (.of c) := by
  rw [insertColumns, List.filterMap_filter]
  refine List.filterMap_congr fun c _ => ?_
  split
  case isTrue => rfl
  case isFalse hany =>
    have hnone : (row.get? c.name).isSome = false := by
      cases hget : (row.get? c.name).isSome with
      | false => rfl
      | true => exact absurd (List.any_eq_true.2 ⟨row, hrow, hget⟩) hany
    rw [Option.isSome_eq_false_iff, Option.isNone_iff_eq_none] at hnone
    rw [hnone]
    rfl

/-- Tuples of defaults bind nothing. -/
theorem defaultTuples_bind (P : String → Prop) (n : Nat) :
    (Fragment.listed (List.replicate n [.word "(", .word "DEFAULT", .word ")"])).Binds P [] := by
  have htuples : (Fragment.listed ((List.replicate n ()).map fun _ =>
      [.word "(", .word "DEFAULT", .word ")"])).Binds P
        ((List.replicate n ()).flatMap fun _ => []) :=
    .listed _ fun _ _ => .word (by decide) (.word (by decide) (.word (by decide) .nil))
  rwa [List.map_replicate, List.flatMap_eq_nil_iff.2 fun _ _ => rfl] at htuples

/-- An insert binds the values that are given for columns, row by row in the
order of the columns. -/
theorem insertSql_binds (ht : t.HasTypes P) (rows : List Row) :
    (insertSql t rows).Binds P
      (rows.flatMap fun row => t.columns.filterMap fun c => (row.get? c.name).map (.of c)) := by
  -- Only inserted columns are written, but no row has a cell in another one.
  have hbindings : (rows.flatMap fun row =>
        t.columns.filterMap fun c => (row.get? c.name).map (Binding.of c))
      = rows.flatMap fun row =>
          (insertColumns t rows).filterMap fun c => (row.get? c.name).map (.of c) :=
    List.flatMap_congr fun row hrow => (filterMap_insertColumns t hrow).symm
  have hinto := (sqlName_binds P t).behind "INSERT INTO " (by decide)
  have hreturning := (sqlColumns_binds P t).behind " RETURNING " (by decide)
  rw [hbindings]
  by_cases hempty : insertColumns t rows = []
  · have hnames : Fragment.Binds P [.word " (", .name t.primaryKey] [] :=
      .word (by decide) (.name _ .nil)
    have htuples := (defaultTuples_bind P (max 1 rows.length)).behind ") VALUES " (by decide)
    have hnone : (rows.flatMap fun row =>
        ([] : List Column).filterMap fun c => (row.get? c.name).map (Binding.of c)) = [] := by
      simp
    rw [hempty, hnone, insertSql_of_no_columns t hempty]
    simpa only [List.append_assoc, List.cons_append, List.nil_append] using
      ((hinto.append_nothing hnames (isApart_cons (by decide))).append_nothing htuples
        (isApart_cons (by decide))).append_nothing hreturning (isApart_cons (by decide))
  · have hcolumns : ∀ c ∈ insertColumns t rows, c ∈ t.columns := fun c hc =>
      (List.mem_filter.1 hc).1
    have hnames : Fragment.Binds P (.word " (" ::
        Fragment.listed ((insertColumns t rows).map fun c => [.name c.name])) [] := by
      have hlisted : (Fragment.listed ((insertColumns t rows).map fun c => [.name c.name])).Binds P
          ((insertColumns t rows).flatMap fun _ => []) :=
        .listed _ fun c _ => .name c.name .nil
      rw [List.flatMap_eq_nil_iff.2 fun _ _ => rfl] at hlisted
      exact hlisted.word (by decide)
    have htuples := (Binds.listed rows fun row _ => tupleSql_binds ht hcolumns row).behind
      ") VALUES " (by decide)
    have hinserted := (hinto.append_nothing hnames (isApart_cons (by decide))).append htuples
      (isApart_cons (by decide))
    rw [insertSql_of_columns t rfl hempty]
    simpa only [List.append_assoc, List.cons_append, List.nil_append] using
      hinserted.append_nothing hreturning (isApart_cons (by decide))

/-- The columns that an update sets, with their values, are those whose
values it binds. -/
theorem map_assignments (t : Table) (row : Row) :
    (assignments t row).map (fun set => Binding.of set.1 set.2)
      = t.columns.filterMap fun c =>
          if c.name = t.primaryKey then none else (row.get? c.name).map (.of c) := by
  rw [assignments, List.map_filterMap]
  refine List.filterMap_congr fun c _ => ?_
  split
  · rfl
  · rw [Option.map_map]
    rfl

/-- Assignments bind the values that are given for columns other than the
key. -/
theorem assignments_bind (ht : t.HasTypes P) (row : Row) :
    (Fragment.listed ((assignments t row).map assignmentSql)).Binds P
      (t.columns.filterMap fun c =>
        if c.name = t.primaryKey then none else (row.get? c.name).map (.of c)) := by
  have hlisted : (Fragment.listed ((assignments t row).map assignmentSql)).Binds P
      ((assignments t row).flatMap fun set => [Binding.of set.1 set.2]) :=
    .listed _ fun set hset => by
      obtain ⟨c, hc, hvalue⟩ := List.mem_filterMap.1 hset
      have hset : set.1 = c := by
        split at hvalue
        · cases hvalue
        · obtain ⟨v, -, rfl⟩ := Option.map_eq_some_iff.1 hvalue
          rfl
      exact .name _ (.word (by decide) (.cast set.2 (ht _ (hset ▸ hc)) .nil))
  rwa [← List.map_eq_flatMap, map_assignments] at hlisted

/-- An update binds what is assigned, and behind it what its condition
binds. -/
theorem updateSql_binds (ht : t.HasTypes P) (condition : Condition) (row : Row) :
    (updateSql t condition row).Binds P
      ((t.columns.filterMap fun c =>
          if c.name = t.primaryKey then none else (row.get? c.name).map (.of c))
        ++ condition.bindings t) := by
  have hsets := assignments_bind ht row
  have hwhere := (condition.sql_binds ht).behind " WHERE " (by decide)
  have hcolumns := sqlColumns_binds P t
  by_cases hempty : assignments t row = []
  · have hnone : (t.columns.filterMap fun c =>
        if c.name = t.primaryKey then none else (row.get? c.name).map (Binding.of c)) = [] := by
      rw [← map_assignments, hempty]
      rfl
    have hfrom := (hcolumns.behind "SELECT " (by decide)).append_nothing
      ((sqlName_binds P t).behind " FROM " (by decide)) (isApart_cons (by decide))
    rw [hnone, updateSql_of_no_assignments t hempty]
    exact hfrom.append hwhere (isApart_cons (by decide))
  · have hset := ((sqlName_binds P t).behind "UPDATE " (by decide)).append
      (hsets.behind " SET " (by decide)) (isApart_cons (by decide))
    have hreturning := hcolumns.behind " RETURNING " (by decide)
    rw [updateSql_of_assignments t rfl hempty]
    exact (hset.append hwhere (isApart_cons (by decide))).append_nothing hreturning
      (isApart_cons (by decide))

end Sql

namespace Statement

/-- The text of a statement binds what the statement binds. -/
theorem sql_binds {P : String → Prop} :
    ∀ {s : Statement}, s.table.HasTypes P → s.sql.Binds P s.bindings
  | select _ s, ht => selectSql_binds ht s
  | count _ condition, ht => countSql_binds ht condition
  | insert _ rows, ht => insertSql_binds ht rows
  | update _ condition row, ht => updateSql_binds ht condition row
  | delete _ condition, ht => deleteSql_binds ht condition

/-- The values of a statement are its parameters, whatever its types. -/
theorem params_toQuery (s : Statement) : s.toQuery.params = s.bindings.map Binding.value := by
  have hbinds : s.sql.Binds (fun _ => True) s.bindings := sql_binds fun _ _ => trivial
  rw [toQuery_eq]
  exact hbinds.params_eq

-- ============================================================ alignment

/-- Every statement numbers its placeholders 1, 2, … from left to right,
as many as it has values, and each is bound to the value that stands in
its place in the statement, with the cast of its column. -/
theorem placeholders_aligned (s : Statement) (ht : s.table.HasTypes IsPlain) :
    placeholders s.toQuery.sql.toList = List.range' 1 s.toQuery.params.length
      ∧ s.toQuery.params = s.bindings.map Binding.value
      ∧ s.toQuery.filled? = some s.sql.inPlace
      ∧ ∀ (i : Nat) (b : Binding), s.bindings[i]? = some b →
          Fragment.Stands s.toQuery.sql.toList 1 i b := by
  have hbinds := sql_binds ht
  have htext : (Query.ofFragment s.sql).sql.toList = s.sql.charsFrom 1 :=
    String.toList_ofList
  have hparams := params_toQuery s
  rw [toQuery_eq] at hparams ⊢
  refine ⟨?_, hparams, hbinds.filled?_eq, htext ▸ hbinds.stands 1⟩
  rw [htext, hbinds.placeholders_eq 1, hparams, List.length_map]

/-- A dollar sign and a quote in the name of a column, one set before the
condition and one not known to the table in it. -/
theorem placeholders_aligned_at_hostile_names :
    let table : Table := ⟨none, "items", "id",
      [⟨"id", "int4", false⟩, ⟨"$1\"", "text", false⟩, ⟨"n", "pg_catalog.int4", false⟩]⟩
    let s : Statement := .update table
      (.and [.like "$1\"" "$3%" true false, .compare "m" .eq (.int 5),
        .inList "id" [.int 7, .int 8] true])
      (.ofFields [("n", .int 2), ("id", .int 9), ("$1\"", .string "$2")])
    table.HasTypes IsPlain
      ∧ s.toQuery.params
        = [.string "$2", .int 2, .string "$3%", .int 5, .int 7, .int 8]
      ∧ placeholders s.toQuery.sql.toList = [1, 2, 3, 4, 5, 6]
      ∧ s.toQuery.filled? = some s.sql.inPlace
      ∧ Fragment.Stands s.toQuery.sql.toList 1 3 ⟨.int 5, none⟩
      ∧ Fragment.Stands s.toQuery.sql.toList 1 4 ⟨.int 7, some "int4"⟩ := by
  intro table s
  have ht : s.table.HasTypes IsPlain := by
    unfold Table.HasTypes
    decide
  obtain ⟨hnumbers, hparams, hfilled, hstands⟩ := placeholders_aligned s ht
  have hvalues : s.toQuery.params
      = [.string "$2", .int 2, .string "$3%", .int 5, .int 7, .int 8] := hparams
  rw [hvalues] at hnumbers
  exact ⟨ht, hvalues, hnumbers, hfilled, hstands 3 _ rfl, hstands 4 _ rfl⟩

end Statement

end TableApi
