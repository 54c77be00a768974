/-
The grammar of boolean expressions in SQL, and that it is unambiguous.

An operand is a column, a parameter or a number, with any number of
casts behind it. A predicate is an operand with a test behind it; the
test of a range has an `AND` of its own. What is negated binds tighter
than a conjunction, and a conjunction tighter than a disjunction; any
expression in parentheses stands where a predicate may.

# Why a text has one reading

Rules say which tokens make up a phrase and nothing about where a phrase
ends. Two readings of one text could differ first in where some phrase
ends, so uniqueness is stated with the rest of the text kept in sight
(`ReadOnce`): two phrases of a class that start at one place, each behind
by something that cannot continue it, are the same tokens read the same
way. For an operand what cannot continue it is anything but a cast, for
a conjunction moreover anything but `AND`, for a disjunction moreover
anything but `OR`. Since the rest behind the first bound of a range is
the rest of an operand and not of a conjunction, the `AND` of the range
is never taken for a connective.
-/
import TableApi.Condition.Eval
import TableApi.Proofs.Sql.Token

namespace TableApi.Sql

open Json

-- ================================================================= trees

inductive Operand where
  | column (name : String)
  | param (n : Nat)
  | number (n : Nat)
  | cast (operand : Operand) (type : String)

inductive Predicate where
  | compare (op : CompareOp) (left right : Operand)
  | like (operand pattern : Operand) (ignoreCase negated : Bool)
  | isNull (operand : Operand) (negated : Bool)
  | inList (operand : Operand) (values : List Operand) (negated : Bool)
  | between (operand low high : Operand) (negated : Bool)

inductive Expr where
  | leaf (p : Predicate)
  | not (e : Expr)
  | and (es : List Expr)
  | or (es : List Expr)

namespace Expr

/-- Conjuncts joined; one alone is itself. -/
def conjunction : List Expr → Expr
  | [e] => e
  | es => .and es

/-- Disjuncts joined; one alone is itself. -/
def disjunction : List Expr → Expr
  | [e] => e
  | es => .or es

end Expr

-- ============================================================== keywords

inductive Keyword where
  | and
  | or
  | not
  | is
  | null
  | oneOf
  | between
  | like
  | iLike
deriving DecidableEq

namespace Token

/-- The keyword that a word is, in letters of either case. -/
def keyword? : Token → Option Keyword
  | word text =>
      match String.ofList (Text.asciiLower text.toList) with
      | "and" => some .and
      | "or" => some .or
      | "not" => some .not
      | "is" => some .is
      | "null" => some .null
      | "in" => some .oneOf
      | "between" => some .between
      | "like" => some .like
      | "ilike" => some .iLike
      | _ => none
  | _ => none

/-- The comparison that an operator is. -/
def comparison? : Token → Option CompareOp
  | sign "=" => some .eq
  | sign "<>" | sign "!=" => some .ne
  | sign ">" => some .gt
  | sign ">=" => some .ge
  | sign "<" => some .lt
  | sign "<=" => some .le
  | _ => none

/-- Whether a keyword matches patterns, and then whether it ignores
case. -/
def pattern? (tok : Token) : Option Bool :=
  match tok.keyword? with
  | some .like => some false
  | some .iLike => some true
  | _ => none

/-- The operand that a token is. A keyword is none. -/
def operand? (tok : Token) : Option Operand :=
  match tok.keyword?, tok with
  | none, name text => some (.column text)
  | none, param n => some (.param n)
  | none, word text => (Decimal.nat? text.toList).map .number
  | _, _ => none

end Token

-- ================================================================= rules

/-- Casts behind an operand. -/
inductive IsCasts : Operand → List Token → Operand → Prop
  | done (x : Operand) : IsCasts x [] x
  | cast {x y : Operand} {ts : List Token} (type : String) :
      IsCasts (.cast x type) ts y → IsCasts x (.sign "::" :: .word type :: ts) y

inductive IsOperand : List Token → Operand → Prop
  | intro {tok : Token} {x y : Operand} {ts : List Token} :
      tok.operand? = some x → IsCasts x ts y → IsOperand (tok :: ts) y

/-- One or more operands with commas between them. -/
inductive IsOperands : List Token → List Operand → Prop
  | one {ts : List Token} {x : Operand} : IsOperand ts x → IsOperands ts [x]
  | more {ts us : List Token} {x : Operand} {xs : List Operand} :
      IsOperand ts x → IsOperands us xs → IsOperands (ts ++ .mark ',' :: us) (x :: xs)

/-- The `NOT` that a test may have. -/
inductive IsNegation : List Token → Bool → Prop
  | plain : IsNegation [] false
  | negated {tok : Token} : tok.keyword? = some .not → IsNegation [tok] true

/-- A test that may be negated. -/
inductive IsNegatable (x : Operand) (negated : Bool) : List Token → Predicate → Prop
  | like {tok : Token} {ts : List Token} {b : Operand} {ignoreCase : Bool} :
      tok.pattern? = some ignoreCase → IsOperand ts b →
        IsNegatable x negated (tok :: ts) (.like x b ignoreCase negated)
  | inList {tok : Token} {ts : List Token} {xs : List Operand} :
      tok.keyword? = some .oneOf → IsOperands ts xs →
        IsNegatable x negated (tok :: .mark '(' :: ts ++ [.mark ')'])
          (.inList x xs negated)
  | between {tok tok' : Token} {ts us : List Token} {low high : Operand} :
      tok.keyword? = some .between → IsOperand ts low → tok'.keyword? = some .and →
        IsOperand us high →
        IsNegatable x negated (tok :: ts ++ tok' :: us) (.between x low high negated)

/-- What a predicate says of its first operand. -/
inductive IsTest (x : Operand) : List Token → Predicate → Prop
  | compare {tok : Token} {ts : List Token} {b : Operand} {op : CompareOp} :
      tok.comparison? = some op → IsOperand ts b →
        IsTest x (tok :: ts) (.compare op x b)
  | isNull {tok tok' : Token} {ns : List Token} {negated : Bool} :
      tok.keyword? = some .is → IsNegation ns negated → tok'.keyword? = some .null →
        IsTest x (tok :: ns ++ [tok']) (.isNull x negated)
  | negatable {ns ts : List Token} {negated : Bool} {p : Predicate} :
      IsNegation ns negated → IsNegatable x negated ts p → IsTest x (ns ++ ts) p

inductive IsPredicate : List Token → Predicate → Prop
  | intro {ts us : List Token} {x : Operand} {p : Predicate} :
      IsOperand ts x → IsTest x us p → IsPredicate (ts ++ us) p

mutual

/-- A predicate, a negation, or an expression in parentheses. -/
inductive IsUnary : List Token → Expr → Prop
  | leaf {ts : List Token} {p : Predicate} : IsPredicate ts p → IsUnary ts (.leaf p)
  | not {tok : Token} {ts : List Token} {e : Expr} :
      tok.keyword? = some .not → IsUnary ts e → IsUnary (tok :: ts) (.not e)
  | group {ts : List Token} {es : List Expr} :
      IsDisjuncts ts es → IsUnary (.mark '(' :: ts ++ [.mark ')']) (.disjunction es)

/-- One or more negations or predicates with `AND` between them. -/
inductive IsConjuncts : List Token → List Expr → Prop
  | one {ts : List Token} {e : Expr} : IsUnary ts e → IsConjuncts ts [e]
  | more {tok : Token} {ts us : List Token} {e : Expr} {es : List Expr} :
      IsUnary ts e → tok.keyword? = some .and → IsConjuncts us es →
        IsConjuncts (ts ++ tok :: us) (e :: es)

/-- One or more conjunctions with `OR` between them. -/
inductive IsDisjuncts : List Token → List Expr → Prop
  | one {ts : List Token} {es : List Expr} :
      IsConjuncts ts es → IsDisjuncts ts [.conjunction es]
  | more {tok : Token} {ts us : List Token} {es ds : List Expr} :
      IsConjuncts ts es → tok.keyword? = some .or → IsDisjuncts us ds →
        IsDisjuncts (ts ++ tok :: us) (.conjunction es :: ds)

end

/-- The text reads as the expression. -/
def Expr.Reads (e : Expr) (text : List Char) : Prop :=
  ∃ ts es, Token.read? text = some ts ∧ IsDisjuncts ts es ∧ e = .disjunction es

-- ====================================================== unique readings

/-- Every phrase of the class that starts where this one does, each with
a rest behind it that ends it, is this one. -/
def Only {α : Type} (Ends : List Token → Prop) (Phrase : List Token → α → Prop)
    (ts : List Token) (x : α) : Prop :=
  ∀ ⦃us r r' : List Token⦄ ⦃y : α⦄, Phrase us y → Ends r → Ends r' →
    ts ++ r = us ++ r' → ts = us ∧ x = y

/-- Phrases of a class that start at one place, each with a rest behind
it that ends it, are one phrase. -/
def ReadOnce {α : Type} (Ends : List Token → Prop) (Phrase : List Token → α → Prop) :
    Prop :=
  ∀ ⦃ts : List Token⦄ ⦃x : α⦄, Phrase ts x → Only Ends Phrase ts x

/-- No cast comes next. -/
def EndsOperand (rest : List Token) : Prop := ∀ tok ∈ rest.head?, tok ≠ .sign "::"

/-- Neither a cast nor a comma comes next. -/
def EndsOperands (rest : List Token) : Prop :=
  ∀ tok ∈ rest.head?, tok ≠ .sign "::" ∧ tok ≠ .mark ','

/-- Neither a cast nor a conjunct comes next. -/
def EndsConjuncts (rest : List Token) : Prop :=
  ∀ tok ∈ rest.head?, tok ≠ .sign "::" ∧ tok.keyword? ≠ some .and

/-- Neither a cast nor a conjunct nor a disjunct comes next. -/
def EndsDisjuncts (rest : List Token) : Prop :=
  ∀ tok ∈ rest.head?, tok ≠ .sign "::" ∧ tok.keyword? ≠ some .and
    ∧ tok.keyword? ≠ some .or

/-- A keyword is no cast. -/
theorem ne_cast_of_keyword {tok : Token} {k : Keyword} (h : tok.keyword? = some k) :
    tok ≠ .sign "::" := by
  rintro rfl
  cases h

/-- An operand ends before a keyword. -/
theorem endsOperand_keyword {tok : Token} {k : Keyword} {rest : List Token}
    (h : tok.keyword? = some k) : EndsOperand (tok :: rest) := by
  intro t ht
  obtain rfl : tok = t := by simpa using ht
  exact ne_cast_of_keyword h

theorem EndsConjuncts.endsOperand {rest : List Token} (h : EndsConjuncts rest) :
    EndsOperand rest := fun tok ht => (h tok ht).1

theorem EndsDisjuncts.endsConjuncts {rest : List Token} (h : EndsDisjuncts rest) :
    EndsConjuncts rest := fun tok ht => ⟨(h tok ht).1, (h tok ht).2.1⟩

/-- A conjunction ends before OR. -/
theorem endsConjuncts_or {tok : Token} {rest : List Token} (h : tok.keyword? = some .or) :
    EndsConjuncts (tok :: rest) := by
  intro t ht
  obtain rfl : tok = t := by simpa using ht
  refine ⟨ne_cast_of_keyword h, ?_⟩
  rw [h]
  decide

/-- An expression ends before a closing parenthesis. -/
theorem endsDisjuncts_close (rest : List Token) : EndsDisjuncts (.mark ')' :: rest) := by
  intro t ht
  obtain rfl : Token.mark ')' = t := by simpa using ht
  refine ⟨by decide, ?_, ?_⟩ <;> simp [Token.keyword?]

/-- Behind an operand the casts are all that can be. -/
theorem readOnce_casts (x : Operand) : ReadOnce EndsOperand (IsCasts x) := by
  intro ts y h
  induction h with
  | done x =>
      intro us r r' z h' hr _ heq
      cases h' with
      | done => exact ⟨rfl, rfl⟩
      | cast type _ =>
          rw [List.nil_append] at heq
          exact absurd rfl (hr (.sign "::") (by simp [heq]))
  | cast type h ih =>
      intro us r r' z h' hr hr' heq
      cases h' with
      | done =>
          rw [List.nil_append] at heq
          exact absurd rfl (hr' (.sign "::") (by simp [← heq]))
      | cast type' h' =>
          simp only [List.cons_append, List.cons.injEq, Token.word.injEq, true_and] at heq
          obtain ⟨rfl, heq⟩ := heq
          obtain ⟨rfl, rfl⟩ := ih h' hr hr' heq
          exact ⟨rfl, rfl⟩

/-- An operand is read in one way. -/
theorem readOnce_operand : ReadOnce EndsOperand IsOperand := by
  rintro _ _ ⟨hx, hts⟩ _ r r' _ ⟨hy, hus⟩ hr hr' heq
  simp only [List.cons_append, List.cons.injEq] at heq
  obtain ⟨rfl, heq⟩ := heq
  obtain rfl : _ = _ := Option.some.inj (hx.symm.trans hy)
  obtain ⟨rfl, rfl⟩ := readOnce_casts _ hts hus hr hr' heq
  exact ⟨rfl, rfl⟩

theorem EndsOperands.endsOperand {rest : List Token} (h : EndsOperands rest) :
    EndsOperand rest := fun tok ht => (h tok ht).1

/-- An operand ends before a comma. -/
theorem endsOperand_comma (rest : List Token) : EndsOperand (.mark ',' :: rest) := by
  intro t ht
  obtain rfl : Token.mark ',' = t := by simpa using ht
  decide

/-- A list of operands ends before a closing parenthesis. -/
theorem endsOperands_close (rest : List Token) : EndsOperands (.mark ')' :: rest) := by
  intro t ht
  obtain rfl : Token.mark ')' = t := by simpa using ht
  decide

/-- A list of operands is read in one way. -/
theorem readOnce_operands : ReadOnce EndsOperands IsOperands := by
  intro ts xs h
  induction h with
  | one hx =>
      intro us r r' ys h' hr hr' heq
      cases h' with
      | one hy =>
          obtain ⟨rfl, rfl⟩ := readOnce_operand hx hy hr.endsOperand hr'.endsOperand heq
          exact ⟨rfl, rfl⟩
      | more hy _ =>
          rw [List.append_assoc, List.cons_append] at heq
          obtain ⟨rfl, rfl⟩ :=
            readOnce_operand hx hy hr.endsOperand (endsOperand_comma _) heq
          exact absurd rfl (hr (.mark ',') (by simp [List.append_cancel_left heq])).2
  | more hx _ ih =>
      intro us r r' ys h' hr hr' heq
      rw [List.append_assoc, List.cons_append] at heq
      cases h' with
      | one hy =>
          obtain ⟨rfl, rfl⟩ :=
            readOnce_operand hx hy (endsOperand_comma _) hr'.endsOperand heq
          exact absurd rfl (hr' (.mark ',') (by simp [← List.append_cancel_left heq])).2
      | more hy hys =>
          rw [List.append_assoc, List.cons_append] at heq
          obtain ⟨rfl, rfl⟩ :=
            readOnce_operand hx hy (endsOperand_comma _) (endsOperand_comma _) heq
          have htail := List.tail_eq_of_cons_eq (List.append_cancel_left heq)
          obtain ⟨rfl, rfl⟩ := ih hys hr hr' htail
          exact ⟨rfl, rfl⟩

-- ================================================================= tests

/-- No `NOT` comes next. -/
def EndsNegation (rest : List Token) : Prop :=
  ∀ tok ∈ rest.head?, tok.keyword? ≠ some .not

/-- A negation, present or not, ends before any keyword but NOT. -/
theorem endsNegation_keyword {tok : Token} {k : Keyword} {rest : List Token}
    (h : tok.keyword? = some k) (hk : k ≠ .not) : EndsNegation (tok :: rest) := by
  intro t ht
  obtain rfl : tok = t := by simpa using ht
  rw [h]
  exact fun heq => hk (Option.some.inj heq)

/-- A negation or the lack of one is read in one way. -/
theorem readOnce_negation : ReadOnce EndsNegation IsNegation := by
  rintro _ _ (_ | hk) _ r r' _ (_ | hk') hr hr' heq
  · exact ⟨rfl, rfl⟩
  · rw [List.nil_append] at heq
    exact absurd hk' (hr _ (by simp [heq]))
  · rw [List.nil_append] at heq
    exact absurd hk (hr' _ (by simp [← heq]))
  · obtain ⟨rfl, _⟩ := List.cons.inj heq
    exact ⟨rfl, rfl⟩

/-- Each operator of patterns is a keyword. -/
theorem keyword_of_pattern {tok : Token} {ignoreCase : Bool}
    (h : tok.pattern? = some ignoreCase) :
    tok.keyword? = some (if ignoreCase then .iLike else .like) := by
  unfold Token.pattern? at h
  split at h
  case h_1 hk => cases h; exact hk
  case h_2 hk => cases h; exact hk
  case h_3 => cases h

/-- The sign of a comparison is neither a keyword nor a cast. -/
theorem keyword_of_comparison {tok : Token} {op : CompareOp}
    (h : tok.comparison? = some op) : tok.keyword? = none ∧ tok ≠ .sign "::" := by
  unfold Token.comparison? at h
  split at h <;> first | exact ⟨rfl, by decide⟩ | cases h

/-- What may be negated starts with a keyword of its own. -/
theorem IsNegatable.starts {x : Operand} {negated : Bool} {ts : List Token}
    {p : Predicate} (h : IsNegatable x negated ts p) :
    ∃ tok us k, ts = tok :: us ∧ tok.keyword? = some k ∧ k ≠ .not ∧ k ≠ .is := by
  cases h with
  | like hk _ =>
      refine ⟨_, _, _, rfl, keyword_of_pattern hk, ?_, ?_⟩ <;> split <;> decide
  | inList hk _ => exact ⟨_, _, _, rfl, hk, by decide, by decide⟩
  | between hk _ _ _ => exact ⟨_, _, _, rfl, hk, by decide, by decide⟩

/-- What may be negated does not begin with NOT. -/
theorem IsNegatable.endsNegation {x : Operand} {negated : Bool} {ts : List Token}
    {p : Predicate} (h : IsNegatable x negated ts p) (rest : List Token) :
    EndsNegation (ts ++ rest) := by
  obtain ⟨tok, us, k, rfl, hk, hnot, _⟩ := h.starts
  exact endsNegation_keyword hk hnot

/-- A keyword is followed in one way, so tests with different keywords
start differently. -/
theorem keyword_inj {tok tok' : Token} {k k' : Keyword} {ts us : List Token}
    (h : tok.keyword? = some k) (h' : tok'.keyword? = some k')
    (heq : tok :: ts = tok' :: us) : k = k' := by
  obtain ⟨rfl, _⟩ := List.cons.inj heq
  exact Option.some.inj (h.symm.trans h')

/-- What may be negated is read in one way behind its operand. -/
theorem readOnce_negatable (x : Operand) (negated : Bool) :
    ReadOnce EndsOperand (IsNegatable x negated) := by
  intro ts p h us r r' q h' hr hr' heq
  cases h with
  | like hk hb =>
      have hk' := keyword_of_pattern hk
      cases h' with
      | like hj hc =>
          obtain ⟨rfl, hrest⟩ := List.cons.inj heq
          obtain rfl := Option.some.inj (hk.symm.trans hj)
          obtain ⟨rfl, rfl⟩ := readOnce_operand hb hc hr hr' hrest
          exact ⟨rfl, rfl⟩
      | inList hj _ =>
          have hne := keyword_inj hk' hj heq
          split at hne <;> cases hne
      | between hj _ _ _ =>
          have hne := keyword_inj hk' hj heq
          split at hne <;> cases hne
  | inList hk hxs =>
      cases h' with
      | like hj _ =>
          have hne := keyword_inj hk (keyword_of_pattern hj) heq
          split at hne <;> cases hne
      | inList hj hys =>
          simp only [List.cons_append, List.append_assoc, List.cons.injEq, true_and,
            List.nil_append] at heq
          obtain ⟨rfl, hrest⟩ := heq
          obtain ⟨rfl, rfl⟩ :=
            readOnce_operands hxs hys (endsOperands_close _) (endsOperands_close _) hrest
          exact ⟨rfl, rfl⟩
      | between hj _ _ _ => cases keyword_inj hk hj heq
  | between hk hlow hand hhigh =>
      cases h' with
      | like hj _ =>
          have hne := keyword_inj hk (keyword_of_pattern hj) heq
          split at hne <;> cases hne
      | inList hj _ => cases keyword_inj hk hj heq
      | between hj hlow' hand' hhigh' =>
          simp only [List.cons_append, List.append_assoc, List.cons.injEq] at heq
          obtain ⟨rfl, hrest⟩ := heq
          obtain ⟨rfl, rfl⟩ := readOnce_operand hlow hlow' (endsOperand_keyword hand)
            (endsOperand_keyword hand') hrest
          obtain ⟨rfl, hhighs⟩ := List.cons.inj (List.append_cancel_left hrest)
          obtain ⟨rfl, rfl⟩ := readOnce_operand hhigh hhigh' hr hr' hhighs
          exact ⟨rfl, rfl⟩

/-- A test that may be negated, with its `NOT` if it has one, starts with
a keyword other than `IS`. -/
theorem IsNegation.starts {x : Operand} {negated : Bool} {ns ts : List Token}
    {p : Predicate} (hn : IsNegation ns negated) (h : IsNegatable x negated ts p) :
    ∃ tok us k, ns ++ ts = tok :: us ∧ tok.keyword? = some k ∧ k ≠ .is := by
  cases hn with
  | plain =>
      obtain ⟨tok, us, k, rfl, hk, _, his⟩ := h.starts
      exact ⟨tok, us, k, rfl, hk, his⟩
  | negated hk => exact ⟨_, _, _, rfl, hk, by decide⟩

/-- What a test starts with: an operator, `IS`, or another keyword. -/
theorem IsTest.starts {x : Operand} {ts : List Token} {p : Predicate}
    (h : IsTest x ts p) :
    ∃ tok us, ts = tok :: us ∧ (tok.comparison?.isSome ∨ tok.keyword?.isSome) := by
  cases h with
  | compare hop _ => exact ⟨_, _, rfl, .inl (by simp [hop])⟩
  | isNull hk _ _ => exact ⟨_, _, rfl, .inr (by simp [hk])⟩
  | negatable hn h =>
      obtain ⟨tok, us, k, heq, hk, _⟩ := hn.starts h
      exact ⟨tok, us, heq, .inr (by simp [hk])⟩

/-- An operand ends before the test of it. -/
theorem IsTest.endsOperand {x : Operand} {ts : List Token} {p : Predicate}
    (h : IsTest x ts p) (rest : List Token) : EndsOperand (ts ++ rest) := by
  obtain ⟨tok, us, rfl, hop | hk⟩ := h.starts
  · obtain ⟨op, hop⟩ := Option.isSome_iff_exists.1 hop
    intro t ht
    obtain rfl : tok = t := by simpa using ht
    exact (keyword_of_comparison hop).2
  · obtain ⟨k, hk⟩ := Option.isSome_iff_exists.1 hk
    exact endsOperand_keyword hk

/-- A test is read in one way behind its operand. -/
theorem readOnce_test (x : Operand) : ReadOnce EndsOperand (IsTest x) := by
  intro ts p h us r r' q h' hr hr' heq
  cases h with
  | compare hop hb =>
      have hnone := (keyword_of_comparison hop).1
      cases h' with
      | compare hop' hb' =>
          obtain ⟨rfl, hrest⟩ := List.cons.inj heq
          obtain rfl := Option.some.inj (hop.symm.trans hop')
          obtain ⟨rfl, rfl⟩ := readOnce_operand hb hb' hr hr' hrest
          exact ⟨rfl, rfl⟩
      | isNull hk _ _ =>
          obtain ⟨rfl, _⟩ := List.cons.inj heq
          rw [hnone] at hk
          cases hk
      | negatable hn hp =>
          obtain ⟨tok, vs, k, hstart, hk, _⟩ := hn.starts hp
          rw [hstart] at heq
          obtain ⟨rfl, _⟩ := List.cons.inj heq
          rw [hnone] at hk
          cases hk
  | isNull hk hn hnull =>
      cases h' with
      | compare hop _ =>
          obtain ⟨rfl, _⟩ := List.cons.inj heq
          rw [(keyword_of_comparison hop).1] at hk
          cases hk
      | isNull hk' hn' hnull' =>
          simp only [List.cons_append, List.append_assoc, List.cons.injEq,
            List.nil_append] at heq
          obtain ⟨rfl, hrest⟩ := heq
          obtain ⟨rfl, rfl⟩ := readOnce_negation hn hn'
            (endsNegation_keyword hnull (by decide))
            (endsNegation_keyword hnull' (by decide)) hrest
          obtain ⟨rfl, _⟩ := List.cons.inj (List.append_cancel_left hrest)
          exact ⟨rfl, rfl⟩
      | negatable hn' hp =>
          obtain ⟨tok, vs, k, hstart, hk', his⟩ := hn'.starts hp
          rw [hstart] at heq
          exact absurd (keyword_inj hk hk' heq).symm his
  | negatable hn hp =>
      cases h' with
      | compare hop _ =>
          obtain ⟨tok, vs, k, hstart, hk, _⟩ := hn.starts hp
          rw [hstart] at heq
          obtain ⟨rfl, _⟩ := List.cons.inj heq
          rw [(keyword_of_comparison hop).1] at hk
          cases hk
      | isNull hk' _ _ =>
          obtain ⟨tok, vs, k, hstart, hk, his⟩ := hn.starts hp
          rw [hstart] at heq
          exact absurd (keyword_inj hk hk' heq) his
      | negatable hn' hp' =>
          simp only [List.append_assoc] at heq
          obtain ⟨rfl, rfl⟩ :=
            readOnce_negation hn hn' (hp.endsNegation r) (hp'.endsNegation r') heq
          obtain ⟨rfl, rfl⟩ :=
            readOnce_negatable x _ hp hp' hr hr' (List.append_cancel_left heq)
          exact ⟨rfl, rfl⟩

/-- A predicate is read in one way. -/
theorem readOnce_predicate : ReadOnce EndsOperand IsPredicate := by
  rintro _ _ ⟨hx, hp⟩ _ r r' _ ⟨hy, hq⟩ hr hr' heq
  simp only [List.append_assoc] at heq
  obtain ⟨rfl, rfl⟩ := readOnce_operand hx hy (hp.endsOperand r) (hq.endsOperand r') heq
  obtain ⟨rfl, rfl⟩ := readOnce_test _ hp hq hr hr' (List.append_cancel_left heq)
  exact ⟨rfl, rfl⟩

-- =========================================================== connectives

/-- A predicate starts neither with a keyword nor with a parenthesis. -/
theorem IsPredicate.starts {ts : List Token} {p : Predicate} (h : IsPredicate ts p) :
    ∃ tok us, ts = tok :: us ∧ tok.keyword? = none ∧ tok ≠ .mark '(' := by
  obtain ⟨⟨hx, _⟩, _⟩ := h
  refine ⟨_, _, rfl, ?_⟩
  unfold Token.operand? at hx
  split at hx <;> first | exact ⟨‹_›, by simp⟩ | cases hx

/-- What a negation, a predicate and a parenthesis start with tells them
apart. -/
theorem IsPredicate.ne_keyword {tok : Token} {ts us r r' : List Token} {p : Predicate}
    {k : Keyword} (h : IsPredicate ts p) (hk : tok.keyword? = some k) :
    ts ++ r ≠ tok :: us ++ r' := by
  intro heq
  obtain ⟨t, vs, rfl, hnone, _⟩ := h.starts
  obtain ⟨rfl, _⟩ := List.cons.inj heq
  rw [hnone] at hk
  cases hk

/-- A predicate does not begin with a parenthesis. -/
theorem IsPredicate.ne_group {ts us r r' : List Token} {p : Predicate}
    (h : IsPredicate ts p) : ts ++ r ≠ .mark '(' :: us ++ r' := by
  intro heq
  obtain ⟨t, vs, rfl, _, hne⟩ := h.starts
  exact hne (List.cons.inj heq).1

theorem keyword_ne_group {tok : Token} {ts us r r' : List Token} {k : Keyword}
    (hk : tok.keyword? = some k) : tok :: ts ++ r ≠ .mark '(' :: us ++ r' := by
  intro heq
  obtain ⟨rfl, _⟩ := List.cons.inj heq
  cases hk

mutual

/-- By recursion on how it was read: a unary expression is read in one way.
The three of these hold together, as a group holds a whole expression. -/
theorem IsUnary.once {ts : List Token} {e : Expr} :
    IsUnary ts e → Only EndsOperand IsUnary ts e
  | .leaf hp => by
      intro us r r' f h' hr hr' heq
      cases h' with
      | leaf hq =>
          obtain ⟨rfl, rfl⟩ := readOnce_predicate hp hq hr hr' heq
          exact ⟨rfl, rfl⟩
      | not hk _ => exact absurd heq (hp.ne_keyword hk)
      | group _ => exact absurd heq hp.ne_group
  | .not hk he => by
      have ih := he.once
      intro us r r' f h' hr hr' heq
      cases h' with
      | leaf hq => exact absurd heq.symm (hq.ne_keyword hk)
      | not hk' hf =>
          obtain ⟨rfl, hrest⟩ := List.cons.inj heq
          obtain ⟨rfl, rfl⟩ := ih hf hr hr' hrest
          exact ⟨rfl, rfl⟩
      | group _ => exact absurd heq (keyword_ne_group hk)
  | .group hes => by
      have ih := hes.once
      intro us r r' f h' hr hr' heq
      cases h' with
      | leaf hq => exact absurd heq.symm hq.ne_group
      | not hk _ => exact absurd heq.symm (keyword_ne_group hk)
      | group hfs =>
          simp only [List.cons_append, List.append_assoc, List.cons.injEq, true_and,
            List.nil_append] at heq
          obtain ⟨rfl, rfl⟩ :=
            ih hfs (endsDisjuncts_close r) (endsDisjuncts_close r') heq
          exact ⟨rfl, rfl⟩

/-- A list of conjuncts is read in one way. -/
theorem IsConjuncts.once {ts : List Token} {es : List Expr} :
    IsConjuncts ts es → Only EndsConjuncts IsConjuncts ts es
  | .one he => by
      have ih := he.once
      intro us r r' f h' hr hr' heq
      cases h' with
      | one hf =>
          obtain ⟨rfl, rfl⟩ := ih hf hr.endsOperand hr'.endsOperand heq
          exact ⟨rfl, rfl⟩
      | more hf hk _ =>
          rw [List.append_assoc] at heq
          obtain ⟨rfl, rfl⟩ := ih hf hr.endsOperand (endsOperand_keyword hk) heq
          exact absurd hk (hr _ (by simp [List.append_cancel_left heq])).2
  | .more he hk hes => by
      have ihe := he.once
      have ihs := hes.once
      intro us r r' f h' hr hr' heq
      rw [List.append_assoc] at heq
      cases h' with
      | one hf =>
          obtain ⟨rfl, rfl⟩ := ihe hf (endsOperand_keyword hk) hr'.endsOperand heq
          exact absurd hk (hr' _ (by simp [← List.append_cancel_left heq])).2
      | more hf hk' hfs =>
          rw [List.append_assoc] at heq
          obtain ⟨rfl, rfl⟩ :=
            ihe hf (endsOperand_keyword hk) (endsOperand_keyword hk') heq
          obtain ⟨rfl, hrest⟩ := List.cons.inj (List.append_cancel_left heq)
          obtain ⟨rfl, rfl⟩ := ihs hfs hr hr' hrest
          exact ⟨rfl, rfl⟩

/-- A list of disjuncts is read in one way. -/
theorem IsDisjuncts.once {ts : List Token} {es : List Expr} :
    IsDisjuncts ts es → Only EndsDisjuncts IsDisjuncts ts es
  | .one he => by
      have ih := he.once
      intro us r r' f h' hr hr' heq
      cases h' with
      | one hf =>
          obtain ⟨rfl, rfl⟩ := ih hf hr.endsConjuncts hr'.endsConjuncts heq
          exact ⟨rfl, rfl⟩
      | more hf hk _ =>
          rw [List.append_assoc] at heq
          obtain ⟨rfl, rfl⟩ := ih hf hr.endsConjuncts (endsConjuncts_or hk) heq
          exact absurd hk (hr _ (by simp [List.append_cancel_left heq])).2.2
  | .more he hk hes => by
      have ihe := he.once
      have ihs := hes.once
      intro us r r' f h' hr hr' heq
      rw [List.append_assoc] at heq
      cases h' with
      | one hf =>
          obtain ⟨rfl, rfl⟩ := ihe hf (endsConjuncts_or hk) hr'.endsConjuncts heq
          exact absurd hk (hr' _ (by simp [← List.append_cancel_left heq])).2.2
      | more hf hk' hfs =>
          rw [List.append_assoc] at heq
          obtain ⟨rfl, rfl⟩ := ihe hf (endsConjuncts_or hk) (endsConjuncts_or hk') heq
          obtain ⟨rfl, hrest⟩ := List.cons.inj (List.append_cancel_left heq)
          obtain ⟨rfl, rfl⟩ := ihs hfs hr hr' hrest
          exact ⟨rfl, rfl⟩

end

/-- An expression ends where the text does. -/
theorem endsDisjuncts_nil : EndsDisjuncts [] := by intro tok ht; cases ht

/-- A text reads as at most one expression. -/
theorem Expr.Reads.unique {text : List Char} {e f : Expr} (he : e.Reads text)
    (hf : f.Reads text) : e = f := by
  obtain ⟨ts, es, hts, hes, rfl⟩ := he
  obtain ⟨us, fs, hus, hfs, rfl⟩ := hf
  obtain rfl := Option.some.inj (hts.symm.trans hus)
  obtain ⟨_, rfl⟩ := hes.once hfs endsDisjuncts_nil endsDisjuncts_nil rfl
  rfl

end TableApi.Sql
