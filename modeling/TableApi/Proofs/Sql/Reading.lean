/-
What the pieces of a condition read as.

The text of a condition in pieces reads as one expression, and the expression is
the condition: the same leaves in the same order, each with its column,
its operator, its negation and the numbers of its parameters, joined as
the condition joins them. A connective with one member reads as the
member, and an empty one, like an empty list, as a constant.

# The expression of a condition

`Condition.expr` writes the tree down without any text. It numbers the
parameters by the values a condition binds (`Condition.values`), which
are the parameters of its text; so the tree and the text number alike
wherever the condition stands in a larger query.

# From text to tree

One induction over the condition shows that its text is cut into tokens
that are a single unary phrase. That is why connectives and negations
need their parentheses and nothing else does: a unary phrase may stand
under `AND`, under `OR` and behind `NOT (`, whatever it is made of. The
members of a connective and the parameters of a list are threaded alike
(`AllReadAs`): members with their own tokens, a separator between them.

# From tree to truth

An expression is evaluated on a row and the values bound to the
parameters; the types in casts say nothing there, as they say nothing to
`Condition.eval`. The values before and after those of the condition do
not matter.
-/
import TableApi.Proofs.Sql.Grammar
import TableApi.Sql.Condition

namespace TableApi

open Json Sql

-- ============================================================ evaluation

namespace Sql

/-- The value of an operand; the first parameter has number one. -/
def Operand.value (row : Row) (params : List Value) : Operand → Value
  | column name => row.cell name
  | param n => params.getD (n - 1) .null
  | number n => .nat n
  | cast x _ => x.value row params

/-- What a pattern says of a value; only a string is a pattern. -/
def patternTruth (v pattern : Value) (ignoreCase : Bool) : Truth :=
  match pattern with
  | .string p => Condition.likeTruth v p ignoreCase
  | _ => .unknown

def Predicate.truth (row : Row) (params : List Value) : Predicate → Truth
  | compare op x y =>
      Condition.compareTruth op (x.value row params) (y.value row params)
  | like x p ignoreCase negated =>
      (patternTruth (x.value row params) (p.value row params) ignoreCase).negateIf negated
  | isNull x negated => (Truth.ofBool (x.value row params).isNull).negateIf negated
  | inList x ys negated =>
      (Condition.memberTruth (x.value row params)
        (ys.map (Operand.value row params))).negateIf negated
  | between x low high negated =>
      (Condition.betweenTruth (x.value row params) (low.value row params)
        (high.value row params)).negateIf negated

namespace Expr

mutual

/-- The truth value of an expression on a row, with values for its
parameters. -/
def eval (row : Row) (params : List Value) : Expr → Truth
  | leaf p => p.truth row params
  | not e => (eval row params e).not
  | and es => .all (evalAll row params es)
  | or es => .any (evalAll row params es)

def evalAll (row : Row) (params : List Value) : List Expr → List Truth
  | [] => []
  | e :: es => eval row params e :: evalAll row params es

end

/-- A conjunction of any number of expressions is true if all of them are,
and one of them alone stands for itself. -/
theorem eval_conjunction (row : Row) (params : List Value) (es : List Expr) :
    (conjunction es).eval row params = .all (evalAll row params es) := by
  unfold conjunction
  split
  · simp [evalAll, Truth.all]
  · rfl

/-- A disjunction, likewise, is true if any of them is. -/
theorem eval_disjunction (row : Row) (params : List Value) (es : List Expr) :
    (disjunction es).eval row params = .any (evalAll row params es) := by
  unfold disjunction
  split
  · simp [evalAll, Truth.any]
  · rfl

end Expr

end Sql

-- ====================================== the expression of a condition

namespace Condition

mutual

/-- The values that a condition binds, from left to right. -/
def values : Condition → List Value
  | always | never | isNull _ _ => []
  | compare _ _ value => [value]
  | like _ pattern _ _ => [.string pattern]
  | inList _ values _ => values
  | between _ low high _ => [low, high]
  | and conditions | or conditions => valuesAll conditions
  | not condition => values condition

def valuesAll : List Condition → List Value
  | [] => []
  | c :: cs => values c ++ valuesAll cs

end

/-- A parameter, cast to the type of its column if the table has it. -/
def placeholder (table : Table) (column : String) (n : Nat) : Operand :=
  match table.column? column with
  | some c => .cast (.param n) c.type
  | none => .param n

/-- A placeholder for every value, numbered from `n`. -/
def placeholders (table : Table) (column : String) (n : Nat) : List Value → List Operand
  | [] => []
  | _ :: values => placeholder table column n :: placeholders table column (n + 1) values

/-- A constant as a comparison of numbers. -/
def constant (b : Bool) : Predicate := .compare .eq (.number 1) (.number b.toNat)

mutual

/-- The expression that a condition is, its parameters numbered from
`n`. -/
def expr (table : Table) (n : Nat) : Condition → Expr
  | always => .leaf (constant true)
  | never => .leaf (constant false)
  | compare column op _ => .leaf (.compare op (.column column) (placeholder table column n))
  | like column _ ignoreCase negated =>
      .leaf (.like (.cast (.column column) "text") (.param n) ignoreCase negated)
  | isNull column negated => .leaf (.isNull (.column column) negated)
  | inList column values negated =>
      if values.isEmpty then .leaf (constant negated)
      else .leaf (.inList (.column column) (placeholders table column n values) negated)
  | between column _ _ negated =>
      .leaf (.between (.column column) (placeholder table column n)
        (placeholder table column (n + 1)) negated)
  | and conditions =>
      if conditions.isEmpty then .leaf (constant true)
      else .conjunction (exprAll table n conditions)
  | or conditions =>
      if conditions.isEmpty then .leaf (constant false)
      else .disjunction (exprAll table n conditions)
  | not condition => .not (expr table n condition)

def exprAll (table : Table) (n : Nat) : List Condition → List Expr
  | [] => []
  | c :: cs => expr table n c :: exprAll table (n + (values c).length) cs

end

end Condition

-- ======================================================= parameters

namespace Sql.Fragment

/-- The parameters of two fragments come one behind the other. -/
theorem params_append (f g : Fragment) : params (f ++ g) = params f ++ params g :=
  List.filterMap_append

@[simp] theorem params_nil : params [] = [] := rfl

@[simp] theorem params_word (text : String) (f : Fragment) :
    params (.word text :: f) = params f := rfl

@[simp] theorem params_name (text : String) (f : Fragment) :
    params (.name text :: f) = params f := rfl

@[simp] theorem params_type (text : String) (f : Fragment) :
    params (.type text :: f) = params f := rfl

@[simp] theorem params_number (n : Nat) (f : Fragment) :
    params (.number n :: f) = params f := rfl

@[simp] theorem params_param (v : Value) (f : Fragment) :
    params (.param v :: f) = v :: params f := rfl

/-- Separators that are words bind nothing. -/
theorem params_separated (text : String) :
    ∀ fs : List Fragment, params (separated (.word text) fs) = fs.flatMap params
  | [] => rfl
  | [f] => by simp [separated]
  | f :: g :: fs => by
      have hmore : separated (.word text) (f :: g :: fs)
          = f ++ .word text :: separated (.word text) (g :: fs) := by
        simp [separated]
      rw [hmore, params_append, params_word, params_separated text (g :: fs)]
      simp

/-- What stands behind a fragment is numbered from where the fragment
stops. -/
theorem charsFrom_append (f g : Fragment) :
    ∀ n, charsFrom n (f ++ g) = charsFrom n f ++ charsFrom (n + (params f).length) g := by
  induction f with
  | nil => intro n; simp [charsFrom]
  | cons p f ih =>
      intro n
      simp only [List.cons_append, charsFrom, List.append_assoc, ih]
      cases p with
      | param v => simp [Piece.next, Nat.add_assoc, Nat.add_comm 1]
      | word | name | type | number => simp [Piece.next]

end Sql.Fragment

namespace Condition

@[simp] theorem params_notSql (negated : Bool) : (notSql negated).params = [] := by
  cases negated <;> rfl

@[simp] theorem params_constantSql (b : Bool) : (constantSql b).params = [] := by
  cases b <;> rfl

@[simp] theorem params_paramSql (table : Table) (column : String) (v : Value) :
    (paramSql table column v).params = [v] := by
  unfold paramSql
  split <;> rfl

/-- Joined members have the parameters of each in turn. -/
theorem params_joinSql (connective : String) (empty : Bool) (members : List Fragment) :
    (joinSql connective empty members).params = members.flatMap Fragment.params := by
  unfold joinSql
  cases members with
  | nil => simp
  | cons f fs =>
      simp [Fragment.params_append, Fragment.params_separated]

/-- Placeholders for values have these values as parameters. -/
theorem flatMap_params_paramSql (table : Table) (column : String) :
    ∀ vs : List Value, (vs.map (paramSql table column)).flatMap Fragment.params = vs
  | [] => rfl
  | v :: vs => by simp [flatMap_params_paramSql table column vs]

mutual

/-- The parameters of the text are the values of the condition. -/
theorem params_sql (table : Table) : ∀ c : Condition, (c.sql table).params = c.values
  | always | never => by simp [sql, values]
  | compare _ _ _ => by simp [sql, values]
  | isNull _ _ => by simp [sql, values, Fragment.params_append]
  | like _ _ _ _ => by simp [sql, values, Fragment.params_append]
  | between _ _ _ _ => by simp [sql, values, Fragment.params_append]
  | inList column vs negated => by
      cases vs with
      | nil => simp [sql, values]
      | cons v vs =>
          simp [sql, values, Fragment.params_append, Fragment.listed,
            Fragment.params_separated, flatMap_params_paramSql]
  | and cs => by rw [sql, params_joinSql, params_sqlAll table cs, values]
  | or cs => by rw [sql, params_joinSql, params_sqlAll table cs, values]
  | not c => by simp [sql, values, Fragment.params_append, params_sql table c]

/-- The members of a list have the values of each in turn as parameters. -/
theorem params_sqlAll (table : Table) :
    ∀ cs : List Condition, (sqlAll table cs).flatMap Fragment.params = valuesAll cs
  | [] => rfl
  | c :: cs => by
      simp [sqlAll, valuesAll, params_sql table c, params_sqlAll table cs]

end

end Condition

-- ============================================================== phrases

/-- The fragment, numbered from `n`, is cut into tokens that are the
phrase. -/
def ReadsAs {α : Type} (Phrase : List Token → α → Prop) (n : Nat) (f : Fragment)
    (x : α) : Prop :=
  ∃ ts, CutInto (f.charsFrom n) ts ∧ Phrase ts x

/-- The fragments are phrases, each numbered from where the one before
it stops. -/
inductive AllReadAs {α : Type} (Phrase : List Token → α → Prop) :
    Nat → List Fragment → List α → Prop
  | nil (n : Nat) : AllReadAs Phrase n [] []
  | cons {n : Nat} {f : Fragment} {x : α} {fs : List Fragment} {xs : List α} :
      ReadsAs Phrase n f x → AllReadAs Phrase (n + f.params.length) fs xs →
        AllReadAs Phrase n (f :: fs) (x :: xs)

/-- Phrases with a separator between them are a phrase of a class that is
built from one member, and from one more and a separator. -/
theorem AllReadAs.separated {α : Type} {Item : List Token → α → Prop} {n : Nat}
    {fs : List Fragment} {xs : List α} (h : AllReadAs Item n fs xs) (hne : fs ≠ [])
    (Items : List Token → List α → Prop) {separator : String} {tok : Token}
    (hone : ∀ ts x, Item ts x → Items ts [x])
    (hmore : ∀ ts us x xs, Item ts x → Items us xs → Items (ts ++ tok :: us) (x :: xs))
    (hclosed : Closed separator.toList [tok])
    (hseam : separator.toList.head?.any isSeam = true) :
    ReadsAs Items n (Fragment.separated (.word separator) fs) xs := by
  induction h with
  | nil => exact absurd rfl hne
  | @cons n f x fs xs hf hfs ih =>
      obtain ⟨ts, hts, hx⟩ := hf
      cases hfs with
      | nil => exact ⟨ts, hts, hone _ _ hx⟩
      | cons hg hgs =>
          obtain ⟨us, hus, hxs⟩ := ih (by simp)
          have hchars : ∀ g gs, Fragment.charsFrom n
              (Fragment.separated (.word separator) (f :: g :: gs))
                = Fragment.charsFrom n f ++ (separator.toList
                  ++ (Fragment.separated (.word separator) (g :: gs)).charsFrom
                    (n + f.params.length)) := by
            intro g gs
            rw [Fragment.separated, Fragment.charsFrom_append]
            · rfl
            · simp
          refine ⟨ts ++ tok :: us, ?_, hmore _ _ _ _ hx hxs⟩
          rw [hchars]
          refine hts.after_open (hclosed.after_closed hus) ?_
          cases hcs : separator.toList with
          | nil => rw [hcs] at hseam; cases hseam
          | cons c cs => rw [hcs] at hseam; exact hseam

/-- Every type is named by a word. -/
def Table.TypesAreWords (t : Table) : Prop :=
  ∀ c ∈ t.columns, c.type ≠ "" ∧ ∀ ch ∈ c.type.toList, isWordChar ch = true

namespace Condition

variable {table : Table}

/-- The text of a parameter reads as its placeholder, with the cast of its
column. -/
theorem paramSql_readsAs (ht : table.TypesAreWords) (column : String) (v : Value)
    (n : Nat) :
    ReadsAs IsOperand n (paramSql table column v) (placeholder table column n) := by
  unfold paramSql placeholder
  cases hc : table.column? column with
  | none =>
      refine ⟨[.param n], ?_, .intro rfl (.done _)⟩
      simpa [Fragment.charsFrom, Piece.chars] using cutInto_param n
  | some c =>
      obtain ⟨hne, hw⟩ := ht c (List.mem_of_find?_eq_some hc)
      refine ⟨[.param n, .sign "::", .word c.type], ?_, .intro rfl (.cast _ (.done _))⟩
      have hcut := (cutInto_param n).after_open (cutInto_cast hne hw) rfl
      simpa [Fragment.charsFrom, Piece.chars, Piece.next] using hcut

/-- The texts of many parameters read as their placeholders, numbered on. -/
theorem paramSql_allReadAs (ht : table.TypesAreWords) (column : String) :
    ∀ (vs : List Value) (n : Nat),
      AllReadAs IsOperand n (vs.map (paramSql table column)) (placeholders table column n vs)
  | [], n => .nil n
  | v :: vs, n => by
      refine .cons (paramSql_readsAs ht column v n) ?_
      rw [params_paramSql]
      exact paramSql_allReadAs ht column vs (n + 1)

/-- A negation or the lack of one is read as such. -/
theorem notSql_reads (negated : Bool) (n : Nat) :
    ∃ ns, Closed ((notSql negated).charsFrom n) ns ∧ IsNegation ns negated := by
  cases negated with
  | false => exact ⟨[], closed_blank rfl, .plain⟩
  | true => exact ⟨[.word "NOT"], closed_blank rfl, .negated rfl⟩

/-- A constant condition reads as a comparison of two numbers. -/
theorem constantSql_readsAs (b : Bool) (n : Nat) :
    ReadsAs IsUnary n (constantSql b) (.leaf (constant b)) := by
  have hleft : Closed "1 = ".toList [.word "1", .sign "="] := closed_blank rfl
  have hone : CutInto ("1 = ".toList ++ "1".toList)
      [.word "1", .sign "=", .word "1"] :=
    hleft.after_closed (cutInto_word (by decide) (List.all_eq_true.1 rfl))
  have hzero : CutInto ("1 = ".toList ++ "0".toList)
      [.word "1", .sign "=", .word "0"] :=
    hleft.after_closed (cutInto_word (by decide) (List.all_eq_true.1 rfl))
  cases b with
  | false =>
      exact ⟨_, hzero, .leaf (.intro (.intro rfl (.done _))
        (.compare rfl (.intro rfl (.done _))))⟩
  | true =>
      exact ⟨_, hone, .leaf (.intro (.intro rfl (.done _))
        (.compare rfl (.intro rfl (.done _))))⟩

-- ================================================================ leaves

/-- A comparison reads as one leaf. -/
theorem compare_readsAs (ht : table.TypesAreWords) (column : String) (op : CompareOp)
    (v : Value) (n : Nat) :
    ReadsAs IsUnary n (sql table (.compare column op v))
      (expr table n (.compare column op v)) := by
  obtain ⟨ts, hts, hx⟩ := paramSql_readsAs ht column v n
  have hop : Closed (" ".toList ++ op.sql.toList ++ " ".toList) [.sign op.sql] := by
    cases op <;> exact closed_blank rfl
  have hcompare : (Token.sign op.sql).comparison? = some op := by cases op <;> rfl
  refine ⟨.name column :: .sign op.sql :: ts, ?_,
    .leaf (.intro (.intro rfl (.done _)) (.compare hcompare hx))⟩
  have hcut := (cutInto_name column).after_open (hop.after_closed hts) rfl
  simpa [sql, Fragment.charsFrom, Piece.chars, Piece.next] using hcut

/-- A pattern test reads as one leaf. -/
theorem like_readsAs (table : Table) (column pattern : String) (ignoreCase negated : Bool)
    (n : Nat) :
    ReadsAs IsUnary n (sql table (.like column pattern ignoreCase negated))
      (expr table n (.like column pattern ignoreCase negated)) := by
  obtain ⟨ns, hns, hneg⟩ := notSql_reads negated n
  have htext : Closed "::text ".toList [.sign "::", .word "text"] := closed_blank rfl
  have hlike : ∃ word, Closed (if ignoreCase then "ILIKE " else "LIKE ").toList [.word word]
      ∧ (Token.word word).pattern? = some ignoreCase := by
    cases ignoreCase with
    | false => exact ⟨"LIKE", closed_blank rfl, rfl⟩
    | true => exact ⟨"ILIKE", closed_blank rfl, rfl⟩
  obtain ⟨word, hword, hpattern⟩ := hlike
  refine ⟨[.name column, .sign "::", .word "text"] ++ (ns ++ [.word word, .param n]), ?_,
    .leaf (.intro (.intro rfl (.cast _ (.done _)))
      (.negatable hneg (.like hpattern (.intro rfl (.done _)))))⟩
  have hcut := (cutInto_name column).after_open
    (htext.after_closed (hns.after_closed (hword.after_closed (cutInto_param n)))) rfl
  simpa [sql, Fragment.charsFrom_append, Fragment.charsFrom, Piece.chars, Piece.next]
    using hcut

/-- A test for null reads as one leaf. -/
theorem isNull_readsAs (table : Table) (column : String) (negated : Bool) (n : Nat) :
    ReadsAs IsUnary n (sql table (.isNull column negated))
      (expr table n (.isNull column negated)) := by
  obtain ⟨ns, hns, hneg⟩ := notSql_reads negated n
  have his : Closed " IS ".toList [.word "IS"] := closed_blank rfl
  have hnull : CutInto "NULL".toList [.word "NULL"] :=
    cutInto_word (by decide) (List.all_eq_true.1 rfl)
  refine ⟨.name column :: (.word "IS" :: ns ++ [.word "NULL"]), ?_,
    .leaf (.intro (.intro rfl (.done _)) (.isNull rfl hneg rfl))⟩
  have hcut := (cutInto_name column).after_open
    (his.after_closed (hns.after_closed hnull)) rfl
  simpa [sql, Fragment.charsFrom_append, Fragment.charsFrom, Piece.chars, Piece.next]
    using hcut

/-- A membership test reads as one leaf, and as a constant if its list is
empty. -/
theorem inList_readsAs (ht : table.TypesAreWords) (column : String) (vs : List Value)
    (negated : Bool) (n : Nat) :
    ReadsAs IsUnary n (sql table (.inList column vs negated))
      (expr table n (.inList column vs negated)) := by
  unfold sql expr
  split
  · exact constantSql_readsAs negated n
  · next hvs =>
    have hne : vs.map (paramSql table column) ≠ [] := by
      intro h
      exact hvs (by simp [List.map_eq_nil_iff.1 h])
    obtain ⟨ns, hns, hneg⟩ := notSql_reads negated n
    have hcomma : Closed ", ".toList [.mark ','] := closed_blank rfl
    obtain ⟨ts, hts, hxs⟩ := (paramSql_allReadAs ht column vs n).separated hne
      IsOperands (fun _ _ => .one) (fun _ _ _ _ => .more) hcomma rfl
    have hopen : Closed "IN (".toList ([.word "IN"] ++ [.mark '(']) := closed_mark rfl
    have hclose : Closed ")".toList ([] ++ [.mark ')']) := closed_mark rfl
    refine ⟨.name column :: (ns ++ (.word "IN" :: .mark '(' :: ts ++ [.mark ')'])), ?_,
      .leaf (.intro (.intro rfl (.done _)) (.negatable hneg (.inList rfl hxs)))⟩
    have hblank : Closed " ".toList [] := closed_blank rfl
    have hcut := (cutInto_name column).after_open
      (hblank.after_closed (hns.after_closed (hopen.after_closed
        (hts.after_open hclose.cutInto rfl)))) rfl
    simpa [Fragment.listed, Fragment.charsFrom_append, Fragment.charsFrom, Piece.chars,
      Piece.next] using hcut

/-- A range test reads as one leaf; the AND inside belongs to it. -/
theorem between_readsAs (ht : table.TypesAreWords) (column : String) (low high : Value)
    (negated : Bool) (n : Nat) :
    ReadsAs IsUnary n (sql table (.between column low high negated))
      (expr table n (.between column low high negated)) := by
  obtain ⟨ns, hns, hneg⟩ := notSql_reads negated n
  obtain ⟨ts, hts, hlow⟩ := paramSql_readsAs ht column low n
  obtain ⟨us, hus, hhigh⟩ := paramSql_readsAs ht column high (n + 1)
  have hblank : Closed " ".toList [] := closed_blank rfl
  have hbetween : Closed "BETWEEN ".toList [.word "BETWEEN"] := closed_blank rfl
  have hand : Closed " AND ".toList [.word "AND"] := closed_blank rfl
  refine ⟨.name column :: (ns ++ (.word "BETWEEN" :: ts ++ .word "AND" :: us)), ?_,
    .leaf (.intro (.intro rfl (.done _)) (.negatable hneg (.between rfl hlow rfl hhigh)))⟩
  have hcut := (cutInto_name column).after_open
    (hblank.after_closed (hns.after_closed (hbetween.after_closed
      (hts.after_open (hand.after_closed hus) rfl)))) rfl
  simpa [sql, Fragment.charsFrom_append, Fragment.charsFrom, Piece.chars, Piece.next]
    using hcut

-- =========================================================== connectives

/-- What stands in parentheses is a unary phrase. -/
theorem group_readsAs {n : Nat} {f : Fragment} {es : List Expr}
    (h : ReadsAs IsDisjuncts n f es) :
    ReadsAs IsUnary n (.word "(" :: f ++ [.word ")"]) (.disjunction es) := by
  obtain ⟨ts, hts, hes⟩ := h
  have hopen : Closed "(".toList ([] ++ [.mark '(']) := closed_mark rfl
  have hclose : Closed ")".toList ([] ++ [.mark ')']) := closed_mark rfl
  refine ⟨.mark '(' :: ts ++ [.mark ')'], ?_, .group hes⟩
  have hcut := hopen.after_closed
    (hts.after_open hclose.cutInto rfl)
  simpa [Fragment.charsFrom_append, Fragment.charsFrom, Piece.chars, Piece.next] using hcut

/-- Members joined by AND read as their conjunction. -/
theorem and_readsAs {n : Nat} {fs : List Fragment} {es : List Expr}
    (h : AllReadAs IsUnary n fs es) (hne : fs ≠ []) :
    ReadsAs IsUnary n (joinSql " AND " true fs) (.conjunction es) := by
  have hand : Closed " AND ".toList [.word "AND"] := closed_blank rfl
  obtain ⟨ts, hts, hes⟩ := h.separated hne IsConjuncts (fun _ _ => .one)
    (fun _ _ _ _ he hes => .more he rfl hes) hand rfl
  rw [joinSql, if_neg (by simpa using hne)]
  exact group_readsAs ⟨ts, hts, .one hes⟩

/-- Members joined by OR read as their disjunction. -/
theorem or_readsAs {n : Nat} {fs : List Fragment} {es : List Expr}
    (h : AllReadAs IsUnary n fs es) (hne : fs ≠ []) :
    ReadsAs IsUnary n (joinSql " OR " false fs) (.disjunction es) := by
  have hor : Closed " OR ".toList [.word "OR"] := closed_blank rfl
  obtain ⟨ts, hts, hes⟩ := h.separated hne IsDisjuncts (fun _ _ he => .one (.one he))
    (fun _ _ _ _ he hes => .more (.one he) rfl hes) hor rfl
  rw [joinSql, if_neg (by simpa using hne)]
  exact group_readsAs ⟨ts, hts, hes⟩

/-- A condition in parentheses behind NOT reads as its negation. -/
theorem not_readsAs {n : Nat} {f : Fragment} {e : Expr} (h : ReadsAs IsUnary n f e) :
    ReadsAs IsUnary n (.word "NOT (" :: f ++ [.word ")"]) (.not e) := by
  obtain ⟨ts, hts, he⟩ := h
  obtain ⟨us, hus, hgroup⟩ := group_readsAs ⟨ts, hts, .one (.one he)⟩
  have hnot : Closed "NOT ".toList [.word "NOT"] := closed_blank rfl
  refine ⟨.word "NOT" :: us, ?_, .not rfl hgroup⟩
  have hcut := hnot.after_closed hus
  simpa [Fragment.charsFrom, Piece.chars, Piece.next] using hcut

mutual

/-- The text of a condition is one unary phrase, wherever its parameters
are numbered from. -/
theorem sql_readsAs (ht : table.TypesAreWords) :
    ∀ (c : Condition) (n : Nat), ReadsAs IsUnary n (sql table c) (expr table n c)
  | always, n => constantSql_readsAs true n
  | never, n => constantSql_readsAs false n
  | compare column op v, n => compare_readsAs ht column op v n
  | like column pattern ignoreCase negated, n =>
      like_readsAs table column pattern ignoreCase negated n
  | isNull column negated, n => isNull_readsAs table column negated n
  | inList column vs negated, n => inList_readsAs ht column vs negated n
  | between column low high negated, n => between_readsAs ht column low high negated n
  | and [], n => constantSql_readsAs true n
  | and (c :: cs), n => and_readsAs (sqlAll_allReadAs ht (c :: cs) n) (by simp [sqlAll])
  | or [], n => constantSql_readsAs false n
  | or (c :: cs), n => or_readsAs (sqlAll_allReadAs ht (c :: cs) n) (by simp [sqlAll])
  | not c, n => not_readsAs (sql_readsAs ht c n)

/-- If each condition reads as its expression then so do the members of a
list. -/
theorem sqlAll_allReadAs (ht : table.TypesAreWords) :
    ∀ (cs : List Condition) (n : Nat),
      AllReadAs IsUnary n (sqlAll table cs) (exprAll table n cs)
  | [], n => .nil n
  | c :: cs, n => by
      refine .cons (sql_readsAs ht c n) ?_
      rw [params_sql]
      exact sqlAll_allReadAs ht cs (n + c.values.length)

end

-- ================================================================ truth

variable {row : Row}

/-- A placeholder stands for the parameter of its number, counted from one.
-/
@[simp] theorem value_placeholder (table : Table) (column : String) (n : Nat)
    (params : List Value) :
    (placeholder table column n).value row params = params.getD (n - 1) .null := by
  unfold placeholder
  split <;> rfl

/-- The parameter behind `before` has the number that the placeholder
has. -/
theorem getD_next (before after : List Value) (v : Value) :
    (before ++ v :: after).getD (before.length + 1 - 1) .null = v := by
  simp

/-- Placeholders in a row stand for the parameters from the first number on.
-/
theorem map_value_placeholders (table : Table) (column : String) (after : List Value) :
    ∀ vs before : List Value,
      (placeholders table column (before.length + 1) vs).map
          (Operand.value row (before ++ vs ++ after)) = vs
  | [], _ => rfl
  | v :: vs, before => by
      have hvs := map_value_placeholders table column after vs (before ++ [v])
      have hparams : before ++ [v] ++ vs ++ after = before ++ v :: vs ++ after := by simp
      rw [hparams, List.length_append, List.length_singleton] at hvs
      rw [placeholders, List.map_cons, hvs, value_placeholder, List.append_assoc,
        List.cons_append, getD_next]

/-- One is level with the number of true and above the number of false. -/
theorem compare?_one (b : Bool) :
    (Value.nat 1).compare? (.nat b.toNat) = some (if b then .eq else .gt) := by
  have heq : (Double.ofInt 1).compare? (.ofInt 1) = some .eq := by decide +kernel
  have hgt : (Double.ofInt 1).compare? (.ofInt 0) = some .gt := by decide +kernel
  cases b with
  | false => simpa [Value.nat, Value.compare?, Number.toDouble] using hgt
  | true => simpa [Value.nat, Value.compare?, Number.toDouble] using heq

/-- A constant is true or false as it says, on every row. -/
theorem eval_constant (b : Bool) (params : List Value) :
    (Expr.leaf (constant b)).eval row params = .ofBool b := by
  have htruth : compareTruth .eq (Value.nat 1) (.nat b.toNat) = .ofBool b := by
    rw [compareTruth, compare?_one]
    cases b <;> rfl
  exact htruth

mutual

/-- The expression of a condition is true of a row as the condition is,
the parameters having the values that the condition binds. -/
theorem eval_expr (table : Table) (row : Row) (after : List Value) :
    ∀ (c : Condition) (before : List Value),
      (c.expr table (before.length + 1)).eval row (before ++ c.values ++ after)
        = c.eval row
  | always, before => eval_constant true _
  | never, before => eval_constant false _
  | compare column op v, before => by
      simp only [expr, Expr.eval, Predicate.truth, Operand.value, value_placeholder, values,
        List.append_assoc, List.singleton_append, getD_next, eval]
  | like column pattern ignoreCase negated, before => by
      simp only [expr, Expr.eval, Predicate.truth, Operand.value, values,
        List.append_assoc, List.singleton_append, getD_next, patternTruth, eval]
  | isNull column negated, before => rfl
  | inList column vs negated, before => by
      unfold expr
      split
      case isTrue hvs =>
        obtain rfl : vs = [] := List.isEmpty_iff.1 hvs
        rw [eval_constant, eval]
        cases negated <;> rfl
      case isFalse =>
        simp only [Expr.eval, Predicate.truth, Operand.value, values,
          map_value_placeholders, eval]
  | between column low high negated, before => by
      have hhigh := getD_next (before ++ [low]) after high
      rw [List.length_append, List.append_assoc] at hhigh
      have hlow := getD_next before (high :: after) low
      have hparams : before ++ [low, high] ++ after = before ++ low :: high :: after := by
        simp
      simp only [expr, Expr.eval, Predicate.truth, Operand.value, value_placeholder, values,
        hparams, eval, hlow]
      rw [show (before ++ low :: high :: after).getD (before.length + 1 + 1 - 1) .null = high
        from hhigh]
  | and [], before => eval_constant true _
  | and (c :: cs), before => by
      rw [expr, if_neg (by simp), Expr.eval_conjunction, values,
        evalAll_exprAll table row after (c :: cs) before, eval]
  | or [], before => eval_constant false _
  | or (c :: cs), before => by
      rw [expr, if_neg (by simp), Expr.eval_disjunction, values,
        evalAll_exprAll table row after (c :: cs) before, eval]
  | not c, before => by
      rw [expr, Expr.eval, values, eval_expr table row after c before, eval]

/-- The members of a list take the truth values of their conditions, each
with its own parameters. -/
theorem evalAll_exprAll (table : Table) (row : Row) (after : List Value) :
    ∀ (cs : List Condition) (before : List Value),
      Expr.evalAll row (before ++ valuesAll cs ++ after)
          (exprAll table (before.length + 1) cs)
        = evalAll row cs
  | [], _ => rfl
  | c :: cs, before => by
      have hc := eval_expr table row (valuesAll cs ++ after) c before
      have hcs := evalAll_exprAll table row after cs (before ++ c.values)
      have hn : (before ++ c.values).length + 1 = before.length + 1 + c.values.length := by
        rw [List.length_append]
        omega
      rw [hn] at hcs
      rw [exprAll, valuesAll, Expr.evalAll, evalAll, ← hc, ← hcs]
      simp only [List.append_assoc]

end

-- ============================================================== readings

/-- The pieces of a condition, wherever its parameters are numbered from, read
as the expression of the condition and as no other. -/
theorem reads_sql_iff (ht : table.TypesAreWords) (c : Condition) (n : Nat) {e : Expr} :
    e.Reads ((c.sql table).charsFrom n) ↔ e = c.expr table n := by
  have hreads : (c.expr table n).Reads ((c.sql table).charsFrom n) := by
    obtain ⟨ts, hts, he⟩ := sql_readsAs ht c n
    exact ⟨ts, _, hts.read?, .one (.one he), rfl⟩
  constructor
  · exact fun he => he.unique hreads
  · intro h
    rw [h]
    exact hreads

end Condition

end TableApi
