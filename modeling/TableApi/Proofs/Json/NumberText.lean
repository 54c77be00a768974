/-
The text of a number is one literal.

A literal is a sign or none, digits that do not begin with a zero unless it
is all there is, and perhaps a fraction and an exponent (`IsLiteral`). Where
nothing behind it could go on with it, the reader takes all of it and nothing
else (`Literal.read_append`); which number it takes it for is another matter.

Integers are written so, and so are floats: the digits of a float are those
of a coefficient that is not zero, since zero lies below every midpoint of a
double that is not zero itself (`ofMagnitude_pos`).
-/
import TableApi.Json.Literal
import TableApi.Json.Printer
import TableApi.Proofs.Numeric.Decimal
import TableApi.Proofs.Numeric.Integer

namespace TableApi.Json

-- ================================================================ digits

/-- One or more digits. -/
structure IsDigits (cs : List Char) : Prop where
  nonempty : cs ≠ []
  digits : ∀ c ∈ cs, c.isDigit = true

/-- No digit comes next. -/
def NoDigit (rest : List Char) : Prop := ∀ c ∈ rest.head?, c.isDigit = false

/-- The values of digits. -/
def digitValues (cs : List Char) : List Nat := cs.map fun c => c.toNat - '0'.toNat

namespace Literal

/-- Where no digit comes next none is taken. -/
theorem takeDigits_of_noDigit {rest : List Char} (h : NoDigit rest) :
    takeDigits rest = ([], rest) := by
  cases rest with
  | nil => rfl
  | cons c cs =>
      have hc : Decimal.digit? c = none := by
        cases hd : Decimal.digit? c with
        | none => rfl
        | some d => exact absurd (Decimal.isDigit_of_digit? hd) (by simp [h c rfl])
      rw [takeDigits, hc]

/-- Digits are taken up to the first character that is none. -/
theorem takeDigits_append {cs rest : List Char} (hcs : ∀ c ∈ cs, c.isDigit = true)
    (hrest : NoDigit rest) : takeDigits (cs ++ rest) = (digitValues cs, rest) := by
  induction cs with
  | nil => exact takeDigits_of_noDigit hrest
  | cons c cs ih =>
      obtain ⟨hc, hcs⟩ := List.forall_mem_cons.1 hcs
      rw [List.cons_append, takeDigits, Decimal.digit?_of_isDigit hc, ih hcs]
      rfl

-- ============================================================== literals

/-- Digits that do not begin with a zero, or a zero alone. -/
structure IsWhole (cs : List Char) : Prop extends IsDigits cs where
  leading : cs.head? = some '0' → cs = ['0']

/-- The text of a fraction, if there is one, and the digits in it. -/
inductive IsFraction : List Char → Option (List Nat) → Prop
  | absent : IsFraction [] none
  | present {ds : List Char} : IsDigits ds → IsFraction ('.' :: ds) (some (digitValues ds))

/-- The text of an exponent, if there is one, and its value. -/
inductive IsExponent : List Char → Option Int → Prop
  | absent : IsExponent [] none
  | negative {ds : List Char} : IsDigits ds →
      IsExponent ('e' :: '-' :: ds) (some (-(value (digitValues ds) : Int)))
  | positive {ds : List Char} : IsDigits ds →
      IsExponent ('e' :: '+' :: ds) (some (value (digitValues ds) : Int))

/-- The text of a literal, and what it denotes. -/
inductive IsLiteral : List Char → Option Number → Prop
  | positive {whole fraction exponent : List Char} {f : Option (List Nat)} {e : Option Int} :
      IsWhole whole → IsFraction fraction f → IsExponent exponent e →
        IsLiteral (whole ++ fraction ++ exponent)
          (number? ⟨false, digitValues whole, f.getD [], e⟩ f.isSome)
  | negative {whole fraction exponent : List Char} {f : Option (List Nat)} {e : Option Int} :
      IsWhole whole → IsFraction fraction f → IsExponent exponent e →
        IsLiteral ('-' :: (whole ++ fraction ++ exponent))
          (number? ⟨true, digitValues whole, f.getD [], e⟩ f.isSome)

/-- A literal ends before this text. -/
def Ends (rest : List Char) : Prop :=
  ∀ c ∈ rest.head?, c.isDigit = false ∧ c ≠ '.' ∧ c ≠ 'e' ∧ c ≠ 'E'

theorem ends_nil : Ends [] := nofun

/-- Of the digits only zero has the value zero. -/
theorem digitValue_ne_zero {c : Char} (h : c.isDigit = true) (hzero : c ≠ '0') :
    c.toNat - '0'.toNat ≠ 0 := by
  intro heq
  simp only [Char.isDigit, Bool.and_eq_true, decide_eq_true_eq] at h
  have hlow : '0'.toNat ≤ c.toNat := h.1
  exact hzero (Char.toNat_inj.1 (by omega))

/-- The whole part of a literal is taken as far as it goes. -/
theorem takeWhole_append {cs rest : List Char} (h : IsWhole cs) (hrest : NoDigit rest) :
    takeWhole (cs ++ rest) = some (digitValues cs, rest) := by
  rw [takeWhole, takeDigits_append h.digits hrest]
  match cs, h with
  | [], h => exact absurd rfl h.nonempty
  | [c], _ =>
      simp only [digitValues, List.map_cons, List.map_nil]
      cases c.toNat - '0'.toNat <;> rfl
  | c :: d :: cs, h =>
      have hzero : c ≠ '0' := by
        intro heq
        cases h.leading (congrArg some heq)
      have hvalue := digitValue_ne_zero (h.digits c List.mem_cons_self) hzero
      obtain ⟨k, hk⟩ := Nat.exists_eq_succ_of_ne_zero hvalue
      simp only [digitValues, List.map_cons, hk]

/-- The fraction of a literal is taken, or the lack of one. -/
theorem takeFraction_append {cs rest : List Char} {f : Option (List Nat)} (h : IsFraction cs f)
    (hdigit : NoDigit rest) (hpoint : rest.head? ≠ some '.') :
    takeFraction (cs ++ rest) = some (f, rest) := by
  cases h with
  | absent =>
      rw [List.nil_append]
      unfold takeFraction
      split
      · exact absurd rfl hpoint
      · rfl
  | @present ds hds =>
      rw [List.cons_append, takeFraction, takeDigits_append hds.digits hdigit]
      cases ds with
      | nil => exact absurd rfl hds.nonempty
      | cons d ds => rfl

/-- The digits of an exponent are taken as its value, with the sign in
front. -/
theorem takeExponentDigits_append {ds rest : List Char} (h : IsDigits ds) (hrest : NoDigit rest)
    (negative : Bool) :
    takeExponentDigits negative (ds ++ rest)
      = some (some (if negative then -(value (digitValues ds) : Int) else value (digitValues ds)),
          rest) := by
  rw [takeExponentDigits, takeDigits_append h.digits hrest]
  cases ds with
  | nil => exact absurd rfl h.nonempty
  | cons d ds => rfl

/-- The exponent of a literal is taken, or the lack of one. -/
theorem takeExponent_append {cs rest : List Char} {e : Option Int} (h : IsExponent cs e)
    (hrest : Ends rest) : takeExponent (cs ++ rest) = some (e, rest) := by
  have hdigit : NoDigit rest := fun c hc => (hrest c hc).1
  cases h with
  | absent =>
      rw [List.nil_append]
      unfold takeExponent
      split
      all_goals first
        | rfl
        | exact absurd rfl (hrest _ rfl).2.2.1
        | exact absurd rfl (hrest _ rfl).2.2.2
  | negative hds => exact takeExponentDigits_append hds hdigit true
  | positive hds => exact takeExponentDigits_append hds hdigit false

/-- No digit comes behind the digits before the point, and no second point
behind the fraction. -/
theorem ends_parts {fraction exponent rest : List Char} {f : Option (List Nat)} {e : Option Int}
    (hfraction : IsFraction fraction f) (hexponent : IsExponent exponent e) (hrest : Ends rest) :
    NoDigit (fraction ++ (exponent ++ rest))
      ∧ NoDigit (exponent ++ rest) ∧ (exponent ++ rest).head? ≠ some '.' := by
  have hmark : NoDigit (exponent ++ rest) ∧ (exponent ++ rest).head? ≠ some '.' := by
    cases hexponent with
    | absent => exact ⟨fun c hc => (hrest c hc).1, fun hpoint => (hrest '.' hpoint).2.1 rfl⟩
    | negative | positive =>
        refine ⟨fun c hc => ?_, nofun⟩
        obtain rfl : 'e' = c := Option.some.inj hc
        rfl
  refine ⟨?_, hmark⟩
  cases hfraction with
  | absent => exact hmark.1
  | present =>
      intro c hc
      obtain rfl : '.' = c := Option.some.inj hc
      rfl

/-- A literal is read to its end, whatever is behind it. -/
theorem read_append {cs rest : List Char} {n : Option Number} (h : IsLiteral cs n)
    (hrest : Ends rest) : read (cs ++ rest) = some (n, rest) := by
  have hparts : ∀ {whole fraction exponent : List Char} {f : Option (List Nat)} {e : Option Int},
      IsWhole whole → IsFraction fraction f → IsExponent exponent e →
      takeWhole (whole ++ fraction ++ exponent ++ rest)
          = some (digitValues whole, fraction ++ (exponent ++ rest))
        ∧ takeFraction (fraction ++ (exponent ++ rest)) = some (f, exponent ++ rest)
        ∧ takeExponent (exponent ++ rest) = some (e, rest) := by
    intro whole fraction exponent f e hwhole hfraction hexponent
    obtain ⟨hdigit, hdigit', hpoint⟩ := ends_parts hfraction hexponent hrest
    refine ⟨?_, takeFraction_append hfraction hdigit' hpoint,
      takeExponent_append hexponent hrest⟩
    rw [List.append_assoc, List.append_assoc]
    exact takeWhole_append hwhole hdigit
  cases h with
  | @positive whole fraction exponent f e hwhole hfraction hexponent =>
      obtain ⟨htakeWhole, htakeFraction, htakeExponent⟩ := hparts hwhole hfraction hexponent
      have hsign : ∀ cs, whole ++ fraction ++ exponent ++ rest ≠ '-' :: cs := by
        intro cs heq
        cases whole with
        | nil => exact hwhole.nonempty rfl
        | cons c whole =>
            obtain rfl := (List.cons.inj heq).1
            exact absurd (hwhole.digits '-' List.mem_cons_self) (by decide)
      unfold read
      split
      next sign cs heq =>
        split at heq
        · next hminus => exact absurd hminus (hsign _)
        · obtain ⟨rfl, rfl⟩ := Prod.mk.inj heq
          simp only [htakeWhole, htakeFraction, htakeExponent]
  | negative hwhole hfraction hexponent =>
      obtain ⟨htakeWhole, htakeFraction, htakeExponent⟩ := hparts hwhole hfraction hexponent
      rw [List.cons_append, read]
      simp only [htakeWhole, htakeFraction, htakeExponent]

end Literal

-- ================================================================= digits

open Literal

/-- The decimal text of a number has digits only. -/
theorem isDigits_digits (n : Nat) : IsDigits (Decimal.digits n) :=
  ⟨Decimal.digits_ne_nil n, fun _ => Decimal.isDigit_of_mem_digits⟩

/-- The digits of a number do not begin with a zero, unless it is zero. -/
theorem head_digits {n : Nat} (h : 0 < n) : (Decimal.digits n).head? ≠ some '0' := by
  induction n using Nat.strongRecOn with
  | ind n ih =>
      rw [Decimal.digits, Nat.toDigits_eq_if (by decide)]
      by_cases hn : n < 10
      · have hall : ∀ d < 10, 0 < d → [Nat.digitChar d].head? ≠ some '0' := by decide
        rw [if_pos hn]
        exact hall n hn h
      · have hrest := ih (n / 10) (by omega) (by omega)
        obtain ⟨c, cs, hcs⟩ := List.exists_cons_of_ne_nil (Decimal.digits_ne_nil (n / 10))
        rw [hcs] at hrest
        rw [if_neg hn, ← Decimal.digits, hcs]
        exact hrest

/-- The decimal text of a number has no zero in front. -/
theorem isWhole_digits (n : Nat) : IsWhole (Decimal.digits n) := by
  refine ⟨isDigits_digits n, fun hzero => ?_⟩
  rcases Nat.eq_zero_or_pos n with rfl | hpos
  · rfl
  · exact absurd hzero (head_digits hpos)

/-- The text of an integer is a literal. -/
theorem isLiteral_intText (n : Int) : ∃ number, IsLiteral (intText n) number := by
  have htext : ∀ ds : List Char, ds ++ [] ++ [] = ds := by simp
  unfold intText
  split
  · have hliteral := IsLiteral.negative (isWhole_digits n.natAbs) .absent .absent
    rw [htext] at hliteral
    exact ⟨_, hliteral⟩
  · have hliteral := IsLiteral.positive (isWhole_digits n.natAbs) .absent .absent
    rw [htext] at hliteral
    exact ⟨_, hliteral⟩

-- ================================================================= floats

/-- Digits in front of digits are digits. -/
theorem isDigits_append {ds es : List Char} (hds : ∀ c ∈ ds, c.isDigit = true)
    (hes : IsDigits es) : IsDigits (ds ++ es) where
  nonempty := List.append_ne_nil_of_right_ne_nil ds hes.nonempty
  digits := List.forall_mem_append.2 ⟨hds, hes.digits⟩

theorem isDigits_zero : IsDigits ['0'] := ⟨nofun, List.forall_mem_singleton.2 rfl⟩

theorem isWhole_zero : IsWhole ['0'] := ⟨isDigits_zero, fun _ => rfl⟩

/-- Zeros are digits. -/
theorem isDigit_zeros (n : Nat) : ∀ c ∈ zeros n, c.isDigit = true := by
  intro c hc
  rw [List.eq_of_mem_replicate hc]
  rfl

/-- The text of a literal without a sign. -/
def IsUnsigned (cs : List Char) : Prop :=
  ∃ whole fraction exponent f e, IsWhole whole ∧ IsFraction fraction f ∧ IsExponent exponent e
    ∧ cs = whole ++ fraction ++ exponent

/-- A literal without a sign may have one in front. -/
theorem IsUnsigned.signed {cs : List Char} (h : IsUnsigned cs) (negative : Bool) :
    ∃ number, IsLiteral ((if negative then ['-'] else []) ++ cs) number := by
  obtain ⟨whole, fraction, exponent, f, e, hwhole, hfraction, hexponent, rfl⟩ := h
  cases negative with
  | false => exact ⟨_, .positive hwhole hfraction hexponent⟩
  | true => exact ⟨_, .negative hwhole hfraction hexponent⟩

section Digits

variable {ds : List Char}

/-- Digits that are not those of zero, with the point after the first
`e + 1`. -/
theorem isUnsigned_positional (hds : IsDigits ds) (hfirst : ds.head? ≠ some '0') (e : Int) :
    IsUnsigned (positional ds e) := by
  obtain ⟨d, tail, rfl⟩ := List.exists_cons_of_ne_nil hds.nonempty
  unfold positional
  split
  case isTrue =>
    refine ⟨['0'], '.' :: (zeros (-e - 1).toNat ++ (d :: tail)), [], _, _, isWhole_zero,
      .present (isDigits_append (isDigit_zeros _) hds), .absent, ?_⟩
    simp
  case isFalse he =>
    obtain ⟨k, hk⟩ : ∃ k, (e + 1).toNat = k + 1 := ⟨e.toNat, by omega⟩
    have hwhole : IsWhole ((d :: tail).take (k + 1) ++ zeros (k + 1 - (d :: tail).length)) := by
      refine ⟨⟨nofun, List.forall_mem_append.2 ⟨?_, isDigit_zeros _⟩⟩, ?_⟩
      · exact fun c hc => hds.digits c (List.mem_of_mem_take hc)
      · exact fun hzero => absurd hzero hfirst
    have hfraction : IsDigits
        (if ((d :: tail).drop (k + 1)).isEmpty then ['0'] else (d :: tail).drop (k + 1)) := by
      split
      case isTrue => exact isDigits_zero
      case isFalse hne =>
        refine ⟨fun hnil => hne (by rw [hnil]; rfl), ?_⟩
        exact fun c hc => hds.digits c (List.mem_of_mem_drop hc)
    rw [hk]
    refine ⟨_, _, [], _, _, hwhole, .present hfraction, .absent, ?_⟩
    simp

/-- Digits that are not those of zero, with the point after the first. -/
theorem isUnsigned_scientific (hds : IsDigits ds) (hfirst : ds.head? ≠ some '0') (e : Int) :
    IsUnsigned (scientific ds e) := by
  obtain ⟨d, tail, rfl⟩ := List.exists_cons_of_ne_nil hds.nonempty
  obtain ⟨hd, htail⟩ := List.forall_mem_cons.1 hds.digits
  have hwhole : IsWhole [d] :=
    ⟨⟨nofun, List.forall_mem_singleton.2 hd⟩, fun hzero => absurd hzero hfirst⟩
  have hfraction : ∃ f, IsFraction (if tail.isEmpty then [] else '.' :: tail) f := by
    cases tail with
    | nil => exact ⟨_, .absent⟩
    | cons t tail => exact ⟨_, .present ⟨nofun, htail⟩⟩
  have hexponent : ∃ v, IsExponent
      ('e' :: (if e < 0 then '-' else '+') :: Decimal.digits e.natAbs) v := by
    split
    · exact ⟨_, .negative (isDigits_digits _)⟩
    · exact ⟨_, .positive (isDigits_digits _)⟩
  obtain ⟨f, hf⟩ := hfraction
  obtain ⟨v, hv⟩ := hexponent
  refine ⟨[d], _, _, f, v, hwhole, hf, hv, ?_⟩
  simp [scientific]

end Digits

end TableApi.Json

namespace TableApi.Shortest

/-- The midpoint below a positive magnitude is positive. -/
theorem lowerMid_pos {m : Nat} (h : 0 < m) : 0 < lowerMid m := by
  have hscaled : 0 < Double.scaled m := by
    unfold Double.scaled
    split
    · exact h
    · have hbinade : 0 < Double.binade := by decide
      rw [Nat.shiftLeft_eq]
      exact Nat.mul_pos (Nat.add_pos_left hbinade _) (Nat.two_pow_pos _)
  exact Nat.add_pos_right _ hscaled

/-- Zero does not read back as a double that is not zero. -/
theorem readsBack_zero {m d : Nat} (hm : 0 < m) (hd : 0 < d) : readsBack m 0 d = false := by
  have hmid : 0 < lowerMid m * d := Nat.mul_pos (lowerMid_pos hm) hd
  unfold readsBack
  split
  · exact decide_eq_false fun h => Nat.not_le.2 hmid h.1
  · exact decide_eq_false fun h => Nat.not_lt_zero _ h.1

/-- A point that reads back as a positive magnitude is not zero. -/
theorem onGrid_pos {m places : Nat} {point : Point} (hm : 0 < m)
    (h : onGrid m places = some point) : 0 < point.coefficient := by
  unfold onGrid at h
  extract_lets unit up down n d below hits nearer at h
  have hdown : 0 < down := Nat.pow_pos (by decide)
  have hbelow : hits below = true → 0 < below := by
    intro hhits
    refine Nat.pos_of_ne_zero fun hzero => ?_
    rw [hzero] at hhits
    have hmiss : hits 0 = false := by
      show readsBack m ((0 * up) <<< 1075) down = false
      rw [Nat.zero_mul, Nat.zero_shiftLeft]
      exact readsBack_zero hm hdown
    rw [hmiss] at hhits
    cases hhits
  have hnearer : below ≤ nearer := Double.div_le_divNearest n d
  clear_value below nearer
  split at h
  next hfirst _ =>
    obtain rfl := Option.some.inj h
    exact Nat.lt_of_lt_of_le (hbelow hfirst) hnearer
  next hfirst _ =>
    obtain rfl := Option.some.inj h
    exact hbelow hfirst
  · obtain rfl := Option.some.inj h
    exact Nat.succ_pos below
  · cases h

/-- Taking zeros off the end leaves a positive number positive. -/
theorem trim_pos {coefficient : Nat} (exponent : Int) (h : 0 < coefficient) :
    0 < (trim coefficient exponent).coefficient := by
  induction coefficient, exponent using trim.induct with
  | case1 coefficient exponent hzeros ih =>
      rw [trim, if_pos hzeros]
      exact ih (by omega)
  | case2 coefficient exponent hzeros =>
      rw [trim, if_neg hzeros]
      exact h

/-- What is found for a double that is not zero is not zero. -/
theorem ofMagnitude_pos {m : Nat} (h : 0 < m) :
    0 < (ofMagnitude m).coefficient ∨ ofMagnitude m = ⟨0, 0⟩ := by
  unfold ofMagnitude
  split
  next found hfound =>
    obtain ⟨i, -, hgrid⟩ := List.exists_of_findSome?_eq_some hfound
    exact .inl (trim_pos found.exponent (onGrid_pos h hgrid))
  · exact .inr rfl

end TableApi.Shortest

namespace TableApi.Json

open Literal

/-- The text of a float is a literal. -/
theorem isLiteral_floatText (x : Double) : ∃ number, IsLiteral (floatText x) number := by
  have hzero : IsUnsigned ['0', '.', '0'] :=
    ⟨['0'], ['.', '0'], [], _, _, isWhole_zero, .present isDigits_zero, .absent, rfl⟩
  unfold floatText
  extract_lets sign point ds e
  split
  case isTrue => exact hzero.signed x.negative
  case isFalse hmagnitude =>
    have hpos : 0 < x.magnitude := Nat.pos_of_ne_zero fun h => hmagnitude (decide_eq_true h)
    have hpoint : 0 < point.coefficient ∨ point = ⟨0, 0⟩ := Shortest.ofMagnitude_pos hpos
    refine IsUnsigned.signed ?_ x.negative
    clear_value point
    rcases hpoint with hcoefficient | rfl
    · split
      · exact isUnsigned_positional (isDigits_digits _) (head_digits hcoefficient) _
      · exact isUnsigned_scientific (isDigits_digits _) (head_digits hcoefficient) _
    · exact hzero

-- ================================================================ reading

namespace Literal

/-- More digits make a number no less. -/
theorem le_foldl_digits (ds : List Nat) : ∀ n : Nat, n ≤ ds.foldl (fun n d => n * 10 + d) n := by
  induction ds with
  | nil => exact Nat.le_refl
  | cons d ds ih =>
      intro n
      exact Nat.le_trans (by omega) (ih (n * 10 + d))

/-- Digits fit as long as the number they make fits. -/
theorem takeFitting_of_le {ds : List Nat} :
    ∀ {n : Nat}, ds.foldl (fun n d => n * 10 + d) n ≤ nat64Max →
      takeFitting n ds = (ds.foldl (fun n d => n * 10 + d) n, []) := by
  induction ds with
  | nil => exact fun _ => rfl
  | cons d ds ih =>
      intro n h
      rw [takeFitting, if_pos (Nat.le_trans (le_foldl_digits ds _) h)]
      exact ih h

/-- The digits of a number have its value. -/
theorem value_digits (n : Nat) : value (digitValues (Decimal.digits n)) = n := by
  have hvalue : Nat.ofDigitChars 10 (Decimal.digits n) 0 = n := Nat.ofDigitChars_ten_toDigits
  rw [value, digitValues, List.foldl_map]
  simpa only [Nat.ofDigitChars, Nat.mul_comm] using hvalue

end Literal

namespace Number

/-- The text of any number is a literal. -/
theorem isLiteral_text : ∀ n : Number, ∃ number, IsLiteral n.text number
  | .int n => isLiteral_intText n
  | .float x => isLiteral_floatText x

/-- The number that the text of a number is read as. -/
def reread? (n : Number) : Option Number := (Literal.read n.text).bind Prod.fst

/-- The text of a number is read to its end and no further. -/
theorem read_text_append (n : Number) {rest : List Char} (h : Ends rest) :
    Literal.read (n.text ++ rest) = some (n.reread?, rest) := by
  obtain ⟨number, hliteral⟩ := n.isLiteral_text
  have hread : Literal.read n.text = some (number, []) := by
    have halone := read_append hliteral ends_nil
    rwa [List.append_nil] at halone
  rw [reread?, hread, read_append hliteral h]
  rfl

/-- A number without a sign is read as it is if a word of 64 bits holds
it. -/
theorem reread?_natCast {n : Nat} (h : n ≤ nat64Max) : (Number.int n).reread? = some (.int n) := by
  have htext : (Number.int n).text = Decimal.digits n ++ [] ++ [] := by
    rw [Number.text, intText, if_neg (by omega), List.append_nil, List.append_nil]
    rfl
  have hfitting : takeFitting 0 (digitValues (Decimal.digits n)) = (n, []) := by
    have hvalue := value_digits n
    have hfit := takeFitting_of_le (n := 0) (Nat.le_trans (Nat.le_of_eq hvalue) h)
    rwa [← value, hvalue] at hfit
  have hread := read_append (.positive (isWhole_digits n) .absent .absent) ends_nil
  rw [List.append_nil, ← htext] at hread
  rw [reread?, hread]
  simp only [Option.bind_some, number?, hfitting]
  rfl

end Number

end TableApi.Json
