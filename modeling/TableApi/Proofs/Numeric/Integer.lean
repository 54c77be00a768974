/-
Integers as doubles.

The double nearest to an integer is always a number, and two integers
compare as equal exactly if they have the same double. That is equality
of the integers while one of them has at most 53 bits: then it is its
own double, and the doubles of all longer integers are larger.

# The magnitude of an integer

A positive integer `m` of at most 53 bits has the magnitude
`(log₂ m + 1022) · 2^52 + m · 2^(52 - log₂ m)`, and the second summand
lies between `2^52` and `2^53` (`roundRatio_of_lt`). So the quotient of the
magnitude by `2^52` gives the length back, and the length the integer.
A longer integer has a magnitude of at least `1076 · 2^52`
(`le_roundRatio`), above all of these.
-/
import Mathlib.Algebra.Group.Nat.Defs
import Mathlib.Tactic.ByContra
import TableApi.Numeric.Double

namespace TableApi.Double

-- ========================================================= the magnitude

theorem roundRatio_le_infinity (n d : Nat) : roundRatio n d ≤ infinity :=
  Nat.min_le_right _ _

theorem log2_shiftLeft {m : Nat} (hm : m ≠ 0) (k : Nat) :
    Nat.log2 (m <<< k) = Nat.log2 m + k := by
  have hpos : m <<< k ≠ 0 := by
    rw [Nat.shiftLeft_eq]
    exact Nat.mul_ne_zero hm (Nat.ne_of_gt (Nat.two_pow_pos k))
  rw [Nat.log2_eq_iff hpos, Nat.shiftLeft_eq]
  constructor
  · rw [Nat.pow_add]
    exact Nat.mul_le_mul_right _ (Nat.log2_self_le hm)
  · rw [show Nat.log2 m + k + 1 = Nat.log2 m + 1 + k by omega, Nat.pow_add]
    exact Nat.mul_lt_mul_of_pos_right Nat.lt_log2_self (Nat.two_pow_pos k)

/-- The magnitude of a positive integer, its coefficient still a rounded
quotient. -/
theorem roundRatio_one {m : Nat} (hm : m ≠ 0) :
    roundRatio m 1
      = min ((Nat.log2 m + 1022) * binade
          + divNearest (m <<< 1074) (1 <<< (Nat.log2 m + 1022))) infinity := by
  have hshift : Nat.log2 (m <<< 1074 / 1) - 52 = Nat.log2 m + 1022 := by
    rw [Nat.div_one, log2_shiftLeft hm]
    omega
  rw [roundRatio, hshift]

theorem div_le_divNearest (n d : Nat) : n / d ≤ divNearest n d := by
  unfold divNearest
  simp only
  split
  · exact Nat.le_refl _
  · split <;> omega

/-- What divides is not rounded. -/
theorem divNearest_mul (q : Nat) {d : Nat} (hd : 0 < d) : divNearest (q * d) d = q := by
  unfold divNearest
  simp [Nat.mul_div_cancel q hd, hd]

theorem roundRatio_pos {m : Nat} (hm : m ≠ 0) : 0 < roundRatio m 1 := by
  rw [roundRatio_one hm]
  refine Nat.lt_min.2 ⟨?_, by decide⟩
  have hbinade : 0 < binade := by decide
  have hpos : 0 < (Nat.log2 m + 1022) * binade := Nat.mul_pos (by omega) hbinade
  omega

/-- The coefficient of an integer of at most 53 bits: its leading bit is
brought to the front. -/
def coefficient (m : Nat) : Nat := m * 2 ^ (52 - Nat.log2 m)

theorem coefficient_bounds {m : Nat} (hm : m ≠ 0) (hlog : Nat.log2 m ≤ 52) :
    binade ≤ coefficient m ∧ coefficient m < 2 * binade := by
  unfold coefficient
  constructor
  · calc binade = 2 ^ Nat.log2 m * 2 ^ (52 - Nat.log2 m) := by
          rw [← Nat.pow_add, Nat.add_sub_cancel' hlog]
          rfl
      _ ≤ m * 2 ^ (52 - Nat.log2 m) := Nat.mul_le_mul_right _ (Nat.log2_self_le hm)
  · calc m * 2 ^ (52 - Nat.log2 m)
        < 2 ^ (Nat.log2 m + 1) * 2 ^ (52 - Nat.log2 m) :=
          Nat.mul_lt_mul_of_pos_right Nat.lt_log2_self (Nat.two_pow_pos _)
      _ = 2 * binade := by
          rw [← Nat.pow_add, show Nat.log2 m + 1 + (52 - Nat.log2 m) = 53 by omega]
          rfl

/-- Shifted up by what the coefficient takes and `t` more, and down by `t`
again, an integer has lost nothing. -/
theorem divNearest_shiftLeft {m t k : Nat} (hk : 52 - Nat.log2 m + t = k) :
    divNearest (m <<< k) (1 <<< t) = coefficient m := by
  have hsplit : m * 2 ^ k = coefficient m * 2 ^ t := by
    rw [coefficient, Nat.mul_assoc, ← Nat.pow_add, hk]
  rw [Nat.shiftLeft_eq, Nat.shiftLeft_eq, Nat.one_mul, hsplit]
  exact divNearest_mul _ (Nat.two_pow_pos _)

/-- An integer of at most 53 bits is not rounded. -/
theorem roundRatio_of_lt {m : Nat} (hm : m ≠ 0) (hlog : Nat.log2 m ≤ 52) :
    roundRatio m 1 = (Nat.log2 m + 1022) * binade + coefficient m := by
  have hquot : divNearest (m <<< 1074) (1 <<< (Nat.log2 m + 1022)) = coefficient m :=
    divNearest_shiftLeft (by omega)
  obtain ⟨-, hlt⟩ := coefficient_bounds hm hlog
  have hle : (Nat.log2 m + 1022) * binade ≤ 1074 * binade :=
    Nat.mul_le_mul_right _ (by omega)
  have hmax : 1074 * binade + 2 * binade ≤ infinity := by decide
  rw [roundRatio_one hm, hquot, Nat.min_eq_left (by omega)]

/-- A longer integer has a magnitude beyond all of these. -/
theorem le_roundRatio {m : Nat} (hlog : 53 ≤ Nat.log2 m) :
    1076 * binade ≤ roundRatio m 1 := by
  have hm : m ≠ 0 := by
    rintro rfl
    exact absurd hlog (by decide)
  have hquot : 2 ^ 52 ≤ divNearest (m <<< 1074) (1 <<< (Nat.log2 m + 1022)) := by
    refine Nat.le_trans ?_ (div_le_divNearest _ _)
    rw [Nat.shiftLeft_eq, Nat.shiftLeft_eq, Nat.one_mul,
      Nat.le_div_iff_mul_le (Nat.two_pow_pos _), ← Nat.pow_add,
      show 52 + (Nat.log2 m + 1022) = Nat.log2 m + 1074 by omega, Nat.pow_add]
    exact Nat.mul_le_mul_right _ (Nat.log2_self_le hm)
  have hbinade : binade = 2 ^ 52 := rfl
  have hle : 1075 * binade ≤ (Nat.log2 m + 1022) * binade :=
    Nat.mul_le_mul_right _ (by omega)
  rw [roundRatio_one hm]
  refine Nat.le_min.2 ⟨by omega, by decide⟩

/-- The double of an integer of at most 53 bits is that of no other
natural number. -/
theorem roundRatio_inj {m n : Nat} (hn : n < 2 ^ 53)
    (h : roundRatio m 1 = roundRatio n 1) : m = n := by
  have hzero : roundRatio 0 1 = 0 := by decide +kernel
  by_cases hn0 : n = 0
  · subst hn0
    by_contra hm
    have hpos := roundRatio_pos hm
    omega
  by_cases hm0 : m = 0
  · subst hm0
    have hpos := roundRatio_pos hn0
    omega
  have hnlog : Nat.log2 n ≤ 52 := Nat.lt_succ_iff.1 ((Nat.log2_lt hn0).2 hn)
  have hnval := roundRatio_of_lt hn0 hnlog
  obtain ⟨hnlow, hnhigh⟩ := coefficient_bounds hn0 hnlog
  have hmlog : Nat.log2 m ≤ 52 := by
    by_contra hlong
    have hlow := le_roundRatio (m := m) (by omega)
    have hle : (Nat.log2 n + 1022) * binade ≤ 1074 * binade :=
      Nat.mul_le_mul_right _ (by omega)
    omega
  have hmval := roundRatio_of_lt hm0 hmlog
  obtain ⟨hmlow, hmhigh⟩ := coefficient_bounds hm0 hmlog
  -- The quotient by a binade gives the length, the remainder the bits.
  have hlog : Nat.log2 m = Nat.log2 n := by
    rcases Nat.lt_trichotomy (Nat.log2 m) (Nat.log2 n) with hlt | heq | hgt
    · have hstep := Nat.mul_le_mul_right binade (show Nat.log2 m + 1 ≤ Nat.log2 n from hlt)
      simp only [Nat.add_mul] at hmval hnval hstep
      omega
    · exact heq
    · have hstep := Nat.mul_le_mul_right binade (show Nat.log2 n + 1 ≤ Nat.log2 m from hgt)
      simp only [Nat.add_mul] at hmval hnval hstep
      omega
  have hcoeff : coefficient m = coefficient n := by
    rw [hmval, hnval, hlog] at h
    exact Nat.add_left_cancel h
  unfold coefficient at hcoeff
  rw [hlog] at hcoeff
  exact Nat.eq_of_mul_eq_mul_right (Nat.two_pow_pos _) hcoeff

-- ========================================================== comparisons

theorem isNaN_ofInt (i : Int) : (ofInt i).isNaN = false := by
  have hle : (ofInt i).magnitude ≤ infinity := roundRatio_le_infinity _ _
  simp only [isNaN, decide_eq_false_iff_not]
  omega

theorem magnitude_ofInt_eq_zero {i : Int} (h : (ofInt i).magnitude = 0) : i = 0 := by
  by_contra hi
  have hpos : 0 < roundRatio i.natAbs 1 := roundRatio_pos (by omega)
  have hzero : roundRatio i.natAbs 1 = 0 := h
  omega

/-- Integers have one place among the doubles only if they have one
double: none of them is the negative zero. -/
theorem rank_ofInt_inj {i j : Int} (h : (ofInt i).rank = (ofInt j).rank) :
    ofInt i = ofInt j := by
  have hzero : ∀ {k l : Int}, k < 0 → ¬ l < 0 →
      (ofInt k).rank ≠ (ofInt l).rank := by
    intro k l hk hl heq
    have hk0 : (ofInt k).magnitude ≠ 0 := fun h0 => by
      have := magnitude_ofInt_eq_zero h0
      omega
    simp only [rank, show (ofInt k).negative = true from decide_eq_true hk,
      show (ofInt l).negative = false from decide_eq_false hl, if_true,
      Bool.false_eq_true, if_false] at heq
    omega
  by_cases hi : i < 0 <;> by_cases hj : j < 0
  · simp only [rank, show (ofInt i).negative = true from decide_eq_true hi,
      show (ofInt j).negative = true from decide_eq_true hj, if_true] at h
    have hmag : (ofInt i).magnitude = (ofInt j).magnitude := by omega
    simp only [ofInt, ofRatio] at hmag ⊢
    rw [hmag, decide_eq_true hi, decide_eq_true hj]
  · exact absurd h (hzero hi hj)
  · exact absurd h.symm (hzero hj hi)
  · simp only [rank, show (ofInt i).negative = false from decide_eq_false hi,
      show (ofInt j).negative = false from decide_eq_false hj, Bool.false_eq_true,
      if_false] at h
    have hmag : (ofInt i).magnitude = (ofInt j).magnitude := by omega
    simp only [ofInt, ofRatio] at hmag ⊢
    rw [hmag, decide_eq_false hi, decide_eq_false hj]

/-- Integers compare as equal exactly if they have the same double. -/
theorem compare?_ofInt_eq_iff {i j : Int} :
    (ofInt i).compare? (ofInt j) = some .eq ↔ ofInt i = ofInt j := by
  unfold compare?
  rw [isNaN_ofInt, isNaN_ofInt]
  simp only [Bool.or_self, Bool.false_eq_true, if_false, Option.some.injEq,
    Std.compare_eq_iff_eq]
  exact ⟨rank_ofInt_inj, fun h => by rw [h]⟩

/-- An integer of at most 53 bits has a double of its own. -/
theorem ofInt_inj_of_lt {i j : Int} (hj : j.natAbs < 2 ^ 53) (h : ofInt i = ofInt j) :
    i = j := by
  have hmag : roundRatio i.natAbs 1 = roundRatio j.natAbs 1 := congrArg magnitude h
  have hsign : decide (i < 0) = decide (j < 0) := congrArg negative h
  have habs := roundRatio_inj hj hmag
  rw [decide_eq_decide] at hsign
  omega

end TableApi.Double
