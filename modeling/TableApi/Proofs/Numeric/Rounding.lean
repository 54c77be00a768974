/-
Numbers, their values and their doubles.

The value of a number is an integer in units of `2 ^ -1074`, the finest
that a double can tell (`Number.exact`). Turning a number into a double
rounds its value to a magnitude (`nearest`), and that magnitude is the
place of the double among all doubles. So what comparing doubles makes of
the values of numbers is what rounding makes of them: it keeps the order,
and it may put two values in one place.

# Why rounding keeps the order

A shift is common to all values of one length, and of two values with one
shift the larger has the larger coefficient (`divNearest_mono`). With the
shift `s` and a coefficient of at most 53 bits no magnitude is above
`(s + 2) · 2^52`, and with a longer one none is below that, so values of
different shifts cannot change places (`nearest_mono`).
-/
import TableApi.Json.Value
import TableApi.Proofs.Numeric.Integer

namespace TableApi

namespace Double

-- ============================================================== rounding

/-- The magnitude nearest to `n / 2 ^ 1074`, not held to the infinity. -/
def nearest (n : Nat) : Nat :=
  (Nat.log2 n - 52) * binade + divNearest n (2 ^ (Nat.log2 n - 52))

/-- The number one in units of `2 ^ -1074`. -/
def one : Nat := 1 <<< 1074

/-- A shift is a product. -/
theorem shiftLeft_eq_mul (m k : Nat) : m <<< k = m * 1 <<< k := by
  rw [Nat.shiftLeft_eq, Nat.shiftLeft_eq, Nat.one_mul]

theorem shiftLeft_pos (k : Nat) : 0 < 1 <<< k := by
  rw [Nat.shiftLeft_eq, Nat.one_mul]
  exact Nat.two_pow_pos k

theorem one_pos : 0 < one := shiftLeft_pos 1074

/-- A natural number is rounded in the finest units. -/
theorem roundRatio_eq_nearest (m : Nat) : roundRatio m 1 = min (nearest (m * one)) infinity := by
  have hone : m <<< 1074 = m * one := shiftLeft_eq_mul m 1074
  rw [roundRatio, Nat.div_one, hone, Nat.shiftLeft_eq, Nat.one_mul]
  rfl

/-- A quotient is rounded up by one at most. -/
theorem divNearest_le (n d : Nat) : divNearest n d ≤ n / d + 1 := by
  unfold divNearest
  simp only
  split
  · omega
  · split <;> omega

/-- Rounding a quotient keeps the order of what is divided. -/
theorem divNearest_mono {m n : Nat} (d : Nat) (h : m ≤ n) : divNearest m d ≤ divNearest n d := by
  rcases Nat.lt_or_eq_of_le (Nat.div_le_div_right h : m / d ≤ n / d) with hlt | heq
  · have hm := divNearest_le m d
    have hn := div_le_divNearest n d
    omega
  · have hm := Nat.div_add_mod m d
    have hn := Nat.div_add_mod n d
    rw [heq] at hm
    have hmod : m % d ≤ n % d := by omega
    unfold divNearest
    simp only [heq]
    split
    · split
      · omega
      · split <;> omega
    · split <;> split
      · omega
      · split <;> omega
      · omega
      · split <;> omega

/-- A number of some binary digits has a magnitude in their binade, or at
the start of the next. -/
theorem nearest_le (n : Nat) : nearest n ≤ (Nat.log2 n - 52 + 2) * binade := by
  have hbits : n < 2 ^ (Nat.log2 n - 52 + 53) :=
    Nat.lt_of_lt_of_le Nat.lt_log2_self (Nat.pow_le_pow_right (by omega) (by omega))
  have hquot : n / 2 ^ (Nat.log2 n - 52) < 2 ^ 53 := by
    rw [Nat.div_lt_iff_lt_mul (Nat.two_pow_pos _), ← Nat.pow_add]
    rwa [Nat.add_comm] at hbits
  have hle := divNearest_le n (2 ^ (Nat.log2 n - 52))
  have hbinade : binade = 2 ^ 52 := rfl
  unfold nearest
  rw [Nat.add_mul]
  omega

/-- A number of some binary digits has no magnitude below their binade. -/
theorem le_nearest {n : Nat} (h : 0 < Nat.log2 n - 52) :
    (Nat.log2 n - 52 + 1) * binade ≤ nearest n := by
  have hn : n ≠ 0 := by
    rintro rfl
    exact absurd h (by decide)
  have hquot : 2 ^ 52 ≤ n / 2 ^ (Nat.log2 n - 52) := by
    rw [Nat.le_div_iff_mul_le (Nat.two_pow_pos _), ← Nat.pow_add]
    exact Nat.le_trans (Nat.pow_le_pow_right (by omega) (by omega)) (Nat.log2_self_le hn)
  have hle := div_le_divNearest n (2 ^ (Nat.log2 n - 52))
  have hbinade : binade = 2 ^ 52 := rfl
  unfold nearest
  rw [Nat.add_mul]
  omega

/-- Rounding keeps the order. -/
theorem nearest_mono {m n : Nat} (h : m ≤ n) : nearest m ≤ nearest n := by
  have hlog : Nat.log2 m ≤ Nat.log2 n := by
    by_cases hm : m = 0
    · subst hm
      simp
    · exact (Nat.le_log2 (by omega)).2 (Nat.le_trans (Nat.log2_self_le hm) h)
  rcases Nat.lt_or_eq_of_le (Nat.sub_le_sub_right hlog 52) with hlt | heq
  · calc nearest m ≤ (Nat.log2 m - 52 + 2) * binade := nearest_le m
      _ ≤ (Nat.log2 n - 52 + 1) * binade := Nat.mul_le_mul_right _ (by omega)
      _ ≤ nearest n := le_nearest (by omega)
  · unfold nearest
    rw [heq]
    exact Nat.add_le_add_left (divNearest_mono _ h) _

/-- The value of a magnitude is rounded to that magnitude. -/
theorem nearest_scaled (k : Nat) : nearest (scaled k) = k := by
  have hbinade : binade = 2 ^ 52 := rfl
  unfold scaled
  split
  case isTrue hk =>
    have hlog : Nat.log2 k - 52 = 0 := by
      by_cases hk0 : k = 0
      · subst hk0
        decide
      · have := (Nat.log2_lt hk0).2 (hbinade ▸ hk)
        omega
    rw [nearest, hlog, Nat.zero_mul, Nat.zero_add]
    simpa using divNearest_mul k Nat.one_pos
  case isFalse hk =>
    have hmod : k % binade < binade := Nat.mod_lt _ (by decide)
    have hdiv : 0 < k / binade := Nat.div_pos (by omega) (by decide)
    have hcoefficient : binade + k % binade ≠ 0 := by omega
    have hlength : Nat.log2 (binade + k % binade) = 52 := by
      rw [Nat.log2_eq_iff hcoefficient]
      omega
    have hshift : Nat.log2 ((binade + k % binade) <<< (k / binade - 1)) - 52 = k / binade - 1 := by
      rw [log2_shiftLeft hcoefficient, hlength]
      omega
    rw [nearest, hshift, Nat.shiftLeft_eq, divNearest_mul _ (Nat.two_pow_pos _), Nat.sub_mul]
    have hsum := Nat.div_add_mod k binade
    have hle := Nat.mul_le_mul_left binade hdiv
    rw [Nat.mul_comm (k / binade) binade]
    omega

/-- The place of the double nearest to `z / 2 ^ 1074`. -/
def place (z : Int) : Int :=
  if z < 0 then -(min (nearest z.natAbs) infinity : Nat)
  else (min (nearest z.natAbs) infinity : Nat)

/-- Rounding keeps the order of integers. -/
theorem place_mono {z w : Int} (h : z ≤ w) : place z ≤ place w := by
  unfold place
  by_cases hz : z < 0 <;> by_cases hw : w < 0
  · rw [if_pos hz, if_pos hw]
    have := nearest_mono (show w.natAbs ≤ z.natAbs by omega)
    omega
  · rw [if_pos hz, if_neg hw]
    omega
  · omega
  · rw [if_neg hz, if_neg hw]
    have := nearest_mono (show z.natAbs ≤ w.natAbs by omega)
    omega

end Double

namespace Json.Number

-- ================================================================ values

/-- The value of a number in units of `2 ^ -1074`. -/
def exact : Number → Int
  | int n => n * Double.one
  | float x => if x.negative then -(Double.scaled x.magnitude) else Double.scaled x.magnitude

/-- The place among the doubles by which a number is compared. -/
def place (n : Number) : Int := n.toDouble.rank

/-- The double of the number is a number. JSON can write no other. -/
def IsNumeric (n : Number) : Prop := n.toDouble.isNaN = false

/-- Numbers of different values that are compared as equal. -/
def Confused (m n : Number) : Prop := m.exact ≠ n.exact ∧ m.place = n.place

variable {m n : Number}

theorem isNumeric_int (i : Int) : IsNumeric (.int i) := Double.isNaN_ofInt i

/-- An integer of at most 53 bits is confused with no other. -/
theorem not_confused_int {i j : Int} (hj : j.natAbs < 2 ^ 53) :
    ¬ Confused (.int i) (.int j) := by
  rintro ⟨hne, hplace⟩
  have heq : i = j := Double.ofInt_inj_of_lt hj (Double.rank_ofInt_inj hplace)
  exact hne (by rw [heq])

/-- Numbers compare as their places do. -/
theorem compare?_toDouble (hm : m.IsNumeric) (hn : n.IsNumeric) :
    m.toDouble.compare? n.toDouble = some (compare m.place n.place) := by
  unfold IsNumeric at hm hn
  rw [Double.compare?, hm, hn]
  rfl

/-- The place of a number is that to which its value is rounded. -/
theorem place_eq (hn : n.IsNumeric) : n.place = Double.place n.exact := by
  cases n with
  | int i =>
      have hone : (0 : Int) < Double.one := Int.natCast_pos.2 Double.one_pos
      have habs : (i * Double.one).natAbs = i.natAbs * Double.one := Int.natAbs_mul _ _
      have hsign : i * Double.one < 0 ↔ i < 0 := by
        constructor
        · intro h
          by_contra hi
          have := Int.mul_nonneg (Int.not_lt.1 hi) (Int.le_of_lt hone)
          omega
        · intro h
          exact Int.mul_neg_of_neg_of_pos h hone
      show (Double.ofInt i).rank = Double.place (i * Double.one)
      rw [Double.place, habs, ← Double.roundRatio_eq_nearest]
      by_cases hi : i < 0
      · have hnegative : (Double.ofInt i).negative = true := decide_eq_true hi
        rw [if_pos (hsign.2 hi), Double.rank, if_pos hnegative]
        rfl
      · have hnegative : ¬ (Double.ofInt i).negative = true := by
          rw [show (Double.ofInt i).negative = false from decide_eq_false hi]
          decide
        rw [if_neg (mt hsign.1 hi), Double.rank, if_neg hnegative]
        rfl
  | float x =>
      have hle : x.magnitude ≤ Double.infinity := Nat.not_lt.1 (of_decide_eq_false hn)
      have hnearest : min (Double.nearest (Double.scaled x.magnitude)) Double.infinity
          = x.magnitude := by
        rw [Double.nearest_scaled, Nat.min_eq_left hle]
      show x.rank = Double.place (exact (.float x))
      rw [Double.rank, Double.place, exact]
      by_cases hnegative : x.negative = true
      · rw [if_pos hnegative, if_pos hnegative, Int.natAbs_neg, Int.natAbs_natCast, hnearest]
        by_cases hzero : Double.scaled x.magnitude = 0
        · -- The negative zero has no negative value, but the place zero.
          have hmagnitude : x.magnitude = 0 := by
            rw [← Double.nearest_scaled x.magnitude, hzero]
            decide
          rw [if_neg (by omega), hmagnitude]
          rfl
        · rw [if_pos (by omega)]
      · rw [if_neg hnegative, if_neg hnegative, if_neg (by omega), Int.natAbs_natCast, hnearest]

/-- Numbers that are not confused are compared by their values. -/
theorem compare_place (hm : m.IsNumeric) (hn : n.IsNumeric) (h : ¬ Confused m n) :
    compare m.place n.place = compare m.exact n.exact := by
  rcases Int.lt_trichotomy m.exact n.exact with hlt | heq | hgt
  · have hle := Double.place_mono (Int.le_of_lt hlt)
    rw [← place_eq hm, ← place_eq hn] at hle
    have hne : m.place ≠ n.place := fun heq => h ⟨by omega, heq⟩
    rw [Std.compare_eq_lt.2 hlt, Std.compare_eq_lt]
    omega
  · rw [place_eq hm, place_eq hn, heq]
    exact (Std.compare_eq_iff_eq.2 rfl).trans (Std.compare_eq_iff_eq.2 rfl).symm
  · have hle := Double.place_mono (Int.le_of_lt hgt)
    rw [← place_eq hm, ← place_eq hn] at hle
    have hne : m.place ≠ n.place := fun heq => h ⟨by omega, heq⟩
    rw [Std.compare_eq_gt.2 hgt, Std.compare_eq_gt]
    omega

end Json.Number

end TableApi
