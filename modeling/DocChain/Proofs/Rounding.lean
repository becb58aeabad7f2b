import DocChain.Proofs.FloatArithmetic
import DocChain.Number.Shortest

/-!
# Rounding of quotients

A quotient of floats is computed exactly and rounded once, to the nearest mantissa. If it lies in the interval
of a normal float it becomes that float (`div_of_near`), so a decimal in the interval is read as the float
(`ofScientific_of_near`), by either of the ways in which a decimal is read.
-/

namespace DocChain

open Float.Model Float.Model.UnpackedFloat

/-! ### Intervals over a common denominator -/

namespace Shortest.Interval

/-- Whether `n / d` quarters of the last place lie in the interval. -/
def Between (i : Interval) (d n : Nat) : Prop :=
  if i.closed then i.low * d ≤ n ∧ n ≤ i.high * d else i.low * d < n ∧ n < i.high * d

section
variable {i : Interval} {d n : Nat}

theorem holds_iff (place : Int) : i.holds place n = true ↔
    i.Between (factors i.unit place).1 (n * (factors i.unit place).2) := by
  unfold holds Between
  dsimp only
  split <;> simp

theorem Between.low_le (between : i.Between d n) : i.low * d ≤ n := by
  unfold Between at between
  split at between <;> omega

theorem Between.le_high (between : i.Between d n) : n ≤ i.high * d := by
  unfold Between at between
  split at between <;> omega

theorem between_scale {c : Nat} (positive : 0 < c) : i.Between (d * c) (n * c) ↔ i.Between d n := by
  unfold Between
  simp only [← Nat.mul_assoc, Nat.mul_le_mul_right_iff positive, Nat.mul_lt_mul_right positive]

end

end Shortest.Interval

namespace Binary64

open Shortest

/-- Equal quotients over each other's denominators. -/
theorem crossed_of_eq {n d n' d' x y : ℕ} {unit : ℤ} (d_pos : 0 < d) (d'_pos : 0 < d')
    (same : (n' : ℚ) / d' * 2 ^ (unit + x - y) = n / d * 2 ^ unit) : n' * d * 2 ^ x = n * d' * 2 ^ y := by
  have power : (2 : ℚ) ^ unit ≠ 0 := ne_of_gt (two_zpow_pos unit)
  have down : ((2 ^ y : ℕ) : ℚ) ≠ 0 := cast_pow_ne_zero two_pos y
  have denominator : (d : ℚ) ≠ 0 := Nat.cast_ne_zero.mpr (Nat.ne_of_gt d_pos)
  have denominator' : (d' : ℚ) ≠ 0 := Nat.cast_ne_zero.mpr (Nat.ne_of_gt d'_pos)
  have exponent : (2 : ℚ) ^ (unit + x - y) = (2 ^ x : ℕ) / (2 ^ y : ℕ) * 2 ^ unit := by
    rw [zpow_sub₀ two_ne_zero, two_zpow_add, cast_two_pow y, div_mul_eq_mul_div]
  rw [exponent, ← mul_assoc, mul_left_inj' power, div_mul_div_comm,
    div_eq_div_iff (mul_ne_zero denominator' down) denominator] at same
  have crossed : n' * 2 ^ x * d = n * (d' * 2 ^ y) := by exact_mod_cast same
  rw [Nat.mul_right_comm, crossed, Nat.mul_assoc]

/-- Whether `n / d * 2 ^ unit` lies in the interval of `m * 2 ^ e`, compared over all powers of two that
make the difference of the exponents. -/
def Near (m : Nat) (e : Int) (n d : Nat) (unit : Int) : Prop :=
  ∀ up down : Nat, (up : Int) - down = unit - (e - 2) → (interval m e).Between (d * 2 ^ down) (n * 2 ^ up)

section
variable {m n d n' d' : Nat} {e unit unit' : Int}

/-- One comparison makes all the others. -/
theorem Near.of_between (up down : Nat) (same : (up : Int) - down = unit - (e - 2))
    (between : (interval m e).Between (d * 2 ^ down) (n * 2 ^ up)) : Near m e n d unit := by
  intro up' down' same'
  have crossed : up' + down = up + down' := by omega
  rw [← Interval.between_scale (c := 2 ^ down) (Nat.two_pow_pos _)]
  have numerator : n * 2 ^ up' * 2 ^ down = n * 2 ^ up * 2 ^ down' := by
    rw [Nat.mul_assoc, Nat.mul_assoc, ← Nat.pow_add, ← Nat.pow_add, crossed]
  rw [numerator, Nat.mul_right_comm, Interval.between_scale (Nat.two_pow_pos _)]
  exact between

/-- The same quotient over another denominator. -/
theorem Near.congr (near : Near m e n d unit) (d_pos : 0 < d) (d'_pos : 0 < d')
    (same : (n' : ℚ) / d' * 2 ^ unit' = n / d * 2 ^ unit) : Near m e n' d' unit' := by
  obtain ⟨x, y, moved⟩ : ∃ x y : ℕ, unit' = unit + x - y := ⟨(unit' - unit).toNat, (unit - unit').toNat, by omega⟩
  rw [moved] at same
  have crossed := crossed_of_eq d_pos d'_pos same
  let up := (unit - (e - 2)).toNat
  let down := (-(unit - (e - 2))).toNat
  have between := near up down (by omega)
  refine .of_between (up + x) (down + y) (by omega) ?_
  rw [← Interval.between_scale (Nat.mul_pos d'_pos (Nat.two_pow_pos y))] at between
  rw [← Interval.between_scale d_pos]
  have numerator : n' * 2 ^ (up + x) * d = n * 2 ^ up * (d' * 2 ^ y) := by
    calc n' * 2 ^ (up + x) * d = n' * d * 2 ^ x * 2 ^ up := by grind
      _ = n * 2 ^ up * (d' * 2 ^ y) := by
        rw [crossed]
        grind
  have denominator : d' * 2 ^ (down + y) * d = d * 2 ^ down * (d' * 2 ^ y) := by grind
  rw [numerator, denominator]
  exact between

end

/-! ### Rounding to a whole number -/

/-- A quotient within half a unit of a whole number is rounded to it; half a unit off, to an even one. -/
theorem divHalfEven_eq {n d m : Nat} (positive : 0 < d)
    (near : 2 * (d * m) < 2 * n + d ∧ 2 * n < 2 * (d * m) + d ∨
      m % 2 = 0 ∧ 2 * (d * m) ≤ 2 * n + d ∧ 2 * n ≤ 2 * (d * m) + d) : Decimal.divHalfEven n d = m := by
  have split := Nat.div_add_mod n d
  have small := Nat.mod_lt n positive
  have cases : m = n / d ∨ m = n / d + 1 := by
    have below : d * (n / d) < d * (m + 1) := by
      rw [Nat.mul_add, Nat.mul_one]
      omega
    have above : d * m < d * (n / d + 2) := by
      rw [Nat.mul_add]
      omega
    have := Nat.lt_of_mul_lt_mul_left below
    have := Nat.lt_of_mul_lt_mul_left above
    omega
  unfold Decimal.divHalfEven
  dsimp only
  rcases cases with rfl | rfl
  · rw [if_neg]
    simp only [Bool.or_eq_true, Bool.and_eq_true, decide_eq_true_eq]
    omega
  · rw [Nat.mul_add, Nat.mul_one] at near
    rw [if_pos]
    simp only [Bool.or_eq_true, Bool.and_eq_true, decide_eq_true_eq]
    omega

/-! ### Normal floats -/

/-- A normal float that is not near the least ones. -/
structure Normal (m : Nat) (e : Int) : Prop where
  low : 2 ^ 52 ≤ m
  high : m < 2 ^ 53
  least : -1072 ≤ e

section
variable {n d m : Nat} {e unit : Int}

theorem Normal.log2 (normal : Normal m e) : m.log2 = 52 := by
  have low := normal.low
  have high := normal.high
  rw [Nat.log2_eq_iff (by omega)]
  exact ⟨low, high⟩

/-- The ends of the interval in quarters of the last place. -/
theorem Normal.ends (normal : Normal m e) :
    (interval m e).high = 4 * m + 2 ∧
      (m = 2 ^ 52 ∧ (interval m e).low = 4 * m - 1 ∨ m ≠ 2 ^ 52 ∧ (interval m e).low = 4 * m - 2) := by
  have least := normal.least
  refine ⟨rfl, ?_⟩
  simp only [interval]
  by_cases first : m = 2 ^ 52
  · exact .inl ⟨first, if_pos ⟨first, by omega⟩⟩
  · exact .inr ⟨first, if_neg fun h => first h.1⟩

section
variable (near : Near m e n d unit) (normal : Normal m e)
include near normal

/-- The unit of a quotient with at least 53 binary digits is not above that of the float. -/
theorem Near.unit_le (low : 2 ^ 52 * d ≤ n) (positive : 0 < d) : unit ≤ e := by
  obtain ⟨highEnd, _⟩ := normal.ends
  have := normal.high
  by_cases above : e < unit
  · obtain ⟨j, rfl⟩ : ∃ j : Nat, unit = e + 1 + j := ⟨(unit - e - 1).toNat, by omega⟩
    have end_ := (near (j + 3) 0 (by omega)).le_high
    have digits : n * 2 ^ 3 ≤ n * 2 ^ (j + 3) :=
      Nat.mul_le_mul_left n (Nat.pow_le_pow_right (by decide) (by omega))
    have bound : (interval m e).high * (d * 2 ^ 0) ≤ (2 ^ 55 - 2) * d := by
      rw [highEnd, Nat.pow_zero, Nat.mul_one]
      exact Nat.mul_le_mul_right d (by omega)
    omega
  · omega

/-- The unit of a quotient with at most 53 binary digits is at least half that of the float. -/
theorem Near.le_unit (high : n < 2 ^ 53 * d) : e ≤ unit + 1 := by
  obtain ⟨_, lowEnd⟩ := normal.ends
  have := normal.low
  by_cases above : unit + 1 < e
  · obtain ⟨j, rfl⟩ : ∃ j : Nat, e = unit + 2 + j := ⟨(e - unit - 2).toNat, by omega⟩
    have end_ := (near 2 (j + 2) (by omega)).low_le
    have digits : d * 2 ^ 2 ≤ d * 2 ^ (j + 2) :=
      Nat.mul_le_mul_left d (Nat.pow_le_pow_right (by decide) (by omega))
    have bound : (2 ^ 54 - 1) * (d * 2 ^ 2) ≤ (interval m (unit + 2 + j)).low * (d * 2 ^ (j + 2)) :=
      Nat.mul_le_mul (by omega) digits
    omega
  · omega

/-- In the unit of the float the quotient is rounded to its mantissa. -/
theorem Near.divHalfEven (positive : 0 < d) (same : e = unit) : Decimal.divHalfEven n d = m := by
  obtain rfl := same
  obtain ⟨highEnd, lowEnd⟩ := normal.ends
  have between := near 2 0 (by omega)
  have high : (interval m e).high * (d * 2 ^ 0) = 4 * (d * m) + 2 * d := by
    rw [highEnd]
    grind
  have low : 4 * (d * m) ≤ (interval m e).low * (d * 2 ^ 0) + 2 * d := by
    have bound : 4 * m ≤ (interval m e).low + 2 := by omega
    have scaled := Nat.mul_le_mul_right d bound
    grind
  have even : (interval m e).closed = decide (m % 2 = 0) := rfl
  apply divHalfEven_eq positive
  by_cases closed : m % 2 = 0
  · have := between.low_le
    have := between.le_high
    exact .inr ⟨closed, by omega, by omega⟩
  · rw [Interval.Between, even, decide_eq_false closed, if_neg (by decide)] at between
    exact .inl ⟨by omega, by omega⟩

/-- In half the unit of the float the quotient fills its last binary digit, which only happens below the least
mantissa. -/
theorem Near.divHalfEven_carry (positive : 0 < d) (high : n < 2 ^ 53 * d) (half : e = unit + 1) :
    Decimal.divHalfEven n d = 2 ^ 53 ∧ m = 2 ^ 52 := by
  subst half
  obtain ⟨_, lowEnd⟩ := normal.ends
  have := normal.low
  have end_ := (near 2 1 (by omega)).low_le
  have least : m = 2 ^ 52 := by
    rcases lowEnd with ⟨least, _⟩ | ⟨other, lowEnd⟩
    · exact least
    · have bound : (2 ^ 54 + 2) * (d * 2 ^ 1) ≤ (interval m (unit + 1)).low * (d * 2 ^ 1) :=
        Nat.mul_le_mul_right _ (by omega)
      omega
  subst least
  have low : (interval (2 ^ 52) (unit + 1)).low = 2 ^ 54 - 1 := by omega
  rw [low] at end_
  exact ⟨divHalfEven_eq positive (.inr ⟨by decide, by omega, by omega⟩), rfl⟩

/-- A quotient with 53 binary digits in front of its point that is near a float is rounded to it. -/
theorem Near.rounded (positive : 0 < d) (low : 2 ^ 52 * d ≤ n) (high : n < 2 ^ 53 * d) :
    Decimal.divHalfEven n d = m ∧ e = unit ∨
      Decimal.divHalfEven n d = 2 ^ 53 ∧ m = 2 ^ 52 ∧ e = unit + 1 := by
  have upper := near.unit_le normal low positive
  have lower := near.le_unit normal high
  by_cases same : e = unit
  · exact .inl ⟨near.divHalfEven normal positive same, same⟩
  · have half : e = unit + 1 := by omega
    obtain ⟨carry, least⟩ := near.divHalfEven_carry normal positive high half
    exact .inr ⟨carry, least, half⟩

end

/-- The exponents of numbers near a float. -/
theorem Near.log2_le (near : Near m e n d unit) (normal : Normal m e) (d_pos : 0 < d) :
    51 + e + d.log2 ≤ n.log2 + unit := by
  obtain ⟨_, lowEnd⟩ := normal.ends
  have := normal.low
  let up := (unit - (e - 2)).toNat
  let down := (-(unit - (e - 2))).toNat
  have n_lt : n < 2 ^ (n.log2 + 1) := Nat.lt_log2_self
  have le_d : 2 ^ d.log2 ≤ d := Nat.log2_self_le (Nat.ne_of_gt d_pos)
  have powers : 2 ^ (53 + d.log2 + down) < 2 ^ (n.log2 + 1 + up) := by
    calc 2 ^ (53 + d.log2 + down) = 2 ^ 53 * (2 ^ d.log2 * 2 ^ down) := by
          rw [Nat.pow_add, Nat.pow_add, Nat.mul_assoc]
      _ ≤ (interval m e).low * (d * 2 ^ down) := Nat.mul_le_mul (by omega) (Nat.mul_le_mul_right _ le_d)
      _ ≤ n * 2 ^ up := (near up down (by omega)).low_le
      _ < 2 ^ (n.log2 + 1) * 2 ^ up := Nat.mul_lt_mul_of_pos_right n_lt (Nat.two_pow_pos up)
      _ = 2 ^ (n.log2 + 1 + up) := (Nat.pow_add ..).symm
  have := (Nat.pow_lt_pow_iff_right (by decide)).mp powers
  omega

/-- A quotient that is near a normal float has all its digits. -/
theorem Near.full (near : Near m e n d unit) (normal : Normal m e) (positive : 0 < d) (least : -1074 ≤ unit)
    (digits : -1074 < unit → 2 ^ 52 * d ≤ n) : 2 ^ 52 * d ≤ n := by
  by_cases above : -1074 < unit
  · exact digits above
  · have order := near.log2_le normal positive
    have := normal.least
    have nonzero : n ≠ 0 := by
      rintro rfl
      rw [Nat.log2_zero] at order
      omega
    calc 2 ^ 52 * d ≤ 2 ^ 52 * 2 ^ (d.log2 + 1) := Nat.mul_le_mul_left _ (Nat.le_of_lt Nat.lt_log2_self)
      _ = 2 ^ (53 + d.log2) := by rw [← Nat.pow_add, Nat.add_comm d.log2, ← Nat.add_assoc]
      _ ≤ 2 ^ n.log2 := Nat.pow_le_pow_right (by decide) (by omega)
      _ ≤ n := Nat.log2_self_le nonzero

/-- A fraction that is near a normal float is rounded to it. -/
theorem Nearest.parts_of_near {z : Float} (nearest : Nearest z (n / d * 2 ^ unit)) (near : Near m e n d unit)
    (normal : Normal m e) (greatest : e ≤ 971) (positive : 0 < d) : ofFloat z = .finite false m e := by
  obtain ⟨n', d', unit', positive', same, least, digits, full, rfl⟩ := nearest
  have near' := near.congr positive positive' same
  have parts : carried false (Decimal.divHalfEven n' d') unit' = .finite false m e := by
    rcases near'.rounded normal positive' (near'.full normal positive' least full) digits with
      ⟨mantissa, place⟩ | ⟨mantissa, first, place⟩
    · rw [mantissa, carried_of_lt normal.high, place]
    · rw [mantissa, first, place]
      rfl
  have := normal.least
  rw [parts]
  exact ofFloat_pack ⟨normal.high, by omega, greatest, fun _ => normal.low⟩

end

/-! ### Decimals -/

section
variable {n k m : Nat} {e : Int}

/-- The library reads a decimal as the nearest float, unless its exponent is far below its digits. -/
theorem nearest_ofScientific (positive : 0 < n) (places : 0 < k) (bounded : k ≤ 2048 + n.log2) :
    Nearest (Float.ofScientific n true k) (n / (10 ^ k : ℕ)) := by
  by_cases exact : n < 2 ^ 53 ∧ k ≤ 22
  · have power : ((10 ^ k : ℕ) : ℚ) ≠ 0 := cast_pow_ne_zero (by decide) k
    unfold Float.ofScientific
    rw [dif_pos exact]
    exact (holds_toFloat exact.1).div (holds_powerOfTen _) power
  · have exponent : Int.negOfNat k = -(k : Int) := by
      cases k <;> rfl
    have power : (-(-(k : Int))).toNat = k := by omega
    have range : (2 : Int) ^ Format.binary64.exponentBits = 2048 := by decide
    have quotient : UnpackedFloat.ofScientific .binary64 n (Int.negOfNat k) = UnpackedFloat.div .binary64
        (.finite .positive n 0 positive) (.finite .positive (10 ^ k) 0 (Nat.pow_pos (by decide))) := by
      have denominator : UnpackedFloat.finite .positive (10 ^ (-(-(k : Int))).toNat) 0 (Nat.pow_pos (by decide)) =
          .finite .positive (10 ^ k) 0 (Nat.pow_pos (by decide)) := finite_congr (by rw [power]) rfl
      rw [exponent, UnpackedFloat.ofScientific, dif_neg (Nat.ne_of_gt positive), range, if_neg (by omega),
        if_neg (by omega), if_neg (by omega), denominator]
    have read : Float.ofScientific n true k = .ofModel (Float.Model.pack (UnpackedFloat.div .binary64
        (.finite .positive n 0 positive) (.finite .positive (10 ^ k) 0 (Nat.pow_pos (by decide))))) := by
      unfold Float.ofScientific
      rw [dif_neg exact]
      exact congrArg (fun u => Float.ofModel (Float.Model.pack u)) quotient
    have nearest := nearest_div positive (Nat.pow_pos (n := k) (show 0 < 10 by decide)) 0 0
    rw [zpow_zero, mul_one, mul_one, ← read] at nearest
    exact nearest

/-- A decimal in the interval of a float is read as the float. -/
theorem ofScientific_of_near {x : Float} (parts : ofFloat x = .finite false m e) (normal : Normal m e)
    (near : Near m e n (10 ^ k) 0) (n_pos : 0 < n) (k_pos : 0 < k) :
    Float.ofScientific n true k = x := by
  have tens : 0 < 10 ^ k := Nat.pow_pos (by decide)
  have digits : k ≤ (10 ^ k).log2 :=
    (Nat.le_log2 (Nat.ne_of_gt tens)).mpr (Nat.pow_le_pow_left (by decide) k)
  have order := near.log2_le normal tens
  have := normal.least
  have nearest := nearest_ofScientific n_pos k_pos (by omega)
  rw [← mul_one (_ / _), ← zpow_zero (2 : ℚ)] at nearest
  exact eq_of_ofFloat (nearest.parts_of_near near normal (range_of_ofFloat parts).2.2 tens) parts

end

end Binary64

end DocChain
