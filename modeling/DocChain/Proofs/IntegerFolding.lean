import DocChain.Proofs.FloatArithmetic

/-!
# Folding integers

Constant arithmetic is done in decimals. On integers it is exact as long as every result is an integer of 64
bits: then no product is cut to the mantissa, every quotient comes out even and nothing becomes a float.
-/

namespace DocChain

/-! ### Exact values of trees -/

namespace Expr

/-- The value of a tree of integers. -/
def exactValue? : Expr → Option ℚ
  | integer n => some n.toInt
  | binary (.arithmetic op) left right => do op.exactly? (← left.exactValue?) (← right.exactValue?)
  | _ => none

/-- Whether a tree has integers of 64 bits at its leaves, and at every node above them as well. -/
def WithinRange : Expr → Prop
  | integer _ => True
  | binary (.arithmetic op) left right => left.WithinRange ∧ right.WithinRange ∧
      ∃ n : Int64, (binary (.arithmetic op) left right).exactValue? = some (n.toInt : ℚ)
  | _ => False

end Expr

theorem truncated_div (x : ℤ) {y : ℤ} (nonzero : y ≠ 0) : truncated ((x : ℚ) / y) = x.tdiv y := by
  obtain ⟨c, numerator, denominator⟩ := Rat.exists_eq_mul_div_num_and_eq_mul_div_den x nonzero
  have common : c ≠ 0 := by
    rintro rfl
    rw [Int.zero_mul] at denominator
    exact nonzero denominator
  unfold truncated
  -- A fraction is kept in lowest terms; the common factor drops out, with either sign.
  generalize (x / y : ℚ).num = p at numerator ⊢
  generalize ((x / y : ℚ).den : ℤ) = q at denominator ⊢
  subst numerator denominator
  obtain negative | zero | positive := Int.lt_trichotomy c 0
  · have turned : (-c * p).tdiv (-c * q) = (c * p).tdiv (c * q) := by
      rw [Int.neg_mul, Int.neg_mul, Int.neg_tdiv_neg]
    rw [← turned, Int.mul_tdiv_mul_of_pos _ _ (by omega)]
  · exact absurd zero common
  · rw [Int.mul_tdiv_mul_of_pos _ _ positive]

theorem exactly?_modulo (x : ℤ) {y : ℤ} (nonzero : y ≠ 0) :
    Arithmetic.modulo.exactly? x y = some ((x.tmod y : ℤ) : ℚ) := by
  have other : (y : ℚ) ≠ 0 := Int.cast_ne_zero.mpr nonzero
  have split : x.tmod y = x - y * x.tdiv y := by
    have := Int.mul_tdiv_add_tmod x y
    omega
  rw [Arithmetic.exactly?, if_neg other, truncated_div x nonzero, split]
  push_cast
  rfl

namespace Decimal

/-! ### Decimals that are integers -/

/-- A decimal that is written as an integer, without places. -/
structure IsInt (a : Decimal) (x : ℤ) : Prop where
  places : a.scale = 0
  value : a.signedMantissa = x

variable {a b : Decimal} {x y : ℤ}

theorem natAbs_signedMantissa (a : Decimal) : a.signedMantissa.natAbs = a.mantissa := by
  unfold signedMantissa
  split <;> omega

theorem IsInt.natAbs (whole : a.IsInt x) : x.natAbs = a.mantissa := by
  rw [← whole.value, natAbs_signedMantissa]

theorem IsInt.isZero (whole : a.IsInt x) : a.isZero = decide (x = 0) := by
  have size := whole.natAbs
  unfold Decimal.isZero
  rw [decide_eq_decide]
  omega

theorem IsInt.atScale (whole : a.IsInt x) : a.atScale 0 = x := by
  unfold Decimal.atScale
  rw [whole.value, whole.places]
  simp

theorem ofInt64_isInt (n : Int64) : (ofInt64 n).IsInt n.toInt := by
  refine ⟨rfl, ?_⟩
  unfold signedMantissa ofInt64
  simp only [decide_eq_true_eq]
  split <;> omega

theorem zero_isInt : zero.IsInt 0 :=
  ⟨rfl, rfl⟩

theorem IsInt.neg (whole : a.IsInt x) : a.neg.IsInt (-x) := by
  refine ⟨whole.places, ?_⟩
  rw [← whole.value]
  unfold signedMantissa Decimal.neg
  cases a.negative <;> simp

theorem make?_isInt (negative : Bool) {m : Nat} (small : m < 2 ^ 96) :
    ∃ a, make? negative m 0 = some a ∧ a.IsInt (if negative then -m else m) := by
  unfold make?
  rw [dif_pos ⟨small, by decide⟩]
  exact ⟨_, rfl, rfl, rfl⟩

theorem reduce_whole {negative : Bool} {m : Nat} (small : m < 2 ^ 96) :
    reduce negative m 0 = make? negative m 0 := by
  obtain ⟨a, made, _⟩ := make?_isInt negative small
  have same : divHalfEven m (10 ^ 0) = m := divHalfEven_one m
  unfold reduce reduceFrom
  rw [same, if_neg (Nat.lt_irrefl 0), made]

theorem add?_isInt (first : a.IsInt x) (second : b.IsInt y) (small : (x + y).natAbs < 2 ^ 96) :
    ∃ c, a.add? b = some c ∧ c.IsInt (x + y) := by
  unfold add?
  rw [first.isZero, second.isZero]
  by_cases zero : x = 0
  · subst zero
    exact ⟨b, by simp, by simpa using second⟩
  · by_cases zero' : y = 0
    · subst zero'
      exact ⟨a, by simp [zero], by simpa using first⟩
    · simp only [zero, zero', decide_false, Bool.false_eq_true, if_false, first.places, second.places, Nat.max_self,
        first.atScale, second.atScale, reduce_whole small]
      obtain ⟨c, made, whole⟩ := make?_isInt (decide (x + y < 0)) small
      refine ⟨c, made, ?_⟩
      have value : (if decide (x + y < 0) = true then -((x + y).natAbs : ℤ) else (x + y).natAbs) = x + y := by
        simp only [decide_eq_true_eq]
        split <;> omega
      rwa [value] at whole

theorem sub?_isInt (first : a.IsInt x) (second : b.IsInt y) (small : (x - y).natAbs < 2 ^ 96) :
    ∃ c, a.sub? b = some c ∧ c.IsInt (x - y) := by
  unfold sub?
  rw [first.isZero, second.isZero]
  by_cases zero : x = 0 ∧ y = 0
  · obtain ⟨rfl, rfl⟩ := zero
    exact ⟨b, rfl, second⟩
  · rw [if_neg (by simpa using zero)]
    exact add?_isInt first second.neg small

theorem mul?_isInt (first : a.IsInt x) (second : b.IsInt y) (small : (x * y).natAbs < 2 ^ 96) :
    ∃ c, a.mul? b = some c ∧ c.IsInt (x * y) := by
  unfold mul?
  rw [first.isZero, second.isZero]
  by_cases zero : x = 0 ∨ y = 0
  · have nothing : x * y = 0 := Int.mul_eq_zero.mpr zero
    rw [if_pos (by simpa using zero), nothing]
    exact ⟨_, rfl, zero_isInt⟩
  · rw [if_neg (by simpa using zero), first.places, second.places]
    have size : (x * y).natAbs = a.mantissa * b.mantissa := by
      rw [Int.natAbs_mul, first.natAbs, second.natAbs]
    rw [size] at small
    obtain ⟨c, made, whole⟩ := make?_isInt (a.negative != b.negative) small
    refine ⟨c, (reduce_whole small).trans made, ?_⟩
    have value : x * y = if (a.negative != b.negative) = true then -((a.mantissa * b.mantissa : Nat) : ℤ)
        else (a.mantissa * b.mantissa : Nat) := by
      rw [← first.value, ← second.value]
      unfold signedMantissa
      cases a.negative <;> cases b.negative <;> simp
    rwa [← value] at whole

theorem div?_isInt (first : a.IsInt x) (second : b.IsInt y) (nonzero : y ≠ 0) (even : y ∣ x) :
    ∃ c, a.div? b = some c ∧ c.IsInt (x / y) := by
  have divides : a.mantissa % b.mantissa = 0 := by
    have inside := Int.natAbs_dvd_natAbs.mpr even
    rw [first.natAbs, second.natAbs] at inside
    exact Nat.mod_eq_zero_of_dvd inside
  unfold div?
  rw [first.isZero, second.isZero, first.places, second.places, if_neg (by simpa using nonzero)]
  by_cases zero : x = 0
  · rw [if_pos (by simpa using zero), zero, Int.zero_ediv]
    exact ⟨_, rfl, zero_isInt⟩
  · rw [if_neg (by simpa using zero), if_pos divides]
    have small : a.mantissa / b.mantissa < 2 ^ 96 := Nat.lt_of_le_of_lt (Nat.div_le_self _ _) a.mantissa_lt
    obtain ⟨c, made, whole⟩ := make?_isInt (a.negative != b.negative) small
    have unit : a.mantissa * 10 ^ (0 - 0) = a.mantissa := Nat.mul_one a.mantissa
    refine ⟨c, ?_, ?_⟩
    · rwa [unit]
    · have value : x / y = if (a.negative != b.negative) = true then -((a.mantissa / b.mantissa : Nat) : ℤ)
          else (a.mantissa / b.mantissa : Nat) := by
        have dvd : (b.mantissa : ℤ) ∣ a.mantissa := Int.natCast_dvd_natCast.mpr (Nat.dvd_of_mod_eq_zero divides)
        rw [← first.value, ← second.value]
        unfold signedMantissa
        cases a.negative <;> cases b.negative <;> simp [Int.neg_ediv_of_dvd dvd]
      rwa [← value] at whole

theorem IsInt.tmod (first : a.IsInt x) (second : b.IsInt y) :
    x.tmod y = if a.negative then -((a.mantissa % b.mantissa : Nat) : ℤ) else (a.mantissa % b.mantissa : Nat) := by
  rw [← first.value, ← second.value]
  unfold signedMantissa
  cases a.negative <;> cases b.negative <;>
    simp only [if_true, if_false, Bool.false_eq_true, Int.neg_tmod, Int.tmod_neg] <;> rfl

theorem rem?_isInt (first : a.IsInt x) (second : b.IsInt y) (nonzero : y ≠ 0) :
    ∃ c, a.rem? b = some c ∧ c.IsInt (x.tmod y) := by
  have value := first.tmod second
  unfold rem?
  simp only [first.isZero, second.isZero, first.places, second.places, Nat.max_self, first.atScale, second.atScale,
    first.natAbs, second.natAbs]
  rw [if_neg (by simpa using nonzero)]
  -- Only a dividend of greater magnitude is divided at all.
  by_cases even : x = 0 ∨ a.mantissa = b.mantissa
  · have nothing : x.tmod y = 0 := by
      obtain rfl | same := even
      · exact Int.zero_tmod y
      · rw [value, same, Nat.mod_self]
        simp
    rw [if_pos (by simpa using even), nothing]
    exact ⟨_, rfl, zero_isInt⟩
  · rw [if_neg (by simpa using even)]
    by_cases less : a.mantissa < b.mantissa
    · rw [if_pos less]
      rw [Nat.mod_eq_of_lt less] at value
      refine ⟨a, rfl, first.places, ?_⟩
      rw [value]
      rfl
    · rw [if_neg less]
      have small : a.mantissa % b.mantissa < 2 ^ 96 := Nat.lt_of_le_of_lt (Nat.mod_le _ _) a.mantissa_lt
      obtain ⟨c, made, whole⟩ := make?_isInt a.negative small
      rw [← value] at whole
      exact ⟨c, made, whole⟩

theorem IsInt.toInt64?_eq (whole : a.IsInt x) :
    a.toInt64? = if -2 ^ 63 ≤ x ∧ x < 2 ^ 63 then some (Int64.ofInt x) else none := by
  have unit : x.tdiv (10 ^ 0) = x := Int.tdiv_one x
  unfold Decimal.toInt64?
  dsimp only
  rw [whole.value, whole.places, unit, Nat.pow_zero, Nat.mod_one]
  simp only [true_and]

theorem IsInt.toInt64? {n : Int64} (whole : a.IsInt n.toInt) : a.toInt64? = some n := by
  rw [whole.toInt64?_eq, if_pos ⟨n.le_toInt, n.toInt_lt⟩, Int64.ofInt_toInt]

end Decimal

namespace Arithmetic

variable {op : Arithmetic}

/-- No operation on integers loses anything where its result is an integer that fits the mantissa. -/
theorem decimal?_isInt {a b : Decimal} {x y z : ℤ} (first : a.IsInt x) (second : b.IsInt y)
    (computes : op.exactly? x y = some (z : ℚ)) (small : z.natAbs < 2 ^ 96) :
    ∃ c, op.decimal? a b = some c ∧ c.IsInt z := by
  cases op with
  | add =>
    have result : x + y = z := by exact_mod_cast Option.some.inj computes
    subst result
    exact Decimal.add?_isInt first second small
  | subtract =>
    have result : x - y = z := by exact_mod_cast Option.some.inj computes
    subst result
    exact Decimal.sub?_isInt first second small
  | multiply =>
    have result : x * y = z := by exact_mod_cast Option.some.inj computes
    subst result
    exact Decimal.mul?_isInt first second small
  | divide =>
    obtain ⟨nonzero, quotient⟩ := Option.ite_none_left_eq_some.mp computes
    have nonzero' : y ≠ 0 := by exact_mod_cast nonzero
    have product : x = y * z := by
      have := (div_eq_iff nonzero).mp (Option.some.inj quotient)
      rw [mul_comm] at this
      exact_mod_cast this
    have result : x / y = z := by rw [product, Int.mul_ediv_cancel_left z nonzero']
    rw [← result]
    exact Decimal.div?_isInt first second nonzero' ⟨z, product⟩
  | modulo =>
    obtain ⟨nonzero, _⟩ := Option.ite_none_left_eq_some.mp computes
    have nonzero' : y ≠ 0 := by exact_mod_cast nonzero
    have result : x.tmod y = z := by exact_mod_cast Option.some.inj ((exactly?_modulo x nonzero').symm.trans computes)
    rw [← result]
    exact Decimal.rem?_isInt first second nonzero'

theorem value?_int {m n k : Int64} (computes : op.exactly? m.toInt n.toInt = some (k.toInt : ℚ)) :
    op.value? (.int m) (.int n) = some (.int k) := by
  have low := k.le_toInt
  have high := k.toInt_lt
  obtain ⟨c, computed, whole⟩ := decimal?_isInt (Decimal.ofInt64_isInt m) (Decimal.ofInt64_isInt n) computes (by omega)
  have wire : c.wire? (Number.isFloat (.int m) && Number.isFloat (.int n)) = some (.int k) := by
    unfold Decimal.wire?
    rw [whole.toInt64?]
    rfl
  unfold Wire.int value? number? Number.decimal?
  simp only [Option.bind_eq_bind, Option.bind_some, computed]
  exact wire

end Arithmetic

/-- A tree whose nodes are all integers of 64 bits folds to its exact value. -/
theorem Expr.value?_of_withinRange {e : Expr} (within : e.WithinRange) :
    ∃ n : Int64, e.exactValue? = some (n.toInt : ℚ) ∧ e.value? = some (.int n) := by
  fun_induction Expr.WithinRange e with
  | case1 n => exact ⟨n, rfl, by unfold value?; rfl⟩
  | case2 op left right first second =>
    obtain ⟨inLeft, inRight, k, computes⟩ := within
    obtain ⟨m, exactLeft, foldedLeft⟩ := first inLeft
    obtain ⟨n, exactRight, foldedRight⟩ := second inRight
    refine ⟨k, computes, ?_⟩
    rw [exactValue?, exactLeft, exactRight] at computes
    rw [value?, foldedLeft, foldedRight]
    exact Arithmetic.value?_int computes
  | case3 => exact within.elim

theorem Expr.value?_extremes :
    (binary (.arithmetic .add) (binary (.arithmetic .modulo) (integer Int64.minValue) (integer (-1)))
        (integer Int64.maxValue)).WithinRange ∧
      (binary (.arithmetic .add) (binary (.arithmetic .modulo) (integer Int64.minValue) (integer (-1)))
        (integer Int64.maxValue)).value? = some (.int Int64.maxValue) := by
  have within : (binary (.arithmetic .add) (binary (.arithmetic .modulo) (integer Int64.minValue) (integer (-1)))
      (integer Int64.maxValue)).WithinRange :=
    ⟨⟨trivial, trivial, 0, by decide +kernel⟩, trivial, Int64.maxValue, by decide +kernel⟩
  obtain ⟨n, computes, folded⟩ := value?_of_withinRange within
  have root : (binary (.arithmetic .add) (binary (.arithmetic .modulo) (integer Int64.minValue) (integer (-1)))
      (integer Int64.maxValue)).exactValue? = some (Int64.maxValue.toInt : ℚ) := by decide +kernel
  have same : n.toInt = Int64.maxValue.toInt := by exact_mod_cast Option.some.inj (computes.symm.trans root)
  rw [Int64.toInt_inj.mp same] at folded
  exact ⟨within, folded⟩

end DocChain
