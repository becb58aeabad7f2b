import DocChain.Proofs.Constants
import DocChain.Number.Decimal

/-!
# Arithmetic on floats

The library computes on floats exactly and rounds the result once, to a mantissa of 53 binary digits, half to even
(`roundWithAccuracy_quotient`). So a sum, product or quotient is the nearest float to a fraction (`Nearest`). Rounding
keeps the order of a fraction and the floats (`Nearest.exists_holds`): a result that is a float is exact, and one
between two floats is finite and stays between them.
-/

namespace DocChain

open Float.Model Float.Model.UnpackedFloat

namespace Decimal

theorem divHalfEven_one (m : Nat) : divHalfEven m 1 = m := by
  unfold divHalfEven
  simp [Nat.mod_one]

/-- Rounding a quotient does not take it past a whole number. -/
theorem divHalfEven_le {n d m : Nat} (positive : 0 < d) (le : n ≤ m * d) : divHalfEven n d ≤ m := by
  have split := Nat.div_add_mod n d
  have below : n / d ≤ m := Nat.div_le_of_le_mul (by rwa [Nat.mul_comm])
  unfold divHalfEven
  dsimp only
  split
  · rename_i up
    simp only [Bool.or_eq_true, decide_eq_true_eq, Bool.and_eq_true] at up
    rcases Nat.lt_or_eq_of_le below with less | same
    · exact less
    · rw [same, Nat.mul_comm] at split
      omega
  · exact below

theorem le_divHalfEven {n d m : Nat} (positive : 0 < d) (le : m * d ≤ n) : m ≤ divHalfEven n d := by
  have below : m ≤ n / d := (Nat.le_div_iff_mul_le positive).mpr le
  unfold divHalfEven
  dsimp only
  split <;> omega

end Decimal

namespace Binary64

theorem cast_two_pow (k : ℕ) : ((2 ^ k : ℕ) : ℚ) = 2 ^ (k : ℤ) := by
  rw [zpow_natCast]
  exact Nat.cast_pow 2 k

theorem two_zpow_pos (e : ℤ) : (0 : ℚ) < 2 ^ e :=
  zpow_pos two_pos e

theorem two_zpow_add (e : ℤ) (k : ℕ) : (2 : ℚ) ^ (e + k) = (2 ^ k : ℕ) * 2 ^ e := by
  rw [zpow_add₀ two_ne_zero, cast_two_pow, mul_comm]

theorem cast_pow_ne_zero {b : ℕ} (positive : 0 < b) (k : ℕ) : ((b ^ k : ℕ) : ℚ) ≠ 0 :=
  Nat.cast_ne_zero.mpr (Nat.ne_of_gt (Nat.pow_pos positive))

/-- Zeros behind the binary digits are places before the point. -/
theorem shifted_eq (n s : ℕ) (e : ℤ) : ((n * 2 ^ s : ℕ) : ℚ) * 2 ^ (e - s) = n * 2 ^ e := by
  have exponent : e = e - s + s := by omega
  conv_rhs => rw [exponent]
  rw [two_zpow_add, Nat.cast_mul, mul_assoc]

/-! ### Comparing powers of two -/

section
variable {n d m k : ℕ} {e : ℤ}

theorem le_scaled_iff : (m : ℚ) * 2 ^ e ≤ n * 2 ^ (e + k) ↔ m ≤ n * 2 ^ k := by
  rw [two_zpow_add, ← mul_assoc, mul_le_mul_iff_of_pos_right (two_zpow_pos e)]
  exact_mod_cast Iff.rfl

theorem scaled_le_iff : (m : ℚ) * 2 ^ (e + k) ≤ n * 2 ^ e ↔ m * 2 ^ k ≤ n := by
  rw [two_zpow_add, ← mul_assoc, mul_le_mul_iff_of_pos_right (two_zpow_pos e)]
  exact_mod_cast Iff.rfl

/-- A quotient is compared by its numerator. -/
theorem quotient_le_iff (positive : 0 < d) {c : ℚ} : (n : ℚ) / d * 2 ^ e ≤ c ↔ (n : ℚ) * 2 ^ e ≤ c * d := by
  have denominator : (0 : ℚ) < d := Nat.cast_pos.mpr positive
  rw [div_mul_eq_mul_div, div_le_iff₀ denominator]

theorem le_quotient_iff (positive : 0 < d) {c : ℚ} : c ≤ (n : ℚ) / d * 2 ^ e ↔ c * d ≤ (n : ℚ) * 2 ^ e := by
  have denominator : (0 : ℚ) < d := Nat.cast_pos.mpr positive
  rw [div_mul_eq_mul_div, le_div_iff₀ denominator]

end

/-! ### Rounding once -/

/-- The mantissa of `n / d` and what is left over. -/
def extended (n d : Nat) : ExtendedMantissa :=
  ⟨n / d, decide (d ≤ 2 * (n % d)), decide (n % d ≠ 0 ∧ 2 * (n % d) ≠ d)⟩

theorem ofMantissaAndAccuracy_quotient (n : Nat) {d : Nat} (positive : 0 < d) :
    ExtendedMantissa.ofMantissaAndAccuracy (n / d) (accuracyOfFraction (n % d) d) = extended n d := by
  unfold accuracyOfFraction extended
  by_cases exact : n % d = 0
  · simp [exact, ExtendedMantissa.ofMantissaAndAccuracy, Nat.ne_of_gt positive]
  · rw [if_neg exact]
    cases order : compare (2 * (n % d)) d with
    | lt =>
      rw [Nat.compare_eq_lt] at order
      simp [ExtendedMantissa.ofMantissaAndAccuracy, exact]
      omega
    | eq =>
      rw [Nat.compare_eq_eq] at order
      simp [ExtendedMantissa.ofMantissaAndAccuracy, order]
    | gt =>
      rw [Nat.compare_eq_gt] at order
      simp [ExtendedMantissa.ofMantissaAndAccuracy, exact]
      omega

theorem shiftRightOne_extended (n : Nat) {d : Nat} (positive : 0 < d) :
    (extended n d).shiftRightOne = extended n (d * 2) := by
  have split : n % (d * 2) = n % d + d * (n / d % 2) := Nat.mod_mul
  have small := Nat.mod_lt n positive
  have round : (n / d % 2 != 0) = decide (d * 2 ≤ 2 * (n % (d * 2))) := by
    rw [split, Bool.eq_iff_iff, bne_iff_ne, decide_eq_true_eq]
    rcases Nat.mod_two_eq_zero_or_one (n / d) with even | odd
    · rw [even, Nat.mul_zero]
      omega
    · rw [odd, Nat.mul_one]
      omega
  have sticky : (decide (d ≤ 2 * (n % d)) || decide (n % d ≠ 0 ∧ 2 * (n % d) ≠ d)) =
      decide (n % (d * 2) ≠ 0 ∧ 2 * (n % (d * 2)) ≠ d * 2) := by
    rw [split, Bool.eq_iff_iff, Bool.or_eq_true, decide_eq_true_eq, decide_eq_true_eq, decide_eq_true_eq]
    rcases Nat.mod_two_eq_zero_or_one (n / d) with even | odd
    · rw [even, Nat.mul_zero]
      omega
    · rw [odd, Nat.mul_one]
      omega
  simp only [extended, ExtendedMantissa.shiftRightOne, round, sticky, Nat.div_div_eq_div_mul]

theorem shiftRight_extended (n : Nat) {d : Nat} (positive : 0 < d) (k : Nat) :
    extended n d >>> k = extended n (d * 2 ^ k) := by
  induction k with
  | zero => simp [HShiftRight.hShiftRight, Nat.repeat]
  | succ k ih =>
    have step : extended n d >>> (k + 1) = (extended n d >>> k).shiftRightOne := rfl
    rw [step, ih, shiftRightOne_extended n (Nat.mul_pos positive (Nat.two_pow_pos k)), Nat.mul_assoc, ← Nat.pow_succ]

theorem roundedMantissa_extended (n : Nat) {d : Nat} (positive : 0 < d) :
    (extended n d).roundedMantissa = Decimal.divHalfEven n d := by
  have rounded (m : Nat) (accuracy : Accuracy) :
      (ExtendedMantissa.ofMantissaAndAccuracy m accuracy).roundedMantissa = accuracy.roundToNearestEven m := by
    rcases accuracy with _ | order
    · rfl
    · cases order <;> rfl
  rw [← ofMantissaAndAccuracy_quotient n positive, rounded]
  unfold accuracyOfFraction Decimal.divHalfEven
  dsimp only
  by_cases exact : n % d = 0
  · simp [exact, Accuracy.roundToNearestEven]
    omega
  · rw [if_neg exact]
    cases order : compare (2 * (n % d)) d with
    | lt =>
      rw [Nat.compare_eq_lt] at order
      simp [Accuracy.roundToNearestEven]
      omega
    | eq =>
      rw [Nat.compare_eq_eq] at order
      simp [Accuracy.roundToNearestEven, order]
      split <;> omega
    | gt =>
      rw [Nat.compare_eq_gt] at order
      simp [Accuracy.roundToNearestEven, order]

theorem targetExponent_eq (total : Int) : Format.binary64.targetExponent total = max (total - 53) (-1074) := by
  rfl

theorem shift_exact {m : Nat} {e : Int} (digits : m < 2 ^ 53) (least : -1074 ≤ e) :
    shiftToTargetExponent .binary64 m e .exact = (⟨m, false, false⟩, e) := by
  have short : m.log2 ≤ 52 := by
    by_cases zero : m = 0
    · subst zero
      decide
    · exact Nat.le_of_lt_succ ((Nat.log2_lt zero).mpr digits)
  have stays : (Format.binary64.targetExponent (totalExponent m e) - e).toNat = 0 := by
    rw [targetExponent_eq, totalExponent]
    omega
  simp only [shiftToTargetExponent, shiftToExponent, stays, Int.natCast_zero, Int.add_zero]
  rfl

theorem shift_carry {e : Int} (least : -1074 ≤ e) :
    shiftToTargetExponent .binary64 (2 ^ 53) e .exact = (⟨2 ^ 52, false, false⟩, e + 1) := by
  have once : (Format.binary64.targetExponent (totalExponent (2 ^ 53) e) - e).toNat = 1 := by
    rw [targetExponent_eq, totalExponent, Nat.log2_two_pow]
    omega
  simp only [shiftToTargetExponent, shiftToExponent, once]
  rfl

/-- A mantissa with its exponent, after a carry where it fills the last of its 53 binary digits. -/
def carried (negative : Bool) (m : Nat) (e : Int) : Binary64 :=
  if m = 2 ^ 53 then .finite negative (2 ^ 52) (e + 1) else .finite negative m e

theorem carried_of_lt {negative : Bool} {m : Nat} {e : Int} (digits : m < 2 ^ 53) :
    carried negative m e = .finite negative m e := by
  unfold carried
  exact if_neg (Nat.ne_of_lt digits)

section
variable {n d k : Nat} {e : Int}

/-- What `k` more places leave of a quotient. -/
theorem lt_of_log2_div (positive : 0 < d) (digits : (n / d).log2 ≤ 52 + k) : n < 2 ^ 53 * (d * 2 ^ k) := by
  have high : n / d < 2 ^ (53 + k) := by
    calc n / d < 2 ^ ((n / d).log2 + 1) := Nat.lt_log2_self
      _ ≤ 2 ^ (53 + k) := Nat.pow_le_pow_right (by decide) (by omega)
  rw [Nat.div_lt_iff_lt_mul positive, Nat.pow_add, Nat.mul_assoc, Nat.mul_comm (2 ^ k)] at high
  exact high

theorem le_of_log2_div (positive : 0 < d) (digits : (n / d).log2 = 52 + k) : 2 ^ 52 * (d * 2 ^ k) ≤ n := by
  have some : n / d ≠ 0 := by
    intro zero
    rw [zero, Nat.log2_zero] at digits
    omega
  have low : 2 ^ (52 + k) ≤ n / d := digits ▸ Nat.log2_self_le some
  rw [Nat.le_div_iff_mul_le positive, Nat.pow_add, Nat.mul_assoc, Nat.mul_comm (2 ^ k)] at low
  exact low

theorem shift_quotient (positive : 0 < d) (unit : e + k = max ((n / d).log2 + 1 + e - 53) (-1074)) :
    shiftToTargetExponent .binary64 (n / d) e (accuracyOfFraction (n % d) d) = (extended n (d * 2 ^ k), e + k) := by
  have amount : (Format.binary64.targetExponent (totalExponent (n / d) e) - e).toNat = k := by
    rw [targetExponent_eq, totalExponent]
    omega
  simp only [shiftToTargetExponent, shiftToExponent, amount, ofMantissaAndAccuracy_quotient n positive,
    shiftRight_extended n positive]

/-- A quotient is rounded as a whole, in units of the last place that its first digit leaves. -/
theorem roundWithAccuracy_quotient (negative : Bool) (positive : 0 < d)
    (unit : e + k = max ((n / d).log2 + 1 + e - 53) (-1074)) :
    roundWithAccuracy .binary64 (sign negative) (n / d) e (accuracyOfFraction (n % d) d) =
      (carried negative (Decimal.divHalfEven n (d * 2 ^ k)) (e + k)).unpacked := by
  have scaled : 0 < d * 2 ^ k := Nat.mul_pos positive (Nat.two_pow_pos k)
  have small : Decimal.divHalfEven n (d * 2 ^ k) ≤ 2 ^ 53 :=
    Decimal.divHalfEven_le scaled (Nat.le_of_lt (lt_of_log2_div positive (by omega)))
  unfold roundWithAccuracy carried
  rw [shift_quotient positive unit]
  dsimp only
  rw [roundedMantissa_extended n scaled]
  rcases Nat.lt_or_eq_of_le small with less | full
  · rw [shift_exact less (by omega), if_neg (Nat.ne_of_lt less)]
    rfl
  · rw [full, shift_carry (by omega)]
    rfl

end

/-! ### Nearest floats -/

/-- Whether a float is this fraction. -/
def Holds (x : Float) (q : ℚ) : Prop :=
  ∃ m e, ofFloat x = .finite false m e ∧ (m : ℚ) * 2 ^ e = q

/-- Whether a fraction is a float. -/
def Representable (q : ℚ) : Prop :=
  ∃ m e, Fits m e ∧ (m : ℚ) * 2 ^ e = q

/-- Whether a float is a fraction rounded to it: in units of the last place the fraction is a quotient, which is
rounded half to even. -/
def Nearest (x : Float) (q : ℚ) : Prop :=
  ∃ (n d : ℕ) (e : ℤ), 0 < d ∧ (n : ℚ) / d * 2 ^ e = q ∧ -1074 ≤ e ∧ n < 2 ^ 53 * d ∧ (-1074 < e → 2 ^ 52 * d ≤ n) ∧
    x = .ofModel (Float.Model.pack (carried false (Decimal.divHalfEven n d) e).unpacked)

theorem Holds.representable {x : Float} {q : ℚ} (holds : Holds x q) : Representable q := by
  obtain ⟨m, e, parts, value⟩ := holds
  exact ⟨m, e, fits_of_ofFloat parts, value⟩

theorem nearest_of_roundWithAccuracy {n d : ℕ} {e : ℤ} (positive : 0 < d)
    (digits : e ≤ max ((n / d).log2 + 1 + e - 53) (-1074)) :
    Nearest (.ofModel (Float.Model.pack
      (roundWithAccuracy .binary64 .positive (n / d) e (accuracyOfFraction (n % d) d)))) (n / d * 2 ^ e) := by
  obtain ⟨k, unit⟩ : ∃ k : ℕ, e + k = max ((n / d).log2 + 1 + e - 53) (-1074) :=
    ⟨(max ((n / d).log2 + 1 + e - 53) (-1074) - e).toNat, by omega⟩
  have rounded := roundWithAccuracy_quotient false positive unit
  refine ⟨n, d * 2 ^ k, e + k, Nat.mul_pos positive (Nat.two_pow_pos k), ?_, by omega,
    lt_of_log2_div positive (by omega), ?_, ?_⟩
  · rw [two_zpow_add, Nat.cast_mul, ← div_div, ← mul_assoc, div_mul_cancel₀ _ (cast_pow_ne_zero two_pos k)]
  · intro above
    exact le_of_log2_div positive (by omega)
  · exact congrArg (fun u => Float.ofModel (Float.Model.pack u)) rounded

section
variable {n d m k : ℕ} {e : ℤ}

theorem quotient_le_scaled_iff (positive : 0 < d) :
    (n : ℚ) / d * 2 ^ e ≤ m * 2 ^ (e + k) ↔ n ≤ m * 2 ^ k * d := by
  rw [quotient_le_iff positive, mul_right_comm, ← Nat.cast_mul, le_scaled_iff, Nat.mul_right_comm]

theorem scaled_quotient_le_iff (positive : 0 < d) :
    (n : ℚ) / d * 2 ^ (e + k) ≤ m * 2 ^ e ↔ n * 2 ^ k ≤ m * d := by
  rw [quotient_le_iff positive, mul_right_comm, ← Nat.cast_mul, scaled_le_iff]

theorem scaled_le_quotient_iff (positive : 0 < d) :
    (m : ℚ) * 2 ^ (e + k) ≤ n / d * 2 ^ e ↔ m * 2 ^ k * d ≤ n := by
  rw [le_quotient_iff positive, mul_right_comm, ← Nat.cast_mul, scaled_le_iff, Nat.mul_right_comm]

end

/-- A quotient with all its digits that is not above a float has no greater exponent. -/
theorem exponent_le {n d m : ℕ} {e e' : ℤ} (positive : 0 < d) (normal : -1074 < e → 2 ^ 52 * d ≤ n)
    (fits : Fits m e') (below : (n : ℚ) / d * 2 ^ e ≤ m * 2 ^ e') : e ≤ e' := by
  by_cases above : e' < e
  · have := fits.least
    have digits : m * d < 2 ^ 53 * d := Nat.mul_lt_mul_of_pos_right fits.digits positive
    have full := normal (by omega)
    obtain ⟨j, rfl⟩ : ∃ j : ℕ, e = e' + (j + 1 : ℕ) := ⟨(e - e' - 1).toNat, by omega⟩
    have scaled := (scaled_quotient_le_iff positive).mp below
    have double : n * 2 ^ 1 ≤ n * 2 ^ (j + 1) := Nat.mul_le_mul_left n (Nat.pow_le_pow_right (by decide) (by omega))
    omega
  · omega

theorem carried_fits {m m' j : ℕ} {e : ℤ} (small : m ≤ 2 ^ 53) (least : -1074 ≤ e) (normal : -1074 < e → 2 ^ 52 ≤ m)
    (bound : m ≤ m' * 2 ^ j) (fits : Fits m' (e + j)) :
    ∃ m₁ e₁, carried false m e = .finite false m₁ e₁ ∧ Fits m₁ e₁ ∧ (m₁ : ℚ) * 2 ^ e₁ = m * 2 ^ e := by
  have greatest := fits.greatest
  unfold carried
  by_cases full : m = 2 ^ 53
  · -- The carry stays below the float that bounds the mantissa.
    have more : j ≠ 0 := by
      rintro rfl
      have := fits.digits
      omega
    refine ⟨2 ^ 52, e + 1, if_pos full, ⟨by decide, by omega, by omega, fun _ => Nat.le_refl _⟩, ?_⟩
    have double : (2 : ℚ) ^ (e + 1) = (2 ^ 1 : ℕ) * 2 ^ e := two_zpow_add e 1
    rw [full, double, ← mul_assoc]
    exact_mod_cast rfl
  · exact ⟨m, e, if_neg full, ⟨by omega, least, by omega, normal⟩, rfl⟩

section
variable {x : Float} {q b : ℚ}

/-- Rounding keeps the order of a fraction and the floats. -/
theorem Nearest.exists_holds (nearest : Nearest x q) (float : Representable b) (below : q ≤ b) :
    ∃ p, Holds x p ∧ p ≤ b ∧ ∀ a, Representable a → a ≤ q → a ≤ p := by
  obtain ⟨n, d, e, positive, rfl, least, digits, normal, rfl⟩ := nearest
  obtain ⟨m', e', fits', rfl⟩ := float
  have le : e ≤ e' := exponent_le positive normal fits' below
  obtain ⟨j, rfl⟩ : ∃ j : ℕ, e' = e + j := ⟨(e' - e).toNat, by omega⟩
  have bound : Decimal.divHalfEven n d ≤ m' * 2 ^ j :=
    Decimal.divHalfEven_le positive ((quotient_le_scaled_iff positive).mp below)
  have small : Decimal.divHalfEven n d ≤ 2 ^ 53 := Decimal.divHalfEven_le positive (Nat.le_of_lt digits)
  have normal' : -1074 < e → 2 ^ 52 ≤ Decimal.divHalfEven n d :=
    fun above => Decimal.le_divHalfEven positive (normal above)
  obtain ⟨m, e₁, parts, fits, value⟩ := carried_fits small least normal' bound fits'
  rw [parts]
  refine ⟨_, ⟨m, e₁, ofFloat_pack fits, value⟩, le_scaled_iff.mpr bound, ?_⟩
  rintro a ⟨m₀, e₀, fits₀, rfl⟩ above
  by_cases low : e₀ < e
  · have := fits₀.least
    have := fits₀.digits
    have full := normal' (by omega)
    obtain ⟨i, rfl⟩ : ∃ i : ℕ, e = e₀ + (i + 1 : ℕ) := ⟨(e - e₀ - 1).toNat, by omega⟩
    have double := Nat.mul_le_mul_left (Decimal.divHalfEven n d) (Nat.pow_le_pow_right two_pos (Nat.le_add_left 1 i))
    exact le_scaled_iff.mpr (by omega)
  · obtain ⟨i, rfl⟩ : ∃ i : ℕ, e₀ = e + i := ⟨(e₀ - e).toNat, by omega⟩
    exact scaled_le_iff.mpr (Decimal.le_divHalfEven positive ((scaled_le_quotient_iff positive).mp above))

/-- A fraction that is a float is not rounded. -/
theorem Nearest.holds (nearest : Nearest x q) (float : Representable q) : Holds x q := by
  obtain ⟨p, holds, le, ge⟩ := nearest.exists_holds float (le_refl q)
  rwa [le_antisymm le (ge q float (le_refl q))] at holds

/-- A float is its own rounding. -/
theorem Holds.nearest (holds : Holds x q) : Nearest x q := by
  obtain ⟨m, e, parts, rfl⟩ := holds
  have fits := fits_of_ofFloat parts
  refine ⟨m, 1, e, one_pos, by rw [Nat.cast_one, div_one], fits.least, ?_, ?_, ?_⟩
  · rw [Nat.mul_one]
    exact fits.digits
  · rw [Nat.mul_one]
    exact fits.normal
  · rw [Decimal.divHalfEven_one, carried_of_lt fits.digits]
    exact eq_of_ofFloat parts (ofFloat_pack fits)

end

/-- A fraction has one mantissa and exponent. -/
theorem Fits.unique {m m' : ℕ} {e e' : ℤ} (fits : Fits m e) (fits' : Fits m' e') (same : (m : ℚ) * 2 ^ e = m' * 2 ^ e') :
    m = m' ∧ e = e' := by
  have le : e ≤ e' := by
    refine exponent_le (n := m) (d := 1) one_pos ?_ fits' ?_
    · rw [Nat.mul_one]
      exact fits.normal
    · rw [Nat.cast_one, div_one, same]
  have ge : e' ≤ e := by
    refine exponent_le (n := m') (d := 1) one_pos ?_ fits ?_
    · rw [Nat.mul_one]
      exact fits'.normal
    · rw [Nat.cast_one, div_one, same]
  obtain rfl := le_antisymm le ge
  have mantissas := mul_right_cancel₀ (ne_of_gt (two_zpow_pos e)) same
  exact ⟨by exact_mod_cast mantissas, rfl⟩

theorem Holds.unique {x y : Float} {q : ℚ} (first : Holds x q) (second : Holds y q) : x = y := by
  obtain ⟨m, e, parts, rfl⟩ := first
  obtain ⟨m', e', parts', same⟩ := second
  obtain ⟨rfl, rfl⟩ := (fits_of_ofFloat parts).unique (fits_of_ofFloat parts') same.symm
  exact eq_of_ofFloat parts parts'

theorem Holds.nonneg {x : Float} {q : ℚ} (holds : Holds x q) : 0 ≤ q := by
  obtain ⟨m, e, _, rfl⟩ := holds
  exact mul_nonneg (Nat.cast_nonneg m) (le_of_lt (two_zpow_pos e))

/-! ### Arithmetic -/

theorem unpack_of_ofFloat {x : Float} {negative : Bool} {m : Nat} {e : Int} (parts : ofFloat x = .finite negative m e) :
    x.toModel.unpack = (finite negative m e).unpacked := by
  rw [unpack_ofFloat, parts]

theorem holds_zero : Holds (.ofModel (Float.Model.pack (.zero .positive))) 0 := by
  have fits : Fits 0 (-1074) := ⟨by decide, by decide, by decide, fun above => absurd above (by decide)⟩
  have packed : ofFloat (.ofModel (Float.Model.pack (finite false 0 (-1074)).unpacked)) = .finite false 0 (-1074) :=
    ofFloat_pack fits
  rw [unpacked_zero] at packed
  exact ⟨0, -1074, packed, by rw [Nat.cast_zero, zero_mul]⟩

section
variable {x y : Float} {p q : ℚ}

/-- A product of two positive floats is rounded once. -/
theorem nearest_mul {m m' : ℕ} {e e' : ℤ} (fits : Fits m e) (fits' : Fits m' e') (positive : 0 < m) (positive' : 0 < m') :
    Nearest (.ofModel (Float.Model.pack (UnpackedFloat.mul .binary64 (.finite .positive m e positive)
      (.finite .positive m' e' positive')))) (m * 2 ^ e * (m' * 2 ^ e')) := by
  have digits : e + e' ≤ max ((m * m' / 1).log2 + 1 + (e + e') - 53) (-1074) := by
    by_cases low : e + e' ≤ -1074
    · omega
    · -- One of the exponents is not the least, and that mantissa is full.
      have full : 2 ^ 52 ≤ m * m' := by
        by_cases above : -1074 < e
        · exact Nat.le_trans (fits.normal above) (Nat.le_mul_of_pos_right m positive')
        · exact Nat.le_trans (fits'.normal (by omega)) (Nat.le_mul_of_pos_left m' positive)
      have := (Nat.le_log2 (by omega)).mpr full
      rw [Nat.div_one]
      omega
  have nearest := nearest_of_roundWithAccuracy one_pos digits
  have value : ((m * m' : ℕ) : ℚ) / (1 : ℕ) * 2 ^ (e + e') = m * 2 ^ e * (m' * 2 ^ e') := by
    rw [zpow_add₀ two_ne_zero, Nat.cast_mul, Nat.cast_one, div_one, mul_mul_mul_comm]
  rw [value, Nat.div_one, Nat.mod_one] at nearest
  exact nearest

theorem Holds.mul (first : Holds x p) (second : Holds y q) : Nearest (x * y) (p * q) := by
  obtain ⟨m, e, parts, rfl⟩ := first
  obtain ⟨m', e', parts', rfl⟩ := second
  have product : x * y = .ofModel (Float.Model.pack
      (UnpackedFloat.mul .binary64 (finite false m e).unpacked (finite false m' e').unpacked)) := by
    rw [← unpack_of_ofFloat parts, ← unpack_of_ofFloat parts']
    rfl
  rw [product]
  by_cases zero : m = 0
  · subst zero
    have nothing : UnpackedFloat.mul .binary64 (finite false 0 e).unpacked (finite false m' e').unpacked =
        .zero .positive := by
      by_cases zero' : m' = 0
      · subst zero'
        rfl
      · rw [unpacked_zero, unpacked_of_ne_zero zero']
        rfl
    rw [nothing, Nat.cast_zero, zero_mul, zero_mul]
    exact holds_zero.nearest
  · by_cases zero' : m' = 0
    · subst zero'
      have nothing : UnpackedFloat.mul .binary64 (finite false m e).unpacked (finite false 0 e').unpacked =
          .zero .positive := by
        rw [unpacked_zero, unpacked_of_ne_zero zero]
        rfl
      rw [nothing, Nat.cast_zero, zero_mul, mul_zero]
      exact holds_zero.nearest
    · rw [unpacked_of_ne_zero zero, unpacked_of_ne_zero zero']
      exact nearest_mul (fits_of_ofFloat parts) (fits_of_ofFloat parts') (Nat.pos_of_ne_zero zero)
        (Nat.pos_of_ne_zero zero')

/-- A quotient has 53 binary digits when the numerator has 53 more than the denominator. -/
theorem le_div_of_log2 {n d s : Nat} (n_pos : 0 < n) (d_pos : 0 < d) (digits : 53 + d.log2 ≤ n.log2 + s) :
    2 ^ 52 ≤ n * 2 ^ s / d := by
  rw [Nat.le_div_iff_mul_le d_pos]
  calc 2 ^ 52 * d ≤ 2 ^ 52 * 2 ^ (d.log2 + 1) := Nat.mul_le_mul_left _ (Nat.le_of_lt Nat.lt_log2_self)
    _ = 2 ^ (53 + d.log2) := by rw [← Nat.pow_add, Nat.add_comm d.log2, ← Nat.add_assoc]
    _ ≤ 2 ^ (n.log2 + s) := Nat.pow_le_pow_right (by decide) digits
    _ = 2 ^ n.log2 * 2 ^ s := Nat.pow_add ..
    _ ≤ n * 2 ^ s := Nat.mul_le_mul_right _ (Nat.log2_self_le (Nat.ne_of_gt n_pos))

/-- A quotient of any two positive numbers of units is rounded once. -/
theorem nearest_div {n n' : ℕ} (positive : 0 < n) (positive' : 0 < n') (e e' : ℤ) :
    Nearest (.ofModel (Float.Model.pack (UnpackedFloat.div .binary64 (.finite .positive n e positive)
      (.finite .positive n' e' positive')))) (n * 2 ^ e / (n' * 2 ^ e')) := by
  -- The numerator is shifted until the quotient has more than 52 binary digits.
  obtain ⟨s, target, enough⟩ : ∃ s : Nat,
      min (e - e') (Format.binary64.targetExponent (totalExponent n e - totalExponent n' e')) = e - e' - s ∧
      (e - e' - s ≤ -1074 ∨ 53 + n'.log2 ≤ n.log2 + s) := by
    rw [targetExponent_eq, totalExponent, totalExponent]
    refine ⟨(e - e' - min (e - e') (max ((n.log2 + 1 + e) - (n'.log2 + 1 + e') - 53) (-1074))).toNat, ?_, ?_⟩ <;>
      omega
  have digits : e - e' - s ≤ max ((n * 2 ^ s / n').log2 + 1 + (e - e' - s) - 53) (-1074) := by
    rcases enough with low | digits
    · omega
    · have full := le_div_of_log2 positive positive' digits
      have := (Nat.le_log2 (by omega)).mpr full
      omega
  have nearest := nearest_of_roundWithAccuracy positive' digits
  have value : ((n * 2 ^ s : ℕ) : ℚ) / n' * 2 ^ (e - e' - s) = n * 2 ^ e / (n' * 2 ^ e') := by
    rw [div_mul_eq_mul_div, shifted_eq, zpow_sub₀ two_ne_zero, ← mul_div_assoc, div_div, mul_comm (2 ^ e')]
  have amount : (e - e' - (e - e' - s)).toNat = s := by omega
  rw [← value]
  unfold UnpackedFloat.div divCore
  dsimp only
  rw [target, amount, Nat.shiftLeft_eq]
  exact nearest

theorem Holds.div (first : Holds x p) (second : Holds y q) (nonzero : q ≠ 0) : Nearest (x / y) (p / q) := by
  obtain ⟨m, e, parts, rfl⟩ := first
  obtain ⟨m', e', parts', rfl⟩ := second
  have quotient : x / y = .ofModel (Float.Model.pack
      (UnpackedFloat.div .binary64 (finite false m e).unpacked (finite false m' e').unpacked)) := by
    rw [← unpack_of_ofFloat parts, ← unpack_of_ofFloat parts']
    rfl
  have zero' : m' ≠ 0 := by
    rintro rfl
    exact nonzero (by rw [Nat.cast_zero, zero_mul])
  rw [quotient, unpacked_of_ne_zero zero']
  by_cases zero : m = 0
  · subst zero
    rw [Nat.cast_zero, zero_mul, zero_div]
    exact holds_zero.nearest
  · rw [unpacked_of_ne_zero zero]
    exact nearest_div (Nat.pos_of_ne_zero zero) (Nat.pos_of_ne_zero zero') e e'

theorem log2_mul_two_pow {n : Nat} (positive : 0 < n) (c : Nat) : (n * 2 ^ c).log2 = n.log2 + c := by
  have scaled := Nat.mul_pos positive (Nat.two_pow_pos c)
  have low : 2 ^ n.log2 ≤ n := Nat.log2_self_le (Nat.ne_of_gt positive)
  have high : n < 2 ^ (n.log2 + 1) := Nat.lt_log2_self
  rw [Nat.log2_eq_iff (Nat.ne_of_gt scaled), Nat.add_right_comm, Nat.pow_add, Nat.pow_add]
  exact ⟨Nat.mul_le_mul_right _ low, Nat.mul_lt_mul_of_pos_right high (Nat.two_pow_pos c)⟩

theorem nearest_round {n : ℕ} (positive : 0 < n) (e : ℤ) :
    Nearest (.ofModel (Float.Model.pack (UnpackedFloat.round .binary64 .positive n e))) (n * 2 ^ e) := by
  obtain ⟨s, amount⟩ : ∃ s, (e - Format.binary64.targetExponent (totalExponent n e)).toNat = s := ⟨_, rfl⟩
  have digits : e - s ≤ max ((n * 2 ^ s / 1).log2 + 1 + (e - s) - 53) (-1074) := by
    rw [targetExponent_eq, totalExponent] at amount
    rw [Nat.div_one, log2_mul_two_pow positive]
    omega
  have nearest := nearest_of_roundWithAccuracy one_pos digits
  have value : ((n * 2 ^ s : ℕ) : ℚ) / (1 : ℕ) * 2 ^ (e - s) = n * 2 ^ e := by
    rw [Nat.cast_one, div_one, shifted_eq]
  rw [value, Nat.div_one, Nat.mod_one] at nearest
  unfold UnpackedFloat.round decreaseExponent
  dsimp only
  rw [amount, Nat.shiftLeft_eq]
  exact nearest

theorem normalize_of_pos {n : ℕ} (positive : 0 < n) (e : ℤ) :
    UnpackedFloat.normalize .binary64 n e .positive = UnpackedFloat.round .binary64 .positive n e := by
  have order : compare (n : ℤ) 0 = .gt := Int.compare_eq_gt.mpr (by omega)
  unfold UnpackedFloat.normalize
  rw [order]
  rfl

/-- A sum of any two positive numbers of units is rounded once. -/
theorem nearest_add {m m' : ℕ} (positive : 0 < m) (positive' : 0 < m') (e e' : ℤ) :
    Nearest (.ofModel (Float.Model.pack (UnpackedFloat.add .binary64 (.finite .positive m e positive)
      (.finite .positive m' e' positive')))) (m * 2 ^ e + m' * 2 ^ e') := by
  have some : 0 < m * 2 ^ (e - min e e').toNat + m' * 2 ^ (e' - min e e').toNat :=
    Nat.add_pos_left (Nat.mul_pos positive (Nat.two_pow_pos _)) _
  have scaled {n : ℕ} {c : ℤ} (le : min e e' ≤ c) :
      ((n * 2 ^ (c - min e e').toNat : ℕ) : ℚ) * 2 ^ min e e' = n * 2 ^ c := by
    have exponent : c - (c - min e e').toNat = min e e' := by omega
    rw [← shifted_eq n (c - min e e').toNat c, exponent]
  have nearest := nearest_round some (min e e')
  rw [Nat.cast_add, add_mul, scaled (min_le_left e e'), scaled (min_le_right e e')] at nearest
  have whole := normalize_of_pos some (min e e')
  rw [Nat.cast_add] at whole
  unfold UnpackedFloat.add decreaseExponent
  simp only [Nat.shiftLeft_eq]
  rw [← whole] at nearest
  exact nearest

theorem Holds.add (first : Holds x p) (second : Holds y q) : Nearest (x + y) (p + q) := by
  obtain ⟨m, e, parts, rfl⟩ := first
  obtain ⟨m', e', parts', rfl⟩ := second
  have sum : x + y = .ofModel (Float.Model.pack
      (UnpackedFloat.add .binary64 (finite false m e).unpacked (finite false m' e').unpacked)) := by
    rw [← unpack_of_ofFloat parts, ← unpack_of_ofFloat parts']
    rfl
  rw [sum]
  by_cases zero : m = 0
  · subst zero
    have other : UnpackedFloat.add .binary64 (finite false 0 e).unpacked (finite false m' e').unpacked =
        (finite false m' e').unpacked := by
      by_cases zero' : m' = 0
      · subst zero'
        rfl
      · rw [unpacked_zero, unpacked_of_ne_zero zero']
        rfl
    rw [other, Nat.cast_zero, zero_mul, zero_add]
    exact Holds.nearest ⟨m', e', ofFloat_pack (fits_of_ofFloat parts'), rfl⟩
  · by_cases zero' : m' = 0
    · subst zero'
      have other : UnpackedFloat.add .binary64 (finite false m e).unpacked (finite false 0 e').unpacked =
          (finite false m e).unpacked := by
        rw [unpacked_zero, unpacked_of_ne_zero zero]
        rfl
      rw [other, Nat.cast_zero, zero_mul, add_zero]
      exact Holds.nearest ⟨m, e, ofFloat_pack (fits_of_ofFloat parts), rfl⟩
    · rw [unpacked_of_ne_zero zero, unpacked_of_ne_zero zero']
      exact nearest_add (Nat.pos_of_ne_zero zero) (Nat.pos_of_ne_zero zero') e e'

end

/-! ### Whole numbers -/

section
variable {x : Float}

/-- A number of 53 binary digits is a float, also with digits behind the point and zeros behind the digits. -/
theorem representable_scaled {n : ℕ} {e : ℤ} (digits : n < 2 ^ 53) (least : -1074 ≤ e) (greatest : e ≤ 971) :
    Representable (n * 2 ^ e) := by
  by_cases zero : n = 0
  · subst zero
    rw [Nat.cast_zero, zero_mul]
    exact holds_zero.representable
  · have short : n.log2 < 53 := (Nat.log2_lt zero).mpr digits
    -- The digits move to the front, as far as the least exponent lets them.
    obtain ⟨c, moved⟩ : ∃ c : ℕ, (c : ℤ) = min (52 - (n.log2 : ℤ)) (e + 1074) :=
      ⟨(min (52 - (n.log2 : ℤ)) (e + 1074)).toNat, by omega⟩
    have bits : (n * 2 ^ c).log2 = n.log2 + c := log2_mul_two_pow (Nat.pos_of_ne_zero zero) c
    have some : n * 2 ^ c ≠ 0 := Nat.ne_of_gt (Nat.mul_pos (Nat.pos_of_ne_zero zero) (Nat.two_pow_pos c))
    refine ⟨n * 2 ^ c, e - c, ⟨?_, by omega, by omega, ?_⟩, ?_⟩
    · exact (Nat.log2_lt some).mp (by omega)
    · intro above
      exact (Nat.le_log2 some).mp (by omega)
    · exact shifted_eq n c e

theorem representable_natCast {n : ℕ} (digits : n < 2 ^ 53) : Representable n := by
  have float := representable_scaled (e := 0) digits (by decide) (by decide)
  rwa [zpow_zero, mul_one] at float

theorem representable_two_pow {k : ℕ} (bounded : k ≤ 971) : Representable (2 ^ k : ℕ) := by
  have float := representable_scaled (n := 1) (e := k) (by decide) (by omega) (by omega)
  rwa [Nat.cast_one, one_mul, ← cast_two_pow] at float

theorem representable_one : Representable 1 := by
  have float := representable_two_pow (k := 0) (by decide)
  rwa [Nat.pow_zero, Nat.cast_one] at float

theorem nearest_unpacked_ofNat (n : ℕ) :
    Nearest (.ofModel (Float.Model.pack (UnpackedFloat.ofNat .binary64 n))) n := by
  by_cases zero : n = 0
  · subst zero
    rw [Nat.cast_zero]
    exact holds_zero.nearest
  · have nearest := nearest_round (Nat.pos_of_ne_zero zero) 0
    rw [zpow_zero, mul_one, ← normalize_of_pos (Nat.pos_of_ne_zero zero)] at nearest
    exact nearest

/-- Whether the parts are those of a whole number. -/
def isWhole (n : ℕ) : Binary64 → Bool
  | finite false m e => m * 2 ^ e.toNat = n * 2 ^ (-e).toNat
  | _ => false

theorem holds_of_isWhole {n : ℕ} (whole : isWhole n (ofFloat x) = true) : Holds x n := by
  unfold isWhole at whole
  split at whole
  · rename_i m e parts
    refine ⟨m, e, parts, ?_⟩
    have same : ((m * 2 ^ e.toNat : ℕ) : ℚ) = (n * 2 ^ (-e).toNat : ℕ) := congrArg Nat.cast (of_decide_eq_true whole)
    rw [Nat.cast_mul, Nat.cast_mul, cast_two_pow e.toNat] at same
    have exponent : (e.toNat : ℤ) = e + (-e).toNat := by omega
    rw [exponent, two_zpow_add, mul_left_comm, mul_comm (n : ℚ)] at same
    exact mul_left_cancel₀ (cast_pow_ne_zero two_pos _) same
  · cases whole

theorem isWhole_powersOfTen : ∀ k : Fin Float.exactlyRepresentablePowersOfTen.size,
    isWhole (10 ^ k.val) (ofFloat Float.exactlyRepresentablePowersOfTen[k]) = true := by
  decide +kernel

/-- The library's powers of ten are exact. -/
theorem holds_powerOfTen {k : ℕ} (inTable : k < Float.exactlyRepresentablePowersOfTen.size) :
    Holds Float.exactlyRepresentablePowersOfTen[k] (10 ^ k : ℕ) :=
  holds_of_isWhole (isWhole_powersOfTen ⟨k, inTable⟩)

theorem holds_toFloat {n : ℕ} (small : n < 2 ^ 53) : Holds n.toUInt64.toFloat n := by
  have fits : n.toUInt64.toNat = n := Nat.mod_eq_of_lt (by omega)
  have whole : n.toUInt64.toFloat = .ofModel (Float.Model.pack (UnpackedFloat.ofNat .binary64 n)) := by
    rw [UInt64.toFloat, Float.Model.ofUInt64, UnpackedFloat.ofUInt64, fits]
  rw [whole]
  exact (nearest_unpacked_ofNat n).holds (representable_natCast small)

/-- The library multiplies a whole number of more digits by a power of ten, here by one. -/
theorem ofScientific_whole {n : ℕ} (nonzero : n ≠ 0) : UnpackedFloat.ofScientific .binary64 n 0 =
    roundWithAccuracy .binary64 .positive (n * 2 ^ 53) (-53) .exact := by
  have range : (2 : Int) ^ Format.binary64.exponentBits = 2048 := by decide
  have product : UnpackedFloat.ofScientific .binary64 n 0 =
      roundWithAccuracy .binary64 .positive (n <<< 53 * 10 ^ (0 : Int).toNat) (-53 + 0) .exact := by
    unfold UnpackedFloat.ofScientific
    rw [dif_neg nonzero, range, if_neg (by omega), if_neg (by omega), if_pos (by omega)]
    rfl
  rw [product, Nat.shiftLeft_eq, Int.toNat_zero, Nat.pow_zero, Nat.mul_one, Int.add_zero]

theorem nearest_ofNat (n : ℕ) : Nearest (Float.ofNat n) n := by
  have unfolded : Float.ofNat n = Float.ofScientific n false 0 := rfl
  rw [unfolded]
  by_cases small : n < 2 ^ 53 ∧ 0 ≤ 22
  · have product := (holds_toFloat small.1).mul (holds_powerOfTen (k := 0) (by decide))
    rw [Nat.pow_zero, Nat.cast_one, mul_one] at product
    unfold Float.ofScientific
    rw [dif_pos small]
    exact product
  · have nonzero : n ≠ 0 := by omega
    have bits : (n * 2 ^ 53).log2 = n.log2 + 53 := log2_mul_two_pow (Nat.pos_of_ne_zero nonzero) 53
    have digits : (-53 : ℤ) ≤ max (((n * 2 ^ 53 / 1).log2 : ℤ) + 1 + -53 - 53) (-1074) := by
      rw [Nat.div_one, bits]
      omega
    have nearest := nearest_of_roundWithAccuracy one_pos digits
    have value : ((n * 2 ^ 53 : ℕ) : ℚ) / (1 : ℕ) * 2 ^ (-53 : ℤ) = n := by
      rw [Nat.cast_mul, cast_two_pow, Nat.cast_one, div_one, mul_assoc, ← zpow_add₀ two_ne_zero]
      exact mul_one _
    have read : Float.ofScientific n false 0 = .ofModel (Float.Model.pack
        (roundWithAccuracy .binary64 .positive (n * 2 ^ 53) (-53) .exact)) := by
      unfold Float.ofScientific
      rw [dif_neg small]
      exact congrArg (fun u => Float.ofModel (Float.Model.pack u)) (ofScientific_whole nonzero)
    rw [value, Nat.div_one, Nat.mod_one] at nearest
    rw [read]
    exact nearest

/-- The float of a whole number stays on its side of the powers of two. -/
theorem exists_holds_ofNat {n k : ℕ} (le : n ≤ 2 ^ k) (bounded : k ≤ 971) :
    ∃ p, Holds (Float.ofNat n) p ∧ p ≤ (2 ^ k : ℕ) ∧ (0 < n → 1 ≤ p) := by
  obtain ⟨p, holds, above, below⟩ :=
    (nearest_ofNat n).exists_holds (representable_two_pow bounded) (by exact_mod_cast le)
  refine ⟨p, holds, above, ?_⟩
  intro positive
  exact below 1 representable_one (by exact_mod_cast positive)

/-- The float of a whole number is a whole number. -/
theorem exists_holds_ofNat_whole {n k : ℕ} (le : n ≤ 2 ^ k) (bounded : k ≤ 971) :
    ∃ t : ℕ, Holds (Float.ofNat n) t := by
  by_cases small : n < 2 ^ 53
  · exact ⟨n, (nearest_ofNat n).holds (representable_natCast small)⟩
  · obtain ⟨p, holds, _, below⟩ :=
      (nearest_ofNat n).exists_holds (representable_two_pow bounded) (by exact_mod_cast le)
    have large : 2 ^ 53 ≤ n := by omega
    have low := below (2 ^ 53 : ℕ) (representable_two_pow (by decide)) (by exact_mod_cast large)
    obtain ⟨m, e, parts, rfl⟩ := id holds
    -- A float of 53 binary digits in front of its point has none behind it.
    by_cases whole : 0 ≤ e
    · obtain ⟨j, rfl⟩ := Int.eq_ofNat_of_zero_le whole
      rw [← cast_two_pow, ← Nat.cast_mul] at holds
      exact ⟨m * 2 ^ j, holds⟩
    · have digits := (range_of_ofFloat parts).1
      obtain ⟨j, exponent⟩ : ∃ j : ℕ, (0 : ℤ) = e + j := ⟨(-e).toNat, by omega⟩
      have scaled : ((2 ^ 53 : ℕ) : ℚ) * 2 ^ (e + j) ≤ m * 2 ^ e := by
        rw [← exponent, zpow_zero, mul_one]
        exact low
      have more := Nat.le_mul_of_pos_right (2 ^ 53) (Nat.two_pow_pos j)
      have := scaled_le_iff.mp scaled
      omega

/-- What a float has behind its point is a float. -/
theorem representable_rest {m d : ℕ} (positive : 0 < d) (float : Representable ((m : ℚ) / d)) :
    Representable ((m % d : ℕ) / d) := by
  obtain ⟨n, e, fits, value⟩ := float
  have denominator : (d : ℚ) ≠ 0 := Nat.cast_ne_zero.mpr (Nat.ne_of_gt positive)
  have crossed := (eq_div_iff denominator).mp value
  by_cases whole : 0 ≤ e
  · obtain ⟨k, rfl⟩ := Int.eq_ofNat_of_zero_le whole
    rw [← cast_two_pow] at crossed
    have multiple : n * 2 ^ k * d = m := by exact_mod_cast crossed
    rw [← multiple, Nat.mul_mod_left, Nat.cast_zero, zero_div]
    exact holds_zero.representable
  · obtain ⟨k, rfl⟩ : ∃ k : ℕ, e = -k := ⟨(-e).toNat, by omega⟩
    have power := cast_pow_ne_zero two_pos k
    have scale (x : ℚ) : x * 2 ^ (-k : ℤ) = x / (2 ^ k : ℕ) := by
      rw [zpow_neg, ← cast_two_pow, div_eq_mul_inv]
    rw [scale, div_mul_eq_mul_div, div_eq_iff power] at crossed
    have same : n * d = m * 2 ^ k := by exact_mod_cast crossed
    -- Both remainders are that of the common product.
    have rests : n % 2 ^ k * d = m % d * 2 ^ k := by
      rw [← Nat.mul_mod_mul_right, ← Nat.mul_mod_mul_right, same, Nat.mul_comm (2 ^ k)]
    have rest : ((m % d : ℕ) : ℚ) / d = (n % 2 ^ k : ℕ) * 2 ^ (-k : ℤ) := by
      rw [scale, div_eq_div_iff denominator power]
      exact_mod_cast rests.symm
    rw [rest]
    exact representable_scaled (Nat.lt_of_le_of_lt (Nat.mod_le _ _) fits.digits) fits.least fits.greatest

/-- A float is compared with zero by its value. -/
theorem Holds.beq_zero {x : Float} {q : ℚ} (holds : Holds x q) : (x == 0) = decide (q = 0) := by
  obtain ⟨m, e, parts, rfl⟩ := holds
  have zero : (0 : Float).toModel.unpack = .zero .positive := by
    have parts : ofFloat 0 = .finite false 0 (-1074) := by decide +kernel
    rw [unpack_of_ofFloat parts]
    rfl
  have compared : (x == 0) = x.toModel.unpack.beq (0 : Float).toModel.unpack := rfl
  rw [compared, zero, unpack_of_ofFloat parts]
  by_cases nothing : m = 0
  · subst nothing
    simp
    rfl
  · have some : (m : ℚ) * 2 ^ e ≠ 0 := mul_ne_zero (Nat.cast_ne_zero.mpr nothing) (ne_of_gt (two_zpow_pos e))
    rw [unpacked_of_ne_zero nothing, decide_eq_false some]
    rfl

end

end Binary64

end DocChain
