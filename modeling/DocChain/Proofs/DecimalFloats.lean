import Mathlib.Algebra.Order.Field.Basic
import Mathlib.Data.Nat.Factorization.Basic
import DocChain.Proofs.IntegerFolding

/-!
# Floats and decimals

A float has a decimal exactly below the bound of the mantissa (`exists_ofFloat?_iff`): a whole one is taken as it is, and
a fraction as long as its digits have room. The float of a decimal comes from a rounded division. So a float need not be
read back from its decimal, but one with few enough digits and places is (`toFloat_ofFloat?`).
-/

namespace DocChain

namespace Binary64

theorem signed_parts {x : Float} {m : ℕ} {e : ℤ} (parts : ofFloat x = .finite false m e) (negative : Bool) :
    ofFloat (signed negative x) = .finite negative m e := by
  unfold signed
  cases negative with
  | false =>
    rw [if_neg Bool.false_ne_true]
    exact parts
  | true =>
    rw [if_pos rfl]
    exact ofFloat_neg parts

theorem rational?_signed {x : Float} {q : ℚ} (holds : Holds x q) (negative : Bool) :
    (ofFloat (signed negative x)).rational? = some (if negative then -q else q) := by
  obtain ⟨m, e, parts, rfl⟩ := holds
  rw [signed_parts parts, rational?]
  cases negative <;> simp

/-- The parts of a float that is a fraction. Its sign is that of the fraction, unless it is zero. -/
theorem parts_of_rational? {x : Float} {q : ℚ} (value : (ofFloat x).rational? = some q) :
    ∃ negative m e, ofFloat x = .finite negative m e ∧ (m : ℚ) * 2 ^ e = |q| ∧ (if negative then -|q| else |q|) = q := by
  cases parts : ofFloat x with
  | nan =>
    rw [parts] at value
    cases value
  | infinite =>
    rw [parts] at value
    cases value
  | finite negative m e =>
    rw [parts] at value
    have value := Option.some.inj value
    have nonneg : (0 : ℚ) ≤ m * 2 ^ e := mul_nonneg (Nat.cast_nonneg m) (le_of_lt (two_zpow_pos e))
    have magnitude : (m : ℚ) * 2 ^ e = |q| := by
      rw [← value]
      cases negative with
      | false => exact (abs_of_nonneg nonneg).symm
      | true => rw [if_pos rfl, neg_mul, abs_neg, abs_of_nonneg nonneg]
    refine ⟨negative, m, e, rfl, magnitude, ?_⟩
    rw [← magnitude, ← value]
    cases negative <;> simp

theorem isFinite_of_rational? {x : Float} {q : ℚ} (value : (ofFloat x).rational? = some q) :
    (ofFloat x).isFinite = true := by
  obtain ⟨_, _, _, parts, _⟩ := parts_of_rational? value
  rw [parts]
  rfl

/-- A fraction other than zero is one float. -/
theorem eq_of_rational? {x y : Float} {q : ℚ} (first : (ofFloat x).rational? = some q)
    (second : (ofFloat y).rational? = some q) (nonzero : q ≠ 0) : x = y := by
  obtain ⟨negative, m, e, parts, magnitude, sign⟩ := parts_of_rational? first
  obtain ⟨negative', m', e', parts', magnitude', sign'⟩ := parts_of_rational? second
  obtain ⟨rfl, rfl⟩ := (fits_of_ofFloat parts).unique (fits_of_ofFloat parts') (magnitude.trans magnitude'.symm)
  have signs : negative = negative' := by
    have opposite : -|q| ≠ |q| := by
      intro same
      exact nonzero (abs_eq_zero.mp (neg_eq_self.mp same))
    cases negative with
    | false =>
      cases negative' with
      | false => rfl
      | true => exact absurd (sign'.trans sign.symm) opposite
    | true =>
      cases negative' with
      | false => exact absurd (sign.trans sign'.symm) opposite
      | true => rfl
  subst signs
  exact eq_of_ofFloat parts parts'

/-- The parts of a float that is an integer. -/
theorem parts_of_whole {x : Float} {z : ℤ} (whole : (ofFloat x).rational? = some (z : ℚ)) :
    ∃ negative m e, ofFloat x = .finite negative m e ∧ (m : ℚ) * 2 ^ e = z.natAbs ∧
      (if negative then -(z.natAbs : ℤ) else z.natAbs) = z := by
  obtain ⟨negative, m, e, parts, magnitude, value⟩ := parts_of_rational? whole
  have signed : (if negative then -|z| else |z|) = z := by exact_mod_cast value
  rw [← Int.cast_abs, Int.abs_eq_natAbs, Int.cast_natCast] at magnitude
  rw [Int.abs_eq_natAbs] at signed
  exact ⟨negative, m, e, parts, magnitude, signed⟩

theorem representable_of_whole {x : Float} {z : ℤ} (whole : (ofFloat x).rational? = some (z : ℚ)) :
    Representable (z.natAbs : ℕ) := by
  obtain ⟨negative, m, e, parts, magnitude, _⟩ := parts_of_whole whole
  exact ⟨m, e, fits_of_ofFloat parts, magnitude⟩

/-- A whole float past 53 binary digits has no places, and any other as many zeros as places. -/
theorem whole_parts {m : ℕ} {e : ℤ} {t : ℕ} (whole : (m : ℚ) * 2 ^ e = t) :
    (0 ≤ e ∧ m * 2 ^ e.toNat = t) ∨ (e < 0 ∧ m = t * 2 ^ (-e).toNat) := by
  by_cases places : e < 0
  · right
    have exponent : (2 : ℚ) ^ e * (2 ^ (-e).toNat : ℕ) = 1 := by
      rw [mul_comm, ← two_zpow_add]
      have nothing : e + (-e).toNat = 0 := by omega
      rw [nothing, zpow_zero]
    have scaled : (m : ℚ) = t * (2 ^ (-e).toNat : ℕ) := by rw [← whole, mul_assoc, exponent, mul_one]
    exact ⟨places, by exact_mod_cast scaled⟩
  · left
    have exponent : (2 : ℚ) ^ e = (2 ^ e.toNat : ℕ) := by
      rw [cast_two_pow]
      congr 1
      omega
    rw [exponent] at whole
    exact ⟨by omega, by exact_mod_cast whole⟩

/-! ### Powers of ten -/

theorem isWhole_pow : ∀ s : Fin 23, isWhole (10 ^ s.val) (ofFloat (pow 10 s.val)) = true := by
  decide +kernel

/-- Whether the parts are those of a number from one to `2 ^ k`. -/
def isBetween (k : ℕ) : Binary64 → Bool
  | finite false m e => 2 ^ (-e).toNat ≤ m * 2 ^ e.toNat && m * 2 ^ e.toNat ≤ 2 ^ k * 2 ^ (-e).toNat
  | _ => false

theorem exists_of_isBetween {x : Float} {k : ℕ} (between : isBetween k (ofFloat x) = true) :
    ∃ p, Holds x p ∧ 1 ≤ p ∧ p ≤ (2 ^ k : ℕ) := by
  unfold isBetween at between
  split at between
  · rename_i m e parts
    rw [Bool.and_eq_true, decide_eq_true_eq, decide_eq_true_eq] at between
    have unit : (0 : ℚ) < (2 ^ (-e).toNat : ℕ) := Nat.cast_pos.mpr (Nat.two_pow_pos _)
    have scaled : (m : ℚ) * 2 ^ e * (2 ^ (-e).toNat : ℕ) = (m * 2 ^ e.toNat : ℕ) := by
      have exponent : e + (-e).toNat = e.toNat := by omega
      rw [mul_assoc, mul_comm (2 ^ e), ← two_zpow_add, exponent, ← cast_two_pow, ← Nat.cast_mul]
    refine ⟨_, ⟨m, e, parts, rfl⟩, ?_, ?_⟩
    · rw [← mul_le_mul_iff_of_pos_right unit, one_mul, scaled]
      exact_mod_cast between.1
    · rw [← mul_le_mul_iff_of_pos_right unit, scaled]
      exact_mod_cast between.2
  · cases between

theorem isBetween_pow : ∀ s : Fin 29, isBetween 94 (ofFloat (pow 10 s.val)) = true := by
  decide +kernel

/-- Rounding to a whole number leaves whole numbers as they are, and nothing grows past a power of two. -/
theorem Holds.roundHalfAway_whole {x : Float} {n : ℕ} (holds : Holds x n) (digits : n < 2 ^ 53) :
    Holds (roundHalfAway x) n := by
  obtain ⟨m, e, parts, value⟩ := id holds
  unfold roundHalfAway
  rw [parts]
  dsimp only
  by_cases places : 0 ≤ e
  · rw [if_pos places]
    exact holds
  · obtain ⟨nonneg, _⟩ | ⟨_, scaled⟩ := whole_parts value
    · exact absurd nonneg places
    · rw [if_neg places, scaled]
      have unit := Nat.two_pow_pos (-e).toNat
      have half : (2 ^ (-e).toNat / 2) / 2 ^ (-e).toNat = 0 := Nat.div_eq_of_lt (Nat.div_lt_self unit (by decide))
      rw [Nat.add_comm, Nat.add_mul_div_right _ _ unit, half, Nat.zero_add]
      exact (nearest_ofNat n).holds (representable_natCast digits)

theorem Holds.roundHalfAway_le {x : Float} {p : ℚ} {k : ℕ} (holds : Holds x p) (le : p ≤ (2 ^ k : ℕ)) (large : 53 ≤ k)
    (bounded : k ≤ 971) : ∃ q, Holds (roundHalfAway x) q ∧ q ≤ (2 ^ k : ℕ) := by
  obtain ⟨m, e, parts, value⟩ := id holds
  unfold roundHalfAway
  rw [parts]
  dsimp only
  by_cases places : 0 ≤ e
  · rw [if_pos places]
    exact ⟨p, holds, le⟩
  · rw [if_neg places]
    have unit := Nat.two_pow_pos (-e).toNat
    have small := (range_of_ofFloat parts).1
    have whole : (m + 2 ^ (-e).toNat / 2) / 2 ^ (-e).toNat ≤ 2 ^ k := by
      calc (m + 2 ^ (-e).toNat / 2) / 2 ^ (-e).toNat ≤ (m + 2 ^ (-e).toNat) / 2 ^ (-e).toNat :=
            Nat.div_le_div_right (Nat.add_le_add_left (Nat.div_le_self _ 2) m)
        _ = m / 2 ^ (-e).toNat + 1 := Nat.add_div_right m unit
        _ ≤ m + 1 := Nat.add_le_add_right (Nat.div_le_self m _) 1
        _ ≤ 2 ^ 53 := small
        _ ≤ 2 ^ k := Nat.pow_le_pow_right two_pos large
    obtain ⟨q, holds', le', _⟩ := exists_holds_ofNat whole bounded
    exact ⟨q, holds', le'⟩

end Binary64

namespace Decimal

/-! ### Whole floats -/

/-- Zeros behind the binary digits are halved away. -/
theorem fifthsIn_add (j i t : ℕ) (e : ℤ) : fifthsIn (j + i) (t * 2 ^ i) e = fifthsIn j t (e + i) := by
  induction i generalizing e with
  | zero => simp
  | succ i ih =>
    have even : t * 2 ^ (i + 1) = 2 * (t * 2 ^ i) := by rw [Nat.pow_succ, ← Nat.mul_assoc, Nat.mul_comm]
    have half : 2 * (t * 2 ^ i) / 2 = t * 2 ^ i := Nat.mul_div_cancel_left _ two_pos
    rw [← Nat.add_assoc, fifthsIn, even, if_neg (by omega), half, ih]
    push_cast
    rw [add_assoc, add_comm 1]

/-- Doubling goes on while the mantissa has room, and nothing is ever divided. -/
theorem fifthsOut_eq {m : ℕ} (k : ℕ) (small : m < 2 ^ 96) :
    fifthsOut k m k = if m * 2 ^ k < 2 ^ 96 then some (m * 2 ^ k, 0) else none := by
  induction k generalizing m with
  | zero =>
    rw [fifthsOut, Nat.pow_zero, Nat.mul_one, if_pos small]
    rfl
  | succ k ih =>
    have double : m * 2 ^ (k + 1) = 2 * m * 2 ^ k := by rw [Nat.pow_succ, Nat.mul_comm (2 ^ k), ← Nat.mul_assoc, Nat.mul_comm m]
    have exponent : ((k + 1 : ℕ) : ℤ) - 1 = k := by omega
    rw [fifthsOut]
    by_cases room : m < 2 ^ 95
    · rw [if_pos room, exponent, ih (by omega), double]
    · have large : 2 ^ 96 ≤ m * 2 ^ (k + 1) := by
        have := Nat.le_mul_of_pos_right (2 * m) (Nat.two_pow_pos k)
        omega
      rw [if_neg room, if_pos (by omega), if_neg (by omega)]

theorem make?_eq_none {negative : Bool} {m : ℕ} (large : 2 ^ 96 ≤ m) : make? negative m 0 = none :=
  dif_neg fun fits => absurd fits.1 (by omega)

/-- A whole float is taken as it is, up to the mantissa of a decimal. -/
theorem ofFloat?_whole {x : Float} {negative : Bool} {m t : ℕ} {e : ℤ}
    (parts : Binary64.ofFloat x = .finite negative m e) (whole : (m : ℚ) * 2 ^ e = t) :
    ofFloat? x = make? negative t 0 := by
  have small := (Binary64.range_of_ofFloat parts).1
  unfold ofFloat?
  rw [parts]
  by_cases zero : m = 0
  · subst zero
    rw [Nat.cast_zero, zero_mul] at whole
    obtain rfl : t = 0 := by exact_mod_cast whole.symm
    rfl
  · split
    · rename_i same
      cases same
      exact absurd rfl zero
    · rename_i same
      cases same
      obtain ⟨places, digits⟩ | ⟨places, digits⟩ := Binary64.whole_parts whole
      · obtain ⟨k, rfl⟩ := Int.eq_ofNat_of_zero_le places
        rw [Int.toNat_natCast] at digits
        rw [if_neg (by omega), Int.toNat_natCast, fifthsOut_eq k (by omega), digits]
        by_cases room : t < 2 ^ 96
        · rw [if_pos room]
          rfl
        · rw [if_neg room, make?_eq_none (by omega)]
          rfl
      · have exponent : e + (-e).toNat = 0 := by omega
        have zeros := fifthsIn_add 0 (-e).toNat t e
        rw [Nat.zero_add, exponent] at zeros
        rw [if_pos places, digits, zeros]
        rfl
    · rename_i other
      exact absurd rfl (other _ _ _)

variable {x : Float} {z : ℤ}

theorem ofFloat?_isInt (whole : (Binary64.ofFloat x).rational? = some (z : ℚ)) (small : z.natAbs < 2 ^ 96) :
    ∃ a, ofFloat? x = some a ∧ a.IsInt z := by
  obtain ⟨negative, m, e, parts, magnitude, value⟩ := Binary64.parts_of_whole whole
  obtain ⟨a, made, isInt⟩ := make?_isInt negative small
  rw [value] at isInt
  exact ⟨a, (ofFloat?_whole parts magnitude).trans made, isInt⟩

theorem ofFloat?_eq_none (whole : (Binary64.ofFloat x).rational? = some (z : ℚ)) (large : 2 ^ 96 ≤ z.natAbs) :
    ofFloat? x = none := by
  obtain ⟨negative, m, e, parts, magnitude, _⟩ := Binary64.parts_of_whole whole
  rw [ofFloat?_whole parts magnitude, make?_eq_none large]

/-! ### Fractions -/

theorem dropDigit_lt {m b : ℕ} (small : m < b) (large : 1 < b) : dropDigit m < b := by
  unfold dropDigit
  split <;> omega

theorem fifthsIn_bounds (k : ℕ) {m : ℕ} (e : ℤ) (small : m < 2 ^ 96) :
    (fifthsIn k m e).1 < 2 ^ 96 ∧ (fifthsIn k m e).2 ≤ e + k := by
  induction k generalizing m e with
  | zero => exact ⟨small, by simp [fifthsIn]⟩
  | succ k ih =>
    unfold fifthsIn
    split
    · rename_i room
      obtain ⟨digits, exponent⟩ := ih e room.2
      exact ⟨digits, by omega⟩
    · obtain ⟨digits, exponent⟩ := ih (m := m / 2) (e + 1) (by omega)
      exact ⟨digits, by omega⟩

theorem limitPlaces_bounds (k places : ℕ) {m : ℕ} (small : m < 2 ^ 96) (few : places ≤ k + 28) :
    (limitPlaces k m places).1 < 2 ^ 96 ∧ (limitPlaces k m places).2 ≤ 28 := by
  induction k generalizing m places with
  | zero => exact ⟨small, by simpa [limitPlaces] using few⟩
  | succ k ih =>
    unfold limitPlaces
    split
    · exact ⟨by decide, by decide⟩
    · exact ih _ (dropDigit_lt small (by decide)) (by omega)

theorem limitBits_bounds (places : ℕ) {m : ℕ} (small : m < 2 ^ 96) :
    (limitBits places m).1 < 2 ^ 96 ∧ (limitBits places m).2 ≤ places := by
  induction places generalizing m with
  | zero => exact ⟨small, Nat.le_refl _⟩
  | succ places ih =>
    unfold limitBits
    split
    · obtain ⟨digits, fewer⟩ := ih (dropDigit_lt small (by decide))
      exact ⟨digits, Nat.le_succ_of_le fewer⟩
    · exact ⟨small, Nat.le_refl _⟩

theorem stripPlaces_bounds (places : ℕ) {m : ℕ} (small : m < 2 ^ 96) :
    (stripPlaces places m).1 < 2 ^ 96 ∧ (stripPlaces places m).2 ≤ places := by
  induction places generalizing m with
  | zero => exact ⟨small, Nat.le_refl _⟩
  | succ places ih =>
    unfold stripPlaces
    split
    · obtain ⟨digits, fewer⟩ := ih (m := m / 10) (by omega)
      exact ⟨digits, Nat.le_succ_of_le fewer⟩
    · exact ⟨small, Nat.le_refl _⟩

/-- A magnitude with nothing but places always has a decimal. -/
theorem exists_ofScaled? (negative : Bool) {m : ℕ} {e : ℤ} (small : m < 2 ^ 96) (places : e ≤ 0) :
    ∃ a, ofScaled? negative m e = some a := by
  have tens : e.toNat = 0 := by omega
  obtain ⟨small, few⟩ := limitPlaces_bounds ((-e).toNat - 28) (-e).toNat small (by omega)
  obtain ⟨small, fewer⟩ := limitBits_bounds (limitPlaces ((-e).toNat - 28) m (-e).toNat).2 small
  obtain ⟨small, fewest⟩ := stripPlaces_bounds _ small
  unfold ofScaled?
  rw [tens]
  exact ⟨_, dif_pos ⟨small, by omega⟩⟩

theorem exists_ofFloat?_of_places {x : Float} {negative : Bool} {m : ℕ} {e : ℤ}
    (parts : Binary64.ofFloat x = .finite negative m e) (places : e < 0) : ∃ a, ofFloat? x = some a := by
  have small := (Binary64.range_of_ofFloat parts).1
  unfold ofFloat?
  rw [parts]
  split
  · exact ⟨_, rfl⟩
  · rename_i same
    cases same
    obtain ⟨digits, exponent⟩ := fifthsIn_bounds (-e).toNat e (m := m) (by omega)
    rw [if_pos places]
    exact exists_ofScaled? negative digits (by omega)
  · rename_i other
    exact absurd rfl (other _ _ _)

theorem fifthsIn_odd {t : ℕ} (odd : t % 2 = 1) (j : ℕ) (e : ℤ) (small : t * 5 ^ j < 2 ^ 96) :
    fifthsIn j t e = (t * 5 ^ j, e) := by
  induction j generalizing t with
  | zero => simp [fifthsIn]
  | succ j ih =>
    have next : 5 * t * 5 ^ j = t * 5 ^ (j + 1) := by rw [Nat.pow_succ, Nat.mul_comm (5 ^ j), ← Nat.mul_assoc, Nat.mul_comm t]
    have room : 5 * t < 2 ^ 96 := by
      have := Nat.le_mul_of_pos_right (5 * t) (Nat.pow_pos (n := j) (show 0 < 5 by decide))
      omega
    rw [fifthsIn, if_pos ⟨odd, room⟩, ih (by omega) (by omega), next]

theorem ofScaled?_odd {negative : Bool} {m j : ℕ} (odd : m % 2 = 1) (small : m < 2 ^ 52) (places : j ≤ 28) :
    ofScaled? negative m (-j) = make? negative m j := by
  have few : limitPlaces (j - 28) m j = (m, j) := by
    rw [Nat.sub_eq_zero_of_le places]
    rfl
  have bits : limitBits j m = (m, j) := by
    cases j with
    | zero => rfl
    | succ j => rw [limitBits, if_neg (by omega)]
  have strip : stripPlaces j m = (m, j) := by
    cases j with
    | zero => rfl
    | succ j => rw [stripPlaces, if_neg (by omega)]
  have tens : (-(j : ℤ)).toNat = 0 := by omega
  have up : (-(-(j : ℤ))).toNat = j := by omega
  unfold ofScaled?
  rw [tens, up]
  simp only [tensIn, few, bits, strip, Option.bind_eq_bind, Option.bind_some]

/-- An odd number over a power of two, with few enough digits as a decimal, is taken as it is. -/
theorem ofFloat?_odd {x : Float} {negative : Bool} {m t i j : ℕ} {e : ℤ}
    (parts : Binary64.ofFloat x = .finite negative m e) (digits : m = t * 2 ^ i) (exponent : e = -(j + i : ℕ))
    (odd : t % 2 = 1) (some : 0 < j) (places : j ≤ 28) (small : t * 5 ^ j < 2 ^ 52) :
    ofFloat? x = make? negative (t * 5 ^ j) j := by
  have nonzero : m ≠ 0 := by
    rw [digits]
    exact Nat.ne_of_gt (Nat.mul_pos (by omega) (Nat.two_pow_pos i))
  have fives : 5 ^ j % 2 = 1 := by
    rw [Nat.pow_mod, Nat.one_pow]
  have odd' : t * 5 ^ j % 2 = 1 := by rw [Nat.mul_mod, odd, fives]
  have steps : (-e).toNat = j + i := by omega
  have place : e + i = -(j : ℤ) := by omega
  unfold ofFloat?
  rw [parts]
  split
  · rename_i same
    cases same
    exact absurd rfl nonzero
  · rename_i same
    cases same
    rw [if_pos (by omega), steps, digits, fifthsIn_add, place, fifthsIn_odd odd j _ (by omega)]
    exact ofScaled?_odd odd' small places
  · rename_i other
    exact absurd rfl (other _ _ _)

/-- A float has a decimal below the bound of the mantissa, and none above it. -/
theorem exists_ofFloat?_iff {x : Float} {q : ℚ} (value : (Binary64.ofFloat x).rational? = some q) :
    (∃ a, ofFloat? x = some a) ↔ |q| < (2 ^ 96 : ℕ) := by
  obtain ⟨negative, m, e, parts, magnitude, _⟩ := Binary64.parts_of_rational? value
  rw [← magnitude]
  by_cases places : e < 0
  · have digits := (Binary64.range_of_ofFloat parts).1
    obtain ⟨k, exponent⟩ : ∃ k : ℕ, (0 : ℤ) = e + k := ⟨(-e).toNat, by omega⟩
    have below : (m : ℚ) * 2 ^ e ≤ m * 2 ^ (e + k) :=
      Binary64.le_scaled_iff.mpr (Nat.le_mul_of_pos_right m (Nat.two_pow_pos k))
    rw [← exponent, zpow_zero, mul_one] at below
    have small : (m : ℚ) < (2 ^ 96 : ℕ) := Nat.cast_lt.mpr (by omega)
    exact iff_of_true (exists_ofFloat?_of_places parts places) (lt_of_le_of_lt below small)
  · obtain ⟨k, rfl⟩ := Int.eq_ofNat_of_zero_le (by omega : 0 ≤ e)
    have whole : (m : ℚ) * 2 ^ (k : ℤ) = (m * 2 ^ k : ℕ) := by rw [← Binary64.cast_two_pow, Nat.cast_mul]
    rw [ofFloat?_whole parts whole, whole, Nat.cast_lt]
    constructor
    · rintro ⟨a, made⟩
      by_cases small : m * 2 ^ k < 2 ^ 96
      · exact small
      · rw [make?_eq_none (by omega)] at made
        cases made
    · intro small
      obtain ⟨a, made, _⟩ := make?_isInt negative small
      exact ⟨a, made⟩

/-! ### The float of a decimal -/

section

open Binary64

/-- The magnitude of `m / 10 ^ s` as a float. -/
def magnitude (m s : ℕ) : Float :=
  let whole := Float.ofNat (m / 10 ^ s)
  let fraction := Float.ofNat (m % 10 ^ s) / Float.ofNat (10 ^ s)
  if fraction == 0 then whole
  else
    let places := Binary64.pow 10 s
    Binary64.roundHalfAway ((whole + fraction) * places) / places

variable {m s : ℕ}

theorem ten_pow_le (places : s ≤ 28) : 10 ^ s ≤ 2 ^ 94 := by
  calc 10 ^ s ≤ 10 ^ 28 := Nat.pow_le_pow_right (by decide) places
    _ ≤ 2 ^ 94 := by decide

/-- The float of a decimal is finite. -/
theorem exists_holds_magnitude (digits : m < 2 ^ 96) (places : s ≤ 28) : ∃ q, Holds (magnitude m s) q := by
  have tens : 0 < 10 ^ s := Nat.pow_pos (by decide)
  have room := ten_pow_le places
  have small : m / 10 ^ s ≤ 2 ^ 96 := Nat.le_of_lt (Nat.lt_of_le_of_lt (Nat.div_le_self _ _) digits)
  have rest : m % 10 ^ s ≤ 2 ^ 94 := Nat.le_trans (Nat.le_of_lt (Nat.mod_lt _ tens)) room
  obtain ⟨whole, holdsWhole, wholeLe, _⟩ := exists_holds_ofNat small (by decide)
  obtain ⟨n, holdsN, nLe, _⟩ := exists_holds_ofNat rest (by decide)
  obtain ⟨d, holdsD, _, dGe⟩ := exists_holds_ofNat room (by decide)
  have positive : 0 < d := lt_of_lt_of_le one_pos (dGe tens)
  obtain ⟨fraction, holdsFraction, fractionLe, _⟩ :=
    (holdsN.div holdsD (ne_of_gt positive)).exists_holds (representable_two_pow (k := 94) (by decide))
      (le_trans (div_le_self holdsN.nonneg (dGe tens)) nLe)
  obtain ⟨unit, holdsUnit, unitGe, unitLe⟩ := exists_of_isBetween (isBetween_pow ⟨s, by omega⟩)
  unfold magnitude
  dsimp only
  split
  · exact ⟨whole, holdsWhole⟩
  · have sumLe : whole + fraction ≤ (2 ^ 97 : ℕ) := by
      calc whole + fraction ≤ (2 ^ 96 : ℕ) + (2 ^ 94 : ℕ) := add_le_add wholeLe fractionLe
        _ ≤ (2 ^ 97 : ℕ) := by exact_mod_cast (show 2 ^ 96 + 2 ^ 94 ≤ 2 ^ 97 by decide)
    obtain ⟨sum, holdsSum, sumLe, _⟩ :=
      (holdsWhole.add holdsFraction).exists_holds (representable_two_pow (k := 97) (by decide)) sumLe
    have productLe : sum * unit ≤ (2 ^ 191 : ℕ) := by
      calc sum * unit ≤ (2 ^ 97 : ℕ) * (2 ^ 94 : ℕ) :=
            mul_le_mul sumLe unitLe holdsUnit.nonneg (Nat.cast_nonneg _)
        _ = (2 ^ 191 : ℕ) := by exact_mod_cast (show 2 ^ 97 * 2 ^ 94 = 2 ^ 191 by decide)
    obtain ⟨product, holdsProduct, productLe, _⟩ :=
      (holdsSum.mul holdsUnit).exists_holds (representable_two_pow (k := 191) (by decide)) productLe
    obtain ⟨rounded, holdsRounded, roundedLe⟩ := holdsProduct.roundHalfAway_le productLe (by decide) (by decide)
    obtain ⟨q, holds, _⟩ := (holdsRounded.div holdsUnit (ne_of_gt (lt_of_lt_of_le one_pos unitGe))).exists_holds
      (representable_two_pow (k := 191) (by decide)) (le_trans (div_le_self holdsRounded.nonneg unitGe) roundedLe)
    exact ⟨q, holds⟩

/-- A decimal that is a float, with as many places as a float has powers of ten, is written as that float. -/
theorem magnitude_holds (digits : m < 2 ^ 53) (places : s ≤ 22) (float : Representable ((m : ℚ) / (10 ^ s : ℕ))) :
    Holds (magnitude m s) ((m : ℚ) / (10 ^ s : ℕ)) := by
  have tens : 0 < 10 ^ s := Nat.pow_pos (by decide)
  have unit : ((10 ^ s : ℕ) : ℚ) ≠ 0 := cast_pow_ne_zero (by decide) s
  have split : (m : ℚ) / (10 ^ s : ℕ) = (m / 10 ^ s : ℕ) + (m % 10 ^ s : ℕ) / (10 ^ s : ℕ) := by
    have sum : (m : ℚ) = (10 ^ s : ℕ) * (m / 10 ^ s : ℕ) + (m % 10 ^ s : ℕ) := by
      exact_mod_cast (Nat.div_add_mod m (10 ^ s)).symm
    conv_lhs => rw [sum]
    rw [add_div, mul_div_cancel_left₀ _ unit]
  have power : Holds (Binary64.pow 10 s) (10 ^ s : ℕ) := holds_of_isWhole (isWhole_pow ⟨s, by omega⟩)
  have fraction := representable_rest tens float
  have holdsWhole : Holds (Float.ofNat (m / 10 ^ s)) (m / 10 ^ s : ℕ) :=
    (nearest_ofNat _).holds (representable_natCast (Nat.lt_of_le_of_lt (Nat.div_le_self _ _) digits))
  have holdsRest : Holds (Float.ofNat (m % 10 ^ s)) (m % 10 ^ s : ℕ) :=
    (nearest_ofNat _).holds (representable_natCast (Nat.lt_of_le_of_lt (Nat.mod_le _ _) digits))
  have holdsTens : Holds (Float.ofNat (10 ^ s)) (10 ^ s : ℕ) := (nearest_ofNat _).holds power.representable
  have holdsFraction := (holdsRest.div holdsTens unit).holds fraction
  unfold magnitude
  dsimp only
  split
  · rename_i zero
    rw [holdsFraction.beq_zero, decide_eq_true_eq] at zero
    rw [split, zero, add_zero]
    exact holdsWhole
  · have sum := holdsWhole.add holdsFraction
    rw [← split] at sum
    have product := (sum.holds float).mul power
    rw [div_mul_cancel₀ _ unit] at product
    have whole := (product.holds (representable_natCast digits)).roundHalfAway_whole digits
    exact (whole.div power unit).holds float

/-- A decimal without anything behind its point is written as its whole part. -/
theorem magnitude_whole (places : s ≤ 28) (whole : m % 10 ^ s = 0) : magnitude m s = Float.ofNat (m / 10 ^ s) := by
  have tens : 0 < 10 ^ s := Nat.pow_pos (by decide)
  obtain ⟨d, holdsD, _, dGe⟩ := exists_holds_ofNat (ten_pow_le places) (by decide)
  have positive : 0 < d := lt_of_lt_of_le one_pos (dGe tens)
  have holdsZero : Holds (Float.ofNat 0) (0 : ℕ) := (nearest_ofNat 0).holds (representable_natCast (by decide))
  have quotient := holdsZero.div holdsD (ne_of_gt positive)
  rw [Nat.cast_zero, zero_div] at quotient
  have nothing := (quotient.holds holds_zero.representable).beq_zero
  unfold magnitude
  dsimp only
  rw [whole, nothing, decide_eq_true rfl, if_pos rfl]

variable {a : Decimal}

theorem toFloat_eq (some : a.scale = 0 → a.isZero = false) :
    a.toFloat = signed a.negative (magnitude a.mantissa a.scale) := by
  unfold Decimal.toFloat
  dsimp only
  by_cases whole : a.scale = 0
  · have rest : a.mantissa % 10 ^ a.scale = 0 := by
      rw [whole]
      exact Nat.mod_one _
    rw [if_pos whole, some whole, if_neg Bool.false_ne_true, magnitude_whole a.scale_le rest]
  · rw [if_neg whole]
    unfold magnitude
    dsimp only
    split <;> rfl

/-- A decimal that is an integer is written as one. -/
theorem exists_toFloat_whole (whole : a.mantissa % 10 ^ a.scale = 0) :
    ∃ z : ℤ, (ofFloat a.toFloat).rational? = some (z : ℚ) := by
  by_cases zero : a.scale = 0 ∧ a.isZero = true
  · refine ⟨0, ?_⟩
    unfold Decimal.toFloat
    rw [if_pos zero.1, if_pos zero.2]
    decide +kernel
  · have some : a.scale = 0 → a.isZero = false := fun places => by simpa [places] using zero
    have small : a.mantissa / 10 ^ a.scale ≤ 2 ^ 96 :=
      Nat.le_of_lt (Nat.lt_of_le_of_lt (Nat.div_le_self _ _) a.mantissa_lt)
    obtain ⟨t, holds⟩ := exists_holds_ofNat_whole small (by decide)
    rw [toFloat_eq some, magnitude_whole a.scale_le whole, rational?_signed holds]
    exact ⟨if a.negative then -t else t, by split <;> push_cast <;> rfl⟩

/-- A decimal other than zero and its negation are written as a finite float and its negation. -/
theorem neg_toFloat (some : a.isZero = false) : (ofFloat a.toFloat).isFinite = true ∧ a.neg.toFloat = -a.toFloat := by
  obtain ⟨q, m, e, parts, _⟩ := exists_holds_magnitude a.mantissa_lt a.scale_le
  have parts' := signed_parts parts a.negative
  have written := toFloat_eq fun _ => some
  have turned : a.neg.toFloat = signed (!a.negative) (magnitude a.mantissa a.scale) := toFloat_eq (a := a.neg) fun _ => some
  rw [← written] at parts'
  refine ⟨?_, ?_⟩
  · rw [parts']
    rfl
  · rw [turned]
    exact eq_of_ofFloat (signed_parts parts (!a.negative)) (ofFloat_neg parts')

end

/-- An integer that is a float is written as that float. -/
theorem IsInt.toFloat {a : Decimal} (whole : a.IsInt z) (float : Binary64.Representable (z.natAbs : ℕ)) :
    (Binary64.ofFloat a.toFloat).rational? = some (z : ℚ) := by
  have size := whole.natAbs
  have holds := (Binary64.nearest_ofNat a.mantissa).holds (size ▸ float)
  have written := Binary64.rational?_signed holds a.negative
  have value : (if a.negative then -(a.mantissa : ℚ) else a.mantissa) = z := by
    rw [← whole.value, signedMantissa]
    split <;> push_cast <;> rfl
  rw [value] at written
  unfold Decimal.toFloat
  dsimp only
  rw [whole.places, Nat.pow_zero, Nat.div_one, if_pos rfl]
  by_cases zero : a.isZero = true
  · have nothing : z = 0 := by
      rw [whole.isZero] at zero
      exact of_decide_eq_true zero
    rw [if_pos zero, nothing]
    decide +kernel
  · rw [if_neg zero]
    exact written

/-! ### There and back -/

section

open Binary64

theorem zeros_behind (t i j : ℕ) : ((t * 2 ^ i : ℕ) : ℚ) * 2 ^ (-(j + i : ℕ) : ℤ) = t / (2 ^ j : ℕ) := by
  have exponent : (-(j + i : ℕ) : ℤ) + i = -j := by omega
  rw [Nat.cast_mul, mul_assoc, ← two_zpow_add, exponent, zpow_neg, ← cast_two_pow, div_eq_mul_inv]

/-- A fraction whose decimal has few enough digits and places is an odd number over a power of two. -/
theorem exists_odd {m n s : ℕ} {e : ℤ} (value : (m : ℚ) * 2 ^ e = n / (10 ^ s : ℕ)) (fraction : ∀ t : ℕ, (m : ℚ) * 2 ^ e ≠ t) :
    ∃ t i j, m = t * 2 ^ i ∧ e = -(j + i : ℕ) ∧ t % 2 = 1 ∧ 0 < j ∧ j ≤ s ∧ t * 5 ^ j ≤ n := by
  have nonzero : m ≠ 0 := by
    rintro rfl
    exact fraction 0 (by rw [Nat.cast_zero, zero_mul])
  obtain ⟨i, t, odd, mantissa⟩ := Nat.exists_eq_two_pow_mul_odd nonzero
  obtain rfl : m = t * 2 ^ i := mantissa.trans (Nat.mul_comm _ _)
  obtain ⟨j, rfl⟩ : ∃ j : ℕ, e = -(j + 1 + i : ℕ) := by
    by_cases whole : 0 ≤ e + i
    · obtain ⟨k, exponent⟩ := Int.eq_ofNat_of_zero_le whole
      refine absurd ?_ (fraction (t * 2 ^ k))
      rw [Nat.cast_mul, mul_assoc, ← two_zpow_add, exponent, Nat.cast_mul, cast_two_pow]
    · exact ⟨(-e - i - 1).toNat, by omega⟩
  have tens : ((10 ^ s : ℕ) : ℚ) ≠ 0 := cast_pow_ne_zero (by decide) s
  have halves : ((2 ^ (j + 1) : ℕ) : ℚ) ≠ 0 := cast_pow_ne_zero two_pos (j + 1)
  rw [zeros_behind, div_eq_div_iff halves tens] at value
  have crossed : t * 10 ^ s = n * 2 ^ (j + 1) := by exact_mod_cast value
  have factors : 10 ^ s = 5 ^ s * 2 ^ s := (Nat.mul_pow 5 2 s)
  have dvd : 2 ^ (j + 1) ∣ t * 5 ^ s * 2 ^ s := by
    rw [Nat.mul_assoc, ← factors, crossed]
    exact Nat.dvd_mul_left _ _
  have odd' : Odd (t * 5 ^ s) := odd.mul (Odd.pow (by decide))
  have coprime : Nat.Coprime (2 ^ (j + 1)) (t * 5 ^ s) := Nat.Coprime.pow_left _ (Nat.coprime_two_left.mpr odd')
  have le : j + 1 ≤ s := (Nat.pow_dvd_pow_iff_le_right (by decide)).mp (coprime.dvd_of_dvd_mul_left dvd)
  refine ⟨t, i, j + 1, rfl, rfl, Nat.odd_iff.mp odd, by omega, le, ?_⟩
  refine Nat.le_of_mul_le_mul_right ?_ (Nat.two_pow_pos (j + 1))
  calc t * 5 ^ (j + 1) * 2 ^ (j + 1) = t * 10 ^ (j + 1) := by rw [Nat.mul_assoc, ← Nat.mul_pow]
    _ ≤ t * 10 ^ s := Nat.mul_le_mul_left t (Nat.pow_le_pow_right (by decide) le)
    _ = n * 2 ^ (j + 1) := crossed

/-- A float whose decimal has few enough digits and places is read back from it. -/
theorem toFloat_ofFloat? {x : Float} {q : ℚ} {n s : ℕ} (value : (ofFloat x).rational? = some q)
    (fraction : ∀ z : ℤ, q ≠ z) (short : |q| = n / (10 ^ s : ℕ)) (digits : n < 2 ^ 52) (places : s ≤ 22) :
    ∃ a, ofFloat? x = some a ∧ a.toFloat = x := by
  obtain ⟨negative, m, e, parts, magnitude, sign⟩ := parts_of_rational? value
  have fraction' : ∀ t : ℕ, (m : ℚ) * 2 ^ e ≠ t := by
    intro t whole
    rw [magnitude] at whole
    rw [whole] at sign
    cases negative with
    | false => exact fraction t sign.symm
    | true => exact fraction (-t) (by rw [← sign, if_pos rfl, Int.cast_neg, Int.cast_natCast])
  obtain ⟨t, i, j, mantissa, exponent, odd, some, fewer, small⟩ := exists_odd (magnitude.trans short) fraction'
  have decimal : ((t * 5 ^ j : ℕ) : ℚ) / (10 ^ j : ℕ) = m * 2 ^ e := by
    have fives : ((5 ^ j : ℕ) : ℚ) ≠ 0 := cast_pow_ne_zero (by decide) j
    have factors : 10 ^ j = 2 ^ j * 5 ^ j := Nat.mul_pow 2 5 j
    rw [mantissa, exponent, zeros_behind, factors, Nat.cast_mul, Nat.cast_mul, mul_div_mul_right _ _ fives]
  have positive : 0 < t * 5 ^ j := Nat.mul_pos (by omega) (Nat.pow_pos (by decide))
  have room : t * 5 ^ j < 2 ^ 96 ∧ j ≤ 28 := ⟨by omega, by omega⟩
  refine ⟨⟨negative, t * 5 ^ j, j, room.1, room.2⟩, ?_, ?_⟩
  · rw [ofFloat?_odd parts mantissa exponent odd some room.2 (by omega), make?, dif_pos room]
  · have fits := fits_of_ofFloat parts
    have float : Representable ((t * 5 ^ j : ℕ) / (10 ^ j : ℕ) : ℚ) := ⟨m, e, fits, decimal.symm⟩
    have holds := magnitude_holds (by omega) (Nat.le_trans fewer places) float
    have same := holds.unique ⟨m, e, ofFloat_pack fits, decimal.symm⟩
    have nonzero : (⟨negative, t * 5 ^ j, j, room.1, room.2⟩ : Decimal).isZero = false :=
      decide_eq_false (Nat.ne_of_gt positive)
    rw [toFloat_eq fun _ => nonzero, same]
    exact eq_of_ofFloat (signed_parts (ofFloat_pack fits) negative) parts

end

end Decimal

end DocChain
