import DocChain.Proofs.Rounding
import DocChain.Expr.Text
import DocChain.Token.Lexer

/-!
# The text of a float

The shortest decimal of a float lies in its interval, so what is written of it is read as the float. The least
and the greatest float that are written without an exponent bound the place of the first digit.
-/

namespace DocChain

/-! ### Shortest decimals -/

namespace Shortest

section
variable {m n : Nat} {e place : Int} {i : Interval}

/-- The value itself lies in the interval, and so does what is less than a quarter of the last place below. -/
theorem Interval.holds_below (inside : i.low < i.value ∧ i.value < i.high)
    (fine : (factors i.unit place).2 ≤ (factors i.unit place).1) :
    i.holds place (i.value * (factors i.unit place).1 / (factors i.unit place).2) = true := by
  have positive : 0 < (factors i.unit place).2 :=
    Nat.mul_pos (Nat.two_pow_pos _) (Nat.pow_pos (by decide))
  rw [Interval.holds_iff]
  generalize (factors i.unit place).1 = up at *
  generalize (factors i.unit place).2 = down at *
  have split := Nat.div_add_mod (i.value * up) down
  have rest := Nat.mod_lt (i.value * up) positive
  have low : (i.low + 1) * up ≤ i.value * up := Nat.mul_le_mul_right up inside.1
  have high : (i.value + 1) * up ≤ i.high * up := Nat.mul_le_mul_right up inside.2
  rw [Nat.add_mul, Nat.one_mul] at low high
  rw [Nat.mul_comm down] at split
  unfold Interval.Between
  split <;> omega

/-- What the search takes lies in the interval, if the finest grid is fine enough. -/
theorem Interval.holds_search (tie : Tie) (inside : i.low < i.value ∧ i.value < i.high) (fuel : Nat)
    (fine : (factors i.unit (place - fuel)).2 ≤ (factors i.unit (place - fuel)).1) :
    i.holds (i.search tie fuel place).exponent (i.search tie fuel place).significand = true := by
  induction fuel generalizing place with
  | zero =>
    rw [search]
    exact holds_below inside (by simpa using fine)
  | succ fuel ih =>
    rw [search]
    split
    · rename_i n taken
      exact holds_of_onGrid? taken
    · refine ih ?_
      rw [Int.sub_sub, Int.add_comm 1]
      exact fine

/-- The place of a trailing zero does not matter. -/
theorem Interval.holds_strip (fuel : Nat) (d : Shortest) (taken : i.holds d.exponent d.significand = true) :
    i.holds (strip fuel d).exponent (strip fuel d).significand = true := by
  induction fuel generalizing d with
  | zero => exact taken
  | succ fuel ih =>
    rw [strip]
    split
    · rename_i zero
      refine ih _ ?_
      have whole : d.significand = d.significand / 10 * 10 := by omega
      rw [whole] at taken
      dsimp only
      generalize d.significand / 10 = n at *
      rw [holds_iff] at taken ⊢
      by_cases fraction : d.exponent < 0
      · obtain ⟨places, before⟩ : ∃ k, (-d.exponent).toNat = k + 1 := ⟨(-d.exponent - 1).toNat, by omega⟩
        have behind : (-(d.exponent + 1)).toNat = places := by omega
        have whole : d.exponent.toNat = 0 ∧ (d.exponent + 1).toNat = 0 := by omega
        rw [← between_scale (c := 10) (by decide)]
        simp only [factors, before, behind, whole, Nat.pow_zero, Nat.mul_one] at taken ⊢
        rw [Nat.pow_succ, ← Nat.mul_assoc, Nat.mul_right_comm n] at taken
        exact taken
      · have places : (-d.exponent).toNat = 0 ∧ (-(d.exponent + 1)).toNat = 0 := by omega
        have whole : (d.exponent + 1).toNat = d.exponent.toNat + 1 := by omega
        simp only [factors, places, whole, Nat.pow_succ] at taken ⊢
        have same : n * 10 * (2 ^ (-i.unit).toNat * 10 ^ d.exponent.toNat) =
            n * (2 ^ (-i.unit).toNat * (10 ^ d.exponent.toNat * 10)) := by grind
        rw [same] at taken
        exact taken
    · exact taken

end

/-! ### Floats that are written without an exponent -/

/-- The floats from `1e-4` to below `1e16`, by their parts. -/
structure Positional (m : Nat) (e : Int) : Prop where
  low : 2 ^ 52 ≤ m
  high : m < 2 ^ 53
  least : -66 < e ∨ e = -66 ∧ 7378697629483821 ≤ m
  greatest : e < 1 ∨ e = 1 ∧ m < 5000000000000000

section
variable {m : Nat} {e : Int}

theorem Positional.normal (positional : Positional m e) : Binary64.Normal m e :=
  ⟨positional.low, positional.high, by have := positional.least; omega⟩

/-- The grid of a place against quarters of the last place. -/
theorem factors_quarter (e_le : e ≤ 1) (place : Int) :
    factors (e - 2) place = (10 ^ (-place).toNat, 2 ^ (2 - e).toNat * 10 ^ place.toNat) := by
  have none : (e - 2).toNat = 0 := by omega
  have some : (-(e - 2)).toNat = (2 - e).toNat := by omega
  rw [factors, none, some, Nat.pow_zero, Nat.one_mul]

/-- The place of the first digit is not above it. -/
theorem reaches_decade (positional : Positional m e) : reaches m e (decade m e) = true := by
  have table : ∀ k : Nat, k < 68 →
      reaches (2 ^ 52) ((k : Int) - 66) (((52 + ((k : Int) - 66)) * 30103).fdiv 100000 - 1) = true := by
    decide +kernel
  have bits := positional.normal.log2
  have least := positional.least
  have greatest := positional.greatest
  unfold decade
  dsimp only
  split
  · assumption
  · split
    · assumption
    · rw [bits]
      have known := table (e + 66).toNat (by omega)
      have exponent : (((e + 66).toNat : Nat) - 66 : Int) = e := by omega
      rw [exponent] at known
      unfold reaches at known ⊢
      simp only [decide_eq_true_eq] at known ⊢
      exact Nat.le_trans known (Nat.mul_le_mul_right _ positional.low)

/-- Seventeen digits are finer than a quarter of the last place. -/
theorem fine_of_reaches (positional : Positional m e) {place : Int} (reached : reaches m e place = true) :
    (factors (e - 2) (place - 17)).2 ≤ (factors (e - 2) (place - 17)).1 := by
  have := positional.high
  have greatest := positional.greatest
  rw [reaches, decide_eq_true_eq] at reached
  simp only [factors] at reached
  have quarter : 2 ^ (2 - e).toNat * 10 ^ place.toNat ≤ 4 * m * 10 ^ (-place).toNat := by
    have units : 2 ^ (2 - e).toNat * 2 ^ e.toNat = 4 * 2 ^ (-e).toNat := by
      rw [← Nat.pow_add, show (2 - e).toNat + e.toNat = 2 + (-e).toNat by omega, Nat.pow_add]
    refine Nat.le_of_mul_le_mul_right ?_ (Nat.two_pow_pos e.toNat)
    calc 2 ^ (2 - e).toNat * 10 ^ place.toNat * 2 ^ e.toNat = 4 * (2 ^ (-e).toNat * 10 ^ place.toNat) := by grind
      _ ≤ 4 * (m * (2 ^ e.toNat * 10 ^ (-place).toNat)) := Nat.mul_le_mul_left 4 reached
      _ = 4 * m * 10 ^ (-place).toNat * 2 ^ e.toNat := by grind
  have below : place < 17 := by
    by_cases above : 17 ≤ place
    · have none : (-place).toNat = 0 := by omega
      have some : 10 ^ 17 ≤ 10 ^ place.toNat := Nat.pow_le_pow_right (by decide) (by omega)
      have two : 2 ^ 1 ≤ 2 ^ (2 - e).toNat := Nat.pow_le_pow_right (by decide) (by omega)
      have product := Nat.mul_le_mul two some
      rw [none] at quarter
      omega
    · omega
  have none : (place - 17).toNat = 0 := by omega
  rw [factors_quarter (by omega), none, Nat.pow_zero, Nat.mul_one]
  refine Nat.le_of_mul_le_mul_right ?_ (Nat.pow_pos (n := place.toNat) (show 0 < 10 by decide))
  calc 2 ^ (2 - e).toNat * 10 ^ place.toNat ≤ 4 * m * 10 ^ (-place).toNat := quarter
    _ ≤ 10 ^ 17 * 10 ^ (-place).toNat := Nat.mul_le_mul_right _ (by omega)
    _ = 10 ^ (-(place - 17)).toNat * 10 ^ place.toNat := by
      rw [← Nat.pow_add, ← Nat.pow_add]
      congr 1
      omega

theorem holds_of (positional : Positional m e) (tie : Tie) :
    (interval m e).holds (Shortest.of tie m e).exponent (Shortest.of tie m e).significand = true := by
  have := positional.low
  have inside : (interval m e).low < (interval m e).value ∧ (interval m e).value < (interval m e).high := by
    simp only [interval]
    split <;> omega
  exact Interval.holds_strip 17 _ (Interval.holds_search tie inside 17
    (fine_of_reaches positional (reaches_decade positional)))

/-- A decimal of the interval against the ends of the interval. -/
theorem ends_of_holds {place : Int} {n : Nat} (positional : Positional m e)
    (holds : (interval m e).holds place n = true) :
    (interval m e).low * 10 ^ (-place).toNat ≤ n * 10 ^ place.toNat * 2 ^ (2 - e).toNat ∧
      n * 10 ^ place.toNat * 2 ^ (2 - e).toNat ≤ (4 * m + 2) * 10 ^ (-place).toNat := by
  have greatest := positional.greatest
  have between := (Interval.holds_iff place).mp holds
  have unit : (interval m e).unit = e - 2 := rfl
  have high : (interval m e).high = 4 * m + 2 := rfl
  rw [unit, factors_quarter (by omega)] at between
  have same : n * (2 ^ (2 - e).toNat * 10 ^ place.toNat) = n * 10 ^ place.toNat * 2 ^ (2 - e).toNat := by grind
  rw [same] at between
  exact ⟨between.low_le, high ▸ between.le_high⟩

theorem significand_pos {place : Int} {n : Nat} (positional : Positional m e)
    (holds : (interval m e).holds place n = true) : 0 < n := by
  have normal := positional.normal
  have low := normal.ends.2
  have := normal.low
  rcases Nat.eq_zero_or_pos n with rfl | positive
  · have ends := (ends_of_holds positional holds).1
    have some : 0 < (interval m e).low * 10 ^ (-place).toNat := Nat.mul_pos (by omega) (Nat.pow_pos (by decide))
    omega
  · exact positive

section
variable {place : Int} {n last : Nat} (positional : Positional m e) (holds : (interval m e).holds place n = true)
include positional holds

/-- No decimal of the interval is below `1e-4`, unless it is that of the least float. -/
theorem le_first_place (other : ¬ (e = -66 ∧ m = 7378697629483821)) (high : n < 10 ^ (last + 1)) :
    -4 ≤ place + last := by
  obtain ⟨lowEnd, _⟩ := ends_of_holds positional holds
  have interval_low := positional.normal.ends.2
  have := positional.low
  have least := positional.least
  by_cases below : place + last < -4
  · have digits : n * 10 ^ place.toNat * 10 ^ 4 < 10 ^ (-place).toNat := by
      calc n * 10 ^ place.toNat * 10 ^ 4 = n * 10 ^ (place.toNat + 4) := by rw [Nat.mul_assoc, ← Nat.pow_add]
        _ < 10 ^ (last + 1) * 10 ^ (place.toNat + 4) :=
          Nat.mul_lt_mul_of_pos_right high (Nat.pow_pos (by decide))
        _ = 10 ^ (last + 1 + (place.toNat + 4)) := (Nat.pow_add ..).symm
        _ ≤ 10 ^ (-place).toNat := Nat.pow_le_pow_right (by decide) (by omega)
    have scaled : (interval m e).low * 10 ^ 4 < 2 ^ (2 - e).toNat := by
      refine Nat.lt_of_mul_lt_mul_right (a := 10 ^ (-place).toNat) ?_
      calc (interval m e).low * 10 ^ 4 * 10 ^ (-place).toNat
          = (interval m e).low * 10 ^ (-place).toNat * 10 ^ 4 := Nat.mul_right_comm ..
        _ ≤ n * 10 ^ place.toNat * 2 ^ (2 - e).toNat * 10 ^ 4 := Nat.mul_le_mul_right _ lowEnd
        _ = 2 ^ (2 - e).toNat * (n * 10 ^ place.toNat * 10 ^ 4) := by grind
        _ < 2 ^ (2 - e).toNat * 10 ^ (-place).toNat := Nat.mul_lt_mul_of_pos_left digits (Nat.two_pow_pos _)
    rcases least with above | ⟨rfl, least⟩
    · have power : 2 ^ (2 - e).toNat ≤ 2 ^ 67 := Nat.pow_le_pow_right (by decide) (by omega)
      omega
    · have power : (2 - (-66 : Int)).toNat = 68 := rfl
      rw [power] at scaled
      omega
  · omega

/-- No decimal of the interval reaches `1e16`. -/
theorem first_place_le (low : 10 ^ last ≤ n) : place + last ≤ 15 := by
  obtain ⟨_, highEnd⟩ := ends_of_holds positional holds
  have := positional.high
  have greatest := positional.greatest
  by_cases above : 15 < place + last
  · have digits : 10 ^ 16 * 10 ^ (-place).toNat ≤ n * 10 ^ place.toNat := by
      calc 10 ^ 16 * 10 ^ (-place).toNat = 10 ^ (16 + (-place).toNat) := (Nat.pow_add ..).symm
        _ ≤ 10 ^ (last + place.toNat) := Nat.pow_le_pow_right (by decide) (by omega)
        _ = 10 ^ last * 10 ^ place.toNat := Nat.pow_add ..
        _ ≤ n * 10 ^ place.toNat := Nat.mul_le_mul_right _ low
    have scaled : 10 ^ 16 * 2 ^ (2 - e).toNat ≤ 4 * m + 2 := by
      refine Nat.le_of_mul_le_mul_right ?_ (Nat.pow_pos (n := (-place).toNat) (show 0 < 10 by decide))
      calc 10 ^ 16 * 2 ^ (2 - e).toNat * 10 ^ (-place).toNat
          = 10 ^ 16 * 10 ^ (-place).toNat * 2 ^ (2 - e).toNat := Nat.mul_right_comm ..
        _ ≤ n * 10 ^ place.toNat * 2 ^ (2 - e).toNat := Nat.mul_le_mul_right _ digits
        _ ≤ (4 * m + 2) * 10 ^ (-place).toNat := highEnd
    rcases greatest with below | ⟨rfl, greatest⟩
    · have power : 2 ^ 2 ≤ 2 ^ (2 - e).toNat := Nat.pow_le_pow_right (by decide) (by omega)
      have product := Nat.mul_le_mul_left (10 ^ 16) power
      omega
    · have power : (2 - (1 : Int)).toNat = 1 := rfl
      rw [power] at scaled
      omega
  · omega

end

/-- A decimal of the interval as a quotient, with any number of zeros behind it. -/
theorem near_of_holds {place : Int} {n : Nat} (positional : Positional m e)
    (holds : (interval m e).holds place n = true) (zeros : Nat) :
    Binary64.Near m e (n * 10 ^ place.toNat * 10 ^ zeros) (10 ^ ((-place).toNat + zeros)) 0 := by
  have greatest := positional.greatest
  have between := (Interval.holds_iff place).mp holds
  have unit : (interval m e).unit = e - 2 := rfl
  rw [unit, factors_quarter (by omega), ← Interval.between_scale (c := 10 ^ zeros) (Nat.pow_pos (by decide))] at between
  refine .of_between (2 - e).toNat 0 (by omega) ?_
  have numerator : n * 10 ^ place.toNat * 10 ^ zeros * 2 ^ (2 - e).toNat =
      n * (2 ^ (2 - e).toNat * 10 ^ place.toNat) * 10 ^ zeros := by grind
  rw [numerator, Nat.pow_zero, Nat.mul_one, Nat.pow_add]
  exact between

end

end Shortest

/-! ### Positional notation -/

namespace FloatLayout

open Lexer (digitsValue)

/-- Digits on both sides of a point, which write a whole number over a power of ten. -/
def Writes (text : List Char) (numerator places : Nat) : Prop :=
  ∃ whole fraction, text = whole ++ '.' :: fraction ∧ whole ≠ [] ∧ fraction ≠ [] ∧
    (∀ c ∈ whole, c.isDigit = true) ∧ (∀ c ∈ fraction, c.isDigit = true) ∧
    digitsValue (whole ++ fraction) = numerator ∧ fraction.length = places

theorem digitsValue_toDigits (n : Nat) : digitsValue (Nat.toDigits 10 n) = n :=
  Nat.ofDigitChars_ten_toDigits

theorem digitsValue_leading (zeros : Nat) (digits : List Char) :
    digitsValue (List.replicate zeros '0' ++ digits) = digitsValue digits := by
  have value := Nat.ofDigitChars_append (b := 10) (l := List.replicate zeros '0') (m := digits) 0
  rw [Nat.ofDigitChars_replicate_zero, Nat.mul_zero] at value
  exact value

theorem digitsValue_trailing (digits : List Char) (zeros : Nat) :
    digitsValue (digits ++ List.replicate zeros '0') = digitsValue digits * 10 ^ zeros := by
  have value := Nat.ofDigitChars_append (b := 10) (l := digits) (m := List.replicate zeros '0') 0
  rw [Nat.ofDigitChars_replicate_zero, Nat.mul_comm] at value
  exact value

theorem isDigit_toDigits (n : Nat) : ∀ c ∈ Nat.toDigits 10 n, c.isDigit = true :=
  fun _ known => Nat.isDigit_of_mem_toDigits (by decide) (by decide) known

theorem isDigit_zeros (zeros : Nat) : ∀ c ∈ List.replicate zeros '0', c.isDigit = true := by
  intro c known
  rw [List.eq_of_mem_replicate known]
  rfl

/-- The digits of `n * 10 ^ place` in positional notation. -/
theorem positionalText_writes (n : Nat) (place : Int) :
    ∃ zeros, Writes (exprFloat.positionalText (Nat.toDigits 10 n) (place + (Nat.toDigits 10 n).length - 1))
      (n * 10 ^ place.toNat * 10 ^ zeros) ((-place).toNat + zeros) := by
  have some : 0 < (Nat.toDigits 10 n).length := Nat.length_toDigits_pos
  have digits := isDigit_toDigits n
  have value := digitsValue_toDigits n
  generalize Nat.toDigits 10 n = text at *
  have nonempty : text ≠ [] := List.ne_nil_of_length_pos some
  unfold positionalText
  by_cases below : place + text.length - 1 < 0
  · rw [if_pos below]
    have whole : place.toNat = 0 := by omega
    have length : (-(place + text.length - 1) - 1).toNat + text.length = (-place).toNat := by omega
    refine ⟨0, ['0'], FloatLayout.zeros _ ++ text, rfl, by simp, by simp [nonempty], isDigit_zeros 1, ?_, ?_, ?_⟩
    · exact List.forall_mem_append.mpr ⟨isDigit_zeros _, digits⟩
    · have leading := digitsValue_leading ((-(place + text.length - 1) - 1).toNat + 1) text
      rw [value] at leading
      rw [whole, Nat.pow_zero, Nat.mul_one, Nat.mul_one]
      exact leading
    · rw [List.length_append, FloatLayout.zeros, List.length_replicate, length, Nat.add_zero]
  · rw [if_neg below]
    dsimp only
    by_cases whole : text.length ≤ (place + text.length - 1).toNat + 1
    · rw [if_pos whole]
      have trailing : (place + text.length - 1).toNat + 1 - text.length = place.toNat := by omega
      have places : (-place).toNat = 0 := by omega
      rw [trailing, places]
      refine ⟨1, text ++ FloatLayout.zeros place.toNat, ['0'], rfl, by simp [nonempty], by simp, ?_, isDigit_zeros 1, ?_, rfl⟩
      · exact List.forall_mem_append.mpr ⟨digits, isDigit_zeros _⟩
      · have zeros := digitsValue_trailing text place.toNat
        have point := digitsValue_trailing (text ++ List.replicate place.toNat '0') 1
        rw [zeros, value] at point
        exact point
    · rw [if_neg whole]
      have places : place.toNat = 0 := by omega
      refine ⟨0, text.take _, text.drop _, rfl, ?_, ?_, ?_, ?_, ?_, ?_⟩
      · simp [nonempty]
      · simp only [ne_eq, List.drop_eq_nil_iff]
        exact whole
      · exact fun c known => digits c (List.mem_of_mem_take known)
      · exact fun c known => digits c (List.mem_of_mem_drop known)
      · rw [List.take_append_drop, value, places, Nat.pow_zero, Nat.mul_one, Nat.mul_one]
      · rw [List.length_drop]
        omega

end FloatLayout

/-! ### Reading back -/

/-- Whether a text is digits around a point that are read as a float. -/
def WritesFloat (text : List Char) (x : Float) : Prop :=
  ∃ numerator places, FloatLayout.Writes text numerator places ∧ Float.ofScientific numerator true places = x

open Shortest

theorem least_parts : Binary64.ofFloat 1e-4 = .finite false 7378697629483821 (-66) := by
  decide +kernel

theorem bound_parts : Binary64.ofFloat 1e16 = .finite false 5000000000000000 1 := by
  decide +kernel

/-- Floats are compared by their exponents, then by their mantissas. -/
theorem of_compare_isLE {e₁ e₂ : Int} {m₁ m₂ : Nat} (order : ((compare e₁ e₂).then (compare m₁ m₂)).isLE = true) :
    e₁ < e₂ ∨ e₂ = e₁ ∧ m₁ ≤ m₂ := by
  cases exponents : compare e₁ e₂ with
  | lt => exact .inl (Int.compare_eq_lt.mp exponents)
  | eq =>
    rw [exponents] at order
    exact .inr ⟨(Int.compare_eq_eq.mp exponents).symm, Nat.isLE_compare.mp order⟩
  | gt =>
    rw [exponents] at order
    cases order

theorem of_compare_eq_lt {e₁ e₂ : Int} {m₁ m₂ : Nat} (order : (compare e₁ e₂).then (compare m₁ m₂) = .lt) :
    e₁ < e₂ ∨ e₁ = e₂ ∧ m₁ < m₂ := by
  cases exponents : compare e₁ e₂ with
  | lt => exact .inl (Int.compare_eq_lt.mp exponents)
  | eq =>
    rw [exponents] at order
    exact .inr ⟨Int.compare_eq_eq.mp exponents, Nat.compare_eq_lt.mp order⟩
  | gt =>
    rw [exponents] at order
    cases order

theorem parts_of_range {x : Float} (low : 1e-4 ≤ x) (high : x < 1e16) :
    ∃ m e, Binary64.ofFloat x = .finite false m e ∧ Positional m e := by
  have le : (1e-4 : Float).toModel.unpack.le x.toModel.unpack = true := of_decide_eq_true low
  have lt : x.toModel.unpack.lt (1e16 : Float).toModel.unpack = true := of_decide_eq_true high
  rw [Binary64.unpack_of_ofFloat least_parts, Binary64.unpacked_of_ne_zero (m := 7378697629483821) (by decide),
    Binary64.unpack_ofFloat] at le
  rw [Binary64.unpack_of_ofFloat bound_parts, Binary64.unpacked_of_ne_zero (m := 5000000000000000) (by decide),
    Binary64.unpack_ofFloat] at lt
  cases parts : Binary64.ofFloat x with
  | nan =>
    rw [parts] at le
    cases le
  | infinite negative =>
    rw [parts] at le lt
    cases negative
    · cases lt
    · cases le
  | finite negative m e =>
    rw [parts] at le lt
    by_cases zero : m = 0
    · rw [Binary64.unpacked, dif_pos zero] at le
      cases le
    · rw [Binary64.unpacked, dif_neg zero] at le lt
      cases negative with
      | true => cases le
      | false =>
        have least : -66 < e ∨ e = -66 ∧ 7378697629483821 ≤ m := of_compare_isLE le
        have order : (some ((compare e 1).then (compare m 5000000000000000)) == some .lt) = true := lt
        rw [beq_iff_eq, Option.some.injEq] at order
        have greatest := of_compare_eq_lt order
        have range := Binary64.range_of_ofFloat parts
        have normal := Binary64.normal_of_ofFloat parts (by omega)
        exact ⟨m, e, rfl, normal, range.1, least, greatest⟩

theorem magnitudeText_writes {m : Nat} {e : Int} (positional : Positional m e) {x : Float}
    (parts : Binary64.ofFloat x = .finite false m e) : WritesFloat (exprFloat.magnitudeText m e) x := by
  -- The interval of the least float reaches below `1e-4`, so its text is computed.
  by_cases least : e = -66 ∧ m = 7378697629483821
  · obtain ⟨rfl, rfl⟩ := least
    obtain rfl : x = 1e-4 := Binary64.eq_of_ofFloat parts least_parts
    have text : exprFloat.magnitudeText 7378697629483821 (-66) = ['0', '.', '0', '0', '0', '1'] := by decide +kernel
    rw [text]
    exact ⟨1, 4, ⟨['0'], ['0', '0', '0', '1'], rfl, by simp, by simp, by simp, by simp, rfl, rfl⟩, rfl⟩
  · have holds := holds_of positional exprFloat.tie
    unfold FloatLayout.magnitudeText
    generalize Shortest.of exprFloat.tie m e = d at *
    obtain ⟨n, place⟩ := d
    dsimp only at holds ⊢
    have n_pos := significand_pos positional holds
    obtain ⟨last, length⟩ : ∃ last, (Nat.toDigits 10 n).length = last + 1 :=
      Nat.exists_eq_add_one.mpr Nat.length_toDigits_pos
    have high : n < 10 ^ (last + 1) := (Nat.length_toDigits_le_iff (by decide) (by omega)).mp (by omega)
    have low : 10 ^ last ≤ n := by
      rcases Nat.eq_zero_or_pos last with rfl | positive
      · exact n_pos
      · have more := mt (Nat.length_toDigits_le_iff (b := 10) (n := n) (by decide) positive).mpr (by omega)
        omega
    have lowest := le_first_place positional holds least high
    have highest := first_place_le positional holds low
    have shown : exprFloat.isPositional (place + (Nat.toDigits 10 n).length - 1) = true := by
      simp only [FloatLayout.isPositional, exprFloat, Bool.and_eq_true, decide_eq_true_eq]
      omega
    obtain ⟨zeros, writes⟩ := FloatLayout.positionalText_writes n place
    have places_pos : 0 < (-place).toNat + zeros := by
      obtain ⟨_, fraction, _, _, some, _, _, _, same⟩ := writes
      rw [← same]
      exact List.length_pos_iff.mpr some
    rw [if_pos shown]
    exact ⟨_, _, writes, Binary64.ofScientific_of_near parts positional.normal (near_of_holds positional holds zeros)
      (Nat.mul_pos (Nat.mul_pos n_pos (Nat.pow_pos (by decide))) (Nat.pow_pos (by decide))) places_pos⟩

/-- Zero, and any float from `1e-4` to below `1e16`, is written as digits around a point, and they are read as the
float. -/
theorem text_writes {x : Float} (range : x = 0.0 ∨ 1e-4 ≤ x ∧ x < 1e16) : WritesFloat (exprFloat.text x).toList x := by
  rcases range with rfl | ⟨low, high⟩
  · have text : exprFloat.text 0.0 = "0.0" := by decide +kernel
    rw [text]
    exact ⟨0, 1, ⟨['0'], ['0'], rfl, by simp, by simp, by simp, by simp, rfl, rfl⟩, rfl⟩
  · obtain ⟨m, e, parts, positional⟩ := parts_of_range low high
    have := positional.low
    have text : (exprFloat.text x).toList = exprFloat.magnitudeText m e := by
      rw [FloatLayout.text, parts]
      dsimp only
      rw [if_neg (show ¬ m = 0 by omega), if_neg Bool.false_ne_true, String.toList_ofList]
    rw [text]
    exact magnitudeText_writes positional parts

end DocChain
