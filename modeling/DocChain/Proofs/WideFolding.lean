import DocChain.Proofs.DecimalFloats

/-!
# Folding integers past 64 bits

An integer of more than 64 bits is kept as a float, which rounds it, and the next operation takes the float for the
integer. Sums, differences and products themselves are never cut, so a folded integer is wrong only where an operand
was rounded (`exactValue?_of_operandsHeld`).
-/

namespace DocChain

/-- Whether the results on integers are integers again. -/
def Arithmetic.isPolynomial : Arithmetic → Bool
  | add | subtract | multiply => true
  | divide | modulo => false

/-- Whether an integer is a wire number: it has 64 bits, or it is a float. -/
def IsHeld (z : ℤ) : Prop :=
  (-2 ^ 63 ≤ z ∧ z < 2 ^ 63) ∨ ∃ x : Float, (Binary64.ofFloat x).rational? = some (z : ℚ)

namespace Expr

/-- Whether a tree has integers at its leaves, and sums, differences and products above them. -/
def IsPolynomial : Expr → Prop
  | integer _ => True
  | binary (.arithmetic op) left right => op.isPolynomial = true ∧ left.IsPolynomial ∧ right.IsPolynomial
  | _ => False

/-- Whether every operand in a tree is an integer that is a wire number. The root need not be one. -/
def OperandsHeld : Expr → Prop
  | binary (.arithmetic _) left right =>
    (∃ z : ℤ, left.exactValue? = some (z : ℚ) ∧ IsHeld z) ∧ (∃ z : ℤ, right.exactValue? = some (z : ℚ) ∧ IsHeld z) ∧
      left.OperandsHeld ∧ right.OperandsHeld
  | _ => True

end Expr

namespace Decimal

variable {a b c : Decimal} {x y : ℤ}

theorem reduce_wide {negative : Bool} {m : ℕ} (large : 2 ^ 96 ≤ m) : reduce negative m 0 = none := by
  have same : divHalfEven m (10 ^ 0) = m := divHalfEven_one m
  unfold reduce reduceFrom
  rw [same, if_neg (Nat.lt_irrefl 0), make?_eq_none large]
  rfl

theorem IsInt.natAbs_lt (whole : a.IsInt x) : x.natAbs < 2 ^ 96 := by
  rw [whole.natAbs]
  exact a.mantissa_lt

/-- A sum of integers is not cut: it fits the mantissa, or there is none. -/
theorem add?_small (first : a.IsInt x) (second : b.IsInt y) (computed : a.add? b = some c) :
    (x + y).natAbs < 2 ^ 96 := by
  by_cases large : 2 ^ 96 ≤ (x + y).natAbs
  · unfold add? at computed
    rw [first.isZero, second.isZero] at computed
    by_cases zero : x = 0
    · have := second.natAbs_lt
      omega
    · by_cases zero' : y = 0
      · have := first.natAbs_lt
        omega
      · simp only [zero, zero', decide_false, Bool.false_eq_true, if_false, first.places, second.places, Nat.max_self,
          first.atScale, second.atScale, reduce_wide large] at computed
        cases computed
  · omega

theorem sub?_small (first : a.IsInt x) (second : b.IsInt y) (computed : a.sub? b = some c) :
    (x - y).natAbs < 2 ^ 96 := by
  unfold sub? at computed
  split at computed
  · rename_i zero
    rw [first.isZero, second.isZero, Bool.and_eq_true, decide_eq_true_eq, decide_eq_true_eq] at zero
    omega
  · exact add?_small first second.neg computed

theorem mul?_small (first : a.IsInt x) (second : b.IsInt y) (computed : a.mul? b = some c) :
    (x * y).natAbs < 2 ^ 96 := by
  by_cases large : 2 ^ 96 ≤ (x * y).natAbs
  · have size : (x * y).natAbs = a.mantissa * b.mantissa := by
      rw [Int.natAbs_mul, first.natAbs, second.natAbs]
    unfold mul? at computed
    rw [first.isZero, second.isZero, first.places, second.places, reduce_wide (size ▸ large)] at computed
    split at computed
    · rename_i zero
      rw [Bool.or_eq_true, decide_eq_true_eq, decide_eq_true_eq, ← Int.mul_eq_zero] at zero
      omega
    · cases computed
  · omega

end Decimal

/-- What a polynomial operation computes from integers is exact. -/
theorem Arithmetic.exactly?_of_decimal? {op : Arithmetic} {a b c : Decimal} {x y : ℤ} (polynomial : op.isPolynomial = true)
    (first : a.IsInt x) (second : b.IsInt y) (computed : op.decimal? a b = some c) :
    ∃ z : ℤ, op.exactly? x y = some (z : ℚ) ∧ c.IsInt z := by
  obtain ⟨z, computes, small⟩ : ∃ z : ℤ, op.exactly? x y = some (z : ℚ) ∧ z.natAbs < 2 ^ 96 := by
    cases op with
    | add => exact ⟨x + y, by push_cast; rfl, Decimal.add?_small first second computed⟩
    | subtract => exact ⟨x - y, by push_cast; rfl, Decimal.sub?_small first second computed⟩
    | multiply => exact ⟨x * y, by push_cast; rfl, Decimal.mul?_small first second computed⟩
    | divide | modulo => cases polynomial
  obtain ⟨c', computed', whole⟩ := decimal?_isInt first second computes small
  cases computed.symm.trans computed'
  exact ⟨z, computes, whole⟩

/-! ### Floats past 64 bits -/

/-- A float past 64 bits has no digits below `2 ^ 11`. -/
theorem Binary64.dvd_of_wide {x : Float} {z : ℤ} (whole : (ofFloat x).rational? = some (z : ℚ))
    (wide : ¬ (-2 ^ 63 ≤ z ∧ z < 2 ^ 63)) : 2 ^ 11 ∣ z := by
  obtain ⟨negative, m, e, parts, magnitude, _⟩ := parts_of_whole whole
  have small := (range_of_ofFloat parts).1
  have large : 2 ^ 63 ≤ z.natAbs := by omega
  obtain ⟨_, digits⟩ | ⟨_, digits⟩ := whole_parts magnitude
  · have places : 11 ≤ e.toNat := by
      by_cases fewer : e.toNat ≤ 10
      · have power : 2 ^ e.toNat ≤ 2 ^ 10 := Nat.pow_le_pow_right two_pos fewer
        have product := Nat.mul_lt_mul_of_lt_of_le small power (by decide)
        rw [digits] at product
        omega
      · omega
    have dvd : 2 ^ 11 ∣ z.natAbs := digits ▸ Dvd.dvd.mul_left (Nat.pow_dvd_pow 2 places) m
    exact Int.dvd_natAbs.mp (Int.natCast_dvd_natCast.mpr dvd)
  · have := Nat.le_mul_of_pos_right z.natAbs (Nat.two_pow_pos (-e).toNat)
    omega

/-- An integer of 64 bits without digits below `2 ^ 11` is a float. -/
theorem Binary64.representable_of_dvd {z : ℤ} (dvd : 2 ^ 11 ∣ z) (bounded : -2 ^ 63 ≤ z ∧ z < 2 ^ 63) :
    Representable (z.natAbs : ℕ) := by
  obtain ⟨t, rfl⟩ := dvd
  have float := representable_scaled (n := t.natAbs) (e := 11) (by omega) (by decide) (by decide)
  have size : ((2 ^ 11 * t).natAbs : ℕ) = t.natAbs * 2 ^ 11 := by omega
  rw [size, Nat.cast_mul, cast_two_pow]
  exact float

/-- How a wire number stands for an integer: as 64 bits, or as a float without digits below `2 ^ 11`. Floats enter
a tree past 64 bits, and what cancels leaves such floats again. -/
inductive Keeps : Wire → ℤ → Prop where
  | int (n : Int64) : Keeps (.int n) n.toInt
  | float {x : Float} {z : ℤ} (whole : (Binary64.ofFloat x).rational? = some (z : ℚ)) (dvd : 2 ^ 11 ∣ z) :
    Keeps (.number (.float x)) z

theorem Keeps.exists_number {value : Wire} {z : ℤ} (keeps : Keeps value z) :
    ∃ n : Number, value = .number n ∧ (∀ a, n.decimal? = some a → a.IsInt z) ∧ (n.isFloat = true → 2 ^ 11 ∣ z) := by
  cases keeps with
  | int n =>
    refine ⟨.int n, rfl, ?_, ?_⟩
    · intro a read
      cases read
      exact Decimal.ofInt64_isInt n
    · intro float
      cases float
  | @float x z whole dvd =>
    refine ⟨.float x, rfl, ?_, fun _ => dvd⟩
    intro a read
    by_cases small : z.natAbs < 2 ^ 96
    · obtain ⟨a', read', isInt⟩ := Decimal.ofFloat?_isInt whole small
      cases read.symm.trans read'
      exact isInt
    · cases read.symm.trans (Decimal.ofFloat?_eq_none whole (by omega))

theorem Arithmetic.isPolynomial_dvd {op : Arithmetic} {x y z k : ℤ} (polynomial : op.isPolynomial = true)
    (computes : op.exactly? x y = some (z : ℚ)) (first : k ∣ x) (second : k ∣ y) : k ∣ z := by
  cases op with
  | add =>
    have result : x + y = z := by exact_mod_cast Option.some.inj computes
    exact result ▸ Int.dvd_add first second
  | subtract =>
    have result : x - y = z := by exact_mod_cast Option.some.inj computes
    exact result ▸ Int.dvd_sub first second
  | multiply =>
    have result : x * y = z := by exact_mod_cast Option.some.inj computes
    exact result ▸ Int.dvd_mul_of_dvd_left first
  | divide | modulo => cases polynomial

/-- One operation on exact operands: an integer that comes out is exact, and a float is exact where there is one. -/
theorem Keeps.step {op : Arithmetic} {v w u : Wire} {x y : ℤ} (polynomial : op.isPolynomial = true)
    (first : Keeps v x) (second : Keeps w y) (folded : op.value? v w = some u) :
    ∃ z : ℤ, op.exactly? x y = some (z : ℚ) ∧ (∀ n, u = .int n → n.toInt = z) ∧ (IsHeld z → Keeps u z) := by
  obtain ⟨m, rfl, decimalLeft, floatLeft⟩ := first.exists_number
  obtain ⟨n, rfl, decimalRight, floatRight⟩ := second.exists_number
  simp only [Arithmetic.value?, Arithmetic.number?, Option.bind_eq_bind, Option.bind_eq_some_iff] at folded
  obtain ⟨a, readLeft, b, readRight, c, computed, written⟩ := folded
  obtain ⟨z, computes, whole⟩ :=
    Arithmetic.exactly?_of_decimal? polynomial (decimalLeft a readLeft) (decimalRight b readRight) computed
  refine ⟨z, computes, ?_⟩
  unfold Decimal.wire? at written
  rw [whole.toInt64?_eq] at written
  -- A result of 64 bits stays a float between two floats, and it has none of the digits that they lack.
  by_cases inRange : -2 ^ 63 ≤ z ∧ z < 2 ^ 63
  · have value := Int64.toInt_ofInt_of_le inRange.1 inRange.2
    rw [if_pos inRange] at written
    dsimp only at written
    split at written
    · rename_i floats
      rw [Bool.and_eq_true] at floats
      obtain ⟨rfl, _⟩ := Wire.ofFloat?_eq_some written
      have dvd := Arithmetic.isPolynomial_dvd polynomial computes (floatLeft floats.1) (floatRight floats.2)
      have float := whole.toFloat (Binary64.representable_of_dvd dvd inRange)
      refine ⟨?_, fun _ => .float float dvd⟩
      intro n same
      cases same
    · cases written
      refine ⟨?_, ?_⟩
      · intro n same
        cases same
        exact value
      · intro _
        have keeps := Keeps.int (Int64.ofInt z)
        rwa [value] at keeps
  · rw [if_neg inRange] at written
    obtain ⟨rfl, _⟩ := Wire.ofFloat?_eq_some written
    refine ⟨?_, ?_⟩
    · intro n same
      cases same
    · intro held
      obtain bounded | ⟨x, float⟩ := held
      · exact absurd bounded inRange
      · exact .float (whole.toFloat (Binary64.representable_of_whole float)) (Binary64.dvd_of_wide float inRange)

namespace Expr

/-- The invariant of a whole tree: an integer is exact, and what is held is kept. -/
theorem exact_of_operandsHeld {e : Expr} (polynomial : e.IsPolynomial) (held : e.OperandsHeld) {value : Wire}
    (folded : e.value? = some value) :
    ∃ z : ℤ, e.exactValue? = some (z : ℚ) ∧ (∀ n, value = .int n → n.toInt = z) ∧ (IsHeld z → Keeps value z) := by
  fun_induction IsPolynomial e generalizing value with
  | case1 n =>
    cases folded
    refine ⟨n.toInt, rfl, ?_, fun _ => .int n⟩
    intro k same
    cases same
    rfl
  | case2 op left right first second =>
    obtain ⟨ring, polynomialLeft, polynomialRight⟩ := polynomial
    obtain ⟨⟨x, exactLeft, heldLeft⟩, ⟨y, exactRight, heldRight⟩, operandsLeft, operandsRight⟩ := held
    simp only [value?, Option.bind_eq_bind, Option.bind_eq_some_iff] at folded
    obtain ⟨v, foldedLeft, w, foldedRight, folded⟩ := folded
    obtain ⟨x', exactLeft', _, keepsLeft⟩ := first polynomialLeft operandsLeft foldedLeft
    obtain ⟨y', exactRight', _, keepsRight⟩ := second polynomialRight operandsRight foldedRight
    have sameLeft : x' = x := by exact_mod_cast Option.some.inj (exactLeft'.symm.trans exactLeft)
    have sameRight : y' = y := by exact_mod_cast Option.some.inj (exactRight'.symm.trans exactRight)
    subst sameLeft sameRight
    obtain ⟨z, computes, exact⟩ := (keepsLeft heldLeft).step ring (keepsRight heldRight) folded
    refine ⟨z, ?_, exact⟩
    rw [exactValue?, exactLeft, exactRight]
    exact computes
  | case3 => exact polynomial.elim

/-- A tree whose operands are all held is exact, if it folds to an integer. -/
theorem exactValue?_of_operandsHeld {e : Expr} {n : Int64} (polynomial : e.IsPolynomial) (held : e.OperandsHeld)
    (folded : e.value? = some (.int n)) : e.exactValue? = some (n.toInt : ℚ) := by
  obtain ⟨z, exact, integer, _⟩ := exact_of_operandsHeld polynomial held folded
  rw [exact, integer n rfl]

theorem exactValue?_beyond_largest :
    let beyond : Expr := binary (.arithmetic .add) (integer Int64.maxValue) (integer 1)
    let back : Expr := binary (.arithmetic .subtract) beyond (integer 1)
    back.IsPolynomial ∧ back.OperandsHeld ∧ back.value? = some (.int Int64.maxValue) ∧
      back.exactValue? = some (Int64.maxValue.toInt : ℚ) := by
  intro beyond back
  have polynomial : back.IsPolynomial := ⟨rfl, ⟨rfl, trivial, trivial⟩, trivial⟩
  have largest : IsHeld Int64.maxValue.toInt := .inl (by decide)
  have one : IsHeld (1 : Int64).toInt := .inl (by decide)
  have past : IsHeld (2 ^ 63) := .inr ⟨9223372036854775808.0, by decide +kernel⟩
  have held : back.OperandsHeld :=
    ⟨⟨2 ^ 63, by decide +kernel, past⟩, ⟨1, rfl, one⟩, ⟨⟨_, rfl, largest⟩, ⟨_, rfl, one⟩, trivial, trivial⟩, trivial⟩
  have folded : back.value? = some (.int Int64.maxValue) := by rfl
  exact ⟨polynomial, held, folded, exactValue?_of_operandsHeld polynomial held folded⟩

/-- An operand that no float is gets rounded, and the integer that comes out is wrong. -/
theorem folded_integer_rounded : ∃ (e : Expr) (n : Int64), e.IsPolynomial ∧ e.value? = some (.int n) ∧
    e.exactValue? ≠ some (n.toInt : ℚ) := by
  let rounded : Expr := binary (.arithmetic .add) (integer Int64.maxValue) (integer 2)
  refine ⟨binary (.arithmetic .subtract) rounded (integer 2), 9223372036854775806,
    ⟨rfl, ⟨rfl, trivial, trivial⟩, trivial⟩, ?_, ?_⟩
  · rfl
  · decide +kernel

end Expr

end DocChain
