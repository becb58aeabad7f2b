import DocChain.Proofs.Assignments
import DocChain.Proofs.DecimalFloats

/-!
# Unary minus

`-k` is read as `0 - k`, which is folded in decimals, while `dec` negates the number itself. The two agree on integers,
and on a float that comes back from its decimal, unless the result is an integer of 64 bits: that is written as one.
-/

namespace DocChain

namespace Binary64

theorem neg_neg_of_finite {x : Float} (finite : (ofFloat x).isFinite = true) : - -x = x := by
  obtain ⟨negative, m, e, parts⟩ := exists_of_isFinite finite
  have twice := ofFloat_neg (ofFloat_neg parts)
  rw [Bool.not_not] at twice
  exact eq_of_ofFloat twice parts

theorem neg_inj {x y : Float} (finite : (ofFloat x).isFinite = true) (finite' : (ofFloat y).isFinite = true) :
    -x = -y ↔ x = y := by
  constructor
  · intro same
    rw [← neg_neg_of_finite finite, same, neg_neg_of_finite finite']
  · rintro rfl
    rfl

end Binary64

theorem Wire.ofFloat?_neg {x : Float} (finite : (Binary64.ofFloat x).isFinite = true) :
    Wire.ofFloat? (-x) = some (.number (.float (-x))) := by
  obtain ⟨negative, m, e, parts⟩ := Binary64.exists_of_isFinite finite
  rw [Wire.ofFloat?, Binary64.ofFloat_neg parts]
  rfl

namespace Decimal

variable {a : Decimal}

theorem sub?_zero (a : Decimal) : (ofInt64 0).sub? a = some (if a.isZero then a else a.neg) := by
  have zero : (ofInt64 0).isZero = true := rfl
  unfold sub? add?
  rw [zero, Bool.true_and, if_pos rfl]
  split <;> rfl

theorem toInt64?_of_isZero (zero : a.isZero = true) : a.toInt64? = some 0 := by
  have nothing : a.mantissa = 0 := of_decide_eq_true zero
  have value : a.signedMantissa = 0 := by
    unfold Decimal.signedMantissa
    rw [nothing]
    split <;> rfl
  unfold Decimal.toInt64?
  rw [value, nothing, Int.zero_tdiv, Nat.zero_mod]
  rfl

theorem whole_of_toInt64? {n : Int64} (integral : a.neg.toInt64? = some n) :
    a.mantissa % 10 ^ a.scale = 0 := by
  unfold Decimal.toInt64? at integral
  dsimp only at integral
  split at integral
  · rename_i whole
    exact whole.1
  · cases integral

/-- What unary minus makes of a decimal. -/
def opposite (a : Decimal) : Wire :=
  match a.neg.toInt64? with
  | some n => .int n
  | none => .number (.float (-a.toFloat))

theorem wire?_opposite (a : Decimal) : (if a.isZero then a else a.neg).wire? false = some a.opposite := by
  cases zero : a.isZero with
  | true =>
    have whole := toInt64?_of_isZero zero
    have whole' : a.neg.toInt64? = some 0 := toInt64?_of_isZero zero
    rw [if_pos rfl, Decimal.wire?, whole, opposite, whole']
    rfl
  | false =>
    obtain ⟨written, turned⟩ := neg_toFloat zero
    rw [if_neg Bool.false_ne_true, Decimal.wire?, opposite]
    cases a.neg.toInt64? with
    | some n => rfl
    | none =>
      dsimp only
      rw [turned]
      exact Wire.ofFloat?_neg written

theorem opposite_eq_float_iff {x : Float} (finite : (Binary64.ofFloat x).isFinite = true) :
    a.opposite = .number (.float (-x)) ↔ a.neg.toInt64? = none ∧ a.toFloat = x := by
  unfold opposite
  cases integral : a.neg.toInt64? with
  | some n => simp [Wire.int]
  | none =>
    have some : a.isZero = false := by
      cases zero : a.isZero with
      | false => rfl
      | true => cases integral.symm.trans (toInt64?_of_isZero zero)
    simp [Binary64.neg_inj (neg_toFloat some).1 finite]

end Decimal

namespace Expr

/-- Unary minus. -/
def negated (e : Expr) : Expr :=
  binary (.arithmetic .subtract) (integer 0) e

/-- Whether unary minus has a value, and that value is the negation. -/
def MinusNegates (e : Expr) : Prop :=
  ∃ value, e.negated.value? = some value ∧ e.value?.bind Wire.negate? = some value

/-- Whether an expression is a number as it is written. -/
def IsNumeral : Expr → Prop
  | integer _ => True
  | float x => (Binary64.ofFloat x).isFinite = true
  | _ => False

section
variable {x : Float} {q : ℚ} {z : ℤ}

theorem value?_float (finite : (Binary64.ofFloat x).isFinite = true) :
    (float x).value? = some (.number (.float x)) := by
  rw [value?, Wire.ofFloat?, if_pos finite]

theorem negate?_float (finite : (Binary64.ofFloat x).isFinite = true) :
    Wire.negate? (.number (.float x)) = some (.number (.float (-x))) :=
  Wire.ofFloat?_neg finite

/-- Unary minus takes the decimal of a float. -/
theorem value?_negated_float (finite : (Binary64.ofFloat x).isFinite = true) :
    (float x).negated.value? = (Decimal.ofFloat? x).map Decimal.opposite := by
  have zero : (integer 0).value? = some (.int 0) := rfl
  have folded : (float x).negated.value? = Arithmetic.subtract.number? (.int 0) (.float x) := by
    rw [negated, value?, zero, value?_float finite]
    rfl
  rw [folded]
  cases read : Decimal.ofFloat? x with
  | none =>
    simp only [Arithmetic.number?, Number.decimal?, Option.bind_eq_bind, Option.bind_some, read, Option.bind_none]
    rfl
  | some a =>
    simp only [Arithmetic.number?, Arithmetic.decimal?, Number.decimal?, Option.bind_eq_bind, Option.bind_some, read,
      Decimal.sub?_zero]
    exact a.wire?_opposite

theorem minusNegates_float (finite : (Binary64.ofFloat x).isFinite = true) :
    (float x).MinusNegates ↔ (float x).negated.value? = some (.number (.float (-x))) := by
  have negates : (float x).value?.bind Wire.negate? = some (.number (.float (-x))) := by
    rw [value?_float finite]
    exact negate?_float finite
  unfold MinusNegates
  rw [negates]
  constructor
  · rintro ⟨value, encodes, same⟩
    rw [encodes, same]
  · intro encodes
    exact ⟨_, encodes, rfl⟩

/-- Unary minus negates a fraction that comes back from its decimal. -/
theorem minusNegates_fraction (value : (Binary64.ofFloat x).rational? = some q) (fraction : ∀ z : ℤ, q ≠ z) :
    (float x).MinusNegates ↔ ∃ a, Decimal.ofFloat? x = some a ∧ a.toFloat = x := by
  have finite := Binary64.isFinite_of_rational? value
  rw [minusNegates_float finite, value?_negated_float finite, Option.map_eq_some_iff]
  simp only [Decimal.opposite_eq_float_iff finite]
  constructor
  · rintro ⟨a, read, _, written⟩
    exact ⟨a, read, written⟩
  · rintro ⟨a, read, rfl⟩
    refine ⟨a, read, ?_, rfl⟩
    cases integral : a.neg.toInt64? with
    | none => rfl
    | some n =>
      obtain ⟨z, whole⟩ := Decimal.exists_toFloat_whole (Decimal.whole_of_toInt64? integral)
      exact absurd (Option.some.inj (value.symm.trans whole)) (fraction z)

/-- Unary minus on a float has a value as long as the float has a decimal. -/
theorem exists_value?_negated_float (value : (Binary64.ofFloat x).rational? = some q) :
    (∃ v, (float x).negated.value? = some v) ↔ |q| < (2 ^ 96 : ℕ) := by
  have finite := Binary64.isFinite_of_rational? value
  rw [← Decimal.exists_ofFloat?_iff value, value?_negated_float finite]
  cases Decimal.ofFloat? x <;> simp

/-- Unary minus makes an integer of a whole float, if that has 64 bits. -/
theorem value?_negated_whole (whole : (Binary64.ofFloat x).rational? = some (z : ℚ)) (small : z.natAbs < 2 ^ 96) :
    (float x).negated.value? = if -2 ^ 63 ≤ -z ∧ -z < 2 ^ 63 then some (.int (Int64.ofInt (-z)))
      else some (.number (.float (-x))) := by
  obtain ⟨a, read, isInt⟩ := Decimal.ofFloat?_isInt whole small
  rw [value?_negated_float (Binary64.isFinite_of_rational? whole), read, Option.map_some, Decimal.opposite, isInt.neg.toInt64?_eq]
  by_cases inRange : -2 ^ 63 ≤ -z ∧ -z < 2 ^ 63
  · rw [if_pos inRange, if_pos inRange]
  · have nonzero : (z : ℚ) ≠ 0 := Int.cast_ne_zero.mpr (by omega)
    have written := isInt.toFloat (Binary64.representable_of_whole whole)
    rw [if_neg inRange, if_neg inRange, Binary64.eq_of_rational? written whole nonzero]

end

/-! ### Clauses -/

section
variable {name : String} {path : FieldPath} {k field : Expr}

theorem IsNumeral.exists_number (numeral : k.IsNumeral) : ∃ n : Number, k.value? = some (.number n) := by
  cases k with
  | integer n => exact ⟨.int n, rfl⟩
  | float x => exact ⟨.float x, value?_float numeral⟩
  | _ => cases numeral

/-- The value of unary minus is a number. -/
theorem exists_number_of_negated {value : Wire} (encodes : k.negated.value? = some value) :
    ∃ n : Number, value = .number n := by
  simp only [negated, value?, Option.bind_eq_bind, Option.bind_some, Option.bind_eq_some_iff] at encodes
  obtain ⟨operand, _, folded⟩ := encodes
  cases operand with
  | number n =>
    simp only [Wire.int, Arithmetic.value?, Arithmetic.number?, Option.bind_eq_bind, Option.bind_eq_some_iff] at folded
    obtain ⟨_, _, _, _, _, _, written⟩ := folded
    obtain ⟨m, same, _⟩ := Decimal.wire?_number written
    exact ⟨m, same⟩
  | _ => cases folded

theorem decrement_clause? : Operation.decrement.clause? name (some path) k =
    (k.value?.bind Wire.negate?).map (Clause.update "$inc" path) := by
  simp only [Operation.clause?, Operation.fieldClause?, Option.bind_eq_bind]
  cases k.value? with
  | none => rfl
  | some v =>
    rw [Option.bind_some, Option.bind_some]
    cases v.negate? <;> rfl

theorem increment_clause? : Operation.increment.clause? name (some path) k.negated =
    k.negated.value?.map (Clause.update "$inc" path) := by
  simp only [Operation.clause?, Operation.fieldClause?, amount?, Option.bind_eq_bind]
  cases encodes : k.negated.value? with
  | none => rfl
  | some v =>
    obtain ⟨n, rfl⟩ := exists_number_of_negated encodes
    rfl

theorem set_minus_clause? (accesses : Accesses name field path.segments) (numeral : k.IsNumeral) :
    Operation.set.clause? name (some path) (binary (.arithmetic .subtract) field k) =
      (k.value?.bind Wire.negate?).map (Clause.update "$inc" path) := by
  obtain ⟨n, encodes⟩ := numeral.exists_number
  have step : field.stepBeside? name path k = some (.number n) :=
    stepBeside?_eq_some_iff.mpr ⟨accesses, n, encodes, rfl⟩
  simp only [Operation.clause?, Operation.fieldClause?, setClause?, step, encodes, Option.bind_some]
  cases Wire.negate? (.number n) <;> rfl

theorem set_plus_clause? (accesses : Accesses name field path.segments) :
    Operation.set.clause? name (some path) (binary (.arithmetic .add) field k.negated) =
      k.negated.value?.map (Clause.update "$inc" path) := by
  cases encodes : k.negated.value? with
  | some v =>
    obtain ⟨n, rfl⟩ := exists_number_of_negated encodes
    exact setClause?_of_steps (.plus accesses encodes)
  | none =>
    have mentioned : (binary (.arithmetic .add) field k.negated).mentions name = true := by
      simp [mentions, accesses.mentions]
    have before : field.stepBeside? name path k.negated = none := by
      unfold stepBeside? amount?
      rw [encodes]
      split <;> rfl
    have behind : k.negated.stepBeside? name path field = none := by
      unfold stepBeside?
      refine if_neg ?_
      intro resolved
      cases pathOn?_eq_some_iff.mp resolved
    simp only [Operation.clause?, Operation.fieldClause?, setClause?, before, behind, assignment?, mentioned, Option.or_none]
    rfl

theorem minusNegates_integer {n : Int64} (bounded : n ≠ Int64.minValue) : (integer n).MinusNegates := by
  have opposite := Number.toInt_neg bounded
  have computes : Arithmetic.subtract.exactly? (0 : Int64).toInt n.toInt = some ((-n).toInt : ℚ) := by
    rw [opposite, Arithmetic.exactly?, Int64.toInt_zero, Int.cast_zero, zero_sub, Int.cast_neg]
  have negates : Number.negate? (.int n) = some (.int (-n)) := if_neg bounded
  exact ⟨.int (-n), Arithmetic.value?_int computes, negates⟩

theorem minusNegates_iff (numeral : k.IsNumeral) :
    k.MinusNegates ↔ k.value?.bind Wire.negate? = k.negated.value? := by
  constructor
  · rintro ⟨value, encodes, negates⟩
    rw [encodes, negates]
  · intro same
    cases k with
    | integer n =>
      by_cases bounded : n = Int64.minValue
      · subst bounded
        have least : (integer Int64.minValue).negated.value? = some (.number (.float 9223372036854775808.0)) := by rfl
        cases same.trans least
      · exact minusNegates_integer bounded
    | float x =>
      refine (minusNegates_float numeral).mpr ?_
      rw [← same, value?_float numeral]
      exact negate?_float numeral
    | _ => cases numeral

theorem clauses_eq_iff {negation minus : Option Wire} :
    negation.map (Clause.update "$inc" path) = minus.map (Clause.update "$inc" path) ↔ negation = minus := by
  cases negation <;> cases minus <;> simp [Clause.update_inj]

end

/-- Unary minus against negation. On integers they agree. Unary minus has a value at a float if the float has a decimal;
at a whole float it is an integer, if that has 64 bits, and otherwise the negated float. At a fraction it is the negated
float if the fraction comes back from its decimal, as it does where it is `n / 10 ^ s` for few enough digits and places.
Where the two agree, and nowhere else, `dec` makes the clause that `inc` makes of `-k`, and taking `k` from a field the
clause of adding `-k` to it. -/
theorem minus_against_negation (name : String) (path : FieldPath) {field : Expr}
    (accesses : Accesses name field path.segments) :
    (∀ n : Int64, n ≠ Int64.minValue → (integer n).MinusNegates) ∧
      (∀ (x : Float) (q : ℚ), (Binary64.ofFloat x).rational? = some q →
        ((∃ value, (float x).negated.value? = some value) ↔ |q| < (2 ^ 96 : ℕ)) ∧
          (∀ z : ℤ, q = z → z.natAbs < 2 ^ 96 → (float x).negated.value? =
            if -2 ^ 63 ≤ -z ∧ -z < 2 ^ 63 then some (.int (Int64.ofInt (-z))) else some (.number (.float (-x)))) ∧
          ((∀ z : ℤ, q ≠ z) →
            ((float x).MinusNegates ↔ ∃ a, Decimal.ofFloat? x = some a ∧ a.toFloat = x) ∧
              ∀ n s : ℕ, |q| = n / (10 ^ s : ℕ) → n < 2 ^ 52 → s ≤ 22 → (float x).MinusNegates)) ∧
      ∀ k : Expr, k.IsNumeral →
        (k.MinusNegates ↔ Operation.decrement.clause? name (some path) k =
            Operation.increment.clause? name (some path) k.negated) ∧
          (k.MinusNegates ↔ Operation.set.clause? name (some path) (binary (.arithmetic .subtract) field k) =
            Operation.set.clause? name (some path) (binary (.arithmetic .add) field k.negated)) := by
  refine ⟨?_, ?_, ?_⟩
  · intro n bounded
    exact minusNegates_integer bounded
  · intro x q value
    refine ⟨exists_value?_negated_float value, ?_, ?_⟩
    · rintro z rfl small
      exact value?_negated_whole value small
    · intro fraction
      have comesBack := minusNegates_fraction value fraction
      refine ⟨comesBack, ?_⟩
      intro n s short digits places
      exact comesBack.mpr (Decimal.toFloat_ofFloat? value fraction short digits places)
  · intro k numeral
    rw [decrement_clause?, increment_clause?, set_minus_clause? accesses numeral, set_plus_clause? accesses, clauses_eq_iff]
    exact ⟨minusNegates_iff numeral, minusNegates_iff numeral⟩

theorem minus_against_negation_half :
    let path : FieldPath := ⟨[.field "n"], by decide⟩
    let field : Expr := access (binding "p") (string "n")
    Accesses "p" field path.segments ∧ (integer 5).MinusNegates ∧ (float 1.5).MinusNegates ∧
      Operation.decrement.clause? "p" (some path) (float 1.5) =
        Operation.increment.clause? "p" (some path) (float 1.5).negated ∧
      Operation.set.clause? "p" (some path) (binary (.arithmetic .subtract) field (float 1.5)) =
        Operation.set.clause? "p" (some path) (binary (.arithmetic .add) field (float 1.5).negated) := by
  intro path field
  have accesses : Accesses "p" field path.segments := .string "n" .document
  obtain ⟨integers, floats, clauses⟩ := minus_against_negation "p" path accesses
  have value : (Binary64.ofFloat 1.5).rational? = some (3 / 2) := by decide +kernel
  have fraction : ∀ z : ℤ, (3 / 2 : ℚ) ≠ z := by
    intro z same
    have crossed := (div_eq_iff two_ne_zero).mp same
    have whole : 3 = z * 2 := by exact_mod_cast crossed
    omega
  obtain ⟨_, _, fractions⟩ := floats 1.5 (3 / 2) value
  have half : (float 1.5).MinusNegates :=
    (fractions fraction).2 15 1 (by decide +kernel) (by decide) (by decide)
  have numeral : (float 1.5).IsNumeral := by
    unfold IsNumeral
    decide +kernel
  obtain ⟨steps, sets⟩ := clauses (float 1.5) numeral
  exact ⟨accesses, integers 5 (by decide), half, steps.mp half, sets.mp half⟩

/-- Unary minus makes an integer of `2.0`, loses the last digits of `4100.0254` and has no value at `2 ^ 96`. -/
theorem minus_differs_from_negation :
    ((float 2.0).negated.value? = some (.int (-2)) ∧ ¬ (float 2.0).MinusNegates) ∧ ¬ (float 4100.0254).MinusNegates ∧
      (float 79228162514264337593543950336.0).negated.value? = none := by
  have whole : (float 2.0).negated.value? = some (.int (-2)) := by rfl
  have finite : (Binary64.ofFloat 2.0).isFinite = true := by decide +kernel
  have finite' : (Binary64.ofFloat 4100.0254).isFinite = true := by decide +kernel
  have finite'' : (Binary64.ofFloat 79228162514264337593543950336.0).isFinite = true := by decide +kernel
  refine ⟨⟨whole, ?_⟩, ?_, ?_⟩
  · intro negates
    cases whole.symm.trans ((minusNegates_float finite).mp negates)
  · let decimal : Decimal := ⟨false, 4100025400000001, 12, by decide, by decide⟩
    have read : Decimal.ofFloat? 4100.0254 = some decimal := by decide +kernel
    have lost : Binary64.ofFloat decimal.toFloat ≠ Binary64.ofFloat 4100.0254 := by decide +kernel
    intro negates
    have folded := (minusNegates_float finite').mp negates
    rw [value?_negated_float finite', read, Option.map_some, Option.some.injEq, Decimal.opposite_eq_float_iff finite'] at folded
    exact lost (congrArg Binary64.ofFloat folded.2)
  · have none : Decimal.ofFloat? 79228162514264337593543950336.0 = none := by decide +kernel
    rw [value?_negated_float finite'', none]
    rfl

end Expr

end DocChain
