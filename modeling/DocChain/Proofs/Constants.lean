import Mathlib.Data.Rat.Cast.Order
import Mathlib.Algebra.Field.Rat
import DocChain.Expr.Constant
import DocChain.FieldPath
import DocChain.Proofs.FloatParts

/-!
# Constants

An expression with a value names no row, and the numbers in it are signed integers and finite floats. Such a
number is a fraction, which `Number.rational?` gives without rounding.
-/

namespace DocChain

/-! ### Exact values -/

/-- The fraction that a finite float is. -/
def Binary64.rational? : Binary64 → Option ℚ
  | finite negative m e => some ((if negative then -(m : ℚ) else m) * 2 ^ e)
  | _ => none

def Number.rational? : Number → Option ℚ
  | int n => some n.toInt
  | wide n => some n.toNat
  | float x => (Binary64.ofFloat x).rational?

def Wire.rational? (value : Wire) : Option ℚ :=
  value.number?.bind Number.rational?

/-- Whether a constant can be this number. -/
def Number.isConstant : Number → Bool
  | int _ => true
  | wide _ => false
  | float x => (Binary64.ofFloat x).isFinite

/-- A fraction without what stands behind its point. -/
def truncated (q : ℚ) : ℤ :=
  q.num.tdiv q.den

/-- Arithmetic without rounding. Nothing is divided by zero, and a remainder has the sign of the dividend. -/
def Arithmetic.exactly? : Arithmetic → ℚ → ℚ → Option ℚ
  | add, x, y => some (x + y)
  | subtract, x, y => some (x - y)
  | multiply, x, y => some (x * y)
  | divide, x, y => if y = 0 then none else some (x / y)
  | modulo, x, y => if y = 0 then none else some (x - y * truncated (x / y))

theorem Binary64.exists_of_isFinite {parts : Binary64} (finite : parts.isFinite = true) :
    ∃ negative m e, parts = .finite negative m e := by
  cases parts with
  | finite negative m e => exact ⟨negative, m, e, rfl⟩
  | _ => cases finite

namespace Number

theorem exists_rational {n : Number} (constant : n.isConstant = true) : ∃ q, n.rational? = some q := by
  cases n with
  | int n => exact ⟨_, rfl⟩
  | wide n => exact ⟨_, rfl⟩
  | float x =>
    obtain ⟨negative, m, e, parts⟩ := Binary64.exists_of_isFinite constant
    rw [rational?, parts]
    exact ⟨_, rfl⟩

theorem toInt_neg {n : Int64} (bounded : n ≠ Int64.minValue) : (-n).toInt = -n.toInt := by
  have low := n.le_toInt
  have high := n.toInt_lt
  have above : n.toInt ≠ -2 ^ 63 := by
    intro least
    rw [← Int64.toInt_minValue, Int64.toInt_inj] at least
    exact bounded least
  rw [Int64.toInt_neg]
  apply Int.bmod_eq_of_le <;> omega

/-- The negation of a number is exact, a float included. -/
theorem exists_negate {n : Number} {q : ℚ} (constant : n.isConstant = true) (exactly : n.rational? = some q)
    (bounded : n ≠ int Int64.minValue) :
    ∃ k : Number, n.negate? = some (.number k) ∧ k.rational? = some (-q) := by
  cases n with
  | int n =>
    have other : n ≠ Int64.minValue := by
      rintro rfl
      exact bounded rfl
    refine ⟨int (-n), ?_, ?_⟩
    · rw [negate?, if_neg other]
      rfl
    · cases exactly
      rw [rational?, toInt_neg other]
      push_cast
      rfl
  | wide n => cases constant
  | float x =>
    obtain ⟨negative, m, e, parts⟩ := Binary64.exists_of_isFinite constant
    have turned := Binary64.ofFloat_neg parts
    refine ⟨float (-x), ?_, ?_⟩
    · rw [negate?, Wire.ofFloat?, turned]
      rfl
    · rw [rational?, parts] at exactly
      cases exactly
      rw [rational?, turned, Binary64.rational?]
      cases negative <;> simp

end Number

/-! ### What a constant holds -/

theorem Wire.ofFloat?_eq_some {x : Float} {value : Wire} (written : Wire.ofFloat? x = some value) :
    value = .number (.float x) ∧ (Binary64.ofFloat x).isFinite = true := by
  unfold Wire.ofFloat? at written
  split at written
  · rename_i finite
    cases written
    exact ⟨rfl, finite⟩
  · cases written

theorem Wire.negate?_number {value negated : Wire} (negates : value.negate? = some negated) :
    ∃ n, negated = .number n := by
  obtain ⟨number, _, negates⟩ := Option.bind_eq_some_iff.mp negates
  cases number with
  | int n =>
    simp only [Number.negate?] at negates
    split at negates
    · cases negates
    · cases negates
      exact ⟨_, rfl⟩
  | wide n => exact ⟨_, (ofFloat?_eq_some negates).1⟩
  | float x => exact ⟨_, (ofFloat?_eq_some negates).1⟩

theorem Decimal.wire?_number {keepFloat : Bool} {a : Decimal} {value : Wire}
    (written : a.wire? keepFloat = some value) : ∃ n : Number, value = .number n ∧ n.isConstant = true := by
  have float : ∀ {x}, Wire.ofFloat? x = some value → ∃ n : Number, value = .number n ∧ n.isConstant = true := by
    intro x written
    obtain ⟨rfl, finite⟩ := Wire.ofFloat?_eq_some written
    exact ⟨_, rfl, finite⟩
  unfold Decimal.wire? at written
  split at written
  · split at written
    · exact float written
    · cases written
      exact ⟨_, rfl, rfl⟩
  · exact float written

theorem Arithmetic.value?_number {op : Arithmetic} {left right : Wire} {n : Number}
    (folded : op.value? left right = some (.number n)) : n.isConstant = true := by
  unfold value? at folded
  split at folded
  · split at folded <;> cases folded
  · simp only [number?, Option.bind_eq_bind, Option.bind_eq_some_iff] at folded
    obtain ⟨_, _, _, _, _, _, written⟩ := folded
    obtain ⟨_, ⟨⟩, constant⟩ := Decimal.wire?_number written
    exact constant
  · cases folded

namespace Expr

theorem isConstant_of_value? {e : Expr} {n : Number} (encodes : e.value? = some (.number n)) :
    n.isConstant = true := by
  cases e with
  | integer =>
    cases encodes
    rfl
  | float x =>
    obtain ⟨⟨⟩, finite⟩ := Wire.ofFloat?_eq_some encodes
    exact finite
  | binary op left right =>
    cases op with
    | arithmetic op =>
      simp only [value?, Option.bind_eq_bind, Option.bind_eq_some_iff] at encodes
      obtain ⟨_, _, _, _, folded⟩ := encodes
      exact Arithmetic.value?_number folded
    | _ => cases encodes
  | array items =>
    simp only [value?, Option.bind_eq_bind, Option.bind_eq_some_iff] at encodes
    obtain ⟨_, _, same⟩ := encodes
    cases same
  | object pairs =>
    simp only [value?, Option.bind_eq_bind, Option.bind_eq_some_iff] at encodes
    obtain ⟨_, _, same⟩ := encodes
    cases same
  | _ => cases encodes

variable (name : String)

mutual

/-- A constant mentions no binding. -/
theorem mentions_of_value? : (e : Expr) → {v : Wire} → e.value? = some v → e.mentions name = false
  | null, _, _ | boolean _, _, _ | integer _, _, _ | float _, _, _ | string _, _, _ => rfl
  | array items, _, encodes => by
    simp only [value?, Option.bind_eq_bind, Option.bind_eq_some_iff] at encodes
    obtain ⟨_, values, _⟩ := encodes
    rw [mentions, mentionsItems_of_itemValues? items values]
  | object pairs, _, encodes => by
    simp only [value?, Option.bind_eq_bind, Option.bind_eq_some_iff] at encodes
    obtain ⟨_, values, _⟩ := encodes
    rw [mentions, mentionsPairs_of_pairValues? pairs values]
  | binary (.arithmetic op) left right, _, encodes => by
    simp only [value?, Option.bind_eq_bind, Option.bind_eq_some_iff] at encodes
    obtain ⟨_, first, _, second, _⟩ := encodes
    rw [mentions, mentions_of_value? left first, mentions_of_value? right second]
    rfl
  | binary (.comparison _) _ _, _, encodes | binary (.connective _) _ _, _, encodes => by cases encodes
  | absent, _, encodes | root, _, encodes | collection _, _, encodes | key _, _, encodes => by cases encodes
  | binding _, _, encodes | access .., _, encodes | member .., _, encodes | existence _, _, encodes => by cases encodes
  | call .., _, encodes | lambda .., _, encodes => by cases encodes

theorem mentionsItems_of_itemValues? : (es : List Expr) → {vs : List Wire} → itemValues? es = some vs →
    mentionsItems name es = false
  | [], _, _ => rfl
  | e :: es, _, encodes => by
    simp only [itemValues?, Option.bind_eq_bind, Option.bind_eq_some_iff] at encodes
    obtain ⟨_, first, _, rest, _⟩ := encodes
    rw [mentionsItems, mentions_of_value? e first, mentionsItems_of_itemValues? es rest]
    rfl

theorem mentionsPairs_of_pairValues? : (ps : List (String × Expr)) → {fields found : Document} →
    pairValues? fields ps = some found → mentionsPairs name ps = false
  | [], _, _, _ => rfl
  | (_, e) :: ps, _, _, encodes => by
    simp only [pairValues?, Option.bind_eq_bind, Option.bind_eq_some_iff] at encodes
    obtain ⟨_, first, rest⟩ := encodes
    rw [mentionsPairs, mentions_of_value? e first, mentionsPairs_of_pairValues? ps rest]
    rfl

end

end Expr

end DocChain
