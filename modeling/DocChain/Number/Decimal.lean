import DocChain.Number.Binary64

/-!
# Decimal arithmetic

A `Decimal` is a signed mantissa below `2 ^ 96` over a power of ten up to `10 ^ 28`. Sums and
products are exact where they fit and otherwise rounded once, half to even; quotients take as many
places as fit. An operation whose result has no such form gives nothing.
-/

namespace DocChain

structure Decimal where
  negative : Bool
  mantissa : Nat
  scale : Nat
  mantissa_lt : mantissa < 2 ^ 96
  scale_le : scale ≤ 28
deriving DecidableEq

namespace Decimal

def make? (negative : Bool) (mantissa scale : Nat) : Option Decimal :=
  if h : mantissa < 2 ^ 96 ∧ scale ≤ 28 then some ⟨negative, mantissa, scale, h.1, h.2⟩ else none

def zero : Decimal :=
  ⟨false, 0, 0, by decide, by decide⟩

def isZero (a : Decimal) : Bool :=
  a.mantissa = 0

def signedMantissa (a : Decimal) : Int :=
  if a.negative then -a.mantissa else a.mantissa

def neg (a : Decimal) : Decimal :=
  { a with negative := !a.negative }

/-- The quotient of natural numbers rounded to the nearest, a half to the even neighbour. -/
def divHalfEven (n d : Nat) : Nat :=
  let quotient := n / d
  let rest := n % d
  if d < 2 * rest || (d = 2 * rest && quotient % 2 = 1) then quotient + 1 else quotient

/-- The rounded quotient is within half a unit of the exact one. -/
theorem divHalfEven_near (n : Nat) {d : Nat} (h : 0 < d) :
    2 * n ≤ 2 * (d * divHalfEven n d) + d ∧ 2 * (d * divHalfEven n d) ≤ 2 * n + d := by
  have split := Nat.div_add_mod n d
  have small := Nat.mod_lt n h
  unfold divHalfEven
  dsimp only
  split
  · rename_i up
    simp only [Bool.or_eq_true, decide_eq_true_eq, Bool.and_eq_true] at up
    rw [Nat.mul_add, Nat.mul_one]
    omega
  · rename_i down
    simp only [Bool.or_eq_true, decide_eq_true_eq, Bool.and_eq_true, not_or] at down
    omega

/-- Drops `digits` or more of the last digits, as few as make the value fit; `fuel` bounds the
number of attempts. -/
def reduceFrom (negative : Bool) (mantissa scale : Nat) : Nat → Nat → Option Decimal
  | 0, _ => none
  | fuel + 1, digits =>
    if scale < digits then none
    else match make? negative (divHalfEven mantissa (10 ^ digits)) (scale - digits) with
      | some a => some a
      | none => reduceFrom negative mantissa scale fuel (digits + 1)

/-- The value `mantissa / 10 ^ scale` with the most places that fit, rounded half to even. -/
def reduce (negative : Bool) (mantissa scale : Nat) : Option Decimal :=
  reduceFrom negative mantissa scale (scale + 1) 0

/-! ### Conversion from machine numbers -/

def ofInt64 (n : Int64) : Decimal :=
  { negative := n.toInt < 0
    mantissa := n.toInt.natAbs
    scale := 0
    mantissa_lt := by
      have := n.le_toInt
      have := n.toInt_lt
      omega
    scale_le := by decide }

/-- Writes `m / 2 ^ k` times a power of ten as a mantissa times a power of ten, where a factor five
fits it in and otherwise by halving. -/
def fifthsIn : Nat → Nat → Int → Nat × Int
  | 0, m, exponent => (m, exponent)
  | k + 1, m, exponent =>
    if m % 2 = 1 ∧ 5 * m < 2 ^ 96 then fifthsIn k (5 * m) exponent
    else fifthsIn k (m / 2) (exponent + 1)

/-- Writes `m * 2 ^ k` times a power of ten as a mantissa times a power of ten: by doubling while
the mantissa has room, then by dividing by five, unless the power of ten is too large for that. -/
def fifthsOut : Nat → Nat → Int → Option (Nat × Int)
  | 0, m, exponent => some (m, exponent)
  | k + 1, m, exponent =>
    if m < 2 ^ 95 then fifthsOut k (2 * m) (exponent - 1)
    else if (k + 1 : Int) < 2 * exponent then none
    else fifthsOut k (m / 5) exponent

/-- Multiplies by ten, as often as `k` says. -/
def tensIn : Nat → Nat → Option Nat
  | 0, m => some m
  | k + 1, m => if 10 * m < 2 ^ 96 then tensIn k (10 * m) else none

/-- Drops the last digit, rounding half up. -/
def dropDigit (m : Nat) : Nat :=
  if 5 ≤ m % 10 then m / 10 + 1 else m / 10

/-- Brings the number of places down to 28, one at a time. -/
def limitPlaces : Nat → Nat → Nat → Nat × Nat
  | 0, m, places => (m, places)
  | k + 1, m, places => if m / 10 = 0 then (0, 0) else limitPlaces k (dropDigit m) (places - 1)

/-- Drops places while the mantissa has more bits than a float has behind its first. -/
def limitBits : Nat → Nat → Nat × Nat
  | 0, m => (m, 0)
  | places + 1, m => if 2 ^ 52 ≤ m then limitBits places (dropDigit m) else (m, places + 1)

def stripPlaces : Nat → Nat → Nat × Nat
  | 0, m => (m, 0)
  | places + 1, m => if m % 10 = 0 then stripPlaces places (m / 10) else (m, places + 1)

/-- The magnitude `m * 10 ^ exponent` cut to the precision of a float. -/
def ofScaled? (negative : Bool) (m : Nat) (exponent : Int) : Option Decimal := do
  let m ← tensIn exponent.toNat m
  let places := (-exponent).toNat
  let (m, places) := limitPlaces (places - 28) m places
  let (m, places) := limitBits places m
  let (m, places) := stripPlaces places m
  make? negative m places

def ofFloat? (x : Float) : Option Decimal :=
  match Binary64.ofFloat x with
  | .finite negative 0 _ => make? negative 0 0
  | .finite negative m exponent =>
    if exponent < 0 then
      let (m, exponent) := fifthsIn (-exponent).toNat m exponent
      ofScaled? negative m exponent
    else do
      let (m, exponent) ← fifthsOut exponent.toNat m exponent
      ofScaled? negative m exponent
  | _ => none

/-! ### Arithmetic -/

/-- The signed mantissa of `a` at a scale no smaller than its own. -/
def atScale (a : Decimal) (scale : Nat) : Int :=
  a.signedMantissa * 10 ^ (scale - a.scale)

def add? (a b : Decimal) : Option Decimal :=
  if a.isZero then some b
  else if b.isZero then some a
  else
    let scale := max a.scale b.scale
    let sum := a.atScale scale + b.atScale scale
    reduce (sum < 0) sum.natAbs scale

def sub? (a b : Decimal) : Option Decimal :=
  if a.isZero && b.isZero then some b else a.add? b.neg

def mul? (a b : Decimal) : Option Decimal :=
  if a.isZero || b.isZero then some zero
  else reduce (a.negative != b.negative) (a.mantissa * b.mantissa) (a.scale + b.scale)

/-- Adds places to the quotient of `n` by `d` while it is inexact and the next place fits; gives
the numerator and the places reached. -/
def widen (d : Nat) : Nat → Nat → Nat → Nat × Nat
  | 0, n, places => (n, places)
  | fuel + 1, n, places =>
    if n % d = 0 ∨ 28 ≤ places ∨ 2 ^ 96 ≤ 10 * n / d then (n, places)
    else widen d fuel (10 * n) (places + 1)

def div? (a b : Decimal) : Option Decimal :=
  let negative := a.negative != b.negative
  if b.isZero then none
  else if a.isZero then some zero
  else
    let n := a.mantissa * 10 ^ (b.scale - a.scale)
    let places := a.scale - b.scale
    if a.mantissa % b.mantissa = 0 then make? negative (n / b.mantissa) places
    else if 2 ^ 96 ≤ n / b.mantissa then none
    else
      let (n, places) := widen b.mantissa 28 n places
      do
        let quotient ← reduce negative (divHalfEven n b.mantissa) places
        let (m, places) := stripPlaces quotient.scale quotient.mantissa
        make? negative m places

/-- The remainder of the truncated quotient, with the sign of the dividend. -/
def rem? (a b : Decimal) : Option Decimal :=
  let scale := max a.scale b.scale
  let n := (a.atScale scale).natAbs
  let d := (b.atScale scale).natAbs
  if b.isZero then none
  else if a.isZero ∨ n = d then some zero
  else if n < d then some a
  else make? a.negative (n % d) scale

/-! ### Conversion to machine numbers -/

/-- The value as an integer of 64 bits, if it is one. -/
def toInt64? (a : Decimal) : Option Int64 :=
  let whole := a.signedMantissa.tdiv (10 ^ a.scale)
  if a.mantissa % 10 ^ a.scale = 0 ∧ -2 ^ 63 ≤ whole ∧ whole < 2 ^ 63 then some (Int64.ofInt whole)
  else none

/-- The value as a float. A fraction is added to the whole part in floating point and the sum is
then rounded to as many places as the decimal has. -/
def toFloat (a : Decimal) : Float :=
  let unit := 10 ^ a.scale
  let whole := Float.ofNat (a.mantissa / unit)
  let fraction := Float.ofNat (a.mantissa % unit) / Float.ofNat unit
  if a.scale = 0 then if a.isZero then 0 else Binary64.signed a.negative whole
  else if fraction == 0 then Binary64.signed a.negative whole
  else
    let places := Binary64.pow 10 a.scale
    Binary64.signed a.negative (Binary64.roundHalfAway ((whole + fraction) * places) / places)

end Decimal

end DocChain
