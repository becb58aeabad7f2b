import DocChain.Number.Power

/-!
# Binary64 values taken apart

`Binary64.ofFloat` reads a float as sign, mantissa and power of two. All exact work on floats
(printing, decimal arithmetic, rounding) starts from these parts.
-/

namespace DocChain

inductive Binary64 where
  | nan
  | infinite (negative : Bool)
  /-- The value `mantissa * 2 ^ exponent` with a sign. -/
  | finite (negative : Bool) (mantissa : Nat) (exponent : Int)
deriving DecidableEq

namespace Binary64

def ofFloat (x : Float) : Binary64 :=
  let bits := x.toBits.toNat
  let negative := decide (2 ^ 63 ≤ bits)
  let exponent : Nat := bits / 2 ^ 52 % 2048
  let fraction := bits % 2 ^ 52
  if exponent = 2047 then if fraction = 0 then .infinite negative else .nan
  else if exponent = 0 then .finite negative fraction (-1074)
  else .finite negative (2 ^ 52 + fraction) (exponent - 1075)

/-- The parts of a finite value are in the range of the format. -/
theorem range_of_ofFloat {x : Float} {negative : Bool} {mantissa : Nat} {exponent : Int}
    (h : ofFloat x = .finite negative mantissa exponent) :
    mantissa < 2 ^ 53 ∧ -1074 ≤ exponent ∧ exponent ≤ 971 := by
  unfold ofFloat at h
  dsimp only at h
  split at h
  · split at h <;> cases h
  · split at h
    · cases h
      omega
    · cases h
      omega

def isFinite : Binary64 → Bool
  | .finite .. => true
  | _ => false

def signed (negative : Bool) (x : Float) : Float :=
  if negative then -x else x

/-- The nearest whole number; a half goes away from zero. -/
def roundHalfAway (x : Float) : Float :=
  match ofFloat x with
  | .finite negative mantissa exponent =>
    if 0 ≤ exponent then x
    else
      let unit := 2 ^ (-exponent).toNat
      signed negative (Float.ofNat ((mantissa + unit / 2) / unit))
  | _ => x

/-- The power of `x`, by repeated squaring from the low bit of the exponent; `fuel` bounds the
number of squarings. -/
def powLoop : Nat → Float → Float → Nat → Float
  | 0, result, _, _ => result
  | fuel + 1, result, x, n =>
    let result := if n % 2 = 1 then result * x else result
    if n / 2 = 0 then result else powLoop fuel result (x * x) (n / 2)

def pow (x : Float) (n : Nat) : Float :=
  powLoop (n + 1) 1 x n

end Binary64

end DocChain
