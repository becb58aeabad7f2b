import DocChain.Number.Binary64

/-!
# The shortest decimal of a binary fraction

Among the decimals that round to a given float, `Shortest.of` takes one with the fewest digits and,
of those, the nearest. All comparisons are exact: a real number is a multiple of a binary unit, and
a decimal grid is compared with it over a common denominator.
-/

namespace DocChain

/-- Which of two equally near decimals is taken. -/
inductive Tie where
  | up
  | toEven
deriving DecidableEq

/-- The positive decimal `significand * 10 ^ exponent`. -/
structure Shortest where
  significand : Nat
  exponent : Int
deriving DecidableEq

namespace Shortest

/-- The factors that carry a multiple of `2 ^ binary` to a multiple of `10 ^ decimal`: multiply by
the first, divide by the second. -/
def factors (binary decimal : Int) : Nat × Nat :=
  (2 ^ binary.toNat * 10 ^ (-decimal).toNat, 2 ^ (-binary).toNat * 10 ^ decimal.toNat)

/-- The real numbers that round to `mantissa * 2 ^ exponent`, in quarters of the last place. The
ends belong to them when the mantissa is even. -/
structure Interval where
  low : Nat
  value : Nat
  high : Nat
  closed : Bool
  unit : Int

def interval (mantissa : Nat) (exponent : Int) : Interval :=
  { low := if mantissa = 2 ^ 52 ∧ -1074 < exponent then 4 * mantissa - 1 else 4 * mantissa - 2
    value := 4 * mantissa
    high := 4 * mantissa + 2
    closed := mantissa % 2 = 0
    unit := exponent - 2 }

/-- Whether the grid point `n * 10 ^ place` lies in the interval. -/
def Interval.holds (i : Interval) (place : Int) (n : Nat) : Bool :=
  let (up, down) := factors i.unit place
  if i.closed then i.low * up ≤ n * down && n * down ≤ i.high * up
  else i.low * up < n * down && n * down < i.high * up

/-- The neighbour of the value on the grid of `10 ^ place` that lies in the interval; of two the
nearer. -/
def Interval.onGrid? (i : Interval) (tie : Tie) (place : Int) : Option Nat :=
  let (up, down) := factors i.unit place
  let below := i.value * up / down
  let rest := i.value * up % down
  match i.holds place below, i.holds place (below + 1) with
  | false, false => none
  | true, false => some below
  | false, true => some (below + 1)
  | true, true =>
    if 2 * rest < down then some below
    else if down < 2 * rest then some (below + 1)
    else match tie with
      | .up => some (below + 1)
      | .toEven => some (if below % 2 = 0 then below else below + 1)

/-- A point that is taken rounds to the value. -/
theorem Interval.holds_of_onGrid? {i : Interval} {tie : Tie} {place : Int} {n : Nat}
    (h : i.onGrid? tie place = some n) : i.holds place n = true := by
  unfold onGrid? at h
  dsimp only at h
  split at h
  · cases h
  · cases h
    assumption
  · cases h
    assumption
  · split at h
    · cases h
      assumption
    · split at h
      · cases h
        assumption
      · split at h
        · cases h
          assumption
        · cases h
          split <;> assumption

/-- Tries ever finer grids, at most `fuel` of them. -/
def Interval.search (i : Interval) (tie : Tie) : Nat → Int → Shortest
  | 0, place => ⟨i.value * (factors i.unit place).1 / (factors i.unit place).2, place⟩
  | fuel + 1, place =>
    match i.onGrid? tie place with
    | some n => ⟨n, place⟩
    | none => i.search tie fuel (place - 1)

/-- Whether `10 ^ place ≤ mantissa * 2 ^ exponent`. -/
def reaches (mantissa : Nat) (exponent place : Int) : Bool :=
  (factors exponent place).2 ≤ mantissa * (factors exponent place).1

/-- The exponent of the first decimal digit of a positive value. -/
def decade (mantissa : Nat) (exponent : Int) : Int :=
  let guess := ((mantissa.log2 + exponent) * 30103).fdiv 100000
  if reaches mantissa exponent (guess + 1) then guess + 1
  else if reaches mantissa exponent guess then guess
  else guess - 1

/-- Moves trailing zeros of the significand into the exponent. -/
def strip : Nat → Shortest → Shortest
  | 0, d => d
  | fuel + 1, d =>
    if d.significand % 10 = 0 then strip fuel ⟨d.significand / 10, d.exponent + 1⟩ else d

/-- The shortest decimal of the positive value `mantissa * 2 ^ exponent`; seventeen digits always
suffice. -/
def of (tie : Tie) (mantissa : Nat) (exponent : Int) : Shortest :=
  strip 17 ((interval mantissa exponent).search tie 17 (decade mantissa exponent))

end Shortest

end DocChain
