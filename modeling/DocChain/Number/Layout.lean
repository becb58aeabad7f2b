import DocChain.Number.Shortest

/-!
# Laying out the digits of a float

A `FloatLayout` says where positional notation ends and how points and exponents are written; the
digits are always the shortest ones.
-/

namespace DocChain

structure FloatLayout where
  /-- Which of two equally near decimals gives the digits. -/
  tie : Tie
  /-- The least and the greatest exponent of the first digit that is written positionally, or all
  of them. -/
  positional : Option (Int × Int)
  /-- Whether whole numbers in positional notation end in `.0`. -/
  wholePoint : Bool
  /-- Whether a positive exponent has a sign. -/
  exponentPlus : Bool

namespace FloatLayout

def isPositional (layout : FloatLayout) (exponent : Int) : Bool :=
  match layout.positional with
  | none => true
  | some (least, greatest) => least ≤ exponent && exponent ≤ greatest

def zeros (n : Nat) : List Char :=
  List.replicate n '0'

def wholeEnd (layout : FloatLayout) : List Char :=
  if layout.wholePoint then ['.', '0'] else []

/-- Digits in positional notation, the first of them at `10 ^ exponent`. -/
def positionalText (layout : FloatLayout) (digits : List Char) (exponent : Int) : List Char :=
  if exponent < 0 then '0' :: '.' :: zeros (-exponent - 1).toNat ++ digits
  else
    let whole := exponent.toNat + 1
    if digits.length ≤ whole then digits ++ zeros (whole - digits.length) ++ layout.wholeEnd
    else digits.take whole ++ '.' :: digits.drop whole

/-- Digits as one digit, a fraction and an exponent. -/
def scientificText (layout : FloatLayout) (digits : List Char) (exponent : Int) : List Char :=
  let fraction := match digits.drop 1 with
    | [] => []
    | rest => '.' :: rest
  let plus := if layout.exponentPlus && 0 ≤ exponent then ['+'] else []
  digits.take 1 ++ fraction ++ 'e' :: plus ++ (toString exponent).toList

def magnitudeText (layout : FloatLayout) (mantissa : Nat) (exponent : Int) : List Char :=
  let shortest := Shortest.of layout.tie mantissa exponent
  let digits := Nat.toDigits 10 shortest.significand
  let first := shortest.exponent + digits.length - 1
  if layout.isPositional first then layout.positionalText digits first
  else layout.scientificText digits first

def text (layout : FloatLayout) (x : Float) : String :=
  let sign (negative : Bool) (digits : List Char) :=
    String.ofList (if negative then '-' :: digits else digits)
  match Binary64.ofFloat x with
  | .nan => "NaN"
  | .infinite negative => sign negative ['i', 'n', 'f']
  | .finite negative mantissa exponent =>
    sign negative
      (if mantissa = 0 then '0' :: layout.wholeEnd else layout.magnitudeText mantissa exponent)

end FloatLayout

end DocChain
