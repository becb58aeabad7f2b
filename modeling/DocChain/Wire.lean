import DocChain.Fields
import DocChain.Number.Binary64

/-!
# Wire values

What a document holds: nulls, truth values, numbers, strings, arrays and documents in field order.
Whole numbers and floats are different values, so `1` and `1.0` differ.
-/

namespace DocChain

inductive Number where
  | int (n : Int64)
  /-- A whole number above the signed range. -/
  | wide (n : UInt64)
  | float (x : Float)
deriving DecidableEq

inductive Wire where
  | null
  | bool (value : Bool)
  | number (value : Number)
  | string (value : String)
  | array (items : List Wire)
  | object (fields : List (String × Wire))

abbrev Document := Fields Wire

namespace Wire

def int (n : Int64) : Wire :=
  .number (.int n)

/-- Infinities and NaN have no wire form. -/
def ofFloat? (x : Float) : Option Wire :=
  if (Binary64.ofFloat x).isFinite then some (.number (.float x)) else none

def single (key : String) (value : Wire) : Wire :=
  .object [(key, value)]

def number? : Wire → Option Number
  | .number n => some n
  | _ => none

def int64? : Wire → Option Int64
  | .number (.int n) => some n
  | _ => none

def object? : Wire → Option Document
  | .object fields => some fields
  | _ => none

def isNumber (w : Wire) : Bool :=
  w.number?.isSome

def isArray : Wire → Bool
  | .array _ => true
  | _ => false

end Wire

/-- The arithmetic negation of a number. The least integer has none. -/
def Number.negate? : Number → Option Wire
  | .int n => if n = Int64.minValue then none else some (.int (-n))
  | .wide n => Wire.ofFloat? (-n.toFloat)
  | .float x => Wire.ofFloat? (-x)

def Wire.negate? (w : Wire) : Option Wire :=
  w.number?.bind Number.negate?

end DocChain
