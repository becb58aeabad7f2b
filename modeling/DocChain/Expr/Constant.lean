import DocChain.Expr
import DocChain.Number.Decimal
import DocChain.Wire

/-!
# Constant expressions

`Expr.value?` is the wire value of a constant: a literal, an array or object of constants, or
arithmetic on constant numbers, which is done in decimals so that whole results stay whole. Two
strings are joined by `+`. Bindings, sources, calls and the like have no value.
-/

namespace DocChain

/-- The number as a decimal, cut to the precision of a float if it is not a signed integer. -/
def Number.decimal? : Number → Option Decimal
  | .int n => some (.ofInt64 n)
  | .wide n => Decimal.ofFloat? n.toFloat
  | .float x => Decimal.ofFloat? x

def Number.isFloat : Number → Bool
  | .float _ => true
  | _ => false

/-- A decimal result as a wire number: a float if asked for, and otherwise an integer if it can be
one. -/
def Decimal.wire? (keepFloat : Bool) (a : Decimal) : Option Wire :=
  match a.toInt64? with
  | some n => if keepFloat then Wire.ofFloat? a.toFloat else some (.int n)
  | none => Wire.ofFloat? a.toFloat

namespace Arithmetic

def decimal? : Arithmetic → Decimal → Decimal → Option Decimal
  | add => Decimal.add?
  | subtract => Decimal.sub?
  | multiply => Decimal.mul?
  | divide => Decimal.div?
  | modulo => Decimal.rem?

/-- Arithmetic on numbers. Two floats stay a float. -/
def number? (op : Arithmetic) (a b : Number) : Option Wire := do
  (← op.decimal? (← a.decimal?) (← b.decimal?)).wire? (a.isFloat && b.isFloat)

def value? (op : Arithmetic) : Wire → Wire → Option Wire
  | .string a, .string b => if op = add then some (.string (a ++ b)) else none
  | .number a, .number b => op.number? a b
  | _, _ => none

end Arithmetic

namespace Expr

mutual

def value? : Expr → Option Wire
  | null => some .null
  | boolean b => some (.bool b)
  | integer n => some (.int n)
  | float x => Wire.ofFloat? x
  | string s => some (.string s)
  | array items => do return .array (← itemValues? items)
  | object pairs => do return .object (← pairValues? [] pairs)
  | binary (.arithmetic op) left right => do op.value? (← value? left) (← value? right)
  | _ => none

def itemValues? : List Expr → Option (List Wire)
  | [] => some []
  | e :: es => do return (← value? e) :: (← itemValues? es)

/-- Inserts the pairs into a document, so the last value of a repeated key counts. -/
def pairValues? (fields : Document) : List (String × Expr) → Option Document
  | [] => some fields
  | (name, e) :: ps => do pairValues? (fields.insert name (← value? e)) ps

end

end Expr

end DocChain
