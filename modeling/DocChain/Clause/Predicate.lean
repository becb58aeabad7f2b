import DocChain.Clause
import DocChain.Expr.Constant
import DocChain.Pattern

/-!
# Predicates

`Expr.predicate?` is the query clause of a lambda body: comparisons of a field with a constant,
existence and membership tests, patterns, a field alone as a truth test, and any of these under
`and` and `or`. Nested uses of one connective become one list.
-/

namespace DocChain

/-- The query operator of a comparison; equality is written as the plain value. -/
def Comparison.operator? : Comparison → Option String
  | .equal => none
  | .notEqual => some "$ne"
  | .less => some "$lt"
  | .lessEqual => some "$lte"
  | .greater => some "$gt"
  | .greaterEqual => some "$gte"

/-- The condition that a comparison with a constant puts on a field. -/
def Comparison.condition (c : Comparison) (operand : Wire) : Wire :=
  match c.operator? with
  | none => operand
  | some operator => .single operator operand

def Connective.operator : Connective → String
  | .and => "$and"
  | .or => "$or"

namespace Expr

def list? (e : Expr) : Option Wire := do
  let value ← e.value?
  if value.isArray then some value else none

/-- The condition that a method of a field puts on it. -/
def fieldTest? (method : String) (arg : Expr) : Option Wire :=
  match method with
  | "matches" =>
    match arg with
    | string pattern =>
      if Pattern.isValid pattern then some (.single "$regex" (.string pattern)) else none
    | _ => none
  | "in" => return .single "$in" (← arg.list?)
  | "not_in" => return .single "$nin" (← arg.list?)
  | _ => none

/-- A comparison of a field with a constant, on either side. -/
def comparison? (binding : String) (c : Comparison) (left right : Expr) : Option Clause :=
  match left.pathOn? binding with
  | some path => return ⟨path.dotted, c.condition (← right.value?)⟩
  | none => do
    let path ← right.pathOn? binding
    return ⟨path.dotted, c.flipped.condition (← left.value?)⟩

def predicate? (binding : String) : Expr → Option Clause
  | binary (.connective c) left right => do
    let left ← left.predicate? binding
    let right ← right.predicate? binding
    return ⟨c.operator, .array (left.operands c.operator ++ right.operands c.operator)⟩
  | binary (.comparison c) left right => comparison? binding c left right
  | binary (.arithmetic _) _ _ => none
  | existence inner => do
    let path ← inner.pathOn? binding
    return ⟨path.dotted, .single "$exists" (.bool true)⟩
  | call field method [arg] => do
    let path ← field.pathOn? binding
    return ⟨path.dotted, ← fieldTest? method arg⟩
  | e => do
    let path ← e.pathOn? binding
    return ⟨path.dotted, .bool true⟩

end Expr

end DocChain
