import DocChain.Clause.Element
import DocChain.Operator

/-!
# Update clauses

`Operation.clause?` is the clause of an operation on a field. `set` looks at its value: a step of
the field by a constant is an increment, `absent` removes the field, and any other value must be a
constant. An operand without a wire form gives no clause.
-/

namespace DocChain

namespace Expr

/-- The value of a constant number. -/
def amount? (e : Expr) : Option Wire := do
  let value ← e.value?
  if value.isNumber then some value else none

/-- The value of a constant integer. -/
def mask? (e : Expr) : Option Wire := do
  return .int (← (← e.value?).int64?)

/-- The constant beside the field itself. -/
def stepBeside? (binding : String) (path : FieldPath) (field constant : Expr) : Option Wire :=
  if field.pathOn? binding = some path then constant.amount? else none

def assignment? (binding : String) (path : FieldPath) (value : Expr) : Option Clause :=
  if value.mentions binding then none
  else do return .update "$set" path (← value.value?)

def setClause? (binding : String) (path : FieldPath) (value : Expr) : Option Clause :=
  match value with
  | absent => some (.update "$unset" path (.int 1))
  | binary (.arithmetic .add) left right =>
    match (left.stepBeside? binding path right).or (right.stepBeside? binding path left) with
    | some k => some (.update "$inc" path k)
    | none => value.assignment? binding path
  | binary (.arithmetic .subtract) left right =>
    match left.stepBeside? binding path right with
    | some k => return .update "$inc" path (← k.negate?)
    | none => value.assignment? binding path
  | _ => value.assignment? binding path

/-- What `pull` removes: the elements that meet a condition, or those equal to a constant. -/
def pulled? : Expr → Option Wire
  | lambda param body => return .object (← body.elementCondition? param)
  | e => e.value?

end Expr

def Operation.fieldClause? (op : Operation) (binding : String) (path : FieldPath) (e : Expr) :
    Option Clause :=
  match op with
  | .filter => e.predicate? binding
  | .set | .unset => e.setClause? binding path
  | .increment => return .update "$inc" path (← e.amount?)
  | .decrement => return .update "$inc" path (← (← e.value?).negate?)
  | .addToSet => return .update "$addToSet" path (← e.value?)
  | .addToSetEach => return .update "$addToSet" path (.single "$each" (← e.list?))
  | .push => return .update "$push" path (← e.value?)
  | .pushEach => return .update "$push" path (.single "$each" (← e.list?))
  | .popFront => some (.update "$pop" path (.int (-1)))
  | .popBack => some (.update "$pop" path (.int 1))
  | .pull => return .update "$pull" path (← e.pulled?)
  | .pullAll => return .update "$pullAll" path (← e.list?)
  | .bitAnd => return .update "$bit" path (.single "and" (← e.mask?))
  | .bitOr => return .update "$bit" path (.single "or" (← e.mask?))

/-- The clause of an operation. Only a filter can do without a field. -/
def Operation.clause? (op : Operation) (binding : String) (path : Option FieldPath) (e : Expr) :
    Option Clause :=
  match path with
  | some path => op.fieldClause? binding path e
  | none => if op = .filter then e.predicate? binding else none

end DocChain
