import DocChain.Clause.Predicate

/-!
# Conditions on list elements

The lambda of a `pull` binds an element. Its condition is on the element itself, as in `@e < 5`,
or on fields of the element; the two cannot be mixed.
-/

namespace DocChain.Expr

def isSelf (name : String) : Expr → Bool
  | binding n => n = name
  | _ => false

/-- Whether this only compares the element itself. -/
def onElement (binding : String) : Expr → Bool
  | binary op left right =>
    if op = .connective .and then left.onElement binding && right.onElement binding
    else left.isSelf binding || right.isSelf binding
  | _ => false

/-- A comparison of the element itself with a constant; equality has an operator here. -/
def selfCondition? (op : Comparison) (constant : Expr) : Option Document := do
  return [(op.operator?.getD "$eq", ← constant.value?)]

/-- Two conditions on the element itself, unless both use one operator. -/
def joinConditions? (first second : Document) : Option Document :=
  if second.keys.any first.contains then none else some (first.insertAll second)

def elementCondition? (binding : String) : Expr → Option Document
  | binary (.connective .and) left right =>
    match left.onElement binding, right.onElement binding with
    | true, true => do
      joinConditions? (← left.elementCondition? binding) (← right.elementCondition? binding)
    | false, false => do
      return (← (binary (.connective .and) left right).predicate? binding).document
    | _, _ => none
  | binary (.comparison c) left right =>
    if left.isSelf binding then selfCondition? c right
    else if right.isSelf binding then selfCondition? c.flipped left
    else do return (← (binary (.comparison c) left right).predicate? binding).document
  | binary op left right =>
    if left.isSelf binding || right.isSelf binding then none
    else do return (← (binary op left right).predicate? binding).document
  | e => do return (← e.predicate? binding).document

end DocChain.Expr
