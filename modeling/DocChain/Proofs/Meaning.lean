import DocChain.Assembly

/-!
# What conditions and query documents say of a row

`Condition` is a predicate body as it is written, `Interpretation.holds` the reading of a query
document. Both are read over the same interpretation of rows, which gives the value of a dotted path
and the truth of each test on a value.
-/

namespace DocChain

/-- A lambda body read as a condition on a row. -/
inductive Condition where
  | compare (path : String) (c : Comparison) (constant : Wire)
  | present (path : String)
  | matching (path pattern : String)
  | within (path : String) (items : List Wire)
  | outside (path : String) (items : List Wire)
  | both (left right : Condition)
  | either (left right : Condition)

/-- The condition of a predicate body over a binding. A constant on the left is compared the other way
round, and a field alone means that it is true. -/
def Expr.condition? (binding : String) : Expr → Option Condition
  | binary (.connective .and) left right =>
    return .both (← left.condition? binding) (← right.condition? binding)
  | binary (.connective .or) left right =>
    return .either (← left.condition? binding) (← right.condition? binding)
  | binary (.comparison c) left right =>
    match left.pathOn? binding, right.pathOn? binding with
    | some path, _ => return .compare path.dotted c (← right.value?)
    | none, some path => return .compare path.dotted c.flipped (← left.value?)
    | none, none => none
  | existence field => return .present (← field.pathOn? binding).dotted
  | call field method [arg] => do
    let path := (← field.pathOn? binding).dotted
    match method, arg, arg.value? with
    | "matches", string pattern, _ => return .matching path pattern
    | "in", _, some (.array items) => return .within path items
    | "not_in", _, some (.array items) => return .outside path items
    | _, _, _ => none
  | e => return .compare (← e.pathOn? binding).dotted .equal (.bool true)

/-- Whether a value would be read as operators in the place of an operand. -/
def Wire.isOperators : Wire → Bool
  | .object fields => Query.isOperators fields
  | _ => false

/-- Whether no path of a condition starts like an operator, and no field is compared for equality with
a document of operators. -/
def Condition.isPlain : Condition → Bool
  | compare path c constant => !Query.isOperator path && (c ≠ .equal || !constant.isOperators)
  | present path | matching path _ | within path _ | outside path _ => !Query.isOperator path
  | both left right | either left right => left.isPlain && right.isPlain

/-- The value of a path in a row, and the truth of the tests on values. -/
structure Interpretation (Row Value : Type) where
  lookup : Row → String → Value
  compare : Comparison → Value → Wire → Bool
  present : Value → Bool
  matching : Value → String → Bool
  within : Value → List Wire → Bool
  outside : Value → List Wire → Bool
  /-- Operators that no condition is written with. -/
  other : String → Value → Wire → Bool

variable {Row Value : Type}

/-- Whether a condition holds of a row. -/
def Condition.holds (I : Interpretation Row Value) (row : Row) : Condition → Bool
  | compare path c constant => I.compare c (I.lookup row path) constant
  | present path => I.present (I.lookup row path)
  | matching path pattern => I.matching (I.lookup row path) pattern
  | within path items => I.within (I.lookup row path) items
  | outside path items => I.outside (I.lookup row path) items
  | both left right => left.holds I row && right.holds I row
  | either left right => left.holds I row || right.holds I row

namespace Interpretation

/-- The test of an operator on a value. -/
def test (I : Interpretation Row Value) (x : Value) : String → Wire → Bool
  | "$eq", k => I.compare .equal x k
  | "$ne", k => I.compare .notEqual x k
  | "$lt", k => I.compare .less x k
  | "$lte", k => I.compare .lessEqual x k
  | "$gt", k => I.compare .greater x k
  | "$gte", k => I.compare .greaterEqual x k
  | "$exists", .bool true => I.present x
  | "$regex", .string pattern => I.matching x pattern
  | "$in", .array items => I.within x items
  | "$nin", .array items => I.outside x items
  | operator, operand => I.other operator x operand

/-- Whether a value meets all tests of an operator document. -/
def tests (I : Interpretation Row Value) (x : Value) (operators : Document) : Bool :=
  operators.all fun entry => I.test x entry.1 entry.2

mutual

/-- Whether a query document holds of a row: all its entries do. -/
def holds (I : Interpretation Row Value) (row : Row) : List (String × Wire) → Bool
  | [] => true
  | (key, value) :: rest => I.holdsEntry row key value && I.holds row rest

/-- An entry is a connective over documents, operators on a field, or the value of a field. -/
def holdsEntry (I : Interpretation Row Value) (row : Row) (key : String) : Wire → Bool
  | .array members =>
    if key = "$and" then I.allHold row members
    else if key = "$or" then I.anyHolds row members
    else I.compare .equal (I.lookup row key) (.array members)
  | .object fields =>
    if Query.isOperators fields then I.tests (I.lookup row key) fields
    else I.compare .equal (I.lookup row key) (.object fields)
  | value => I.compare .equal (I.lookup row key) value

def allHold (I : Interpretation Row Value) (row : Row) : List Wire → Bool
  | [] => true
  | .object fields :: rest => I.holds row fields && I.allHold row rest
  | _ :: _ => false

def anyHolds (I : Interpretation Row Value) (row : Row) : List Wire → Bool
  | [] => false
  | .object fields :: rest => I.holds row fields || I.anyHolds row rest
  | _ :: rest => I.anyHolds row rest

end

variable (I : Interpretation Row Value) (row : Row)

@[simp] theorem holds_nil : I.holds row [] = true := by
  simp [holds]

@[simp] theorem holds_cons (key : String) (value : Wire) (rest : List (String × Wire)) :
    I.holds row ((key, value) :: rest) = (I.holdsEntry row key value && I.holds row rest) := by
  simp [holds]

theorem holdsEntry_and (members : List Wire) :
    I.holdsEntry row "$and" (.array members) = I.allHold row members := by
  simp [holdsEntry]

theorem holdsEntry_or (members : List Wire) :
    I.holdsEntry row "$or" (.array members) = I.anyHolds row members := by
  simp [holdsEntry]

theorem holdsEntry_operators {key : String} {operators : Document}
    (named : Query.isOperators operators = true) :
    I.holdsEntry row key (.object operators) = I.tests (I.lookup row key) operators := by
  simp [holdsEntry, named]

/-- A field that holds anything but operators is compared for equality. -/
theorem holdsEntry_equal {key : String} {value : Wire} (field : Query.isOperator key = false)
    (plain : value.isOperators = false) :
    I.holdsEntry row key value = I.compare .equal (I.lookup row key) value := by
  cases value with
  | array members =>
    have notAnd : key ≠ "$and" := by rintro rfl; cases field
    have notOr : key ≠ "$or" := by rintro rfl; cases field
    simp [holdsEntry, notAnd, notOr]
  | object fields =>
    have plain : Query.isOperators fields = false := plain
    simp [holdsEntry, plain]
  | _ => rfl

theorem allHold_append (members more : List Wire) :
    I.allHold row (members ++ more) = (I.allHold row members && I.allHold row more) := by
  induction members with
  | nil => simp [allHold]
  | cons member rest ih => cases member <;> simp [allHold, ih, Bool.and_assoc]

theorem anyHolds_append (members more : List Wire) :
    I.anyHolds row (members ++ more) = (I.anyHolds row members || I.anyHolds row more) := by
  induction members with
  | nil => simp [anyHolds]
  | cons member rest ih => cases member <;> simp [anyHolds, ih, Bool.or_assoc]

end Interpretation

end DocChain
