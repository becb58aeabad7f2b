/-!
# The chain vocabulary

Every method of a chain is an operator. An operation makes a clause of a query or an update; a
modifier changes the list fragment that an earlier `push_each` has made.
-/

namespace DocChain

inductive Direction where
  | ascending | descending
deriving DecidableEq

def Direction.sign : Direction → Int64
  | .ascending => 1
  | .descending => -1

inductive Operation where
  | filter
  | set | unset
  | increment | decrement
  | addToSet | addToSetEach
  | push | pushEach
  | popFront | popBack
  | pull | pullAll
  | bitAnd | bitOr
deriving DecidableEq

inductive Modifier where
  | slice
  | sortBy (direction : Direction)
  | thenSortBy (direction : Direction)
deriving DecidableEq

inductive Operator where
  | operation (op : Operation)
  | modifier (m : Modifier)
deriving DecidableEq

/-- A generic operator looks at its operand to choose what it writes, a fixed one always writes the
same wire operator. -/
inductive OperatorKind where
  | generic | fixed | modifier
deriving DecidableEq

namespace Operator

def all : List Operator :=
  [.operation .filter, .operation .set, .operation .unset, .operation .increment,
   .operation .decrement, .operation .addToSet, .operation .addToSetEach, .operation .push,
   .operation .pushEach, .modifier .slice, .modifier (.sortBy .ascending),
   .modifier (.sortBy .descending), .modifier (.thenSortBy .ascending),
   .modifier (.thenSortBy .descending), .operation .popFront, .operation .popBack,
   .operation .pull, .operation .pullAll, .operation .bitAnd, .operation .bitOr]

/-- The name of an operator in chain text. -/
def method : Operator → String
  | operation .filter => "where"
  | operation .set => "set"
  | operation .unset => "unset"
  | operation .increment => "inc"
  | operation .decrement => "dec"
  | operation .addToSet => "add_to_set"
  | operation .addToSetEach => "add_to_set_each"
  | operation .push => "push"
  | operation .pushEach => "push_each"
  | operation .popFront => "pop_front"
  | operation .popBack => "pop_back"
  | operation .pull => "pull"
  | operation .pullAll => "pull_all"
  | operation .bitAnd => "bit_and"
  | operation .bitOr => "bit_or"
  | modifier .slice => "slice"
  | modifier (.sortBy .ascending) => "sort_by"
  | modifier (.sortBy .descending) => "sort_by_descending"
  | modifier (.thenSortBy .ascending) => "then_sort_by"
  | modifier (.thenSortBy .descending) => "then_sort_by_descending"

def ofMethod? (name : String) : Option Operator :=
  all.find? (·.method = name)

def kind : Operator → OperatorKind
  | operation .filter | operation .set | operation .unset => .generic
  | operation _ => .fixed
  | modifier _ => .modifier

theorem ofMethod?_method (op : Operator) : ofMethod? op.method = some op := by
  rcases op with op | m
  · cases op <;> rfl
  · rcases m with _ | d | d
    · rfl
    · cases d <;> rfl
    · cases d <;> rfl

end Operator

end DocChain
