import DocChain.Clause.Mutation
import DocChain.CompileError

/-!
# Steps of a chain

`Expr.recognize` reads the outermost node of a chain: either the source, or a call with the receiver
that comes before it. A call is a step or a marker. A modifier is a step on the field of the
`push_each` that it is written on, with other modifiers at most in between.
-/

namespace DocChain

inductive Source where
  | root
  | named (name : String)
  | literal (items : List Wire)

inductive Step where
  | source (s : Source)
  | predicate (op : Operator) (binding : String) (expr : Expr)
  | mutation (op : Operator) (binding : String) (path : FieldPath) (expr : Expr)

/-- What a call adds to a chain. The markers `update()` and `defer()` have no clause. -/
inductive Call where
  | step (s : Step)
  | beginUpdate
  | defer

inductive Recognized where
  | source (s : Source)
  | call (c : Call) (receiver : Expr)

namespace Expr

/-- The `push_each` that modifiers are written on: its target, and whether one of them sorts. The
error is the node to blame. -/
def pushEachBelow (node : Expr) (sorted : Bool) : Expr → Except Expr (Expr × Bool)
  | call receiver method args =>
    match Operator.ofMethod? method with
    | some (.operation .pushEach) =>
      match args with
      | [target, _] => .ok (target, sorted)
      | _ => .error (call receiver method args)
    | some (.modifier (.sortBy _)) => pushEachBelow node true receiver
    | some (.modifier _) => pushEachBelow node sorted receiver
    | _ => .error node
  | _ => .error node

def modifierStep (node receiver : Expr) (m : Modifier) (args : List Expr) :
    Except CompileError Step :=
  match args with
  | [arg] => do
    let (target, sorted) ← (pushEachBelow node false receiver).mapError .unrecognizedShape
    match m, sorted with
    | .thenSortBy _, false => throw .thenSortWithoutSort
    | _, _ =>
      let (name, path) ← target.resolve
      return .mutation (.modifier m) name path arg
  | _ => throw (.unrecognizedShape node)

/-- The value of a mutation. A lambda over the binding of the target means its body, save for
`pull`, whose lambda binds an element. -/
def mutationValue (op : Operation) (binding : String) : Expr → Expr
  | lambda param body =>
    if op ≠ .pull ∧ param = binding then body else lambda param body
  | e => e

def operationStep (node : Expr) (op : Operation) (args : List Expr) : Except CompileError Step :=
  match op, args with
  | .filter, [lambda param body] => return .predicate (.operation .filter) param body
  | .filter, _ => throw (.unrecognizedShape node)
  | .unset, [target] => do
    let (name, path) ← target.resolve
    return .mutation (.operation .unset) name path .absent
  | .popFront, [target] | .popBack, [target] => do
    let (name, path) ← target.resolve
    return .mutation (.operation op) name path target
  | .unset, _ | .popFront, _ | .popBack, _ => throw (.unrecognizedShape node)
  | _, [target, value] => do
    let (name, path) ← target.resolve
    return .mutation (.operation op) name path (value.mutationValue op name)
  | _, _ => throw (.unrecognizedShape node)

def recognizeCall (receiver : Expr) (method : String) (args : List Expr) :
    Except CompileError Call :=
  let node := call receiver method args
  match method, args with
  | "defer", [] => return .defer
  | "update", [] => return .beginUpdate
  | _, _ =>
    match Operator.ofMethod? method with
    | some (.modifier m) => return .step (← modifierStep node receiver m args)
    | some (.operation op) => return .step (← operationStep node op args)
    | none => throw (.unrecognizedShape node)

/-- The values of a literal source, or the first item without one. -/
def literalItems : List Expr → Except CompileError (List Wire)
  | [] => return []
  | item :: rest =>
    match item.value? with
    | some value => return value :: (← literalItems rest)
    | none => throw (.unrecognizedShape item)

def recognizeSource : Expr → Except CompileError Source
  | root => return .root
  | collection name => return .named name
  | array items => return .literal (← literalItems items)
  | e => throw (.unrecognizedShape e)

def recognize : Expr → Except CompileError Recognized
  | call receiver method args => return .call (← recognizeCall receiver method args) receiver
  | e => return .source (← e.recognizeSource)

end Expr

end DocChain
