import DocChain.Step

/-!
# Chains

A chain is its source and its steps in the order in which they were written. `Expr.chain` unwinds
the calls of an expression from the last one to the source, so of several faults the last one
written is reported.
-/

namespace DocChain

structure Chain where
  /-- The source first. -/
  steps : List Step
  /-- Whether the last call is `defer()`. -/
  deferred : Bool := false
  /-- Whether some call is `update()`. -/
  beginsUpdate : Bool := false

namespace Expr

/-- Puts the source and the calls of an expression in front of what was written behind it. -/
def unwind (outermost : Bool) (behind : Chain) : Expr → Except CompileError Chain
  | call receiver method args => do
    match ← recognizeCall receiver method args with
    | .step s => receiver.unwind false { behind with steps := s :: behind.steps }
    | .beginUpdate => receiver.unwind false { behind with beginsUpdate := true }
    | .defer =>
      if outermost then receiver.unwind false { behind with deferred := true }
      else throw .misplacedDefer
  | e => return { behind with steps := .source (← e.recognizeSource) :: behind.steps }

def chain (e : Expr) : Except CompileError Chain :=
  e.unwind true { steps := [] }

end Expr

end DocChain
