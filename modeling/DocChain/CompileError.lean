import DocChain.Expr.Parser
import DocChain.Expr.Text
import DocChain.FieldPath
import DocChain.Operator

/-!
# Compile errors

Why a chain does not compile. An error carries the node that is to blame; its text shows that node
in chain syntax.
-/

namespace DocChain

inductive CompileError where
  | parse (e : ParseError)
  /-- A node that is neither a source nor a step. -/
  | unrecognizedShape (node : Expr)
  /-- A node in the place of a target that is no access chain. -/
  | unresolvablePath (node : Expr)
  | thenSortWithoutSort
  | misplacedDefer
  /-- A step whose operand has no wire form, where none may be left out. -/
  | refused (operator : Operator) (node : Expr)
  /-- A modifier meets a push that is not a list fragment. -/
  | notFragment (field : String)

def CompileError.message : CompileError → String
  | .parse e => "parse error: " ++ e.message
  | .unrecognizedShape node => "unrecognized chain step: " ++ node.text
  | .unresolvablePath node => "cannot resolve a field path from " ++ node.text
  | .thenSortWithoutSort => "then_sort_by requires an earlier sort_by on the same push_each"
  | .misplacedDefer => "defer() must be the last call of a chain"
  | .refused operator node => operator.method ++ " produced no clause for " ++ node.text
  | .notFragment field =>
    "cannot patch update document: $push." ++ field ++ " is not a $each fragment"

def Expr.resolve (e : Expr) : Except CompileError (String × FieldPath) :=
  e.target.mapError .unresolvablePath

end DocChain
