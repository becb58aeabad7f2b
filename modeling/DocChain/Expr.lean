/-!
# Chain expressions

The tree of a chain: a source, the calls on it, and the lambdas, field accesses and literals in
their arguments. The last call of a chain is its outermost node.
-/

namespace DocChain

inductive Comparison where
  | equal | notEqual | less | greater | lessEqual | greaterEqual
deriving DecidableEq

def Comparison.flipped : Comparison → Comparison
  | .less => .greater
  | .greater => .less
  | .lessEqual => .greaterEqual
  | .greaterEqual => .lessEqual
  | c => c

@[simp] theorem Comparison.flipped_flipped (c : Comparison) : c.flipped.flipped = c := by
  cases c <;> rfl

inductive Arithmetic where
  | add | subtract | multiply | divide | modulo
deriving DecidableEq

inductive Connective where
  | and | or
deriving DecidableEq

inductive BinaryOp where
  | comparison (c : Comparison)
  | arithmetic (a : Arithmetic)
  | connective (c : Connective)
deriving DecidableEq

def BinaryOp.symbol : BinaryOp → String
  | .comparison .equal => "=="
  | .comparison .notEqual => "!="
  | .comparison .less => "<"
  | .comparison .greater => ">"
  | .comparison .lessEqual => "<="
  | .comparison .greaterEqual => ">="
  | .arithmetic .add => "+"
  | .arithmetic .subtract => "-"
  | .arithmetic .multiply => "*"
  | .arithmetic .divide => "/"
  | .arithmetic .modulo => "%"
  | .connective .and => "and"
  | .connective .or => "or"

inductive Expr where
  | float (x : Float)
  | integer (n : Int64)
  | string (s : String)
  | boolean (b : Bool)
  | null
  /-- The value of a field that should not exist. -/
  | absent
  /-- The source the caller has bound. -/
  | root
  | collection (name : String)
  /-- The current document inside a lambda. -/
  | binding (name : String)
  /-- A field name between the brackets of an access. -/
  | key (name : String)
  | access (object key : Expr)
  | member (object : Expr) (name : String)
  | existence (inner : Expr)
  | binary (op : BinaryOp) (left right : Expr)
  | call (object : Expr) (method : String) (args : List Expr)
  | lambda (param : String) (body : Expr)
  | object (pairs : List (String × Expr))
  | array (items : List Expr)

namespace Expr

/-! ### Equality of trees, with floats compared as numbers -/

mutual

def same : Expr → Expr → Bool
  | float x, float y => x == y
  | integer n, integer m => n == m
  | string s, string t => s == t
  | boolean b, boolean c => b == c
  | null, null => true
  | absent, absent => true
  | root, root => true
  | collection a, collection b => a == b
  | binding a, binding b => a == b
  | key a, key b => a == b
  | access o k, access o' k' => same o o' && same k k'
  | member o n, member o' n' => same o o' && n == n'
  | existence e, existence e' => same e e'
  | binary op l r, binary op' l' r' => op == op' && same l l' && same r r'
  | call o m as, call o' m' as' => same o o' && m == m' && sameItems as as'
  | lambda p b, lambda p' b' => p == p' && same b b'
  | object ps, object ps' => samePairs ps ps'
  | array es, array es' => sameItems es es'
  | _, _ => false

def sameItems : List Expr → List Expr → Bool
  | [], [] => true
  | e :: es, e' :: es' => same e e' && sameItems es es'
  | _, _ => false

def samePairs : List (String × Expr) → List (String × Expr) → Bool
  | [], [] => true
  | (k, e) :: ps, (k', e') :: ps' => k == k' && same e e' && samePairs ps ps'
  | _, _ => false

end

end Expr

end DocChain
