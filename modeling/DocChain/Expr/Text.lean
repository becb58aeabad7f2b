import DocChain.Expr
import DocChain.Number.Layout
import DocChain.Text.Quoted

/-!
# The text of an expression

`Expr.text` writes a tree in chain syntax, with every binary operation in parentheses.
-/

namespace DocChain

/-- Floats are positional from `1e-4` to below `1e16`, whole ones with a point. -/
def exprFloat : FloatLayout :=
  { tie := .up, positional := some (-4, 15), wholePoint := true, exponentPlus := false }

example : [0.0001, 0.00001, 1e15, 1e16].map exprFloat.text
    = ["0.0001", "1e-5", "1000000000000000.0", "1e16"] := by decide +kernel

namespace Expr

mutual

def text : Expr → String
  | float x => exprFloat.text x
  | integer n => toString n.toInt
  | string s => Text.quoted s
  | boolean b => if b then "true" else "false"
  | null => "null"
  | absent => "absent"
  | root => "$"
  | collection name => "$" ++ name
  | binding name => "@" ++ name
  | key name => name
  | access o k => text o ++ "[" ++ text k ++ "]"
  | member o name => text o ++ "." ++ name
  | existence e => text e ++ "[?]"
  | binary op l r => "(" ++ text l ++ " " ++ op.symbol ++ " " ++ text r ++ ")"
  | call o method args => text o ++ "." ++ method ++ "(" ++ ", ".intercalate (itemTexts args) ++ ")"
  | lambda param body => "@" ++ param ++ " => " ++ text body
  | object pairs => "\x7b" ++ ", ".intercalate (pairTexts pairs) ++ "\x7d"
  | array items => "[" ++ ", ".intercalate (itemTexts items) ++ "]"

def itemTexts : List Expr → List String
  | [] => []
  | e :: es => text e :: itemTexts es

def pairTexts : List (String × Expr) → List String
  | [] => []
  | (k, e) :: ps => (Text.quoted k ++ ": " ++ text e) :: pairTexts ps

end

end Expr

end DocChain
