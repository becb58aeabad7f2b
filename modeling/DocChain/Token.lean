import DocChain.Number.Layout
import DocChain.Text.Quoted

/-!
# Tokens

The words of chain text. The end of the text is not a token; where one is expected it is `none`.
-/

namespace DocChain

inductive Token where
  | float (x : Float)
  | integer (n : Int64)
  | string (s : String)
  | boolean (b : Bool)
  | null
  | absent
  /-- A source with its name, such as `$people`. -/
  | collection (name : String)
  | dollar
  | atSign
  | identifier (name : String)
  | arrow
  | question
  | equal | notEqual | less | greater | lessEqual | greaterEqual
  | plus | minus | star | slash | percent
  | and | or
  | leftBracket | rightBracket | leftParen | rightParen | leftBrace | rightBrace
  | dot | comma | colon
deriving DecidableEq

namespace Token

/-- Floats are always positional, and whole ones have no point. -/
def floatLayout : FloatLayout :=
  { tie := .up, positional := none, wholePoint := false, exponentPlus := false }

example : [1.0, 0.00001, 1e16].map floatLayout.text
    = ["1", "0.00001", "10000000000000000"] := by decide +kernel

def text : Token → String
  | float x => floatLayout.text x
  | integer n => toString n.toInt
  | string s => Text.quoted s
  | boolean b => if b then "true" else "false"
  | null => "null"
  | absent => "absent"
  | collection name => "$" ++ name
  | dollar => "$"
  | atSign => "@"
  | identifier name => name
  | arrow => "=>"
  | question => "?"
  | equal => "=="
  | notEqual => "!="
  | less => "<"
  | greater => ">"
  | lessEqual => "<="
  | greaterEqual => ">="
  | plus => "+"
  | minus => "-"
  | star => "*"
  | slash => "/"
  | percent => "%"
  | and => "and"
  | or => "or"
  | leftBracket => "["
  | rightBracket => "]"
  | leftParen => "("
  | rightParen => ")"
  | leftBrace => "\x7b"
  | rightBrace => "\x7d"
  | dot => "."
  | comma => ","
  | colon => ":"

/-- The text of what stands at a place: a token or the end. -/
def textOrEnd : Option Token → String
  | some token => token.text
  | none => "end of input"

end Token

end DocChain
