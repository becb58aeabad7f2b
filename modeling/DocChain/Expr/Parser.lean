import DocChain.Expr
import DocChain.Token.Stream

/-!
# The parser

Recursive descent with one token of look-ahead. The operators bind, from loosest to tightest:
`or`, `and`, one comparison, sums, products, and then suffixes and the sign. Nesting and repetition
are bounded by the number of tokens ahead, so a bound is never met before the text runs out.

A failed call leaves the parser where it was, with the look-ahead gone if it had been taken; a
later call goes on from there.
-/

namespace DocChain

/-- What the grammar wants at a place. -/
inductive Expectation where
  /-- A fixed token, or the end of the text. -/
  | token (t : Option Token)
  | bindingName
  | memberName
  | objectKey
deriving DecidableEq

inductive ParseError where
  | lex (e : LexError)
  | expected (what : Expectation) (found : Option Token)
  | bareIdentifier (name : String)
  | unexpected (found : Option Token)
deriving DecidableEq

def Expectation.text : Expectation → String
  | .token t => "'" ++ Token.textOrEnd t ++ "'"
  | .bindingName => "identifier after '@'"
  | .memberName => "identifier after '.'"
  | .objectKey => "string or identifier as object key"

def ParseError.message : ParseError → String
  | .lex e => e.message
  | .expected what found => "expected " ++ what.text ++ ", got '" ++ Token.textOrEnd found ++ "'"
  | .bareIdentifier name =>
    "unexpected token in expression: bare identifier '" ++ name ++
      "' (fields are accessed through a binding, e.g. @p." ++ name ++ ")"
  | .unexpected found => "unexpected token in expression: '" ++ Token.textOrEnd found ++ "'"

/-- The look-ahead, which is nothing at the end of the text, and what comes after it. -/
structure ParserState where
  current : Option Token
  upcoming : TokenStream
deriving DecidableEq

/-- A parser keeps its state when it fails. -/
abbrev Parser := EStateM ParseError ParserState

namespace Parser

variable {α : Type}

def start (stream : TokenStream) : Except ParseError ParserState :=
  match stream.next with
  | (.ok token, rest) => .ok ⟨token, rest⟩
  | (.error e, _) => .error (.lex e)

/-- Reads the next token into the look-ahead. -/
def advance : Parser Unit := fun s =>
  match s.upcoming.next with
  | (.ok token, rest) => .ok () ⟨token, rest⟩
  | (.error e, rest) => .error (.lex e) { s with upcoming := rest }

/-- Takes the look-ahead, leaving nothing in its place. -/
def take : Parser (Option Token) := fun s =>
  .ok s.current { s with current := none }

def putBack (token : Option Token) : Parser Unit := fun s =>
  .ok () { s with current := token }

def peek : Parser (Option Token) := fun s =>
  .ok s.current s

def check (token : Token) : Parser Bool :=
  return (← peek) = some token

/-- Moves over a fixed token; at the end of the text, `none` is expected. -/
def expect (token : Option Token) : Parser Unit := do
  let found ← peek
  if found = token then advance else throw (.expected (.token token) found)

def name (what : Expectation) : Parser String := do
  match ← take with
  | some (.identifier name) =>
    advance
    return name
  | found => throw (.expected what found)

/-- The answer where nothing can follow. -/
def reject : Parser α := do
  throw (.unexpected (← peek))

/-- Repeats a step on its own results until it gives none, at most `bound` times. -/
def iterate (step : α → Parser (Option α)) : Nat → α → Parser α
  | 0, _ => reject
  | bound + 1, a => do
    match ← step a with
    | none => return a
    | some a => iterate step bound a

/-! ### Brackets -/

/-- The comma behind an item; the last one may go without. -/
def separator (close : Token) : Parser Unit := do
  unless ← check close do expect (some .comma)

/-- One more item of a list, or nothing where the list closes. -/
def listItem (expression : Parser Expr) (close : Token) (items : List Expr) :
    Parser (Option (List Expr)) := do
  if ← check close then return none
  let e ← expression
  separator close
  return some (items ++ [e])

/-- Expressions with commas between them, up to and over the closing token. -/
def list (expression : Parser Expr) (bound : Nat) (close : Token) : Parser (List Expr) := do
  let items ← iterate (listItem expression close) bound []
  expect (some close)
  return items

/-- The key of an object literal, with its colon. -/
def pairKey : Parser String := do
  match ← take with
  | some (.string key) | some (.identifier key) =>
    advance
    expect (some .colon)
    return key
  | found => throw (.expected .objectKey found)

/-- One more pair of an object literal, or nothing where it closes. -/
def pair (expression : Parser Expr) (pairs : List (String × Expr)) :
    Parser (Option (List (String × Expr))) := do
  if ← check .rightBrace then return none
  let key ← pairKey
  let e ← expression
  separator .rightBrace
  return some (pairs ++ [(key, e)])

def pairs (expression : Parser Expr) (bound : Nat) : Parser (List (String × Expr)) := do
  let pairs ← iterate (pair expression) bound []
  expect (some .rightBrace)
  return pairs

/-- What stands between the brackets of an access: a name, or a computed key. -/
def accessKey (expression : Parser Expr) : Parser Expr := do
  match ← take with
  | some (.identifier name) | some (.string name) =>
    advance
    return .key name
  | found =>
    putBack found
    expression

/-! ### Operands -/

/-- A binding, or a lambda, whose body extends as far as it can. -/
def bindingOrLambda (expression : Parser Expr) : Parser Expr := do
  let param ← name .bindingName
  if ← check .arrow then
    advance
    return .lambda param (← expression)
  else return .binding param

/-- What follows the look-ahead that has just been taken. -/
def primaryOf (expression operand : Parser Expr) (bound : Nat) : Option Token → Parser Expr
  | some (.float x) => do advance; return .float x
  | some (.integer n) => do advance; return .integer n
  | some (.string s) => do advance; return .string s
  | some (.boolean b) => do advance; return .boolean b
  | some .null => do advance; return .null
  | some .absent => do advance; return .absent
  | some .dollar => do advance; return .root
  | some (.collection name) => do advance; return .collection name
  | some .atSign => do advance; bindingOrLambda expression
  | some .leftParen => do
    advance
    let e ← expression
    expect (some .rightParen)
    return e
  | some .minus => do
    advance
    return .binary (.arithmetic .subtract) (.integer 0) (← operand)
  | some .leftBrace => do
    advance
    return .object (← pairs expression bound)
  | some .leftBracket => do
    advance
    return .array (← list expression bound .rightBracket)
  | some (.identifier name) => throw (.bareIdentifier name)
  | found => throw (.unexpected found)

/-- One suffix of an operand: an existence check, an access, a call or a member. -/
def suffix (expression : Parser Expr) (bound : Nat) (object : Expr) : Parser (Option Expr) := do
  if ← check .leftBracket then
    advance
    if ← check .question then
      advance
      expect (some .rightBracket)
      return some (.existence object)
    else
      let key ← accessKey expression
      expect (some .rightBracket)
      return some (.access object key)
  else if ← check .dot then
    advance
    let name ← name .memberName
    if ← check .leftParen then
      advance
      return some (.call object name (← list expression bound .rightParen))
    else return some (.member object name)
  else return none

/-! ### Operators -/

def productOp? : Token → Option BinaryOp
  | .star => some (.arithmetic .multiply)
  | .slash => some (.arithmetic .divide)
  | .percent => some (.arithmetic .modulo)
  | _ => none

def sumOp? : Token → Option BinaryOp
  | .plus => some (.arithmetic .add)
  | .minus => some (.arithmetic .subtract)
  | _ => none

def comparisonOp? : Token → Option BinaryOp
  | .equal => some (.comparison .equal)
  | .notEqual => some (.comparison .notEqual)
  | .less => some (.comparison .less)
  | .greater => some (.comparison .greater)
  | .lessEqual => some (.comparison .lessEqual)
  | .greaterEqual => some (.comparison .greaterEqual)
  | _ => none

def andOp? : Token → Option BinaryOp
  | .and => some (.connective .and)
  | _ => none

def orOp? : Token → Option BinaryOp
  | .or => some (.connective .or)
  | _ => none

/-- An operator of a level and its right operand, if one follows. -/
def joined (op? : Token → Option BinaryOp) (operand : Parser Expr) (left : Expr) :
    Parser (Option Expr) := do
  match (← peek).bind op? with
  | none => return none
  | some op =>
    advance
    return some (.binary op left (← operand))

def leftAssociative (op? : Token → Option BinaryOp) (operand : Parser Expr) (bound : Nat) :
    Parser Expr := do
  iterate (joined op? operand) bound (← operand)

/-- Two operands with a comparison between them, or one alone. -/
def comparison (operand : Parser Expr) : Parser Expr := do
  let left ← operand
  return (← joined comparisonOp? operand left).getD left

/-- An expression from the loosest operators on, over its operands. -/
def levels (operand : Parser Expr) (bound : Nat) : Parser Expr :=
  let product := leftAssociative productOp? operand bound
  let sum := leftAssociative sumOp? product bound
  let conjunction := leftAssociative andOp? (comparison sum) bound
  leftAssociative orOp? conjunction bound

mutual

/-- An operand with its suffixes, nested at most `depth` deep. -/
def operandWithin : Nat → Parser Expr
  | 0 => reject
  | depth + 1 => do
    let e ← primaryOf (expressionWithin depth) (operandWithin depth) depth (← take)
    iterate (suffix (expressionWithin depth) depth) depth e

/-- An expression, nested at most `depth` deep. -/
def expressionWithin : Nat → Parser Expr
  | 0 => reject
  | depth + 1 => levels (operandWithin depth) depth

end

/-- An expression of any depth that the tokens ahead can give it. -/
def expression : Parser Expr := fun s =>
  expressionWithin (2 * s.upcoming.length + 6) s

/-- An expression that takes all of the text. -/
def whole : Parser Expr := do
  let e ← expression
  expect none
  return e

end Parser

def Expr.parse (text : String) : Except ParseError Expr := do
  let s ← Parser.start (.ofText text)
  match Parser.whole s with
  | .ok e _ => .ok e
  | .error e _ => .error e

end DocChain
