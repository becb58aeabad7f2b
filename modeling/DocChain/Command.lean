import DocChain.Assembly
import DocChain.Guide
import DocChain.Wire.Text

/-!
# Commands

What the command line does, apart from reading its arguments and printing. A chain is always
answered with its documents, since there is no store to run it on.
-/

namespace DocChain

inductive CommandError where
  | parse (e : ParseError)
  | compile (e : CompileError)
  | noInput
  | unknownTopic (name : String)

def CommandError.message : CommandError → String
  | .parse e => "Parse error: " ++ e.message
  | .compile e => "Compile error: " ++ e.message
  | .noInput => "No chain provided. Pass it as an argument or pipe it to stdin."
  | .unknownTopic name =>
    "Unknown category: '" ++ name ++ "'\nRun 'chainql docs' to see available categories."

structure CompileCommand where
  chain : String
  /-- Print over several lines. -/
  pretty : Bool := false
  /-- Refuse steps without a wire form instead of dropping them. -/
  strict : Bool := false
  /-- Only check that the chain can be read. -/
  syntaxOnly : Bool := false

inductive CompileResult where
  | valid
  | documents (value : Wire)

/-- The text without white space at its ends. -/
def trimBlank (text : String) : String :=
  let inner := text.toList.dropWhile Unicode.isBlank
  String.ofList (inner.reverse.dropWhile Unicode.isBlank).reverse

def CompileCommand.run (command : CompileCommand) : Except CommandError CompileResult := do
  let chain := trimBlank command.chain
  if chain.isEmpty then throw .noInput
  let e ← (Expr.parse chain).mapError .parse
  if command.syntaxOnly then return .valid
  let (compiled, _) ← (e.compile command.strict).mapError .compile
  return .documents compiled.documents.wire

def CompileResult.render (pretty : Bool) : CompileResult → String
  | valid => "Syntax is valid"
  | documents value => if pretty then value.prettyText else value.text

def topicText (name : String) : Except CommandError String :=
  match Guide.Topic.ofName? name with
  | some topic => .ok topic.text
  | none => .error (.unknownTopic name)

end DocChain
