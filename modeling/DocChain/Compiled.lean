import DocChain.Step

/-!
# Compiled chains

A chain compiles to documents for a source, or, if it is deferred, to its documents alone.
-/

namespace DocChain

/-- The documents of a chain: a query, and an update if the chain has a mutation. -/
inductive Documents where
  | query (query : Document)
  | pair (query update : Document)

namespace Documents

def queryDocument : Documents → Document
  | query q | pair q _ => q

def updateDocument? : Documents → Option Document
  | query _ => none
  | pair _ update => some update

def wire : Documents → Wire
  | query q => .object [("query", .object q)]
  | pair q update => .object [("query", .object q), ("update", .object update)]

end Documents

/-- A chain ready to run, or to hand back its documents. -/
inductive Compiled where
  | query (query : Document) (source : Option Source)
  | update (query update : Document) (source : Option Source)
  | deferred (documents : Documents)

def Compiled.documents : Compiled → Documents
  | query q _ => .query q
  | update q u _ => .pair q u
  | deferred documents => documents

/-- A step that was left out because its operand has no wire form. -/
structure Dropped where
  operator : Operator
  node : Expr

end DocChain
