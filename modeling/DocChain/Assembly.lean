import DocChain.Chain
import DocChain.Compiled
import DocChain.Fragment

/-!
# Assembling the documents of a chain

The steps of a chain are added one by one to a query and an update. Conditions are joined so that
all of them hold: operators on one field share a document, and what does not fit side by side goes
under `$and`. A step without a wire form is dropped, or refused in strict mode.
-/

namespace DocChain

/-! ### Queries -/

namespace Query

def isOperator (key : String) : Bool :=
  key.toList.head? = some '$'

def isOperators (fields : Document) : Bool :=
  !fields.isEmpty && fields.all fun entry => isOperator entry.1

/-- Adds a condition to the list under `$and`. -/
def conjoin (query : Document) (key : String) (value : Wire) : Document :=
  let condition := Wire.single key value
  match query.get? "$and" with
  | none => query.insert "$and" (.array [condition])
  | some (.array conditions) => query.insert "$and" (.array (conditions ++ [condition]))
  | some other => query.insert "$and" (.array [other, condition])

/-- The operators of two conditions on a field in one document, if no operator occurs in both. -/
def mergeOperators? (key : String) (old new : Wire) : Option Wire :=
  match old, new with
  | .object old, .object new =>
    if !isOperator key && isOperators old && isOperators new
        && (Fields.keys new).all fun operator => !Fields.contains old operator then
      some (.object (Fields.insertAll old new))
    else none
  | _, _ => none

/-- Adds an entry to a query. -/
def addEntry (query : Document) (key : String) (value : Wire) : Document :=
  match query.get? key with
  | none => query.insert key value
  | some old =>
    match mergeOperators? key old value with
    | some merged => query.insert key merged
    | none => conjoin query key value

mutual

/-- Adds a clause to a query. A conjunction adds its operands. -/
def addClause (query : Document) (key : String) : Wire → Document
  | .array operands =>
    if key = "$and" then addOperands query operands else addEntry query key (.array operands)
  | value => addEntry query key value

def addOperands (query : Document) : List Wire → Document
  | [] => query
  | .object fields :: rest => addOperands (addFields query fields) rest
  | other :: rest => addOperands (conjoin query "$and" other) rest

def addFields (query : Document) : List (String × Wire) → Document
  | [] => query
  | (key, value) :: rest => addFields (addClause query key value) rest

end

end Query

/-! ### Updates -/

/-- Adds a clause to an update: the fields of one operator share a document, and the last operand
of a field counts. -/
def Clause.addToUpdate (c : Clause) (update : Document) : Document :=
  match c.value with
  | .object fields =>
    match update.get? c.key with
    | some (.object old) => update.insert c.key (.object (Fields.insertAll old fields))
    | _ => update.insert c.key (.object fields)
  | value => update.insert c.key value

/-! ### Steps -/

/-- The documents so far. -/
structure Assembly where
  source : Option Source := none
  query : Document := []
  update : Document := []
  /-- Whether a mutation has been met, accepted or not. -/
  mutates : Bool := false
  dropped : List Dropped := []

namespace Assembly

/-- Leaves out a step, or gives up in strict mode. -/
def refuse (strict : Bool) (op : Operator) (node : Expr) (a : Assembly) :
    Except CompileError Assembly :=
  if strict then .error (.refused op node)
  else .ok { a with dropped := a.dropped ++ [⟨op, node⟩] }

def addPredicate (strict : Bool) (op : Operator) (binding : String) (e : Expr) (a : Assembly) :
    Except CompileError Assembly :=
  let clause := match op with
    | .operation op => op.clause? binding none e
    | .modifier _ => none
  match clause with
  | some c => .ok { a with query := Query.addClause a.query c.key c.value }
  | none => a.refuse strict op e

def addOperation (strict : Bool) (op : Operation) (binding : String) (path : FieldPath) (e : Expr)
    (a : Assembly) : Except CompileError Assembly :=
  match op.clause? binding (some path) e with
  | some c => .ok { a with mutates := true, update := c.addToUpdate a.update }
  | none => refuse strict (.operation op) e { a with mutates := true }

def addModifier (strict : Bool) (m : Modifier) (path : FieldPath) (e : Expr) (a : Assembly) :
    Except CompileError Assembly := do
  match ← m.patch? e with
  | none => a.refuse strict (.modifier m) e
  | some patch =>
    match ← patch.apply path a.update with
    | some update => return { a with update }
    | none => a.refuse strict (.modifier m) e

/-- Adds a step. The first source counts. -/
def add (strict : Bool) (a : Assembly) : Step → Except CompileError Assembly
  | .source s => .ok { a with source := a.source <|> some s }
  | .predicate op binding e => a.addPredicate strict op binding e
  | .mutation (.operation op) binding path e => a.addOperation strict op binding path e
  | .mutation (.modifier m) _ path e => a.addModifier strict m path e

/-- The compiled form: an update if there is a mutation, and otherwise a query. -/
def compiled (a : Assembly) (deferred : Bool) : Compiled :=
  match deferred, a.mutates with
  | true, false => .deferred (.query a.query)
  | true, true => .deferred (.pair a.query a.update)
  | false, false => .query a.query a.source
  | false, true => .update a.query a.update a.source

end Assembly

/-! ### Compilation -/

/-- The compiled form of a chain, and the steps that were dropped. -/
def Chain.assemble (strict : Bool) (chain : Chain) :
    Except CompileError (Compiled × List Dropped) := do
  let a ← chain.steps.foldlM (Assembly.add strict) {}
  return (a.compiled chain.deferred, a.dropped)

/-- Compiles an expression and reports the steps that were dropped. -/
def Expr.compile (strict : Bool) (e : Expr) : Except CompileError (Compiled × List Dropped) := do
  (← e.chain).assemble strict

def compileText (strict : Bool) (text : String) : Except CompileError Compiled := do
  let e ← (Expr.parse text).mapError .parse
  return (← e.compile strict).1

end DocChain
