import DocChain.Compiled
import DocChain.FindOptions
import DocChain.Store

/-!
# Running compiled chains

A catalog binds sources to scopes, collections narrowed by a filter. A deferred chain hands its
documents back, a query becomes a view that sends nothing until it is fetched, and an update is
one request.
-/

namespace DocChain

variable {κ : Type}

/-- The documents of a collection that meet a filter. -/
structure Scope (κ : Type) where
  collection : κ
  query : Document

namespace Scope

def all (collection : κ) : Scope κ :=
  ⟨collection, []⟩

/-- The part of a scope that also meets another filter. -/
def narrow (scope : Scope κ) (query : Document) : Scope κ :=
  { scope with
    query :=
      if scope.query.isEmpty then query
      else if query.isEmpty then scope.query
      else [("$and", .array [.object scope.query, .object query])] }

@[simp] theorem collection_narrow (scope : Scope κ) (query : Document) :
    (scope.narrow query).collection = scope.collection := rfl

end Scope

inductive BindingError where
  | noSource
  | noRoot
  | unknownCollection (name : String)
  | literalSource
deriving DecidableEq

def BindingError.message : BindingError → String
  | .noSource => "chain has no source"
  | .noRoot => "no root scope is bound for '$'"
  | .unknownCollection name => "unknown collection '$" ++ name ++ "'"
  | .literalSource => "an array literal source can only be deferred"

inductive DispatchError where
  | binding (e : BindingError)
  | store (e : StoreError)
deriving DecidableEq

def DispatchError.message : DispatchError → String
  | .binding e => "binding error: " ++ e.message
  | .store e => e.message

/-- The scopes that sources stand for. -/
structure Catalog (κ : Type) where
  root : Option (Scope κ) := none
  named : Fields (Scope κ) := []

namespace Catalog

def insert (catalog : Catalog κ) (name : String) (scope : Scope κ) : Catalog κ :=
  { catalog with named := catalog.named.insert name scope }

def resolve (catalog : Catalog κ) : Source → Except BindingError (Scope κ)
  | .root => catalog.root.elim (.error .noRoot) .ok
  | .named name => (catalog.named.get? name).elim (.error (.unknownCollection name)) .ok
  | .literal _ => .error .literalSource

def bind (catalog : Catalog κ) (source : Option Source) : Except BindingError (Scope κ) :=
  source.elim (.error .noSource) catalog.resolve

end Catalog

/-- A query that has not been sent. -/
structure View (κ : Type) where
  scope : Scope κ

variable {m : Type → Type} [Monad m]

namespace View

/-- Sends the query with options, a projection and paging. -/
def fetchWith (view : View κ) (store : Store κ m) (options : FindOptions)
    (projection : Option Document) (limit skip : Int64) (flags : QueryFlags) :
    m (Except DispatchError Rows) := do
  let query := options.wrap view.scope.query
  let rows ← store.find view.scope.collection { query, projection, limit, skip, flags }
  return rows.mapError .store

def fetch (view : View κ) (store : Store κ m) : m (Except DispatchError Rows) :=
  view.fetchWith store {} none 0 0 {}

end View

inductive Outcome (κ : Type) where
  | deferred (documents : Documents)
  | view (view : View κ)
  | updated (outcome : WriteOutcome)

/-- Hands back, prepares or runs a compiled chain. -/
def Catalog.dispatch (catalog : Catalog κ) (store : Store κ m) :
    Compiled → m (Except DispatchError (Outcome κ))
  | .deferred documents => return .ok (.deferred documents)
  | .query query source =>
    match catalog.bind source with
    | .error e => return .error (.binding e)
    | .ok scope => return .ok (.view ⟨scope.narrow query⟩)
  | .update query update source =>
    match catalog.bind source with
    | .error e => return .error (.binding e)
    | .ok scope => do
      let scope := scope.narrow query
      match ← store.update scope.collection scope.query update with
      | .error e => return .error (.store e)
      | .ok outcome => return .ok (.updated outcome)

end DocChain
