import DocChain.Wire

/-!
# Stores

A store answers finds and updates on its collections, in some monad. `Store.logged` keeps a list of
the requests beside the answers.
-/

namespace DocChain

inductive StoreError where
  | transport (text : String)
  | rejected (text : String)
deriving DecidableEq

def StoreError.message : StoreError → String
  | .transport text => "transport error: " ++ text
  | .rejected text => "server rejected the request: " ++ text

structure QueryFlags where
  tailableCursor : Bool := false
  slaveOk : Bool := false
  noCursorTimeout : Bool := false
  awaitData : Bool := false
  exhaust : Bool := false
  partialResults : Bool := false
deriving DecidableEq

def QueryFlags.bits (f : QueryFlags) : Nat :=
  f.tailableCursor.toNat <<< 1 ||| f.slaveOk.toNat <<< 2 ||| f.noCursorTimeout.toNat <<< 4
    ||| f.awaitData.toNat <<< 5 ||| f.exhaust.toNat <<< 6 ||| f.partialResults.toNat <<< 7

structure WriteOutcome where
  matched : UInt64 := 0
  modified : UInt64 := 0
deriving DecidableEq

/-- A find. A limit of zero is no limit. -/
structure Find where
  query : Document
  projection : Option Document := none
  limit : Int64 := 0
  skip : Int64 := 0
  flags : QueryFlags := {}

/-- What a find streams: documents, and errors that do not end it. -/
abbrev Rows := List (Except StoreError Document)

/-- A store over handles of collections. -/
structure Store (κ : Type) (m : Type → Type) where
  find : κ → Find → m (Except StoreError Rows)
  update : κ → (query update : Document) → m (Except StoreError WriteOutcome)

inductive Request (κ : Type) where
  | find (collection : κ) (request : Find)
  | update (collection : κ) (query update : Document)

/-- The store that notes every request before it answers. -/
def Store.logged {κ : Type} {m : Type → Type} [Monad m] (store : Store κ m) :
    Store κ (StateT (List (Request κ)) m) where
  find collection request := do
    modify (· ++ [.find collection request])
    store.find collection request
  update collection query update := do
    modify (· ++ [.update collection query update])
    store.update collection query update

end DocChain
