import DocChain.CompileError
import DocChain.Expr.Constant

/-!
# List fragments

A `push_each` leaves a fragment under its field in the update, a document with the items under
`$each`. Modifiers have no clause; they patch that fragment. Whatever their order, the fragment
holds `$each`, `$slice` and `$sort` first and in this order.
-/

namespace DocChain

inductive Patch where
  /-- The value of `$slice`: the negated number of items that are kept at the end. -/
  | slice (n : Int64)
  /-- Sorts by one key. -/
  | sortBy (key : String) (direction : Direction)
  /-- Adds a key to the sort. -/
  | thenSortBy (key : String) (direction : Direction)
deriving DecidableEq

/-- A sort key names a field of the items. -/
def Expr.sortKey (e : Expr) : Except CompileError String := do
  return (← e.resolve).2.dotted

/-- The patch of a modifier. A count that is no integer from zero on gives none. -/
def Modifier.patch? (m : Modifier) (arg : Expr) : Except CompileError (Option Patch) :=
  match m with
  | .slice =>
    match arg.value?.bind Wire.int64? with
    | some n => return if 0 ≤ n.toInt then some (.slice (-n)) else none
    | none => return none
  | .sortBy direction => return some (.sortBy (← arg.sortKey) direction)
  | .thenSortBy direction => return some (.thenSortBy (← arg.sortKey) direction)

namespace Patch

/-- Moves the entry of a key from one document to the end of another. -/
def moveEntry (key : String) (docs : Document × Document) : Document × Document :=
  match docs.2.get? key with
  | some value => (docs.1.insert key value, docs.2.swapRemove key)
  | none => docs

/-- The fragment with `$each`, `$slice` and `$sort` in front. -/
def inWireOrder (fragment : Document) : Document :=
  let docs := moveEntry "$sort" (moveEntry "$slice" (moveEntry "$each" ([], fragment)))
  docs.1.insertAll docs.2

/-- Sets the patched entry of a fragment. -/
def edit (patch : Patch) (fragment : Document) : Except CompileError Document :=
  match patch with
  | slice n => return fragment.insert "$slice" (.int n)
  | sortBy key direction => return fragment.insert "$sort" (.single key (.int direction.sign))
  | thenSortBy key direction =>
    match fragment.get? "$sort" with
    | some (.object sort) =>
      return fragment.insert "$sort" (.object (Fields.insert sort key (.int direction.sign)))
    | _ => throw .thenSortWithoutSort

/-- The pushes of an update with the fragment of a field patched, or nothing if the field has no
push. -/
def applyToPushes (patch : Patch) (field : String) (pushes : Document) :
    Except CompileError (Option Document) :=
  match pushes.get? field with
  | none => return none
  | some (.object fragment) => do
    if Fields.contains fragment "$each" then
      let fragment ← patch.edit fragment
      return some (pushes.insert field (.object (inWireOrder fragment)))
    else throw (.notFragment field)
  | some _ => throw (.notFragment field)

/-- The update with the fragment of a field patched, or nothing if the field has no push. -/
def apply (patch : Patch) (path : FieldPath) (update : Document) :
    Except CompileError (Option Document) :=
  match update.get? "$push" with
  | some (.object pushes) => do
    match ← patch.applyToPushes path.dotted pushes with
    | some pushes => return some (update.insert "$push" (.object pushes))
    | none => return none
  | _ => return none

end Patch

end DocChain
