import DocChain.Expr

/-!
# Field paths

A field path addresses a possibly nested field of the document a binding stands for. Only access
chains denote one: `@p.address["city"]` is the path `address.city` on `p`. A lambda denotes the
path of its body if that starts at the lambda's own parameter.
-/

namespace DocChain

inductive PathSegment where
  | field (name : String)
  | index (n : Nat)
deriving DecidableEq

/-- The segments from the document inwards, at least one. -/
structure FieldPath where
  segments : List PathSegment
  nonempty : segments ≠ []
deriving DecidableEq

def PathSegment.text : PathSegment → String
  | .field name => name
  | .index n => toString n

def FieldPath.dotted (path : FieldPath) : String :=
  ".".intercalate (path.segments.map PathSegment.text)

namespace Expr

/-- The segment between the brackets of an access, unless it is computed. -/
def keySegment? : Expr → Option PathSegment
  | key name => some (.field name)
  | string name => some (.field name)
  | integer n => if 0 ≤ n.toInt then some (.index n.toInt.toNat) else none
  | _ => none

/-- The binding an access chain starts at, and its segments. -/
def accessChain? : Expr → Option (String × List PathSegment)
  | binding name => some (name, [])
  | member base field => do
    let (name, segments) ← base.accessChain?
    return (name, segments ++ [.field field])
  | access base index => do
    let (name, segments) ← base.accessChain?
    return (name, segments ++ [← index.keySegment?])
  | _ => none

/-- The binding and the path of an access chain. A binding alone is the whole document. -/
def accessPath? (e : Expr) : Option (String × FieldPath) := do
  let (name, segments) ← e.accessChain?
  if h : segments = [] then none else some (name, ⟨segments, h⟩)

def pathOn? (e : Expr) (binding : String) : Option FieldPath := do
  let (name, path) ← e.accessPath?
  if name = binding then some path else none

/-- The binding and the path of a target: an access chain, or a lambda over its own parameter. If
there is none, the node that is to blame. -/
def target : Expr → Except Expr (String × FieldPath)
  | lambda param body =>
    match body.accessPath? with
    | none => .error body
    | some (name, path) => if name = param then .ok (name, path) else .error (lambda param body)
  | e =>
    match e.accessPath? with
    | none => .error e
    | some found => .ok found

/-! ### References to a binding -/

mutual

/-- Whether a binding occurs anywhere; a lambda of the same parameter shadows it. -/
def mentions (name : String) : Expr → Bool
  | binding n => n = name
  | access base index => mentions name base || mentions name index
  | member base _ => mentions name base
  | existence inner => mentions name inner
  | binary _ left right => mentions name left || mentions name right
  | call base _ args => mentions name base || mentionsItems name args
  | lambda param body => param ≠ name && mentions name body
  | object pairs => mentionsPairs name pairs
  | array items => mentionsItems name items
  | _ => false

def mentionsItems (name : String) : List Expr → Bool
  | [] => false
  | e :: es => mentions name e || mentionsItems name es

def mentionsPairs (name : String) : List (String × Expr) → Bool
  | [] => false
  | (_, e) :: ps => mentions name e || mentionsPairs name ps

end

end Expr

end DocChain
