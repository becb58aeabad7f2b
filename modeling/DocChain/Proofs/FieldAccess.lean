import DocChain.FieldPath

/-!
# Access chains

A field is written as the binding with one access a segment. `Accesses` lists the ways to write a segment, and
resolution finds the path of exactly these expressions.
-/

namespace DocChain.Expr

/-- The segments that an access chain goes from the document of a binding inwards. -/
inductive Accesses (name : String) : Expr → List PathSegment → Prop where
  | document : Accesses name (binding name) []
  | member {base : Expr} {segments : List PathSegment} (field : String) (inner : Accesses name base segments) :
    Accesses name (member base field) (segments ++ [.field field])
  | key {base : Expr} {segments : List PathSegment} (field : String) (inner : Accesses name base segments) :
    Accesses name (access base (key field)) (segments ++ [.field field])
  | string {base : Expr} {segments : List PathSegment} (field : String) (inner : Accesses name base segments) :
    Accesses name (access base (string field)) (segments ++ [.field field])
  | index {base : Expr} {segments : List PathSegment} {n : Int64} (inner : Accesses name base segments)
    (forward : 0 ≤ n.toInt) : Accesses name (access base (integer n)) (segments ++ [.index n.toInt.toNat])

variable {name : String}

theorem accesses_of_keySegment? {base index : Expr} {segments : List PathSegment} {segment : PathSegment}
    (inner : Accesses name base segments) (read : index.keySegment? = some segment) :
    Accesses name (access base index) (segments ++ [segment]) := by
  unfold keySegment? at read
  split at read
  · cases read
    exact .key _ inner
  · cases read
    exact .string _ inner
  · split at read
    · rename_i forward
      cases read
      exact .index inner forward
    · cases read
  · cases read

theorem accessChain?_eq_some_iff {e : Expr} {segments : List PathSegment} :
    e.accessChain? = some (name, segments) ↔ Accesses name e segments := by
  constructor
  · intro read
    induction e using accessChain?.induct generalizing segments with
    | case1 other =>
      cases read
      exact .document
    | case2 base field ih =>
      simp only [accessChain?, Option.bind_eq_bind, Option.bind_eq_some_iff] at read
      obtain ⟨⟨start, inner⟩, readBase, same⟩ := read
      cases same
      exact .member field (ih readBase)
    | case3 base index ih =>
      simp only [accessChain?, Option.bind_eq_bind, Option.bind_eq_some_iff] at read
      obtain ⟨⟨start, inner⟩, readBase, segment, readIndex, same⟩ := read
      cases same
      exact accesses_of_keySegment? (ih readBase) readIndex
    | case4 e notBinding notMember notAccess =>
      rw [accessChain?.eq_4 e notBinding notMember notAccess] at read
      cases read
  · intro accesses
    induction accesses with
    | document => rfl
    | member field _ ih | key field _ ih | string field _ ih => simp [accessChain?, keySegment?, ih]
    | index _ forward ih => simp [accessChain?, keySegment?, ih, forward]

theorem accessPath?_eq_some_iff {e : Expr} {path : FieldPath} :
    e.accessPath? = some (name, path) ↔ Accesses name e path.segments := by
  rw [← accessChain?_eq_some_iff]
  simp only [accessPath?, Option.bind_eq_bind, Option.bind_eq_some_iff, Prod.exists]
  constructor
  · rintro ⟨start, segments, read, nonempty⟩
    split at nonempty
    · cases nonempty
    · cases nonempty
      exact read
  · intro read
    exact ⟨name, path.segments, read, dif_neg path.nonempty⟩

theorem pathOn?_eq_some_iff {e : Expr} {path : FieldPath} :
    e.pathOn? name = some path ↔ Accesses name e path.segments := by
  rw [← accessPath?_eq_some_iff]
  simp only [pathOn?, Option.bind_eq_bind, Option.bind_eq_some_iff, Prod.exists]
  constructor
  · rintro ⟨start, found, read, same⟩
    split at same
    · rename_i rooted
      cases same
      rwa [rooted] at read
    · cases same
  · intro read
    exact ⟨name, path, read, if_pos rfl⟩

/-- Every access chain mentions its binding. -/
theorem Accesses.mentions {e : Expr} {segments : List PathSegment} (accesses : Accesses name e segments) :
    e.mentions name = true := by
  induction accesses with
  | document => simp [Expr.mentions]
  | member _ _ ih => exact ih
  | key _ _ ih | string _ _ ih | index _ _ ih => simp [Expr.mentions, ih]

end DocChain.Expr
