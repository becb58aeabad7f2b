import DocChain.Proofs.Constants
import DocChain.Proofs.FieldAccess
import DocChain.Clause.Mutation

/-!
# Which clause an assignment makes

The clause of `set` is picked by the shape of its value: `absent` removes the field, the field with a constant
number added or taken away steps it, and a constant is written. Nothing else has a clause.
-/

namespace DocChain.Expr

/-- A value that is the field with a constant number added or taken away, and what the field goes up by. -/
inductive Steps (name : String) (path : FieldPath) : Expr → Number → Prop where
  | plus {field constant : Expr} {n : Number} (accesses : Accesses name field path.segments)
    (encodes : constant.value? = some (.number n)) : Steps name path (binary (.arithmetic .add) field constant) n
  | onto {field constant : Expr} {n : Number} (accesses : Accesses name field path.segments)
    (encodes : constant.value? = some (.number n)) : Steps name path (binary (.arithmetic .add) constant field) n
  | minus {field constant : Expr} {n k : Number} (accesses : Accesses name field path.segments)
    (encodes : constant.value? = some (.number n)) (negates : n.negate? = some (.number k)) :
    Steps name path (binary (.arithmetic .subtract) field constant) k

inductive Assigns (name : String) (path : FieldPath) : Expr → Clause → Prop where
  | removed : Assigns name path absent (.update "$unset" path (.int 1))
  | stepped {e : Expr} {k : Number} (steps : Steps name path e k) :
    Assigns name path e (.update "$inc" path (.number k))
  | written {e : Expr} {value : Wire} (encodes : e.value? = some value) :
    Assigns name path e (.update "$set" path value)

variable {name : String} {path : FieldPath} {e : Expr}

/-! ### Constants and fields -/

theorem value?_of_mentions (mentioned : e.mentions name = true) : e.value? = none := by
  cases encodes : e.value? with
  | none => rfl
  | some value =>
    rw [mentions_of_value? name e encodes] at mentioned
    cases mentioned

theorem not_accesses_of_value? {value : Wire} {segments : List PathSegment} (encodes : e.value? = some value) :
    ¬ Accesses name e segments := by
  intro accesses
  rw [value?_of_mentions accesses.mentions] at encodes
  cases encodes

theorem pathOn?_of_value? {value : Wire} (encodes : e.value? = some value) : e.pathOn? name = none := by
  cases resolved : e.pathOn? name with
  | none => rfl
  | some path => exact absurd (pathOn?_eq_some_iff.mp resolved) (not_accesses_of_value? encodes)

theorem amount?_eq_some_iff {k : Wire} :
    e.amount? = some k ↔ ∃ n, e.value? = some (.number n) ∧ k = .number n := by
  simp only [amount?, Option.bind_eq_bind, Option.bind_eq_some_iff]
  constructor
  · rintro ⟨value, encodes, kept⟩
    split at kept
    · rename_i numeric
      cases kept
      cases k with
      | number n => exact ⟨n, encodes, rfl⟩
      | _ => cases numeric
    · cases kept
  · rintro ⟨n, encodes, rfl⟩
    exact ⟨_, encodes, rfl⟩

theorem stepBeside?_eq_some_iff {field constant : Expr} {k : Wire} :
    field.stepBeside? name path constant = some k ↔
      Accesses name field path.segments ∧ ∃ n, constant.value? = some (.number n) ∧ k = .number n := by
  rw [← pathOn?_eq_some_iff, ← amount?_eq_some_iff]
  unfold stepBeside?
  exact Option.ite_none_right_eq_some

theorem stepBeside?_of_value? {field constant : Expr} {value : Wire} (encodes : field.value? = some value) :
    field.stepBeside? name path constant = none := by
  cases step : field.stepBeside? name path constant with
  | none => rfl
  | some k => exact absurd (stepBeside?_eq_some_iff.mp step).1 (not_accesses_of_value? encodes)

theorem assignment?_eq_some_iff {c : Clause} :
    e.assignment? name path = some c ↔ ∃ value, e.value? = some value ∧ c = .update "$set" path value := by
  unfold assignment?
  constructor
  · intro read
    split at read
    · cases read
    · simp only [Option.bind_eq_bind, Option.bind_eq_some_iff] at read
      obtain ⟨value, encodes, same⟩ := read
      cases same
      exact ⟨value, encodes, rfl⟩
  · rintro ⟨value, encodes, rfl⟩
    rw [mentions_of_value? name e encodes, encodes]
    rfl

/-! ### The clause -/

theorem assigns_of_assignment? {c : Clause} (read : e.assignment? name path = some c) : Assigns name path e c := by
  obtain ⟨value, encodes, rfl⟩ := assignment?_eq_some_iff.mp read
  exact .written encodes

theorem assigns_of_setClause? {c : Clause} (read : e.setClause? name path = some c) : Assigns name path e c := by
  unfold setClause? at read
  split at read
  · cases read
    exact .removed
  · split at read
    · rename_i k step
      cases read
      obtain first | ⟨_, second⟩ := Option.or_eq_some_iff.mp step
      · obtain ⟨accesses, n, encodes, rfl⟩ := stepBeside?_eq_some_iff.mp first
        exact .stepped (.plus accesses encodes)
      · obtain ⟨accesses, n, encodes, rfl⟩ := stepBeside?_eq_some_iff.mp second
        exact .stepped (.onto accesses encodes)
    · exact assigns_of_assignment? read
  · split at read
    · rename_i k step
      obtain ⟨accesses, n, encodes, rfl⟩ := stepBeside?_eq_some_iff.mp step
      obtain ⟨negated, negates, same⟩ := Option.bind_eq_some_iff.mp read
      cases same
      obtain ⟨m, rfl⟩ := Wire.negate?_number negates
      exact .stepped (.minus accesses encodes negates)
    · exact assigns_of_assignment? read
  · exact assigns_of_assignment? read

theorem setClause?_of_value? {value : Wire} (encodes : e.value? = some value) :
    e.setClause? name path = some (.update "$set" path value) := by
  have written : e.assignment? name path = some (.update "$set" path value) :=
    assignment?_eq_some_iff.mpr ⟨value, encodes, rfl⟩
  unfold setClause?
  split
  · cases encodes
  · rename_i left right
    simp only [value?, Option.bind_eq_bind, Option.bind_eq_some_iff] at encodes
    obtain ⟨_, first, _, second, _⟩ := encodes
    rw [stepBeside?_of_value? first, stepBeside?_of_value? second]
    exact written
  · rename_i left right
    simp only [value?, Option.bind_eq_bind, Option.bind_eq_some_iff] at encodes
    obtain ⟨_, first, _, second, _⟩ := encodes
    rw [stepBeside?_of_value? first]
    exact written
  · exact written

theorem setClause?_of_steps {k : Number} (steps : Steps name path e k) :
    e.setClause? name path = some (.update "$inc" path (.number k)) := by
  cases steps with
  | plus accesses encodes =>
    rw [setClause?, stepBeside?_eq_some_iff.mpr ⟨accesses, _, encodes, rfl⟩]
    rfl
  | onto accesses encodes =>
    rw [setClause?, stepBeside?_of_value? encodes, stepBeside?_eq_some_iff.mpr ⟨accesses, _, encodes, rfl⟩]
    rfl
  | minus accesses encodes negates =>
    rw [setClause?, stepBeside?_eq_some_iff.mpr ⟨accesses, _, encodes, rfl⟩]
    simp only [Wire.negate?, Wire.number?, Option.bind_some, negates]
    rfl

theorem setClause?_eq_some_iff {c : Clause} : e.setClause? name path = some c ↔ Assigns name path e c := by
  constructor
  · exact assigns_of_setClause?
  · intro assigns
    cases assigns with
    | removed => rfl
    | stepped steps => exact setClause?_of_steps steps
    | written encodes => exact setClause?_of_value? encodes

end DocChain.Expr
