import DocChain.Proofs.Assignments

/-!
# What an assignment computes

A value is read on a row with its arithmetic unrounded. An increment then adds to the field what the value adds to
it, and what is written as a constant is the value on every row.
-/

namespace DocChain

/-- What an expression is on a row: a wire value, or a result that is not rounded. -/
inductive RowValue where
  | wire (value : Wire)
  | result (number : ℚ)

def RowValue.rational? : RowValue → Option ℚ
  | wire value => value.rational?
  | result number => some number

namespace Expr

/-! ### Reading values -/

section
variable (name : String) (row : FieldPath → Option Wire)

/-- The value of an expression on a row: a constant is its wire value, an access chain is the field, and arithmetic
on numbers is exact. -/
def onRow? : Expr → Option RowValue
  | binary (.arithmetic op) left right =>
    match (binary (.arithmetic op) left right).value? with
    | some value => some (.wire value)
    | none => do return .result (← op.exactly? (← (← left.onRow?).rational?) (← (← right.onRow?).rational?))
  | e =>
    match e.value? with
    | some value => some (.wire value)
    | none => do return .wire (← row (← e.pathOn? name))

/-- The number that an expression is on a row. -/
def amountOnRow? (e : Expr) : Option ℚ := do
  (← e.onRow? name row).rational?

end

section
variable {name : String} {row : FieldPath → Option Wire}

theorem onRow?_of_value? {e : Expr} {value : Wire} (encodes : e.value? = some value) :
    e.onRow? name row = some (.wire value) := by
  unfold onRow?
  split <;> rw [encodes]

theorem onRow?_of_accesses {e : Expr} {path : FieldPath} {value : Wire} (accesses : Accesses name e path.segments)
    (held : row path = some value) : e.onRow? name row = some (.wire value) := by
  have resolved := pathOn?_eq_some_iff.mpr accesses
  have unfolded := value?_of_mentions accesses.mentions
  unfold onRow?
  split
  · cases accesses
  · simp only [unfolded, resolved, Option.bind_eq_bind, Option.bind_some, held]
    rfl

theorem amountOnRow?_of_value? {e : Expr} {n : Number} {q : ℚ} (encodes : e.value? = some (.number n))
    (exactly : n.rational? = some q) : e.amountOnRow? name row = some q := by
  unfold amountOnRow?
  rw [onRow?_of_value? encodes]
  exact exactly

theorem amountOnRow?_of_accesses {e : Expr} {path : FieldPath} {x : Int64} (accesses : Accesses name e path.segments)
    (held : row path = some (.int x)) : e.amountOnRow? name row = some (x.toInt : ℚ) := by
  unfold amountOnRow?
  rw [onRow?_of_accesses accesses held]
  rfl

theorem amountOnRow?_arithmetic {op : Arithmetic} {left right : Expr} {x y z : ℚ}
    (unfolded : (binary (.arithmetic op) left right).value? = none) (first : left.amountOnRow? name row = some x)
    (second : right.amountOnRow? name row = some y) (computes : op.exactly? x y = some z) :
    (binary (.arithmetic op) left right).amountOnRow? name row = some z := by
  obtain ⟨a, readLeft, first⟩ := Option.bind_eq_some_iff.mp first
  obtain ⟨b, readRight, second⟩ := Option.bind_eq_some_iff.mp second
  simp only [amountOnRow?, onRow?, unfolded, readLeft, readRight, first, second, computes, Option.bind_eq_bind,
    Option.bind_some]
  rfl

end

/-! ### Steps -/

/-- Whether a value is the field with a constant number on either side of `+`, or with one taken away that can be
negated. -/
inductive IsStep (name : String) (path : FieldPath) : Expr → Prop where
  | plus {field constant : Expr} {n : Number} (accesses : Accesses name field path.segments)
    (encodes : constant.value? = some (.number n)) : IsStep name path (binary (.arithmetic .add) field constant)
  | onto {field constant : Expr} {n : Number} (accesses : Accesses name field path.segments)
    (encodes : constant.value? = some (.number n)) : IsStep name path (binary (.arithmetic .add) constant field)
  | minus {field constant : Expr} {n : Number} (accesses : Accesses name field path.segments)
    (encodes : constant.value? = some (.number n)) (bounded : n ≠ .int Int64.minValue) :
    IsStep name path (binary (.arithmetic .subtract) field constant)

variable {name : String} {path : FieldPath} {e : Expr}

theorem isStep_iff : IsStep name path e ↔ ∃ k, Steps name path e k := by
  constructor
  · intro step
    cases step with
    | plus accesses encodes => exact ⟨_, .plus accesses encodes⟩
    | onto accesses encodes => exact ⟨_, .onto accesses encodes⟩
    | minus accesses encodes bounded =>
      have constant := isConstant_of_value? encodes
      obtain ⟨q, exactly⟩ := Number.exists_rational constant
      obtain ⟨k, negates, _⟩ := Number.exists_negate constant exactly bounded
      exact ⟨k, .minus accesses encodes negates⟩
  · rintro ⟨k, steps⟩
    cases steps with
    | plus accesses encodes => exact .plus accesses encodes
    | onto accesses encodes => exact .onto accesses encodes
    | minus accesses encodes negates =>
      apply IsStep.minus accesses encodes
      rintro rfl
      cases negates

theorem Steps.mentions {k : Number} (steps : Steps name path e k) : e.mentions name = true := by
  cases steps with
  | plus accesses | onto accesses | minus accesses => simp [Expr.mentions, accesses.mentions]

/-- On a row whose field is an integer, a step is the field and what it goes up by. -/
theorem Steps.amountOnRow? {k : Number} (steps : Steps name path e k) :
    ∃ q, k.rational? = some q ∧ ∀ (row : FieldPath → Option Wire) (x : Int64), row path = some (.int x) →
      e.amountOnRow? name row = some (x.toInt + q) := by
  have unfolded := value?_of_mentions steps.mentions
  cases steps with
  | plus accesses encodes =>
    obtain ⟨q, exactly⟩ := Number.exists_rational (isConstant_of_value? encodes)
    refine ⟨q, exactly, ?_⟩
    intro row x held
    have here := amountOnRow?_of_accesses accesses held
    exact amountOnRow?_arithmetic unfolded here (amountOnRow?_of_value? encodes exactly) rfl
  | onto accesses encodes =>
    obtain ⟨q, exactly⟩ := Number.exists_rational (isConstant_of_value? encodes)
    refine ⟨q, exactly, ?_⟩
    intro row x held
    have here := amountOnRow?_of_accesses accesses held
    rw [add_comm]
    exact amountOnRow?_arithmetic unfolded (amountOnRow?_of_value? encodes exactly) here rfl
  | @minus _ _ n _ accesses encodes negates =>
    have isConstant := isConstant_of_value? encodes
    obtain ⟨q, exactly⟩ := Number.exists_rational isConstant
    have bounded : n ≠ .int Int64.minValue := by
      rintro rfl
      cases negates
    obtain ⟨k, negated, opposite⟩ := Number.exists_negate isConstant exactly bounded
    cases negates.symm.trans negated
    refine ⟨-q, opposite, ?_⟩
    intro row x held
    have here := amountOnRow?_of_accesses accesses held
    rw [← sub_eq_add_neg]
    exact amountOnRow?_arithmetic unfolded here (amountOnRow?_of_value? encodes exactly) rfl

end Expr

/-- The clause of `set` computes its value. The steps of the field, `absent` and the constants have one, and a value
that uses the row in any other way than to step its field has none. -/
theorem Operation.set_computes_value (name : String) (path : FieldPath) (e : Expr) :
    (∀ c, Operation.set.clause? name (some path) e = some c →
      (∃ k q, c = .update "$inc" path (.number k) ∧ k.rational? = some q ∧
        ∀ (row : FieldPath → Option Wire) (x : Int64), row path = some (.int x) →
          e.amountOnRow? name row = some (x.toInt + q)) ∨
      (∃ value, c = .update "$set" path value ∧ (∀ other, e.mentions other = false) ∧
        ∀ row : FieldPath → Option Wire, e.onRow? name row = some (.wire value)) ∨
      c = .update "$unset" path (.int 1) ∧ e = .absent) ∧
    (e = .absent → Operation.set.clause? name (some path) e = some (.update "$unset" path (.int 1))) ∧
    (e.IsStep name path →
      ∃ k, Operation.set.clause? name (some path) e = some (.update "$inc" path (.number k))) ∧
    (∀ value, e.value? = some value →
      Operation.set.clause? name (some path) e = some (.update "$set" path value)) ∧
    (e.mentions name = true → ¬ e.IsStep name path → Operation.set.clause? name (some path) e = none) := by
  have clause : Operation.set.clause? name (some path) e = e.setClause? name path := rfl
  rw [clause]
  refine ⟨?_, ?_, ?_, ?_, ?_⟩
  · intro c read
    cases Expr.setClause?_eq_some_iff.mp read with
    | removed => exact .inr (.inr ⟨rfl, rfl⟩)
    | stepped steps =>
      obtain ⟨q, exactly, added⟩ := steps.amountOnRow?
      exact .inl ⟨_, q, rfl, exactly, added⟩
    | written encodes =>
      refine .inr (.inl ⟨_, rfl, ?_, ?_⟩)
      · intro other
        exact Expr.mentions_of_value? other e encodes
      · intro row
        exact Expr.onRow?_of_value? encodes
  · rintro rfl
    rfl
  · intro step
    obtain ⟨k, steps⟩ := Expr.isStep_iff.mp step
    exact ⟨k, Expr.setClause?_of_steps steps⟩
  · intro value encodes
    exact Expr.setClause?_of_value? encodes
  · intro mentioned other
    cases read : e.setClause? name path with
    | none => rfl
    | some c =>
      cases Expr.setClause?_eq_some_iff.mp read with
      | removed => cases mentioned
      | stepped steps => exact absurd (Expr.isStep_iff.mpr ⟨_, steps⟩) other
      | written encodes =>
        rw [Expr.mentions_of_value? name e encodes] at mentioned
        cases mentioned

theorem Operation.set_computes_value_countdown :
    let field : FieldPath := ⟨[.field "count"], by decide⟩
    let lowered : Expr := .binary (.arithmetic .subtract) (.access (.binding "p") (.string "count")) (.integer 3)
    lowered.IsStep "p" field ∧
      Operation.set.clause? "p" (some field) lowered = some (.update "$inc" field (.int (-3))) ∧
      ∀ (row : FieldPath → Option Wire) (x : Int64), row field = some (.int x) →
        lowered.amountOnRow? "p" row = some ((x.toInt : ℚ) - 3) := by
  intro field lowered
  have step : lowered.IsStep "p" field := .minus (.string "count" .document) rfl (by decide)
  have clause : Operation.set.clause? "p" (some field) lowered = some (.update "$inc" field (.int (-3))) := by rfl
  obtain ⟨computes, _⟩ := set_computes_value "p" field lowered
  refine ⟨step, clause, ?_⟩
  obtain ⟨k, q, same, exactly, added⟩ | ⟨_, same, _⟩ | ⟨same, _⟩ := computes _ clause
  · cases same
    cases exactly
    intro row x held
    rw [added row x held, sub_eq_add_neg]
    rfl
  · simp [Clause.update] at same
  · simp [Clause.update] at same

end DocChain
