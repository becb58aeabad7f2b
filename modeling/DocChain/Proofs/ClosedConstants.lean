import DocChain.Proofs.Assignments
import DocChain.Proofs.FieldOrder

/-!
# Constants are closed

No case of a translation is ambiguous. An expression with a value names no row, and the numbers in its value
are signed integers and finite floats. So the look of `set` for the row in what it writes decides nothing, and
a comparison with a clause has its field on one side and a constant on the other.
-/

namespace DocChain

/-! ### The numbers of a value -/

namespace Wire

mutual

/-- The numbers in a value, at any depth. -/
def numbers : Wire → List Number
  | number n => [n]
  | array items => itemNumbers items
  | object fields => fieldNumbers fields
  | _ => []

def itemNumbers : List Wire → List Number
  | [] => []
  | item :: items => item.numbers ++ itemNumbers items

def fieldNumbers : List (String × Wire) → List Number
  | [] => []
  | (_, value) :: fields => value.numbers ++ fieldNumbers fields

end

theorem mem_fieldNumbers_iff {fields : Document} {n : Number} :
    n ∈ fieldNumbers fields ↔ ∃ field ∈ fields, n ∈ field.2.numbers := by
  induction fields with
  | nil => simp [fieldNumbers]
  | cons field fields ih => simp [fieldNumbers, ih]

theorem mem_fieldNumbers_insert {fields : Document} {name : String} {value : Wire} {n : Number}
    (member : n ∈ fieldNumbers (fields.insert name value)) : n ∈ value.numbers ∨ n ∈ fieldNumbers fields := by
  obtain ⟨field, there, held⟩ := mem_fieldNumbers_iff.mp member
  rcases Fields.mem_of_mem_insert there with rfl | old
  · exact .inl held
  · exact .inr (mem_fieldNumbers_iff.mpr ⟨field, old, held⟩)

end Wire

/-- What arithmetic makes has no parts. -/
theorem Arithmetic.value?_numbers {op : Arithmetic} {left right value : Wire}
    (folded : op.value? left right = some value) : ∀ n ∈ value.numbers, n.isConstant = true := by
  intro n member
  cases value with
  | number n' =>
    obtain rfl := List.mem_singleton.mp member
    exact value?_number folded
  | array | object =>
    unfold value? at folded
    split at folded
    · split at folded <;> cases folded
    · simp only [number?, Option.bind_eq_bind, Option.bind_eq_some_iff] at folded
      obtain ⟨_, _, _, _, _, _, written⟩ := folded
      obtain ⟨_, same, _⟩ := Decimal.wire?_number written
      cases same
    · cases folded
  | null | bool | string => cases member

namespace Expr

mutual

/-- The numbers in a value are signed integers and finite floats. -/
theorem isConstant_of_mem_numbers : (e : Expr) → {v : Wire} → e.value? = some v →
    ∀ n ∈ v.numbers, n.isConstant = true
  | null, _, encodes | boolean _, _, encodes | string _, _, encodes => by
    cases encodes
    rintro n ⟨⟩
  | integer k, _, encodes => by
    cases encodes
    intro n member
    obtain rfl := List.mem_singleton.mp member
    rfl
  | float x, _, encodes => by
    obtain ⟨rfl, finite⟩ := Wire.ofFloat?_eq_some encodes
    intro n member
    obtain rfl := List.mem_singleton.mp member
    exact finite
  | array items, _, encodes => by
    simp only [value?, Option.bind_eq_bind, Option.bind_eq_some_iff] at encodes
    obtain ⟨_, values, same⟩ := encodes
    cases same
    exact isConstant_of_mem_itemNumbers items values
  | object pairs, _, encodes => by
    simp only [value?, Option.bind_eq_bind, Option.bind_eq_some_iff] at encodes
    obtain ⟨_, values, same⟩ := encodes
    cases same
    exact isConstant_of_mem_fieldNumbers pairs values (by simp [Wire.fieldNumbers])
  | binary (.arithmetic op) left right, _, encodes => by
    simp only [value?, Option.bind_eq_bind, Option.bind_eq_some_iff] at encodes
    obtain ⟨_, _, _, _, folded⟩ := encodes
    exact Arithmetic.value?_numbers folded
  | binary (.comparison _) _ _, _, encodes | binary (.connective _) _ _, _, encodes => by cases encodes
  | absent, _, encodes | root, _, encodes | collection _, _, encodes | key _, _, encodes => by cases encodes
  | binding _, _, encodes | access .., _, encodes | member .., _, encodes | existence _, _, encodes => by cases encodes
  | call .., _, encodes | lambda .., _, encodes => by cases encodes

theorem isConstant_of_mem_itemNumbers : (es : List Expr) → {vs : List Wire} → itemValues? es = some vs →
    ∀ n ∈ Wire.itemNumbers vs, n.isConstant = true
  | [], _, encodes => by
    cases encodes
    rintro n ⟨⟩
  | e :: es, _, encodes => by
    simp only [itemValues?, Option.bind_eq_bind, Option.bind_eq_some_iff] at encodes
    obtain ⟨_, first, _, others, same⟩ := encodes
    cases same
    intro n member
    rcases List.mem_append.mp member with here | behind
    · exact isConstant_of_mem_numbers e first n here
    · exact isConstant_of_mem_itemNumbers es others n behind

theorem isConstant_of_mem_fieldNumbers : (ps : List (String × Expr)) → {fields found : Document} →
    pairValues? fields ps = some found → (∀ n ∈ Wire.fieldNumbers fields, n.isConstant = true) →
    ∀ n ∈ Wire.fieldNumbers found, n.isConstant = true
  | [], _, _, encodes, before => by
    cases encodes
    exact before
  | (_, e) :: ps, _, _, encodes, before => by
    simp only [pairValues?, Option.bind_eq_bind, Option.bind_eq_some_iff] at encodes
    obtain ⟨_, first, others⟩ := encodes
    refine isConstant_of_mem_fieldNumbers ps others fun n member => ?_
    rcases Wire.mem_fieldNumbers_insert member with new | old
    · exact isConstant_of_mem_numbers e first n new
    · exact before n old

end

/-! ### The row in what `set` writes -/

/-- The clause of `set`, with the rule for values that are neither `absent` nor a step of the field left open. -/
def setClauseBy (assign : Expr → Option Clause) (binding : String) (path : FieldPath) (value : Expr) :
    Option Clause :=
  match value with
  | absent => some (.update "$unset" path (.int 1))
  | binary (.arithmetic .add) left right =>
    match (left.stepBeside? binding path right).or (right.stepBeside? binding path left) with
    | some k => some (.update "$inc" path k)
    | none => assign value
  | binary (.arithmetic .subtract) left right =>
    match left.stepBeside? binding path right with
    | some k => return .update "$inc" path (← k.negate?)
    | none => assign value
  | _ => assign value

/-- Writing any constant, without a look for the row in it. -/
def uncheckedAssignment? (path : FieldPath) (value : Expr) : Option Clause := do
  return .update "$set" path (← value.value?)

theorem setClause?_eq_by (binding : String) (path : FieldPath) (e : Expr) :
    e.setClause? binding path = e.setClauseBy (assignment? binding path) binding path := by
  cases e with
  | binary op left right =>
    cases op with
    | arithmetic op => cases op <;> rfl
    | _ => rfl
  | _ => rfl

theorem assignment?_eq_unchecked (binding : String) (path : FieldPath) (e : Expr) :
    e.assignment? binding path = e.uncheckedAssignment? path := by
  unfold assignment? uncheckedAssignment?
  split
  · rename_i mentioned
    rw [value?_of_mentions mentioned]
    rfl
  · rfl

theorem clause?_unchecked {op : Operation} (binding : String) (path : Option FieldPath) (e : Expr)
    (assigns : op = .set ∨ op = .unset) :
    op.clause? binding path e = path.bind fun path => e.setClauseBy (uncheckedAssignment? path) binding path := by
  cases path with
  | none => rcases assigns with rfl | rfl <;> rfl
  | some path =>
    have unchecked : assignment? binding path = uncheckedAssignment? path :=
      funext fun e => assignment?_eq_unchecked binding path e
    have clause : op.clause? binding (some path) e = e.setClause? binding path := by
      rcases assigns with rfl | rfl <;> rfl
    rw [clause, setClause?_eq_by, unchecked, Option.bind_some]

/-! ### The sides of a comparison -/

/-- A field beside a constant, neither of which can be taken for the other. -/
structure FieldBeside (binding : String) (field constant : Expr) (path : FieldPath) (operand : Wire) : Prop where
  resolves : field.pathOn? binding = some path
  encodes : constant.value? = some operand
  unresolved : constant.pathOn? binding = none
  valueless : field.value? = none

theorem FieldBeside.of {binding : String} {path : FieldPath} {field constant : Expr} {operand : Wire}
    (resolves : field.pathOn? binding = some path) (encodes : constant.value? = some operand) :
    FieldBeside binding field constant path operand :=
  ⟨resolves, encodes, pathOn?_of_value? encodes, value?_of_mentions (pathOn?_eq_some_iff.mp resolves).mentions⟩

theorem fieldBeside_of_comparison? {binding : String} {c : Comparison} {left right : Expr}
    {clause : Clause} (read : comparison? binding c left right = some clause) : ∃ path operand,
      (FieldBeside binding left right path operand ∧ clause = ⟨path.dotted, c.condition operand⟩) ∨
      (FieldBeside binding right left path operand ∧ clause = ⟨path.dotted, c.flipped.condition operand⟩) := by
  unfold comparison? at read
  split at read
  · rename_i path resolves
    simp only [Option.bind_eq_bind, Option.bind_eq_some_iff] at read
    obtain ⟨operand, encodes, same⟩ := read
    cases same
    exact ⟨path, operand, .inl ⟨.of resolves encodes, rfl⟩⟩
  · simp only [Option.bind_eq_bind, Option.bind_eq_some_iff] at read
    obtain ⟨path, resolves, operand, encodes, same⟩ := read
    cases same
    exact ⟨path, operand, .inr ⟨.of resolves encodes, rfl⟩⟩

/-- Constants are closed: they mention no binding, are no field and hold only numbers of the wire. So `set`
need not look for the row in a value, and a comparison with a clause has exactly one field, beside a constant. -/
theorem constants_are_closed :
    (∀ (e : Expr) (v : Wire), e.value? = some v →
      (∀ binding, e.mentions binding = false ∧ e.pathOn? binding = none) ∧
      ∀ n ∈ v.numbers, (∃ k, n = .int k) ∨ ∃ x, n = .float x ∧ (Binary64.ofFloat x).isFinite = true) ∧
    (∀ (op : Operation) (binding : String) (path : Option FieldPath) (e : Expr), op = .set ∨ op = .unset →
      op.clause? binding path e =
        path.bind fun path => e.setClauseBy (uncheckedAssignment? path) binding path) ∧
    (∀ (binding : String) (op : BinaryOp) (left right : Expr) (clause : Clause),
      (∀ c, op ≠ .connective c) → (binary op left right).predicate? binding = some clause →
      ∃ c path operand, op = .comparison c ∧
        ((FieldBeside binding left right path operand ∧ clause = ⟨path.dotted, c.condition operand⟩) ∨
        (FieldBeside binding right left path operand ∧ clause = ⟨path.dotted, c.flipped.condition operand⟩))) := by
  refine ⟨fun e v encodes => ⟨fun binding => ?_, fun n member => ?_⟩, fun _ => clause?_unchecked, ?_⟩
  · exact ⟨mentions_of_value? binding e encodes, pathOn?_of_value? encodes⟩
  · have constant := isConstant_of_mem_numbers e encodes n member
    cases n with
    | int k => exact .inl ⟨k, rfl⟩
    | wide => cases constant
    | float x => exact .inr ⟨x, rfl, constant⟩
  · intro binding op left right clause single read
    cases op with
    | comparison c =>
      obtain ⟨path, operand, sides⟩ := fieldBeside_of_comparison? read
      exact ⟨c, path, operand, rfl, sides⟩
    | arithmetic => cases read
    | connective c => exact absurd rfl (single c)

theorem constants_are_closed_limits :
    let low := binary (.arithmetic .subtract) (integer 0) (integer 5)
    let limits := object [("low", low), ("steps", array [float 0.5])]
    let recent := binary (.comparison .less) (integer 18) (member (binding "p") "age")
    (limits.mentions "p" = false ∧ limits.pathOn? "p" = none) ∧
      Operation.set.clause? "p" (some ⟨[.field "range"], by decide⟩) limits =
        limits.setClauseBy (uncheckedAssignment? ⟨[.field "range"], by decide⟩) "p" ⟨[.field "range"], by decide⟩ ∧
      recent.predicate? "p" = some ⟨"age", .single "$gt" (.int 18)⟩ ∧
      FieldBeside "p" (member (binding "p") "age") (integer 18) ⟨[.field "age"], by decide⟩ (.int 18) := by
  intro low limits recent
  obtain ⟨closed, unchecked, sides⟩ := constants_are_closed
  have encodes : limits.value? = some (.object [("low", .int (-5)), ("steps", .array [.number (.float 0.5)])]) := by
    rfl
  have read : recent.predicate? "p" = some ⟨"age", .single "$gt" (.int 18)⟩ := by rfl
  refine ⟨(closed limits _ encodes).1 "p", unchecked .set "p" (some _) limits (.inl rfl), read, ?_⟩
  obtain ⟨c, path, operand, same, beside | beside⟩ := sides "p" _ _ _ _ (by simp) read
  · cases beside.1.resolves
  · obtain ⟨field, _⟩ := beside
    cases field.resolves
    cases field.encodes
    exact field

end Expr

end DocChain
