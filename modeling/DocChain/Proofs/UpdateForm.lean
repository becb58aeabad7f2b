import DocChain.Proofs.Conjunction
import DocChain.Proofs.FieldOrder
import DocChain.Proofs.Pushes

/-!
# The form of an update

An update is a document of wire operators, each over a document from fields to operands.
`Update.Takes` says which operand an operator can have. Every clause of an operation is of this form,
and neither merging nor patching leaves it.
-/

namespace DocChain

namespace Update

/-- What an update operator takes for a field. -/
inductive Takes : String → Wire → Prop where
  | set (value : Wire) : Takes "$set" value
  | unset : Takes "$unset" (.int 1)
  | increment (amount : Number) : Takes "$inc" (.number amount)
  | addToSet (value : Wire) : Takes "$addToSet" value
  | popFront : Takes "$pop" (.int (-1))
  | popBack : Takes "$pop" (.int 1)
  | pull (condition : Wire) : Takes "$pull" condition
  | pullAll (items : List Wire) : Takes "$pullAll" (.array items)
  | push (value : Wire) : Takes "$push" value
  | bitAnd (mask : Int64) : Takes "$bit" (.single "and" (.int mask))
  | bitOr (mask : Int64) : Takes "$bit" (.single "or" (.int mask))

/-- A document from fields to operands of one operator. -/
def Operands (operator : String) (value : Wire) : Prop :=
  ∃ fields, value = .object fields ∧ fields ≠ [] ∧ ∀ entry ∈ fields, Takes operator entry.2

/-- The form of an update: every operator stands once, over operands that it takes. -/
structure WellFormed (update : Document) : Prop where
  distinct : update.keys.Nodup
  operands : ∀ entry ∈ update, Operands entry.1 entry.2

theorem WellFormed.nil : WellFormed [] :=
  ⟨List.nodup_nil, by simp⟩

theorem WellFormed.insert {update : Document} {operator : String} {value : Wire}
    (formed : WellFormed update) (operands : Operands operator value) :
    WellFormed (update.insert operator value) := by
  refine ⟨Fields.nodup_keys_insert formed.distinct, fun entry member => ?_⟩
  rcases Fields.mem_of_mem_insert member with rfl | old
  · exact operands
  · exact formed.operands entry old

theorem Operands.insert {operator field : String} {fields : Document} {operand : Wire}
    (operands : Operands operator (.object fields)) (takes : Takes operator operand) :
    Operands operator (.object (Fields.insert fields field operand)) := by
  obtain ⟨_, ⟨⟩, _, old⟩ := operands
  refine ⟨_, rfl, Fields.insert_ne_nil fields field operand, fun entry member => ?_⟩
  rcases Fields.mem_of_mem_insert member with rfl | earlier
  · exact takes
  · exact old entry earlier

/-- A clause joins the operands of its operator, or is the first one there. -/
theorem WellFormed.addToUpdate {update : Document} {operator : String} {path : FieldPath}
    {operand : Wire} (formed : WellFormed update) (takes : Takes operator operand) :
    WellFormed ((Clause.update operator path operand).addToUpdate update) := by
  simp only [Clause.update, Wire.single, Clause.addToUpdate]
  split
  · rename_i old found
    have before : Operands operator (.object old) := formed.operands _ (Fields.mem_of_get? found)
    exact formed.insert (before.insert takes)
  · refine formed.insert ⟨_, rfl, List.cons_ne_nil _ _, fun entry member => ?_⟩
    obtain rfl := List.mem_singleton.mp member
    exact takes

/-- A patch writes a pushed operand anew. -/
theorem WellFormed.patch {update update' : Document} {patch : Patch} {path : FieldPath}
    (formed : WellFormed update) (applied : patch.apply path update = .ok (some update')) :
    WellFormed update' := by
  obtain ⟨pushes, fragment, edited, written, _, _, rfl⟩ := Patch.of_apply applied
  have before : Operands "$push" (.object pushes) := formed.operands _ (Fields.mem_of_get? written)
  exact formed.insert (before.insert (.push _))

end Update

/-! ### Operands of update clauses -/

namespace Expr

theorem mask?_int {e : Expr} {mask : Wire} (read : e.mask? = some mask) : ∃ n, mask = .int n := by
  simp only [mask?, Option.bind_eq_bind, Option.bind_eq_some_iff] at read
  obtain ⟨_, _, n, _, same⟩ := read
  cases same
  exact ⟨n, rfl⟩

end Expr

namespace Clause

/-- Whether a clause puts an operand under an operator that takes it. -/
def IsUpdate (c : Clause) (path : FieldPath) : Prop :=
  ∃ operator operand, c = .update operator path operand ∧ Update.Takes operator operand

theorem isUpdate_of_operand {c : Clause} {operator : String} {path : FieldPath} {operand? : Option Wire}
    {write : Wire → Wire}
    (read : (operand?.bind fun operand => some (Clause.update operator path (write operand))) = some c)
    (takes : ∀ operand, operand? = some operand → Update.Takes operator (write operand)) :
    c.IsUpdate path := by
  obtain ⟨operand, found, same⟩ := Option.bind_eq_some_iff.mp read
  cases same
  exact ⟨_, _, rfl, takes operand found⟩

end Clause

theorem Expr.setClause?_isUpdate {binding : String} {path : FieldPath} {e : Expr} {c : Clause}
    (read : e.setClause? binding path = some c) : c.IsUpdate path := by
  cases setClause?_eq_some_iff.mp read with
  | removed => exact ⟨_, _, rfl, .unset⟩
  | stepped => exact ⟨_, _, rfl, .increment _⟩
  | written => exact ⟨_, _, rfl, .set _⟩

/-- Every operation but a filter writes an operand that its operator takes. -/
theorem Operation.fieldClause?_isUpdate {op : Operation} {binding : String} {path : FieldPath} {e : Expr}
    {c : Clause} (read : op.fieldClause? binding path e = some c) (notFilter : op ≠ .filter) :
    c.IsUpdate path := by
  cases op with
  | filter => exact absurd rfl notFilter
  | set | unset => exact Expr.setClause?_isUpdate read
  | popFront =>
    cases read
    exact ⟨_, _, rfl, .popFront⟩
  | popBack =>
    cases read
    exact ⟨_, _, rfl, .popBack⟩
  | decrement =>
    simp only [fieldClause?, Option.bind_eq_bind, Option.bind_eq_some_iff] at read
    obtain ⟨value, _, negated, negates, same⟩ := read
    cases same
    obtain ⟨n, rfl⟩ := Wire.negate?_number negates
    exact ⟨_, _, rfl, .increment n⟩
  | increment =>
    refine Clause.isUpdate_of_operand read fun amount taken => ?_
    obtain ⟨n, _, rfl⟩ := Expr.amount?_eq_some_iff.mp taken
    exact .increment n
  | addToSet | addToSetEach => exact Clause.isUpdate_of_operand read fun _ _ => .addToSet _
  | push | pushEach => exact Clause.isUpdate_of_operand read fun _ _ => .push _
  | pull => exact Clause.isUpdate_of_operand read fun _ _ => .pull _
  | pullAll =>
    refine Clause.isUpdate_of_operand read fun items taken => ?_
    obtain ⟨items, _, rfl⟩ := Expr.list?_eq_some taken
    exact .pullAll items
  | bitAnd =>
    refine Clause.isUpdate_of_operand read fun mask taken => ?_
    obtain ⟨mask, rfl⟩ := Expr.mask?_int taken
    exact .bitAnd mask
  | bitOr =>
    refine Clause.isUpdate_of_operand read fun mask taken => ?_
    obtain ⟨mask, rfl⟩ := Expr.mask?_int taken
    exact .bitOr mask

/-! ### Steps and runs -/

namespace Draft

theorem accept?_update_wellFormed {d d' : Draft} {s : Step} (accepted : d.accept? s = .ok (some d'))
    (written : s.IsWritten) (formed : Update.WellFormed d.update) : Update.WellFormed d'.update := by
  cases s with
  | source s =>
    cases accepted
    exact formed
  | predicate op binding e =>
    obtain rfl : op = .operation .filter := written
    rw [accept?_filter, Except.ok.injEq, Option.map_eq_some_iff] at accepted
    obtain ⟨c, _, rfl⟩ := accepted
    exact formed
  | mutation op binding path e =>
    cases op with
    | operation op =>
      have notFilter : op ≠ .filter := fun same => written (congrArg Operator.operation same)
      simp only [accept?, Except.ok.injEq, Option.map_eq_some_iff] at accepted
      obtain ⟨c, read, rfl⟩ := accepted
      obtain ⟨operator, operand, rfl, takes⟩ := Operation.fieldClause?_isUpdate read notFilter
      exact formed.addToUpdate takes
    | modifier m =>
      obtain ⟨patch, update, _, patched, rfl⟩ := accept?_modifier accepted
      exact formed.patch patched

theorem Run.update_wellFormed {d final : Draft} {steps kept refused : List Step}
    (run : Run d steps kept refused final) (written : ∀ s ∈ steps, s.IsWritten)
    (formed : Update.WellFormed d.update) : Update.WellFormed final.update := by
  induction run with
  | done => exact formed
  | keep accepted _ ih =>
    rw [List.forall_mem_cons] at written
    exact ih written.2 (accept?_update_wellFormed accepted written.1 formed)
  | refuse _ _ ih =>
    rw [List.forall_mem_cons] at written
    exact ih written.2 formed

end Draft

end DocChain
