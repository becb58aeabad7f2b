import DocChain.Proofs.Assignments
import DocChain.Proofs.Calls

/-!
# What an update pushes

`pushed?` is the operand that an update pushes to a field. A push sets it, a modifier patches it at its
own field, and no other step of a written chain touches it.
-/

namespace DocChain

/-- What an update pushes to a field. -/
def pushed? (update : Document) (field : String) : Option Wire :=
  ((update.get? "$push").bind Wire.object?).bind (Fields.get? · field)

theorem pushed?_insert_other {update : Document} {operator field : String} {operand : Wire}
    (other : operator ≠ "$push") : pushed? (update.insert operator operand) field = pushed? update field := by
  rw [pushed?, Fields.get?_insert_of_ne _ _ other, pushed?]

theorem pushed?_insert_push {update pushes : Document} {field : String} :
    pushed? (update.insert "$push" (.object pushes)) field = Fields.get? pushes field := by
  simp [pushed?, Wire.object?]

/-! ### Operands of an operator -/

namespace Update

def operands (update : Document) (operator : String) : Document :=
  ((update.get? operator).bind Wire.object?).getD []

theorem operands_of_get? {update fields : Document} {operator : String}
    (found : update.get? operator = some (.object fields)) : operands update operator = fields := by
  rw [operands, found]
  rfl

theorem operands_of_missing {update : Document} {operator : String}
    (missing : ∀ fields, update.get? operator ≠ some (.object fields)) : operands update operator = [] := by
  rw [operands]
  cases found : update.get? operator with
  | none => rfl
  | some value =>
    cases value with
    | object fields => exact absurd found (missing fields)
    | _ => rfl

theorem operands_insert (update : Document) (operator : String) (fields : Document) (other : String) :
    operands (update.insert operator (.object fields)) other =
      if operator = other then fields else operands update other := by
  rw [operands, Fields.get?_insert]
  split <;> rfl

theorem pushed?_eq (update : Document) (field : String) :
    pushed? update field = (operands update "$push").get? field := by
  rw [pushed?, operands]
  cases (update.get? "$push").bind Wire.object? <;> rfl

/-- A clause inserts its operand among those of its operator. -/
theorem addToUpdate_eq (update : Document) (operator : String) (path : FieldPath) (operand : Wire) :
    (Clause.update operator path operand).addToUpdate update =
      update.insert operator (.object (Fields.insert (operands update operator) path.dotted operand)) := by
  simp only [Clause.update, Wire.single, Clause.addToUpdate]
  split
  · rename_i old found
    rw [operands_of_get? found]
    rfl
  · rename_i missing
    rw [operands_of_missing missing]
    rfl

end Update

/-- A push sets the operand of its field. -/
theorem pushed?_push (update : Document) (path : FieldPath) (operand : Wire) (field : String) :
    pushed? ((Clause.update "$push" path operand).addToUpdate update) field =
      if path.dotted = field then some operand else pushed? update field := by
  rw [Update.addToUpdate_eq, pushed?_insert_push, Fields.get?_insert, Update.pushed?_eq]

/-- A clause of another operator leaves all pushes as they are. -/
theorem pushed?_addToUpdate_other {c : Clause} (other : c.key ≠ "$push") (update : Document) (field : String) :
    pushed? (c.addToUpdate update) field = pushed? update field := by
  unfold Clause.addToUpdate
  split
  · split
    · exact pushed?_insert_other other
    · exact pushed?_insert_other other
  · exact pushed?_insert_other other

/-! ### Operators of update clauses -/

@[simp] theorem Clause.update_key (operator : String) (path : FieldPath) (operand : Wire) :
    (Clause.update operator path operand).key = operator := rfl

theorem Expr.setClause?_key {binding : String} {path : FieldPath} {e : Expr} {c : Clause}
    (read : e.setClause? binding path = some c) : c.key ≠ "$push" := by
  cases setClause?_eq_some_iff.mp read with
  | removed | stepped | written => simp

/-- Only the two pushes write under `$push`. -/
theorem Operation.fieldClause?_key {op : Operation} {binding : String} {path : FieldPath} {e : Expr}
    {c : Clause} (read : op.fieldClause? binding path e = some c) (notFilter : op ≠ .filter)
    (notPush : op ≠ .push) (notPushEach : op ≠ .pushEach) : c.key ≠ "$push" := by
  cases op with
  | filter => exact absurd rfl notFilter
  | push => exact absurd rfl notPush
  | pushEach => exact absurd rfl notPushEach
  | set | unset => exact Expr.setClause?_key read
  | popFront | popBack =>
    cases read
    simp
  | decrement =>
    simp only [fieldClause?, Option.bind_eq_bind, Option.bind_eq_some_iff] at read
    obtain ⟨value, _, operand, _, same⟩ := read
    cases same
    simp
  | increment | addToSet | addToSetEach | pull | pullAll | bitAnd | bitOr =>
    simp only [fieldClause?, Option.bind_eq_bind, Option.bind_eq_some_iff] at read
    obtain ⟨operand, _, same⟩ := read
    cases same
    simp

theorem Operation.fieldClause?_push {op : Operation} {binding : String} {path : FieldPath} {e : Expr}
    {c : Clause} (read : op.fieldClause? binding path e = some c) (push : op = .push ∨ op = .pushEach) :
    ∃ operand, c = .update "$push" path operand := by
  rcases push with rfl | rfl
  all_goals
    simp only [fieldClause?, Option.bind_eq_bind, Option.bind_eq_some_iff] at read
    obtain ⟨operand, _, same⟩ := read
    cases same
    exact ⟨_, rfl⟩

/-! ### Patches -/

theorem pushed?_eq_some {update : Document} {field : String} {operand : Wire} :
    pushed? update field = some operand ↔
      ∃ pushes, update.get? "$push" = some (.object pushes) ∧ Fields.get? pushes field = some operand := by
  simp only [pushed?, Option.bind_eq_some_iff]
  constructor
  · rintro ⟨pushes, ⟨value, found, same⟩, member⟩
    cases value with
    | object fields =>
      cases same
      exact ⟨pushes, found, member⟩
    | _ => cases same
  · rintro ⟨pushes, found, member⟩
    exact ⟨pushes, ⟨_, found, rfl⟩, member⟩

namespace Patch

/-- A patch meets the list fragment of its field and leaves the edited one there. -/
theorem apply_eq_ok {patch : Patch} {path : FieldPath} {update fragment edited : Document}
    (found : pushed? update path.dotted = some (.object fragment))
    (list : Fields.contains fragment "$each" = true) (edits : patch.edit fragment = .ok edited) :
    ∃ update', patch.apply path update = .ok (some update') ∧
      pushed? update' path.dotted = some (.object (inWireOrder edited)) := by
  obtain ⟨pushes, written, member⟩ := pushed?_eq_some.mp found
  let pushes' := Fields.insert pushes path.dotted (.object (inWireOrder edited))
  refine ⟨update.insert "$push" (.object pushes'), ?_, ?_⟩
  · simp only [apply, written, applyToPushes, member, list, if_true, edits]
    rfl
  · rw [pushed?_insert_push, Fields.get?_insert_self]

/-- A patch that is applied edits the list fragment of its field and nothing else. -/
theorem of_apply {patch : Patch} {path : FieldPath} {update update' : Document}
    (applied : patch.apply path update = .ok (some update')) :
    ∃ pushes fragment edited, update.get? "$push" = some (.object pushes) ∧
      Fields.get? pushes path.dotted = some (.object fragment) ∧ patch.edit fragment = .ok edited ∧
      update' = update.insert "$push"
        (.object (Fields.insert pushes path.dotted (.object (inWireOrder edited)))) := by
  unfold apply at applied
  split at applied
  · rename_i pushes written
    obtain ⟨patched, edits, same⟩ := bind_eq_ok.mp applied
    unfold applyToPushes at edits
    split at edits
    · cases edits
      cases same
    · rename_i fragment member
      split at edits
      · obtain ⟨edited, edit, inserted⟩ := bind_eq_ok.mp edits
        cases inserted
        cases same
        exact ⟨pushes, fragment, edited, written, member, edit, rfl⟩
      · cases edits
    · cases edits
  · cases applied

/-- A patch finds nothing exactly where nothing is pushed. -/
theorem apply_eq_none_iff {patch : Patch} {path : FieldPath} {update : Document} :
    patch.apply path update = .ok none ↔ pushed? update path.dotted = none := by
  unfold apply
  split
  · rename_i pushes written
    have found : pushed? update path.dotted = Fields.get? pushes path.dotted := by
      rw [Update.pushed?_eq, Update.operands_of_get? written]
    rw [found]
    constructor
    · intro missed
      obtain ⟨patched, edits, same⟩ := bind_eq_ok.mp missed
      unfold applyToPushes at edits
      split at edits
      · assumption
      · split at edits
        · obtain ⟨edited, _, inserted⟩ := bind_eq_ok.mp edits
          cases inserted
          cases same
        · cases edits
      · cases edits
    · intro missing
      simp only [applyToPushes, missing]
      rfl
  · rename_i missing
    rw [Update.pushed?_eq, Update.operands_of_missing missing]
    exact ⟨fun _ => rfl, fun _ => rfl⟩

/-- A patch leaves other fields alone. -/
theorem apply_elsewhere {patch : Patch} {path : FieldPath} {update update' : Document} {field : String}
    (applied : patch.apply path update = .ok (some update')) (elsewhere : path.dotted ≠ field) :
    pushed? update' field = pushed? update field := by
  obtain ⟨pushes, fragment, edited, written, _, _, rfl⟩ := of_apply applied
  rw [pushed?_insert_push, Fields.get?_insert_of_ne _ _ elsewhere]
  simp [pushed?, written, Wire.object?]

end Patch

/-! ### Steps -/

namespace Step

/-- Whether a step is a push to a field. -/
def pushesTo (field : String) : Step → Prop
  | mutation (.operation op) _ path _ => (op = .push ∨ op = .pushEach) ∧ path.dotted = field
  | _ => False

/-- Whether a step is a push to a field or patches what is pushed to it. -/
def aimsAt (field : String) : Step → Prop
  | mutation (.modifier _) _ path _ => path.dotted = field
  | s => s.pushesTo field

end Step

/-- A written step changes what is pushed only at the field that it aims at. -/
theorem Draft.pushed?_accept {d d' : Draft} {receiver : Expr} {method : String} {args : List Expr} {s : Step}
    {field : String} (written : Expr.Writes receiver method args s) (accepted : d.accept? s = .ok (some d'))
    (elsewhere : ¬ s.aimsAt field) : pushed? d'.update field = pushed? d.update field := by
  cases written with
  | filter param body =>
    simp only [accept?, Except.ok.injEq, Option.map_eq_some_iff] at accepted
    obtain ⟨c, _, rfl⟩ := accepted
    rfl
  | @operation op target rest binding path e resolves operand =>
    simp only [accept?, Except.ok.injEq, Option.map_eq_some_iff] at accepted
    obtain ⟨c, read, rfl⟩ := accepted
    change op.fieldClause? binding path e = some c at read
    by_cases pushes : op = .push ∨ op = .pushEach
    · have different : path.dotted ≠ field := fun same => elsewhere ⟨pushes, same⟩
      obtain ⟨pushedOperand, rfl⟩ := Operation.fieldClause?_push read pushes
      rw [pushed?_push, if_neg different]
    · rw [not_or] at pushes
      exact pushed?_addToUpdate_other
        (Operation.fieldClause?_key read (Operation.ne_filter_of_operand? operand) pushes.1 pushes.2) _ _
  | modifier below ordered resolves =>
    obtain ⟨patch, update, _, patched, rfl⟩ := accept?_modifier accepted
    exact Patch.apply_elsewhere patched elsewhere

end DocChain
