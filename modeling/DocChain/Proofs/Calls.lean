import DocChain.Proofs.Draft

/-!
# The calls of a chain and their steps

An expression unwinds from its last call to its source. `Expr.steps` gives the steps in the order in
which they were written, and `Writes` says which call writes which step.
-/

namespace DocChain

theorem Operator.method_of_ofMethod? {name : String} {op : Operator} (found : ofMethod? name = some op) :
    op.method = name := by
  simpa using List.find?_some found

def Call.steps : Call → List Step
  | step s => [s]
  | beginUpdate | defer => []

/-- The operand of an operation in the arguments behind its target. -/
def Operation.operand? (op : Operation) (binding : String) (target : Expr) : List Expr → Option Expr
  | [] =>
    match op with
    | .unset => some .absent
    | .popFront | .popBack => some target
    | _ => none
  | [value] =>
    match op with
    | .filter | .unset | .popFront | .popBack => none
    | op => some (value.mutationValue op binding)
  | _ => none

theorem Operation.ne_filter_of_operand? {op : Operation} {binding : String} {target e : Expr}
    {rest : List Expr} (operand : op.operand? binding target rest = some e) : op ≠ .filter := by
  rintro rfl
  rcases rest with _ | ⟨value, _ | _⟩ <;> cases operand

namespace Expr

/-- Which call on a receiver writes which step. -/
inductive Writes (receiver : Expr) : String → List Expr → Step → Prop where
  | filter (param : String) (body : Expr) :
      Writes receiver "where" [lambda param body] (.predicate (.operation .filter) param body)
  | operation {op : Operation} {target : Expr} {rest : List Expr} {binding : String} {path : FieldPath}
      {e : Expr} (resolves : target.resolve = .ok (binding, path))
      (operand : op.operand? binding target rest = some e) :
      Writes receiver (Operator.operation op).method (target :: rest)
        (.mutation (.operation op) binding path e)
  | modifier {m : Modifier} {node arg target : Expr} {sorted : Bool} {binding : String} {path : FieldPath}
      (below : pushEachBelow node false receiver = .ok (target, sorted))
      (ordered : ∀ direction, m = .thenSortBy direction → sorted = true)
      (resolves : target.resolve = .ok (binding, path)) :
      Writes receiver (Operator.modifier m).method [arg] (.mutation (.modifier m) binding path arg)

theorem writes_of_operationStep {node receiver : Expr} {op : Operation} {args : List Expr} {s : Step}
    (read : operationStep node op args = .ok s) : Writes receiver (Operator.operation op).method args s := by
  unfold operationStep at read
  split at read
  · cases read
    exact .filter _ _
  · cases read
  · obtain ⟨⟨name, path⟩, resolves, same⟩ := bind_eq_ok.mp read
    cases same
    exact .operation resolves rfl
  · obtain ⟨⟨name, path⟩, resolves, same⟩ := bind_eq_ok.mp read
    cases same
    exact .operation resolves rfl
  · obtain ⟨⟨name, path⟩, resolves, same⟩ := bind_eq_ok.mp read
    cases same
    exact .operation resolves rfl
  · cases read
  · cases read
  · cases read
  · obtain ⟨⟨name, path⟩, resolves, same⟩ := bind_eq_ok.mp read
    cases same
    refine .operation resolves ?_
    cases op <;> first | rfl | contradiction
  · cases read

theorem writes_of_modifierStep {node receiver : Expr} {m : Modifier} {args : List Expr} {s : Step}
    (read : modifierStep node receiver m args = .ok s) :
    Writes receiver (Operator.modifier m).method args s := by
  unfold modifierStep at read
  split at read
  · rename_i arg
    obtain ⟨⟨target, sorted⟩, found, read⟩ := bind_eq_ok.mp read
    have below : pushEachBelow node false receiver = .ok (target, sorted) := mapError_eq_ok.mp found
    dsimp only at read
    split at read
    · cases read
    · rename_i unordered
      obtain ⟨⟨name, path⟩, resolves, same⟩ := bind_eq_ok.mp read
      cases same
      refine .modifier below ?_ resolves
      rintro direction rfl
      cases sorted
      · exact absurd rfl (unordered direction rfl)
      · rfl
  · cases read

/-- A recognized call is a marker or writes a step. -/
theorem recognizeCall_cases {receiver : Expr} {method : String} {args : List Expr} {c : Call}
    (read : recognizeCall receiver method args = .ok c) :
    (c = .defer ∧ method = "defer" ∧ args = []) ∨ (c = .beginUpdate ∧ method = "update" ∧ args = []) ∨
      ∃ s, c = .step s ∧ Writes receiver method args s := by
  unfold recognizeCall at read
  dsimp only at read
  split at read
  · cases read
    exact .inl ⟨rfl, rfl, rfl⟩
  · cases read
    exact .inr (.inl ⟨rfl, rfl, rfl⟩)
  · right
    right
    split at read
    · rename_i m found
      obtain ⟨s, stepped, same⟩ := bind_eq_ok.mp read
      cases same
      exact ⟨s, rfl, Operator.method_of_ofMethod? found ▸ writes_of_modifierStep stepped⟩
    · rename_i op found
      obtain ⟨s, stepped, same⟩ := bind_eq_ok.mp read
      cases same
      exact ⟨s, rfl, Operator.method_of_ofMethod? found ▸ writes_of_operationStep stepped⟩
    · cases read

section
variable {method : String} (receiver : Expr) (args : List Expr)

theorem recognizeCall_modifier {m : Modifier} (named : Operator.ofMethod? method = some (.modifier m)) :
    recognizeCall receiver method args = (modifierStep (call receiver method args) receiver m args).map .step := by
  unfold recognizeCall
  dsimp only
  split
  · cases named
  · cases named
  · simp only [named]
    cases modifierStep (call receiver method args) receiver m args <;> rfl

theorem recognizeCall_operation {op : Operation} (named : Operator.ofMethod? method = some (.operation op)) :
    recognizeCall receiver method args = (operationStep (call receiver method args) op args).map .step := by
  unfold recognizeCall
  dsimp only
  split
  · cases named
  · cases named
  · simp only [named]
    cases operationStep (call receiver method args) op args <;> rfl

/-- A call that is no operator is a marker or nothing. -/
theorem recognizeCall_unnamed (unnamed : Operator.ofMethod? method = none) :
    recognizeCall receiver method args =
      if method = "defer" ∧ args = [] then .ok .defer
      else if method = "update" ∧ args = [] then .ok .beginUpdate
      else .error (.unrecognizedShape (call receiver method args)) := by
  unfold recognizeCall
  dsimp only
  split
  · rfl
  · rfl
  · rename_i noDefer noUpdate
    rw [if_neg fun same => noDefer same.1 same.2, if_neg fun same => noUpdate same.1 same.2, unnamed]
    rfl

end

/-- The source and the steps of an expression in the order of writing. Markers write none. -/
def steps : Expr → Except CompileError (List Step)
  | call receiver method args => do
    let c ← recognizeCall receiver method args
    return (← receiver.steps) ++ c.steps
  | e => return [.source (← e.recognizeSource)]

theorem steps_call {receiver : Expr} {method : String} {args : List Expr} {all : List Step}
    (unwound : (call receiver method args).steps = .ok all) :
    ∃ c before, recognizeCall receiver method args = .ok c ∧ receiver.steps = .ok before ∧
      all = before ++ c.steps := by
  rw [steps] at unwound
  obtain ⟨c, read, unwound⟩ := bind_eq_ok.mp unwound
  obtain ⟨before, written, same⟩ := bind_eq_ok.mp unwound
  exact ⟨c, before, read, written, by cases same; rfl⟩

theorem steps_of_unwind {e : Expr} {outermost : Bool} {behind chain : Chain}
    (unwound : e.unwind outermost behind = .ok chain) :
    ∃ written, e.steps = .ok written ∧ chain.steps = written ++ behind.steps := by
  induction e using Expr.steps.induct generalizing outermost behind with
  | case1 receiver method args ih =>
    rw [unwind] at unwound
    obtain ⟨c, read, unwound⟩ := bind_eq_ok.mp unwound
    have tail : ∃ written, receiver.steps = .ok written ∧
        chain.steps = written ++ (c.steps ++ behind.steps) := by
      cases c with
      | step s => exact ih unwound
      | beginUpdate =>
        obtain ⟨written, same, whole⟩ := ih unwound
        exact ⟨written, same, whole⟩
      | defer =>
        cases outermost
        · cases unwound
        · obtain ⟨written, same, whole⟩ := ih unwound
          exact ⟨written, same, whole⟩
    obtain ⟨written, same, whole⟩ := tail
    refine ⟨written ++ c.steps, ?_, by rw [whole, List.append_assoc]⟩
    rw [steps, read]
    simp [bind, Except.bind, same, pure, Except.pure]
  | case2 e notCall =>
    rw [unwind.eq_2 _ _ _ notCall] at unwound
    obtain ⟨source, read, same⟩ := bind_eq_ok.mp unwound
    cases same
    refine ⟨[.source source], ?_, rfl⟩
    rw [steps.eq_2 _ notCall, read]
    rfl

/-- A chain holds the steps of its calls in the order of writing. -/
theorem steps_of_chain {e : Expr} {chain : Chain} (unwound : e.chain = .ok chain) :
    e.steps = .ok chain.steps := by
  obtain ⟨written, same, whole⟩ := steps_of_unwind unwound
  rw [same, whole, List.append_nil]

/-- The documents of a compiled chain are those at the end of the run over its steps. -/
theorem run_of_compile {e : Expr} {strict : Bool} {compiled : Compiled} {report : List Dropped}
    (accepted : e.compile strict = .ok (compiled, report)) :
    ∃ all kept refused d, e.steps = .ok all ∧ Draft.Run {} all kept refused d ∧
      refused.map Step.dropped? = report.map some ∧ compiled.documents.queryDocument = d.query ∧
      compiled.documents.updateDocument? = if all.any Step.mutates then some d.update else none := by
  obtain ⟨chain, unwound, assembled⟩ := bind_eq_ok.mp accepted
  obtain ⟨kept, refused, d, run, entries, rfl, _⟩ := Chain.assemble_eq_ok_iff.mp assembled
  exact ⟨chain.steps, kept, refused, d, steps_of_chain unwound, run, entries,
    by simp [Assembly.after], by simp [Assembly.after]⟩

end Expr

end DocChain
