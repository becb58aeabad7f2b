import DocChain.Proofs.Calls
import DocChain.Proofs.Spelling

/-!
# Spellings of a chain

A spelled expression is recognized call by call as the expression is, with the same steps over spelled operands,
and so it compiles to the same documents. Where the expression fails, it fails for the same cause over a spelled
node.
-/

namespace DocChain

/-! ### What a spelling makes of errors and steps -/

def CompileError.respell (s : Spelling) : CompileError → CompileError
  | unrecognizedShape node => .unrecognizedShape (node.respell s)
  | unresolvablePath node => .unresolvablePath (node.respell s)
  | refused operator node => .refused operator (node.respell s)
  | e => e

/-- The outcome over spelled nodes, for what a spelling makes of the result. -/
def Spelling.outcome {α β : Type} (s : Spelling) (f : α → β) (x : Except CompileError α) :
    Except CompileError β :=
  (x.map f).mapError (·.respell s)

def Dropped.respell (s : Spelling) (d : Dropped) : Dropped :=
  ⟨d.operator, d.node.respell s⟩

def Step.respell (s : Spelling) : Step → Step
  | source src => source src
  | predicate op name e => predicate op (s.name name) (e.respell s)
  | mutation op name path e => mutation op (s.name name) path (e.respell s)

def Call.respell (s : Spelling) : Call → Call
  | step written => step (written.respell s)
  | beginUpdate => beginUpdate
  | defer => defer

def Chain.respell (s : Spelling) (chain : Chain) : Chain :=
  { chain with steps := chain.steps.map (·.respell s) }

def Assembly.respell (s : Spelling) (a : Assembly) : Assembly :=
  { a with dropped := a.dropped.map (·.respell s) }

theorem Spelling.outcome_bind {α α' β β' : Type} (s : Spelling) {f : α → α'} {g : β → β'}
    {next : α → Except CompileError β} {next' : α' → Except CompileError β'}
    (agree : ∀ a, next' (f a) = s.outcome g (next a))
    (first : Except CompileError α) : s.outcome f first >>= next' = s.outcome g (first >>= next) := by
  cases first with
  | error => rfl
  | ok a => exact agree a

theorem Spelling.outcome_bind_self {α β : Type} (s : Spelling) {first : Except CompileError α}
    {next : α → Except CompileError β} (kept : s.outcome id first = first)
    (agree : ∀ a, s.outcome id (next a) = next a) : s.outcome id (first >>= next) = first >>= next := by
  have moved : s.outcome id first >>= next = s.outcome id (first >>= next) := by
    apply Spelling.outcome_bind
    intro a
    exact (agree a).symm
  rw [← moved, kept]

/-! No error of a patch carries a node. -/

namespace Patch

variable (s : Spelling) (patch : Patch)

theorem outcome_edit (fragment : Document) : s.outcome id (patch.edit fragment) = patch.edit fragment := by
  cases patch with
  | slice _ | sortBy _ _ => rfl
  | thenSortBy key direction =>
    unfold edit
    dsimp only
    split <;> rfl

theorem outcome_applyToPushes (field : String) (pushes : Document) :
    s.outcome id (patch.applyToPushes field pushes) = patch.applyToPushes field pushes := by
  unfold applyToPushes
  split
  · rfl
  · split
    · apply s.outcome_bind_self (outcome_edit s patch _)
      intro fragment
      rfl
    · rfl
  · rfl

theorem outcome_apply (path : FieldPath) (update : Document) :
    s.outcome id (patch.apply path update) = patch.apply path update := by
  unfold apply
  split
  · apply s.outcome_bind_self (outcome_applyToPushes s patch _ _)
    intro pushes
    cases pushes <;> rfl
  · rfl

end Patch

section
variable {s : Spelling} (faithful : s.Faithful)
include faithful

namespace Expr

theorem resolve_respell (e : Expr) :
    (e.respell s).resolve = s.outcome (fun found => (s.name found.1, found.2)) e.resolve := by
  rw [resolve, resolve, target_respell faithful]
  cases e.target <;> rfl

/-! ### Calls -/

theorem pushEachBelow_respell (node : Expr) (sorted : Bool) :
    (e : Expr) → pushEachBelow (node.respell s) sorted (e.respell s) =
      ((pushEachBelow node sorted e).map fun found => (found.1.respell s, found.2)).mapError (respell s)
  | call receiver method args => by
    simp only [respell, pushEachBelow]
    cases Operator.ofMethod? method with
    | none => rfl
    | some op =>
      cases op with
      | modifier m =>
        cases m with
        | slice | thenSortBy _ => exact pushEachBelow_respell node sorted receiver
        | sortBy _ => exact pushEachBelow_respell node true receiver
      | operation op =>
        cases op with
        | pushEach => rcases args with _ | ⟨_, _ | ⟨_, _ | _⟩⟩ <;> rfl
        | _ => rfl
  | access base index => by
    rcases respell_access faithful base index with written | ⟨_, written⟩ <;> rw [written] <;> rfl
  | float _ | integer _ | string _ | boolean _ | null | absent | root | collection _ | key _ => rfl
  | binding _ | member .. | existence _ | binary .. | lambda .. | object _ | array _ => rfl

theorem modifierStep_respell (node receiver : Expr) (m : Modifier) (args : List Expr) :
    modifierStep (node.respell s) (receiver.respell s) m (respellItems s args) =
      s.outcome (Step.respell s) (modifierStep node receiver m args) := by
  rcases args with _ | ⟨arg, _ | _⟩
  · rfl
  · have below : (pushEachBelow (node.respell s) false (receiver.respell s)).mapError .unrecognizedShape =
        s.outcome (fun found => (found.1.respell s, found.2))
          ((pushEachBelow node false receiver).mapError .unrecognizedShape) := by
      rw [pushEachBelow_respell faithful]
      cases pushEachBelow node false receiver <;> rfl
    simp only [respellItems, modifierStep, below]
    apply Spelling.outcome_bind
    rintro ⟨target, sorted⟩
    dsimp only
    split
    · rfl
    · rw [resolve_respell faithful]
      apply Spelling.outcome_bind
      rintro ⟨name, path⟩
      rfl
  · rfl

theorem mutationValue_respell (op : Operation) (name : String) (e : Expr) :
    (e.respell s).mutationValue op (s.name name) = (e.mutationValue op name).respell s := by
  cases e with
  | lambda param body =>
    simp only [respell, mutationValue, faithful.injective.eq_iff]
    split <;> rfl
  | access base index =>
    change ((access base index).respell s).mutationValue op (s.name name) = (access base index).respell s
    rcases respell_access faithful base index with written | ⟨_, written⟩ <;> rw [written] <;> rfl
  | _ => rfl

theorem operationStep_respell (node : Expr) (op : Operation) (args : List Expr) :
    operationStep (node.respell s) op (respellItems s args) =
      s.outcome (Step.respell s) (operationStep node op args) := by
  cases op with
  | filter =>
    rcases args with _ | ⟨e, _ | _⟩
    · rfl
    · cases e with
      | access base index =>
        rcases respell_access faithful base index with written | ⟨_, written⟩ <;>
          rw [respellItems, written] <;> rfl
      | _ => rfl
    · -- whether the first argument is a lambda is read before the number of arguments
      have overfull : ∀ node a b rest,
          operationStep node .filter (a :: b :: rest) = .error (.unrecognizedShape node) := by
        intro node a b rest
        cases a <;> rfl
      rw [respellItems, respellItems, overfull, overfull]
      rfl
  | unset | popFront | popBack =>
    rcases args with _ | ⟨target, _ | _⟩
    · rfl
    · simp only [respellItems, operationStep, resolve_respell faithful]
      apply Spelling.outcome_bind
      rintro ⟨name, path⟩
      rfl
    · rfl
  | _ =>
    rcases args with _ | ⟨target, _ | ⟨value, _ | _⟩⟩
    · rfl
    · rfl
    · simp only [respellItems, operationStep, resolve_respell faithful]
      apply Spelling.outcome_bind
      rintro ⟨name, path⟩
      rw [mutationValue_respell faithful]
      rfl
    · rfl

theorem recognizeCall_respell (receiver : Expr) (method : String) (args : List Expr) :
    recognizeCall (receiver.respell s) method (respellItems s args) =
      s.outcome (Call.respell s) (recognizeCall receiver method args) := by
  cases named : Operator.ofMethod? method with
  | none =>
    have empty : respellItems s args = [] ↔ args = [] := by cases args <;> simp [respellItems]
    simp only [recognizeCall_unnamed _ _ named, empty]
    split
    · rfl
    · split <;> rfl
  | some op =>
    have node : (call receiver method args).respell s =
        call (receiver.respell s) method (respellItems s args) := by rw [respell]
    cases op with
    | modifier m =>
      rw [recognizeCall_modifier _ _ named, recognizeCall_modifier _ _ named, ← node, modifierStep_respell faithful]
      cases modifierStep (call receiver method args) receiver m args <;> rfl
    | operation op =>
      rw [recognizeCall_operation _ _ named, recognizeCall_operation _ _ named, ← node, operationStep_respell faithful]
      cases operationStep (call receiver method args) op args <;> rfl

/-! ### Sources -/

theorem literalItems_respell (items : List Expr) :
    literalItems (respellItems s items) = s.outcome id (literalItems items) := by
  induction items with
  | nil => rfl
  | cons item rest ih =>
    simp only [respellItems, literalItems, value?_respell faithful]
    cases item.value? with
    | none => rfl
    | some value =>
      rw [ih]
      cases literalItems rest <;> rfl

theorem recognizeSource_respell (e : Expr) : (e.respell s).recognizeSource = s.outcome id e.recognizeSource := by
  cases e with
  | array items =>
    simp only [respell, recognizeSource, literalItems_respell faithful]
    cases literalItems items <;> rfl
  | access base index =>
    change ((access base index).respell s).recognizeSource =
      .error (.unrecognizedShape ((access base index).respell s))
    rcases respell_access faithful base index with written | ⟨_, written⟩ <;> rw [written] <;> rfl
  | _ => rfl

/-! ### Chains -/

theorem respell_ne_call {e : Expr} (notCall : ∀ receiver method args, e = call receiver method args → False) :
    ∀ receiver method args, e.respell s = call receiver method args → False := by
  intro receiver method args same
  cases e with
  | call receiver method args => exact notCall receiver method args rfl
  | access base index =>
    rcases respell_access faithful base index with written | ⟨_, written⟩ <;> rw [written] at same <;> cases same
  | _ => cases same

theorem unwind_respell (e : Expr) (outermost : Bool) (behind : Chain) :
    (e.respell s).unwind outermost (behind.respell s) = s.outcome (Chain.respell s) (e.unwind outermost behind) := by
  induction e using Expr.steps.induct generalizing outermost behind with
  | case1 receiver method args ih =>
    simp only [respell, unwind, recognizeCall_respell faithful]
    apply Spelling.outcome_bind
    intro c
    cases c with
    | step written => exact ih false { behind with steps := written :: behind.steps }
    | beginUpdate => exact ih false { behind with beginsUpdate := true }
    | defer =>
      cases outermost
      · rfl
      · exact ih false { behind with deferred := true }
  | case2 e notCall =>
    rw [unwind.eq_2 _ _ _ notCall, unwind.eq_2 _ _ _ (respell_ne_call faithful notCall),
      recognizeSource_respell faithful]
    apply Spelling.outcome_bind
    intro source
    rfl

end Expr

/-! ### Assembling -/

theorem Modifier.patch?_respell (m : Modifier) (e : Expr) : m.patch? (e.respell s) = s.outcome id (m.patch? e) := by
  cases m with
  | slice =>
    simp only [patch?, Expr.value?_respell faithful]
    cases e.value?.bind Wire.int64? <;> rfl
  | sortBy _ | thenSortBy _ =>
    simp only [patch?, Expr.sortKey, Expr.resolve_respell faithful]
    cases e.resolve <;> rfl

namespace Assembly

omit faithful in
theorem refuse_respell (strict : Bool) (op : Operator) (node : Expr) (a : Assembly) :
    refuse strict op (node.respell s) (a.respell s) = s.outcome (Assembly.respell s) (refuse strict op node a) := by
  unfold refuse
  cases strict
  · simp [Spelling.outcome, Except.map, Assembly.respell, Dropped.respell]
  · rfl

theorem addPredicate_respell (strict : Bool) (op : Operator) (name : String) (e : Expr) (a : Assembly) :
    (a.respell s).addPredicate strict op (s.name name) (e.respell s) =
      s.outcome (Assembly.respell s) (a.addPredicate strict op name e) := by
  cases op with
  | modifier m => exact refuse_respell strict (.modifier m) e a
  | operation op =>
    simp only [addPredicate, Operation.clause?_respell faithful]
    cases op.clause? name none e with
    | none => exact refuse_respell strict (.operation op) e a
    | some c => rfl

theorem addOperation_respell (strict : Bool) (op : Operation) (name : String) (path : FieldPath) (e : Expr)
    (a : Assembly) :
    (a.respell s).addOperation strict op (s.name name) path (e.respell s) =
      s.outcome (Assembly.respell s) (a.addOperation strict op name path e) := by
  simp only [addOperation, Operation.clause?_respell faithful]
  cases op.clause? name (some path) e with
  | none => exact refuse_respell strict (.operation op) e { a with mutates := true }
  | some c => rfl

theorem addModifier_respell (strict : Bool) (m : Modifier) (path : FieldPath) (e : Expr) (a : Assembly) :
    (a.respell s).addModifier strict m path (e.respell s) =
      s.outcome (Assembly.respell s) (a.addModifier strict m path e) := by
  simp only [addModifier, Modifier.patch?_respell faithful]
  apply Spelling.outcome_bind
  intro patch
  cases patch with
  | none => exact refuse_respell strict (.modifier m) e a
  | some patch =>
    have kept : s.outcome id (patch.apply path a.update) = patch.apply path (a.respell s).update :=
      patch.outcome_apply s path a.update
    dsimp only [id]
    rw [← kept]
    apply Spelling.outcome_bind
    intro update
    cases update with
    | none => exact refuse_respell strict (.modifier m) e a
    | some update => rfl

theorem add_respell (strict : Bool) (a : Assembly) (step : Step) :
    (a.respell s).add strict (step.respell s) = s.outcome (Assembly.respell s) (a.add strict step) := by
  cases step with
  | source => rfl
  | predicate op name e => exact addPredicate_respell faithful strict op name e a
  | mutation op name path e =>
    cases op with
    | operation op => exact addOperation_respell faithful strict op name path e a
    | modifier m => exact addModifier_respell faithful strict m path e a

theorem run_respell (strict : Bool) (a : Assembly) (steps : List Step) :
    (steps.map (·.respell s)).foldlM (add strict) (a.respell s) =
      s.outcome (Assembly.respell s) (steps.foldlM (add strict) a) := by
  induction steps generalizing a with
  | nil => rfl
  | cons step steps ih =>
    simp only [List.map_cons, List.foldlM_cons, add_respell faithful]
    apply Spelling.outcome_bind
    exact ih

end Assembly

theorem Chain.assemble_respell (strict : Bool) (chain : Chain) :
    (chain.respell s).assemble strict =
      s.outcome (fun result => (result.1, result.2.map (·.respell s))) (chain.assemble strict) := by
  have run := Assembly.run_respell faithful strict {} chain.steps
  simp only [assemble, Chain.respell]
  rw [show ({} : Assembly) = Assembly.respell s {} from rfl, run]
  apply Spelling.outcome_bind
  intro a
  rfl

theorem Expr.compile_respell (strict : Bool) (e : Expr) :
    (e.respell s).compile strict =
      s.outcome (fun result => (result.1, result.2.map (·.respell s))) (e.compile strict) := by
  have unwound : (e.respell s).chain = s.outcome (Chain.respell s) e.chain :=
    unwind_respell faithful e true { steps := [] }
  rw [compile, compile, unwound]
  apply Spelling.outcome_bind
  intro chain
  exact Chain.assemble_respell faithful strict chain

end

end DocChain
