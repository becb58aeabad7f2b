import DocChain.Proofs.SpelledChains

/-!
# Surface forms

What a chain compiles to depends neither on the form in which its field accesses are written nor on the names of
its bindings. Only the nodes that errors and dropped steps show are spelled as the chain is.
-/

namespace DocChain

/-- The same cause, over whatever nodes. -/
inductive CompileError.Alike : CompileError → CompileError → Prop where
  | parse (e : ParseError) : Alike (.parse e) (.parse e)
  | unrecognizedShape (node node' : Expr) : Alike (.unrecognizedShape node) (.unrecognizedShape node')
  | unresolvablePath (node node' : Expr) : Alike (.unresolvablePath node) (.unresolvablePath node')
  | thenSortWithoutSort : Alike .thenSortWithoutSort .thenSortWithoutSort
  | misplacedDefer : Alike .misplacedDefer .misplacedDefer
  | refused (operator : Operator) (node node' : Expr) : Alike (.refused operator node) (.refused operator node')
  | notFragment (field : String) : Alike (.notFragment field) (.notFragment field)

/-- The same compiled form with the same operators dropped, or errors of the same cause. -/
inductive SameOutcome : Except CompileError (Compiled × List Dropped) →
    Except CompileError (Compiled × List Dropped) → Prop where
  | ok {compiled : Compiled} {report report' : List Dropped}
      (operators : report.map (·.operator) = report'.map (·.operator)) :
      SameOutcome (.ok (compiled, report)) (.ok (compiled, report'))
  | error {e e' : CompileError} (alike : e.Alike e') : SameOutcome (.error e) (.error e')

theorem CompileError.Alike.symm {e e' : CompileError} (alike : e.Alike e') : e'.Alike e := by
  cases alike <;> constructor

theorem CompileError.Alike.trans {e e' e'' : CompileError} (first : e.Alike e') (second : e'.Alike e'') :
    e.Alike e'' := by
  cases first <;> cases second <;> constructor

namespace SameOutcome

variable {x y z : Except CompileError (Compiled × List Dropped)}

theorem symm (same : SameOutcome x y) : SameOutcome y x := by
  cases same with
  | ok operators => exact .ok operators.symm
  | error alike => exact .error alike.symm

theorem trans (first : SameOutcome x y) (second : SameOutcome y z) : SameOutcome x z := by
  cases first with
  | ok operators =>
    cases second with
    | ok operators' => exact .ok (operators.trans operators')
  | error alike =>
    cases second with
    | error alike' => exact .error (alike.trans alike')

end SameOutcome

theorem CompileError.alike_respell (s : Spelling) (e : CompileError) : (e.respell s).Alike e := by
  cases e <;> constructor

theorem Spelling.Faithful.sameOutcome {s : Spelling} (faithful : s.Faithful) (e : Expr) (strict : Bool) :
    SameOutcome ((e.respell s).compile strict) (e.compile strict) := by
  rw [Expr.compile_respell faithful]
  cases e.compile strict with
  | error cause => exact .error (cause.alike_respell s)
  | ok result =>
    obtain ⟨compiled, report⟩ := result
    have operators : (report.map (·.respell s)).map (·.operator) = report.map (·.operator) := by
      rw [List.map_map]
      rfl
    exact .ok operators

/-! ### Forms of a field access -/

namespace Expr

/-- The least congruence in which a field behind a dot, between brackets and between quotes is the same. -/
inductive SameForm : Expr → Expr → Prop where
  | refl (e : Expr) : SameForm e e
  | symm {e e' : Expr} (same : SameForm e e') : SameForm e' e
  | trans {e e' e'' : Expr} (first : SameForm e e') (second : SameForm e' e'') : SameForm e e''
  | key (base : Expr) (field : String) : SameForm (member base field) (access base (key field))
  | string (base : Expr) (field : String) : SameForm (member base field) (access base (string field))
  | access {base base' index index' : Expr} (left : SameForm base base') (right : SameForm index index') :
      SameForm (access base index) (access base' index')
  | member {base base' : Expr} (field : String) (left : SameForm base base') :
      SameForm (member base field) (member base' field)
  | existence {inner inner' : Expr} (same : SameForm inner inner') :
      SameForm (existence inner) (existence inner')
  | binary {left left' right right' : Expr} (op : BinaryOp) (first : SameForm left left')
      (second : SameForm right right') : SameForm (binary op left right) (binary op left' right')
  | receiver {base base' : Expr} (method : String) (args : List Expr) (same : SameForm base base') :
      SameForm (call base method args) (call base' method args)
  | argument {arg arg' : Expr} (base : Expr) (method : String) (before after : List Expr)
      (same : SameForm arg arg') :
      SameForm (call base method (before ++ arg :: after)) (call base method (before ++ arg' :: after))
  | lambda {body body' : Expr} (param : String) (same : SameForm body body') :
      SameForm (lambda param body) (lambda param body')
  | pair {value value' : Expr} (name : String) (before after : List (String × Expr))
      (same : SameForm value value') :
      SameForm (object (before ++ (name, value) :: after)) (object (before ++ (name, value') :: after))
  | item {value value' : Expr} (before after : List Expr) (same : SameForm value value') :
      SameForm (array (before ++ value :: after)) (array (before ++ value' :: after))

end Expr

/-- Every field behind a dot. -/
def Spelling.dotted : Spelling where
  name := id
  access base index :=
    match index with
    | .key field | .string field => .member base field
    | _ => .access base index

theorem Spelling.dotted_faithful : dotted.Faithful where
  injective := Function.injective_id
  access_eq base index := by
    cases index with
    | key field => exact .inr ⟨field, .inl rfl, rfl⟩
    | string field => exact .inr ⟨field, .inr rfl, rfl⟩
    | _ => exact .inl rfl

namespace Expr

/-- One form of an expression stands for all. -/
theorem SameForm.dotted_eq {e e' : Expr} (same : SameForm e e') :
    e.respell Spelling.dotted = e'.respell Spelling.dotted := by
  induction same with
  | refl => rfl
  | symm _ ih => exact ih.symm
  | trans _ _ first second => exact first.trans second
  | key | string => rfl
  | access _ _ left right => rw [respell, respell, left, right]
  | member _ _ left => rw [respell, respell, left]
  | existence _ ih => rw [respell, respell, ih]
  | binary _ _ _ left right => rw [respell, respell, left, right]
  | receiver _ _ _ ih => rw [respell, respell, ih]
  | argument _ _ _ _ _ ih =>
    rw [respell, respell, respellItems_append, respellItems_append, respellItems, respellItems, ih]
  | lambda _ _ ih => rw [respell, respell, ih]
  | pair _ _ _ _ ih =>
    rw [respell, respell, respellPairs_append, respellPairs_append, respellPairs, respellPairs, ih]
  | item _ _ _ ih =>
    rw [respell, respell, respellItems_append, respellItems_append, respellItems, respellItems, ih]

theorem compile_of_sameForm {e e' : Expr} (same : SameForm e e') (strict : Bool) :
    SameOutcome (e.compile strict) (e'.compile strict) := by
  have left : SameOutcome ((e.respell Spelling.dotted).compile strict) (e.compile strict) :=
    Spelling.dotted_faithful.sameOutcome e strict
  have right : SameOutcome ((e'.respell Spelling.dotted).compile strict) (e'.compile strict) :=
    Spelling.dotted_faithful.sameOutcome e' strict
  rw [← same.dotted_eq] at right
  exact left.symm.trans right

/-- `$.where(@p => first > 3).set(second, third + 1)`. -/
def restock (first second third : Expr) : Expr :=
  call (call root "where" [lambda "p" (binary (.comparison .greater) first (integer 3))]) "set"
    [second, binary (.arithmetic .add) third (integer 1)]

theorem compile_of_sameForm_restock :
    let behindDot := member (binding "p") "stock"
    let bare := access (binding "p") (key "stock")
    let quoted := access (binding "p") (string "stock")
    SameForm (restock behindDot behindDot behindDot) (restock bare quoted behindDot) ∧
      SameOutcome ((restock behindDot behindDot behindDot).compile true)
        ((restock bare quoted behindDot).compile true) := by
  intro behindDot bare quoted
  have filtered : SameForm (restock behindDot behindDot behindDot) (restock bare behindDot behindDot) := by
    apply SameForm.receiver
    apply SameForm.argument root "where" [] []
    apply SameForm.lambda
    exact .binary _ (.key _ "stock") (.refl _)
  have set : SameForm (restock bare behindDot behindDot) (restock bare quoted behindDot) := by
    apply SameForm.argument _ "set" [] [_]
    exact .string _ "stock"
  have same := filtered.trans set
  exact ⟨same, compile_of_sameForm same true⟩

end Expr

/-! ### Names of bindings -/

/-- Other names for the bindings and the parameters, at once. -/
def Spelling.renaming (r : String → String) : Spelling where
  name := r
  access := .access

namespace Expr

def rename (r : String → String) (e : Expr) : Expr :=
  e.respell (.renaming r)

theorem compile_rename {r : String → String} (injective : Function.Injective r) (e : Expr) (strict : Bool) :
    SameOutcome ((e.rename r).compile strict) (e.compile strict) := by
  have faithful : (Spelling.renaming r).Faithful := ⟨injective, fun _ _ => .inl rfl⟩
  exact faithful.sameOutcome e strict

/-- `$.pull(@p.items, @e => @e.stock < 2)`. -/
def clearOut : Expr :=
  call root "pull"
    [member (binding "p") "items",
      lambda "e" (binary (.comparison .less) (member (binding "e") "stock") (integer 2))]

theorem compile_rename_clearOut :
    Function.Injective ("row" ++ ·) ∧
      SameOutcome ((clearOut.rename ("row" ++ ·)).compile true) (clearOut.compile true) := by
  have injective : Function.Injective ("row" ++ ·) := by
    intro a b same
    exact String.append_right_inj _ |>.mp same
  exact ⟨injective, compile_rename injective clearOut true⟩

end Expr

end DocChain
