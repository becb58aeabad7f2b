import DocChain.Proofs.Draft

/-!
# Spellings of an expression

An expression can name its bindings otherwise and write its field accesses in another form. The same paths,
constants and clauses come out of it, so it compiles to the same, or fails for the same cause over nodes that
are spelled as the expression is.
-/

namespace DocChain

/-- How bindings are named, and how an access is written. -/
structure Spelling where
  name : String → String
  access : Expr → Expr → Expr

/-- Whether a spelling keeps bindings apart, and writes an access as it is or the access of a field behind a dot. -/
structure Spelling.Faithful (s : Spelling) : Prop where
  injective : Function.Injective s.name
  access_eq : ∀ base index, s.access base index = .access base index ∨
    ∃ field, (index = .key field ∨ index = .string field) ∧ s.access base index = .member base field

namespace Expr

mutual

def respell (s : Spelling) : Expr → Expr
  | binding name => binding (s.name name)
  | access base index => s.access (respell s base) (respell s index)
  | member base field => member (respell s base) field
  | existence inner => existence (respell s inner)
  | binary op left right => binary op (respell s left) (respell s right)
  | call receiver method args => call (respell s receiver) method (respellItems s args)
  | lambda param body => lambda (s.name param) (respell s body)
  | object pairs => object (respellPairs s pairs)
  | array items => array (respellItems s items)
  | e => e

def respellItems (s : Spelling) : List Expr → List Expr
  | [] => []
  | e :: es => respell s e :: respellItems s es

def respellPairs (s : Spelling) : List (String × Expr) → List (String × Expr)
  | [] => []
  | (name, e) :: ps => (name, respell s e) :: respellPairs s ps

end

theorem respellItems_append (s : Spelling) (before after : List Expr) :
    respellItems s (before ++ after) = respellItems s before ++ respellItems s after := by
  induction before with
  | nil => rfl
  | cons e before ih => rw [List.cons_append, respellItems, respellItems, ih, List.cons_append]

theorem respellPairs_append (s : Spelling) (before after : List (String × Expr)) :
    respellPairs s (before ++ after) = respellPairs s before ++ respellPairs s after := by
  induction before with
  | nil => rfl
  | cons pair before ih => rw [List.cons_append, respellPairs, respellPairs, ih, List.cons_append]

end Expr

section
variable {s : Spelling} (faithful : s.Faithful)
include faithful

namespace Expr

-- An access is the one node that can come out as another one, so the lemmas below split on it.
theorem respell_access (base index : Expr) :
    (access base index).respell s = access (base.respell s) (index.respell s) ∨
      ∃ field, (access base index).respell s = member (base.respell s) field := by
  rcases faithful.access_eq (base.respell s) (index.respell s) with written | ⟨field, _, written⟩
  · exact .inl (by rw [respell, written])
  · exact .inr ⟨field, by rw [respell, written]⟩

/-! ### Paths -/

theorem keySegment?_respell (index : Expr) : (index.respell s).keySegment? = index.keySegment? := by
  cases index with
  | access base index =>
    rcases respell_access faithful base index with written | ⟨_, written⟩ <;> rw [written] <;> rfl
  | _ => rfl

theorem accessChain?_respell : (e : Expr) →
    (e.respell s).accessChain? = e.accessChain?.map fun found => (s.name found.1, found.2)
  | binding _ => rfl
  | member base field => by
    simp only [respell, accessChain?, accessChain?_respell base]
    cases base.accessChain? <;> rfl
  | access base index => by
    have segment := keySegment?_respell faithful index
    have written : (s.access (base.respell s) (index.respell s)).accessChain? =
        (access (base.respell s) (index.respell s)).accessChain? := by
      rcases faithful.access_eq (base.respell s) (index.respell s) with written | ⟨field, named, written⟩
      · rw [written]
      · rw [written]
        rcases named with named | named <;> rw [named] <;> rfl
    rw [respell, written]
    simp only [accessChain?, accessChain?_respell base, segment]
    cases base.accessChain? with
    | none => rfl
    | some found => cases index.keySegment? <;> rfl
  | float _ | integer _ | string _ | boolean _ | null | absent | root | collection _ | key _ => rfl
  | existence _ | binary .. | call .. | lambda .. | object _ | array _ => rfl

theorem accessPath?_respell (e : Expr) :
    (e.respell s).accessPath? = e.accessPath?.map fun found => (s.name found.1, found.2) := by
  simp only [accessPath?, accessChain?_respell faithful]
  cases e.accessChain? with
  | none => rfl
  | some found => by_cases empty : found.2 = [] <;> simp [empty]

theorem pathOn?_respell (e : Expr) (binding : String) : (e.respell s).pathOn? (s.name binding) = e.pathOn? binding := by
  simp only [pathOn?, accessPath?_respell faithful]
  cases e.accessPath? with
  | none => rfl
  | some found => simp [faithful.injective.eq_iff]


theorem mentions_access (name : String) (base index : Expr) :
    (s.access base index).mentions name = (access base index).mentions name := by
  rcases faithful.access_eq base index with written | ⟨field, named, written⟩
  · rw [written]
  · rw [written]
    rcases named with rfl | rfl <;> simp only [mentions, Bool.or_false]

theorem name_eq (a b : String) : decide (s.name a = s.name b) = decide (a = b) := by
  simp only [faithful.injective.eq_iff]

set_option linter.unusedSectionVars false in
mutual

theorem mentions_respell (name : String) :
    (e : Expr) → (e.respell s).mentions (s.name name) = e.mentions name
  | binding other => name_eq faithful other name
  | access base index => by
    rw [respell, mentions_access faithful, mentions, mentions, mentions_respell name base, mentions_respell name index]
  | member base _ => mentions_respell name base
  | existence inner => mentions_respell name inner
  | binary _ left right => by
    simp only [respell, mentions, mentions_respell name left, mentions_respell name right]
  | call receiver _ args => by
    simp only [respell, mentions, mentions_respell name receiver, mentionsItems_respell name args]
  | lambda param body => by
    simp only [respell, mentions, mentions_respell name body, ne_eq, faithful.injective.eq_iff]
  | object pairs => mentionsPairs_respell name pairs
  | array items => mentionsItems_respell name items
  | float _ | integer _ | string _ | boolean _ | null | absent | root | collection _ | key _ => rfl

theorem mentionsItems_respell (name : String) :
    (es : List Expr) → mentionsItems (s.name name) (respellItems s es) = mentionsItems name es
  | [] => rfl
  | e :: es => by
    simp only [respellItems, mentionsItems, mentions_respell name e, mentionsItems_respell name es]

theorem mentionsPairs_respell (name : String) :
    (ps : List (String × Expr)) → mentionsPairs (s.name name) (respellPairs s ps) = mentionsPairs name ps
  | [] => rfl
  | (_, e) :: ps => by
    simp only [respellPairs, mentionsPairs, mentions_respell name e, mentionsPairs_respell name ps]

end

theorem target_respell (e : Expr) :
    (e.respell s).target = (e.target.map fun found => (s.name found.1, found.2)).mapError (respell s) := by
  cases e with
  | lambda param body =>
    simp only [respell, target, accessPath?_respell faithful]
    cases body.accessPath? with
    | none => rfl
    | some found =>
      by_cases same : found.1 = param <;>
        simp [same, faithful.injective.eq_iff, respell, Except.map]
  | access base index =>
    have path := accessPath?_respell faithful (access base index)
    rcases respell_access faithful base index with written | ⟨_, written⟩ <;>
    · rw [written] at path ⊢
      simp only [target, path]
      cases (access base index).accessPath? <;> simp [Except.map, written]
  | member base field =>
    have path := accessPath?_respell faithful (member base field)
    rw [respell] at path ⊢
    simp only [target, path]
    cases (member base field).accessPath? <;> simp [Except.map, respell]
  | _ => rfl

/-! ### Constants -/

set_option linter.unusedSectionVars false in
mutual

theorem value?_respell : (e : Expr) → (e.respell s).value? = e.value?
  | access base index => by
    rcases respell_access faithful base index with written | ⟨_, written⟩ <;> rw [written] <;> rfl
  | array items => by simp only [respell, value?, itemValues?_respell items]
  | object pairs => by simp only [respell, value?, pairValues?_respell [] pairs]
  | binary (.arithmetic op) left right => by
    simp only [respell, value?, value?_respell left, value?_respell right]
  | binary (.comparison _) _ _ | binary (.connective _) _ _ => rfl
  | float _ | integer _ | string _ | boolean _ | null | absent | root | collection _ | key _ => rfl
  | binding _ | member .. | existence _ | call .. | lambda .. => rfl

theorem itemValues?_respell : (es : List Expr) → itemValues? (respellItems s es) = itemValues? es
  | [] => rfl
  | e :: es => by simp only [respellItems, itemValues?, value?_respell e, itemValues?_respell es]

theorem pairValues?_respell (fields : Document) :
    (ps : List (String × Expr)) → pairValues? fields (respellPairs s ps) = pairValues? fields ps
  | [] => rfl
  | (name, e) :: ps => by
    simp only [respellPairs, pairValues?, value?_respell e, fun fields => pairValues?_respell fields ps]

end

theorem list?_respell (e : Expr) : (e.respell s).list? = e.list? := by
  rw [list?, list?, value?_respell faithful]

theorem amount?_respell (e : Expr) : (e.respell s).amount? = e.amount? := by
  rw [amount?, amount?, value?_respell faithful]

theorem mask?_respell (e : Expr) : (e.respell s).mask? = e.mask? := by
  rw [mask?, mask?, value?_respell faithful]

/-! ### Predicates -/

theorem fieldTest?_respell (method : String) (arg : Expr) :
    fieldTest? method (arg.respell s) = fieldTest? method arg := by
  unfold fieldTest?
  split
  · cases arg with
    | access base index =>
      rcases respell_access faithful base index with written | ⟨_, written⟩ <;> rw [written]
    | _ => rfl
  · rw [list?_respell faithful]
  · rw [list?_respell faithful]
  · rfl

theorem comparison?_respell (name : String) (c : Comparison) (left right : Expr) :
    comparison? (s.name name) c (left.respell s) (right.respell s) = comparison? name c left right := by
  simp only [comparison?, pathOn?_respell faithful, value?_respell faithful]

theorem predicate?_respell (name : String) : (e : Expr) → (e.respell s).predicate? (s.name name) = e.predicate? name
  | binary (.connective _) left right => by
    simp only [respell, predicate?, predicate?_respell name left, predicate?_respell name right]
  | binary (.comparison c) left right => comparison?_respell faithful name c left right
  | binary (.arithmetic _) _ _ => rfl
  | existence inner => by simp only [respell, predicate?, pathOn?_respell faithful]
  | call field method [arg] => by
    simp only [respell, respellItems, predicate?, pathOn?_respell faithful, fieldTest?_respell faithful]
  | call field method [] => rfl
  | call field method (_ :: _ :: _) => rfl
  | access base index => by
    have path := pathOn?_respell faithful (access base index) name
    rcases respell_access faithful base index with written | ⟨_, written⟩ <;>
    · rw [written] at path ⊢
      simp only [predicate?, path]
  | member base field => by
    have path := pathOn?_respell faithful (member base field) name
    simp only [respell] at path
    simp only [respell, predicate?, path]
  | binding other => rfl
  | float _ | integer _ | string _ | boolean _ | null | absent | root | collection _ | key _ => rfl
  | lambda .. | object _ | array _ => rfl

/-! ### Conditions on elements -/

theorem isSelf_respell (name : String) (e : Expr) : (e.respell s).isSelf (s.name name) = e.isSelf name := by
  cases e with
  | binding other => exact name_eq faithful other name
  | access base index =>
    rcases respell_access faithful base index with written | ⟨_, written⟩ <;> rw [written] <;> rfl
  | _ => rfl

theorem onElement_respell (name : String) : (e : Expr) → (e.respell s).onElement (s.name name) = e.onElement name
  | binary op left right => by
    simp only [respell, onElement, onElement_respell name left, onElement_respell name right,
      isSelf_respell faithful]
  | access base index => by
    rcases respell_access faithful base index with written | ⟨_, written⟩ <;> rw [written] <;> rfl
  | float _ | integer _ | string _ | boolean _ | null | absent | root | collection _ | key _ => rfl
  | binding _ | member .. | existence _ | call .. | lambda .. | object _ | array _ => rfl

theorem selfCondition?_respell (c : Comparison) (constant : Expr) :
    selfCondition? c (constant.respell s) = selfCondition? c constant := by
  rw [selfCondition?, selfCondition?, value?_respell faithful]

theorem elementCondition?_respell (name : String) (e : Expr) :
    (e.respell s).elementCondition? (s.name name) = e.elementCondition? name := by
  -- where the element itself is not compared, the condition is the predicate of the whole body
  have whole := predicate?_respell faithful name e
  cases e with
  | binary op left right =>
    rw [respell] at whole ⊢
    cases op with
    | connective c =>
      cases c with
      | and =>
        simp only [elementCondition?, onElement_respell faithful, elementCondition?_respell name left,
          elementCondition?_respell name right, whole]
      | or => simp only [elementCondition?, isSelf_respell faithful, whole]
    | comparison c =>
      simp only [elementCondition?, isSelf_respell faithful, selfCondition?_respell faithful, whole]
    | arithmetic op => simp only [elementCondition?, isSelf_respell faithful, whole]
  | access base index =>
    rcases respell_access faithful base index with written | ⟨_, written⟩ <;>
    · rw [written] at whole ⊢
      simp only [elementCondition?, whole]
  | member _ _ | existence _ | call _ _ _ =>
    rw [respell] at whole ⊢
    simp only [elementCondition?, whole]
  | _ => rfl

/-! ### Clauses -/

theorem stepBeside?_respell (name : String) (path : FieldPath) (field constant : Expr) :
    (field.respell s).stepBeside? (s.name name) path (constant.respell s) =
      field.stepBeside? name path constant := by
  rw [stepBeside?, stepBeside?, pathOn?_respell faithful, amount?_respell faithful]

theorem assignment?_respell (name : String) (path : FieldPath) (e : Expr) :
    (e.respell s).assignment? (s.name name) path = e.assignment? name path := by
  rw [assignment?, assignment?, mentions_respell faithful, value?_respell faithful]

theorem setClause?_respell (name : String) (path : FieldPath) (e : Expr) :
    (e.respell s).setClause? (s.name name) path = e.setClause? name path := by
  -- a value that is no step of the field is assigned
  have assigned := assignment?_respell faithful name path e
  cases e with
  | binary op left right =>
    rw [respell] at assigned ⊢
    cases op with
    | arithmetic op => cases op <;> simp only [setClause?, stepBeside?_respell faithful, assigned]
    | comparison _ | connective _ => simp only [setClause?, assigned]
  | access base index =>
    rcases respell_access faithful base index with written | ⟨_, written⟩ <;>
    · rw [written] at assigned ⊢
      simp only [setClause?, assigned]
  | absent => rfl
  | _ => exact assigned

theorem pulled?_respell (e : Expr) : (e.respell s).pulled? = e.pulled? := by
  have constant := value?_respell faithful e
  cases e with
  | lambda param body => simp only [respell, pulled?, elementCondition?_respell faithful]
  | access base index =>
    rcases respell_access faithful base index with written | ⟨_, written⟩ <;>
    · rw [written] at constant ⊢
      simp only [pulled?, constant]
  | _ => exact constant

end Expr

theorem Operation.clause?_respell (op : Operation) (name : String) (path : Option FieldPath) (e : Expr) :
    op.clause? (s.name name) path (e.respell s) = op.clause? name path e := by
  cases path with
  | none => simp only [clause?, Expr.predicate?_respell faithful]
  | some path =>
    cases op <;>
      simp only [clause?, fieldClause?, Expr.predicate?_respell faithful, Expr.setClause?_respell faithful,
        Expr.value?_respell faithful, Expr.list?_respell faithful, Expr.amount?_respell faithful,
        Expr.mask?_respell faithful, Expr.pulled?_respell faithful]

end

end DocChain
