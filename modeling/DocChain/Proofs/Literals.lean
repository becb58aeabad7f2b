import DocChain.Clause.Mutation
import DocChain.Proofs.FieldOrder

/-!
# Literals that spell operators

A literal is written into its clause as it is. What an operator writes is a document as well, and a
literal can be that document: then, and only then, the two clauses are the same.
-/

namespace DocChain

namespace Expr

/-! ### Conditions on an element -/

theorem isSelf_eq_true {name : String} {e : Expr} : e.isSelf name = true ↔ e = binding name := by
  cases e <;> simp [isSelf]

@[simp] theorem pathOn?_binding (name other : String) : (binding name).pathOn? other = none := by
  simp [pathOn?, accessPath?, accessChain?]

/-- What a body tests the element itself for: a document of comparisons, each operator once. -/
inductive ElementTests (name : String) : Expr → Document → Prop where
  | left {c : Comparison} {constant : Expr} {value : Wire} (encodes : constant.value? = some value) :
    ElementTests name (binary (.comparison c) (binding name) constant) [(c.operator?.getD "$eq", value)]
  | right {c : Comparison} {constant : Expr} {value : Wire} (encodes : constant.value? = some value) :
    ElementTests name (binary (.comparison c) constant (binding name)) [(c.flipped.operator?.getD "$eq", value)]
  | both {left right : Expr} {first second : Document} (before : ElementTests name left first)
    (behind : ElementTests name right second) (disjoint : ∀ key ∈ second.keys, key ∉ first.keys) :
    ElementTests name (binary (.connective .and) left right) (first ++ second)

namespace ElementTests

variable {name : String} {e : Expr} {tests : Document}

theorem distinct (element : ElementTests name e tests) : tests.keys.Nodup := by
  induction element with
  | left | right => simp [Fields.keys]
  | both _ _ disjoint before behind =>
    rw [Fields.keys, List.map_append, List.nodup_append]
    refine ⟨before, behind, ?_⟩
    rintro key early _ late rfl
    exact disjoint key late early

theorem operators (element : ElementTests name e tests) :
    ∀ key ∈ tests.keys, ∃ c : Comparison, key = c.operator?.getD "$eq" := by
  induction element with
  | left | right =>
    intro key member
    exact ⟨_, List.mem_singleton.mp member⟩
  | both _ _ _ before behind =>
    intro key member
    rw [Fields.keys, List.map_append] at member
    rcases List.mem_append.mp member with early | late
    · exact before key early
    · exact behind key late

theorem onElement (element : ElementTests name e tests) : e.onElement name = true := by
  induction element with
  | left | right => simp [Expr.onElement, isSelf]
  | both _ _ _ before behind => simp [Expr.onElement, before, behind]

end ElementTests

/-- The element itself is no field, so what compares it is no predicate. -/
theorem predicate?_of_self {name : String} {op : BinaryOp} {left right : Expr}
    (self : (left.isSelf name || right.isSelf name) = true) : (binary op left right).predicate? name = none := by
  simp only [Bool.or_eq_true, isSelf_eq_true] at self
  cases op with
  | arithmetic => rfl
  | connective c => rcases self with rfl | rfl <;> simp [predicate?]
  | comparison c =>
    rcases self with rfl | rfl
    · simp [predicate?, comparison?, value?]
    · cases path : left.pathOn? name <;> simp [predicate?, comparison?, path, value?]

theorem predicate?_of_onElement {name : String} {e : Expr} (element : e.onElement name = true) :
    e.predicate? name = none := by
  induction e using onElement.induct with
  | case1 left right first _ =>
    simp only [onElement, if_true, Bool.and_eq_true] at element
    simp [predicate?, first element.1]
  | case2 op left right other =>
    rw [onElement, if_neg other] at element
    exact predicate?_of_self element
  | case3 e other => simp [onElement] at element

theorem elementCondition?_of_not_onElement {name : String} {e : Expr} (fields : e.onElement name = false) :
    e.elementCondition? name = (e.predicate? name).map Clause.document := by
  have document (found : Option Clause) : (do return (← found).document) = found.map Clause.document := by
    cases found <;> rfl
  cases e with
  | binary op left right =>
    by_cases both : op = .connective .and
    · subst both
      simp only [onElement, if_true, Bool.and_eq_false_iff] at fields
      -- With one side on the element and one on its fields, neither a condition nor a clause is there.
      cases first : left.onElement name with
      | false =>
        cases second : right.onElement name with
        | false => simp only [elementCondition?, first, second, document]
        | true =>
          simp [elementCondition?, first, second, predicate?, predicate?_of_onElement second]
      | true =>
        have second : right.onElement name = false := by simpa [first] using fields
        simp [elementCondition?, first, second, predicate?, predicate?_of_onElement first]
    · rw [onElement, if_neg both, Bool.or_eq_false_iff] at fields
      cases op with
      | comparison c => simp only [elementCondition?, fields.1, fields.2, Bool.false_eq_true, if_false, document]
      | arithmetic =>
        simp only [elementCondition?, fields.1, fields.2, Bool.or_self, Bool.false_eq_true, if_false, document]
      | connective c =>
        cases c with
        | and => exact absurd rfl both
        | or =>
          simp only [elementCondition?, fields.1, fields.2, Bool.or_self, Bool.false_eq_true, if_false, document]
  | _ => simp only [elementCondition?, document]

theorem selfCondition?_eq_some_iff {c : Comparison} {constant : Expr} {condition : Document} :
    selfCondition? c constant = some condition ↔
      ∃ value, constant.value? = some value ∧ [(c.operator?.getD "$eq", value)] = condition := by
  simp [selfCondition?, Option.bind_eq_some_iff]

theorem joinConditions?_eq_some_iff {first second condition : Document} (distinct : second.keys.Nodup) :
    joinConditions? first second = some condition ↔
      (∀ key ∈ second.keys, key ∉ first.keys) ∧ first ++ second = condition := by
  have shared : second.keys.any first.contains = true ↔ ¬ ∀ key ∈ second.keys, key ∉ first.keys := by
    simp [Fields.contains, Option.isSome_iff_ne_none, Fields.get?_eq_none_iff]
  unfold joinConditions?
  simp only [shared]
  by_cases disjoint : ∀ key ∈ second.keys, key ∉ first.keys
  · rw [if_neg (not_not_intro disjoint), Fields.insertAll_of_disjoint distinct disjoint, Option.some.injEq]
    exact ⟨fun same => ⟨disjoint, same⟩, fun joined => joined.2⟩
  · rw [if_pos disjoint]
    exact ⟨fun found => (nomatch found), fun joined => absurd joined.1 disjoint⟩

theorem elementCondition?_of_onElement {name : String} {e : Expr} {condition : Document}
    (element : e.onElement name = true) :
    e.elementCondition? name = some condition ↔ ElementTests name e condition := by
  induction e using onElement.induct generalizing condition with
  | case1 left right first second =>
    simp only [onElement, if_true, Bool.and_eq_true] at element
    simp only [elementCondition?, element.1, element.2, Option.bind_eq_bind, Option.bind_eq_some_iff,
      first element.1, second element.2]
    constructor
    · rintro ⟨before, early, behind, late, joined⟩
      obtain ⟨disjoint, rfl⟩ := (joinConditions?_eq_some_iff late.distinct).mp joined
      exact .both early late disjoint
    · intro tests
      cases tests with
      | both early late disjoint =>
        exact ⟨_, early, _, late, (joinConditions?_eq_some_iff late.distinct).mpr ⟨disjoint, rfl⟩⟩
  | case2 op left right other =>
    rw [onElement, if_neg other, Bool.or_eq_true] at element
    cases op with
    | comparison c =>
      cases self : left.isSelf name with
      | true =>
        simp only [elementCondition?, self, if_true, selfCondition?_eq_some_iff]
        obtain rfl := isSelf_eq_true.mp self
        constructor
        · rintro ⟨value, encodes, rfl⟩
          exact .left encodes
        · intro tests
          cases tests with
          | left encodes => exact ⟨_, encodes, rfl⟩
          | right encodes => simp [value?] at encodes
      | false =>
        have other : right.isSelf name = true := by simpa [self] using element
        simp only [elementCondition?, self, other, Bool.false_eq_true, if_false, if_true,
          selfCondition?_eq_some_iff]
        obtain rfl := isSelf_eq_true.mp other
        constructor
        · rintro ⟨value, encodes, rfl⟩
          exact .right encodes
        · intro tests
          cases tests with
          | left encodes => simp [value?] at encodes
          | right encodes => exact ⟨_, encodes, rfl⟩
    | arithmetic =>
      simp only [elementCondition?, Bool.or_eq_true, element, if_true, reduceCtorEq, false_iff]
      intro tests
      cases tests
    | connective c =>
      cases c with
      | and => exact absurd rfl other
      | or =>
        simp only [elementCondition?, Bool.or_eq_true, element, if_true, reduceCtorEq, false_iff]
        intro tests
        cases tests
  | case3 e other => simp [onElement] at element

/-- A condition tests the element itself, or it is the clause of a predicate over its fields. -/
theorem elementCondition?_eq_some_iff {name : String} {e : Expr} {condition : Document} :
    e.elementCondition? name = some condition ↔
      ElementTests name e condition ∨ ∃ c, e.predicate? name = some c ∧ c.document = condition := by
  cases element : e.onElement name with
  | true =>
    rw [elementCondition?_of_onElement element, predicate?_of_onElement element]
    simp
  | false =>
    rw [elementCondition?_of_not_onElement element, Option.map_eq_some_iff]
    constructor
    · exact .inr
    · rintro (tests | clause)
      · rw [tests.onElement] at element
        cases element
      · exact clause

theorem elementCondition?_keys {name : String} {e : Expr} {condition : Document}
    (found : e.elementCondition? name = some condition) :
    condition.length = 1 ∨
      condition.keys.Nodup ∧ ∀ key ∈ condition.keys, ∃ c : Comparison, key = c.operator?.getD "$eq" := by
  rcases elementCondition?_eq_some_iff.mp found with tests | ⟨c, _, rfl⟩
  · exact .inr ⟨tests.distinct, tests.operators⟩
  · exact .inl rfl

end Expr

/-! ### Literals and the operators of a field -/

theorem Comparison.condition_eq_iff {c : Comparison} {operand condition : Wire} (unequal : c ≠ .equal) :
    c.condition operand = condition ↔
      ∃ operator, c.operator? = some operator ∧ condition = .single operator operand := by
  cases c with
  | equal => exact absurd rfl unequal
  | _ => simp [Comparison.condition, operator?, eq_comm (a := condition)]

namespace Expr

section

variable {name : String} {field v w : Expr} {path : FieldPath} {a b : Wire}

theorem predicate?_comparison (resolves : field.pathOn? name = some path) (encodes : w.value? = some b)
    (c : Comparison) :
    (binary (.comparison c) field w).predicate? name = some ⟨path.dotted, c.condition b⟩ := by
  simp [predicate?, comparison?, resolves, encodes]

theorem predicate?_fieldTest (resolves : field.pathOn? name = some path) (method : String) (arg : Expr) :
    (call field method [arg]).predicate? name = (fieldTest? method arg).map (⟨path.dotted, ·⟩) := by
  cases found : fieldTest? method arg <;> simp [predicate?, resolves, found]

theorem fieldTest?_matches {arg : Expr} {condition : Wire} :
    fieldTest? "matches" arg = some condition ↔
      ∃ pattern, arg = .string pattern ∧ Pattern.isValid pattern = true ∧
        condition = .single "$regex" (.string pattern) := by
  cases arg with
  | string pattern => simp [fieldTest?, eq_comm (a := condition)]
  | _ => simp [fieldTest?]

theorem list?_of_value? (encodes : w.value? = some b) : w.list? = if b.isArray then some b else none := by
  simp [list?, encodes]

theorem fieldTest?_in {condition : Wire} (encodes : w.value? = some b) :
    (fieldTest? "in" w = some condition ↔ b.isArray = true ∧ condition = .single "$in" b) ∧
      (fieldTest? "not_in" w = some condition ↔ b.isArray = true ∧ condition = .single "$nin" b) := by
  simp only [fieldTest?, list?_of_value? encodes]
  cases b.isArray <;> simp [eq_comm (a := condition)]

end

end Expr

section

open Operation

variable {name : String} {path : FieldPath} {v : Expr} {a : Wire}

/-- The clause for one element is the clause for a list of them exactly if it spells `$each`. -/
theorem each_eq_element_iff (encodes : v.value? = some a) (items : Expr) :
    (pushEach.clause? name (some path) items = push.clause? name (some path) v ↔
        ∃ list, items.list? = some list ∧ a = .single "$each" list) ∧
      (addToSetEach.clause? name (some path) items = addToSet.clause? name (some path) v ↔
        ∃ list, items.list? = some list ∧ a = .single "$each" list) := by
  simp only [clause?, fieldClause?, encodes]
  cases items.list? <;> simp [Clause.update_inj, eq_comm (a := a)]

theorem lambda_eq_element_iff (encodes : v.value? = some a) (param : String) (body : Expr) :
    pull.clause? name (some path) (.lambda param body) = pull.clause? name (some path) v ↔
      ∃ condition, body.elementCondition? param = some condition ∧ a = .object condition := by
  have plain : v.pulled? = some a := by
    cases v with
    | lambda => cases encodes
    | _ => exact encodes
  simp only [clause?, fieldClause?, plain]
  cases found : body.elementCondition? param <;> simp [Expr.pulled?, found, Clause.update_inj, eq_comm (a := a)]

end

/-- A literal is written as it is, so its operation reads as another one exactly if the literal spells
what the other one writes. -/
theorem literal_reads_as_operator_iff {name : String} {field v w : Expr} {path : FieldPath} {a b : Wire}
    (resolves : field.pathOn? name = some path) (encodes : v.value? = some a) (other : w.value? = some b) :
    let equality := (Expr.binary (.comparison .equal) field v).predicate? name
    let clause (op : Operation) (operand : Expr) := op.clause? name (some path) operand
    (∀ c ≠ Comparison.equal, (Expr.binary (.comparison c) field w).predicate? name = equality ↔
        ∃ operator, c.operator? = some operator ∧ a = .single operator b) ∧
      ((Expr.existence field).predicate? name = equality ↔ a = .single "$exists" (.bool true)) ∧
      (∀ arg, (Expr.call field "matches" [arg]).predicate? name = equality ↔
        ∃ pattern, arg = .string pattern ∧ Pattern.isValid pattern = true ∧
          a = .single "$regex" (.string pattern)) ∧
      ((Expr.call field "in" [w]).predicate? name = equality ↔ b.isArray = true ∧ a = .single "$in" b) ∧
      ((Expr.call field "not_in" [w]).predicate? name = equality ↔ b.isArray = true ∧ a = .single "$nin" b) ∧
      (∀ items, clause .pushEach items = clause .push v ↔
        ∃ list, items.list? = some list ∧ a = .single "$each" list) ∧
      (∀ items, clause .addToSetEach items = clause .addToSet v ↔
        ∃ list, items.list? = some list ∧ a = .single "$each" list) ∧
      (∀ param body, clause .pull (.lambda param body) = clause .pull v ↔
        ∃ condition : Document, a = .object condition ∧ (Expr.ElementTests param body condition ∨
          ∃ c, body.predicate? param = some c ∧ c.document = condition)) ∧
      ∀ param body, clause .pull (.lambda param body) = clause .pull v →
        ∃ condition : Document, a = .object condition ∧ (condition.length = 1 ∨
          condition.keys.Nodup ∧ ∀ key ∈ condition.keys, ∃ c : Comparison, key = c.operator?.getD "$eq") := by
  intro equality clause
  have equal : equality = some ⟨path.dotted, a⟩ := Expr.predicate?_comparison resolves encodes .equal
  refine ⟨fun c unequal => ?_, ?_, fun arg => ?_, ?_, ?_, fun items => (each_eq_element_iff encodes items).1,
    fun items => (each_eq_element_iff encodes items).2, fun param body => ?_, fun param body same => ?_⟩
  · rw [equal, Expr.predicate?_comparison resolves other, ← Comparison.condition_eq_iff unequal]
    simp
  · rw [equal]
    simp [Expr.predicate?, resolves, eq_comm (a := a)]
  · rw [equal, Expr.predicate?_fieldTest resolves, ← Expr.fieldTest?_matches]
    simp
  · rw [equal, Expr.predicate?_fieldTest resolves, ← (Expr.fieldTest?_in other).1]
    simp
  · rw [equal, Expr.predicate?_fieldTest resolves, ← (Expr.fieldTest?_in other).2]
    simp
  · rw [lambda_eq_element_iff encodes]
    simp only [Expr.elementCondition?_eq_some_iff, and_comm]
  · obtain ⟨condition, found, rfl⟩ := (lambda_eq_element_iff encodes param body).mp same
    exact ⟨condition, rfl, Expr.elementCondition?_keys found⟩

/-- The literal `{"$gt": n}`. -/
def greaterLiteral (n : Int64) : Expr :=
  .object [("$gt", .integer n)]

/-- A comparison of the element with a number. -/
def elementTest (c : Comparison) (n : Int64) : Expr :=
  .lambda "e" (.binary (.comparison c) (.binding "e") (.integer n))

theorem operator_literals_collide :
    let field := Expr.member (.binding "p") "f"
    let path : FieldPath := ⟨[.field "f"], by simp⟩
    let clause (op : Operation) (operand : Expr) := op.clause? "p" (some path) operand
    let each : Expr := .object [("$each", .array [.integer 1])]
    let eachOne : Wire := .single "$each" (.array [.int 1])
    (Expr.binary (.comparison .equal) field (greaterLiteral 1)).predicate? "p" =
        some ⟨"f", .single "$gt" (.int 1)⟩ ∧
      (Expr.binary (.comparison .greater) field (.integer 1)).predicate? "p" =
        some ⟨"f", .single "$gt" (.int 1)⟩ ∧
      clause .push each = some (.update "$push" path eachOne) ∧
      clause .pushEach (.array [.integer 1]) = some (.update "$push" path eachOne) ∧
      clause .addToSet each = some (.update "$addToSet" path eachOne) ∧
      clause .addToSetEach (.array [.integer 1]) = some (.update "$addToSet" path eachOne) ∧
      clause .pull (greaterLiteral 1) = some (.update "$pull" path (.single "$gt" (.int 1))) ∧
      clause .pull (elementTest .greater 1) = some (.update "$pull" path (.single "$gt" (.int 1))) :=
  ⟨rfl, rfl, rfl, rfl, rfl, rfl, rfl, rfl⟩

theorem greaterLiteral_reads_as_greater :
    let field := Expr.member (.binding "p") "f"
    let path : FieldPath := ⟨[.field "f"], by simp⟩
    let test (c : Comparison) (operand : Expr) := (Expr.binary (.comparison c) field operand).predicate? "p"
    let clause (op : Operation) (operand : Expr) := op.clause? "p" (some path) operand
    field.pathOn? "p" = some path ∧ (greaterLiteral 1).value? = some (.single "$gt" (.int 1)) ∧
      test .greater (.integer 1) = test .equal (greaterLiteral 1) ∧
      test .less (.integer 1) ≠ test .equal (greaterLiteral 1) ∧
      (∀ items, clause .pushEach items ≠ clause .push (greaterLiteral 1)) ∧
      clause .pull (elementTest .greater 1) = clause .pull (greaterLiteral 1) := by
  intro field path test clause
  have resolves : field.pathOn? "p" = some path := rfl
  have encodes : (greaterLiteral 1).value? = some (.single "$gt" (.int 1)) := rfl
  obtain ⟨tests, _, _, _, _, push, _, pull, _⟩ :=
    literal_reads_as_operator_iff (w := .integer 1) resolves encodes rfl
  refine ⟨resolves, encodes, (tests .greater (by decide)).mpr ⟨_, rfl, rfl⟩, fun same => ?_,
    fun items same => ?_, (pull "e" _).mpr ⟨_, rfl, .inl (.left rfl)⟩⟩
  · obtain ⟨operator, written, spelled⟩ := (tests .less (by decide)).mp same
    cases written
    simp [Wire.single] at spelled
  · obtain ⟨list, _, spelled⟩ := (push items).mp same
    simp [Wire.single] at spelled

end DocChain
