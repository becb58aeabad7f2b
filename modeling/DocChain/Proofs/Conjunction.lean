import DocChain.Proofs.Calls
import DocChain.Proofs.Meaning

/-!
# The query of a chain is the conjunction of its where bodies

Adding a clause to a query makes it say what it said before and what the clause says.
-/

namespace DocChain

namespace Query

mutual

/-- Whether a clause can be added: at every depth a document of operators holds one operator, and
under `$and` there is a list of documents. -/
def isAddable (key : String) : Wire → Bool
  | .array operands => key ≠ "$and" || areAddable operands
  | .object fields => key ≠ "$and" && (!isOperators fields || fields.length = 1)
  | _ => key ≠ "$and"

def areAddable : List Wire → Bool
  | [] => true
  | .object fields :: rest => fieldsAddable fields && areAddable rest
  | _ :: _ => false

def fieldsAddable : List (String × Wire) → Bool
  | [] => true
  | (key, value) :: rest => isAddable key value && fieldsAddable rest

end

theorem isOperators_iff {fields : Document} :
    isOperators fields = true ↔ Fields.keys fields ≠ [] ∧ ∀ key ∈ Fields.keys fields, isOperator key = true := by
  cases fields <;> simp [isOperators, Fields.keys]

theorem isOperators_insert {operators : Document} {operator : String} {operand : Wire}
    (named : isOperators operators = true) (name : isOperator operator = true) :
    isOperators (Fields.insert operators operator operand) = true := by
  rw [isOperators_iff] at named ⊢
  obtain ⟨some, all⟩ := named
  rw [Fields.keys_insert]
  split
  · exact ⟨some, all⟩
  · refine ⟨by simp, fun key member => ?_⟩
    rcases List.mem_append.mp member with old | new
    · exact all key old
    · obtain rfl := List.mem_singleton.mp new
      exact name

/-- The invariant of a query: what stands under `$and` is a list. -/
def Grouped (query : Document) : Prop :=
  ∀ value, query.get? "$and" = some value → ∃ conditions, value = .array conditions

theorem Grouped.insert_other {query : Document} {key : String} {value : Wire} (grouped : Grouped query)
    (other : key ≠ "$and") : Grouped (query.insert key value) := by
  intro found read
  rw [Fields.get?_insert_of_ne _ _ other] at read
  exact grouped found read

theorem Grouped.insert_and {query : Document} (conditions : List Wire) :
    Grouped (query.insert "$and" (.array conditions)) := by
  intro found read
  rw [Fields.get?_insert_self] at read
  exact ⟨conditions, (Option.some.inj read).symm⟩

end Query

section
variable {Row Value : Type} (I : Interpretation Row Value) (row : Row)

namespace Interpretation

theorem holds_insert_new {query : Document} {key : String} {value : Wire} (new : query.get? key = none) :
    I.holds row (query.insert key value) = (I.holds row query && I.holdsEntry row key value) := by
  induction query with
  | nil => simp [Fields.insert]
  | cons entry rest ih =>
    obtain ⟨name, old⟩ := entry
    by_cases same : name = key
    · simp [Fields.get?, same] at new
    · simp only [Fields.get?, same, if_false] at new
      simp [Fields.insert, same, ih new, Bool.and_assoc]

/-- Writing over an entry that said less adds what is new. -/
theorem holds_insert_old {query : Document} {key : String} {old value : Wire} {more : Bool}
    (found : query.get? key = some old)
    (adds : I.holdsEntry row key value = (I.holdsEntry row key old && more)) :
    I.holds row (query.insert key value) = (I.holds row query && more) := by
  induction query with
  | nil => cases found
  | cons entry rest ih =>
    obtain ⟨name, first⟩ := entry
    by_cases same : name = key
    · subst same
      simp only [Fields.get?, if_true, Option.some.injEq] at found
      subst found
      simp only [Fields.insert, if_true, holds_cons, adds]
      cases I.holdsEntry row name first <;> cases I.holds row rest <;> simp
    · simp only [Fields.get?, same, if_false] at found
      simp [Fields.insert, same, ih found, Bool.and_assoc]

theorem tests_insert_new (x : Value) {operators : Document} {operator : String} {operand : Wire}
    (new : Fields.get? operators operator = none) :
    I.tests x (Fields.insert operators operator operand)
      = (I.tests x operators && I.test x operator operand) := by
  induction operators with
  | nil => simp [Fields.insert, tests]
  | cons entry rest ih =>
    obtain ⟨name, old⟩ := entry
    by_cases same : name = operator
    · simp [Fields.get?, same] at new
    · simp only [Fields.get?, same, if_false] at new
      simp only [tests] at ih
      simp [Fields.insert, same, tests, ih new, Bool.and_assoc]

/-- Merged operators say what both documents say. -/
theorem holdsEntry_mergeOperators? {key : String} {old new merged : Wire}
    (addable : Query.isAddable key new = true) (merges : Query.mergeOperators? key old new = some merged) :
    I.holdsEntry row key merged = (I.holdsEntry row key old && I.holdsEntry row key new) := by
  unfold Query.mergeOperators? at merges
  split at merges
  · rename_i old new
    split at merges
    · rename_i fits
      cases merges
      simp only [Bool.and_eq_true, Bool.not_eq_true'] at fits
      obtain ⟨⟨⟨field, namedOld⟩, namedNew⟩, disjoint⟩ := fits
      -- A clause has one operator, so merging inserts it.
      simp only [Query.isAddable, namedNew, Bool.not_true, Bool.false_or, Bool.and_eq_true,
        decide_eq_true_eq] at addable
      obtain ⟨⟨operator, operand⟩, rfl⟩ := List.length_eq_one_iff.mp addable.2
      have fresh : Fields.get? old operator = none := by
        simpa [Fields.keys, Fields.contains] using disjoint
      have name : Query.isOperator operator = true := by simpa [Query.isOperators] using namedNew
      simp only [Fields.insertAll, List.foldl_cons, List.foldl_nil]
      rw [holdsEntry_operators I row (Query.isOperators_insert namedOld name),
        holdsEntry_operators I row namedOld, holdsEntry_operators I row namedNew,
        tests_insert_new I _ fresh]
      simp [tests]
    · cases merges
  · cases merges

end Interpretation

/-! ### Adding clauses -/

namespace Query

theorem conjoin_spec {query : Document} (grouped : Grouped query) (key : String) (value : Wire) :
    Grouped (conjoin query key value) ∧
      I.holds row (conjoin query key value) = (I.holds row query && I.holdsEntry row key value) := by
  have single : I.allHold row [.single key value] = I.holdsEntry row key value := by
    simp [Wire.single, Interpretation.allHold]
  unfold conjoin
  cases found : query.get? "$and" with
  | none =>
    refine ⟨Grouped.insert_and _, ?_⟩
    rw [I.holds_insert_new row found, I.holdsEntry_and, single]
  | some listed =>
    obtain ⟨conditions, rfl⟩ := grouped listed found
    refine ⟨Grouped.insert_and _, ?_⟩
    refine I.holds_insert_old row found ?_
    rw [I.holdsEntry_and, I.holdsEntry_and, I.allHold_append, single]

theorem addEntry_spec {query : Document} (grouped : Grouped query) {key : String} {value : Wire}
    (other : key ≠ "$and") (addable : isAddable key value = true) :
    Grouped (addEntry query key value) ∧
      I.holds row (addEntry query key value) = (I.holds row query && I.holdsEntry row key value) := by
  unfold addEntry
  cases found : query.get? key with
  | none => exact ⟨grouped.insert_other other, I.holds_insert_new row found⟩
  | some old =>
    cases merges : mergeOperators? key old value with
    | none => simpa only [merges] using conjoin_spec I row grouped key value
    | some merged =>
      simp only [merges]
      exact ⟨grouped.insert_other other,
        I.holds_insert_old row found (I.holdsEntry_mergeOperators? row addable merges)⟩

mutual

/-- A query with one more clause says what it said and what the clause says. -/
theorem addClause_spec {query : Document} (grouped : Grouped query) (key : String) :
    (value : Wire) → isAddable key value = true →
    Grouped (addClause query key value) ∧
      I.holds row (addClause query key value) = (I.holds row query && I.holdsEntry row key value)
  | .array operands, addable => by
    by_cases conjunction : key = "$and"
    · subst conjunction
      have listed : areAddable operands = true := by simpa [isAddable] using addable
      simpa [addClause, I.holdsEntry_and] using addOperands_spec grouped operands listed
    · simpa [addClause, conjunction] using addEntry_spec I row grouped conjunction addable
  | .null, addable | .bool _, addable | .number _, addable | .string _, addable =>
    addEntry_spec I row grouped (by simpa [isAddable] using addable) addable
  | .object fields, addable =>
    addEntry_spec I row grouped (by simp [isAddable] at addable; exact addable.1) addable

theorem addOperands_spec {query : Document} (grouped : Grouped query) :
    (operands : List Wire) → areAddable operands = true →
    Grouped (addOperands query operands) ∧
      I.holds row (addOperands query operands) = (I.holds row query && I.allHold row operands)
  | [], _ => ⟨grouped, by simp [addOperands, Interpretation.allHold]⟩
  | .object fields :: rest, addable => by
    simp only [areAddable, Bool.and_eq_true] at addable
    obtain ⟨groupedFirst, first⟩ := addFields_spec grouped fields addable.1
    obtain ⟨groupedRest, whole⟩ := addOperands_spec groupedFirst rest addable.2
    exact ⟨groupedRest, by simp [addOperands, whole, first, Interpretation.allHold, Bool.and_assoc]⟩
  | .null :: _, addable | .bool _ :: _, addable | .number _ :: _, addable | .string _ :: _, addable
  | .array _ :: _, addable => by cases addable

theorem addFields_spec {query : Document} (grouped : Grouped query) :
    (fields : List (String × Wire)) → fieldsAddable fields = true →
    Grouped (addFields query fields) ∧
      I.holds row (addFields query fields) = (I.holds row query && I.holds row fields)
  | [], _ => ⟨grouped, by simp [addFields]⟩
  | (key, value) :: rest, addable => by
    simp only [fieldsAddable, Bool.and_eq_true] at addable
    obtain ⟨groupedFirst, first⟩ := addClause_spec grouped key value addable.1
    obtain ⟨groupedRest, whole⟩ := addFields_spec groupedFirst rest addable.2
    exact ⟨groupedRest, by simp [addFields, whole, first, Bool.and_assoc]⟩

end

theorem isAddable_field {path : String} {value : Wire} (field : isOperator path = false)
    (one : ∀ fields, value = .object fields → isOperators fields = true → fields.length = 1) :
    isAddable path value = true := by
  have other : path ≠ "$and" := by rintro rfl; cases field
  cases value with
  | object fields =>
    cases named : isOperators fields with
    | false => simp [isAddable, other, named]
    | true => simp [isAddable, other, named, one fields rfl named]
  | _ => simp [isAddable, other]

end Query

/-! ### Clauses of predicates -/

namespace Clause

theorem areAddable_operands {c : Clause} (addable : Query.isAddable c.key c.value = true) :
    Query.areAddable (c.operands "$and") = true := by
  unfold operands
  split
  · rename_i nested value
    split
    · rename_i same
      simpa [value, same, Query.isAddable] using addable
    · simp [document, Query.areAddable, Query.fieldsAddable, addable]
  · simp [document, Query.areAddable, Query.fieldsAddable, addable]

theorem allHold_operands (c : Clause) :
    I.allHold row (c.operands "$and") = I.holdsEntry row c.key c.value := by
  unfold operands
  split
  · rename_i nested value
    split
    · rename_i same
      rw [value, same, I.holdsEntry_and]
    · simp [document, Interpretation.allHold]
  · simp [document, Interpretation.allHold]

theorem anyHolds_operands (c : Clause) :
    I.anyHolds row (c.operands "$or") = I.holdsEntry row c.key c.value := by
  unfold operands
  split
  · rename_i nested value
    split
    · rename_i same
      rw [value, same, I.holdsEntry_or]
    · simp [document, Interpretation.anyHolds]
  · simp [document, Interpretation.anyHolds]

/-- A clause can be added to a query, and says of a row what a plain condition says of it. -/
def Means (clause : Clause) (c : Condition) : Prop :=
  c.isPlain = true →
    Query.isAddable clause.key clause.value = true ∧
      I.holdsEntry row clause.key clause.value = c.holds I row

theorem means_test {path operator : String} {operand : Wire} {c : Condition}
    (name : Query.isOperator operator = true) (field : c.isPlain = true → Query.isOperator path = false)
    (same : I.test (I.lookup row path) operator operand = c.holds I row) :
    Means I row ⟨path, .single operator operand⟩ c := by
  intro plain
  have named : Query.isOperators [(operator, operand)] = true := by simp [Query.isOperators, name]
  constructor
  · exact Query.isAddable_field (field plain) (by rintro fields ⟨⟩ _; rfl)
  · rw [Wire.single, I.holdsEntry_operators row named, ← same]
    simp [Interpretation.tests]

theorem means_equal {path : String} {operand : Wire} :
    Means I row ⟨path, operand⟩ (.compare path .equal operand) := by
  intro plain
  obtain ⟨field, value⟩ : Query.isOperator path = false ∧ operand.isOperators = false := by
    simpa [Condition.isPlain] using plain
  constructor
  · refine Query.isAddable_field field ?_
    rintro fields rfl named
    exact absurd named (by simpa [Wire.isOperators] using value)
  · exact I.holdsEntry_equal row field value

theorem means_comparison {path : String} (c : Comparison) {operand : Wire} :
    Means I row ⟨path, c.condition operand⟩ (.compare path c operand) := by
  cases c with
  | equal => exact means_equal I row
  | _ => exact means_test I row rfl (by simp [Condition.isPlain]) rfl

theorem means_both {left right : Clause} {c d : Condition} (first : Means I row left c)
    (second : Means I row right d) :
    Means I row ⟨"$and", .array (left.operands "$and" ++ right.operands "$and")⟩ (.both c d) := by
  intro plain
  simp only [Condition.isPlain, Bool.and_eq_true] at plain
  obtain ⟨addableLeft, saysLeft⟩ := first plain.1
  obtain ⟨addableRight, saysRight⟩ := second plain.2
  have addable : ∀ {members more : List Wire}, Query.areAddable members = true →
      Query.areAddable more = true → Query.areAddable (members ++ more) = true := by
    intro members more these those
    induction members with
    | nil => exact those
    | cons member rest ih =>
      cases member with
      | object fields =>
        simp only [Query.areAddable, Bool.and_eq_true] at these
        simp [Query.areAddable, these.1, ih these.2]
      | _ => cases these
  constructor
  · simpa [Query.isAddable] using addable (areAddable_operands addableLeft) (areAddable_operands addableRight)
  · rw [I.holdsEntry_and, I.allHold_append, allHold_operands, allHold_operands, saysLeft, saysRight]
    rfl

theorem means_either {left right : Clause} {c d : Condition} (first : Means I row left c)
    (second : Means I row right d) :
    Means I row ⟨"$or", .array (left.operands "$or" ++ right.operands "$or")⟩ (.either c d) := by
  intro plain
  simp only [Condition.isPlain, Bool.and_eq_true] at plain
  obtain ⟨_, saysLeft⟩ := first plain.1
  obtain ⟨_, saysRight⟩ := second plain.2
  constructor
  · simp [Query.isAddable]
  · rw [I.holdsEntry_or, I.anyHolds_append, anyHolds_operands, anyHolds_operands, saysLeft, saysRight]
    rfl

end Clause

theorem Expr.list?_eq_some {arg : Expr} {value : Wire} (read : arg.list? = some value) :
    ∃ items, arg.value? = some (.array items) ∧ value = .array items := by
  simp only [list?, Option.bind_eq_bind, Option.bind_eq_some_iff] at read
  obtain ⟨found, encoded, listed⟩ := read
  cases found with
  | array items => exact ⟨items, encoded, by cases listed; rfl⟩
  | _ => cases listed

theorem Expr.fieldTest?_means {field : Expr} {binding method : String} {path : FieldPath} {arg : Expr}
    {operand : Wire} (found : field.pathOn? binding = some path)
    (translated : fieldTest? method arg = some operand) :
    ∃ c, (call field method [arg]).condition? binding = some c ∧
      Clause.Means I row ⟨path.dotted, operand⟩ c := by
  unfold fieldTest? at translated
  split at translated
  · split at translated
    · rename_i pattern
      split at translated
      · cases translated
        exact ⟨.matching path.dotted pattern, by simp [condition?, found],
          Clause.means_test I row rfl (by simp [Condition.isPlain]) rfl⟩
      · cases translated
    · cases translated
  · simp only [Option.bind_eq_bind, Option.bind_eq_some_iff] at translated
    obtain ⟨listed, read, same⟩ := translated
    obtain ⟨items, encoded, rfl⟩ := list?_eq_some read
    cases same
    exact ⟨.within path.dotted items, by simp [condition?, found, encoded],
      Clause.means_test I row rfl (by simp [Condition.isPlain]) rfl⟩
  · simp only [Option.bind_eq_bind, Option.bind_eq_some_iff] at translated
    obtain ⟨listed, read, same⟩ := translated
    obtain ⟨items, encoded, rfl⟩ := list?_eq_some read
    cases same
    exact ⟨.outside path.dotted items, by simp [condition?, found, encoded],
      Clause.means_test I row rfl (by simp [Condition.isPlain]) rfl⟩
  · cases translated

/-- The clause of a predicate says what its body says. -/
theorem Expr.predicate?_means {binding : String} {e : Expr} {clause : Clause}
    (translated : e.predicate? binding = some clause) :
    ∃ c, e.condition? binding = some c ∧ clause.Means I row c := by
  induction e using Expr.predicate?.induct generalizing clause with
  | case1 c left right ihl ihr =>
    simp only [predicate?, Option.bind_eq_bind, Option.bind_eq_some_iff] at translated
    obtain ⟨leftClause, readLeft, rightClause, readRight, same⟩ := translated
    cases same
    obtain ⟨leftCondition, leftReads, leftMeans⟩ := ihl readLeft
    obtain ⟨rightCondition, rightReads, rightMeans⟩ := ihr readRight
    cases c with
    | and => exact ⟨_, by simp [condition?, leftReads, rightReads], Clause.means_both I row leftMeans rightMeans⟩
    | or => exact ⟨_, by simp [condition?, leftReads, rightReads], Clause.means_either I row leftMeans rightMeans⟩
  | case2 c left right =>
    simp only [predicate?, comparison?] at translated
    split at translated
    · rename_i path found
      simp only [Option.bind_eq_bind, Option.bind_eq_some_iff] at translated
      obtain ⟨constant, read, same⟩ := translated
      cases same
      exact ⟨.compare path.dotted c constant, by simp [condition?, found, read],
        Clause.means_comparison I row c⟩
    · rename_i notLeft
      simp only [Option.bind_eq_bind, Option.bind_eq_some_iff] at translated
      obtain ⟨path, found, constant, read, same⟩ := translated
      cases same
      exact ⟨.compare path.dotted c.flipped constant, by simp [condition?, notLeft, found, read],
        Clause.means_comparison I row c.flipped⟩
  | case3 => cases translated
  | case4 inner =>
    simp only [predicate?, Option.bind_eq_bind, Option.bind_eq_some_iff] at translated
    obtain ⟨path, found, same⟩ := translated
    cases same
    exact ⟨.present path.dotted, by simp [condition?, found],
      Clause.means_test I row rfl (by simp [Condition.isPlain]) rfl⟩
  | case5 field method arg =>
    simp only [predicate?, Option.bind_eq_bind, Option.bind_eq_some_iff] at translated
    obtain ⟨path, found, operand, read, same⟩ := translated
    cases same
    exact fieldTest?_means I row found read
  | case6 e notConnective notComparison notArithmetic notExistence notCall =>
    rw [predicate?.eq_6 _ _ notConnective notComparison notArithmetic notExistence notCall] at translated
    simp only [Option.bind_eq_bind, Option.bind_eq_some_iff] at translated
    obtain ⟨path, found, same⟩ := translated
    cases same
    refine ⟨.compare path.dotted .equal (.bool true), ?_, Clause.means_equal I row⟩
    rw [condition?.eq_6 _ _ (notConnective .and) (notConnective .or) notComparison notExistence notCall]
    simp [found]

end

/-! ### Where bodies -/

/-- The lambdas of the where calls of a chain in the order of writing. -/
def Expr.whereBodies : Expr → List (String × Expr)
  | call receiver "where" [lambda param body] => receiver.whereBodies ++ [(param, body)]
  | call receiver _ _ => receiver.whereBodies
  | _ => []

namespace Step

/-- The binding and the body of a filter. -/
def body? : Step → Option (String × Expr)
  | predicate _ binding e => some (binding, e)
  | _ => none

/-- In a written chain the predicates are the filters. -/
def IsWritten : Step → Prop
  | source _ => True
  | predicate op .. => op = .operation .filter
  | mutation op .. => op ≠ .operation .filter

end Step

namespace Expr

theorem Writes.isWritten {receiver : Expr} {method : String} {args : List Expr} {s : Step}
    (writes : Writes receiver method args s) : s.IsWritten := by
  cases writes with
  | filter => rfl
  | @operation op target rest _ _ _ _ operand =>
    rintro ⟨⟩
    match rest, operand with
    | [], operand | [_], operand => cases operand
  | modifier => rintro ⟨⟩

theorem isWritten_of_steps {e : Expr} {all : List Step} (unwound : e.steps = .ok all) :
    ∀ s ∈ all, s.IsWritten := by
  induction e using Expr.steps.induct generalizing all with
  | case1 receiver method args ih =>
    obtain ⟨c, before, read, written, rfl⟩ := steps_call unwound
    intro s member
    rcases List.mem_append.mp member with earlier | last
    · exact ih written s earlier
    · rcases recognizeCall_cases read with ⟨rfl, _⟩ | ⟨rfl, _⟩ | ⟨t, rfl, writes⟩
      · cases last
      · cases last
      · obtain rfl := List.mem_singleton.mp last
        exact writes.isWritten
  | case2 e notCall =>
    rw [steps.eq_2 _ notCall] at unwound
    obtain ⟨source, _, same⟩ := bind_eq_ok.mp unwound
    cases same
    simp [Step.IsWritten]

theorem whereBodies_call {receiver : Expr} {method : String} {args : List Expr} (other : method ≠ "where") :
    (call receiver method args).whereBodies = receiver.whereBodies := by
  rw [whereBodies]
  rintro _ _ rfl
  exact absurd rfl other

/-- The predicates of a chain are its where bodies. -/
theorem bodies_of_steps {e : Expr} {all : List Step} (unwound : e.steps = .ok all) :
    all.filterMap Step.body? = e.whereBodies := by
  induction e using Expr.steps.induct generalizing all with
  | case1 receiver method args ih =>
    obtain ⟨c, before, read, written, rfl⟩ := steps_call unwound
    rw [List.filterMap_append, ih written]
    rcases recognizeCall_cases read with ⟨rfl, rfl, rfl⟩ | ⟨rfl, rfl, rfl⟩ | ⟨s, rfl, writes⟩
    · simp [Call.steps, whereBodies]
    · simp [Call.steps, whereBodies]
    · cases writes with
      | filter param body => rfl
      | @operation op target rest _ _ _ _ operand =>
        have other : (Operator.operation op).method ≠ "where" := by
          have notFilter := Operation.ne_filter_of_operand? operand
          cases op <;> first | decide | contradiction
        simp [Call.steps, Step.body?, whereBodies_call other]
      | @modifier m =>
        have other : (Operator.modifier m).method ≠ "where" := by
          rcases m with _ | direction | direction
          · decide
          all_goals cases direction <;> decide
        simp [Call.steps, Step.body?, whereBodies_call other]
  | case2 e notCall =>
    rw [steps.eq_2 _ notCall] at unwound
    obtain ⟨source, _, same⟩ := bind_eq_ok.mp unwound
    cases same
    cases e with
    | call receiver method args => exact absurd rfl (notCall receiver method args)
    | _ => rfl

end Expr

/-! ### Runs over where bodies -/

/-- Whether a where body has a clause. -/
def isTranslated (body : String × Expr) : Bool :=
  (body.2.predicate? body.1).isSome

namespace Draft

/-- A filter is accepted if it has a clause, which then joins the query. -/
theorem accept?_filter (d : Draft) (binding : String) (e : Expr) :
    d.accept? (.predicate (.operation .filter) binding e) = .ok ((e.predicate? binding).map fun c =>
      { d with query := Query.addClause d.query c.key c.value }) := rfl

theorem accept?_query {d d' : Draft} {s : Step} (accepted : d.accept? s = .ok (some d'))
    (other : s.body? = none) : d'.query = d.query := by
  cases s with
  | source s =>
    cases accepted
    rfl
  | predicate op binding e => cases other
  | mutation op binding path e =>
    cases op with
    | operation op =>
      simp only [accept?, Except.ok.injEq, Option.map_eq_some_iff] at accepted
      obtain ⟨c, _, rfl⟩ := accepted
      rfl
    | modifier m =>
      obtain ⟨_, _, _, _, rfl⟩ := accept?_modifier accepted
      rfl

theorem Run.refused_subset {d final : Draft} {steps kept refused : List Step}
    (run : Run d steps kept refused final) : refused ⊆ steps := by
  induction run with
  | done => exact List.Subset.refl _
  | keep _ _ ih => exact List.subset_cons_of_subset _ ih
  | refuse _ _ ih => exact List.cons_subset_cons _ ih

/-- A run keeps the where bodies that have a clause, and refuses the others. -/
theorem Run.bodies {d final : Draft} {steps kept refused : List Step} (run : Run d steps kept refused final)
    (written : ∀ s ∈ steps, s.IsWritten) :
    kept.filterMap Step.body? = (steps.filterMap Step.body?).filter isTranslated ∧
      refused.filterMap Step.body? = (steps.filterMap Step.body?).filter (!isTranslated ·) := by
  induction run with
  | done => exact ⟨rfl, rfl⟩
  | @keep d _ _ s _ _ _ accepted _ ih =>
    obtain ⟨keptRest, refusedRest⟩ := ih fun t member => written t (List.mem_cons_of_mem _ member)
    cases s with
    | predicate op binding e =>
      obtain rfl : op = .operation .filter := written _ List.mem_cons_self
      rw [accept?_filter, Except.ok.injEq, Option.map_eq_some_iff] at accepted
      obtain ⟨c, translated, _⟩ := accepted
      simp [Step.body?, isTranslated, translated, keptRest, refusedRest]
    | source => exact ⟨keptRest, refusedRest⟩
    | mutation => exact ⟨keptRest, refusedRest⟩
  | @refuse d _ s _ _ _ rejected _ ih =>
    obtain ⟨keptRest, refusedRest⟩ := ih fun t member => written t (List.mem_cons_of_mem _ member)
    cases s with
    | predicate op binding e =>
      obtain rfl : op = .operation .filter := written _ List.mem_cons_self
      rw [accept?_filter, Except.ok.injEq, Option.map_eq_none_iff] at rejected
      simp [Step.body?, isTranslated, rejected, keptRest, refusedRest]
    | source => exact ⟨keptRest, refusedRest⟩
    | mutation => exact ⟨keptRest, refusedRest⟩

/-- The query at the end of a run says what it said before and what the kept where bodies say. -/
theorem Run.query_means {Row Value : Type} (I : Interpretation Row Value) (row : Row) {d final : Draft}
    {steps kept refused : List Step} (run : Run d steps kept refused final)
    (grouped : Query.Grouped d.query)
    (plain : ∀ body ∈ kept.filterMap Step.body?, ∀ c, body.2.condition? body.1 = some c → c.isPlain = true)
    (written : ∀ s ∈ steps, s.IsWritten) :
    I.holds row final.query = true ↔ I.holds row d.query = true ∧
      ∀ body ∈ kept.filterMap Step.body?, ∃ c, body.2.condition? body.1 = some c ∧ c.holds I row = true := by
  induction run with
  | done => simp
  | @keep d d' _ s _ kept _ accepted _ ih =>
    have written' := fun t member => written t (List.mem_cons_of_mem _ member)
    cases body : s.body? with
    | none =>
      have same := accept?_query accepted body
      simp only [List.filterMap_cons, body] at plain ⊢
      rw [ih (same ▸ grouped) plain written', same]
    | some lambda =>
      simp only [List.filterMap_cons, body, List.forall_mem_cons] at plain ⊢
      cases s with
      | predicate op binding e =>
        cases body
        obtain rfl : op = .operation .filter := written _ List.mem_cons_self
        rw [accept?_filter, Except.ok.injEq, Option.map_eq_some_iff] at accepted
        obtain ⟨clause, translated, rfl⟩ := accepted
        obtain ⟨c, reads, means⟩ := Expr.predicate?_means I row translated
        obtain ⟨addable, meant⟩ := means (plain.1 c reads)
        obtain ⟨groupedNext, joined⟩ := Query.addClause_spec I row grouped clause.key clause.value addable
        rw [ih groupedNext plain.2 written', joined, meant, Bool.and_eq_true, and_assoc]
        simp [reads]
      | source => cases body
      | mutation => cases body
  | refuse _ _ ih => exact ih grouped plain fun t member => written t (List.mem_cons_of_mem _ member)

end Draft

/-- The filters of a report are the where bodies of the refused steps. -/
theorem nodes_of_report {refused : List Step} {report : List Dropped}
    (entries : refused.map Step.dropped? = report.map some) (written : ∀ s ∈ refused, s.IsWritten) :
    (report.filter fun r => r.operator = .operation .filter).map (·.node) =
      (refused.filterMap Step.body?).map (·.2) := by
  induction refused generalizing report with
  | nil =>
    obtain rfl : report = [] := by simpa using entries.symm
    rfl
  | cons s refused ih =>
    cases report with
    | nil => cases entries
    | cons r report =>
      simp only [List.map_cons, List.cons.injEq] at entries
      have rest := ih entries.2 fun t member => written t (List.mem_cons_of_mem _ member)
      have here := written s List.mem_cons_self
      cases s with
      | source => cases entries.1
      | predicate op binding e =>
        obtain rfl : r = ⟨op, e⟩ := (Option.some.inj entries.1).symm
        obtain rfl : op = .operation .filter := here
        simp [Step.body?, rest]
      | mutation op binding path e =>
        obtain rfl : r = ⟨op, e⟩ := (Option.some.inj entries.1).symm
        have other : op ≠ .operation .filter := here
        rw [List.filterMap_cons_none rfl]
        simp [other, rest]

/-- A row meets the query of a chain exactly when it meets every where body that was not dropped, and
the report names those that were. -/
theorem query_holds_iff_bodies {e : Expr} {compiled : Compiled} {report : List Dropped}
    (accepted : e.compile false = .ok (compiled, report))
    (plain : ∀ body ∈ e.whereBodies, ∀ c, body.2.condition? body.1 = some c → c.isPlain = true) :
    (∀ {Row Value : Type} (I : Interpretation Row Value) (row : Row),
      I.holds row compiled.documents.queryDocument = true ↔
        ∀ body ∈ e.whereBodies, isTranslated body = true →
          ∃ c, body.2.condition? body.1 = some c ∧ c.holds I row = true) ∧
    (report.filter fun r => r.operator = .operation .filter).map (·.node) =
      (e.whereBodies.filter (!isTranslated ·)).map (·.2) := by
  obtain ⟨chain, unwound, assembled⟩ := bind_eq_ok.mp accepted
  obtain ⟨kept, refused, d, run, entries, rfl, _⟩ := Chain.assemble_eq_ok_iff.mp assembled
  have all := Expr.steps_of_chain unwound
  have written := Expr.isWritten_of_steps all
  obtain ⟨keptBodies, refusedBodies⟩ := run.bodies written
  rw [Expr.bodies_of_steps all] at keptBodies refusedBodies
  constructor
  · intro Row Value I row
    have query : ((Assembly.after {} chain.steps d report).compiled chain.deferred).documents.queryDocument
        = d.query := by
      cases deferred : chain.deferred <;> cases mutates : chain.steps.any Step.mutates <;>
        simp [Assembly.compiled, Assembly.after, mutates, Compiled.documents, Documents.queryDocument]
    have plainKept : ∀ body ∈ kept.filterMap Step.body?, ∀ c, body.2.condition? body.1 = some c →
        c.isPlain = true := by
      intro body member
      rw [keptBodies] at member
      exact plain body (List.mem_filter.mp member).1
    have means := run.query_means I row (by intro value found; cases found) plainKept written
    rw [query, means, keptBodies]
    simp [List.mem_filter]
  · rw [nodes_of_report entries fun s member => written s (run.refused_subset member), refusedBodies]

/-- `18 < @p.age and (@p.vip or @p.city == "Oslo")`, then `@p.age < 65`, then a body without a clause. -/
def adults : Expr :=
  let field (name : String) := Expr.member (.binding "p") name
  let either := Expr.binary (.connective .or) (field "vip")
    (.binary (.comparison .equal) (field "city") (.string "Oslo"))
  let body (e : Expr) := [Expr.lambda "p" e]
  .call (.call (.call (.collection "people")
    "where" (body (.binary (.connective .and) (.binary (.comparison .less) (.integer 18) (field "age")) either)))
    "where" (body (.binary (.comparison .less) (field "age") (.integer 65))))
    "where" (body (.binary (.comparison .equal) (field "age") (field "limit")))

theorem query_holds_iff_bodies_adults :
    adults.compile false = .ok (.query
        [("age", .object [("$gt", .int 18), ("$lt", .int 65)]),
          ("$or", .array [.single "vip" (.bool true), .single "city" (.string "Oslo")])]
        (some (.named "people")),
      [⟨.operation .filter, .binary (.comparison .equal) (.member (.binding "p") "age")
        (.member (.binding "p") "limit")⟩]) ∧
    ∀ {Row Value : Type} (I : Interpretation Row Value) (row : Row),
      I.holds row [("age", .object [("$gt", .int 18), ("$lt", .int 65)]),
          ("$or", .array [.single "vip" (.bool true), .single "city" (.string "Oslo")])] = true ↔
        ∀ body ∈ adults.whereBodies, isTranslated body = true →
          ∃ c, body.2.condition? body.1 = some c ∧ c.holds I row = true := by
  have plain : ∀ body ∈ adults.whereBodies, ∀ c, body.2.condition? body.1 = some c → c.isPlain = true := by
    intro body member c reads
    simp only [adults, Expr.whereBodies, List.nil_append, List.mem_append, List.mem_singleton] at member
    rcases member with (rfl | rfl) | rfl
    all_goals cases reads
    all_goals decide
  exact ⟨rfl, (@query_holds_iff_bodies adults _ _ rfl plain).1⟩

end DocChain
