import DocChain.Proofs.Assignments
import DocChain.Proofs.Conjunction
import DocChain.Proofs.Literals
import DocChain.Proofs.QueryForm

/-!
# What a condition on an element means

The body of a `pull` is read as it is written, with constants on either side of a comparison. Its condition is a
document of tests on the element itself or a query over the fields of the element, and either says what the body
says.
-/

namespace DocChain

/-! ### Bodies -/

inductive Subject where
  | itself
  | field (path : String)

/-- A lambda body read as a condition on an element. -/
inductive ElementBody where
  | compare (subject : Subject) (c : Comparison) (constant : Wire)
  | constantFirst (constant : Wire) (c : Comparison) (subject : Subject)
  | test (condition : Condition)
  | both (left right : ElementBody)
  | either (left right : ElementBody)

namespace Expr

def subject? (name : String) (e : Expr) : Option Subject :=
  if e.isSelf name then some .itself else (e.pathOn? name).map fun path => .field path.dotted

def comparisonBody? (name : String) (c : Comparison) (left right : Expr) : Option ElementBody :=
  match left.subject? name, right.subject? name with
  | some subject, _ => return .compare subject c (← right.value?)
  | none, some subject => return .constantFirst (← left.value?) c subject
  | none, none => none

def elementBody? (name : String) : Expr → Option ElementBody
  | binary (.connective .and) left right => return .both (← left.elementBody? name) (← right.elementBody? name)
  | binary (.connective .or) left right => return .either (← left.elementBody? name) (← right.elementBody? name)
  | binary (.comparison c) left right => comparisonBody? name c left right
  | e => return .test (← e.condition? name)

end Expr

def Subject.isPlain : Subject → Comparison → Wire → Bool
  | itself, _, _ => true
  | field path, c, constant => (Condition.compare path c constant).isPlain

/-- Whether no path of a body starts like an operator, and no field is compared for equality with a document of
operators. -/
def ElementBody.isPlain : ElementBody → Bool
  | compare subject c constant => subject.isPlain c constant
  | constantFirst constant c subject => subject.isPlain c.flipped constant
  | test condition => condition.isPlain
  | both left right | either left right => left.isPlain && right.isPlain

/-- An interpretation of elements and their fields, in which a comparison can be turned round. -/
structure ElementInterpretation (Element Value : Type) extends Interpretation Element Value where
  itself : Element → Value
  constantFirst : Wire → Comparison → Value → Bool
  flips : ∀ constant c x, constantFirst constant c x = compare c.flipped x constant

section
variable {Element Value : Type} (I : ElementInterpretation Element Value) (element : Element)

def Subject.value : Subject → Value
  | itself => I.itself element
  | field path => I.lookup element path

def ElementBody.holds : ElementBody → Bool
  | compare subject c constant => I.compare c (subject.value I element) constant
  | constantFirst constant c subject => I.constantFirst constant c (subject.value I element)
  | test condition => condition.holds I.toInterpretation element
  | both left right => left.holds && right.holds
  | either left right => left.holds || right.holds

def selfOperators : List String :=
  ["$eq", "$ne", "$lt", "$lte", "$gt", "$gte"]

/-- Whether an element meets a condition: tests on the element itself if it has only their operators, and otherwise
a query over its fields. -/
def ElementInterpretation.meets (condition : Document) : Bool :=
  if condition.keys.all (· ∈ selfOperators) then I.tests (I.itself element) condition
  else I.holds element condition

end

/-! ### Predicates over the fields -/

namespace Expr

variable {name : String} {e : Expr}

theorem subject?_self : (binding name).subject? name = some .itself := by
  unfold subject?
  rw [if_pos (isSelf_eq_true.mpr rfl)]

theorem subject?_of_pathOn? {path : FieldPath} (resolved : e.pathOn? name = some path) :
    e.subject? name = some (.field path.dotted) := by
  have other : ¬ e.isSelf name = true := by
    intro self
    rw [isSelf_eq_true.mp self, pathOn?_binding] at resolved
    cases resolved
  unfold subject?
  rw [if_neg other, resolved]
  rfl

theorem subject?_of_value? {value : Wire} (encodes : e.value? = some value) : e.subject? name = none := by
  have other : ¬ e.isSelf name = true := by
    intro self
    rw [isSelf_eq_true.mp self] at encodes
    cases encodes
  unfold subject?
  rw [if_neg other, pathOn?_of_value? encodes]
  rfl

end Expr

section
variable {name : String} {e : Expr}

/-- A body says what a condition says, and is plain where the condition is. -/
def ElementBody.Says (body : ElementBody) (c : Condition) : Prop :=
  body.isPlain = c.isPlain ∧ ∀ {Element Value : Type} (I : ElementInterpretation Element Value) (element : Element),
    body.holds I element = c.holds I.toInterpretation element

theorem ElementBody.Says.both {left right : ElementBody} {c d : Condition} (first : left.Says c)
    (second : right.Says d) : (ElementBody.both left right).Says (.both c d) := by
  constructor
  · rw [isPlain, Condition.isPlain, first.1, second.1]
  · intro _ _ I element
    rw [holds, Condition.holds, first.2, second.2]

theorem ElementBody.Says.either {left right : ElementBody} {c d : Condition} (first : left.Says c)
    (second : right.Says d) : (ElementBody.either left right).Says (.either c d) := by
  constructor
  · rw [isPlain, Condition.isPlain, first.1, second.1]
  · intro _ _ I element
    rw [holds, Condition.holds, first.2, second.2]

theorem Expr.comparisonBody?_of_condition? {c : Comparison} {left right : Expr} {condition : Condition}
    (reads : (binary (.comparison c) left right).condition? name = some condition) :
    ∃ body, comparisonBody? name c left right = some body ∧ body.Says condition := by
  simp only [condition?] at reads
  unfold comparisonBody?
  split at reads
  · rename_i path resolved
    obtain ⟨constant, encodes, same⟩ := Option.bind_eq_some_iff.mp reads
    cases same
    refine ⟨.compare (.field path.dotted) c constant, ?_, rfl, fun _ _ => rfl⟩
    rw [subject?_of_pathOn? resolved, encodes]
    rfl
  · rename_i path unresolved resolved
    obtain ⟨constant, encodes, same⟩ := Option.bind_eq_some_iff.mp reads
    cases same
    refine ⟨.constantFirst constant c (.field path.dotted), ?_, rfl, ?_⟩
    · rw [subject?_of_value? encodes, subject?_of_pathOn? resolved, encodes]
      rfl
    · intro _ _ I element
      exact I.flips constant c _
  · cases reads

/-- A predicate over the fields says as a body what it says as a condition on a row. -/
theorem Expr.elementBody?_of_condition? {c : Condition} (reads : e.condition? name = some c) :
    ∃ body, e.elementBody? name = some body ∧ body.Says c := by
  induction e using Expr.elementBody?.induct generalizing c with
  | case1 left right first second =>
    simp only [condition?, Option.bind_eq_bind, Option.bind_eq_some_iff] at reads
    obtain ⟨leftCondition, readLeft, rightCondition, readRight, same⟩ := reads
    cases same
    obtain ⟨leftBody, bodyLeft, saysLeft⟩ := first readLeft
    obtain ⟨rightBody, bodyRight, saysRight⟩ := second readRight
    exact ⟨_, by simp [elementBody?, bodyLeft, bodyRight], saysLeft.both saysRight⟩
  | case2 left right first second =>
    simp only [condition?, Option.bind_eq_bind, Option.bind_eq_some_iff] at reads
    obtain ⟨leftCondition, readLeft, rightCondition, readRight, same⟩ := reads
    cases same
    obtain ⟨leftBody, bodyLeft, saysLeft⟩ := first readLeft
    obtain ⟨rightBody, bodyRight, saysRight⟩ := second readRight
    exact ⟨_, by simp [elementBody?, bodyLeft, bodyRight], saysLeft.either saysRight⟩
  | case3 c left right => exact comparisonBody?_of_condition? reads
  | case4 e notAnd notOr notComparison =>
    refine ⟨.test c, ?_, rfl, fun _ _ => rfl⟩
    rw [elementBody?.eq_4 _ _ notAnd notOr notComparison, reads]
    rfl

/-! ### Tests on the element itself -/

theorem Interpretation.test_operator {Row Value : Type} (I : Interpretation Row Value) (c : Comparison) (x : Value)
    (constant : Wire) : I.test x (c.operator?.getD "$eq") constant = I.compare c x constant := by
  cases c <;> rfl

theorem Interpretation.tests_append {Row Value : Type} (I : Interpretation Row Value) (x : Value)
    (first second : Document) : I.tests x (first ++ second) = (I.tests x first && I.tests x second) := by
  unfold tests
  exact List.all_append

theorem Interpretation.tests_single {Row Value : Type} (I : Interpretation Row Value) (x : Value) (operator : String)
    (constant : Wire) : I.tests x [(operator, constant)] = I.test x operator constant := by
  simp [tests]

theorem Comparison.operator_mem_selfOperators (c : Comparison) : c.operator?.getD "$eq" ∈ selfOperators := by
  cases c <;> decide

/-- A document of tests on the element itself says what the body says. -/
theorem Expr.ElementTests.means {condition : Document} (tests : ElementTests name e condition) :
    ∃ body, e.elementBody? name = some body ∧
      ∀ {Element Value : Type} (I : ElementInterpretation Element Value) (element : Element),
        I.tests (I.itself element) condition = body.holds I element := by
  induction tests with
  | @left c constant value encodes =>
    refine ⟨.compare .itself c value, ?_, ?_⟩
    · rw [elementBody?, comparisonBody?, subject?_self, encodes]
      rfl
    · intro _ _ I element
      rw [Interpretation.tests_single, Interpretation.test_operator]
      rfl
  | @right c constant value encodes =>
    refine ⟨.constantFirst value c .itself, ?_, ?_⟩
    · rw [elementBody?, comparisonBody?, subject?_of_value? encodes, subject?_self, encodes]
      rfl
    · intro _ _ I element
      rw [Interpretation.tests_single, Interpretation.test_operator]
      exact (I.flips value c _).symm
  | both _ _ _ first second =>
    obtain ⟨leftBody, bodyLeft, saysLeft⟩ := first
    obtain ⟨rightBody, bodyRight, saysRight⟩ := second
    refine ⟨.both leftBody rightBody, by simp [elementBody?, bodyLeft, bodyRight], ?_⟩
    intro _ _ I element
    rw [Interpretation.tests_append, saysLeft, saysRight]
    rfl

theorem Expr.ElementTests.ne_nil {condition : Document} (tests : ElementTests name e condition) : condition ≠ [] := by
  induction tests with
  | left | right => exact List.cons_ne_nil _ _
  | both _ _ _ first _ => exact List.append_ne_nil_of_left_ne_nil first _

theorem Expr.ElementTests.self_operators {condition : Document} (tests : ElementTests name e condition) :
    ∀ key ∈ condition.keys, key ∈ selfOperators := by
  intro key member
  obtain ⟨c, rfl⟩ := tests.operators key member
  exact c.operator_mem_selfOperators

/-! ### Queries over the fields -/

def Condition.key : Condition → String
  | compare path _ _ | present path | matching path _ | within path _ | outside path _ => path
  | both _ _ => "$and"
  | either _ _ => "$or"

theorem Expr.exists_condition_of_predicate? {clause : Clause} (translated : e.predicate? name = some clause) :
    ∃ c, e.condition? name = some c := by
  -- A body is read without any row, so an interpretation of nothing will do.
  let silent : Interpretation Unit Unit :=
    { lookup := fun _ _ => (), compare := fun _ _ _ => true, present := fun _ => true, matching := fun _ _ => true
      within := fun _ _ => true, outside := fun _ _ => true, other := fun _ _ _ => true }
  obtain ⟨c, reads, _⟩ := predicate?_means silent () translated
  exact ⟨c, reads⟩

theorem Expr.predicate?_key {clause : Clause} {c : Condition} (translated : e.predicate? name = some clause)
    (reads : e.condition? name = some c) : clause.key = c.key := by
  unfold predicate? at translated
  split at translated
  · rename_i connective left right
    simp only [Option.bind_eq_bind, Option.bind_eq_some_iff] at translated
    obtain ⟨_, _, _, _, same⟩ := translated
    cases same
    cases connective with
    | and | or =>
      simp only [condition?, Option.bind_eq_bind, Option.bind_eq_some_iff] at reads
      obtain ⟨_, _, _, _, same⟩ := reads
      cases same
      rfl
  · rename_i comparison left right
    simp only [condition?] at reads
    unfold comparison? at translated
    split at translated
    · rename_i path resolved
      rw [resolved] at reads
      obtain ⟨_, _, same⟩ := Option.bind_eq_some_iff.mp translated
      cases same
      obtain ⟨_, _, same⟩ := Option.bind_eq_some_iff.mp reads
      cases same
      rfl
    · rename_i unresolved
      obtain ⟨path, resolved, translated⟩ := Option.bind_eq_some_iff.mp translated
      rw [unresolved, resolved] at reads
      obtain ⟨_, _, same⟩ := Option.bind_eq_some_iff.mp translated
      cases same
      obtain ⟨_, _, same⟩ := Option.bind_eq_some_iff.mp reads
      cases same
      rfl
  · cases translated
  · rename_i inner
    obtain ⟨path, resolved, same⟩ := Option.bind_eq_some_iff.mp translated
    cases same
    simp only [condition?, resolved, Option.bind_eq_bind, Option.bind_some] at reads
    cases reads
    rfl
  · rename_i field method arg
    obtain ⟨path, resolved, translated⟩ := Option.bind_eq_some_iff.mp translated
    obtain ⟨_, _, same⟩ := Option.bind_eq_some_iff.mp translated
    cases same
    simp only [condition?, resolved, Option.bind_eq_bind, Option.bind_some] at reads
    split at reads <;> cases reads <;> rfl
  · rename_i notConnective notComparison notArithmetic notExistence notCall
    obtain ⟨path, resolved, same⟩ := Option.bind_eq_some_iff.mp translated
    cases same
    rw [condition?.eq_6 _ _ (notConnective .and) (notConnective .or) notComparison notExistence notCall,
      resolved] at reads
    cases reads
    rfl

theorem isOperator_of_mem_selfOperators {key : String} (member : key ∈ selfOperators) :
    Query.isOperator key = true := by
  have all : ∀ key ∈ selfOperators, Query.isOperator key = true := by decide
  exact all key member

/-- The clause of a plain condition does not stand under an operator of tests on the element itself. -/
theorem Condition.key_not_mem_selfOperators {c : Condition} (plain : c.isPlain = true) : c.key ∉ selfOperators := by
  intro member
  have operator := isOperator_of_mem_selfOperators member
  cases c with
  | both | either => simp [key, selfOperators] at member
  | compare | present | matching | within | outside =>
    simp only [key] at operator
    simp [isPlain, operator] at plain

/-! ### Leaves -/

namespace Expr

/-- The parts of a body that its connectives combine. -/
def leaves : Expr → List Expr
  | binary (.connective _) left right => left.leaves ++ right.leaves
  | e => [e]

def comparesSelf (name : String) : Expr → Bool
  | binary (.comparison _) left right => left.isSelf name || right.isSelf name
  | _ => false

theorem ElementTests.pathsOn_leaves {condition : Document} (tests : ElementTests name e condition) :
    ∀ leaf ∈ e.leaves, leaf.pathsOn name = [] := by
  induction tests with
  | left encodes | right encodes => simp [leaves, pathsOn, pathOn?_of_value? encodes]
  | both _ _ _ first second =>
    rw [leaves, List.forall_mem_append]
    exact ⟨first, second⟩

theorem comparesSelf_of_predicate? {clause : Clause} (translated : e.predicate? name = some clause) :
    ∀ leaf ∈ e.leaves, leaf.comparesSelf name = false := by
  induction e using leaves.induct generalizing clause with
  | case1 c left right first second =>
    simp only [predicate?, Option.bind_eq_bind, Option.bind_eq_some_iff] at translated
    obtain ⟨_, readLeft, _, readRight, _⟩ := translated
    rw [leaves, List.forall_mem_append]
    exact ⟨first readLeft, second readRight⟩
  | case2 e notConnective =>
    rw [leaves.eq_2 e notConnective, List.forall_mem_singleton]
    unfold comparesSelf
    split
    · rename_i c left right
      cases self : left.isSelf name || right.isSelf name with
      | false => rfl
      | true =>
        rw [predicate?_of_self self] at translated
        cases translated
    · rfl

end Expr

/-! ### Conditions -/

/-- Whether a condition is of exactly one kind: tests on the element itself, or a query without any. -/
def IsOneKind (condition : Document) : Prop :=
  condition ≠ [] ∧
    ((∀ key ∈ condition.keys, key ∈ selfOperators) ∨ ∀ key ∈ condition.keys, key ∉ selfOperators)

section
variable {Element Value : Type} (I : ElementInterpretation Element Value)

theorem ElementInterpretation.meets_tests {condition : Document}
    (operators : ∀ key ∈ condition.keys, key ∈ selfOperators) (element : Element) :
    I.meets element condition = I.tests (I.itself element) condition := by
  have all : condition.keys.all (· ∈ selfOperators) = true := by simpa using operators
  unfold meets
  rw [if_pos all]

theorem ElementInterpretation.meets_clause {clause : Clause} (field : clause.key ∉ selfOperators) (element : Element) :
    I.meets element clause.document = I.holdsEntry element clause.key clause.value := by
  have some : ¬ (Fields.keys clause.document).all (· ∈ selfOperators) = true := by
    simpa [Clause.document, Fields.keys] using field
  unfold meets
  rw [if_neg some, Clause.document, Interpretation.holds_cons, Interpretation.holds_nil, Bool.and_true]

end

/-- A condition says of an element what the body says. Every body has one that tests the element itself for each
operator once, or that is a predicate over its fields; a body that compares the element itself beside a test of its
fields has none. -/
theorem Expr.elementCondition?_means (name : String) (e : Expr) :
    (∀ condition, e.elementCondition? name = some condition →
      ∃ body, e.elementBody? name = some body ∧ (body.isPlain = true → IsOneKind condition ∧
        ∀ {Element Value : Type} (I : ElementInterpretation Element Value) (element : Element),
          I.meets element condition = body.holds I element)) ∧
    (∀ condition, ElementTests name e condition → e.elementCondition? name = some condition) ∧
    (∀ clause, e.predicate? name = some clause → e.elementCondition? name = some clause.document) ∧
    ((∃ leaf ∈ e.leaves, leaf.comparesSelf name = true) → (∃ leaf ∈ e.leaves, leaf.pathsOn name ≠ []) →
      e.elementCondition? name = none) := by
  refine ⟨?_, ?_, ?_, ?_⟩
  · intro condition found
    obtain tests | ⟨clause, translated, rfl⟩ := elementCondition?_eq_some_iff.mp found
    · obtain ⟨body, reads, agrees⟩ := tests.means
      refine ⟨body, reads, ?_⟩
      intro _
      refine ⟨⟨tests.ne_nil, .inl tests.self_operators⟩, ?_⟩
      intro _ _ I element
      rw [I.meets_tests tests.self_operators, agrees]
    · obtain ⟨c, condition⟩ := exists_condition_of_predicate? translated
      obtain ⟨body, reads, plainBody, agrees⟩ := elementBody?_of_condition? condition
      refine ⟨body, reads, ?_⟩
      intro plain
      rw [plainBody] at plain
      have field : clause.key ∉ selfOperators := by
        rw [predicate?_key translated condition]
        exact c.key_not_mem_selfOperators plain
      refine ⟨⟨List.cons_ne_nil _ _, .inr ?_⟩, ?_⟩
      · intro key member
        obtain rfl := List.mem_singleton.mp member
        exact field
      · intro _ _ I element
        -- The clause means some condition on this element, and a body has only one.
        obtain ⟨_, same, means⟩ := predicate?_means I.toInterpretation element translated
        cases condition.symm.trans same
        rw [I.meets_clause field, (means plain).2, agrees]
  · intro condition tests
    exact elementCondition?_eq_some_iff.mpr (.inl tests)
  · intro clause translated
    exact elementCondition?_eq_some_iff.mpr (.inr ⟨clause, translated, rfl⟩)
  · rintro ⟨self, inSelf, compares⟩ ⟨field, inField, tests⟩
    cases found : e.elementCondition? name with
    | none => rfl
    | some condition =>
      obtain element | ⟨clause, translated, _⟩ := elementCondition?_eq_some_iff.mp found
      · exact absurd (element.pathsOn_leaves field inField) tests
      · rw [comparesSelf_of_predicate? translated self inSelf] at compares
        cases compares

theorem Expr.elementCondition?_means_between :
    let between := binary (.connective .and) (binary (.comparison .greaterEqual) (binding "e") (integer 3))
      (binary (.comparison .greater) (integer 9) (binding "e"))
    let mixed := binary (.connective .or) between (member (binding "e") "size")
    between.elementCondition? "e" = some [("$gte", .int 3), ("$lt", .int 9)] ∧
      (∀ {Element Value : Type} (I : ElementInterpretation Element Value) (element : Element),
        I.meets element [("$gte", .int 3), ("$lt", .int 9)] =
          (I.compare .greaterEqual (I.itself element) (.int 3) &&
            I.constantFirst (.int 9) .greater (I.itself element))) ∧
      mixed.elementCondition? "e" = none := by
  intro between mixed
  have found : between.elementCondition? "e" = some [("$gte", .int 3), ("$lt", .int 9)] := by rfl
  refine ⟨found, ?_, ?_⟩
  · obtain ⟨body, reads, agrees⟩ := (elementCondition?_means "e" between).1 _ found
    cases reads
    exact (agrees rfl).2
  · apply (elementCondition?_means "e" mixed).2.2.2
    · exact ⟨binary (.comparison .greaterEqual) (binding "e") (integer 3), .head _, rfl⟩
    · exact ⟨member (binding "e") "size", .tail _ (.tail _ (.head _)), by decide⟩

end

end DocChain
