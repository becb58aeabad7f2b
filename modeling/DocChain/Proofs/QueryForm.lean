import DocChain.Proofs.UpdateForm

/-!
# The normal form of a query

Where bodies nest connectives as they are written. In the query of a chain they are flat: no list under
a connective has a member of the same connective, and `$and` at the top only holds what could not stand
beside an entry of the same key. What a field is compared with is an operand and no part of this form.
-/

namespace DocChain

/-! ### Paths of where bodies -/

/-- The paths over a binding in a predicate body. -/
def Expr.pathsOn (binding : String) : Expr → List String
  | binary (.connective _) left right => left.pathsOn binding ++ right.pathsOn binding
  | binary (.comparison _) left right =>
    (left.pathOn? binding).toList.map FieldPath.dotted ++ (right.pathOn? binding).toList.map FieldPath.dotted
  | existence field | call field _ _ => (field.pathOn? binding).toList.map FieldPath.dotted
  | e => (e.pathOn? binding).toList.map FieldPath.dotted

/-- The paths of all where bodies of a chain that have a clause. -/
def Expr.wherePaths (e : Expr) : List String :=
  (e.whereBodies.filter isTranslated).flatMap fun body => body.2.pathsOn body.1

namespace Query

/-- Documents of one entry each. -/
def singles (members : List (String × Wire)) : List Wire :=
  members.map fun m => .single m.1 m.2

/-- An entry of a query: a field, or a connective over two or more entries, none of which is of that
connective. -/
inductive Entry (IsPath : String → Prop) : String → Wire → Prop where
  | field {path : String} (value : Wire) (resolved : IsPath path) : Entry IsPath path value
  | connective {c : Connective} {members : List (String × Wire)} (several : 2 ≤ members.length)
      (flat : ∀ m ∈ members, m.1 ≠ c.operator) (entries : ∀ m ∈ members, Entry IsPath m.1 m.2) :
      Entry IsPath c.operator (.array (singles members))

/-- What `$and` holds at the top of a query: entries of keys that stand beside it. -/
def Collected (IsPath : String → Prop) (keys : List String) (value : Wire) : Prop :=
  ∃ members, value = .array (singles members) ∧ members ≠ [] ∧
    ∀ m ∈ members, m.1 ≠ "$and" ∧ m.1 ∈ keys ∧ Entry IsPath m.1 m.2

/-- The normal form of a query over some paths. -/
structure Normal (IsPath : String → Prop) (query : Document) : Prop where
  distinct : query.keys.Nodup
  entries : ∀ entry ∈ query, entry.1 ≠ "$and" → Entry IsPath entry.1 entry.2
  collected : ∀ value, ("$and", value) ∈ query → Collected IsPath query.keys value

@[simp] theorem singles_append (members more : List (String × Wire)) :
    singles (members ++ more) = singles members ++ singles more :=
  List.map_append

section
variable {IsPath : String → Prop}

theorem Normal.nil : Normal IsPath [] :=
  ⟨List.nodup_nil, by simp, by simp⟩

/-- A key that is no operator is that of a field. -/
theorem Entry.path_of_not_operator {key : String} {value : Wire} (entry : Entry IsPath key value)
    (field : isOperator key = false) : IsPath key := by
  cases entry with
  | field _ resolved => exact resolved
  | @connective c _ _ _ _ => cases c <;> cases field

theorem Collected.mono {keys more : List String} {value : Wire} (subset : keys ⊆ more)
    (collected : Collected IsPath keys value) : Collected IsPath more value := by
  obtain ⟨members, rfl, nonempty, listed⟩ := collected
  refine ⟨members, rfl, nonempty, fun m member => ?_⟩
  obtain ⟨flat, beside, entry⟩ := listed m member
  exact ⟨flat, subset beside, entry⟩

theorem keys_subset_insert (query : Document) (key : String) (value : Wire) :
    query.keys ⊆ (query.insert key value).keys := by
  rw [Fields.keys_insert]
  split
  · exact List.Subset.refl _
  · exact List.subset_append_left _ _

theorem Normal.insert {query : Document} {key : String} {value : Wire} (normal : Normal IsPath query)
    (other : key ≠ "$and") (entry : Entry IsPath key value) : Normal IsPath (query.insert key value) := by
  refine ⟨Fields.nodup_keys_insert normal.distinct, fun found member notAnd => ?_, fun found member => ?_⟩
  · rcases Fields.mem_of_mem_insert member with rfl | old
    · exact entry
    · exact normal.entries found old notAnd
  · rcases Fields.mem_of_mem_insert member with same | old
    · exact absurd (congrArg Prod.fst same).symm other
    · exact (normal.collected found old).mono (keys_subset_insert query key value)

theorem Normal.insert_and {query : Document} {value : Wire} (normal : Normal IsPath query)
    (collected : Collected IsPath query.keys value) : Normal IsPath (query.insert "$and" value) := by
  have wider := keys_subset_insert query "$and" value
  refine ⟨Fields.nodup_keys_insert normal.distinct, fun found member notAnd => ?_, fun found member => ?_⟩
  · rcases Fields.mem_of_mem_insert member with rfl | old
    · exact absurd rfl notAnd
    · exact normal.entries found old notAnd
  · rcases Fields.mem_of_mem_insert member with same | old
    · cases same
      exact collected.mono wider
    · exact (normal.collected found old).mono wider

/-! ### Adding clauses -/

/-- What does not fit beside an entry of its key is collected under `$and`. -/
theorem Normal.conjoin {query : Document} {key : String} {value : Wire} (normal : Normal IsPath query)
    (other : key ≠ "$and") (beside : key ∈ query.keys) (entry : Entry IsPath key value) :
    Normal IsPath (conjoin query key value) := by
  unfold Query.conjoin
  cases found : query.get? "$and" with
  | none =>
    refine normal.insert_and ⟨[(key, value)], rfl, List.cons_ne_nil _ _, fun m member => ?_⟩
    obtain rfl := List.mem_singleton.mp member
    exact ⟨other, beside, entry⟩
  | some listed =>
    obtain ⟨members, rfl, _, old⟩ := normal.collected listed (Fields.mem_of_get? found)
    refine normal.insert_and ⟨members ++ [(key, value)], by simp [singles], by simp, fun m member => ?_⟩
    rcases List.mem_append.mp member with earlier | last
    · exact old m earlier
    · obtain rfl := List.mem_singleton.mp last
      exact ⟨other, beside, entry⟩

theorem field_of_mergeOperators? {key : String} {old new merged : Wire}
    (merges : mergeOperators? key old new = some merged) : isOperator key = false := by
  unfold mergeOperators? at merges
  split at merges
  · split at merges
    · rename_i fits
      simp only [Bool.and_eq_true, Bool.not_eq_true'] at fits
      exact fits.1.1.1
    · cases merges
  · cases merges

theorem Normal.addEntry {query : Document} {key : String} {value : Wire} (normal : Normal IsPath query)
    (other : key ≠ "$and") (entry : Entry IsPath key value) : Normal IsPath (addEntry query key value) := by
  unfold Query.addEntry
  cases found : query.get? key with
  | none => exact normal.insert other entry
  | some old =>
    cases merges : mergeOperators? key old value with
    | none => simpa only [merges] using normal.conjoin other (Fields.mem_keys_of_get? found) entry
    | some merged =>
      simp only [merges]
      have resolved : IsPath key := entry.path_of_not_operator (field_of_mergeOperators? merges)
      exact normal.insert other (.field merged resolved)

theorem addClause_of_ne {query : Document} {key : String} {value : Wire} (other : key ≠ "$and") :
    addClause query key value = addEntry query key value := by
  cases value <;> simp [addClause, other]

theorem Normal.addOperands {query : Document} {members : List (String × Wire)}
    (normal : Normal IsPath query) (flat : ∀ m ∈ members, m.1 ≠ "$and")
    (entries : ∀ m ∈ members, Entry IsPath m.1 m.2) :
    Normal IsPath (addOperands query (singles members)) := by
  induction members generalizing query with
  | nil => simpa [singles, Query.addOperands] using normal
  | cons m rest ih =>
    rw [List.forall_mem_cons] at flat entries
    have next := normal.addEntry flat.1 entries.1
    simpa [singles, Wire.single, Query.addOperands, addFields, addClause_of_ne flat.1] using
      ih next flat.2 entries.2

/-- A clause of this form keeps a query normal. A conjunction is added member by member. -/
theorem Normal.addClause (plain : ¬ IsPath "$and") {query : Document} {key : String} {value : Wire}
    (normal : Normal IsPath query) (entry : Entry IsPath key value) :
    Normal IsPath (addClause query key value) := by
  by_cases conjunction : key = "$and"
  · cases entry with
    | field _ resolved => exact absurd (conjunction ▸ resolved) plain
    | @connective c members _ flat entries =>
      rw [conjunction] at flat ⊢
      simpa [Query.addClause] using normal.addOperands flat entries
  · rw [addClause_of_ne conjunction]
    exact normal.addEntry conjunction entry

end

end Query

/-! ### Clauses of predicates -/

section
variable {IsPath : String → Prop} (plain : ∀ path, IsPath path → Query.isOperator path = false)
include plain

/-- What a clause adds to the operands of a connective is flat. -/
theorem Clause.operands_flat {clause : Clause} (entry : Query.Entry IsPath clause.key clause.value)
    (c : Connective) :
    ∃ members, clause.operands c.operator = Query.singles members ∧ 1 ≤ members.length ∧
      ∀ m ∈ members, m.1 ≠ c.operator ∧ Query.Entry IsPath m.1 m.2 := by
  obtain ⟨key, value⟩ := clause
  by_cases same : key = c.operator
  · cases entry with
    | field _ resolved =>
      have field := plain _ resolved
      cases c <;> simp [same, Connective.operator, Query.isOperator] at field
    | @connective c' members several flat entries =>
      refine ⟨members, by simp [operands, same], by omega, fun m member => ?_⟩
      exact ⟨same ▸ flat m member, entries m member⟩
  · refine ⟨[(key, value)], ?_, Nat.le_refl 1, fun m member => ?_⟩
    · cases value <;> simp [operands, document, same, Query.singles, Wire.single]
    · obtain rfl := List.mem_singleton.mp member
      exact ⟨same, entry⟩

/-- The clause of a predicate is an entry over the paths of its body. -/
theorem Expr.predicate?_entry {binding : String} {e : Expr} {clause : Clause}
    (translated : e.predicate? binding = some clause) (within : ∀ path ∈ e.pathsOn binding, IsPath path) :
    Query.Entry IsPath clause.key clause.value := by
  induction e using Expr.predicate?.induct generalizing clause with
  | case1 c left right ihl ihr =>
    simp only [predicate?, Option.bind_eq_bind, Option.bind_eq_some_iff] at translated
    obtain ⟨leftClause, readLeft, rightClause, readRight, same⟩ := translated
    cases same
    simp only [pathsOn, List.forall_mem_append] at within
    obtain ⟨first, firstSame, firstSome, firstFlat⟩ := Clause.operands_flat plain (ihl readLeft within.1) c
    obtain ⟨second, secondSame, secondSome, secondFlat⟩ :=
      Clause.operands_flat plain (ihr readRight within.2) c
    have all : ∀ m ∈ first ++ second, m.1 ≠ c.operator ∧ Query.Entry IsPath m.1 m.2 :=
      List.forall_mem_append.mpr ⟨firstFlat, secondFlat⟩
    rw [firstSame, secondSame, ← Query.singles_append]
    refine .connective ?_ (fun m member => (all m member).1) fun m member => (all m member).2
    rw [List.length_append]
    omega
  | case2 c left right =>
    simp only [predicate?, comparison?] at translated
    split at translated
    · rename_i path found
      simp only [Option.bind_eq_bind, Option.bind_eq_some_iff] at translated
      obtain ⟨constant, _, same⟩ := translated
      cases same
      exact .field _ (within _ (by simp [pathsOn, found]))
    · simp only [Option.bind_eq_bind, Option.bind_eq_some_iff] at translated
      obtain ⟨path, found, constant, _, same⟩ := translated
      cases same
      exact .field _ (within _ (by simp [pathsOn, found]))
  | case3 => cases translated
  | case4 inner =>
    simp only [predicate?, Option.bind_eq_bind, Option.bind_eq_some_iff] at translated
    obtain ⟨path, found, same⟩ := translated
    cases same
    exact .field _ (within _ (by simp [pathsOn, found]))
  | case5 field method arg =>
    simp only [predicate?, Option.bind_eq_bind, Option.bind_eq_some_iff] at translated
    obtain ⟨path, found, operand, _, same⟩ := translated
    cases same
    exact .field _ (within _ (by simp [pathsOn, found]))
  | case6 e notConnective notComparison notArithmetic notExistence notCall =>
    rw [predicate?.eq_6 _ _ notConnective notComparison notArithmetic notExistence notCall] at translated
    simp only [Option.bind_eq_bind, Option.bind_eq_some_iff] at translated
    obtain ⟨path, found, same⟩ := translated
    cases same
    -- Only an access chain has a path, and its paths are its own.
    have listed : path.dotted ∈ e.pathsOn binding := by
      cases e <;> first | cases found | simp [pathsOn, found]
    exact .field _ (within _ listed)

/-! ### Runs -/

theorem Draft.Run.query_normal {d final : Draft} {steps kept refused : List Step}
    (run : Run d steps kept refused final) (written : ∀ s ∈ steps, s.IsWritten)
    (within : ∀ body ∈ kept.filterMap Step.body?, ∀ path ∈ body.2.pathsOn body.1, IsPath path)
    (normal : Query.Normal IsPath d.query) : Query.Normal IsPath final.query := by
  induction run with
  | done => exact normal
  | @keep d d' _ s _ kept _ accepted _ ih =>
    rw [List.forall_mem_cons] at written
    cases body : s.body? with
    | none =>
      rw [List.filterMap_cons_none body] at within
      exact ih written.2 within (accept?_query accepted body ▸ normal)
    | some lambda =>
      rw [List.filterMap_cons_some body, List.forall_mem_cons] at within
      cases s with
      | predicate op binding e =>
        cases body
        obtain rfl : op = .operation .filter := written.1
        rw [accept?_filter, Except.ok.injEq, Option.map_eq_some_iff] at accepted
        obtain ⟨clause, translated, rfl⟩ := accepted
        have entry := Expr.predicate?_entry plain translated within.1
        have notAnd : ¬ IsPath "$and" := by
          intro resolved
          cases plain _ resolved
        exact ih written.2 within.2 (normal.addClause notAnd entry)
      | source => cases body
      | mutation => cases body
  | refuse _ _ ih =>
    rw [List.forall_mem_cons] at written
    exact ih written.2 within normal

end

/-! ### Compiled documents -/

/-- Whatever a chain compiles to, its update holds operators over operands that they take, and its query
is in normal form over the paths of its where bodies, unless one of these starts like an operator. -/
theorem Expr.documents_in_wire_form {e : Expr} {strict : Bool} {compiled : Compiled} {report : List Dropped}
    (accepted : e.compile strict = .ok (compiled, report)) :
    (∀ update, compiled.documents.updateDocument? = some update → Update.WellFormed update) ∧
      ((∀ path ∈ e.wherePaths, Query.isOperator path = false) →
        Query.Normal (· ∈ e.wherePaths) compiled.documents.queryDocument) := by
  obtain ⟨all, kept, refused, d, unwound, run, _, query, update⟩ := run_of_compile accepted
  have written := isWritten_of_steps unwound
  constructor
  · intro found isUpdate
    rw [update] at isUpdate
    split at isUpdate
    · cases isUpdate
      exact run.update_wellFormed written Update.WellFormed.nil
    · cases isUpdate
  · intro plain
    have bodies : kept.filterMap Step.body? = e.whereBodies.filter isTranslated := by
      rw [(run.bodies written).1, bodies_of_steps unwound]
    rw [query]
    refine run.query_normal plain written (fun body member path found => ?_) Query.Normal.nil
    rw [bodies] at member
    exact List.mem_flatMap.mpr ⟨body, member, found⟩

/-- Two alternatives that meet at `$or`, the first one nested, and two updates of counters. -/
def renewal : Expr :=
  let field (name : String) := Expr.member (.binding "p") name
  let target (name : String) := Expr.lambda "p" (field name)
  let either (left right : Expr) := Expr.binary (.connective .or) left right
  let body (e : Expr) := [Expr.lambda "p" e]
  .call (.call (.call (.call .root
    "where" (body (either (field "vip") (either (field "trial") (field "staff")))))
    "where" (body (either (field "due") (.binary (.comparison .less) (field "age") (.integer 18)))))
    "inc" [target "visits", .integer 1])
    "bit_or" [target "flags", .integer 4]

theorem renewal_documents_in_wire_form :
    let query : Document :=
      [("$or", .array [.single "vip" (.bool true), .single "trial" (.bool true), .single "staff" (.bool true)]),
        ("$and", .array [.single "$or"
          (.array [.single "due" (.bool true), .single "age" (.single "$lt" (.int 18))])])]
    let update : Document :=
      [("$inc", .single "visits" (.int 1)), ("$bit", .single "flags" (.single "or" (.int 4)))]
    renewal.compile true = .ok (.update query update (some .root), []) ∧
      renewal.wherePaths = ["vip", "trial", "staff", "due", "age"] ∧
      Update.WellFormed update ∧ Query.Normal (· ∈ renewal.wherePaths) query := by
  intro query update
  have accepted : renewal.compile true = .ok (.update query update (some .root), []) := rfl
  have paths : renewal.wherePaths = ["vip", "trial", "staff", "due", "age"] := rfl
  obtain ⟨formed, normal⟩ := Expr.documents_in_wire_form accepted
  have plain : ∀ path ∈ renewal.wherePaths, Query.isOperator path = false := by
    rw [paths]
    decide
  exact ⟨accepted, paths, formed update rfl, normal plain⟩

end DocChain
