import DocChain.Proofs.Interleaving
import DocChain.Proofs.RefusedPush
import DocChain.Proofs.UpdateForm

/-!
# The entries of an update

An update holds the operands that its chain wrote, each operator and each field where it first
appeared. The last operand of a field counts. Only what is pushed is changed later, by the modifiers of
its field.
-/

namespace DocChain

/-- An operand for a field under an operator. -/
@[ext]
structure UpdateEntry where
  operator : String
  field : String
  operand : Wire

/-- What an update clause writes. -/
def Clause.written? (c : Clause) : Option UpdateEntry :=
  match c.value with
  | .object [(field, operand)] => some ⟨c.key, field, operand⟩
  | _ => none

/-- The pushed operand with a patch. -/
def Patch.onOperand (patch : Patch) : Wire → Wire
  | .object fragment =>
    match patch.edit fragment with
    | .ok edited => .object (inWireOrder edited)
    | .error _ => .object fragment
  | operand => operand

namespace Step

/-- What a mutation writes, if it has a clause. -/
def written? : Step → Option UpdateEntry
  | mutation (.operation op) binding path e => (op.clause? binding (some path) e).bind Clause.written?
  | _ => none

/-- What a step makes of the operand that is pushed to a field: a modifier of that field patches it. -/
def patched (field : String) (operand : Wire) : Step → Wire
  | mutation (.modifier m) _ path e =>
    if path.dotted = field then
      match m.patch? e with
      | .ok (some patch) => patch.onOperand operand
      | _ => operand
    else operand
  | _ => operand

theorem patched_of_entry {s : Step} {entry : UpdateEntry} (wrote : s.written? = some entry) (field : String)
    (operand : Wire) : s.patched field operand = operand := by
  cases s with
  | source | predicate => cases wrote
  | mutation op =>
    cases op with
    | operation => rfl
    | modifier => cases wrote

section

variable {op : Operation} {binding : String} {path : FieldPath} {e : Expr}

theorem written?_of_clause {c : Clause} (written : (mutation (.operation op) binding path e).IsWritten)
    (read : op.clause? binding (some path) e = some c) :
    ∃ operator operand, c = .update operator path operand ∧
      (mutation (.operation op) binding path e).written? = some ⟨operator, path.dotted, operand⟩ := by
  have notFilter : op ≠ .filter := fun same => written (congrArg Operator.operation same)
  obtain ⟨operator, operand, rfl, _⟩ := Operation.fieldClause?_isUpdate read notFilter
  refine ⟨operator, operand, rfl, ?_⟩
  rw [written?, read]
  rfl

theorem written?_eq_none_iff (written : (mutation (.operation op) binding path e).IsWritten) :
    (mutation (.operation op) binding path e).written? = none ↔ op.clause? binding (some path) e = none := by
  constructor
  · intro silent
    cases read : op.clause? binding (some path) e with
    | none => rfl
    | some c =>
      obtain ⟨operator, operand, _, wrote⟩ := written?_of_clause written read
      rw [silent] at wrote
      cases wrote
  · intro refused
    rw [written?, refused]
    rfl

end

theorem isMutation_of_mutates {s : Step} (changes : s.mutates = true) : s.isMutation = true := by
  cases s with
  | source | predicate => cases changes
  | mutation => rfl

def WritesTo (operator field : String) (s : Step) : Prop :=
  ∃ entry, s.written? = some entry ∧ entry.operator = operator ∧ entry.field = field

end Step

/-- The entries that steps write, in the order of writing. -/
def entriesOf (steps : List Step) : List UpdateEntry :=
  steps.filterMap Step.written?

/-- Whether a value is the last operand that steps write to a field under an operator, if it is pushed
with the patches of the modifiers behind it. -/
def LastOperand (steps : List Step) (operator field : String) (value : Wire) : Prop :=
  ∃ before s after operand, steps = before ++ s :: after ∧ s.written? = some ⟨operator, field, operand⟩ ∧
    (∀ t ∈ after, ¬ t.WritesTo operator field) ∧
    value = if operator = "$push" then after.foldl (Step.patched field) operand else operand

/-- Whether an update holds what steps write and nothing else, in the order of writing. -/
structure Update.Holds (steps : List Step) (update : Document) : Prop where
  operators : update.keys = ((entriesOf steps).map UpdateEntry.operator).eraseDups
  fields : ∀ operator, (operands update operator).keys =
    (((entriesOf steps).filter (·.operator = operator)).map UpdateEntry.field).eraseDups
  values : ∀ operator field value,
    (operands update operator).get? field = some value ↔ LastOperand steps operator field value

/-! ### Lists that grow at the end -/

theorem LastOperand.snoc {steps : List Step} {s : Step} {operator field : String} {value : Wire} :
    LastOperand (steps ++ [s]) operator field value ↔
      (s.written? = some ⟨operator, field, value⟩ ∨
        ¬ s.WritesTo operator field ∧ ∃ old, LastOperand steps operator field old ∧
          value = if operator = "$push" then s.patched field old else old) := by
  constructor
  · rintro ⟨before, t, after, operand, whole, wrote, none, rfl⟩
    rcases snoc_eq_append_cons whole with ⟨rfl, rfl, rfl⟩ | ⟨rest, rfl, rfl⟩
    · left
      simpa using wrote
    · right
      refine ⟨none s (by simp), _, ⟨before, t, rest, operand, rfl, wrote, ?_, rfl⟩, ?_⟩
      · exact fun t member => none t (List.mem_append_left _ member)
      · split <;> simp
  · rintro (wrote | ⟨quiet, old, ⟨before, t, after, operand, rfl, wrote, none, rfl⟩, rfl⟩)
    · exact ⟨steps, s, [], value, rfl, wrote, by simp, by simp⟩
    · refine ⟨before, t, after ++ [s], operand, by simp, wrote, ?_, ?_⟩
      · intro u member
        rcases List.mem_append.mp member with early | last
        · exact none u early
        · obtain rfl := List.mem_singleton.mp last
          exact quiet
      · split <;> simp

theorem entriesOf_snoc (steps : List Step) (s : Step) :
    entriesOf (steps ++ [s]) = entriesOf steps ++ s.written?.toList := by
  rw [entriesOf, List.filterMap_append]
  cases written : s.written? <;> simp [entriesOf, written]

namespace Update

/-! ### One more clause or patch -/

namespace Holds

variable {steps : List Step} {update update' : Document} {s : Step}

theorem nil : Holds [] [] := by
  refine ⟨rfl, fun operator => rfl, fun operator field value => ?_⟩
  constructor
  · intro found
    cases found
  · rintro ⟨before, s, after, operand, whole, _⟩
    simp at whole

theorem write {entry : UpdateEntry} {path : FieldPath} (holds : Holds steps update)
    (wrote : s.written? = some entry) (aims : path.dotted = entry.field) :
    Holds (steps ++ [s]) ((Clause.update entry.operator path entry.operand).addToUpdate update) := by
  rw [addToUpdate_eq]
  have entries : entriesOf (steps ++ [s]) = entriesOf steps ++ [entry] := by
    rw [entriesOf_snoc, wrote]
    rfl
  refine ⟨?_, fun operator => ?_, fun operator field value => ?_⟩
  · rw [Fields.keys_insert, holds.operators, entries, List.map_append, List.map_singleton, eraseDups_snoc]
    simp only [List.mem_eraseDups]
  · rw [operands_insert, entries, List.filter_append]
    split
    · rename_i same
      subst same
      have last : [entry].filter (·.operator = entry.operator) = [entry] := by simp
      rw [Fields.keys_insert, holds.fields, aims, last, List.map_append, List.map_singleton, eraseDups_snoc]
      simp only [List.mem_eraseDups]
    · rename_i other
      simp [other, holds.fields]
  · rw [LastOperand.snoc, operands_insert]
    by_cases here : entry.operator = operator ∧ entry.field = field
    · obtain ⟨rfl, rfl⟩ := here
      have aimed : s.WritesTo entry.operator entry.field := ⟨entry, wrote, rfl, rfl⟩
      rw [if_pos rfl, aims, Fields.get?_insert_self, wrote]
      simp [aimed, UpdateEntry.ext_iff]
    · have elsewhere : ¬ s.WritesTo operator field := by
        rintro ⟨other, wrote', aimed⟩
        rw [wrote] at wrote'
        cases wrote'
        exact here aimed
      have same : Fields.get? (if entry.operator = operator then
          Fields.insert (operands update entry.operator) path.dotted entry.operand
          else operands update operator) field = (operands update operator).get? field := by
        split
        · rename_i operator
          subst operator
          exact Fields.get?_insert_of_ne _ _ fun field => here ⟨rfl, aims ▸ field⟩
        · rfl
      rw [same, holds.values, wrote]
      simp only [Step.patched_of_entry wrote, ite_self]
      constructor
      · exact fun found => .inr ⟨elsewhere, value, found, rfl⟩
      · rintro (now | ⟨_, old, found, rfl⟩)
        · cases now
          exact absurd ⟨rfl, rfl⟩ here
        · exact found

/-- A step that writes nothing leaves the entries, save for what it makes of a pushed operand. -/
theorem quiet (holds : Holds steps update) (silent : s.written? = none) (keys : update'.keys = update.keys)
    (fields : ∀ operator, (operands update' operator).keys = (operands update operator).keys)
    (values : ∀ operator field, (operands update' operator).get? field =
      if operator = "$push" then ((operands update operator).get? field).map (Step.patched field · s)
      else (operands update operator).get? field) :
    Holds (steps ++ [s]) update' := by
  have entries : entriesOf (steps ++ [s]) = entriesOf steps := by
    rw [entriesOf_snoc, silent]
    exact List.append_nil _
  refine ⟨by rw [keys, holds.operators, entries], fun operator => by rw [fields, holds.fields, entries],
    fun operator field value => ?_⟩
  have notWritten : ¬ s.WritesTo operator field := by
    rintro ⟨entry, wrote, _⟩
    rw [silent] at wrote
    cases wrote
  rw [LastOperand.snoc, values]
  simp only [silent, notWritten, ← holds.values]
  split
  · rw [Option.map_eq_some_iff]
    simp [eq_comm (a := value)]
  · simp

theorem same (holds : Holds steps update) (silent : s.written? = none)
    (unpatched : ∀ field operand, pushed? update field = some operand → s.patched field operand = operand) :
    Holds (steps ++ [s]) update := by
  refine holds.quiet silent rfl (fun _ => rfl) fun operator field => ?_
  split
  · rename_i push
    subst push
    rw [← pushed?_eq]
    cases found : pushed? update field with
    | none => rfl
    | some operand => rw [Option.map_some, unpatched field operand found]
  · rfl

/-- A modifier that is accepted patches what is pushed to its field. -/
theorem patch {m : Modifier} {binding : String} {path : FieldPath} {e : Expr} {patch : Patch}
    (holds : Holds steps update) (read : m.patch? e = .ok (some patch))
    (applied : patch.apply path update = .ok (some update')) :
    Holds (steps ++ [.mutation (.modifier m) binding path e]) update' := by
  obtain ⟨pushes, fragment, edited, written, member, edits, rfl⟩ := Patch.of_apply applied
  have before := operands_of_get? written
  refine holds.quiet rfl ?_ (fun operator => ?_) fun operator field => ?_
  · rw [Fields.keys_insert, if_pos (Fields.mem_keys_of_get? written)]
  · rw [operands_insert]
    split
    · rename_i push
      rw [← push, before, Fields.keys_insert, if_pos (Fields.mem_keys_of_get? member)]
    · rfl
  · rw [operands_insert]
    by_cases push : "$push" = operator
    · subst push
      rw [if_pos rfl, if_pos rfl, before, Fields.get?_insert]
      simp only [Step.patched]
      split
      · rename_i here
        subst here
        simp [member, read, Patch.onOperand, edits]
      · rw [Option.map_id']
    · rw [if_neg push, if_neg (Ne.symm push)]

end Holds

end Update

/-! ### Runs -/

namespace Draft

theorem holds_of_accept {d d' : Draft} {steps : List Step} {s : Step} (holds : Update.Holds steps d.update)
    (written : s.IsWritten) (accepted : d.accept? s = .ok (some d')) :
    Update.Holds (steps ++ [s]) d'.update := by
  cases s with
  | source | predicate =>
    have same : d'.update = d.update := mutations_own_update.outside rfl accepted
    rw [same]
    exact holds.same rfl fun _ _ _ => rfl
  | mutation op binding path e =>
    cases op with
    | operation op =>
      simp only [accept?, Except.ok.injEq, Option.map_eq_some_iff] at accepted
      obtain ⟨c, read, rfl⟩ := accepted
      obtain ⟨operator, operand, rfl, wrote⟩ := Step.written?_of_clause written read
      exact holds.write wrote rfl
    | modifier m =>
      obtain ⟨patch, update, read, applied, rfl⟩ := accept?_modifier accepted
      exact holds.patch read applied

theorem holds_of_refuse {d : Draft} {steps : List Step} {s : Step} (holds : Update.Holds steps d.update)
    (rejected : d.accept? s = .ok none) : Update.Holds (steps ++ [s]) d.update := by
  cases s with
  | source s => cases rejected
  | predicate => exact holds.same rfl fun _ _ _ => rfl
  | mutation op binding path e =>
    cases op with
    | operation op =>
      simp only [accept?, Except.ok.injEq, Option.map_eq_none_iff] at rejected
      exact holds.same (by rw [Step.written?, rejected]; rfl) fun _ _ _ => rfl
    | modifier m =>
      refine holds.same rfl fun field operand pushed => ?_
      simp only [Step.patched]
      split
      · rename_i here
        subst here
        obtain ⟨found, read, missed⟩ := bind_eq_ok.mp rejected
        cases found with
        | none => rw [read]
        | some patch =>
          obtain ⟨applied, missed, same⟩ := bind_eq_ok.mp missed
          cases applied with
          | none =>
            rw [Patch.apply_eq_none_iff.mp missed] at pushed
            cases pushed
          | some update => cases same
      · rfl

theorem Run.holds {final : Draft} {steps kept refused : List Step} (run : Run {} steps kept refused final)
    (written : ∀ s ∈ steps, s.IsWritten) : Update.Holds steps final.update := by
  -- From the end: the last operand counts, and a patch meets what is written before it.
  induction steps using List.reverseRecOn generalizing final kept refused with
  | nil =>
    cases run
    exact .nil
  | append_singleton steps s ih =>
    obtain ⟨middle, _, _, _, _, _, _, first, last⟩ := run.split
    have before := ih first fun t member => written t (List.mem_append_left _ member)
    cases last with
    | keep accepted tail =>
      cases tail
      exact holds_of_accept before (written s (by simp)) accepted
    | refuse rejected tail =>
      cases tail
      exact holds_of_refuse before rejected

theorem Run.mem_refused {d final : Draft} {steps kept refused : List Step} {s : Step}
    (run : Run d steps kept refused final) (member : s ∈ steps) (never : ∀ d : Draft, d.accept? s = .ok none) :
    s ∈ refused := by
  induction run with
  | done => cases member
  | @keep d _ _ t _ _ _ accepted _ ih =>
    rcases List.mem_cons.mp member with rfl | later
    · rw [never d] at accepted
      cases accepted
    · exact ih later
  | refuse _ _ ih =>
    rcases List.mem_cons.mp member with rfl | later
    · exact List.mem_cons_self
    · exact List.mem_cons_of_mem _ (ih later)

end Draft

/-! ### Compiled chains -/

/-- A modifier stands behind the list push that it is written on, so a chain with a modifier has an
operation as well. -/
theorem Expr.mutates_of_isMutation {e : Expr} {all : List Step} (unwound : e.steps = .ok all) {s : Step}
    (member : s ∈ all) (mutation : s.isMutation = true) : all.any Step.mutates = true := by
  cases s with
  | source | predicate => cases mutation
  | mutation op binding path arg =>
    cases op with
    | operation op => exact List.any_eq_true.mpr ⟨_, member, rfl⟩
    | modifier m =>
      obtain ⟨before, after, rfl⟩ := List.append_of_mem member
      obtain ⟨receiver, method, args, calls, _, written, writes, _⟩ := calls_of_steps unwound rfl
      cases writes with
      | modifier below ordered resolves =>
        obtain ⟨base, value, mods, rfl⟩ := modified_of_pushEachBelow below written
        rw [pushEachBelow_modified] at below
        cases below
        obtain ⟨earlier, _, rfl⟩ := steps_of_modified resolves written
        simp [Step.stack, Step.mutates]

theorem Update.Holds.eq_nil_iff {steps : List Step} {update : Document} (holds : Update.Holds steps update)
    (written : ∀ s ∈ steps, s.IsWritten) :
    update = [] ↔ ∀ op binding path arg, .mutation (.operation op) binding path arg ∈ steps →
      op.clause? binding (some path) arg = none := by
  have keys : update = [] ↔ update.keys = [] := by simp [Fields.keys]
  have nothing : ((entriesOf steps).map UpdateEntry.operator).eraseDups = [] ↔ entriesOf steps = [] := by
    cases entriesOf steps <;> simp [List.eraseDups_cons]
  rw [keys, holds.operators, nothing, entriesOf, List.filterMap_eq_nil_iff]
  constructor
  · intro silent op binding path arg member
    exact (Step.written?_eq_none_iff (written _ member)).mp (silent _ member)
  · intro refused s member
    cases s with
    | source | predicate => rfl
    | mutation op binding path arg =>
      cases op with
      | modifier => rfl
      | operation op => exact (Step.written?_eq_none_iff (written _ member)).mpr (refused _ _ _ _ member)

/-- Without a refused step, a chain with an operation writes an entry. -/
theorem Draft.Run.update_ne_nil {steps kept : List Step} {final : Draft} (run : Run {} steps kept [] final)
    (written : ∀ s ∈ steps, s.IsWritten) (mutates : steps.any Step.mutates = true) : final.update ≠ [] := by
  intro empty
  obtain ⟨s, member, changes⟩ := List.any_eq_true.mp mutates
  cases s with
  | source | predicate => cases changes
  | mutation op binding path arg =>
    cases op with
    | modifier => cases changes
    | operation op =>
      have never := ((run.holds written).eq_nil_iff written).mp empty op binding path arg member
      have refused := run.mem_refused member fun d => by simp [accept?, never]
      cases refused

/-- The update of a compiled chain holds what its mutations wrote, and it is empty only if all of them
were refused. -/
theorem Expr.update_holds_mutations {e : Expr} {strict : Bool} {compiled : Compiled} {report : List Dropped}
    (accepted : e.compile strict = .ok (compiled, report)) :
    ∃ chain, e.chain = .ok chain ∧
      (compiled.documents.updateDocument?.isSome ↔ ∃ s ∈ chain.steps, s.isMutation = true) ∧
      ∀ update, compiled.documents.updateDocument? = some update →
        Update.Holds chain.steps update ∧
        (∀ operator ∈ update.keys, update.get? operator = some (.object (Update.operands update operator))) ∧
        (update = [] ↔ ∀ op binding path arg, .mutation (.operation op) binding path arg ∈ chain.steps →
          op.clause? binding (some path) arg = none) ∧
        (strict = true → update ≠ []) := by
  obtain ⟨chain, unwound, assembled⟩ := bind_eq_ok.mp accepted
  obtain ⟨kept, refused, d, run, _, rfl, clean⟩ := Chain.assemble_eq_ok_iff.mp assembled
  have all := steps_of_chain unwound
  have written := isWritten_of_steps all
  have holds := run.holds written
  have mode : ((Assembly.after {} chain.steps d report).compiled chain.deferred).documents.updateDocument? =
      if chain.steps.any Step.mutates then some d.update else none := by
    simp [Assembly.after]
  rw [mode]
  refine ⟨chain, unwound, ?_, ?_⟩
  · rw [Option.isSome_ite]
    constructor
    · intro mutates
      obtain ⟨s, member, changes⟩ := List.any_eq_true.mp mutates
      exact ⟨s, member, Step.isMutation_of_mutates changes⟩
    · rintro ⟨s, member, mutation⟩
      exact mutates_of_isMutation all member mutation
  · intro update isUpdate
    obtain ⟨mutates, same⟩ := Option.ite_none_right_eq_some.mp isUpdate
    cases same
    have formed := run.update_wellFormed written Update.WellFormed.nil
    refine ⟨holds, fun operator member => ?_, holds.eq_nil_iff written, ?_⟩
    · cases found : d.update.get? operator with
      | none => exact absurd member ((Fields.get?_eq_none_iff _ _).mp found)
      | some value =>
        obtain ⟨fields, rfl, _⟩ := formed.operands _ (Fields.mem_of_get? found)
        rw [Update.operands_of_get? found]
    · intro isStrict
      have clean := clean isStrict
      subst clean
      exact run.update_ne_nil written mutates

/-- A counter, a name that is written twice, two pushed items of which the last is kept, and a counter
whose amount is no number. -/
def standings : Expr :=
  let target (name : String) := Expr.lambda "p" (.member (.binding "p") name)
  let begun := (Expr.root.call "inc" [target "plays", .integer 1]).call "set" [target "name", .string "a"]
  let pushed := (begun.pushEach (target "scores") (.array [.integer 7, .integer 9])).modified [(.slice, .integer 1)]
  (pushed.call "set" [target "name", .string "b"]).call "inc" [target "likes", .string "x"]

theorem standings_update_holds :
    let update : Document := [("$inc", .single "plays" (.int 1)), ("$set", .single "name" (.string "b")),
      ("$push", .single "scores" (.object [("$each", .array [.int 7, .int 9]), ("$slice", .int (-1))]))]
    standings.compile false = .ok (.update [] update (some .root), [⟨.operation .increment, .string "x"⟩]) ∧
      ∃ chain, standings.chain = .ok chain ∧ Update.Holds chain.steps update ∧
        LastOperand chain.steps "$set" "name" (.string "b") := by
  intro update
  have accepted : standings.compile false =
    .ok (.update [] update (some .root), [⟨.operation .increment, .string "x"⟩]) := rfl
  obtain ⟨chain, unwound, _, entries⟩ := Expr.update_holds_mutations accepted
  have holds := (entries update rfl).1
  exact ⟨accepted, chain, unwound, holds, (holds.values "$set" "name" _).mp rfl⟩

end DocChain
