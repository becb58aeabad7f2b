import DocChain.Proofs.Refusal
import DocChain.Proofs.Stacks

/-!
# Modifiers of a refused list push

A modifier looks for its fragment by the path alone. So the modifiers of a refused `push_each` are
refused with it as long as nothing is pushed to its field before; an earlier push to the field is met
in place of the missing one.
-/

namespace DocChain

/-! ### Steps of a stack -/

namespace Step

/-- The step of a modifier on a field. -/
def ofModifier (binding : String) (path : FieldPath) (entry : Modifier × Expr) : Step :=
  .mutation (.modifier entry.1) binding path entry.2

/-- The steps of a list push and of the modifiers on it. -/
def stack (binding : String) (path : FieldPath) (operand : Expr) (mods : List (Modifier × Expr)) :
    List Step :=
  .mutation (.operation .pushEach) binding path operand :: mods.map (ofModifier binding path)

end Step

/-- What the report says of a list push and of the modifiers on it. -/
def Dropped.stack (operand : Expr) (mods : List (Modifier × Expr)) : List Dropped :=
  ⟨.operation .pushEach, operand⟩ :: mods.map fun entry => ⟨.modifier entry.1, entry.2⟩

theorem Dropped.stack_of_steps (binding : String) (path : FieldPath) (operand : Expr)
    (mods : List (Modifier × Expr)) :
    (Step.stack binding path operand mods).map Step.dropped? = (Dropped.stack operand mods).map some := by
  simp [Step.stack, stack, Step.dropped?, Step.ofModifier, Function.comp_def]

namespace Expr

/-- A stack of calls writes a stack of steps. -/
theorem steps_of_modified {receiver target value : Expr} {mods : List (Modifier × Expr)} {binding : String}
    {path : FieldPath} {all : List Step} (resolves : target.resolve = .ok (binding, path))
    (unwound : ((receiver.pushEach target value).modified mods).steps = .ok all) :
    ∃ before, receiver.steps = .ok before ∧
      all = before ++ Step.stack binding path (value.mutationValue .pushEach binding) mods := by
  induction mods using List.reverseRecOn generalizing all with
  | nil =>
    obtain ⟨c, before, read, written, rfl⟩ := steps_call unwound
    rcases recognizeCall_cases read with ⟨_, impossible, _⟩ | ⟨_, impossible, _⟩ | ⟨s, rfl, writes⟩
    · exact absurd impossible (by decide)
    · exact absurd impossible (by decide)
    · obtain ⟨_, _, resolves', rfl⟩ := writes.of_pushEach
      rw [resolves] at resolves'
      cases resolves'
      exact ⟨before, written, rfl⟩
  | append_singleton mods entry ih =>
    obtain ⟨m, arg⟩ := entry
    rw [modified_snoc] at unwound
    obtain ⟨c, below, read, written, rfl⟩ := steps_call unwound
    obtain ⟨before, start, rfl⟩ := ih written
    have named := Operator.ofMethod?_method (.modifier m)
    rcases recognizeCall_cases read with ⟨_, marker, _⟩ | ⟨_, marker, _⟩ | ⟨s, rfl, writes⟩
    · rw [marker] at named
      cases named
    · rw [marker] at named
      cases named
    · obtain ⟨node, _, target', sorted, _, _, given, found, _, resolves', rfl⟩ := writes.of_modifier named
      cases given
      rw [pushEachBelow_modified] at found
      cases found
      rw [resolves] at resolves'
      cases resolves'
      exact ⟨before, start, by simp [Step.stack, Step.ofModifier, Call.steps]⟩

/-- Calls written behind a chain add steps behind its own. -/
theorem steps_of_withCalls {e : Expr} {calls : List (String × List Expr)} {all : List Step}
    (unwound : (e.withCalls calls).steps = .ok all) :
    ∃ before after, e.steps = .ok before ∧ all = before ++ after := by
  induction calls using List.reverseRecOn generalizing all with
  | nil => exact ⟨all, [], unwound, (List.append_nil all).symm⟩
  | append_singleton calls entry ih =>
    obtain ⟨method, args⟩ := entry
    rw [withCalls_snoc] at unwound
    obtain ⟨c, earlier, _, written, rfl⟩ := steps_call unwound
    obtain ⟨before, after, start, rfl⟩ := ih written
    exact ⟨before, after ++ c.steps, start, List.append_assoc ..⟩

end Expr

/-! ### Runs over a refused stack -/

namespace Draft

/-- Over a field without a push the modifiers of a refused list push are refused. -/
theorem Run.refused_stack {d : Draft} {binding : String} {path : FieldPath} {operand : Expr}
    {mods : List (Modifier × Expr)} (refused : operand.list? = none)
    (keyed : ∀ entry ∈ mods, ∃ patch, entry.1.patch? entry.2 = .ok patch)
    (nothing : pushed? d.update path.dotted = none) :
    Run d (Step.stack binding path operand mods) [] (Step.stack binding path operand mods) d := by
  refine .refuse ?_ ?_
  · simp [accept?, Operation.clause?, Operation.fieldClause?, refused]
  · induction mods with
    | nil => exact .done d
    | cons entry mods ih =>
      rw [List.forall_mem_cons] at keyed
      obtain ⟨⟨patch, read⟩, others⟩ := keyed
      refine .refuse ?_ (ih others)
      cases patch with
      | none => simp [Step.ofModifier, accept?, read, bind, Except.bind, pure, Except.pure]
      | some patch =>
        simp [Step.ofModifier, accept?, read, Patch.apply_eq_none_iff.mpr nothing, bind, Except.bind, pure,
          Except.pure]

/-- Steps without a mutation leave an empty update empty. -/
theorem Run.update_empty_of_steps {d final : Draft} {steps kept refused : List Step}
    (run : Run d steps kept refused final) (harmless : steps.any Step.mutates = false)
    (empty : d.update = []) : final.update = [] := by
  refine run.update_empty ?_ empty
  simp only [List.any_eq_false] at harmless ⊢
  intro s member
  exact harmless s (run.kept_subset member)

end Draft

/-! ### Compiled chains -/

/-- If nothing has been pushed to its field, a refused list push takes its modifiers with it: the chain
compiles as without them, to the same documents, and the report names them behind what comes before. -/
theorem Expr.refused_push_refuses_modifiers {receiver target value : Expr} {mods : List (Modifier × Expr)}
    {later : List (String × List Expr)} {chain : Chain} {binding : String} {path : FieldPath}
    {earlier : Compiled} {dropped : List Dropped}
    (unwound : (((receiver.pushEach target value).modified mods).withCalls later).chain = .ok chain)
    (resolves : target.resolve = .ok (binding, path))
    (refused : (value.mutationValue .pushEach binding).list? = none)
    (keyed : ∀ entry ∈ mods, ∃ patch, entry.1.patch? entry.2 = .ok patch)
    (compiles : receiver.compile false = .ok (earlier, dropped))
    (nothing : ∀ update, earlier.documents.updateDocument? = some update →
      pushed? update path.dotted = none) :
    ∃ before after, receiver.steps = .ok before ∧
      chain.steps = before ++ Step.stack binding path (value.mutationValue .pushEach binding) mods ++ after ∧
      ∀ compiled report, { chain with steps := before ++ after }.assemble false = .ok (compiled, report) →
        ∃ whole more, report = dropped ++ more ∧
          chain.assemble false =
            .ok (whole, dropped ++ Dropped.stack (value.mutationValue .pushEach binding) mods ++ more) ∧
          whole.documents.queryDocument = compiled.documents.queryDocument ∧
          whole.documents.updateDocument? = some (compiled.documents.updateDocument?.getD []) := by
  obtain ⟨stacked, after, written, whole⟩ := steps_of_withCalls (steps_of_chain unwound)
  obtain ⟨before, start, rfl⟩ := steps_of_modified resolves written
  refine ⟨before, after, start, whole, fun compiled report assembled => ?_⟩
  -- The receiver's own run is the first part of the run without the stack.
  obtain ⟨all, kept₁, refused₁, d₁, start', run₁, entries₁, _, update₁⟩ := run_of_compile compiles
  rw [start] at start'
  cases start'
  obtain ⟨kept, refusedAll, d, run, entries, rfl, _⟩ := Chain.assemble_eq_ok_iff.mp assembled
  obtain ⟨middle, kept₁', kept₂, refused₁', refused₂, rfl, rfl, first, second⟩ := run.split
  obtain ⟨rfl, rfl⟩ := run₁.unique first
  have missing : pushed? d₁.update path.dotted = none := by
    cases mutates : before.any Step.mutates with
    | true => exact nothing _ (by rw [update₁, mutates]; rfl)
    | false =>
      rw [first.update_empty_of_steps mutates rfl]
      rfl
  let stack := Step.stack binding path (value.mutationValue .pushEach binding) mods
  have passed : Draft.Run d₁ stack [] stack d₁ := Draft.Run.refused_stack refused keyed missing
  have run' := (first.append passed).append second
  rw [← whole] at run'
  rw [List.map_append, entries₁] at entries
  obtain ⟨same, more, rfl, front, back⟩ := List.map_eq_append_iff.mp entries.symm
  obtain rfl : same = dropped := List.map_inj_right (fun _ _ => Option.some.inj) |>.mp front
  have listed : (refused₁ ++ Step.stack binding path (value.mutationValue .pushEach binding) mods ++
      refused₂).map Step.dropped? =
      (same ++ Dropped.stack (value.mutationValue .pushEach binding) mods ++ more).map some := by
    simp only [List.map_append, Dropped.stack_of_steps, entries₁, back]
  refine ⟨_, more, rfl, Chain.assemble_eq_ok_iff.mpr ⟨_, _, d, run', listed, rfl, by simp⟩,
    by simp [Assembly.after], ?_⟩
  -- The refused push counts as a mutation, so there is an update in any case.
  have mutates : chain.steps.any Step.mutates = true := by
    rw [whole]
    simp [Step.stack, Step.mutates]
  simp only [Assembly.updateDocument?_compiled, Assembly.after, mutates, Bool.or_true, if_true]
  split
  · rfl
  · rename_i noMutation
    rw [run.update_empty_of_steps (by simpa using noMutation) rfl]
    rfl

/-- One item for the field `xs`. -/
def onePushed : Expr :=
  Expr.root.pushEach (.lambda "p" (.member (.binding "p") "xs")) (.array [.integer 1])

/-- A value that is no list for a field, with a count on it, behind `onePushed`. -/
def countBehind (field : String) : Expr :=
  (onePushed.pushEach (.lambda "p" (.member (.binding "p") field)) (.member (.binding "p") "y")).modified
    [(.slice, .integer 2)]

/-- On the same field the count reaches the fragment of the earlier push, and the report leaves it out. -/
theorem count_patches_earlier_push :
    onePushed.compile false =
        .ok (.update [] [("$push", .single "xs" (.single "$each" (.array [.int 1])))] (some .root), []) ∧
      (countBehind "xs").compile false =
        .ok (.update [] [("$push", .single "xs" (.object [("$each", .array [.int 1]), ("$slice", .int (-2))]))]
          (some .root), [⟨.operation .pushEach, .member (.binding "p") "y"⟩]) :=
  ⟨rfl, rfl⟩

/-- On another field it is refused with its push. -/
theorem count_refused_with_push :
    ∃ chain before after, (countBehind "ys").chain = .ok chain ∧ onePushed.steps = .ok before ∧
      chain.steps = before ++ Step.stack "p" ⟨[.field "ys"], by simp⟩ (.member (.binding "p") "y")
        [(.slice, .integer 2)] ++ after ∧
      ∀ compiled report, { chain with steps := before ++ after }.assemble false = .ok (compiled, report) →
        ∃ whole more, report = [] ++ more ∧
          chain.assemble false = .ok (whole,
            [] ++ Dropped.stack (.member (.binding "p") "y") [(.slice, .integer 2)] ++ more) ∧
          whole.documents.queryDocument = compiled.documents.queryDocument ∧
          whole.documents.updateDocument? = some (compiled.documents.updateDocument?.getD []) := by
  let target := Expr.lambda "p" (.member (.binding "p") "ys")
  have unwound : ((countBehind "ys").withCalls []).chain = .ok _ := rfl
  have resolves : target.resolve = .ok ("p", ⟨[.field "ys"], by simp⟩) := rfl
  have refused : ((Expr.member (.binding "p") "y").mutationValue .pushEach "p").list? = none := rfl
  have keyed : ∀ entry ∈ [(Modifier.slice, Expr.integer 2)], ∃ patch, entry.1.patch? entry.2 = .ok patch := by
    intro entry member
    obtain rfl := List.mem_singleton.mp member
    exact ⟨some (.slice (-2)), rfl⟩
  have nothing : ∀ update, some [("$push", Wire.single "xs" (.single "$each" (.array [.int 1])))] = some update →
      pushed? update "ys" = none := by
    rintro _ ⟨⟩
    rfl
  have compiles : onePushed.compile false = .ok (.update [] _ (some .root), []) := rfl
  obtain ⟨before, after, start, stacked, same⟩ :=
    Expr.refused_push_refuses_modifiers unwound resolves refused keyed compiles nothing
  exact ⟨_, before, after, unwound, start, stacked, same⟩

end DocChain
