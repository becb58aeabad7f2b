import DocChain.Proofs.Refusal
import DocChain.Proofs.Stacks

/-!
# Modifiers meet their fragments

The calls below a modifier lead to a `push_each`, whose field holds the fragment of the stack that
has been written so far. Calls behind the stack that push elsewhere leave it alone.
-/

namespace DocChain

namespace Expr

/-! ### Drafts of expressions -/

/-- A draft that the steps of an expression leave when they refuse no `push_each`. -/
def Leaves (e : Expr) (d : Draft) : Prop :=
  ∃ all kept refused, e.steps = .ok all ∧ Draft.Run {} all kept refused d ∧
    ∀ s ∈ refused, ∀ r, s.dropped? = some r → r.operator ≠ .operation .pushEach

/-- The last call of an expression is a marker, or its step is added to what the receiver leaves. -/
theorem Leaves.call {receiver : Expr} {method : String} {args : List Expr} {d : Draft}
    (left : (call receiver method args).Leaves d) :
    (receiver.Leaves d ∧ (method = "defer" ∨ method = "update")) ∨
      ∃ s d', Writes receiver method args s ∧ receiver.Leaves d' ∧
        (d'.accept? s = .ok (some d) ∨
          d'.accept? s = .ok none ∧ d = d' ∧ ∀ r, s.dropped? = some r → r.operator ≠ .operation .pushEach) := by
  obtain ⟨all, kept, refused, unwound, run, pushes⟩ := left
  obtain ⟨c, before, read, written, rfl⟩ := steps_call unwound
  obtain ⟨d', kept', kept'', refused', refused'', rfl, rfl, first, last⟩ := run.split
  have below : receiver.Leaves d' :=
    ⟨before, kept', refused', written, first, fun s member => pushes s (List.mem_append_left _ member)⟩
  rcases recognizeCall_cases read with ⟨rfl, rfl, _⟩ | ⟨rfl, rfl, _⟩ | ⟨s, rfl, writes⟩
  · cases last
    exact .inl ⟨below, .inl rfl⟩
  · cases last
    exact .inl ⟨below, .inr rfl⟩
  · right
    refine ⟨s, d', writes, below, ?_⟩
    cases last with
    | keep accepted tail =>
      cases tail
      exact .inl accepted
    | refuse rejected tail =>
      cases tail
      exact .inr ⟨rejected, rfl, fun r => pushes s (by simp) r⟩

/-- A stack of modifiers leaves its fragment under the field of its `push_each`. -/
theorem Leaves.stacked {receiver target value : Expr} {mods : List (Modifier × Expr)} {d : Draft}
    {binding : String} {path : FieldPath} (left : ((receiver.pushEach target value).modified mods).Leaves d)
    (resolves : target.resolve = .ok (binding, path)) :
    ∃ items, (value.mutationValue .pushEach binding).list? = some items ∧
      Stacked d.update path.dotted items mods := by
  induction mods using List.reverseRecOn generalizing d with
  | nil =>
    rcases left.call with ⟨_, marker⟩ | ⟨s, d', writes, _, outcome⟩
    · exact absurd marker (by decide)
    · obtain ⟨binding', path', resolves', rfl⟩ := writes.of_pushEach
      obtain ⟨rfl, rfl⟩ : binding' = binding ∧ path' = path := by
        rw [resolves] at resolves'
        cases resolves'
        exact ⟨rfl, rfl⟩
      rcases outcome with accepted | ⟨_, _, kept⟩
      · simp only [Draft.accept?, Except.ok.injEq, Option.map_eq_some_iff] at accepted
        obtain ⟨c, read, rfl⟩ := accepted
        simp only [Operation.clause?, Operation.fieldClause?, Option.bind_eq_bind,
          Option.bind_eq_some_iff] at read
        obtain ⟨items, encoded, same⟩ := read
        cases same
        refine ⟨items, encoded, ?_, by simp⟩
        rw [pushed?_push, if_pos rfl]
        rfl
      · exact absurd rfl (kept _ rfl)
  | append_singleton mods entry ih =>
    obtain ⟨m, arg⟩ := entry
    rw [modified_snoc] at left
    have named := Operator.ofMethod?_method (.modifier m)
    rcases left.call with ⟨_, marker⟩ | ⟨s, d', writes, below, outcome⟩
    · rcases marker with same | same <;> rw [same] at named <;> cases named
    · obtain ⟨items, encoded, stacked⟩ := ih below
      refine ⟨items, encoded, ?_⟩
      obtain ⟨node, arg', target', sorted, binding', path', same, walked, ordered, resolves', rfl⟩ :=
        writes.of_modifier named
      cases same
      -- The walk down the calls ends at the `push_each` of this stack.
      rw [pushEachBelow_modified] at walked
      cases walked
      rw [resolves] at resolves'
      cases resolves'
      rcases outcome with accepted | ⟨rejected, rfl, _⟩
      · obtain ⟨patch, update, read, applied, rfl⟩ := Draft.accept?_modifier accepted
        obtain ⟨update', applied', grown⟩ := stacked.apply (by simpa using ordered) read
        rw [applied] at applied'
        cases applied'
        exact grown
      · obtain ⟨found, read, rejected⟩ := bind_eq_ok.mp rejected
        cases found with
        | none => exact stacked.ignored read
        | some patch =>
          obtain ⟨update', applied, _⟩ := stacked.apply (by simpa using ordered) read
          simp only [applied] at rejected
          cases rejected

/-- Detached calls that do not push to a field leave what is pushed to it. -/
theorem Leaves.pushed?_withCalls {base : Expr} {calls : List (String × List Expr)} {d : Draft} {field : String}
    (left : (base.withCalls calls).Leaves d) (detached : Detached calls)
    (elsewhere : ∀ entry ∈ calls, ¬ PushesTo field entry) :
    ∃ d', base.Leaves d' ∧ pushed? d.update field = pushed? d'.update field := by
  induction calls using List.reverseRecOn generalizing d with
  | nil => exact ⟨d, left, rfl⟩
  | append_singleton calls entry ih =>
    obtain ⟨method, args⟩ := entry
    rw [withCalls_snoc] at left
    have before (d' : Draft) (below : (base.withCalls calls).Leaves d') :=
      ih below detached.of_snoc fun entry member => elsewhere entry (List.mem_append_left _ member)
    rcases left.call with ⟨below, _⟩ | ⟨s, d', writes, below, outcome⟩
    · exact before d below
    · obtain ⟨d₀, start, same⟩ := before d' below
      refine ⟨d₀, start, ?_⟩
      rcases outcome with accepted | ⟨_, rfl, _⟩
      · rw [Draft.pushed?_accept writes accepted ?_, same]
        have last := elsewhere (method, args) (by simp)
        cases writes with
        | filter => exact id
        | operation resolves operand =>
          rintro ⟨pushes, aims⟩
          refine last ⟨?_, _, _, _, _, rfl, resolves, aims⟩
          rcases pushes with rfl | rfl
          · exact .inl rfl
          · exact .inr rfl
        | @modifier m node arg target sorted binding path walked ordered resolves =>
          -- The `push_each` of such a modifier is among the calls, and none of these pushes to the field.
          intro aims
          obtain ⟨all, _, _, unwound, _⟩ := below
          obtain ⟨receiver, value, mods, stack⟩ := modified_of_pushEachBelow walked unwound
          have nonempty : calls ≠ [] := by
            rintro rfl
            exact detached _ rfl m (Operator.ofMethod?_method _)
          have member := mem_of_withCalls_eq stack nonempty detached.of_snoc
          exact elsewhere _ (List.mem_append_left _ member) ⟨.inr rfl, _, _, _, _, rfl, resolves, aims⟩
      · exact same

/-- What an assembly of an expression's steps reaches without a refused `push_each`. -/
theorem leaves_of_foldlM {e : Expr} {strict : Bool} {all : List Step} {a : Assembly}
    (unwound : e.steps = .ok all) (folded : all.foldlM (Assembly.add strict) {} = .ok a)
    (keeps : ∀ r ∈ a.dropped, r.operator ≠ .operation .pushEach) : e.Leaves a.draft := by
  obtain ⟨kept, refused, d, more, run, entries, rfl, _⟩ := Assembly.foldlM_add_eq_ok_iff.mp folded
  refine ⟨all, kept, refused, unwound, run, fun s member r entry => keeps r ?_⟩
  have reported : some r ∈ refused.map Step.dropped? := entry ▸ List.mem_map_of_mem member
  rw [entries] at reported
  simpa [Assembly.after] using reported

end Expr

/-- A filled update makes a chain an update. -/
theorem Assembly.mutates_of_update {strict : Bool} {steps : List Step} {a : Assembly}
    (folded : steps.foldlM (add strict) {} = .ok a) (filled : a.update ≠ []) : a.mutates = true := by
  obtain ⟨kept, refused, d, more, run, _, rfl, _⟩ := foldlM_add_eq_ok_iff.mp folded
  rw [after, Bool.false_or]
  by_contra harmless
  have none : kept.any Step.mutates = false := by
    rw [List.any_eq_false]
    intro s member changes
    exact harmless (List.any_eq_true.mpr ⟨s, run.kept_subset member, changes⟩)
  exact filled (run.update_empty none rfl)

/-- Whether no `push_each` is refused as far as an assembly of the chain gets. -/
def Chain.KeepsPushes (strict : Bool) (chain : Chain) : Prop :=
  ∀ before after a, chain.steps = before ++ after → before.foldlM (Assembly.add strict) {} = .ok a →
    ∀ r ∈ a.dropped, r.operator ≠ .operation .pushEach

theorem Chain.keepsPushes_strict (chain : Chain) : chain.KeepsPushes true := by
  intro before after a _ folded r member
  obtain ⟨kept, refused, d, more, _, entries, rfl, clean⟩ := Assembly.foldlM_add_eq_ok_iff.mp folded
  obtain rfl := clean rfl
  obtain rfl : more = [] := by simpa using entries.symm
  cases member

namespace Expr

/-- A modifier that is reached finds a list fragment, and its patch goes through. -/
theorem finds_fragment {e : Expr} {strict : Bool} {chain : Chain} {before after : List Step} {a : Assembly}
    {m : Modifier} {binding : String} {path : FieldPath} {arg : Expr} (unwound : e.chain = .ok chain)
    (whole : chain.steps = before ++ .mutation (.modifier m) binding path arg :: after)
    (folded : before.foldlM (Assembly.add strict) {} = .ok a)
    (keeps : ∀ r ∈ a.dropped, r.operator ≠ .operation .pushEach) :
    (∃ items mods, pushed? a.update path.dotted = some (.object (stackFragment items mods))) ∧
      ∀ patch, m.patch? arg = .ok (some patch) → ∃ update, patch.apply path a.update = .ok (some update) := by
  have all := steps_of_chain unwound
  rw [whole] at all
  obtain ⟨receiver, method, args, calls, _, written, writes, _⟩ := calls_of_steps all rfl
  cases writes with
  | @modifier _ node _ target sorted _ _ below ordered resolves =>
    have left := leaves_of_foldlM written folded keeps
    obtain ⟨base, value, mods, rfl⟩ := modified_of_pushEachBelow below written
    obtain ⟨items, _, stacked⟩ := left.stacked resolves
    rw [pushEachBelow_modified] at below
    cases below
    refine ⟨⟨items, mods, stacked.fragment⟩, fun patch read => ?_⟩
    obtain ⟨update, applied, _⟩ := stacked.apply (by simpa using ordered) read
    exact ⟨update, applied⟩

theorem patch?_error {m : Modifier} {arg : Expr} {err : CompileError} (failed : m.patch? arg = .error err) :
    ∃ node, err = .unresolvablePath node := by
  have unresolved {arg : Expr} {err : CompileError} (failed : arg.sortKey = .error err) :
      ∃ node, err = .unresolvablePath node := by
    rcases bind_eq_error.mp failed with failed | ⟨_, _, impossible⟩
    · unfold resolve at failed
      cases found : arg.target with
      | ok target => rw [found] at failed; cases failed
      | error node =>
        rw [found] at failed
        cases failed
        exact ⟨node, rfl⟩
    · cases impossible
  cases m with
  | slice =>
    simp only [Modifier.patch?] at failed
    split at failed <;> cases failed
  | sortBy direction | thenSortBy direction =>
    rcases bind_eq_error.mp failed with failed | ⟨_, _, impossible⟩
    · exact unresolved failed
    · cases impossible

/-- An assembly that refuses no `push_each` does not fail over a fragment. -/
theorem assemble_error {e : Expr} {strict : Bool} {chain : Chain} {err : CompileError}
    (unwound : e.chain = .ok chain) (keeps : chain.KeepsPushes strict)
    (failed : chain.assemble strict = .error err) :
    (∃ node, err = .unresolvablePath node) ∨ ∃ op node, err = .refused op node := by
  obtain ⟨before, s, after, a, whole, folded, fails⟩ :=
    foldlM_eq_error (Chain.assemble_eq_error_iff.mp failed)
  rcases Assembly.add_eq_error_iff.mp fails with verdict | ⟨_, _, r, _, rfl⟩
  · cases s with
    | source => cases verdict
    | predicate op => cases op <;> cases verdict
    | mutation op binding path arg =>
      cases op with
      | operation => cases verdict
      | modifier m =>
        have meets := (finds_fragment unwound whole folded (keeps _ _ _ whole folded)).2
        rcases bind_eq_error.mp verdict with failed | ⟨found, read, failed⟩
        · exact .inl (patch?_error failed)
        · cases found with
          | none => cases failed
          | some patch =>
            obtain ⟨update, applied⟩ := meets patch read
            change (patch.apply path a.update >>= _) = _ at failed
            rw [applied] at failed
            cases failed
  · exact .inr ⟨_, _, rfl⟩

/-- What a compiled expression pushes to the field of its last `push_each`. -/
theorem compile_pushes {e value : Expr} {strict : Bool} {compiled : Compiled} {report : List Dropped}
    {mods : List (Modifier × Expr)} {binding : String} {path : FieldPath}
    (accepted : e.compile strict = .ok (compiled, report))
    (keeps : ∀ r ∈ report, r.operator ≠ .operation .pushEach) (last : e.LastPushes binding path value mods) :
    ∃ items update, (value.mutationValue .pushEach binding).list? = some items ∧
      compiled.documents.updateDocument? = some update ∧
      pushed? update path.dotted = some (.object (stackFragment items mods)) := by
  obtain ⟨receiver, target, later, rfl, resolves, detached, elsewhere⟩ := last
  obtain ⟨chain, unwound, assembled⟩ := bind_eq_ok.mp accepted
  obtain ⟨a, folded, same⟩ := bind_eq_ok.mp assembled
  cases same
  have left := leaves_of_foldlM (steps_of_chain unwound) folded keeps
  obtain ⟨d, base, unchanged⟩ := left.pushed?_withCalls detached elsewhere
  obtain ⟨items, encoded, stacked⟩ := base.stacked resolves
  have pushed : pushed? a.update path.dotted = some (.object (stackFragment items mods)) :=
    unchanged.trans stacked.fragment
  have filled : a.update ≠ [] := by
    intro empty
    rw [empty] at pushed
    cases pushed
  have mutates := Assembly.mutates_of_update folded filled
  refine ⟨items, a.update, encoded, ?_, pushed⟩
  cases chain.deferred <;> simp [Assembly.compiled, mutates, Compiled.documents, Documents.updateDocument?]

/-- A list fragment is what the modifiers written on its `push_each` say, and no modifier misses its
fragment. -/
theorem fragments_match_stacks (strict : Bool) (e : Expr) :
    (∀ compiled report, e.compile strict = .ok (compiled, report) →
      (∀ r ∈ report, r.operator ≠ .operation .pushEach) →
      ∀ binding path value mods, e.LastPushes binding path value mods →
        ∃ items update, (value.mutationValue .pushEach binding).list? = some items ∧
          compiled.documents.updateDocument? = some update ∧
          pushed? update path.dotted = some (.object (stackFragment items mods))) ∧
    ∀ chain, e.chain = .ok chain →
      (∀ before after binding path operand,
        chain.steps = before ++ .mutation (.operation .pushEach) binding path operand :: after →
        (∀ s ∈ after, ¬ s.pushesTo path.dotted) →
        ∃ value mods, operand = value.mutationValue .pushEach binding ∧
          e.LastPushes binding path value mods) ∧
      (chain.KeepsPushes strict →
        (∀ err, chain.assemble strict = .error err →
          err ≠ .thenSortWithoutSort ∧ ∀ field, err ≠ .notFragment field) ∧
        ∀ before after a m binding path arg,
          chain.steps = before ++ .mutation (.modifier m) binding path arg :: after →
          before.foldlM (Assembly.add strict) {} = .ok a →
          (∃ items mods, pushed? a.update path.dotted = some (.object (stackFragment items mods))) ∧
            ∀ patch, m.patch? arg = .ok (some patch) →
              ∃ update, patch.apply path a.update = .ok (some update)) := by
  refine ⟨fun compiled report accepted keeps binding path value mods => compile_pushes accepted keeps, ?_⟩
  intro chain unwound
  refine ⟨fun before after binding path operand whole last => ?_, fun keeps =>
    ⟨fun err failed => ?_, fun before after a m binding path arg whole folded =>
      finds_fragment unwound whole folded (keeps _ _ _ whole folded)⟩⟩
  · exact lastPushes_of_steps (whole ▸ steps_of_chain unwound) last
  · rcases assemble_error unwound keeps failed with ⟨node, rfl⟩ | ⟨op, node, rfl⟩
    · exact ⟨nofun, nofun⟩
    · exact ⟨nofun, nofun⟩

/-- A path on the binding of a lambda. -/
def rankingField (name : String) : Expr :=
  .lambda "p" (.member (.binding "p") name)

def rankingPath : FieldPath :=
  ⟨[.field "top"], by simp⟩

/-- A stack with a repeated sort key and a slice without a count. -/
def rankingStack : List (Modifier × Expr) :=
  [(.sortBy .ascending, rankingField "score"), (.slice, .integer 3), (.thenSortBy .ascending, rankingField "age"),
    (.slice, .integer (-1)), (.thenSortBy .descending, rankingField "score")]

/-- A chain that pushes twice to a field, the second time with a stack, and then counts. -/
def ranking : Expr :=
  (((call .root "push" [rankingField "top", .integer 7]).pushEach (rankingField "top")
    (.array [.integer 5])).modified rankingStack).withCalls [("inc", [rankingField "rounds", .integer 1])]

theorem ranking_matches_its_stack :
    (∃ compiled, ranking.compile false = .ok (compiled, [⟨.modifier .slice, .integer (-1)⟩]) ∧
      ∃ update, compiled.documents.updateDocument? = some update ∧
        pushed? update "top" = some (.object [("$each", .array [.int 5]), ("$slice", .int (-3)),
          ("$sort", .object [("score", .int (-1)), ("age", .int 1)])])) ∧
      ∃ chain err, ranking.chain = .ok chain ∧ chain.assemble true = .error err ∧ err ≠ .thenSortWithoutSort ∧
        ∃ (before : List Step) (a : Assembly), before.foldlM (Assembly.add true) {} = .ok a ∧
          ∃ update, (Patch.sortBy "score" .ascending).apply rankingPath a.update =
            .ok (some update) := by
  have last : ranking.LastPushes "p" rankingPath (.array [.integer 5]) rankingStack := by
    refine ⟨_, _, _, rfl, rfl, ?_, ?_⟩
    · rintro entry ⟨⟩ m named
      cases named
    · intro entry member push
      obtain rfl := List.mem_singleton.mp member
      exact absurd push.1 (by decide)
  obtain ⟨items, update, encoded, written, pushed⟩ :=
    (fragments_match_stacks false ranking).1 _ _ rfl (by simp) _ _ _ _ last
  cases encoded
  have reached : ∃ (chain : Chain) (before after : List Step) (a : Assembly), ranking.chain = .ok chain ∧
      chain.assemble true = .error (.refused (.modifier .slice) (.integer (-1))) ∧
      chain.steps = before ++
        .mutation (.modifier (.sortBy .ascending)) "p" rankingPath (rankingField "score") :: after ∧
      before.foldlM (Assembly.add true) {} = .ok a :=
    ⟨_, [.source .root, .mutation (.operation .push) "p" rankingPath (.integer 7),
      .mutation (.operation .pushEach) "p" rankingPath (.array [.integer 5])], _, _, rfl, rfl, rfl, rfl⟩
  obtain ⟨chain, before, after, a, unwound, failed, whole, folded⟩ := reached
  obtain ⟨errors, meets⟩ := ((fragments_match_stacks true ranking).2 chain unwound).2 chain.keepsPushes_strict
  exact ⟨⟨_, rfl, update, written, pushed⟩, chain, _, unwound, failed, (errors _ failed).1, before, a, folded,
    (meets _ _ _ _ _ _ _ whole folded).2 _ rfl⟩

end Expr

end DocChain
