import DocChain.Proofs.PushStack

/-!
# Stacks of calls

An expression is read from its last call inwards. Below a modifier the recognizer finds the
`push_each` whose stack it is on, and behind the last push of a field there are only calls that belong
elsewhere.
-/

namespace DocChain

namespace Expr

/-! ### Stacks as calls -/

/-- A list push on a chain. -/
def pushEach (receiver target value : Expr) : Expr :=
  call receiver "push_each" [target, value]

/-- A chain with modifiers written on it, the first one innermost. -/
def modified (e : Expr) (mods : List (Modifier × Expr)) : Expr :=
  mods.foldl (fun e entry => call e (Operator.modifier entry.1).method [entry.2]) e

/-- A chain with calls written behind it. -/
def withCalls (e : Expr) (calls : List (String × List Expr)) : Expr :=
  calls.foldl (fun e entry => call e entry.1 entry.2) e

theorem modified_snoc (e : Expr) (mods : List (Modifier × Expr)) (m : Modifier) (arg : Expr) :
    e.modified (mods ++ [(m, arg)]) = call (e.modified mods) (Operator.modifier m).method [arg] := by
  simp [modified, List.foldl_append]

theorem withCalls_snoc (e : Expr) (calls : List (String × List Expr)) (method : String) (args : List Expr) :
    e.withCalls (calls ++ [(method, args)]) = call (e.withCalls calls) method args := by
  simp [withCalls, List.foldl_append]

theorem ofMethod?_pushEach : Operator.ofMethod? "push_each" = some (.operation .pushEach) := rfl

/-- Below a stack of modifiers is its `push_each`. -/
theorem pushEachBelow_modified (node receiver target value : Expr) (mods : List (Modifier × Expr))
    (sorted : Bool) :
    pushEachBelow node sorted ((receiver.pushEach target value).modified mods) =
      .ok (target, sorted || mods.any (·.1.sorts)) := by
  induction mods using List.reverseRecOn generalizing sorted with
  | nil => simp [modified, pushEach, pushEachBelow, ofMethod?_pushEach]
  | append_singleton mods entry ih =>
    obtain ⟨m, arg⟩ := entry
    rw [modified_snoc]
    unfold pushEachBelow
    rw [Operator.ofMethod?_method]
    cases m with
    | slice => simp [ih, Modifier.sorts]
    | sortBy direction => simp [ih, Modifier.sorts]
    | thenSortBy direction => simp [ih, Modifier.sorts]

/-- What a call of a modifier writes. -/
theorem Writes.of_modifier {receiver : Expr} {method : String} {args : List Expr} {s : Step} {m : Modifier}
    (written : Writes receiver method args s) (named : Operator.ofMethod? method = some (.modifier m)) :
    ∃ node arg target sorted binding path, args = [arg] ∧
      pushEachBelow node false receiver = .ok (target, sorted) ∧
      (∀ direction, m = .thenSortBy direction → sorted = true) ∧
      target.resolve = .ok (binding, path) ∧ s = .mutation (.modifier m) binding path arg := by
  cases written with
  | filter => cases named
  | operation => rw [Operator.ofMethod?_method] at named; cases named
  | modifier below ordered resolves =>
    rw [Operator.ofMethod?_method] at named
    cases named
    exact ⟨_, _, _, _, _, _, rfl, below, ordered, resolves, rfl⟩

/-- What a `push_each` writes. -/
theorem Writes.of_pushEach {receiver target value : Expr} {s : Step}
    (written : Writes receiver "push_each" [target, value] s) :
    ∃ binding path, target.resolve = .ok (binding, path) ∧
      s = .mutation (.operation .pushEach) binding path (value.mutationValue .pushEach binding) := by
  have named := ofMethod?_pushEach
  generalize "push_each" = method at named written
  generalize both : [target, value] = args at written
  cases written with
  | filter => cases named
  | modifier => rw [Operator.ofMethod?_method] at named; cases named
  | operation resolves operand =>
    rw [Operator.ofMethod?_method] at named
    cases named
    cases both
    cases operand
    exact ⟨_, _, resolves, rfl⟩

theorem recognizeCall_unary {receiver : Expr} {method : String} {args : List Expr} {c : Call} {m : Modifier}
    (read : recognizeCall receiver method args = .ok c)
    (named : Operator.ofMethod? method = some (.modifier m)) : ∃ arg, args = [arg] := by
  rcases recognizeCall_cases read with ⟨_, rfl, _⟩ | ⟨_, rfl, _⟩ | ⟨s, _, writes⟩
  · cases named
  · cases named
  · obtain ⟨_, arg, _, _, _, _, same, _⟩ := writes.of_modifier named
    exact ⟨arg, same⟩

/-- Whatever has a `push_each` below it is a stack. -/
theorem modified_of_pushEachBelow {node e target : Expr} {sorted sorted' : Bool} {all : List Step}
    (below : pushEachBelow node sorted e = .ok (target, sorted')) (unwound : e.steps = .ok all) :
    ∃ receiver value mods, e = (pushEach receiver target value).modified mods := by
  induction e using Expr.steps.induct generalizing sorted all with
  | case1 receiver method args ih =>
    obtain ⟨c, before, read, written, _⟩ := steps_call unwound
    have onTop {m : Modifier} {sorted : Bool} (named : Operator.ofMethod? method = some (.modifier m))
        (below : pushEachBelow node sorted receiver = .ok (target, sorted')) :
        ∃ base value mods, call receiver method args = (pushEach base target value).modified mods := by
      obtain ⟨base, value, mods, same⟩ := ih below written
      obtain ⟨arg, rfl⟩ := recognizeCall_unary read named
      refine ⟨base, value, mods ++ [(m, arg)], ?_⟩
      rw [modified_snoc, ← same, Operator.method_of_ofMethod? named]
    unfold pushEachBelow at below
    split at below
    · rename_i named
      split at below
      · rename_i value
        cases below
        obtain rfl : "push_each" = method := Operator.method_of_ofMethod? named
        exact ⟨receiver, value, [], rfl⟩
      · cases below
    · rename_i named
      exact onTop named below
    · rename_i named
      exact onTop named below
    · cases below
  | case2 e notCall =>
    unfold pushEachBelow at below
    split at below
    · exact absurd rfl (notCall _ _ _)
    · cases below

/-! ### Calls behind a stack -/

/-- Whether a call pushes to a field. -/
def PushesTo (field : String) (entry : String × List Expr) : Prop :=
  (entry.1 = "push" ∨ entry.1 = "push_each") ∧
    ∃ target rest binding path, entry.2 = target :: rest ∧ target.resolve = .ok (binding, path) ∧
      path.dotted = field

/-- Whether the first call of a list is no modifier. -/
def Detached (calls : List (String × List Expr)) : Prop :=
  ∀ entry ∈ calls.head?, ∀ m, Operator.ofMethod? entry.1 ≠ some (.modifier m)

theorem Detached.of_snoc {calls : List (String × List Expr)} {entry : String × List Expr}
    (detached : Detached (calls ++ [entry])) : Detached calls := by
  intro first member
  exact detached first (by simp [Option.mem_def.mp member])

/-- The `push_each` of a stack on top of detached calls is one of them. -/
theorem mem_of_withCalls_eq {base receiver target value : Expr} {calls : List (String × List Expr)}
    {mods : List (Modifier × Expr)}
    (same : base.withCalls calls = (receiver.pushEach target value).modified mods)
    (nonempty : calls ≠ []) (detached : Detached calls) : ("push_each", [target, value]) ∈ calls := by
  induction calls using List.reverseRecOn generalizing mods with
  | nil => exact absurd rfl nonempty
  | append_singleton calls entry ih =>
    obtain ⟨method, args⟩ := entry
    rw [withCalls_snoc] at same
    rcases List.eq_nil_or_concat mods with rfl | ⟨mods, ⟨m, arg⟩, rfl⟩
    · cases same
      simp
    · rw [List.concat_eq_append, modified_snoc] at same
      injection same with below named args
      by_cases only : calls = []
      · subst only
        exact absurd (named ▸ Operator.ofMethod?_method (.modifier m)) (detached _ rfl m)
      · exact List.mem_append_left _ (ih below only detached.of_snoc)

/-- Whether the last push of an expression to a path is a `push_each` of a value with modifiers written
on it. -/
def LastPushes (e : Expr) (binding : String) (path : FieldPath) (value : Expr)
    (mods : List (Modifier × Expr)) : Prop :=
  ∃ receiver target later, e = ((pushEach receiver target value).modified mods).withCalls later ∧
    target.resolve = .ok (binding, path) ∧ Detached later ∧ ∀ entry ∈ later, ¬ PushesTo path.dotted entry

/-! ### Steps of the calls -/

/-- A call that pushes to a field writes a step that does. -/
theorem recognizeCall_pushesTo {receiver : Expr} {method : String} {args : List Expr} {c : Call} {field : String}
    (read : recognizeCall receiver method args = .ok c) (pushes : PushesTo field (method, args)) :
    ∃ s ∈ c.steps, s.pushesTo field := by
  obtain ⟨push, target, rest, binding, path, shape, resolves, aims⟩ := pushes
  dsimp only at push shape
  subst shape
  have named : ∃ op, (op = .push ∨ op = .pushEach) ∧ Operator.ofMethod? method = some (.operation op) := by
    rcases push with rfl | rfl
    · exact ⟨.push, .inl rfl, rfl⟩
    · exact ⟨.pushEach, .inr rfl, rfl⟩
  obtain ⟨op, kind, named⟩ := named
  rcases recognizeCall_cases read with ⟨_, rfl, _⟩ | ⟨_, rfl, _⟩ | ⟨s, rfl, writes⟩
  · cases named
  · cases named
  · refine ⟨s, List.mem_singleton_self s, ?_⟩
    cases writes with
    | filter => cases named; simp at kind
    | modifier => rw [Operator.ofMethod?_method] at named; cases named
    | operation resolves' operand =>
      rw [Operator.ofMethod?_method] at named
      cases named
      rw [resolves] at resolves'
      cases resolves'
      exact ⟨kind, aims⟩

/-- Whether the modifiers of a list have one argument each, as recognized ones do. -/
def Unary (calls : List (String × List Expr)) : Prop :=
  ∀ entry ∈ calls, ∀ m, Operator.ofMethod? entry.1 = some (.modifier m) → ∃ arg, entry.2 = [arg]

/-- A step other than a source is written by a call on what comes before it. The calls behind it write
what comes after it. -/
theorem calls_of_steps {e : Expr} {before after : List Step} {s : Step}
    (unwound : e.steps = .ok (before ++ s :: after)) (call : s.dropped?.isSome) :
    ∃ receiver method args calls, e = (Expr.call receiver method args).withCalls calls ∧
      receiver.steps = .ok before ∧ Writes receiver method args s ∧ Unary calls ∧
      ∀ entry ∈ calls, ∀ field, PushesTo field entry → ∃ t ∈ after, t.pushesTo field := by
  generalize whole : before ++ s :: after = all at unwound
  induction e using Expr.steps.induct generalizing after all with
  | case1 receiver method args ih =>
    obtain ⟨c, earlier, read, written, rfl⟩ := steps_call unwound
    -- Either the last call writes the step, or the receiver does.
    have parts : (c = .step s ∧ earlier = before) ∨
        ∃ after', after = after' ++ c.steps ∧ before ++ s :: after' = earlier := by
      cases c with
      | beginUpdate | defer => exact .inr ⟨after, by simpa [Call.steps] using whole⟩
      | step t =>
        rcases snoc_eq_append_cons whole.symm with ⟨rfl, rfl, rfl⟩ | ⟨after', rfl, same⟩
        · exact .inl ⟨rfl, rfl⟩
        · exact .inr ⟨after', rfl, same.symm⟩
    rcases parts with ⟨rfl, rfl⟩ | ⟨after', rfl, same⟩
    · rcases recognizeCall_cases read with ⟨impossible, _⟩ | ⟨impossible, _⟩ | ⟨t, same, writes⟩
      · cases impossible
      · cases impossible
      · cases same
        exact ⟨receiver, method, args, [], rfl, written, writes, by simp [Unary], by simp⟩
    · obtain ⟨base, first, firstArgs, calls, rfl, start, wrote, unary, pushes⟩ := ih _ same written
      refine ⟨base, first, firstArgs, calls ++ [(method, args)], (withCalls_snoc ..).symm, start, wrote, ?_, ?_⟩
      · intro entry member m named
        rcases List.mem_append.mp member with member | member
        · exact unary entry member m named
        · obtain rfl := List.mem_singleton.mp member
          exact recognizeCall_unary read named
      · intro entry member field push
        rcases List.mem_append.mp member with member | member
        · obtain ⟨t, found, aims⟩ := pushes entry member field push
          exact ⟨t, List.mem_append_left _ found, aims⟩
        · obtain rfl := List.mem_singleton.mp member
          obtain ⟨t, found, aims⟩ := recognizeCall_pushesTo read push
          exact ⟨t, List.mem_append_right _ found, aims⟩
  | case2 e notCall =>
    rw [steps.eq_2 _ notCall] at unwound
    obtain ⟨source, _, same⟩ := bind_eq_ok.mp unwound
    cases same
    cases before with
    | nil =>
      cases whole
      cases call
    | cons => simp at whole

/-- The modifiers at the front of some calls are a stack, and the calls behind them are detached. -/
theorem exists_modified {e : Expr} {calls : List (String × List Expr)} (unary : Unary calls) :
    ∃ mods later, e.withCalls calls = (e.modified mods).withCalls later ∧ Detached later ∧ later ⊆ calls := by
  induction calls generalizing e with
  | nil => exact ⟨[], [], rfl, by simp [Detached], List.Subset.refl _⟩
  | cons entry rest ih =>
    obtain ⟨method, args⟩ := entry
    by_cases top : ∃ m, Operator.ofMethod? method = some (.modifier m)
    · obtain ⟨m, named⟩ := top
      obtain ⟨arg, shape⟩ := unary _ List.mem_cons_self m named
      obtain ⟨mods, later, same, detached, behind⟩ := @ih (call e method args)
        fun entry member => unary entry (List.mem_cons_of_mem _ member)
      refine ⟨(m, arg) :: mods, later, ?_, detached, List.subset_cons_of_subset _ behind⟩
      have first : call e (Operator.modifier m).method [arg] = call e method args := by
        rw [Operator.method_of_ofMethod? named, ← shape]
      rw [modified, List.foldl_cons, first]
      exact same
    · refine ⟨[], (method, args) :: rest, rfl, ?_, List.Subset.refl _⟩
      rintro entry ⟨⟩ m named
      exact top ⟨m, named⟩

/-- A `push_each` behind which nothing pushes to its field is a last push. -/
theorem lastPushes_of_steps {e operand : Expr} {before after : List Step} {binding : String} {path : FieldPath}
    (unwound : e.steps = .ok (before ++ .mutation (.operation .pushEach) binding path operand :: after))
    (last : ∀ s ∈ after, ¬ s.pushesTo path.dotted) :
    ∃ value mods, operand = value.mutationValue .pushEach binding ∧ e.LastPushes binding path value mods := by
  obtain ⟨receiver, method, args, calls, rfl, _, writes, unary, pushes⟩ := calls_of_steps unwound rfl
  cases writes with
  | @operation _ target rest _ _ _ resolves given =>
    obtain ⟨value, rfl, rfl⟩ : ∃ value, rest = [value] ∧ operand = value.mutationValue .pushEach binding := by
      rcases rest with _ | ⟨value, _ | _⟩ <;> cases given
      exact ⟨value, rfl, rfl⟩
    obtain ⟨mods, later, same, detached, behind⟩ := exists_modified unary
    refine ⟨value, mods, rfl, receiver, target, later, same, resolves, detached, ?_⟩
    intro entry member push
    obtain ⟨s, found, aims⟩ := pushes entry (behind member) _ push
    exact last s found aims

end Expr

end DocChain
