import DocChain.Assembly

/-!
# Runs over the steps of a chain

What a step does to the source and the documents depends on nothing but these: `Draft.accept?` says
it once for every kind of step. `Draft.Run` follows a whole list of steps and sorts them into those
that are kept and those that are refused. Both modes of an assembly are read off it.
-/

namespace DocChain

section
variable {ε α β : Type} {first : Except ε α} {next : α → Except ε β}

theorem bind_eq_ok {b : β} : (first >>= next) = .ok b ↔ ∃ a, first = .ok a ∧ next a = .ok b := by
  cases first <;> simp [bind, Except.bind]

theorem bind_eq_error {e : ε} :
    (first >>= next) = .error e ↔ first = .error e ∨ ∃ a, first = .ok a ∧ next a = .error e := by
  cases first <;> simp [bind, Except.bind]

@[simp] theorem mapError_ok {ε' : Type} (blame : ε → ε') (a : α) : Except.mapError blame (.ok a) = .ok a := rfl

@[simp] theorem mapError_error {ε' : Type} (blame : ε → ε') (e : ε) :
    Except.mapError blame (.error e : Except ε α) = .error (blame e) := rfl

theorem mapError_eq_ok {ε' : Type} {blame : ε → ε'} {a : α} : first.mapError blame = .ok a ↔ first = .ok a := by
  cases first <;> simp

end

/-- An item of a longer list is the new one at its end, or an item of the list before. -/
theorem snoc_eq_append_cons {α : Type} {items before after : List α} {last item : α}
    (whole : items ++ [last] = before ++ item :: after) :
    (before = items ∧ item = last ∧ after = []) ∨
      ∃ rest, after = rest ++ [last] ∧ items = before ++ item :: rest := by
  rcases List.eq_nil_or_concat after with rfl | ⟨rest, final, rfl⟩
  · obtain ⟨rfl, same⟩ := List.append_inj' whole rfl
    cases same
    exact .inl ⟨rfl, rfl, rfl⟩
  · rw [List.concat_eq_append, ← List.cons_append, ← List.append_assoc] at whole
    obtain ⟨same, lasts⟩ := List.append_inj' whole rfl
    cases lasts
    exact .inr ⟨rest, List.concat_eq_append, same⟩

/-- A fold that fails does so at one of its items. -/
theorem foldlM_eq_error {ε α β : Type} {step : β → α → Except ε β} {init : β} {items : List α} {e : ε}
    (failed : items.foldlM step init = .error e) :
    ∃ before item after reached, items = before ++ item :: after ∧
      before.foldlM step init = .ok reached ∧ step reached item = .error e := by
  induction items generalizing init with
  | nil => cases failed
  | cons item rest ih =>
    rw [List.foldlM_cons, bind_eq_error] at failed
    rcases failed with here | ⟨next, stepped, later⟩
    · exact ⟨[], item, rest, init, rfl, rfl, here⟩
    · obtain ⟨before, culprit, after, reached, rfl, folded, fails⟩ := ih later
      refine ⟨item :: before, culprit, after, reached, rfl, ?_, fails⟩
      rw [List.foldlM_cons, stepped]
      exact folded

namespace Step

/-- What the report says of a step that is left out. Sources are never left out. -/
def dropped? : Step → Option Dropped
  | source _ => none
  | predicate op _ e | mutation op _ _ e => some ⟨op, e⟩

/-- Whether a step makes the chain an update: modifiers do not. -/
def mutates : Step → Bool
  | mutation (.operation _) .. => true
  | _ => false

end Step

/-- The source and the documents of an assembly. -/
structure Draft where
  source : Option Source := none
  query : Document := []
  update : Document := []

namespace Draft

/-- The documents after a step, or nothing if the step has no wire form. -/
def accept? (d : Draft) : Step → Except CompileError (Option Draft)
  | .source s => .ok (some { d with source := d.source <|> some s })
  | .predicate (.operation op) binding e =>
    .ok ((op.clause? binding none e).map fun c =>
      { d with query := Query.addClause d.query c.key c.value })
  | .predicate (.modifier _) _ _ => .ok none
  | .mutation (.operation op) binding path e =>
    .ok ((op.clause? binding (some path) e).map fun c =>
      { d with update := c.addToUpdate d.update })
  | .mutation (.modifier m) _ path e => do
    match ← m.patch? e with
    | none => return none
    | some patch => return (← patch.apply path d.update).map fun update => { d with update }

/-- A refused step has an entry for the report. -/
theorem dropped?_of_refused {d : Draft} {s : Step} (refused : d.accept? s = .ok none) :
    ∃ r, s.dropped? = some r := by
  cases s with
  | source => cases refused
  | predicate op binding e => exact ⟨_, rfl⟩
  | mutation op binding path e => exact ⟨_, rfl⟩

/-- A modifier is accepted only with a patch that finds its fragment. -/
theorem accept?_modifier {d d' : Draft} {m : Modifier} {binding : String} {path : FieldPath} {e : Expr}
    (accepted : d.accept? (.mutation (.modifier m) binding path e) = .ok (some d')) :
    ∃ patch update, m.patch? e = .ok (some patch) ∧
      patch.apply path d.update = .ok (some update) ∧ d' = { d with update } := by
  simp only [accept?, bind_eq_ok] at accepted
  obtain ⟨found, read, accepted⟩ := accepted
  cases found with
  | none => cases accepted
  | some patch =>
    obtain ⟨applied, patched, same⟩ := bind_eq_ok.mp accepted
    cases applied with
    | none => cases same
    | some update => exact ⟨patch, update, read, patched, by cases same; rfl⟩

/-- A run over steps, from a draft to a draft. The kept steps and the refused steps are listed in
order. -/
inductive Run : Draft → List Step → (kept refused : List Step) → Draft → Prop where
  | done (d : Draft) : Run d [] [] [] d
  | keep {d d' final : Draft} {s : Step} {rest kept refused : List Step}
      (accepted : d.accept? s = .ok (some d')) (tail : Run d' rest kept refused final) :
      Run d (s :: rest) (s :: kept) refused final
  | refuse {d final : Draft} {s : Step} {rest kept refused : List Step}
      (rejected : d.accept? s = .ok none) (tail : Run d rest kept refused final) :
      Run d (s :: rest) kept (s :: refused) final

/-- Without the refused steps a run ends in the same documents and refuses nothing. -/
theorem Run.keptOnly {d final : Draft} {steps kept refused : List Step}
    (run : Run d steps kept refused final) : Run d kept kept [] final := by
  induction run with
  | done d => exact .done d
  | keep accepted _ ih => exact .keep accepted ih
  | refuse _ _ ih => exact ih

/-- A run over two lists is a run over the first and then over the second. -/
theorem Run.split {d final : Draft} {before after kept refused : List Step}
    (run : Run d (before ++ after) kept refused final) :
    ∃ middle kept₁ kept₂ refused₁ refused₂, kept = kept₁ ++ kept₂ ∧ refused = refused₁ ++ refused₂ ∧
      Run d before kept₁ refused₁ middle ∧ Run middle after kept₂ refused₂ final := by
  induction before generalizing d kept refused with
  | nil => exact ⟨d, [], kept, [], refused, rfl, rfl, .done d, run⟩
  | cons s before ih =>
    cases run with
    | keep accepted tail =>
      obtain ⟨middle, kept₁, kept₂, refused₁, refused₂, rfl, rfl, first, second⟩ := ih tail
      exact ⟨middle, s :: kept₁, kept₂, refused₁, refused₂, rfl, rfl, .keep accepted first, second⟩
    | refuse rejected tail =>
      obtain ⟨middle, kept₁, kept₂, refused₁, refused₂, rfl, rfl, first, second⟩ := ih tail
      exact ⟨middle, kept₁, kept₂, s :: refused₁, refused₂, rfl, rfl, .refuse rejected first, second⟩

theorem Run.append {d middle final : Draft} {before after kept kept' refused refused' : List Step}
    (first : Run d before kept refused middle) (second : Run middle after kept' refused' final) :
    Run d (before ++ after) (kept ++ kept') (refused ++ refused') final := by
  induction first with
  | done => exact second
  | keep accepted _ ih => exact .keep accepted (ih second)
  | refuse rejected _ ih => exact .refuse rejected (ih second)

theorem Run.unique {d final final' : Draft} {steps kept kept' refused refused' : List Step}
    (run : Run d steps kept refused final) (other : Run d steps kept' refused' final') :
    refused = refused' ∧ final = final' := by
  induction run generalizing kept' refused' final' with
  | done =>
    cases other
    exact ⟨rfl, rfl⟩
  | keep accepted _ ih =>
    cases other with
    | keep accepted' tail =>
      rw [accepted] at accepted'
      cases accepted'
      exact ih tail
    | refuse rejected =>
      rw [accepted] at rejected
      cases rejected
  | refuse rejected _ ih =>
    cases other with
    | keep accepted =>
      rw [rejected] at accepted
      cases accepted
    | refuse _ tail =>
      obtain ⟨rfl, rfl⟩ := ih tail
      exact ⟨rfl, rfl⟩

end Draft

/-! ### The two modes of an assembly -/

namespace Assembly

def draft (a : Assembly) : Draft :=
  { source := a.source, query := a.query, update := a.update }

/-- The assembly after steps that left these documents and these entries of the report. -/
def after (a : Assembly) (steps : List Step) (d : Draft) (more : List Dropped) : Assembly :=
  { source := d.source, query := d.query, update := d.update,
    mutates := a.mutates || steps.any Step.mutates, dropped := a.dropped ++ more }

@[simp] theorem draft_after (a : Assembly) (steps : List Step) (d : Draft) (more : List Dropped) :
    (a.after steps d more).draft = d := rfl

@[simp] theorem after_nil (a : Assembly) : a.after [] a.draft [] = a := by
  simp [after, draft]

theorem after_after (a : Assembly) (steps rest : List Step) (d d' : Draft) (more more' : List Dropped) :
    (a.after steps d more).after rest d' more' = a.after (steps ++ rest) d' (more ++ more') := by
  simp [after, Bool.or_assoc]

/-- A step in either mode, read off what it does to the documents. -/
theorem add_eq (strict : Bool) (a : Assembly) (s : Step) :
    a.add strict s = (do
      match ← a.draft.accept? s, s.dropped? with
      | some d, _ => return a.after [s] d []
      | none, some r => if strict then throw (.refused r.operator r.node) else return a.after [s] a.draft [r]
      | none, none => return a) := by
  obtain ⟨source, query, update, mutates, dropped⟩ := a
  cases s with
  | source s => simp [add, Draft.accept?, draft, after, Step.mutates]; rfl
  | predicate op binding e =>
    cases op with
    | operation op =>
      cases found : op.clause? binding none e <;> cases strict <;>
        simp [add, addPredicate, refuse, Draft.accept?, draft, after, found, Step.mutates, Step.dropped?] <;> rfl
    | modifier m =>
      cases strict <;>
        simp [add, addPredicate, refuse, Draft.accept?, draft, after, Step.mutates, Step.dropped?] <;> rfl
  | mutation op binding path e =>
    cases op with
    | operation op =>
      cases found : op.clause? binding (some path) e <;> cases strict <;>
        simp [add, addOperation, refuse, Draft.accept?, draft, after, found, Step.mutates, Step.dropped?] <;> rfl
    | modifier m =>
      simp only [add, addModifier, Draft.accept?]
      rcases m.patch? e with err | _ | patch
      · rfl
      · cases strict <;> simp [refuse, draft, after, Step.mutates, Step.dropped?] <;> rfl
      · -- The patch is known; what is left is whether it meets a fragment.
        change (patch.apply path update >>= _) = ((patch.apply path update >>= _) >>= _)
        rcases patch.apply path update with err | _ | patched
        · rfl
        · cases strict <;> simp [refuse, draft, after, Step.mutates, Step.dropped?] <;> rfl
        · simp [draft, after, Step.mutates]
          rfl

theorem add_eq_ok_iff {strict : Bool} {a b : Assembly} {s : Step} :
    a.add strict s = .ok b ↔
      (∃ d, a.draft.accept? s = .ok (some d) ∧ b = a.after [s] d []) ∨
      (strict = false ∧ a.draft.accept? s = .ok none ∧
        ∃ r, s.dropped? = some r ∧ b = a.after [s] a.draft [r]) := by
  rw [add_eq]
  rcases verdict : a.draft.accept? s with err | _ | d
  · simp [bind, Except.bind]
  · obtain ⟨r, entry⟩ := Draft.dropped?_of_refused verdict
    cases strict <;> simp [bind, Except.bind, pure, Except.pure, throw, throwThe, MonadExceptOf.throw,
      entry, eq_comm]
  · simp [bind, Except.bind, pure, Except.pure, eq_comm]

theorem add_eq_error_iff {strict : Bool} {a : Assembly} {s : Step} {err : CompileError} :
    a.add strict s = .error err ↔
      a.draft.accept? s = .error err ∨
      (strict = true ∧ a.draft.accept? s = .ok none ∧
        ∃ r, s.dropped? = some r ∧ err = .refused r.operator r.node) := by
  rw [add_eq]
  rcases verdict : a.draft.accept? s with other | _ | d
  · simp [bind, Except.bind]
  · obtain ⟨r, entry⟩ := Draft.dropped?_of_refused verdict
    cases strict <;> simp [bind, Except.bind, pure, Except.pure, throw, throwThe, MonadExceptOf.throw,
      entry, eq_comm]
  · simp [bind, Except.bind, pure, Except.pure]

/-- Where an assembly ends: after a run over its steps, with the refused ones in the report. In
strict mode there are none. -/
theorem foldlM_add_eq_ok_iff {strict : Bool} {a b : Assembly} {steps : List Step} :
    steps.foldlM (add strict) a = .ok b ↔
      ∃ kept refused d more, Draft.Run a.draft steps kept refused d ∧
        refused.map Step.dropped? = more.map some ∧ b = a.after steps d more ∧
        (strict = true → refused = []) := by
  induction steps generalizing a with
  | nil =>
    constructor
    · intro h
      cases h
      exact ⟨[], [], _, [], .done _, rfl, (after_nil _).symm, fun _ => rfl⟩
    · rintro ⟨kept, refused, d, more, run, entries, rfl, _⟩
      cases run
      obtain rfl : more = [] := by simpa using entries.symm
      simp [pure, Except.pure]
  | cons s rest ih =>
    rw [List.foldlM_cons, bind_eq_ok]
    constructor
    · rintro ⟨next, stepped, tail⟩
      obtain ⟨kept, refused, d, more, run, entries, rfl, clean⟩ := ih.mp tail
      rcases add_eq_ok_iff.mp stepped with ⟨d', accepted, rfl⟩ | ⟨lenient, rejected, r, entry, rfl⟩
      · exact ⟨s :: kept, refused, d, more, .keep accepted run, entries, after_after .., clean⟩
      · refine ⟨kept, s :: refused, d, r :: more, .refuse rejected run, ?_, after_after .., ?_⟩
        · simp [entry, entries]
        · simp [lenient]
    · rintro ⟨kept, refused, d, more, run, entries, rfl, clean⟩
      cases run with
      | @keep _ d' _ _ _ kept _ accepted tail =>
        refine ⟨a.after [s] d' [], add_eq_ok_iff.mpr (.inl ⟨d', accepted, rfl⟩), ?_⟩
        exact ih.mpr ⟨kept, refused, d, more, tail, entries, (after_after a [s] rest d' d [] more).symm, clean⟩
      | @refuse _ _ _ _ _ refused rejected tail =>
        cases more with
        | nil => simp at entries
        | cons r more =>
          simp only [List.map_cons, List.cons.injEq] at entries
          have lenient : strict = false := by
            cases strict
            · rfl
            · cases clean rfl
          refine ⟨a.after [s] a.draft [r],
            add_eq_ok_iff.mpr (.inr ⟨lenient, rejected, r, entries.1, rfl⟩), ?_⟩
          exact ih.mpr ⟨kept, refused, d, more, tail, entries.2,
            (after_after a [s] rest a.draft d [r] more).symm, by simp [lenient]⟩

@[simp] theorem queryDocument_compiled (a : Assembly) (deferred : Bool) :
    (a.compiled deferred).documents.queryDocument = a.query := by
  unfold compiled
  cases deferred <;> cases a.mutates <;> rfl

/-- There is an update document if there is a mutation. -/
@[simp] theorem updateDocument?_compiled (a : Assembly) (deferred : Bool) :
    (a.compiled deferred).documents.updateDocument? = if a.mutates then some a.update else none := by
  unfold compiled
  cases deferred <;> cases a.mutates <;> rfl

end Assembly

/-- An assembly fails only at a step. -/
theorem Chain.assemble_eq_error_iff {strict : Bool} {chain : Chain} {e : CompileError} :
    chain.assemble strict = .error e ↔ chain.steps.foldlM (Assembly.add strict) {} = .error e := by
  rw [assemble, bind_eq_error]
  constructor
  · rintro (folded | ⟨_, _, impossible⟩)
    · exact folded
    · cases impossible
  · exact .inl

/-- What a chain compiles to and reports, read off the run over its steps. -/
theorem Chain.assemble_eq_ok_iff {strict : Bool} {chain : Chain} {compiled : Compiled}
    {report : List Dropped} :
    chain.assemble strict = .ok (compiled, report) ↔
      ∃ kept refused d, Draft.Run {} chain.steps kept refused d ∧
        refused.map Step.dropped? = report.map some ∧
        compiled = (Assembly.after {} chain.steps d report).compiled chain.deferred ∧
        (strict = true → refused = []) := by
  rw [assemble, bind_eq_ok]
  constructor
  · rintro ⟨a, folded, same⟩
    obtain ⟨kept, refused, d, more, run, entries, rfl, clean⟩ := Assembly.foldlM_add_eq_ok_iff.mp folded
    cases same
    exact ⟨kept, refused, d, run, entries, rfl, clean⟩
  · rintro ⟨kept, refused, d, run, entries, rfl, clean⟩
    exact ⟨_, Assembly.foldlM_add_eq_ok_iff.mpr ⟨kept, refused, d, report, run, entries, rfl, clean⟩, rfl⟩

end DocChain
