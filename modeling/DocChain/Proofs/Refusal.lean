import DocChain.Proofs.Draft

/-!
# Steps without a wire form

A lenient assembly leaves such steps out and reports them, a strict one gives up at the first. A
refused step changes nothing but the report and the mode, so the two modes agree on chains that
refuse nothing, and leaving a step out is the same as not writing it.
-/

namespace DocChain

/-- The steps that a lenient run keeps, and those that it enters in its report. -/
def Assembly.sort (a : Assembly) : List Step → List Step × List Step
  | [] => ([], [])
  | s :: rest =>
    match a.add false s with
    | .error _ => (s :: rest, [])
    | .ok b =>
      if b.dropped.length = a.dropped.length then (s :: (b.sort rest).1, (b.sort rest).2)
      else ((b.sort rest).1, s :: (b.sort rest).2)

namespace Chain

/-- The steps of a chain that a lenient assembly reports. -/
def refusedSteps (chain : Chain) : List Step :=
  (Assembly.sort {} chain.steps).2

/-- The chain without the steps that a lenient assembly reports. -/
def kept (chain : Chain) : Chain :=
  { chain with steps := (Assembly.sort {} chain.steps).1 }

end Chain

namespace Draft

theorem Run.sort_eq {d final : Draft} {steps kept refused : List Step} (run : Run d steps kept refused final)
    {a : Assembly} (start : a.draft = d) : a.sort steps = (kept, refused) := by
  induction run generalizing a with
  | done => rfl
  | @keep _ d' _ s _ _ _ accepted _ ih =>
    subst start
    have stepped : a.add false s = .ok (a.after [s] d' []) :=
      Assembly.add_eq_ok_iff.mpr (.inl ⟨d', accepted, rfl⟩)
    have silent : (a.after [s] d' []).dropped.length = a.dropped.length := by simp [Assembly.after]
    simp only [Assembly.sort, stepped, silent, if_true, ih (Assembly.draft_after ..)]
  | @refuse _ _ s _ _ _ rejected _ ih =>
    subst start
    obtain ⟨r, entry⟩ := dropped?_of_refused rejected
    have stepped : a.add false s = .ok (a.after [s] a.draft [r]) :=
      Assembly.add_eq_ok_iff.mpr (.inr ⟨rfl, rejected, r, entry, rfl⟩)
    have reported : (a.after [s] a.draft [r]).dropped.length ≠ a.dropped.length := by
      simp [Assembly.after]
    simp only [Assembly.sort, stepped, reported, if_false, ih (Assembly.draft_after ..)]

theorem Run.kept_subset {d final : Draft} {steps kept refused : List Step}
    (run : Run d steps kept refused final) : kept ⊆ steps := by
  induction run with
  | done => exact List.Subset.refl _
  | keep _ _ ih => exact List.cons_subset_cons _ ih
  | refuse _ _ ih => exact List.subset_cons_of_subset _ ih

/-- Without a push there is no fragment for a modifier, so the update stays empty. -/
theorem accept?_update_empty {d d' : Draft} {s : Step} (accepted : d.accept? s = .ok (some d'))
    (harmless : s.mutates = false) (empty : d.update = []) : d'.update = [] := by
  cases s with
  | source s =>
    cases accepted
    exact empty
  | predicate op binding e =>
    cases op with
    | operation op =>
      simp only [accept?, Except.ok.injEq, Option.map_eq_some_iff] at accepted
      obtain ⟨c, _, rfl⟩ := accepted
      exact empty
    | modifier m => cases accepted
  | mutation op binding path e =>
    cases op with
    | operation op => cases harmless
    | modifier m =>
      obtain ⟨patch, update, _, patched, rfl⟩ := accept?_modifier accepted
      rw [empty] at patched
      cases patched

theorem Run.update_empty {d final : Draft} {steps kept refused : List Step}
    (run : Run d steps kept refused final) (harmless : kept.any Step.mutates = false)
    (empty : d.update = []) : final.update = [] := by
  induction run with
  | done => exact empty
  | keep accepted _ ih =>
    simp only [List.any_cons, Bool.or_eq_false_iff] at harmless
    exact ih harmless.2 (accept?_update_empty accepted harmless.1 empty)
  | refuse _ _ ih => exact ih harmless empty

/-- In strict mode a run ends at its first refused step. -/
theorem Run.foldlM_strict {d final : Draft} {steps kept refused : List Step} {s : Step} {r : Dropped}
    (run : Run d steps kept (s :: refused) final) (entry : s.dropped? = some r)
    {a : Assembly} (start : a.draft = d) :
    s ∈ steps ∧ steps.foldlM (Assembly.add true) a = .error (.refused r.operator r.node) := by
  generalize same : s :: refused = all at run
  induction run generalizing a with
  | done => cases same
  | @keep _ d' _ t _ _ _ accepted _ ih =>
    subst start
    obtain ⟨member, failed⟩ := ih (Assembly.draft_after a [t] d' []) same
    refine ⟨List.mem_cons_of_mem _ member, ?_⟩
    rw [List.foldlM_cons, bind_eq_error]
    exact .inr ⟨_, Assembly.add_eq_ok_iff.mpr (.inl ⟨d', accepted, rfl⟩), failed⟩
  | refuse rejected =>
    cases same
    subst start
    refine ⟨List.mem_cons_self, ?_⟩
    rw [List.foldlM_cons, bind_eq_error]
    exact .inl (Assembly.add_eq_error_iff.mpr (.inr ⟨rfl, rejected, r, entry, rfl⟩))

end Draft

namespace Chain

/-- Whether a chain refuses nothing in lenient mode, or what it reports first, decides strict mode. -/
theorem assemble_strict_of_lenient {chain : Chain} {compiled : Compiled} {report : List Dropped}
    (lenient : chain.assemble false = .ok (compiled, report)) :
    chain.assemble true = match report with
      | [] => .ok (compiled, [])
      | r :: _ => .error (.refused r.operator r.node) := by
  obtain ⟨kept, refused, d, run, entries, rfl, _⟩ := assemble_eq_ok_iff.mp lenient
  cases report with
  | nil =>
    obtain rfl : refused = [] := by simpa using entries
    exact assemble_eq_ok_iff.mpr ⟨kept, [], d, run, entries, rfl, fun _ => rfl⟩
  | cons r report =>
    cases refused with
    | nil => cases entries
    | cons s refused =>
      simp only [List.map_cons, List.cons.injEq] at entries
      rw [assemble, bind_eq_error]
      exact .inl (run.foldlM_strict entries.1 rfl).2

theorem assemble_lenient_of_strict {chain : Chain} {compiled : Compiled} {report : List Dropped}
    (strict : chain.assemble true = .ok (compiled, report)) :
    report = [] ∧ chain.assemble false = .ok (compiled, []) := by
  obtain ⟨kept, refused, d, run, entries, rfl, clean⟩ := assemble_eq_ok_iff.mp strict
  obtain rfl := clean rfl
  obtain rfl : report = [] := by simpa using entries.symm
  exact ⟨rfl, assemble_eq_ok_iff.mpr ⟨kept, [], d, run, entries, rfl, by simp⟩⟩

/-- A lenient failure is that of a step behind which strict mode does not look. -/
theorem assemble_lenient_error {chain : Chain} {e : CompileError} (failed : chain.assemble false = .error e) :
    ∃ before failing after reached, chain.steps = before ++ failing :: after ∧
      before.foldlM (Assembly.add false) {} = .ok reached ∧ reached.add false failing = .error e ∧
      (chain.assemble true = .error e ∨
        ∃ s ∈ before, ∃ r, s.dropped? = some r ∧
          chain.assemble true = .error (.refused r.operator r.node)) := by
  obtain ⟨before, failing, after, reached, whole, reaches, fails⟩ :=
    foldlM_eq_error (assemble_eq_error_iff.mp failed)
  refine ⟨before, failing, after, reached, whole, reaches, fails, ?_⟩
  obtain ⟨kept, refused, d, more, run, entries, rfl, _⟩ := Assembly.foldlM_add_eq_ok_iff.mp reaches
  rw [assemble, whole, List.foldlM_append]
  cases refused with
  | nil =>
    -- Strict mode reaches the failing step with the same documents.
    obtain rfl : more = [] := by simpa using entries
    have strictly : before.foldlM (Assembly.add true) {} = .ok (Assembly.after {} before d []) :=
      Assembly.foldlM_add_eq_ok_iff.mpr ⟨kept, [], d, [], run, rfl, rfl, fun _ => rfl⟩
    have verdict : (Assembly.after {} before d []).draft.accept? failing = .error e := by
      rcases Assembly.add_eq_error_iff.mp fails with verdict | ⟨impossible, _⟩
      · exact verdict
      · cases impossible
    have stops : (Assembly.after {} before d []).add true failing = .error e :=
      Assembly.add_eq_error_iff.mpr (.inl verdict)
    left
    rw [strictly]
    simp only [List.foldlM_cons, bind, Except.bind, stops]
  | cons s refused =>
    obtain ⟨r, more, rfl, entry, _⟩ : ∃ r more', more = r :: more' ∧ s.dropped? = some r ∧
        refused.map Step.dropped? = more'.map some := by
      cases more with
      | nil => cases entries
      | cons r more =>
        simp only [List.map_cons, List.cons.injEq] at entries
        exact ⟨r, more, rfl, entries⟩
    obtain ⟨member, stopped⟩ := run.foldlM_strict entry rfl
    refine .inr ⟨s, member, r, entry, ?_⟩
    rw [stopped]
    rfl

/-- The chain without its refused steps compiles in strict mode. Where an operation is left it compiles
to the same, and otherwise to a query, beside which the lenient update is empty. -/
theorem assemble_kept {chain : Chain} {compiled : Compiled} {report : List Dropped}
    (lenient : chain.assemble false = .ok (compiled, report)) :
    chain.refusedSteps.map Step.dropped? = report.map some ∧
    ∃ compiled', chain.kept.assemble true = .ok (compiled', []) ∧
      compiled'.documents.queryDocument = compiled.documents.queryDocument ∧
      if chain.kept.steps.any Step.mutates then compiled' = compiled
      else compiled'.documents = .query compiled.documents.queryDocument ∧
        ∀ update, compiled.documents.updateDocument? = some update → update = [] := by
  obtain ⟨steps, deferred, beginsUpdate⟩ := chain
  obtain ⟨kept, refused, d, run, entries, rfl, _⟩ := assemble_eq_ok_iff.mp lenient
  have sorted : Assembly.sort {} steps = (kept, refused) := run.sort_eq rfl
  simp only [refusedSteps, Chain.kept, sorted]
  refine ⟨entries, (Assembly.after {} kept d []).compiled deferred, ?_, ?_, ?_⟩
  · exact assemble_eq_ok_iff.mpr ⟨kept, [], d, run.keptOnly, rfl, rfl, fun _ => rfl⟩
  · cases deferred <;> cases some : kept.any Step.mutates <;> cases all : steps.any Step.mutates <;>
      simp [Assembly.compiled, Assembly.after, some, all, Compiled.documents, Documents.queryDocument]
  · split
    · rename_i operation
      obtain ⟨s, member, changes⟩ := List.any_eq_true.mp operation
      have before : steps.any Step.mutates = true := List.any_eq_true.mpr ⟨s, run.kept_subset member, changes⟩
      simp [Assembly.compiled, Assembly.after, operation, before]
    · rename_i none
      have none : kept.any Step.mutates = false := by simpa using none
      have empty := run.update_empty none rfl
      cases deferred <;> cases all : steps.any Step.mutates <;>
        simp [Assembly.compiled, Assembly.after, none, all, empty, Compiled.documents,
          Documents.queryDocument, Documents.updateDocument?]

/-- The two modes agree, and dropping a step equals not writing it. -/
theorem strict_agrees_with_lenient (chain : Chain) :
    (∀ compiled report, chain.assemble true = .ok (compiled, report) ↔
      report = [] ∧ chain.assemble false = .ok (compiled, [])) ∧
    (∀ compiled r report, chain.assemble false = .ok (compiled, r :: report) →
      chain.assemble true = .error (.refused r.operator r.node)) ∧
    (∀ compiled report, chain.assemble false = .ok (compiled, report) →
      chain.refusedSteps.map Step.dropped? = report.map some ∧
      ∃ compiled', chain.kept.assemble true = .ok (compiled', []) ∧
        compiled'.documents.queryDocument = compiled.documents.queryDocument ∧
        if chain.kept.steps.any Step.mutates then compiled' = compiled
        else compiled'.documents = .query compiled.documents.queryDocument ∧
          ∀ update, compiled.documents.updateDocument? = some update → update = []) ∧
    (∀ e, chain.assemble false = .error e →
      ∃ before failing after reached, chain.steps = before ++ failing :: after ∧
        before.foldlM (Assembly.add false) {} = .ok reached ∧ reached.add false failing = .error e ∧
        (chain.assemble true = .error e ∨
          ∃ s ∈ before, ∃ r, s.dropped? = some r ∧
            chain.assemble true = .error (.refused r.operator r.node))) := by
  refine ⟨fun compiled report => ⟨assemble_lenient_of_strict, ?_⟩,
    fun compiled r report lenient => assemble_strict_of_lenient lenient,
    fun compiled report => assemble_kept, fun e => assemble_lenient_error⟩
  rintro ⟨rfl, lenient⟩
  exact assemble_strict_of_lenient lenient

/-- A chain that increments a field by a text and then sets it. -/
def refusedIncrement : Chain :=
  { steps := [.source .root,
      .mutation (.operation .increment) "p" ⟨[.field "n"], by simp⟩ (.string "x"),
      .mutation (.operation .set) "p" ⟨[.field "n"], by simp⟩ (.integer 1)] }

theorem strict_agrees_on_refusedIncrement :
    refusedIncrement.assemble false = .ok (.update [] [("$set", .single "n" (.int 1))] (some .root),
        [⟨.operation .increment, .string "x"⟩]) ∧
      refusedIncrement.assemble true = .error (.refused (.operation .increment) (.string "x")) :=
  have lenient : refusedIncrement.assemble false = .ok
      (.update [] [("$set", .single "n" (.int 1))] (some .root),
        [⟨.operation .increment, .string "x"⟩]) := rfl
  ⟨lenient, (strict_agrees_with_lenient refusedIncrement).2.1 _ _ _ lenient⟩

end Chain

end DocChain
