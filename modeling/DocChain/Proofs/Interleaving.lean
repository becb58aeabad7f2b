import DocChain.Proofs.Refusal

/-!
# Steps in another order

A filter works on the query alone and a mutation on the update alone. So how the filters and the
mutations of a chain are mixed makes no difference to what it compiles to, nor to the filters and the
mutations that are refused.
-/

namespace DocChain

namespace Step

def isPredicate : Step → Bool
  | predicate .. => true
  | _ => false

def isMutation : Step → Bool
  | mutation .. => true
  | _ => false

def source? : Step → Option Source
  | source s => some s
  | _ => none

end Step

namespace Draft

/-- An accepted step writes the source, the query or the update. -/
theorem accept?_writes {d d' : Draft} {s : Step} (accepted : d.accept? s = .ok (some d')) :
    (∃ source, s = .source source ∧ d' = { d with source := d.source <|> some source }) ∨
      (s.isPredicate = true ∧ ∃ query, d' = { d with query }) ∨
      (s.isMutation = true ∧ ∃ update, d' = { d with update }) := by
  cases s with
  | source source =>
    cases accepted
    exact .inl ⟨source, rfl, rfl⟩
  | predicate op binding body =>
    cases op with
    | modifier m => cases accepted
    | operation op =>
      simp only [accept?, Except.ok.injEq, Option.map_eq_some_iff] at accepted
      obtain ⟨c, _, rfl⟩ := accepted
      exact .inr (.inl ⟨rfl, _, rfl⟩)
  | mutation op binding path arg =>
    cases op with
    | operation op =>
      simp only [accept?, Except.ok.injEq, Option.map_eq_some_iff] at accepted
      obtain ⟨c, _, rfl⟩ := accepted
      exact .inr (.inr ⟨rfl, _, rfl⟩)
    | modifier m =>
      obtain ⟨patch, update, _, _, rfl⟩ := accept?_modifier accepted
      exact .inr (.inr ⟨rfl, update, rfl⟩)

/-- Whether some steps read and write one part of the documents, which the others leave alone. -/
structure Owns (steps : Step → Bool) (part : Draft → Document) : Prop where
  inside : ∀ {d e : Draft} {s : Step}, steps s = true → part d = part e →
    (d.accept? s).map (Option.map part) = (e.accept? s).map (Option.map part)
  outside : ∀ {d d' : Draft} {s : Step}, steps s = false → d.accept? s = .ok (some d') → part d' = part d

theorem predicates_own_query : Owns Step.isPredicate Draft.query where
  inside := by
    intro d e s predicate same
    cases s with
    | source | mutation => cases predicate
    | predicate op binding body =>
      cases op with
      | modifier m => rfl
      | operation op =>
        simp only [accept?]
        cases op.clause? binding none body <;> simp [Except.map, same]
  outside := by
    intro d d' s other accepted
    rcases accept?_writes accepted with ⟨_, _, rfl⟩ | ⟨predicate, _⟩ | ⟨_, _, rfl⟩
    · rfl
    · rw [predicate] at other
      cases other
    · rfl

theorem mutations_own_update : Owns Step.isMutation Draft.update where
  inside := by
    intro d e s mutation same
    cases s with
    | source | predicate => cases mutation
    | mutation op binding path arg =>
      cases op with
      | operation op =>
        simp only [accept?]
        cases op.clause? binding (some path) arg <;> simp [Except.map, same]
      | modifier m =>
        simp only [accept?, same]
        rcases m.patch? arg with err | _ | patch
        · rfl
        · rfl
        · change Except.map _ (patch.apply path e.update >>= _) = Except.map _ (patch.apply path e.update >>= _)
          rcases patch.apply path e.update with err | _ | update <;> rfl
  outside := by
    intro d d' s other accepted
    rcases accept?_writes accepted with ⟨_, _, rfl⟩ | ⟨_, _, rfl⟩ | ⟨mutation, _⟩
    · rfl
    · rfl
    · rw [mutation] at other
      cases other

section
variable {steps : Step → Bool} {part : Draft → Document} {d e final : Draft} {all kept refused : List Step}

namespace Owns

variable {d' : Draft} {s : Step} (owns : Owns steps part) (own : steps s = true) (same : part d = part e)
include owns own same

theorem keep (accepted : d.accept? s = .ok (some d')) :
    ∃ e', e.accept? s = .ok (some e') ∧ part d' = part e' := by
  have verdict := owns.inside own same
  rw [accepted] at verdict
  rcases here : e.accept? s with err | _ | e'
  · rw [here] at verdict
    cases verdict
  · rw [here] at verdict
    cases verdict
  · rw [here] at verdict
    exact ⟨e', rfl, by simpa [Except.map] using verdict⟩

theorem refuse (rejected : d.accept? s = .ok none) : e.accept? s = .ok none := by
  have verdict := owns.inside own same
  rw [rejected] at verdict
  rcases here : e.accept? s with err | _ | e'
  · rw [here] at verdict
    cases verdict
  · rfl
  · rw [here] at verdict
    cases verdict

theorem fail {err : CompileError} (failed : d.accept? s = .error err) : e.accept? s = .error err := by
  have verdict := owns.inside own same
  rw [failed] at verdict
  rcases here : e.accept? s with err' | outcome
  · rw [here] at verdict
    cases verdict
    rfl
  · rw [here] at verdict
    cases verdict

end Owns

/-- A run projects to its steps on one part. -/
theorem Run.project (owns : Owns steps part) (run : Run d all kept refused final) (same : part d = part e) :
    ∃ final', Run e (all.filter steps) (kept.filter steps) (refused.filter steps) final' ∧
      part final' = part final := by
  induction run generalizing e with
  | done d => exact ⟨e, .done e, same.symm⟩
  | @keep d d' final s rest kept refused accepted tail ih =>
    cases own : steps s with
    | true =>
      obtain ⟨e', here, next⟩ := owns.keep own same accepted
      obtain ⟨final', projected, ends⟩ := ih next
      refine ⟨final', ?_, ends⟩
      simpa only [List.filter_cons, own, if_true] using Run.keep here projected
    | false =>
      -- A step of the others leaves the part as it was, and the projection does not take it.
      obtain ⟨final', projected, ends⟩ := ih ((owns.outside own accepted).trans same)
      refine ⟨final', ?_, ends⟩
      simpa [List.filter_cons, own] using projected
  | @refuse d final s rest kept refused rejected tail ih =>
    obtain ⟨final', projected, ends⟩ := ih same
    refine ⟨final', ?_, ends⟩
    cases own : steps s with
    | true =>
      have here := owns.refuse own same rejected
      simpa only [List.filter_cons, own, if_true] using Run.refuse here projected
    | false => simpa [List.filter_cons, own] using projected

/-- Two runs whose steps on one part are the same agree on it. -/
theorem Run.agree (owns : Owns steps part) {all' kept' refused' : List Step} {final' : Draft}
    (run : Run d all kept refused final) (run' : Run d all' kept' refused' final')
    (same : all.filter steps = all'.filter steps) :
    refused.filter steps = refused'.filter steps ∧ part final = part final' := by
  obtain ⟨end₁, projected, ends⟩ := run.project owns rfl
  obtain ⟨end₂, projected', ends'⟩ := run'.project owns rfl
  rw [← same] at projected'
  obtain ⟨rejected, rfl⟩ := projected.unique projected'
  exact ⟨rejected, ends.symm.trans ends'⟩

/-- The first source of a run counts, unless there is one before. -/
theorem Run.source_eq (run : Run d all kept refused final) :
    final.source = (d.source <|> all.findSome? Step.source?) := by
  induction run with
  | done d => cases d.source <;> rfl
  | @keep d d' final s rest kept refused accepted tail ih =>
    rw [ih]
    rcases accept?_writes accepted with ⟨source, rfl, rfl⟩ | ⟨predicate, _, rfl⟩ | ⟨mutation, _, rfl⟩
    · cases d.source <;> rfl
    · cases s with
      | source | mutation => cases predicate
      | predicate => rfl
    · cases s with
      | source | predicate => cases mutation
      | mutation => rfl
  | @refuse d final s rest kept refused rejected tail ih =>
    rw [ih]
    cases s with
    | source s => cases rejected
    | predicate | mutation => rfl

end

theorem isMutation_of_error {d : Draft} {s : Step} {err : CompileError} (failed : d.accept? s = .error err) :
    s.isMutation = true := by
  cases s with
  | source => cases failed
  | predicate op => cases op <;> cases failed
  | mutation => rfl

theorem Run.exists_report {d final : Draft} {all kept refused : List Step}
    (run : Run d all kept refused final) : ∃ report : List Dropped, refused.map Step.dropped? = report.map some := by
  induction run with
  | done => exact ⟨[], rfl⟩
  | keep _ _ ih => exact ih
  | refuse rejected _ ih =>
    obtain ⟨r, entry⟩ := dropped?_of_refused rejected
    obtain ⟨report, entries⟩ := ih
    exact ⟨r :: report, by simp [entry, entries]⟩

end Draft

namespace Chain

/-- The lenient assembly of a chain fails at the first step that fails. -/
theorem assemble_eq_error_iff_run {chain : Chain} {err : CompileError} :
    chain.assemble false = .error err ↔
      ∃ before failing after kept refused d, chain.steps = before ++ failing :: after ∧
        Draft.Run {} before kept refused d ∧ d.accept? failing = .error err := by
  rw [assemble_eq_error_iff]
  constructor
  · intro failed
    obtain ⟨before, failing, after, reached, whole, reaches, fails⟩ := foldlM_eq_error failed
    obtain ⟨kept, refused, d, more, run, _, rfl, _⟩ := Assembly.foldlM_add_eq_ok_iff.mp reaches
    refine ⟨before, failing, after, kept, refused, d, whole, run, ?_⟩
    rcases Assembly.add_eq_error_iff.mp fails with verdict | ⟨impossible, _⟩
    · exact verdict
    · cases impossible
  · rintro ⟨before, failing, after, kept, refused, d, whole, run, verdict⟩
    obtain ⟨report, entries⟩ := run.exists_report
    have reaches : before.foldlM (Assembly.add false) {} = .ok (Assembly.after {} before d report) :=
      Assembly.foldlM_add_eq_ok_iff.mpr ⟨kept, refused, d, report, run, entries, rfl, by simp⟩
    have stops : (Assembly.after {} before d report).add false failing = .error err :=
      Assembly.add_eq_error_iff.mpr (.inl verdict)
    rw [whole, List.foldlM_append, reaches]
    simp only [bind, Except.bind, List.foldlM_cons, stops]

/-- The mutations of a chain alone. -/
def mutationsOnly (chain : Chain) : Chain :=
  { chain with steps := chain.steps.filter Step.isMutation }

theorem assemble_mutationsOnly_error {chain : Chain} {err : CompileError}
    (failed : chain.assemble false = .error err) : chain.mutationsOnly.assemble false = .error err := by
  obtain ⟨before, failing, after, kept, refused, d, whole, run, verdict⟩ :=
    assemble_eq_error_iff_run.mp failed
  obtain ⟨d', projected, ends⟩ := run.project Draft.mutations_own_update rfl
  have mutation := Draft.isMutation_of_error verdict
  refine assemble_eq_error_iff_run.mpr
    ⟨before.filter Step.isMutation, failing, after.filter Step.isMutation, _, _, d', ?_, projected, ?_⟩
  · simp [mutationsOnly, whole, List.filter_append, mutation]
  · exact Draft.mutations_own_update.fail mutation ends.symm verdict

/-- Whether a chain fails, and how, is up to its mutations. -/
theorem assemble_mutationsOnly {chain : Chain} {err : CompileError} :
    chain.assemble false = .error err ↔ chain.mutationsOnly.assemble false = .error err := by
  constructor
  · exact assemble_mutationsOnly_error
  · intro failed
    rcases outcome : chain.assemble false with err' | ⟨compiled, report⟩
    · rw [assemble_mutationsOnly_error outcome] at failed
      cases failed
      rfl
    · obtain ⟨kept, refused, d, run, _, _, _⟩ := assemble_eq_ok_iff.mp outcome
      obtain ⟨d', projected, _⟩ := run.project Draft.mutations_own_update rfl
      obtain ⟨report', entries⟩ := projected.exists_report
      have succeeds : chain.mutationsOnly.assemble false = .ok (_, report') :=
        assemble_eq_ok_iff.mpr ⟨_, _, d', projected, entries, rfl, by simp⟩
      rw [succeeds] at failed
      cases failed

theorem mutates_eq {steps : List Step} :
    steps.any Step.mutates = (steps.filter Step.isMutation).any Step.mutates := by
  induction steps with
  | nil => rfl
  | cons s rest ih =>
    rw [List.any_cons, ih, List.filter_cons]
    cases s <;> simp [Step.isMutation, Step.mutates]

theorem refusedSteps_eq {chain : Chain} {kept refused : List Step} {d : Draft}
    (run : Draft.Run {} chain.steps kept refused d) : chain.refusedSteps = refused := by
  rw [refusedSteps, run.sort_eq (a := {}) rfl]

/-- Whether two chains have the same filters, the same mutations and the same source, in whatever order. -/
structure SameParts (first second : Chain) : Prop where
  predicates : first.steps.filter Step.isPredicate = second.steps.filter Step.isPredicate
  mutations : first.steps.filter Step.isMutation = second.steps.filter Step.isMutation
  source : first.steps.findSome? Step.source? = second.steps.findSome? Step.source?
  deferred : first.deferred = second.deferred

namespace SameParts

variable {first second : Chain}

theorem symm (same : first.SameParts second) : second.SameParts first :=
  ⟨same.predicates.symm, same.mutations.symm, same.source.symm, same.deferred.symm⟩

theorem assemble_error (same : first.SameParts second) {err : CompileError}
    (failed : first.assemble false = .error err) : second.assemble false = .error err := by
  rw [assemble_mutationsOnly, assemble_eq_error_iff] at failed ⊢
  simpa only [mutationsOnly, same.mutations] using failed

theorem assemble_ok (same : first.SameParts second) {compiled : Compiled} {report : List Dropped}
    (succeeds : first.assemble false = .ok (compiled, report)) :
    ∃ report', second.assemble false = .ok (compiled, report') ∧
      first.refusedSteps.map Step.dropped? = report.map some ∧
      second.refusedSteps.map Step.dropped? = report'.map some ∧
      first.refusedSteps.filter Step.isPredicate = second.refusedSteps.filter Step.isPredicate ∧
      first.refusedSteps.filter Step.isMutation = second.refusedSteps.filter Step.isMutation := by
  rcases outcome : second.assemble false with err | ⟨compiled', report'⟩
  · rw [same.symm.assemble_error outcome] at succeeds
    cases succeeds
  · obtain ⟨kept, refused, d, run, entries, rfl, _⟩ := assemble_eq_ok_iff.mp succeeds
    obtain ⟨kept', refused', d', run', entries', rfl, _⟩ := assemble_eq_ok_iff.mp outcome
    obtain ⟨filters, query⟩ := run.agree Draft.predicates_own_query run' same.predicates
    obtain ⟨changes, update⟩ := run.agree Draft.mutations_own_update run' same.mutations
    have source : d.source = d'.source := by
      rw [run.source_eq, run'.source_eq, same.source]
    have mutates : first.steps.any Step.mutates = second.steps.any Step.mutates := by
      rw [mutates_eq, same.mutations, ← mutates_eq]
    refine ⟨report', ?_, ?_⟩
    · simp [Assembly.after, Assembly.compiled, same.deferred, query, update, source, mutates]
    · rw [refusedSteps_eq run, refusedSteps_eq run']
      exact ⟨entries, entries', filters, changes⟩

/-- A chain that refuses nothing refuses nothing in another order either. -/
theorem assemble_strict (same : first.SameParts second) {compiled : Compiled} {report : List Dropped}
    (succeeds : first.assemble true = .ok (compiled, report)) :
    second.assemble true = .ok (compiled, []) := by
  obtain ⟨rfl, lenient⟩ := assemble_lenient_of_strict succeeds
  obtain ⟨report', lenient', entries, entries', filters, changes⟩ := same.assemble_ok lenient
  have nothing : first.refusedSteps = [] := by simpa using entries
  obtain rfl : report' = [] := by
    rcases report' with _ | ⟨r, more⟩
    · rfl
    · cases refused : second.refusedSteps with
      | nil => simp [refused] at entries'
      | cons s rest =>
        rw [nothing, refused] at filters changes
        rw [refused, List.map_cons, List.map_cons, List.cons.injEq] at entries'
        cases s with
        | source => cases entries'.1
        | predicate => cases filters
        | mutation => cases changes
  exact assemble_strict_of_lenient lenient'

end SameParts

/-- How the filters and the mutations of a chain are mixed makes no difference. -/
theorem assemble_interleaved {first second : Chain} (same : first.SameParts second) :
    (∀ err, first.assemble false = .error err ↔ second.assemble false = .error err) ∧
    (∀ compiled report, first.assemble false = .ok (compiled, report) →
      ∃ report', second.assemble false = .ok (compiled, report') ∧
        first.refusedSteps.map Step.dropped? = report.map some ∧
        second.refusedSteps.map Step.dropped? = report'.map some ∧
        first.refusedSteps.filter Step.isPredicate = second.refusedSteps.filter Step.isPredicate ∧
        first.refusedSteps.filter Step.isMutation = second.refusedSteps.filter Step.isMutation) ∧
    ∀ compiled, (∃ report, first.assemble true = .ok (compiled, report)) ↔
      ∃ report, second.assemble true = .ok (compiled, report) := by
  refine ⟨fun err => ⟨same.assemble_error, same.symm.assemble_error⟩,
    fun compiled report => same.assemble_ok, fun compiled => ⟨?_, ?_⟩⟩
  · rintro ⟨report, succeeds⟩
    exact ⟨[], same.assemble_strict succeeds⟩
  · rintro ⟨report, succeeds⟩
    exact ⟨[], same.symm.assemble_strict succeeds⟩

/-- Two filters, the first of them over two fields, in front of a list push with a count on it. -/
def filteredFirst : Chain :=
  let field (name : String) := Expr.member (.binding "p") name
  let xs : FieldPath := ⟨[.field "xs"], by simp⟩
  { steps := [.source .root,
      .predicate (.operation .filter) "p" (.binary (.comparison .less) (field "a") (field "b")),
      .predicate (.operation .filter) "p" (field "vip"),
      .mutation (.operation .pushEach) "p" xs (.array [.integer 1]),
      .mutation (.modifier .slice) "p" xs (.string "x"),
      .mutation (.modifier .slice) "p" xs (.integer 2)] }

/-- The same steps mixed, and another source behind them. -/
def filteredBetween : Chain :=
  let field (name : String) := Expr.member (.binding "p") name
  let xs : FieldPath := ⟨[.field "xs"], by simp⟩
  { steps := [.source .root,
      .mutation (.operation .pushEach) "p" xs (.array [.integer 1]),
      .mutation (.modifier .slice) "p" xs (.string "x"),
      .predicate (.operation .filter) "p" (.binary (.comparison .less) (field "a") (field "b")),
      .mutation (.modifier .slice) "p" xs (.integer 2),
      .predicate (.operation .filter) "p" (field "vip"),
      .source (.named "people")] }

theorem assemble_filteredBetween :
    let fields := Expr.binary (.comparison .less) (.member (.binding "p") "a") (.member (.binding "p") "b")
    let compiled : Compiled := .update [("vip", .bool true)]
      [("$push", .single "xs" (.object [("$each", .array [.int 1]), ("$slice", .int (-2))]))] (some .root)
    filteredFirst.SameParts filteredBetween ∧
      filteredFirst.assemble false =
        .ok (compiled, [⟨.operation .filter, fields⟩, ⟨.modifier .slice, .string "x"⟩]) ∧
      ∃ report, filteredBetween.assemble false = .ok (compiled, report) ∧
        filteredBetween.refusedSteps.map Step.dropped? = report.map some := by
  intro fields compiled
  have same : filteredFirst.SameParts filteredBetween := ⟨rfl, rfl, rfl, rfl⟩
  have succeeds : filteredFirst.assemble false =
      .ok (compiled, [⟨.operation .filter, fields⟩, ⟨.modifier .slice, .string "x"⟩]) := rfl
  obtain ⟨report, mixed, _, entries, _⟩ := (assemble_interleaved same).2.1 _ _ succeeds
  exact ⟨same, succeeds, report, mixed, entries⟩

end Chain

end DocChain
