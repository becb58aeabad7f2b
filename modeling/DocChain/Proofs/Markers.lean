import DocChain.Proofs.RoundTrip
import DocChain.Proofs.Stacks
import DocChain.Proofs.Trimming
import DocChain.Proofs.Unwinding

/-!
# Markers

The markers `update()` and `defer()` write no step. A chain has the same documents with an `update()` on any
of its receivers, except inside the stack of a `push_each`, and with a `defer()` behind it.
-/

namespace DocChain

namespace Call

/-- What a marker notes in a chain is apart from what the other calls write. -/
theorem onto_comm {marker : Call} (marks : marker.isMarker = true) (c : Call) (behind : Chain) :
    marker.onto (c.onto behind) = c.onto (marker.onto behind) := by
  cases marker with
  | step => cases marks
  | beginUpdate | defer => cases c <;> rfl

end Call

namespace Chain

theorem assemble_beginUpdate (chain : Chain) (strict : Bool) :
    (Call.beginUpdate.onto chain).assemble strict = chain.assemble strict := rfl

theorem assemble_defer (chain : Chain) (strict : Bool) :
    (Call.defer.onto chain).assemble strict =
      (chain.assemble strict).map fun result => (.deferred result.1.documents, result.2) := by
  have steps : (Call.defer.onto chain).steps = chain.steps := rfl
  rw [assemble, assemble, steps]
  cases chain.steps.foldlM (Assembly.add strict) {} with
  | error => rfl
  | ok a =>
    have documents : a.compiled true = .deferred (a.compiled chain.deferred).documents := by
      unfold Assembly.compiled
      cases chain.deferred <;> cases a.mutates <;> rfl
    exact congrArg (fun compiled => Except.ok (compiled, a.dropped)) documents

end Chain

namespace Expr

/-- Whether the last call of a chain is `defer()`. -/
def EndsInDefer (e : Expr) : Prop :=
  ∃ receiver, e = call receiver "defer" []

theorem unwind_call_of {receiver : Expr} {method : String} {args : List Expr} {outermost : Bool} {c : Call}
    {behind : Chain} (read : recognizeCall receiver method args = .ok c) (last : c = .defer → outermost = true) :
    (call receiver method args).unwind outermost behind = receiver.unwind false (c.onto behind) := by
  rw [unwind, read]
  cases c with
  | step | beginUpdate => rfl
  | defer =>
    rw [last rfl]
    rfl

/-- A marker noted behind a chain is noted in it. -/
theorem unwind_onto {marker : Call} (marks : marker.isMarker = true) (e : Expr) (outermost : Bool)
    (behind : Chain) : e.unwind outermost (marker.onto behind) = (e.unwind outermost behind).map marker.onto := by
  induction e using Expr.steps.induct generalizing outermost behind with
  | case1 receiver method args ih =>
    rcases read : recognizeCall receiver method args with err | c
    · rw [unwind, unwind, read]
      rfl
    · by_cases last : c = .defer → outermost = true
      · rw [unwind_call_of read last, unwind_call_of read last, ← Call.onto_comm marks, ih]
      · obtain ⟨rfl, inside⟩ := Classical.not_imp.mp last
        obtain rfl := Bool.eq_false_iff.mpr inside
        rw [unwind, unwind, read]
        rfl
  | case2 e notCall =>
    rw [unwind.eq_2 _ _ _ notCall, unwind.eq_2 _ _ _ notCall]
    cases e.recognizeSource with
    | error => rfl
    | ok source =>
      cases marker with
      | step => cases marks
      | beginUpdate | defer => rfl

/-- Only a last `defer()` depends on being the last call. -/
theorem unwind_outermost {e : Expr} (other : ¬ e.EndsInDefer) (outermost : Bool) (behind : Chain) :
    e.unwind outermost behind = e.unwind false behind := by
  cases e with
  | call receiver method args =>
    rcases read : recognizeCall receiver method args with err | c
    · rw [unwind, unwind, read]
      rfl
    · have noDefer : c ≠ .defer := by
        rintro rfl
        rcases recognizeCall_cases read with ⟨_, rfl, rfl⟩ | ⟨impossible, _⟩ | ⟨_, impossible, _⟩
        · exact other ⟨receiver, rfl⟩
        · cases impossible
        · cases impossible
      rw [unwind_call_of read fun same => absurd same noDefer, unwind_call_of read fun same => absurd same noDefer]
  | _ => rfl

/-! ### `defer()` -/

theorem chain_defer {e : Expr} (other : ¬ e.EndsInDefer) :
    (e.call "defer" []).chain = e.chain.map Call.defer.onto := by
  have read : recognizeCall e "defer" [] = .ok .defer := rfl
  rw [chain, unwind_call_of read fun _ => rfl, unwind_onto rfl, chain, unwind_outermost other true]

/-- A chain that is deferred has the documents and the report that it has at once, or the same error. -/
theorem compile_defer {e : Expr} (other : ¬ e.EndsInDefer) (strict : Bool) :
    (e.call "defer" []).compile strict =
      (e.compile strict).map fun result => (.deferred result.1.documents, result.2) := by
  rw [compile, chain_defer other, compile]
  cases e.chain with
  | error => rfl
  | ok chain => exact chain.assemble_defer strict

/-! ### `update()` -/

/-- Recognition finds the same `push_each` below a modifier, whatever the calls between are written on. -/
theorem pushEachBelow_withCalls {base node target : Expr} {sorted sorted' : Bool} {calls : List (String × List Expr)}
    (detached : Detached calls) (nonempty : calls ≠ [])
    (below : pushEachBelow node sorted (base.withCalls calls) = .ok (target, sorted')) (base' node' : Expr) :
    pushEachBelow node' sorted (base'.withCalls calls) = .ok (target, sorted') := by
  induction calls using List.reverseRecOn generalizing sorted with
  | nil => exact absurd rfl nonempty
  | append_singleton calls entry ih =>
    obtain ⟨method, args⟩ := entry
    rw [withCalls_snoc] at below ⊢
    unfold pushEachBelow at below ⊢
    have inner {m : Modifier} (named : Operator.ofMethod? method = some (.modifier m)) : calls ≠ [] := by
      rintro rfl
      exact detached (method, args) rfl m named
    cases named : Operator.ofMethod? method with
    | none =>
      rw [named] at below
      cases below
    | some op =>
      rw [named] at below
      cases op with
      | modifier m =>
        cases m with
        | slice | sortBy | thenSortBy => exact ih detached.of_snoc (inner named) below
      | operation op =>
        cases op with
        | pushEach =>
          dsimp only at below ⊢
          split at below
          · exact below
          · cases below
        | _ => cases below

theorem operationStep_of_ok {node : Expr} {op : Operation} {args : List Expr} {s : Step}
    (read : operationStep node op args = .ok s) (node' : Expr) : operationStep node' op args = .ok s := by
  fun_cases operationStep node op args <;> simp_all [operationStep]

theorem modifierStep_withCalls {base node : Expr} {m : Modifier} {calls : List (String × List Expr)} {args : List Expr}
    {s : Step} (detached : Detached calls) (nonempty : calls ≠ [])
    (read : modifierStep node (base.withCalls calls) m args = .ok s) (base' node' : Expr) :
    modifierStep node' (base'.withCalls calls) m args = .ok s := by
  unfold modifierStep at read ⊢
  split at read
  · obtain ⟨⟨target, sorted⟩, found, read⟩ := bind_eq_ok.mp read
    have below : pushEachBelow node false (base.withCalls calls) = .ok (target, sorted) := mapError_eq_ok.mp found
    rw [pushEachBelow_withCalls detached nonempty below base' node']
    exact read
  · cases read

/-- What a call writes is up to the calls that it stands on, as far as the `push_each` below it. -/
theorem recognizeCall_withCalls {base : Expr} {calls : List (String × List Expr)} {method : String}
    {args : List Expr} {c : Call} (detached : Detached (calls ++ [(method, args)]))
    (read : recognizeCall (base.withCalls calls) method args = .ok c) (base' : Expr) :
    recognizeCall (base'.withCalls calls) method args = .ok c := by
  cases named : Operator.ofMethod? method with
  | none =>
    rw [recognizeCall_unnamed _ _ named] at read ⊢
    split at read
    · rwa [if_pos ‹_›]
    · split at read
      · rwa [if_neg ‹_›, if_pos ‹_›]
      · cases read
  | some op =>
    cases op with
    | modifier m =>
      have nonempty : calls ≠ [] := by
        rintro rfl
        exact detached (method, args) rfl m named
      rw [recognizeCall_modifier _ _ named] at read ⊢
      cases stepped : modifierStep (call (base.withCalls calls) method args) (base.withCalls calls) m args with
      | error e =>
        rw [stepped] at read
        cases read
      | ok s =>
        rw [modifierStep_withCalls detached.of_snoc nonempty stepped base' (call (base'.withCalls calls) method args)]
        rw [stepped] at read
        exact read
    | operation op =>
      rw [recognizeCall_operation _ _ named] at read ⊢
      cases stepped : operationStep (call (base.withCalls calls) method args) op args with
      | error e =>
        rw [stepped] at read
        cases read
      | ok s =>
        rw [operationStep_of_ok stepped (call (base'.withCalls calls) method args)]
        rw [stepped] at read
        exact read

/-- An `update()` on a receiver is noted in the chain, and that is all. -/
theorem unwind_update {receiver : Expr} {calls : List (String × List Expr)} {outermost : Bool} {behind chain : Chain}
    (other : ¬ receiver.EndsInDefer) (detached : Detached calls)
    (unwound : (receiver.withCalls calls).unwind outermost behind = .ok chain) :
    ((receiver.call "update" []).withCalls calls).unwind outermost behind = .ok (Call.beginUpdate.onto chain) := by
  induction calls using List.reverseRecOn generalizing outermost behind with
  | nil =>
    have read : recognizeCall receiver "update" [] = .ok .beginUpdate := rfl
    have inner : receiver.unwind false behind = .ok chain := (unwind_outermost other outermost behind).symm.trans unwound
    have noted : (receiver.call "update" []).unwind outermost behind = _ :=
      unwind_call_of read fun impossible => by cases impossible
    exact noted.trans (by rw [unwind_onto rfl, inner]; rfl)
  | append_singleton calls entry ih =>
    obtain ⟨method, args⟩ := entry
    rw [withCalls_snoc] at unwound ⊢
    obtain ⟨c, read, last, tail⟩ := unwind_call_ok unwound
    rw [unwind_call_of (recognizeCall_withCalls detached read _) last]
    exact ih detached.of_snoc tail

theorem compile_update {receiver : Expr} {calls : List (String × List Expr)} {strict : Bool}
    {result : Compiled × List Dropped} (other : ¬ receiver.EndsInDefer) (detached : Detached calls)
    (accepted : (receiver.withCalls calls).compile strict = .ok result) :
    ((receiver.call "update" []).withCalls calls).compile strict = .ok result := by
  obtain ⟨chain, unwound, assembled⟩ := bind_eq_ok.mp accepted
  rw [compile, Expr.chain, unwind_update other detached unwound]
  exact (chain.assemble_beginUpdate strict).trans assembled

/-! ### The command -/

/-- What the compile command answers to a text is up to the expression that the text is read as. -/
theorem run_compileCommand {text : String} {e : Expr} (parsed : Expr.parse text = .ok e) (pretty strict : Bool) :
    CompileCommand.run { chain := text, pretty, strict } =
      match e.compile strict with
      | .ok result => .ok (.documents result.1.documents.wire)
      | .error err => .error (.compile err) := by
  have trimmed := parse_trimBlank parsed
  have some := isEmpty_of_parse trimmed
  unfold CompileCommand.run
  simp only [some, trimmed, Bool.false_eq_true, if_false, mapError_ok, bind, Except.bind]
  cases e.compile strict <;> rfl

/-- Markers never change documents. A `defer()` behind a chain defers what the chain compiles to, or leaves its
error. An `update()` on a receiver leaves what an accepted chain compiles to, unless a modifier is written on it.
So the compile command prints the documents of the chain at once, with a `defer()` or without. -/
theorem markers_keep_documents (e : Expr) (strict : Bool) :
    (¬ e.EndsInDefer → (e.call "defer" []).compile strict =
      (e.compile strict).map fun result => (.deferred result.1.documents, result.2)) ∧
    (∀ (receiver : Expr) calls result, e = receiver.withCalls calls → ¬ receiver.EndsInDefer → Detached calls →
      e.compile strict = .ok result →
      ((receiver.call "update" []).withCalls calls).compile strict = .ok result) ∧
    (¬ e.EndsInDefer → ∀ text pretty,
      Expr.parse text = .ok e ∨ Expr.parse text = .ok (e.call "defer" []) →
      CompileCommand.run { chain := text, pretty, strict } =
        match e.compile strict with
        | .ok result => .ok (.documents result.1.documents.wire)
        | .error err => .error (.compile err)) := by
  refine ⟨fun other => compile_defer other strict, ?_, ?_⟩
  · rintro receiver calls result rfl other detached accepted
    exact compile_update other detached accepted
  · rintro other text pretty (parsed | parsed)
    · exact run_compileCommand parsed pretty strict
    · rw [run_compileCommand parsed pretty strict, compile_defer other]
      cases e.compile strict <;> rfl

/-- A filter and a list push with a count on it. -/
def cappedPush : Expr :=
  let field (name : String) := lambda "p" (member (binding "p") name)
  let adults := (collection "people").call "where"
    [lambda "p" (binary (.comparison .greater) (member (binding "p") "age") (integer 18))]
  (adults.call "push_each" [field "xs", array [integer 3]]).call "slice" [integer 2]

theorem markers_keep_cappedPush :
    let compiled : Compiled := .update [("age", .single "$gt" (.int 18))]
      [("$push", .single "xs" (.object [("$each", .array [.int 3]), ("$slice", .int (-2))]))] (some (.named "people"))
    (cappedPush.call "defer" []).compile true = .ok (.deferred compiled.documents, []) ∧
      (((collection "people").call "update" []).withCalls
        [("where", [lambda "p" (binary (.comparison .greater) (member (binding "p") "age") (integer 18))]),
          ("push_each", [lambda "p" (member (binding "p") "xs"), array [integer 3]]),
          ("slice", [integer 2])]).compile true = .ok (compiled, []) ∧
      CompileCommand.run { chain := (cappedPush.call "defer" []).text, strict := true } =
        .ok (.documents compiled.documents.wire) := by
  intro compiled
  have accepted : cappedPush.compile true = .ok (compiled, []) := rfl
  have other : ¬ cappedPush.EndsInDefer := by simp [EndsInDefer, cappedPush]
  have source : ¬ (collection "people").EndsInDefer := by simp [EndsInDefer]
  obtain ⟨deferred, updated, printed⟩ := markers_keep_documents cappedPush true
  refine ⟨?_, ?_, ?_⟩
  · rw [deferred other, accepted]
    rfl
  · refine updated (collection "people") _ _ rfl source ?_ accepted
    rintro entry ⟨⟩ m named
    cases named
  · have parsed := parse_text (cappedPush.call "defer" []) (by decide +kernel)
    have ran := printed other _ false (.inr parsed)
    rw [accepted] at ran
    exact ran

end Expr

end DocChain
