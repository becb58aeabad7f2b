import DocChain.Proofs.Calls
import Mathlib.Data.List.Forall2

/-!
# Unwinding a chain

A chain is read from its last call to its source. What comes out are the steps of its calls in the
order of writing, and of several faults the one that is written last is reported.
-/

namespace DocChain

namespace Call

def isMarker : Call → Bool
  | step _ => false
  | beginUpdate | defer => true

/-- What a call adds in front of a chain. -/
def onto : Call → Chain → Chain
  | step s, behind => { behind with steps := s :: behind.steps }
  | beginUpdate, behind => { behind with beginsUpdate := true }
  | defer, behind => { behind with deferred := true }

theorem length_steps (calls : List Call) :
    (calls.flatMap steps).length + calls.countP isMarker = calls.length := by
  induction calls with
  | nil => rfl
  | cons c rest ih =>
    have one : c.steps.length + (if c.isMarker then 1 else 0) = 1 := by cases c <;> rfl
    rw [List.flatMap_cons, List.length_append, List.countP_cons, List.length_cons]
    omega

theorem steps_foldr (calls : List Call) (behind : Chain) :
    (calls.foldr onto behind).steps = calls.flatMap steps ++ behind.steps := by
  induction calls with
  | nil => rfl
  | cons c rest ih => cases c <;> simp [onto, steps, ih]

theorem deferred_foldr (calls : List Call) (behind : Chain) :
    (calls.foldr onto behind).deferred = true ↔ defer ∈ calls ∨ behind.deferred = true := by
  induction calls with
  | nil => simp
  | cons c rest ih => cases c <;> simp [onto, ih]

theorem beginsUpdate_foldr (calls : List Call) (behind : Chain) :
    (calls.foldr onto behind).beginsUpdate = true ↔ beginUpdate ∈ calls ∨ behind.beginsUpdate = true := by
  induction calls with
  | nil => simp
  | cons c rest ih => cases c <;> simp [onto, ih]

end Call

namespace Expr

/-- The calls of an expression, each with what it is written on, in the order of writing. -/
def callNodes : Expr → List Expr
  | call receiver method args => receiver.callNodes ++ [call receiver method args]
  | _ => []

/-- What the first call of an expression is written on. -/
def innermost : Expr → Expr
  | call receiver _ _ => receiver.innermost
  | e => e

def ReadsAs (node : Expr) (c : Call) : Prop :=
  ∃ receiver, node.recognize = .ok (.call c receiver)

/-- Whether all calls are recognized and `defer()` is at most the last one, if it can be there at all. -/
def WellPlaced (outermost : Bool) (nodes : List Expr) : Prop :=
  ∀ before node after, nodes = before ++ node :: after →
    ∃ c, node.ReadsAs c ∧ (c = .defer → outermost = true ∧ after = [])

/-- Whether a call is what a chain fails over. -/
def FailsWith (node : Expr) (last : Bool) (err : CompileError) : Prop :=
  node.recognize = .error err ∨ node.ReadsAs .defer ∧ last = false ∧ err = .misplacedDefer

theorem recognize_call (receiver : Expr) (method : String) (args : List Expr) :
    (call receiver method args).recognize =
      (recognizeCall receiver method args).map fun c => .call c receiver := by
  rw [recognize]
  cases recognizeCall receiver method args <;> rfl

theorem readsAs_call {receiver : Expr} {method : String} {args : List Expr} {c : Call}
    (read : recognizeCall receiver method args = .ok c) : (call receiver method args).ReadsAs c :=
  ⟨receiver, by rw [recognize_call, read]; rfl⟩

theorem WellPlaced.nil (outermost : Bool) : WellPlaced outermost [] := by
  intro before node after whole
  simp at whole

theorem WellPlaced.snoc {outermost : Bool} {nodes : List Expr} {node : Expr} {c : Call}
    (placed : WellPlaced false nodes) (reads : node.ReadsAs c) (last : c = .defer → outermost = true) :
    WellPlaced outermost (nodes ++ [node]) := by
  intro before found after whole
  rcases snoc_eq_append_cons whole with ⟨rfl, rfl, rfl⟩ | ⟨rest, rfl, same⟩
  · exact ⟨c, reads, fun deferred => ⟨last deferred, rfl⟩⟩
  · obtain ⟨c', reads', inside⟩ := placed _ _ _ same
    refine ⟨c', reads', fun deferred => ?_⟩
    cases (inside deferred).1

theorem ReadsAs.unique {node : Expr} {c c' : Call} (reads : node.ReadsAs c) (reads' : node.ReadsAs c') :
    c = c' := by
  obtain ⟨receiver, read⟩ := reads
  obtain ⟨receiver', read'⟩ := reads'
  rw [read] at read'
  cases read'
  rfl

/-- A call that fails is not in its place. -/
theorem WellPlaced.not_failsWith {outermost : Bool} {before after : List Expr} {node : Expr} {err : CompileError}
    (placed : WellPlaced outermost (before ++ node :: after)) :
    ¬ node.FailsWith (outermost && after.isEmpty) err := by
  obtain ⟨c, reads, last⟩ := placed before node after rfl
  rintro (unread | ⟨deferred, early, _⟩)
  · obtain ⟨receiver, read⟩ := reads
    rw [read] at unread
    cases unread
  · obtain ⟨rfl, rfl⟩ := last (reads.unique deferred)
    cases early

/-! ### The loop -/

/-- One turn of the loop: the last call goes in front of what is behind it. -/
theorem unwind_call_ok {receiver : Expr} {method : String} {args : List Expr} {outermost : Bool}
    {behind chain : Chain} (unwound : (call receiver method args).unwind outermost behind = .ok chain) :
    ∃ c, recognizeCall receiver method args = .ok c ∧ (c = .defer → outermost = true) ∧
      receiver.unwind false (c.onto behind) = .ok chain := by
  rw [unwind] at unwound
  obtain ⟨c, read, unwound⟩ := bind_eq_ok.mp unwound
  refine ⟨c, read, ?_⟩
  cases c with
  | step | beginUpdate => exact ⟨(fun deferred => by cases deferred), unwound⟩
  | defer =>
    cases outermost
    · cases unwound
    · exact ⟨fun _ => rfl, unwound⟩

theorem unwind_call_error {receiver : Expr} {method : String} {args : List Expr} {outermost : Bool}
    {behind : Chain} {err : CompileError}
    (failed : (call receiver method args).unwind outermost behind = .error err) :
    (call receiver method args).FailsWith outermost err ∨
      ∃ c, recognizeCall receiver method args = .ok c ∧ (c = .defer → outermost = true) ∧
        receiver.unwind false (c.onto behind) = .error err := by
  rw [unwind] at failed
  rcases bind_eq_error.mp failed with unread | ⟨c, read, failed⟩
  · left
    left
    rw [recognize_call, unread]
    rfl
  · cases c with
    | step | beginUpdate => exact .inr ⟨_, read, (fun deferred => by cases deferred), failed⟩
    | defer =>
      cases outermost
      · cases failed
        exact .inl (.inr ⟨readsAs_call read, rfl, rfl⟩)
      · exact .inr ⟨_, read, fun _ => rfl, failed⟩

/-- An expression that unwinds has a source, and its calls stand in front of what was behind them. -/
theorem unwind_eq_ok {e : Expr} {outermost : Bool} {behind chain : Chain}
    (unwound : e.unwind outermost behind = .ok chain) :
    ∃ source calls, e.innermost.recognize = .ok (.source source) ∧
      List.Forall₂ ReadsAs e.callNodes calls ∧ WellPlaced outermost e.callNodes ∧
      (.defer ∈ calls → outermost = true ∧ calls.getLast? = some .defer) ∧
      let behind := calls.foldr Call.onto behind
      chain = { behind with steps := .source source :: behind.steps } := by
  -- What is left of the calls is never outermost again, so a `defer()` among them cannot be in place.
  induction e using Expr.steps.induct generalizing outermost behind with
  | case1 receiver method args ih =>
    obtain ⟨c, read, last, tail⟩ := unwind_call_ok unwound
    obtain ⟨source, calls, start, reads, placed, inside, rfl⟩ := ih tail
    have reads' := readsAs_call read
    refine ⟨source, calls ++ [c], start, List.rel_append reads (.cons reads' .nil), placed.snoc reads' last,
      fun member => ?_, by simp⟩
    rcases List.mem_append.mp member with early | here
    · cases (inside early).1
    · obtain rfl := List.mem_singleton.mp here
      exact ⟨last rfl, List.getLast?_concat⟩
  | case2 e notCall =>
    rw [unwind.eq_2 _ _ _ notCall] at unwound
    obtain ⟨source, read, same⟩ := bind_eq_ok.mp unwound
    cases same
    rw [innermost.eq_2 _ notCall, callNodes.eq_2 _ notCall, recognize.eq_2 _ notCall, read]
    exact ⟨source, [], rfl, .nil, .nil outermost, (fun member => by cases member), rfl⟩

/-- An expression that does not unwind fails over a call behind which all is well, or over its source. -/
theorem unwind_eq_error {e : Expr} {outermost : Bool} {behind : Chain} {err : CompileError}
    (failed : e.unwind outermost behind = .error err) :
    (∃ before node after, e.callNodes = before ++ node :: after ∧ WellPlaced outermost after ∧
      node.FailsWith (outermost && after.isEmpty) err) ∨
    WellPlaced outermost e.callNodes ∧ e.innermost.recognize = .error err := by
  induction e using Expr.steps.induct generalizing outermost behind with
  | case1 receiver method args ih =>
    rcases unwind_call_error failed with here | ⟨c, read, last, tail⟩
    · left
      exact ⟨receiver.callNodes, call receiver method args, [], rfl, .nil outermost, by simpa using here⟩
    · have reads := readsAs_call read
      rcases ih tail with ⟨before, node, after, whole, placed, fails⟩ | ⟨placed, unread⟩
      · left
        refine ⟨before, node, after ++ [call receiver method args], ?_, placed.snoc reads last, ?_⟩
        · rw [callNodes, whole, List.append_assoc, List.cons_append]
        · have behind : (outermost && (after ++ [call receiver method args]).isEmpty) = false := by simp
          rw [behind]
          exact fails
      · exact .inr ⟨placed.snoc reads last, unread⟩
  | case2 e notCall =>
    right
    rw [unwind.eq_2 _ _ _ notCall] at failed
    rw [innermost.eq_2 _ notCall, callNodes.eq_2 _ notCall, recognize.eq_2 _ notCall]
    refine ⟨.nil outermost, ?_⟩
    rcases bind_eq_error.mp failed with unread | ⟨_, _, impossible⟩
    · rw [unread]
      rfl
    · cases impossible

/-- A chain holds its source and the steps of its calls in the order of writing, and it fails over what
was written last. -/
theorem chain_unwinds (e : Expr) :
    ((∃ chain, e.chain = .ok chain) ↔
      (∃ source, e.innermost.recognize = .ok (.source source)) ∧ WellPlaced true e.callNodes) ∧
    (∀ chain, e.chain = .ok chain →
      ∃ source calls, e.innermost.recognize = .ok (.source source) ∧
        List.Forall₂ ReadsAs e.callNodes calls ∧
        chain.steps = .source source :: calls.flatMap Call.steps ∧
        (chain.deferred = true ↔ calls.getLast? = some .defer) ∧
        (chain.beginsUpdate = true ↔ .beginUpdate ∈ calls) ∧
        chain.steps.length + calls.countP Call.isMarker = e.callNodes.length + 1) ∧
    ∀ err, e.chain = .error err →
      (∃ before node after, e.callNodes = before ++ node :: after ∧ WellPlaced true after ∧
        node.FailsWith after.isEmpty err) ∨
      WellPlaced true e.callNodes ∧ e.innermost.recognize = .error err := by
  refine ⟨⟨?_, ?_⟩, ?_, fun err failed => by simpa using unwind_eq_error failed⟩
  · rintro ⟨chain, unwound⟩
    obtain ⟨source, calls, start, _, placed, _, _⟩ := unwind_eq_ok unwound
    exact ⟨⟨source, start⟩, placed⟩
  · rintro ⟨⟨source, start⟩, placed⟩
    rcases outcome : e.chain with err | chain
    · rcases unwind_eq_error outcome with ⟨before, node, after, whole, _, fails⟩ | ⟨_, unread⟩
      · rw [whole] at placed
        exact absurd fails placed.not_failsWith
      · rw [start] at unread
        cases unread
    · exact ⟨chain, rfl⟩
  · intro chain unwound
    obtain ⟨source, calls, start, reads, _, last, rfl⟩ := unwind_eq_ok unwound
    have steps : (calls.foldr Call.onto { steps := [] }).steps = calls.flatMap Call.steps := by
      simp [Call.steps_foldr]
    refine ⟨source, calls, start, reads, congrArg (_ :: ·) steps, ?_, ?_, ?_⟩
    · rw [Call.deferred_foldr]
      constructor
      · rintro (deferred | impossible)
        · exact (last deferred).2
        · cases impossible
      · exact fun deferred => .inl (List.mem_of_getLast? deferred)
    · simp [Call.beginsUpdate_foldr]
    · have counted := Call.length_steps calls
      rw [steps, List.length_cons, reads.length_eq]
      omega

/-- The call that nobody knows is written before the misplaced `defer()`. -/
example : (((root.call "nope" []).call "defer" []).call "update" []).chain = .error .misplacedDefer := rfl

end Expr

end DocChain
