import DocChain.Proofs.Draft
import DocChain.Proofs.FieldAccess

/-!
# Targets

A target is an access chain of at least one segment, or a lambda over one that starts at its own parameter.
Resolution finds the binding and the path of exactly these and blames any other expression.
-/

namespace DocChain.Expr

/-- The expressions that denote a path on a binding. -/
inductive Denotes (name : String) (segments : List PathSegment) : Expr → Prop where
  | chain {e : Expr} (accesses : Accesses name e segments) : Denotes name segments e
  | lambda {body : Expr} (accesses : Accesses name body segments) : Denotes name segments (lambda name body)

variable {e : Expr} {name : String} {path : FieldPath}

theorem target_of_accesses (accesses : Accesses name e path.segments) : e.target = .ok (name, path) := by
  have plain : ∀ param body, e ≠ lambda param body := by
    rintro param body rfl
    cases accesses
  rw [target.eq_2 e plain, accessPath?_eq_some_iff.mpr accesses]

theorem denotes_of_target (resolves : e.target = .ok (name, path)) : Denotes name path.segments e := by
  unfold target at resolves
  split at resolves
  · split at resolves
    · cases resolves
    · rename_i found
      split at resolves
      · rename_i own
        cases resolves
        subst own
        exact .lambda (accessPath?_eq_some_iff.mp found)
      · cases resolves
  · split at resolves
    · cases resolves
    · rename_i found
      cases resolves
      exact .chain (accessPath?_eq_some_iff.mp found)

theorem resolve_eq_ok_iff : e.resolve = .ok (name, path) ↔ Denotes name path.segments e := by
  rw [resolve, mapError_eq_ok]
  constructor
  · exact denotes_of_target
  · intro denotes
    cases denotes with
    | chain accesses => exact target_of_accesses accesses
    | lambda accesses =>
      rw [target, accessPath?_eq_some_iff.mpr accesses]
      exact if_pos rfl

/-- The node that is to blame is the target, or the body of a lambda. -/
theorem target_error {node : Expr} (failed : e.target = .error node) : node = e ∨ ∃ param, e = lambda param node := by
  unfold target at failed
  split at failed
  · split at failed
    · cases failed
      exact .inr ⟨_, rfl⟩
    · split at failed
      · cases failed
      · cases failed
        exact .inl rfl
  · split at failed
    · cases failed
      exact .inl rfl
    · cases failed

theorem resolve_error {err : CompileError} (failed : e.resolve = .error err) :
    ∃ node, err = .unresolvablePath node ∧ (node = e ∨ ∃ param, e = lambda param node) := by
  unfold resolve at failed
  cases found : e.target with
  | ok target =>
    rw [found] at failed
    cases failed
  | error node =>
    rw [found] at failed
    cases failed
    exact ⟨node, rfl, target_error found⟩

theorem resolve_error_iff :
    (∃ node, e.resolve = .error (.unresolvablePath node) ∧ (node = e ∨ ∃ param, e = lambda param node)) ↔
      ∀ (name : String) (path : FieldPath), ¬ Denotes name path.segments e := by
  constructor
  · rintro ⟨node, failed, _⟩ name path denotes
    rw [resolve_eq_ok_iff.mpr denotes] at failed
    cases failed
  · intro other
    cases resolved : e.resolve with
    | ok found => exact absurd (resolve_eq_ok_iff.mp resolved) (other found.1 found.2)
    | error err =>
      obtain ⟨node, rfl, blamed⟩ := resolve_error resolved
      exact ⟨node, rfl, blamed⟩

/-- Resolution accepts the access chains and nothing else. A chain alone gives its binding and its segments, and as a
target a lambda over a chain on its own parameter does so too. Every other target is an error, and on a binding every
other expression has no path. -/
theorem resolve_accepts_chains (e : Expr) (name : String) (segments : List PathSegment) :
    ((∃ path, e.accessPath? = some (name, path) ∧ path.segments = segments) ↔
      segments ≠ [] ∧ Accesses name e segments) ∧
    ((∃ path, e.resolve = .ok (name, path) ∧ path.segments = segments) ↔
      segments ≠ [] ∧ (Accesses name e segments ∨ ∃ body, e = lambda name body ∧ Accesses name body segments)) ∧
    ((∃ path, e.pathOn? name = some path ∧ path.segments = segments) ↔
      segments ≠ [] ∧ Accesses name e segments) ∧
    ((∃ node, e.resolve = .error (.unresolvablePath node) ∧ (node = e ∨ ∃ param, e = lambda param node)) ↔
      ∀ (other : String) (path : FieldPath), ¬ Denotes other path.segments e) ∧
    (e.pathOn? name = none ↔ ∀ path : FieldPath, ¬ Accesses name e path.segments) := by
  have nonempty {P : FieldPath → Prop} {Q : List PathSegment → Prop} (same : ∀ path, P path ↔ Q path.segments) :
      (∃ path, P path ∧ path.segments = segments) ↔ segments ≠ [] ∧ Q segments := by
    constructor
    · rintro ⟨path, holds, rfl⟩
      exact ⟨path.nonempty, (same path).mp holds⟩
    · rintro ⟨some, holds⟩
      exact ⟨⟨segments, some⟩, (same _).mpr holds, rfl⟩
  have denotes : Denotes name segments e ↔
      Accesses name e segments ∨ ∃ body, e = lambda name body ∧ Accesses name body segments := by
    constructor
    · intro denotes
      cases denotes with
      | chain accesses => exact .inl accesses
      | lambda accesses => exact .inr ⟨_, rfl, accesses⟩
    · rintro (accesses | ⟨body, rfl, accesses⟩)
      · exact .chain accesses
      · exact .lambda accesses
  refine ⟨?_, ?_, ?_, resolve_error_iff, ?_⟩
  · exact nonempty fun path => accessPath?_eq_some_iff
  · rw [← denotes]
    exact nonempty (Q := fun segments => Denotes name segments e) fun path => resolve_eq_ok_iff
  · exact nonempty fun path => pathOn?_eq_some_iff
  · simp only [Option.eq_none_iff_forall_ne_some, ne_eq, pathOn?_eq_some_iff]

end DocChain.Expr
