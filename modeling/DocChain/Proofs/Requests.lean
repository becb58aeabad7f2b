import DocChain.Proofs.Scope

/-!
# What a dispatch asks of the store

A catalog binds a source to a scope, or there is a reason why it does not. A deferred chain and a source
without a scope ask for nothing, a bound update is one request, and a bound query is one request for each
fetch of its view. What the store answers comes back as it is.
-/

namespace DocChain

variable {κ : Type}

namespace Catalog

/-- Which scope a source stands for. -/
inductive Binds (catalog : Catalog κ) : Option Source → Scope κ → Prop where
  | root {scope : Scope κ} (bound : catalog.root = some scope) : Binds catalog (some .root) scope
  | named {name : String} {scope : Scope κ} (bound : catalog.named.get? name = some scope) :
      Binds catalog (some (.named name)) scope

/-- Why a source stands for no scope. -/
inductive Lacks (catalog : Catalog κ) : Option Source → BindingError → Prop where
  | noSource : Lacks catalog none .noSource
  | noRoot (unbound : catalog.root = none) : Lacks catalog (some .root) .noRoot
  | unknown {name : String} (unbound : catalog.named.get? name = none) :
      Lacks catalog (some (.named name)) (.unknownCollection name)
  | literal (items : List Wire) : Lacks catalog (some (.literal items)) .literalSource

variable {catalog : Catalog κ} {source : Option Source}

theorem Binds.bind_eq {scope : Scope κ} (bound : catalog.Binds source scope) : catalog.bind source = .ok scope := by
  cases bound with
  | root bound => simp [bind, resolve, bound]
  | named bound => simp [bind, resolve, bound]

theorem Lacks.bind_eq {e : BindingError} (lacks : catalog.Lacks source e) : catalog.bind source = .error e := by
  cases lacks with
  | noSource | literal => rfl
  | noRoot unbound => simp [bind, resolve, unbound]
  | unknown unbound => simp [bind, resolve, unbound]

theorem binds_or_lacks (catalog : Catalog κ) (source : Option Source) :
    (∃ scope, catalog.Binds source scope) ∨ ∃ e, catalog.Lacks source e := by
  rcases source with _ | _ | name | items
  · exact .inr ⟨_, .noSource⟩
  · cases bound : catalog.root with
    | none => exact .inr ⟨_, .noRoot bound⟩
    | some scope => exact .inl ⟨scope, .root bound⟩
  · cases bound : catalog.named.get? name with
    | none => exact .inr ⟨_, .unknown bound⟩
    | some scope => exact .inl ⟨scope, .named bound⟩
  · exact .inr ⟨_, .literal items⟩

end Catalog

variable {m : Type → Type} [Monad m]

/-- Fetches with arguments, or without. -/
def View.ask (view : View κ) (store : Store κ m) : Option Fetch → m (Except DispatchError Rows)
  | none => view.fetch store
  | some f => view.fetchWith store f.options f.projection f.limit f.skip f.flags

/-- The find that stands for a fetch under a filter. -/
def Document.find (filter : Document) : Option Fetch → Find
  | none => { query := filter }
  | some f =>
    { query := f.options.wrap filter, projection := f.projection, limit := f.limit, skip := f.skip,
      flags := f.flags }

section
variable (store : Store κ m) (log : List (Request κ))

theorem Catalog.run_dispatch_lacking {catalog : Catalog κ} {source : Option Source} {e : BindingError}
    (lacks : catalog.Lacks source e) (query update : Document) :
    (catalog.dispatch store.logged (.query query source)).run log = pure (.error (.binding e), log) ∧
      (catalog.dispatch store.logged (.update query update source)).run log = pure (.error (.binding e), log) := by
  constructor <;> simp [dispatch, lacks.bind_eq]

theorem Catalog.run_dispatch_query {catalog : Catalog κ} {source : Option Source} {scope : Scope κ}
    (bound : catalog.Binds source scope) (query : Document) :
    (catalog.dispatch store.logged (.query query source)).run log =
      pure (.ok (.view ⟨scope.narrow query⟩), log) := by
  simp [dispatch, bound.bind_eq]

end

section
variable [LawfulMonad m] (store : Store κ m) (log : List (Request κ))

theorem View.run_ask_logged (view : View κ) (f : Option Fetch) :
    (view.ask store.logged f).run log =
      (fun answer => (answer.mapError .store, log ++ [.find view.scope.collection (view.scope.query.find f)])) <$>
        store.find view.scope.collection (view.scope.query.find f) := by
  cases f with
  | none => simp [ask, fetch, fetchWith, Store.run_find_logged, Document.find, FindOptions.wrap_default]
  | some f => simp [ask, fetchWith, Store.run_find_logged, Document.find]

/-- A view that is fetched again and again sends its filter each time, and nothing else. -/
theorem View.run_asks_logged (view : View κ) (fetches : List (Option Fetch)) :
    (fetches.mapM (view.ask store.logged)).run log =
      (fun answers => (answers.map (·.mapError .store),
        log ++ fetches.map fun f => .find view.scope.collection (view.scope.query.find f))) <$>
        fetches.mapM fun f => store.find view.scope.collection (view.scope.query.find f) := by
  induction fetches generalizing log with
  | nil => simp
  | cons f rest ih => simp [List.mapM_cons, View.run_ask_logged, ih]

theorem Catalog.run_dispatch_update {catalog : Catalog κ} {source : Option Source} {scope : Scope κ}
    (bound : catalog.Binds source scope) (query update : Document) :
    (catalog.dispatch store.logged (.update query update source)).run log =
      (fun answer => ((answer.mapError .store).map .updated,
        log ++ [.update scope.collection (scope.narrow query).query update])) <$>
        store.update scope.collection (scope.narrow query).query update := by
  simp only [dispatch, bound.bind_eq, StateT.run_bind, Store.run_update_logged, Scope.collection_narrow,
    bind_map_left]
  rw [map_eq_pure_bind]
  congr 1
  funext answer
  cases answer <;> rfl

end

/-- What is asked of the store, and what comes of it. A deferred chain gives its documents. A source without a
scope fails for its reason. A query gives a view, and each fetch of the view is one find on the collection. An
update is one update of it. The filter that is sent is that of the scope, narrowed by the query. -/
theorem dispatch_asks [LawfulMonad m] (catalog : Catalog κ) (store : Store κ m) (log : List (Request κ)) :
    (∀ documents, (catalog.dispatch store.logged (.deferred documents)).run log =
      pure (.ok (.deferred documents), log)) ∧
    (∀ source, (∃ scope, catalog.Binds source scope) ∨ ∃ e, catalog.Lacks source e) ∧
    (∀ source e query update, catalog.Lacks source e →
      (catalog.dispatch store.logged (.query query source)).run log = pure (.error (.binding e), log) ∧
      (catalog.dispatch store.logged (.update query update source)).run log = pure (.error (.binding e), log)) ∧
    (∀ source scope query, catalog.Binds source scope →
      ∃ view, (catalog.dispatch store.logged (.query query source)).run log = pure (.ok (.view view), log) ∧
        ∀ (later : List (Request κ)) (fetches : List (Option Fetch)),
          (fetches.mapM (view.ask store.logged)).run later =
            (fun answers => (answers.map (·.mapError .store),
              later ++ fetches.map fun f => .find scope.collection ((scope.narrow query).query.find f))) <$>
              fetches.mapM fun f => store.find scope.collection ((scope.narrow query).query.find f)) ∧
    (∀ source scope query update, catalog.Binds source scope →
      (catalog.dispatch store.logged (.update query update source)).run log =
        (fun answer => ((answer.mapError .store).map .updated,
          log ++ [.update scope.collection (scope.narrow query).query update])) <$>
          store.update scope.collection (scope.narrow query).query update) := by
  refine ⟨fun documents => rfl, catalog.binds_or_lacks, ?_, ?_, ?_⟩
  · intro source e query update lacks
    exact Catalog.run_dispatch_lacking store log lacks query update
  · intro source scope query bound
    exact ⟨⟨scope.narrow query⟩, Catalog.run_dispatch_query store log bound query,
      fun later fetches => View.run_asks_logged store later ⟨scope.narrow query⟩ fetches⟩
  · intro source scope query update bound
    exact Catalog.run_dispatch_update store log bound query update

/-- A store that answers nothing. -/
def unreachable : Store String Id where
  find _ _ := .error (.transport "unreachable")
  update _ _ _ := .error (.transport "unreachable")

/-- The open orders of one tenant, and no collection by name. -/
def openOrders : Catalog String where
  root := some ⟨"orders", [("tenant", .int 7)]⟩

theorem dispatch_asks_unreachable :
    let filter : Document := [("$and", .array [.single "tenant" (.int 7), .single "open" (.bool true)])]
    let query : Document := [("open", .bool true)]
    let shipped : Document := [("$set", .single "shipped" (.bool true))]
    let failed : DispatchError := .store (.transport "unreachable")
    (openOrders.dispatch unreachable.logged (.update query shipped (some .root))).run [] =
        (.error failed, [.update "orders" filter shipped]) ∧
      (openOrders.dispatch unreachable.logged (.update query shipped (some (.named "people")))).run [] =
        (.error (.binding (.unknownCollection "people")), []) ∧
      ∃ view, (openOrders.dispatch unreachable.logged (.query query (some .root))).run [] = (.ok (.view view), []) ∧
        ([none, some { limit := 5 }].mapM (view.ask unreachable.logged)).run [] =
          ([.error failed, .error failed],
            [.find "orders" { query := filter }, .find "orders" { query := filter, limit := 5 }]) := by
  intro filter query shipped failed
  obtain ⟨_, _, lacking, fetched, updated⟩ := dispatch_asks openOrders unreachable []
  have root : openOrders.Binds (some .root) ⟨"orders", [("tenant", .int 7)]⟩ := .root rfl
  refine ⟨updated _ _ query shipped root, (lacking _ _ query shipped (.unknown rfl)).2, ?_⟩
  obtain ⟨view, viewed, sent⟩ := fetched _ _ query root
  exact ⟨view, viewed, sent [] [none, some { limit := 5 }]⟩

end DocChain
