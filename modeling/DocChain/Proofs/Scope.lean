import DocChain.Dispatch
import DocChain.Proofs.Meaning

/-!
# Requests stay in their scope

A session is a dispatch and any number of fetches of the view that it gives. What it asks of the
store is fixed by the catalog, the compiled chain and the fetches: the answers change nothing. Every
filter that is sent says what the bound scope, all that narrowed it and the compiled query say.
-/

namespace DocChain

/-! ### Reading filters -/

/-- A reading of documents in which `$and` joins documents. Of other entries nothing is known. -/
structure Reading (Row : Type) where
  entry : Row → String → Wire → Bool
  and_eq (row : Row) (members : List Document) :
    entry row "$and" (.array (members.map .object)) =
      members.all fun member => member.all fun e => entry row e.1 e.2

namespace Reading

variable {Row : Type} (reading : Reading Row) (row : Row)

/-- A document holds if all its entries do. -/
def holds (filter : Document) : Bool :=
  filter.all fun e => reading.entry row e.1 e.2

theorem holds_empty : reading.holds row [] = true := rfl

theorem holds_and (first second : Document) :
    reading.holds row [("$and", .array [.object first, .object second])] =
      (reading.holds row first && reading.holds row second) := by
  have joined := reading.and_eq row [first, second]
  simp only [List.map_cons, List.map_nil] at joined
  simp [holds, joined]

end Reading

/-- The reading of query documents is one of these. -/
def Interpretation.reading {Row Value : Type} (I : Interpretation Row Value) : Reading Row where
  entry := I.holdsEntry
  and_eq row members := by
    have documents (d : Document) : I.holds row d = d.all fun e => I.holdsEntry row e.1 e.2 := by
      induction d with
      | nil => simp
      | cons entry rest ih =>
        obtain ⟨key, value⟩ := entry
        simp [ih]
    rw [I.holdsEntry_and]
    induction members with
    | nil => simp [Interpretation.allHold]
    | cons member rest ih => simp [Interpretation.allHold, ih, documents member]

variable {κ : Type}

namespace Scope

theorem holds_narrow {Row : Type} (reading : Reading Row) (row : Row) (scope : Scope κ) (query : Document) :
    reading.holds row (scope.narrow query).query =
      (reading.holds row scope.query && reading.holds row query) := by
  unfold narrow
  dsimp only
  split
  · rename_i unfiltered
    rw [List.isEmpty_iff.mp unfiltered, reading.holds_empty, Bool.true_and]
  · split
    · rename_i unasked
      rw [List.isEmpty_iff.mp unasked, reading.holds_empty, Bool.and_true]
    · exact reading.holds_and row scope.query query

/-- A scope that was narrowed again and again holds what its filter and all the others hold. -/
theorem holds_narrowings {Row : Type} (reading : Reading Row) (row : Row) (narrowings : List Document)
    (base : Scope κ) :
    reading.holds row (narrowings.foldl narrow base).query =
      (reading.holds row base.query && narrowings.all (reading.holds row)) := by
  induction narrowings generalizing base with
  | nil => simp
  | cons filter rest ih => simp [ih, holds_narrow, Bool.and_assoc]

theorem collection_narrowings (narrowings : List Document) (base : Scope κ) :
    (narrowings.foldl narrow base).collection = base.collection := by
  induction narrowings generalizing base with
  | nil => rfl
  | cons filter rest ih => rw [List.foldl_cons, ih, collection_narrow]

end Scope

/-! ### Sessions -/

/-- The arguments of a fetch. -/
structure Fetch where
  options : FindOptions := {}
  projection : Option Document := none
  limit : Int64 := 0
  skip : Int64 := 0
  flags : QueryFlags := {}

/-- The find that a fetch sends for a filter. -/
def Fetch.find (f : Fetch) (filter : Document) : Find :=
  { query := f.options.wrap filter, projection := f.projection, limit := f.limit, skip := f.skip,
    flags := f.flags }

namespace FindOptions

/-- Only default options leave an envelope empty. -/
theorem isEmpty_iff (o : FindOptions) : o.isEmpty = true ↔ o = {} := by
  obtain ⟨orderBy, comment, hint, maxScan, min, max, snapshot⟩ := o
  constructor
  · intro empty
    simp only [isEmpty, entries, List.isEmpty_iff, List.append_eq_nil_iff, Option.toList_eq_nil_iff,
      Option.map_eq_none_iff] at empty
    obtain ⟨⟨⟨⟨⟨⟨rfl, rfl⟩, rfl⟩, rfl⟩, rfl⟩, rfl⟩, unset⟩ := empty
    cases snapshot
    · rfl
    · cases unset
  · intro same
    cases same
    rfl

theorem wrap_default (filter : Document) : wrap {} filter = filter := rfl

theorem get?_wrap {o : FindOptions} (set : o ≠ {}) (filter : Document) :
    Fields.get? (o.wrap filter) "$query" = some (.object filter) := by
  have nonempty : o.isEmpty = false := by
    cases empty : o.isEmpty
    · rfl
    · exact absurd (o.isEmpty_iff.mp empty) set
  simp [wrap, nonempty, Fields.get?]

end FindOptions

def Compiled.source? : Compiled → Option Source
  | query _ source | update _ _ source => source
  | deferred _ => none

variable {m : Type → Type} [Monad m]

def View.send (view : View κ) (store : Store κ m) (f : Fetch) : m (Except DispatchError Rows) :=
  view.fetchWith store f.options f.projection f.limit f.skip f.flags

/-- A dispatch and, if it gives a view, fetches of it. -/
def Catalog.session (catalog : Catalog κ) (store : Store κ m) (compiled : Compiled) (fetches : List Fetch) :
    m (Except DispatchError (Outcome κ) × List (Except DispatchError Rows)) := do
  match ← catalog.dispatch store compiled with
  | .ok (.view view) => return (.ok (.view view), ← fetches.mapM (view.send store))
  | outcome => return (outcome, [])

/-- What a session asks of the store. -/
def Catalog.requests (catalog : Catalog κ) (compiled : Compiled) (fetches : List Fetch) : List (Request κ) :=
  match catalog.bind compiled.source?, compiled with
  | .ok scope, .query query _ =>
    fetches.map fun f => .find scope.collection (f.find (scope.narrow query).query)
  | .ok scope, .update query update _ => [.update scope.collection (scope.narrow query).query update]
  | _, _ => []

section
variable [LawfulMonad m] (store : Store κ m) (log : List (Request κ))

theorem Store.run_find_logged (collection : κ) (request : Find) :
    (store.logged.find collection request).run log =
      (fun answer => (answer, log ++ [.find collection request])) <$> store.find collection request := by
  simp [Store.logged]

theorem Store.run_update_logged (collection : κ) (query update : Document) :
    (store.logged.update collection query update).run log =
      (fun answer => (answer, log ++ [.update collection query update])) <$>
        store.update collection query update := by
  simp [Store.logged]

theorem View.run_send_logged (view : View κ) (f : Fetch) :
    (view.send store.logged f).run log =
      (fun rows => (rows, log ++ [.find view.scope.collection (f.find view.scope.query)])) <$>
        view.send store f := by
  simp [send, fetchWith, Store.run_find_logged, Fetch.find]

theorem View.run_fetches_logged (view : View κ) (fetches : List Fetch) :
    (fetches.mapM (view.send store.logged)).run log =
      (fun rows => (rows, log ++ fetches.map fun f => .find view.scope.collection (f.find view.scope.query))) <$>
        fetches.mapM (view.send store) := by
  induction fetches generalizing log with
  | nil => simp
  | cons f rest ih => simp [List.mapM_cons, View.run_send_logged, ih]

/-- The answers of the store do not change what it is asked. -/
theorem Catalog.run_session_logged (catalog : Catalog κ) (compiled : Compiled) (fetches : List Fetch) :
    (catalog.session store.logged compiled fetches).run log =
      (fun result => (result, log ++ catalog.requests compiled fetches)) <$>
        catalog.session store compiled fetches := by
  cases compiled with
  | deferred documents => simp [session, dispatch, requests, Compiled.source?, bind]
  | query query source =>
    rcases bound : catalog.bind source with e | scope
    · simp [session, dispatch, requests, Compiled.source?, bound]
    · simp [session, dispatch, requests, Compiled.source?, bound, View.run_fetches_logged]
  | update query update source =>
    rcases bound : catalog.bind source with e | scope
    · simp [session, dispatch, requests, Compiled.source?, bound]
    · simp [session, dispatch, requests, Compiled.source?, bound, Store.run_update_logged]
      congr 1
      funext answer
      cases answer <;> simp

end

/-- The store is asked for the same, whatever it answers. Where the source is bound to a scope that was
narrowed, every filter it is sent holds of a row exactly when the base filter, all that narrowed it
and the compiled query do; where nothing is bound it is asked for nothing. -/
theorem filters_stay_in_scope [LawfulMonad m] (catalog : Catalog κ) (store : Store κ m)
    (compiled : Compiled) (fetches : List Fetch) :
    (∀ log, (catalog.session store.logged compiled fetches).run log =
      (fun result => (result, log ++ catalog.requests compiled fetches)) <$>
        catalog.session store compiled fetches) ∧
    (∀ (base : Scope κ) (narrowings : List Document),
      catalog.bind compiled.source? = .ok (narrowings.foldl .narrow base) →
      ∃ filter : Document,
        (∀ {Row : Type} (reading : Reading Row) (row : Row), reading.holds row filter =
          (reading.holds row base.query && narrowings.all (reading.holds row) &&
            reading.holds row compiled.documents.queryDocument)) ∧
        (∀ f ∈ fetches, (f.options = {} → (f.find filter).query = filter) ∧
          (f.options ≠ {} → Fields.get? (f.find filter).query "$query" = some (.object filter))) ∧
        catalog.requests compiled fetches = match compiled with
          | .query .. => fetches.map fun f => .find base.collection (f.find filter)
          | .update _ update _ => [.update base.collection filter update]
          | .deferred _ => []) ∧
    (∀ e, catalog.bind compiled.source? = .error e → catalog.requests compiled fetches = []) := by
  refine ⟨fun log => Catalog.run_session_logged store log catalog compiled fetches, ?_, ?_⟩
  · intro base narrowings bound
    let scope := (narrowings.foldl .narrow base).narrow compiled.documents.queryDocument
    refine ⟨scope.query, fun reading row => ?_, fun f _ => ⟨?_, fun set => ?_⟩, ?_⟩
    · rw [Scope.holds_narrow, Scope.holds_narrowings]
    · intro default
      rw [Fetch.find, default, FindOptions.wrap_default]
    · exact FindOptions.get?_wrap set scope.query
    · have collection := Scope.collection_narrowings narrowings base
      cases compiled with
      | query query source =>
        simp only [Catalog.requests, bound, collection]
        rfl
      | update query update source =>
        simp only [Catalog.requests, bound, collection]
        rfl
      | deferred documents => cases bound
  · intro e unbound
    simp only [Catalog.requests, unbound]

/-- The people of one tenant, narrowed to those that are open. -/
def tenant : Scope String :=
  [[("open", .bool true)]].foldl .narrow ⟨"people", [("tenant", .int 7)]⟩

/-- A chain that asks for the rows of another tenant. -/
def intruder : Compiled :=
  .update [("$or", .array [.single "tenant" (.int 8), .single "open" (.bool false)])]
    [("$set", .single "open" (.bool false))] (some .root)

theorem filters_stay_in_scope_intruder :
    ∃ filter : Document,
      (∀ {Row : Type} (reading : Reading Row) (row : Row), reading.holds row filter =
        (reading.holds row [("tenant", .int 7)] && [[("open", Wire.bool true)]].all (reading.holds row) &&
          reading.holds row intruder.documents.queryDocument)) ∧
      Catalog.requests { root := some tenant } intruder [] =
        [.update "people" filter [("$set", .single "open" (.bool false))]] := by
  let silent : Store String Id := { find := fun _ _ => .ok [], update := fun _ _ _ => .ok {} }
  obtain ⟨filter, meant, _, sent⟩ := (filters_stay_in_scope { root := some tenant } silent intruder []).2.1
    ⟨"people", [("tenant", .int 7)]⟩ [[("open", .bool true)]] rfl
  exact ⟨filter, meant, sent⟩

end DocChain
